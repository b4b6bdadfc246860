import Mathlib.Data.List.Forall2
import Shortlink.Proofs.Log.Lines
import Shortlink.Proofs.Session.Causes

/-!
# The output of a session

What a logger puts out while the steps of a session are taken.  As documents it is one line
for each entry that the filter lets through, whatever the steps ask for.  As text it has lines
besides these exactly where a text that is shown as it is has ends of lines of its own.
-/

namespace Shortlink.Session

open Gateway
open Json (IsDocumentOf)
open Log (Logger Moment)

/-- Whatever is done with any stores, and whatever a logger lets through: each entry names the
URLs, keys and codes that its step asks for, or that the store has under them.  As documents,
the output has one line for each entry that is let through, and this line is one document that
tells all that the entry has to tell, and nothing else.  As text, it has one line for each of
these entries, and one more for each end of a line in a text that is shown as it is. -/
theorem transcript_tells_of_steps (logger : Logger) (clock : Nat → Moment) (timeout : Nat)
    (stores : Stores MemoryStore) (steps : List (Nat × Step)) :
    let entries := (run timeout stores steps).flatMap Prod.snd
    let timed := entries.mapIdx fun place entry => (clock place, entry)
    let enabled := logger.enabled timed
    let lines := Text.lines (logger.transcript timed)
    ((notices timeout stores steps).map Notice.entry = entries ∧
      ∀ notice ∈ notices timeout stores steps,
        notice.step.ExplainsEntry notice.after notice.entry) ∧
    match logger.format with
    | .json =>
        List.Forall₂ (fun written line => ∀ data, IsDocumentOf (Utf8.ofString line) data ↔
          data = (logger.shown written.2).data written.1) enabled lines
    | .text =>
        lines.length = enabled.length + Text.breaks (String.join (enabled.flatMap fun written =>
          (logger.shown written.2).rawTexts written.1)) := by
  intro entries timed enabled lines
  refine ⟨⟨entries_notices timeout stores steps, fun notice => explains_of_mem_notices⟩, ?_⟩
  split
  · rename_i json
    obtain ⟨found, isDocument⟩ := Logger.lines_transcript_json json timed
    change List.Forall₂ _ enabled (Text.lines (logger.transcript timed))
    rw [found]
    exact List.forall₂_map_right_iff.mpr
      (List.forall₂_same.mpr fun written _ => isDocument written.1 written.2)
  · rename_i text
    exact Logger.length_lines_transcript_text text timed

/-- A client that asks for a key with an end of a line in it makes one entry take up two lines of
text. -/
theorem two_lines_for_one_entry :
    let filter : Log.Filter :=
      { plain := [{ target? := none, field? := none, threshold := .upTo .warn }]
        spanned := []
        plainMaximum := .upTo .warn
        spannedMaximum := .off }
    let logger : Logger := { filter, format := .text, colours := false }
    let request : Http.Request := { target := { path := "/go/a%0Ab" } }
    let timed := ((run 15000 (fun _ => MemoryStore.empty)
      [(0, .request .gateway (.ok request))]).flatMap Prod.snd).mapIdx fun _ entry =>
        (({ time := "", elapsed := "" } : Moment), entry)
    Log.Filter.parse "warn" = .ok filter ∧
      Http.Request.make "GET" (Utf8.ofString "/go/a%0Ab") [] [] = .ok request ∧
      (logger.enabled timed).length = 1 ∧ (Text.lines (logger.transcript timed)).length = 2 := by
  intro filter logger request timed
  have decoded : Http.percentDecodeText? "a%0Ab" = some "a\nb" := by decide +kernel
  have missing : MemoryStore.empty.resolve "a\nb" = .error (.notFound "a\nb") := by
    simp [MemoryStore.resolve, MemoryStore.empty]
  have handled : (gatewaySite : Site MemoryStore).dispatch request =
      .handled { verb := .get, handle := redirect "a%0Ab" } := by
    have cut : pieces "/go/a%0Ab" = ["", "go", "a%0Ab"] := rfl
    simp [Site.dispatch, request, cut, gatewaySite, Verb.isAskedBy]
  have entries : (run 15000 (fun _ => MemoryStore.empty)
      [(0, .request .gateway (.ok request))]).flatMap Prod.snd =
      Log.during (spanOf request) [.requestStarted, .resolving "a\nb", .keyNotFound "a\nb",
        .requestFinished 404, .bodySent] := by
    simp only [run, Step.run, Host.site, serve, handled, Dispatch.work, redirect, decoded,
      redirectKey, KeyStore.resolve, missing]
    rfl
  have enabled : logger.enabled timed =
      [({ time := "", elapsed := "" },
        { span? := some (spanOf request), event := .keyNotFound "a\nb" })] := by
    simp only [timed, entries]
    rfl
  have target : (Http.Target.parse (Utf8.ofString "/go/a%0Ab")).toOption =
      some { path := "/go/a%0Ab" } := by decide +kernel
  have accepted : Http.Request.make "GET" (Utf8.ofString "/go/a%0Ab") [] [] = .ok request := by
    cases parsed : Http.Target.parse (Utf8.ofString "/go/a%0Ab") with
    | error failure =>
        rw [parsed] at target
        cases target
    | ok found =>
        rw [parsed] at target
        obtain rfl := Option.some.inj target
        rw [Http.Request.make, parsed]
        rfl
  refine ⟨rfl, accepted, congrArg List.length enabled, ?_⟩
  rw [Logger.length_lines_transcript_text rfl, enabled]
  decide

end Shortlink.Session
