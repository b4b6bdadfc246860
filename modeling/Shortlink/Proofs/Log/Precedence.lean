import Shortlink.Log.Logger
import Shortlink.Proofs.Log.Boundaries
import Shortlink.Proofs.Log.Directives

/-!
# Where filters come from

Directives in the environment come before those in the settings of a logger as long as they can
be read.  If they are refused, the filter is the one that there would be without them, so the
settings decide although there is something in the environment.
-/

namespace Shortlink.Log

/-! ## What can become of a text -/

/-- A part of a text would begin or end within a character if it were read as directives. -/
def Breaks (text : String) : Prop :=
  ∃ fault, readDirectives text = .error (.broken fault)

/-- A text is a list of directives, or it breaks, or it is refused. -/
theorem isDirectiveList_or_breaks_or_refused (text : String) :
    (∃ directives, IsDirectiveList text directives) ∨ Breaks text ∨
      ∃ error, readDirectives text = .error (.refused error) := by
  cases read : readDirectives text with
  | ok directives => exact .inl ⟨directives, readDirectives_eq_ok_iff.mp read⟩
  | error failure =>
      cases failure with
      | refused error => exact .inr (.inr ⟨error, rfl⟩)
      | broken fault => exact .inr (.inl ⟨fault, read⟩)

/-- Only a text with a blank at the start of a piece breaks. -/
theorem Breaks.exists_blank {text : String} (breaks : Breaks text) :
    ∃ piece ∈ Text.split ',' text.toList, ∃ first ∈ piece.head?, Text.isBlank first := by
  obtain ⟨fault, broken⟩ := breaks
  by_contra filled
  push Not at filled
  have yields := yields_readDirectives filled
  rw [broken] at yields
  exact yields

theorem Filter.parse_of_error {text : String} {failure : DirectiveFailure}
    (failed : readDirectives text = .error failure) : Filter.parse text = .error failure := by
  rw [Filter.parse, failed]
  rfl

namespace Settings

/-- Settings with other directives. -/
def withLevel (settings : Settings) (level : String) : Settings :=
  { settings with level }

variable {settings : Settings} {environment : String}

/-! ## Without directives in the environment -/

theorem filter_none_of_isDirectiveList {directives : List Directive}
    (written : IsDirectiveList settings.level directives) :
    settings.filter none = .ok (.ofDirectives directives) := by
  have read := Filter.parse_eq_ok_iff.mpr ⟨directives, written, rfl⟩
  change settings.ownFilter = _
  rw [ownFilter, read]

theorem filter_none_of_broken {fault : Text.CutFault}
    (broken : readDirectives settings.level = .error (.broken fault)) :
    settings.filter none = .error (.broken fault) := by
  change settings.ownFilter = _
  rw [ownFilter, Filter.parse_of_error broken]

theorem filter_none_of_refused {error : DirectiveError}
    (refused : readDirectives settings.level = .error (.refused error)) :
    settings.filter none = .error (.invalidFilter settings.level error) := by
  change settings.ownFilter = _
  rw [ownFilter, Filter.parse_of_error refused]

/-- The filter is that of the directives in the settings. -/
theorem filter_none_eq_ok_iff {filter : Filter} :
    settings.filter none = .ok filter ↔
      ∃ directives, IsDirectiveList settings.level directives ∧
        Filter.ofDirectives directives = filter := by
  constructor
  · intro made
    rcases isDirectiveList_or_breaks_or_refused settings.level with
      ⟨directives, written⟩ | ⟨fault, broken⟩ | ⟨error, refused⟩
    · rw [filter_none_of_isDirectiveList written] at made
      exact ⟨directives, written, Except.ok.inj made⟩
    · rw [filter_none_of_broken broken] at made
      contradiction
    · rw [filter_none_of_refused refused] at made
      contradiction
  · rintro ⟨directives, written, rfl⟩
    exact filter_none_of_isDirectiveList written

/-! ## With directives in the environment -/

theorem filter_of_isDirectiveList {directives : List Directive}
    (written : IsDirectiveList environment directives) :
    settings.filter (some environment) = .ok (.ofDirectives directives) := by
  have read := Filter.parse_eq_ok_iff.mpr ⟨directives, written, rfl⟩
  rw [Settings.filter, Option.map_some, read]

theorem filter_of_broken {fault : Text.CutFault}
    (broken : readDirectives environment = .error (.broken fault)) :
    settings.filter (some environment) = .error (.broken fault) := by
  rw [Settings.filter, Option.map_some, Filter.parse_of_error broken]

/-- Directives that are refused are as good as none. -/
theorem filter_of_refused {error : DirectiveError}
    (refused : readDirectives environment = .error (.refused error)) :
    settings.filter (some environment) = settings.filter none := by
  rw [Settings.filter, Option.map_some, Filter.parse_of_error refused]
  rfl

/-! ## The law of precedence -/

/-- The outcome is the same whatever the directives of the settings are. -/
def IsIndependent (settings : Settings) (environment? : Option String) : Prop :=
  ∀ level other, (settings.withLevel level).filter environment? =
    (settings.withLevel other).filter environment?

/-- Without directives in the environment, those in the settings make a difference. -/
theorem not_isIndependent_none (settings : Settings) : ¬settings.IsIndependent none := by
  intro same
  have info : readDirectives "info" = .ok [{ threshold := .upTo .info }] := by
    rfl
  have debug : readDirectives "debug" = .ok [{ threshold := .upTo .debug }] := by
    rfl
  have informed : (settings.withLevel "info").filter none = _ :=
    filter_none_of_isDirectiveList (readDirectives_eq_ok_iff.mp info)
  have debugged : (settings.withLevel "debug").filter none = _ :=
    filter_none_of_isDirectiveList (readDirectives_eq_ok_iff.mp debug)
  have alike := same "info" "debug"
  rw [informed, debugged] at alike
  have limits := congrArg Filter.plainMaximum (Except.ok.inj alike)
  contradiction

/-- The settings make a difference exactly if the directives in the environment can neither be
read nor break. -/
theorem isIndependent_iff (settings : Settings) (environment? : Option String) :
    settings.IsIndependent environment? ↔
      ∃ environment, environment? = some environment ∧
        ((∃ directives, IsDirectiveList environment directives) ∨ Breaks environment) := by
  constructor
  · intro same
    cases environment? with
    | none => exact absurd same settings.not_isIndependent_none
    | some environment =>
        refine ⟨environment, rfl, ?_⟩
        rcases isDirectiveList_or_breaks_or_refused environment with
          written | breaks | ⟨error, refused⟩
        · exact .inl written
        · exact .inr breaks
        · refine absurd (fun level other => ?_) settings.not_isIndependent_none
          rw [← filter_of_refused refused, ← filter_of_refused refused]
          exact same level other
  · rintro ⟨environment, rfl, ⟨directives, written⟩ | ⟨fault, broken⟩⟩ level other
    · rw [filter_of_isDirectiveList written, filter_of_isDirectiveList written]
    · rw [filter_of_broken broken, filter_of_broken broken]

/-- Directives in the environment decide alone as long as they can be read, and then only: if
they are refused, the outcome is the one that there would be without them.  Without any, there is
a filter exactly if the settings have a list of directives, and otherwise the failure names what
they have, unless it breaks. -/
theorem filter_by_precedence (settings : Settings) :
    (∀ environment directives, IsDirectiveList environment directives →
        settings.filter (some environment) = .ok (.ofDirectives directives)) ∧
      (∀ environment?, settings.IsIndependent environment? ↔
        ∃ environment, environment? = some environment ∧
          ((∃ directives, IsDirectiveList environment directives) ∨ Breaks environment)) ∧
      (∀ environment, (¬∃ directives, IsDirectiveList environment directives) →
        ¬Breaks environment → settings.filter (some environment) = settings.filter none) ∧
      (∀ filter, settings.filter none = .ok filter ↔
        ∃ directives, IsDirectiveList settings.level directives ∧
          Filter.ofDirectives directives = filter) ∧
      ((¬∃ directives, IsDirectiveList settings.level directives) → ¬Breaks settings.level →
        ∃ error, settings.filter none = .error (.invalidFilter settings.level error)) ∧
      ∀ text, Breaks text →
        ∃ piece ∈ Text.split ',' text.toList, ∃ first ∈ piece.head?, Text.isBlank first := by
  have refused {text : String} (unread : ¬∃ directives, IsDirectiveList text directives)
      (whole : ¬Breaks text) : ∃ error, readDirectives text = .error (.refused error) :=
    ((isDirectiveList_or_breaks_or_refused text).resolve_left unread).resolve_left whole
  refine ⟨fun _ _ => filter_of_isDirectiveList, settings.isIndependent_iff, ?_,
    fun _ => filter_none_eq_ok_iff, ?_, fun _ => Breaks.exists_blank⟩
  · intro environment unread whole
    obtain ⟨error, refused⟩ := refused unread whole
    exact filter_of_refused refused
  · intro unread whole
    obtain ⟨error, refused⟩ := refused unread whole
    exact ⟨error, filter_none_of_refused refused⟩

/-- Directives that can be read, some that are refused and some that break. -/
theorem filter_by_precedence_of_portal :
    let settings : Settings := { level := "info,portal=notalevel" }
    let portal : Directive := { target? := some "portal", threshold := .upTo .debug }
    IsDirectiveList "portal=debug" [portal] ∧
      settings.filter (some "portal=debug") = .ok (.ofDirectives [portal]) ∧
      settings.IsIndependent (some "portal=debug") ∧
      ¬Breaks "portal=bad" ∧ settings.filter (some "portal=bad") = settings.filter none ∧
      (∃ error, settings.filter none = .error (.invalidFilter "info,portal=notalevel" error)) ∧
      Breaks "\u00a0[\x7b" ∧
      ∃ piece ∈ Text.split ',' "\u00a0[\x7b".toList, ∃ first ∈ piece.head?,
        Text.isBlank first := by
  intro settings portal
  have read : readDirectives "portal=debug" = .ok [portal] := by
    rfl
  have refused : readDirectives "portal=bad" = .error (.refused .threshold) := by
    rfl
  have invalid : readDirectives "info,portal=notalevel" = .error (.refused .threshold) := by
    rfl
  have broken : readDirectives "\u00a0[\x7b" =
      .error (.broken { edge := .start, place := 1, character := '\u00a0', first := 0 }) := by
    rfl
  have written := readDirectives_eq_ok_iff.mp read
  have unread {text : String} (no : readDirectives text = .error (.refused .threshold)) :
      (¬∃ directives, IsDirectiveList text directives) ∧ ¬Breaks text := by
    constructor
    · rintro ⟨directives, yes⟩
      rw [readDirectives_eq_ok_iff.mpr yes] at no
      contradiction
    · rintro ⟨fault, yes⟩
      rw [yes] at no
      cases no
  obtain ⟨decides, independent, asNone, -, named, blank⟩ := filter_by_precedence settings
  exact ⟨written, decides _ _ written, (independent _).mpr ⟨_, rfl, .inl ⟨_, written⟩⟩,
    (unread refused).2, asNone _ (unread refused).1 (unread refused).2,
    named (unread invalid).1 (unread invalid).2, ⟨_, broken⟩, blank _ ⟨_, broken⟩⟩

/-- With directives in the environment, those of the settings still make a difference. -/
theorem not_forall_isIndependent :
    ¬∀ (settings : Settings) (environment : String), settings.IsIndependent (some environment) := by
  intro same
  have refused : readDirectives "portal=bad" = .error (.refused .threshold) := by
    rfl
  refine absurd (fun level other => ?_) (not_isIndependent_none {})
  rw [← filter_of_refused refused, ← filter_of_refused refused]
  exact same {} "portal=bad" level other

end Settings

end Shortlink.Log
