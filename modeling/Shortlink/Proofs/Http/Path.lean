import Mathlib.Data.List.TakeWhile
import Shortlink.Gateway.Site
import Shortlink.Proofs.Http.PercentEncoding
import Shortlink.Proofs.ShortCode
import Shortlink.Proofs.Text.Splitting

/-!
# Paths that lead to keys

A path is put together again from its pieces, so that it leads to a key exactly if one
segment follows `/go/`.  A short code stands in a path as it is: it has no slash at which
the path would be cut, and no percent sign that would have to be decoded.
-/

namespace Shortlink

namespace Http

/-- Bytes without a percent sign stand for themselves. -/
theorem percentSpells_self {bytes : List UInt8} (absent : 0x25 ∉ bytes) :
    PercentSpells bytes bytes := by
  induction bytes with
  | nil => exact .nil
  | cons byte rest ih =>
      rw [List.mem_cons, not_or] at absent
      exact .plain (not_startsEscape (Ne.symm absent.1) rest) (ih absent.2)

theorem percentDecodeText?_code (code : ShortCode) :
    percentDecodeText? code.text = some code.text := by
  have absent : 0x25 ∉ Utf8.ofString code.text := by
    intro member
    have digit := code.isDigit_of_mem member
    contradiction
  exact percentDecodeText?_eq_some_iff.mpr (percentSpells_self absent)

theorem Target.path_of_ofPath {bytes : List UInt8} {target : Target}
    (noEnd : ∀ byte ∈ bytes, byte ≠ 0x3F ∧ byte ≠ 0x23) (read : Target.ofPath bytes = .ok target) :
    Utf8.ofString target.path = bytes := by
  have inside : ∀ byte ∈ bytes, (!(byte == 0x3F || byte == 0x23)) = true := by
    intro byte member
    simp [noEnd byte member]
  unfold ofPath at read
  simp only [List.takeWhile_eq_self_iff.mpr inside, List.dropWhile_eq_nil_iff.mpr inside] at read
  split at read
  · split at read
    · rename_i path query decoded _
      obtain rfl := Except.ok.inj read
      exact (Utf8.toString?_eq_some_iff.mp decoded).symm
    · contradiction
  · contradiction

/-- A target that starts with a slash and has neither a query nor a fragment is its path. -/
theorem Target.path_of_parse {bytes : List UInt8} {target : Target}
    (noEnd : ∀ byte ∈ bytes, byte ≠ 0x3F ∧ byte ≠ 0x23)
    (parsed : Target.parse (0x2F :: bytes) = .ok target) :
    Utf8.ofString target.path = 0x2F :: bytes := by
  unfold parse at parsed
  split at parsed
  · contradiction
  · cases bytes with
    | nil =>
        obtain rfl := Except.ok.inj parsed
        rfl
    | cons first rest =>
        have noneEnds : ∀ byte ∈ 0x2F :: first :: rest, byte ≠ 0x3F ∧ byte ≠ 0x23 :=
          List.forall_mem_cons.mpr ⟨by decide, noEnd⟩
        exact path_of_ofPath noneEnds parsed

theorem Target.exists_segment_of_parse {bytes : List UInt8} {target : Target}
    (noEnd : ∀ byte ∈ bytes, byte ≠ 0x3F ∧ byte ≠ 0x23)
    (parsed : Target.parse (Utf8.ofString "/go/" ++ bytes) = .ok target) :
    ∃ segment, target.path = "/go/" ++ segment ∧ bytes = Utf8.ofString segment := by
  refine Utf8.exists_append_of_ofString_eq (path_of_parse ?_ parsed)
  intro byte member
  rcases List.mem_append.mp member with inFront | inside
  · have each : [0x67, 0x6F, 0x2F].all (fun byte : UInt8 => byte ≠ 0x3F ∧ byte ≠ 0x23) = true := by
      decide
    exact of_decide_eq_true (List.all_eq_true.mp each byte inFront)
  · exact noEnd byte inside

end Http

namespace Gateway

theorem pieces_shorten : pieces "/shorten" = ["", "shorten"] :=
  rfl

/-- A path has no other pieces than those that it is put together from. -/
theorem path_eq_of_pieces {path : String} {found : List String} (cut : pieces path = found) :
    path.toList = ['/'].intercalate (found.map String.toList) := by
  rw [← cut, pieces, List.map_map]
  have same : (String.toList ∘ String.ofList) = (id : List Char → List Char) :=
    funext fun _ => String.toList_ofList
  rw [same, List.map_id, Text.intercalate_split]

theorem path_eq_shorten {path : String} (cut : pieces path = ["", "shorten"]) :
    path = "/shorten" :=
  String.toList_inj.mp (path_eq_of_pieces cut)

/-- Exactly the paths of one segment after `/go/` have a piece for a key. -/
theorem pieces_eq_go_iff {path segment : String} :
    pieces path = ["", "go", segment] ↔ path = "/go/" ++ segment ∧ '/' ∉ segment.toList := by
  constructor
  · intro cut
    constructor
    · exact String.toList_inj.mp ((path_eq_of_pieces cut).trans (by simp [List.intercalate]))
    · have member : segment ∈ pieces path := cut ▸ by simp
      obtain ⟨piece, inside, rfl⟩ := List.mem_map.mp member
      rw [String.toList_ofList]
      exact Text.not_mem_of_mem_split inside
  · rintro ⟨rfl, absent⟩
    have whole : ("/go/" ++ segment).toList = '/' :: 'g' :: 'o' :: '/' :: segment.toList := by
      rw [String.toList_append]
      rfl
    rw [pieces, whole]
    simp [Text.split, Text.split_of_not_mem absent]

end Gateway

end Shortlink
