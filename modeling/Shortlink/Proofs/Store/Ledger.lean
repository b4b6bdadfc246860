import Shortlink.Proofs.Base62.Codec
import Shortlink.Store.Call

/-!
# The ledger

A ledger is a list of distinct URLs in the order in which they were first
shortened.  It says all that a store has to know: the code of a URL is the
numeral of its place in the list, counted from one.  Calls are answered from the
list alone.
-/

namespace Shortlink

/-- Distinct URLs in the order in which they were first shortened. -/
abbrev Ledger := List String

namespace Ledger

open Call (Answer)

/-- The code of the URL behind `index` others. -/
def codeAt (index : Nat) : ShortCode :=
  ShortCode.ofNumber (UInt64.ofNat (index + 1))

/-- Adds a URL at the end unless it is there already. -/
def note (ledger : Ledger) (url : String) : Ledger :=
  if url ∈ ledger then ledger else ledger ++ [url]

/-- The URL whose code is spelled by a key. -/
def find? (ledger : Ledger) (key : String) : Option String :=
  (ledger.zipIdx.find? fun (_, index) => (codeAt index).text = key).map Prod.fst

/-- The URL under a key, or why there is none. -/
def resolve (ledger : Ledger) (key : String) : Except KeyError String :=
  match ledger.find? key with
  | some url => .ok url
  | none => .error (.notFound key)

def answer (ledger : Ledger) : Call → Answer
  | .shorten url => .code (codeAt ((ledger.note url).idxOf url))
  | .resolve key => .url (ledger.resolve key)
  | .contains key => .truth (ledger.find? key).isSome
  | .allocated => .count (UInt64.ofNat ledger.length)

/-- The ledger after a call. -/
def after (ledger : Ledger) : Call → Ledger
  | .shorten url => ledger.note url
  | .resolve _ | .contains _ | .allocated => ledger

/-- What calls answer that are made one after the other. -/
def answers (ledger : Ledger) : List Call → List Answer
  | [] => []
  | call :: calls => ledger.answer call :: answers (ledger.after call) calls

/-- The ledger after calls that are made one after the other. -/
def afterAll (ledger : Ledger) (calls : List Call) : Ledger :=
  calls.foldl after ledger

/-- A URL has its place in the ledger, and a key spells the code of this place. -/
def Assigns (ledger : Ledger) (url key : String) : Prop :=
  ∃ index, ledger[index]? = some url ∧ (codeAt index).text = key

/-! ## Codes and places -/

/-- Different places have different codes as long as they can be counted. -/
theorem eq_of_text_codeAt_eq {first second : Nat} (firstFits : first + 1 < UInt64.size)
    (secondFits : second + 1 < UInt64.size)
    (same : (codeAt first).text = (codeAt second).text) : first = second := by
  have numbers := congrArg UInt64.toNat (Base62.encode_injective same)
  rw [UInt64.toNat_ofNat_of_lt' firstFits, UInt64.toNat_ofNat_of_lt' secondFits] at numbers
  exact Nat.succ.inj numbers

theorem lt_length_of_getElem? {ledger : Ledger} {index : Nat} {url : String}
    (found : ledger[index]? = some url) : index < ledger.length :=
  (List.getElem?_eq_some_iff.mp found).1

theorem Assigns.mem {ledger : Ledger} {url key : String} (assigned : ledger.Assigns url key) :
    url ∈ ledger := by
  obtain ⟨index, found, -⟩ := assigned
  exact List.mem_of_getElem? found

theorem exists_assigns_of_mem {ledger : Ledger} {url : String} (member : url ∈ ledger) :
    ∃ code : ShortCode, ledger.Assigns url code.text := by
  obtain ⟨index, found⟩ := List.getElem?_of_mem member
  exact ⟨codeAt index, index, found, rfl⟩

/-- What has been assigned stays assigned as the ledger grows. -/
theorem Assigns.mono {ledger longer : Ledger} {url key : String}
    (assigned : ledger.Assigns url key) (grown : ledger <+: longer) :
    longer.Assigns url key := by
  obtain ⟨index, found, spelled⟩ := assigned
  obtain ⟨more, rfl⟩ := grown
  refine ⟨index, ?_, spelled⟩
  rw [List.getElem?_append_left (lt_length_of_getElem? found), found]

/-- A key belongs to one URL only. -/
theorem Assigns.url_unique {ledger : Ledger} (bounded : ledger.length < UInt64.size)
    {first second key : String} (firstAssigned : ledger.Assigns first key)
    (secondAssigned : ledger.Assigns second key) : first = second := by
  obtain ⟨index, found, spelled⟩ := firstAssigned
  obtain ⟨other, otherFound, otherSpelled⟩ := secondAssigned
  have inRange := lt_length_of_getElem? found
  have otherInRange := lt_length_of_getElem? otherFound
  have same : index = other :=
    eq_of_text_codeAt_eq (by omega) (by omega) (spelled.trans otherSpelled.symm)
  rw [same, otherFound, Option.some.injEq] at found
  exact found.symm

/-- A URL has one key only. -/
theorem Assigns.key_unique {ledger : Ledger} (distinct : ledger.Nodup) {url first second : String}
    (firstAssigned : ledger.Assigns url first) (secondAssigned : ledger.Assigns url second) :
    first = second := by
  obtain ⟨index, found, rfl⟩ := firstAssigned
  obtain ⟨other, otherFound, rfl⟩ := secondAssigned
  have same : index = other :=
    (List.getElem?_inj (lt_length_of_getElem? found) distinct).mp (found.trans otherFound.symm)
  rw [same]

theorem not_assigns_nil {url key : String} : ¬Assigns [] url key := by
  rintro ⟨index, found, -⟩
  contradiction

theorem getElem?_concat_eq_some_iff {ledger : Ledger} {last url : String} {index : Nat} :
    (ledger ++ [last])[index]? = some url ↔
      ledger[index]? = some url ∨ index = ledger.length ∧ last = url := by
  by_cases inRange : index < ledger.length
  · rw [List.getElem?_append_left inRange]
    simp [Nat.ne_of_lt inRange]
  · have absent : ledger[index]? = none := List.getElem?_eq_none (Nat.le_of_not_lt inRange)
    rw [List.getElem?_append_right (Nat.le_of_not_lt inRange), absent,
      List.getElem?_singleton]
    simp only [reduceCtorEq, false_or]
    split <;> grind

/-- A URL at the end gets the next code, and the others keep theirs. -/
theorem assigns_concat_iff {ledger : Ledger} {last url key : String} :
    Assigns (ledger ++ [last]) url key ↔
      ledger.Assigns url key ∨ url = last ∧ key = (codeAt ledger.length).text := by
  constructor
  · rintro ⟨index, found, rfl⟩
    rcases getElem?_concat_eq_some_iff.mp found with old | ⟨rfl, rfl⟩
    · exact .inl ⟨index, old, rfl⟩
    · exact .inr ⟨rfl, rfl⟩
  · rintro (assigned | ⟨rfl, rfl⟩)
    · exact assigned.mono (List.prefix_append ledger [last])
    · exact ⟨ledger.length, List.getElem?_concat_length, rfl⟩

/-- The next code has not been assigned yet. -/
theorem not_assigns_codeAt_length {ledger : Ledger} (room : ledger.length + 1 < UInt64.size)
    {url : String} : ¬ledger.Assigns url (codeAt ledger.length).text := by
  rintro ⟨index, found, spelled⟩
  have inRange := lt_length_of_getElem? found
  have same := eq_of_text_codeAt_eq (by omega) room spelled
  omega

/-- The numerals from one up to the length of the ledger are assigned. -/
theorem exists_assigns_encode {ledger : Ledger} {number : UInt64} (positive : 1 ≤ number)
    (atMost : number.toNat ≤ ledger.length) :
    ∃ url, ledger.Assigns url (Base62.encode number) := by
  have atLeast : 1 ≤ number.toNat := UInt64.le_iff_toNat_le.mp positive
  have inRange : number.toNat - 1 < ledger.length := by omega
  refine ⟨ledger[number.toNat - 1], number.toNat - 1, List.getElem?_eq_getElem inRange, ?_⟩
  rw [codeAt, Nat.sub_add_cancel atLeast, UInt64.ofNat_toNat]
  rfl

/-! ## Looking up -/

/-- Looking up finds what is assigned. -/
theorem find?_eq_some_iff {ledger : Ledger} (bounded : ledger.length < UInt64.size)
    {url key : String} : ledger.find? key = some url ↔ ledger.Assigns url key := by
  have sound {found : String} (looked : ledger.find? key = some found) :
      ledger.Assigns found key := by
    obtain ⟨⟨entry, index⟩, first, rfl⟩ := Option.map_eq_some_iff.mp looked
    have spelled := List.find?_some first
    exact ⟨index, List.mk_mem_zipIdx_iff_getElem?.mp (List.mem_of_find?_eq_some first),
      of_decide_eq_true spelled⟩
  constructor
  · exact sound
  · intro assigned
    cases looked : ledger.find? key with
    | none =>
        obtain ⟨index, found, spelled⟩ := assigned
        have absent := List.find?_eq_none.mp (Option.map_eq_none_iff.mp looked) (url, index)
          (List.mk_mem_zipIdx_iff_getElem?.mpr found)
        simp [spelled] at absent
    | some found => rw [(sound looked).url_unique bounded assigned]

theorem resolve_of_assigns {ledger : Ledger} (bounded : ledger.length < UInt64.size)
    {url key : String} (assigned : ledger.Assigns url key) : ledger.resolve key = .ok url := by
  rw [resolve, (find?_eq_some_iff bounded).mpr assigned]

theorem note_of_mem {ledger : Ledger} {url : String} (known : url ∈ ledger) :
    ledger.note url = ledger :=
  if_pos known

theorem note_of_not_mem {ledger : Ledger} {url : String} (fresh : url ∉ ledger) :
    ledger.note url = ledger ++ [url] :=
  if_neg fresh

/-- The first place of a URL is assigned to it. -/
theorem assigns_idxOf {ledger : Ledger} {url : String} (member : url ∈ ledger) :
    ledger.Assigns url (codeAt (ledger.idxOf url)).text :=
  ⟨ledger.idxOf url, List.getElem?_idxOf member, rfl⟩

/-! ## Growing -/

theorem nodup_note {ledger : Ledger} (distinct : ledger.Nodup) (url : String) :
    (ledger.note url).Nodup := by
  by_cases known : url ∈ ledger
  · rwa [note_of_mem known]
  · rw [note_of_not_mem known]
    refine List.nodup_append.mpr ⟨distinct, List.nodup_singleton url, ?_⟩
    rintro entry member last atEnd rfl
    rw [List.mem_singleton.mp atEnd] at member
    exact known member

theorem mem_note_iff {ledger : Ledger} {url other : String} :
    other ∈ ledger.note url ↔ other ∈ ledger ∨ other = url := by
  by_cases known : url ∈ ledger
  · rw [note_of_mem known]
    exact ⟨.inl, by rintro (member | rfl) <;> assumption⟩
  · rw [note_of_not_mem known, List.mem_append, List.mem_singleton]

theorem prefix_note (ledger : Ledger) (url : String) : ledger <+: ledger.note url := by
  by_cases known : url ∈ ledger
  · rw [note_of_mem known]
  · rw [note_of_not_mem known]
    exact List.prefix_append ledger [url]

theorem prefix_after (ledger : Ledger) (call : Call) : ledger <+: ledger.after call := by
  cases call with
  | shorten url => exact prefix_note ledger url
  | resolve key => exact List.prefix_refl ledger
  | contains key => exact List.prefix_refl ledger
  | allocated => exact List.prefix_refl ledger

theorem nodup_after {ledger : Ledger} (distinct : ledger.Nodup) (call : Call) :
    (ledger.after call).Nodup := by
  cases call with
  | shorten url => exact nodup_note distinct url
  | resolve key => exact distinct
  | contains key => exact distinct
  | allocated => exact distinct

theorem prefix_afterAll (ledger : Ledger) (calls : List Call) :
    ledger <+: ledger.afterAll calls := by
  induction calls generalizing ledger with
  | nil => exact List.prefix_refl ledger
  | cons call rest ih => exact (prefix_after ledger call).trans (ih (ledger.after call))

theorem nodup_afterAll {ledger : Ledger} (distinct : ledger.Nodup) (calls : List Call) :
    (ledger.afterAll calls).Nodup := by
  induction calls generalizing ledger with
  | nil => exact distinct
  | cons call rest ih => exact ih (nodup_after distinct call)

/-- The URLs that are in the ledger at the end were there or have been shortened. -/
theorem mem_afterAll {ledger : Ledger} {calls : List Call} {url : String}
    (member : url ∈ ledger.afterAll calls) : url ∈ ledger ∨ .shorten url ∈ calls := by
  induction calls generalizing ledger with
  | nil => exact .inl member
  | cons call rest ih =>
      rcases ih member with early | late
      · cases call with
        | shorten first =>
            rcases mem_note_iff.mp early with old | rfl
            · exact .inl old
            · exact .inr List.mem_cons_self
        | resolve key => exact .inl early
        | contains key => exact .inl early
        | allocated => exact .inl early
      · exact .inr (List.mem_cons_of_mem call late)

end Ledger

end Shortlink
