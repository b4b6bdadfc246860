import Mathlib.Algebra.Group.End
import Shortlink.Proofs.Store.Growth
import Shortlink.Session

/-!
# Orders of new URLs

Stores that go on from the same store with the same new URLs, in different orders, have
the same codes.  Only which new URL has which new code depends on the order: to exchange
two URLs is to exchange their codes.
-/

namespace Shortlink

namespace Ledger

/-! ## What is new -/

theorem mem_afterAll_of_shorten {ledger : Ledger} {calls : List Call} {url : String}
    (called : .shorten url ∈ calls) : url ∈ ledger.afterAll calls := by
  induction calls generalizing ledger with
  | nil => contradiction
  | cons call rest ih =>
      rcases List.mem_cons.mp called with rfl | later
      · exact (prefix_afterAll (ledger.note url) rest).subset (mem_note_iff.mpr (.inr rfl))
      · exact ih later

/-- Calls put the URLs that they shorten behind those of the ledger, unless they are there
already. -/
theorem exists_afterAll_eq_append {ledger : Ledger} (distinct : ledger.Nodup)
    (calls : List Call) :
    ∃ fresh : Ledger, ledger.afterAll calls = ledger ++ fresh ∧ fresh.Nodup ∧
      ∀ url, url ∈ fresh ↔ url ∉ ledger ∧ .shorten url ∈ calls := by
  obtain ⟨fresh, whole⟩ := prefix_afterAll ledger calls
  have both := nodup_afterAll distinct calls
  rw [← whole] at both
  obtain ⟨-, freshDistinct, apart⟩ := List.nodup_append.mp both
  refine ⟨fresh, whole.symm, freshDistinct, fun url => ?_⟩
  constructor
  · intro member
    have unknown : url ∉ ledger := fun known => apart url known url member rfl
    have noted : url ∈ ledger.afterAll calls := whole ▸ List.mem_append_right ledger member
    exact ⟨unknown, (mem_afterAll noted).resolve_left unknown⟩
  · rintro ⟨unknown, called⟩
    have noted : url ∈ ledger.afterAll calls := mem_afterAll_of_shorten called
    rw [← whole] at noted
    exact (List.mem_append.mp noted).resolve_left unknown

theorem assigns_code_iff {ledger : Ledger} {url : String} {code : ShortCode} :
    ledger.Assigns url code.text ↔ ∃ index, ledger[index]? = some url ∧ codeAt index = code := by
  simp only [Assigns, ShortCode.eq_iff_text]

/-! ## Exchanging neighbours -/

/-- If two neighbours change places, they exchange their codes. -/
theorem Assigns.swap {ledger rest : Ledger} {first second url : String} {code : ShortCode}
    (bounded : (ledger ++ first :: second :: rest).length < UInt64.size)
    (assigned : Assigns (ledger ++ first :: second :: rest) url code.text) :
    Assigns (ledger ++ second :: first :: rest) url
      (Equiv.swap (codeAt ledger.length) (codeAt (ledger.length + 1)) code).text := by
  obtain ⟨index, found, rfl⟩ := assigns_code_iff.mp assigned
  have inRange := lt_length_of_getElem? found
  rw [List.length_append, List.length_cons, List.length_cons] at bounded inRange
  rw [assigns_code_iff]
  have other (place : Nat) (fits : place + 1 < UInt64.size) (different : index ≠ place) :
      codeAt index ≠ codeAt place := fun same =>
    different (eq_of_text_codeAt_eq (by omega) fits (congrArg ShortCode.text same))
  have placed := found
  rw [List.getElem?_append] at placed
  split at placed
  case isTrue early =>
    refine ⟨index, ?_, ?_⟩
    · rw [List.getElem?_append_left early, placed]
    · rw [Equiv.swap_apply_of_ne_of_ne (other _ (by omega) (by omega))
        (other _ (by omega) (by omega))]
  case isFalse late =>
    obtain ⟨offset, rfl⟩ := Nat.exists_eq_add_of_le (Nat.le_of_not_lt late)
    rw [Nat.add_sub_cancel_left] at placed
    match offset, placed with
    | 0, placed =>
        refine ⟨ledger.length + 1, ?_, (Equiv.swap_apply_left _ _).symm⟩
        rw [List.getElem?_append_right (Nat.le_add_right _ 1), Nat.add_sub_cancel_left]
        exact placed
    | 1, placed =>
        refine ⟨ledger.length, ?_, (Equiv.swap_apply_right _ _).symm⟩
        rw [List.getElem?_append_right (Nat.le_refl _), Nat.sub_self]
        exact placed
    | beyond + 2, placed =>
        refine ⟨ledger.length + (beyond + 2), ?_, ?_⟩
        · rw [List.getElem?_append_right (Nat.le_add_right _ _), Nat.add_sub_cancel_left]
          exact placed
        · rw [Equiv.swap_apply_of_ne_of_ne (other _ (by omega) (by omega))
            (other _ (by omega) (by omega))]

/-- A code is one of those that are issued after a ledger, up to a longer one. -/
def IsIssuedAfter (ledger longer : Ledger) (code : ShortCode) : Prop :=
  ∃ index, ledger.length ≤ index ∧ index < longer.length ∧ codeAt index = code

/-- Whatever the order of the URLs behind a ledger, a relabelling of their codes leads from one
to the other, and leaves all other codes alone. -/
theorem exists_relabel {fresh other : List String} (reordered : fresh.Perm other) :
    ∀ {ledger : Ledger}, (ledger ++ fresh).length < UInt64.size →
      ∃ relabel : Equiv.Perm ShortCode,
        (∀ code, ¬ledger.IsIssuedAfter (ledger ++ fresh) code → relabel code = code) ∧
          ∀ url code, Assigns (ledger ++ other) url (relabel code).text ↔
            Assigns (ledger ++ fresh) url code.text := by
  induction reordered with
  | nil => exact fun _ => ⟨1, fun _ _ => rfl, fun _ _ => Iff.rfl⟩
  | cons url reordered ih =>
      intro ledger bounded
      rw [List.append_cons] at bounded
      obtain ⟨relabel, others, sound⟩ := ih bounded
      refine ⟨relabel, fun code old => others code fun new => old ?_, ?_⟩
      · obtain ⟨index, behind, inRange, same⟩ := new
        rw [List.length_append, List.length_singleton] at behind
        exact ⟨index, by omega, by rwa [List.append_cons], same⟩
      · simpa only [List.append_assoc, List.singleton_append] using sound
  | swap first second rest =>
      intro ledger bounded
      refine ⟨Equiv.swap (codeAt ledger.length) (codeAt (ledger.length + 1)), ?_, ?_⟩
      · intro code old
        have long : ledger.length + 1 < (ledger ++ second :: first :: rest).length := by
          simp only [List.length_append, List.length_cons]
          omega
        refine Equiv.swap_apply_of_ne_of_ne ?_ ?_
        · rintro rfl
          exact old ⟨_, Nat.le_refl _, by omega, rfl⟩
        · rintro rfl
          exact old ⟨_, Nat.le_succ _, long, rfl⟩
      · intro url code
        constructor
        · intro assigned
          have back := assigned.swap (by simpa using bounded)
          rwa [Equiv.swap_apply_self] at back
        · exact fun assigned => assigned.swap bounded
  | trans first second firstIh secondIh =>
      intro ledger bounded
      have same := (first.append_left ledger).length_eq
      obtain ⟨relabel, others, sound⟩ := firstIh bounded
      obtain ⟨further, furtherOthers, furtherSound⟩ := secondIh (same ▸ bounded)
      refine ⟨further * relabel, fun code old => ?_, fun url code => ?_⟩
      · rw [Equiv.Perm.mul_apply, others code old]
        refine furtherOthers code fun new => old ?_
        obtain ⟨index, behind, inRange, named⟩ := new
        exact ⟨index, behind, same ▸ inRange, named⟩
      · rw [Equiv.Perm.mul_apply, furtherSound, sound]

end Ledger

namespace MemoryStore

/-! ## Stores that go on from another one -/

/-- Two stores differ in a relabelling of codes at most. -/
structure IsRelabelled (first second : MemoryStore) (relabel : Equiv.Perm ShortCode) : Prop where
  /-- The sequences have reached the same number. -/
  sequence_eq : second.sequence = first.sequence
  /-- URLs have relabelled codes. -/
  codes_eq : ∀ url : String, second.codes[url]? = (first.codes[url]?).map relabel
  /-- Relabelled codes lead to the same URLs. -/
  urls_eq : ∀ code : ShortCode, second.urls[(relabel code).text]? = first.urls[code.text]?
  mem_urls_iff : ∀ key : String, key ∈ second.urls ↔ key ∈ first.urls

/-- Whether the number of a code is not above that of another one. -/
def isNumberedUpTo (first second : ShortCode) : Bool :=
  Session.rank first ≤ Session.rank second

/-- The codes of the distinct URLs of a list, in the order of their numbers. -/
def codesByNumber (store : MemoryStore) (urls : List String) : List ShortCode :=
  (urls.dedup.filterMap fun url => store.codes[url]?).mergeSort isNumberedUpTo

/-- Codes that can be told by their numbers have one order. -/
theorem mergeSort_rank_eq {codes others : List ShortCode} (reordered : codes.Perm others)
    (told : ∀ code ∈ codes, ∀ other ∈ codes,
      Session.rank code = Session.rank other → code = other) :
    codes.mergeSort isNumberedUpTo = others.mergeSort isNumberedUpTo := by
  have sorted (list : List ShortCode) :
      (list.mergeSort isNumberedUpTo).Pairwise (isNumberedUpTo · · = true) := by
    refine List.pairwise_mergeSort (fun first second third => ?_) (fun first second => ?_) list
    · simpa [isNumberedUpTo] using UInt64.le_trans
    · simpa [isNumberedUpTo] using UInt64.le_total _ _
  have sameMembers := ((List.mergeSort_perm codes isNumberedUpTo).trans reordered).trans
    (List.mergeSort_perm others isNumberedUpTo).symm
  refine sameMembers.eq_of_pairwise ?_ (sorted codes) (sorted others)
  intro code other member otherMember below above
  refine told code (List.mem_mergeSort.mp member) other
    (reordered.mem_iff.mpr (List.mem_mergeSort.mp otherMember)) ?_
  exact UInt64.le_antisymm (of_decide_eq_true below) (of_decide_eq_true above)

namespace Records

section One

variable {store final : MemoryStore} {ledger fresh : Ledger}

theorem mem_codes_iff (records : store.Records ledger) {url : String} :
    url ∈ store.codes ↔ url ∈ ledger := by
  rw [Std.HashMap.mem_iff_isSome_getElem?, ← Option.ne_none_iff_isSome, Ne,
    records.codes_eq_none_iff, not_not]

theorem mem_urls_iff (records : store.Records ledger) {key : String} :
    key ∈ store.urls ↔ ∃ index, index < ledger.length ∧ (Ledger.codeAt index).text = key := by
  rw [Std.HashMap.mem_iff_isSome_getElem?, Option.isSome_iff_exists]
  constructor
  · rintro ⟨url, found⟩
    obtain ⟨index, listed, spelled⟩ := (records.urls_eq_some_iff key url).mp found
    exact ⟨index, Ledger.lt_length_of_getElem? listed, spelled⟩
  · rintro ⟨index, inRange, spelled⟩
    exact ⟨ledger[index], (records.urls_eq_some_iff key _).mpr
      ⟨index, List.getElem?_eq_getElem inRange, spelled⟩⟩

/-- A URL keeps its code as the ledger grows. -/
theorem codes_eq_some_of_grown (records : store.Records ledger)
    (finalRecords : final.Records (ledger ++ fresh)) {url : String} {code : ShortCode}
    (known : store.codes[url]? = some code) : final.codes[url]? = some code := by
  rw [finalRecords.codes_eq_some_iff]
  exact ((records.codes_eq_some_iff url code).mp known).mono (List.prefix_append ledger fresh)

/-- The URLs behind a ledger have the codes of the numbers that come after it, one each. -/
theorem bijOn_codes (records : store.Records ledger)
    (finalRecords : final.Records (ledger ++ fresh)) :
    Set.BijOn (fun url => final.codes[url]?) {url | url ∈ fresh}
      ((fun number => some (ShortCode.ofNumber number)) ''
        {number | store.allocated < number ∧ number ≤ final.allocated}) := by
  have bounded := finalRecords.bounded
  have start : store.allocated.toNat = ledger.length := records.counted
  have stop : final.allocated.toNat = (ledger ++ fresh).length := finalRecords.counted
  rw [List.length_append] at bounded stop
  refine ⟨?_, ?_, ?_⟩
  · intro url member
    obtain ⟨offset, found⟩ := List.getElem?_of_mem member
    have inRange := Ledger.lt_length_of_getElem? found
    have number : (UInt64.ofNat (ledger.length + offset + 1)).toNat =
        ledger.length + offset + 1 := UInt64.toNat_ofNat_of_lt' (by omega)
    refine ⟨UInt64.ofNat (ledger.length + offset + 1), ⟨?_, ?_⟩, ?_⟩
    · rw [UInt64.lt_iff_toNat_lt, number]
      omega
    · rw [UInt64.le_iff_toNat_le, number]
      omega
    · refine ((finalRecords.codes_eq_some_iff url _).mpr ⟨ledger.length + offset, ?_, rfl⟩).symm
      rw [List.getElem?_append_right (Nat.le_add_right _ _), Nat.add_sub_cancel_left, found]
  · intro first firstMember second secondMember same
    obtain ⟨code, assigned⟩ :=
      Ledger.exists_assigns_of_mem (List.mem_append_right ledger firstMember)
    have found := (finalRecords.codes_eq_some_iff first code).mpr assigned
    have otherFound : final.codes[second]? = some code := same.symm.trans found
    exact assigned.url_unique finalRecords.bounded
      ((finalRecords.codes_eq_some_iff second code).mp otherFound)
  · rintro _ ⟨number, ⟨above, atMost⟩, rfl⟩
    rw [UInt64.lt_iff_toNat_lt] at above
    rw [UInt64.le_iff_toNat_le] at atMost
    have inRange : number.toNat - ledger.length - 1 < fresh.length := by omega
    have place : ledger.length + (number.toNat - ledger.length - 1) + 1 = number.toNat := by omega
    refine ⟨fresh[number.toNat - ledger.length - 1], List.getElem_mem inRange, ?_⟩
    refine (finalRecords.codes_eq_some_iff _ _).mpr
      ⟨ledger.length + (number.toNat - ledger.length - 1), ?_, ?_⟩
    · rw [List.getElem?_append_right (Nat.le_add_right _ _), Nat.add_sub_cancel_left,
        List.getElem?_eq_getElem inRange]
    · rw [Ledger.codeAt, place, UInt64.ofNat_toNat]

end One

section Two

variable {first second : MemoryStore} {ledger fresh other : Ledger}

/-- Stores with the same new URLs in different orders differ in a relabelling of the codes
of these URLs. -/
theorem exists_isRelabelled (firstRecords : first.Records (ledger ++ fresh))
    (secondRecords : second.Records (ledger ++ other)) (reordered : fresh.Perm other) :
    ∃ relabel : Equiv.Perm ShortCode, first.IsRelabelled second relabel ∧
      ∀ code, (∀ url ∈ fresh, first.codes[url]? ≠ some code) → relabel code = code := by
  obtain ⟨relabel, others, sound⟩ := Ledger.exists_relabel reordered firstRecords.bounded
  have sameLength := (reordered.append_left ledger).length_eq
  refine ⟨relabel, ⟨?_, fun url => ?_, fun code => ?_, fun key => ?_⟩, fun code old => ?_⟩
  · have counted := secondRecords.counted.trans (sameLength.symm.trans firstRecords.counted.symm)
    exact congrArg Sequence.mk (UInt64.toNat_inj.mp counted)
  · apply Option.ext
    intro code
    rw [secondRecords.codes_eq_some_iff, ← relabel.apply_symm_apply code, sound,
      ← firstRecords.codes_eq_some_iff, Option.map_eq_some_iff]
    constructor
    · exact fun found => ⟨_, found, rfl⟩
    · rintro ⟨earlier, found, same⟩
      rwa [← relabel.injective same]
  · apply Option.ext
    intro url
    rw [secondRecords.urls_eq_some_iff, sound, ← firstRecords.urls_eq_some_iff]
  · rw [secondRecords.mem_urls_iff, firstRecords.mem_urls_iff, sameLength]
  · apply others
    rintro ⟨index, behind, inRange, rfl⟩
    have offset : index - ledger.length < fresh.length := by
      rw [List.length_append] at inRange
      omega
    refine old _ (List.getElem_mem offset)
      ((firstRecords.codes_eq_some_iff _ _).mpr ⟨index, ?_, rfl⟩)
    rw [List.getElem?_append_right behind, List.getElem?_eq_getElem offset]

/-- The code that one of the stores has for a URL, the other has for a URL too. -/
theorem exists_codes_eq_some (firstRecords : first.Records (ledger ++ fresh))
    (secondRecords : second.Records (ledger ++ other)) (reordered : fresh.Perm other)
    {urls : List String} (listed : ∀ url ∈ fresh, url ∈ urls) {url : String} (member : url ∈ urls)
    {code : ShortCode} (found : first.codes[url]? = some code) :
    ∃ url ∈ urls, second.codes[url]? = some code := by
  obtain ⟨index, placed, spelled⟩ := (firstRecords.codes_eq_some_iff url code).mp found
  have inRange := Ledger.lt_length_of_getElem? placed
  by_cases early : index < ledger.length
  · refine ⟨url, member, (secondRecords.codes_eq_some_iff url code).mpr ⟨index, ?_, spelled⟩⟩
    rwa [List.getElem?_append_left early] at placed ⊢
  · have offset : index - ledger.length < other.length := by
      rw [List.length_append] at inRange
      have := reordered.length_eq
      omega
    refine ⟨other[index - ledger.length], ?_, ?_⟩
    · exact listed _ (reordered.mem_iff.mpr (List.getElem_mem offset))
    · refine (secondRecords.codes_eq_some_iff _ code).mpr ⟨index, ?_, spelled⟩
      rw [List.getElem?_append_right (Nat.le_of_not_lt early), List.getElem?_eq_getElem offset]

/-- A code that a store has can be told by its number. -/
theorem eq_of_rank_eq (records : first.Records ledger) {url otherUrl : String}
    {code otherCode : ShortCode} (found : first.codes[url]? = some code)
    (otherFound : first.codes[otherUrl]? = some otherCode)
    (same : Session.rank code = Session.rank otherCode) : code = otherCode := by
  obtain ⟨index, -, spelled⟩ := (records.codes_eq_some_iff url code).mp found
  obtain ⟨place, -, otherSpelled⟩ := (records.codes_eq_some_iff otherUrl otherCode).mp otherFound
  obtain rfl := ShortCode.eq_iff_text.mpr spelled
  obtain rfl := ShortCode.eq_iff_text.mpr otherSpelled
  have number (index : Nat) : Session.rank (Ledger.codeAt index) = UInt64.ofNat (index + 1) := by
    rw [Session.rank, Ledger.codeAt, ShortCode.number, ShortCode.ofNumber, Base62.decode_encode]
    rfl
  rw [number, number] at same
  rw [Ledger.codeAt, Ledger.codeAt, same]

/-- In the order of their numbers, the codes are the same. -/
theorem codesByNumber_eq (firstRecords : first.Records (ledger ++ fresh))
    (secondRecords : second.Records (ledger ++ other)) (reordered : fresh.Perm other)
    {urls : List String} (listed : ∀ url ∈ fresh, url ∈ urls) :
    first.codesByNumber urls = second.codesByNumber urls := by
  have distinct {store : MemoryStore} {whole : Ledger} (records : store.Records whole) :
      (urls.dedup.filterMap fun url => store.codes[url]?).Nodup := by
    refine List.Nodup.filterMap (fun url otherUrl code found otherFound => ?_) urls.nodup_dedup
    exact ((records.codes_eq_some_iff url code).mp found).url_unique records.bounded
      ((records.codes_eq_some_iff otherUrl code).mp otherFound)
  have members : (urls.dedup.filterMap fun url => first.codes[url]?).Perm
      (urls.dedup.filterMap fun url => second.codes[url]?) := by
    rw [List.perm_ext_iff_of_nodup (distinct firstRecords) (distinct secondRecords)]
    intro code
    simp only [List.mem_filterMap, List.mem_dedup]
    constructor
    · rintro ⟨url, member, found⟩
      exact firstRecords.exists_codes_eq_some secondRecords reordered listed member found
    · rintro ⟨url, member, found⟩
      exact secondRecords.exists_codes_eq_some firstRecords reordered.symm
        (fun url new => listed url (reordered.mem_iff.mpr new)) member found
  refine mergeSort_rank_eq members fun code inFirst otherCode otherInFirst same => ?_
  obtain ⟨url, -, found⟩ := List.mem_filterMap.mp inFirst
  obtain ⟨otherUrl, -, otherFound⟩ := List.mem_filterMap.mp otherInFirst
  exact firstRecords.eq_of_rank_eq found otherFound same

end Two

end Records

end MemoryStore

end Shortlink
