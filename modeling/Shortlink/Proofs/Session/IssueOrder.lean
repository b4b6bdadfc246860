import Shortlink.Proofs.Base62.Order
import Shortlink.Proofs.Sequence.Lineage
import Shortlink.Proofs.Session.Audit

/-!
# The order of issue

Codes are issued in the order of numerals.  The codes of a sequence grow in this order for as
long as nothing else is copied into it, and so do the new codes of a store in whatever order
calls, requests and threads ask for them.
-/

namespace Shortlink

open Base62 (Precedes StandsBefore encode)
open Log (Receipt)

/-- The new code that a receipt tells of. -/
def Log.Receipt.newCode? : Receipt → Option String
  | .allocated code _ _ => some code
  | .reused .. => none

/-- The new codes of an audit are the numerals from one on. -/
theorem MemoryStore.IsAudit.newCodes {receipts : List Receipt} {store : MemoryStore}
    {completed : Nat} (audit : IsAudit receipts store completed) :
    receipts.filterMap Receipt.newCode? =
      (List.range' 1 store.allocated.toNat).map fun count => encode (UInt64.ofNat count) := by
  rw [← audit.counts, List.map_filterMap]
  refine List.filterMap_congr fun receipt member => ?_
  cases receipt with
  | allocated code url count => exact congrArg some (audit.codes code url count member)
  | reused => rfl

/-- Numerals of numbers that are counted up are in order. -/
theorem Base62.pairwise_precedes_range' (first count : Nat) (fits : first + count ≤ UInt64.size) :
    ((List.range' first count).map fun number => encode (UInt64.ofNat number)).Pairwise
      Precedes := by
  have increasing : (List.range' first count).Pairwise (· < ·) := List.pairwise_lt_range'
  refine List.pairwise_map.mpr (increasing.imp_of_mem ?_)
  intro number larger _ largerMember less
  have bounded := (List.mem_range'_1.mp largerMember).2
  refine (lt_iff_precedes_encode _ _).mp (UInt64.lt_iff_toNat_lt.mpr ?_)
  rwa [UInt64.toNat_ofNat_of_lt' (by omega), UInt64.toNat_ofNat_of_lt' (by omega)]

/-- The codes that a sequence issues are in order until something else is copied into it. -/
theorem Sequence.Script.pairwise_precedes_issued (registers : Registers) {register : String}
    {steps : List Step} (apart : KeepsApart register steps) :
    ((issued registers register steps).map ShortCode.text).Pairwise Precedes := by
  obtain ⟨numbers, codes, increasing, -⟩ := exists_issued registers apart
  rw [codes, List.map_map]
  exact List.pairwise_map.mpr
    (increasing.imp fun less => (Base62.lt_iff_precedes_encode _ _).mp less)

namespace Session

/-- The new codes of a store are in order.  There are as many of them as have been issued, and
they are all the keys that the store has. -/
theorem Reaches.newCodes {store : MemoryStore} {log : List Log.Entry} {completed : Nat}
    (reaches : Reaches store log completed) :
    let codes := (Receipt.ofEntries log).filterMap Receipt.newCode?
    codes.Pairwise Precedes ∧ codes.length = store.allocated.toNat ∧
      ∀ key, key ∈ store.urls ↔ key ∈ codes := by
  intro codes
  have audit := reaches.isToldBy.isAudit
  refine ⟨?_, ?_, fun key => ?_⟩
  · have inOrder := Base62.pairwise_precedes_range' 1 store.allocated.toNat
      (Nat.add_comm 1 _ ▸ store.allocated.toNat_lt_size)
    rwa [← audit.newCodes] at inOrder
  · rw [congrArg List.length audit.newCodes, List.length_map, List.length_range']
  · rw [Std.HashMap.mem_iff_isSome_getElem?, Option.isSome_iff_exists, List.mem_filterMap]
    constructor
    · rintro ⟨url, found⟩
      obtain ⟨count, member⟩ := (audit.urls_eq_some_iff key url).mp found
      exact ⟨_, member, rfl⟩
    · rintro ⟨receipt, member, new⟩
      cases receipt with
      | allocated code url count =>
          obtain rfl := Option.some.inj new
          exact ⟨url, (audit.urls_eq_some_iff _ url).mpr ⟨count, member⟩⟩
      | reused => contradiction

/-- Numbers are in the order of their numerals: the shorter numeral comes first, numerals of larger
numbers are never shorter, and numerals of one length are compared digit by digit.  Hence the
codes that a sequence or a store issues are in this order as they are issued. -/
theorem lt_iff_precedes_and_issue_order :
    (∀ number larger : UInt64, number < larger ↔ Precedes (encode number) (encode larger)) ∧
    (∀ number larger : UInt64, number ≤ larger →
      (encode number).length ≤ (encode larger).length) ∧
    (∀ number larger : UInt64, (encode number).length = (encode larger).length →
      (number < larger ↔
        List.Lex StandsBefore (encode number).toList (encode larger).toList)) ∧
    (∀ (registers : Sequence.Script.Registers) register steps,
      Sequence.Script.KeepsApart register steps →
        ((Sequence.Script.issued registers register steps).map ShortCode.text).Pairwise
          Precedes) ∧
    ∀ store log completed, Reaches store log completed →
      let codes := (Receipt.ofEntries log).filterMap Receipt.newCode?
      codes.Pairwise Precedes ∧ codes.length = store.allocated.toNat ∧
        ∀ key, key ∈ store.urls ↔ key ∈ codes := by
  refine ⟨Base62.lt_iff_precedes_encode, fun _ _ => Base62.length_encode_mono, ?_,
    fun registers _ _ => Sequence.Script.pairwise_precedes_issued registers,
    fun _ _ _ => Reaches.newCodes⟩
  intro number larger sameLength
  rw [← String.length_toList, ← String.length_toList] at sameLength
  exact Base62.lt_iff_lex_encode sameLength

/-- The last numeral of one digit comes before the first one of two digits, and that one before
the next; a register issues two codes, and two URLs are shortened. -/
theorem lt_iff_precedes_and_issue_order_of_two_codes :
    let steps : List Sequence.Script.Step := [.nextCode "a", .nextCode "a"]
    let first := (Step.call (.shorten "a")).run 1 MemoryStore.empty
    let second := (Step.call (.shorten "b")).run 1 first.store
    let log := [] ++ first.entries ++ second.entries
    let codes := (Receipt.ofEntries log).filterMap Receipt.newCode?
    (61 : UInt64) ≤ 62 ∧ (encode 61).length ≤ (encode 62).length ∧
      Precedes (encode 61) (encode 62) ∧
      (encode 62).length = (encode 63).length ∧
      List.Lex StandsBefore (encode 62).toList (encode 63).toList ∧
      Sequence.Script.KeepsApart "a" steps ∧
      ((Sequence.Script.issued (fun _ => {}) "a" steps).map ShortCode.text).Pairwise Precedes ∧
      Reaches second.store log 2 ∧ codes.Pairwise Precedes ∧ codes.length = 2 := by
  intro steps first second log codes
  obtain ⟨ordered, longer, compared, registers, stores⟩ := lt_iff_precedes_and_issue_order
  have sameLength : (encode 62).length = (encode 63).length := by
    have spelled : encode 62 = "10" :=
      (Base62.encode_eq_iff_of_decode rfl).mpr (.inr (by decide))
    have nextSpelled : encode 63 = "11" :=
      (Base62.encode_eq_iff_of_decode rfl).mpr (.inr (by decide))
    rw [spelled, nextSpelled]
    rfl
  have apart : Sequence.Script.KeepsApart "a" steps := fun source => by simp [steps]
  have one := MemoryStore.records_empty.run (.shorten "a") (by decide)
  have two := one.2.run (.shorten "b") (by decide)
  have firstTold : (Step.call (.shorten "a")).completed 1 MemoryStore.empty = 1 :=
    congrArg (fun answer : Call.Answer => answer.isCode.toNat) one.1
  have secondTold : (Step.call (.shorten "b")).completed 1 first.store = 1 :=
    congrArg (fun answer : Call.Answer => answer.isCode.toNat) two.1
  have reaches := (Reaches.start.step 1 (.call (.shorten "a"))).step 1 (.call (.shorten "b"))
  rw [firstTold, secondTold] at reaches
  obtain ⟨inOrder, counted, -⟩ := stores _ _ _ reaches
  exact ⟨by decide, longer 61 62 (by decide), (ordered 61 62).mp (by decide), sameLength,
    (compared 62 63 sameLength).mp (by decide), apart, registers _ "a" steps apart, reaches,
    inOrder, counted.trans two.2.counted⟩

end Session

end Shortlink
