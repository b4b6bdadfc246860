import Mathlib.Logic.Function.Basic
import Shortlink.Proofs.Base62.Codec
import Shortlink.Sequence.Script

/-!
# The lineages of registers

A register has counted on from the start of the register that it descends from, as often as it
has been moved on with success: by its own steps since it was last copied into, and by those
that its source had behind it when it was copied.  At the end of its sequence a register stays
where it is until another one is copied into it, and a step changes no other register than its
target.
-/

namespace Shortlink.Sequence

/-! ## Moving on -/

/-- How many of `count` moves in a row succeed. -/
def successes : Nat → Sequence → Nat
  | 0, _ => 0
  | count + 1, sequence =>
      match sequence.advance with
      | .ok moved => successes count moved + 1
      | .error _ => 0

theorem eq_iff_current {first second : Sequence} :
    first = second ↔ first.current = second.current := by
  cases first
  cases second
  exact Sequence.mk.injEq _ _ ▸ Iff.rfl

theorem advance_eq_ok_iff {sequence moved : Sequence} :
    sequence.advance = .ok moved ↔ moved.current.toNat = sequence.current.toNat + 1 := by
  unfold advance
  split
  · rename_i room
    rw [Except.ok.injEq, eq_iff_current, ← UInt64.toNat_inj, eq_comm]
    exact Iff.rfl
  · rename_i full
    have := moved.current.toNat_lt_size
    refine ⟨nofun, fun reached => absurd ?_ full⟩
    rwa [reached] at this

theorem advance_of_lt {sequence : Sequence} (room : sequence.current.toNat < 2 ^ 64 - 1) :
    ∃ moved, sequence.advance = .ok moved ∧
      moved.current.toNat = sequence.current.toNat + 1 := by
  have fits : sequence.current.toNat + 1 < UInt64.size := Nat.add_lt_of_lt_sub room
  have reached : (⟨UInt64.ofNatLT _ fits⟩ : Sequence).current.toNat = _ := UInt64.toNat_ofNatLT
  exact ⟨_, advance_eq_ok_iff.mpr reached, reached⟩

theorem advance_of_not_lt {sequence : Sequence} (full : ¬sequence.current.toNat < 2 ^ 64 - 1) :
    sequence.advance = .error {} :=
  dif_neg fun fits => full (Nat.lt_sub_of_add_lt fits)

/-- Moves in a row lead as far as they succeed, and fail where the sequence ends. -/
theorem advanceMany_eq (count : Nat) (sequence : Sequence) :
    (advanceMany count sequence).1.current.toNat =
        sequence.current.toNat + successes count sequence ∧
      (advanceMany count sequence).2 =
        if successes count sequence = count then none else some {} := by
  induction count generalizing sequence with
  | zero => exact ⟨rfl, rfl⟩
  | succ count ih =>
      rw [advanceMany, successes]
      cases moved : sequence.advance with
      | error failure => exact ⟨rfl, rfl⟩
      | ok next =>
          have reached := advance_eq_ok_iff.mp moved
          obtain ⟨led, failed⟩ := ih next
          refine ⟨?_, ?_⟩
          · rw [led, reached, Nat.add_right_comm, Nat.add_assoc]
          · simp only [failed, Nat.add_right_cancel_iff]

theorem successes_eq_min (count : Nat) (sequence : Sequence) :
    successes count sequence = min count (2 ^ 64 - 1 - sequence.current.toNat) := by
  induction count generalizing sequence with
  | zero => rw [successes, Nat.zero_min]
  | succ count ih =>
      rw [successes]
      by_cases room : sequence.current.toNat < 2 ^ 64 - 1
      · obtain ⟨moved, advanced, reached⟩ := advance_of_lt room
        rw [advanced]
        dsimp only
        rw [ih, reached]
        omega
      · rw [advance_of_not_lt room]
        dsimp only
        omega

namespace Script

/-! ## Steps -/

/-- What a step does to the registers. -/
inductive Effect
  /-- It moves a register on `count` times, or to its end. -/
  | move (register : String) (count : Nat)
  /-- It copies a register into `target`. -/
  | copy (source target : String)
  | nothing

/-- What a step does to the registers. -/
def Step.effect : Step → Effect
  | .advance register | .nextCode register => .move register 1
  | .advanceMany register count => .move register count
  | .clone register target => .copy register target
  | .current _ | .equals _ _ | .inspect _ => .nothing

namespace Effect

/-- The register that may change. -/
def target? : Effect → Option String
  | .move register _ => some register
  | .copy _ target => some target
  | .nothing => none

/-- The registers afterwards. -/
def apply (registers : Registers) : Effect → Registers
  | .move register count => registers.set register (advanceMany count (registers register)).1
  | .copy source target => registers.set target (registers source)
  | .nothing => registers

end Effect

theorem set_eq_update (registers : Registers) (register : String) (sequence : Sequence) :
    registers.set register sequence = Function.update registers register sequence := by
  funext name
  rw [Function.update_apply]
  rfl

theorem set_same (registers : Registers) (register : String) :
    registers.set register (registers register) = registers := by
  rw [set_eq_update, Function.update_eq_self]

/-- A step leaves the registers as its effect does. -/
theorem registers_run (registers : Registers) (step : Step) :
    (step.run registers).2 = step.effect.apply registers := by
  cases step with
  | advance register =>
      rw [Step.run, Step.effect, Effect.apply, advanceMany]
      cases (registers register).advance with
      | ok moved => rfl
      | error failure => exact (set_same registers register).symm
  | nextCode register =>
      rw [Step.run, nextCode, Step.effect, Effect.apply, advanceMany]
      cases (registers register).advance with
      | ok moved => rfl
      | error failure => exact (set_same registers register).symm
  | advanceMany => rfl
  | clone => rfl
  | current => rfl
  | equals => rfl
  | inspect => rfl

theorem apply_of_ne_target (registers : Registers) {effect : Effect} {register : String}
    (other : effect.target? ≠ some register) :
    effect.apply registers register = registers register := by
  cases effect with
  | move name count =>
      rw [Effect.apply, set_eq_update]
      exact Function.update_of_ne (fun same => other (congrArg some same.symm)) _ _
  | copy source target =>
      rw [Effect.apply, set_eq_update]
      exact Function.update_of_ne (fun same => other (congrArg some same.symm)) _ _
  | nothing => rfl

/-! ## Scripts -/

/-- The registers after a script. -/
def after (registers : Registers) (steps : List Step) : Registers :=
  steps.foldl (fun registers step => (step.run registers).2) registers

/-- Each step of a script reports what it reports of the registers that the steps before it have
left. -/
theorem getElem?_run (start : Registers) (steps : List Step) (step : Step) (rest : List Step) :
    (run start (steps ++ step :: rest))[steps.length]? =
      some ((step.run (after start steps)).1,
        ((step.run (after start steps)).2 step.register).current) := by
  induction steps generalizing start with
  | nil => rfl
  | cons first others ih => exact ih (first.run start).2

/-- Where a register comes from. -/
structure Lineage where
  /-- The register whose start it has counted on from. -/
  origin : String
  /-- How often it has been moved on with success, its sources included. -/
  moves : Nat

/-- The lineages after an effect: a copy has the lineage of its source. -/
def Effect.descend (registers : Registers) (lineages : String → Lineage) :
    Effect → String → Lineage
  | .move register count =>
      Function.update lineages register
        { lineages register with
          moves := (lineages register).moves + successes count (registers register) }
  | .copy source target => Function.update lineages target (lineages source)
  | .nothing => lineages

/-- The lineages after a script, given those before it. -/
def descend (registers : Registers) (lineages : String → Lineage) : List Step → String → Lineage
  | [] => lineages
  | step :: rest => descend (step.run registers).2 (step.effect.descend registers lineages) rest

/-- The lineage of a register after a script, before which each register stands for itself. -/
def lineage (start : Registers) (steps : List Step) : String → Lineage :=
  descend start (fun register => { origin := register, moves := 0 }) steps

/-- The registers have counted on from the start as often as their lineages tell. -/
def Follow (start registers : Registers) (lineages : String → Lineage) : Prop :=
  ∀ register, (registers register).current.toNat =
    (start (lineages register).origin).current.toNat + (lineages register).moves

theorem Follow.set {start registers : Registers} {lineages : String → Lineage}
    (follow : Follow start registers lineages) (register : String) {sequence : Sequence}
    {lineage : Lineage} (counted : sequence.current.toNat =
      (start lineage.origin).current.toNat + lineage.moves) :
    Follow start (registers.set register sequence)
      (Function.update lineages register lineage) := by
  intro other
  rw [set_eq_update]
  by_cases same : other = register
  · subst same
    rwa [Function.update_self, Function.update_self]
  · rw [Function.update_of_ne same, Function.update_of_ne same]
    exact follow other

theorem Follow.step {start registers : Registers} {lineages : String → Lineage}
    (follow : Follow start registers lineages) (step : Step) :
    Follow start (step.run registers).2 (step.effect.descend registers lineages) := by
  rw [registers_run]
  cases step.effect with
  | move register count =>
      refine follow.set register ?_
      rw [(advanceMany_eq count _).1, follow register, Nat.add_assoc]
  | copy source target => exact follow.set target (follow source)
  | nothing => exact follow

theorem Follow.after {start registers : Registers} {lineages : String → Lineage}
    (follow : Follow start registers lineages) (steps : List Step) :
    Follow start (after registers steps) (descend registers lineages steps) := by
  induction steps generalizing registers lineages with
  | nil => exact follow
  | cons step rest ih => exact ih (follow.step step)

/-! ## Registers that nothing is copied into -/

/-- No step of a script copies a register into this one. -/
def KeepsApart (register : String) (steps : List Step) : Prop :=
  ∀ source, .clone source register ∉ steps

theorem effect_eq_copy_iff {step : Step} {source target : String} :
    step.effect = .copy source target ↔ step = .clone source target := by
  cases step with
  | clone => simp only [Step.effect, Effect.copy.injEq, Step.clone.injEq]
  | _ => simp only [Step.effect, reduceCtorEq]

theorem KeepsApart.of_cons {register : String} {step : Step} {rest : List Step}
    (apart : KeepsApart register (step :: rest)) :
    (∀ source, step ≠ .clone source register) ∧ KeepsApart register rest := by
  refine ⟨fun source => ?_, fun source member => apart source (List.mem_cons_of_mem step member)⟩
  rintro rfl
  exact apart source List.mem_cons_self

/-- A register that nothing is copied into never goes back. -/
theorem current_le_run (registers : Registers) {step : Step} {register : String}
    (apart : ∀ source, step ≠ .clone source register) :
    (registers register).current ≤ ((step.run registers).2 register).current := by
  rw [registers_run, UInt64.le_iff_toNat_le]
  by_cases other : step.effect.target? = some register
  · cases effect : step.effect with
    | move name count =>
        rw [effect] at other
        obtain rfl := Option.some.inj other
        rw [Effect.apply, set_eq_update, Function.update_self, (advanceMany_eq count _).1]
        exact Nat.le_add_right _ _
    | copy source target =>
        rw [effect] at other
        obtain rfl := Option.some.inj other
        exact absurd (effect_eq_copy_iff.mp effect) (apart source)
    | nothing =>
        rw [effect] at other
        contradiction
  · rw [apply_of_ne_target registers other]

theorem current_le_after (registers : Registers) {steps : List Step} {register : String}
    (apart : KeepsApart register steps) :
    (registers register).current ≤ (after registers steps register).current := by
  induction steps generalizing registers with
  | nil => exact UInt64.le_refl _
  | cons step rest ih =>
      obtain ⟨first, others⟩ := apart.of_cons
      exact UInt64.le_trans (current_le_run registers first) (ih _ others)

/-- A register at its end stays there. -/
theorem after_of_full (registers : Registers) {steps : List Step} {register : String}
    (full : ¬(registers register).current.toNat < 2 ^ 64 - 1) (apart : KeepsApart register steps) :
    after registers steps register = registers register := by
  have reached := UInt64.le_iff_toNat_le.mp (current_le_after registers apart)
  have bounded : (after registers steps register).current.toNat < 2 ^ 64 := UInt64.toNat_lt _
  refine eq_iff_current.mpr (UInt64.toNat_inj.mp ?_)
  omega

/-! ## Codes -/

/-- The code that a step issues from a register, by what it reports. -/
def Step.issued? (register : String) : Step → Report → Option ShortCode
  | .nextCode other, .code code => if other = register then some code else none
  | _, _ => none

/-- The codes that a script issues from a register, in order. -/
def issued (registers : Registers) (register : String) (steps : List Step) : List ShortCode :=
  (steps.zip (run registers steps)).filterMap fun (step, report, _) => step.issued? register report

theorem issued_cons (registers : Registers) (register : String) (step : Step)
    (rest : List Step) :
    issued registers register (step :: rest) =
      (step.issued? register (step.run registers).1).toList ++
        issued (step.run registers).2 register rest := by
  rw [issued, run, List.zip_cons_cons, List.filterMap_cons]
  dsimp only
  cases step.issued? register (step.run registers).1 <;> rfl

theorem run_of_lt {registers : Registers} {register : String}
    (room : (registers register).current.toNat < 2 ^ 64 - 1) :
    ∃ moved, moved.current.toNat = (registers register).current.toNat + 1 ∧
      (Step.advance register).run registers =
        (.number moved.current, registers.set register moved) ∧
      (Step.nextCode register).run registers =
        (.code (ShortCode.ofNumber moved.current), registers.set register moved) := by
  obtain ⟨moved, advanced, reached⟩ := advance_of_lt room
  refine ⟨moved, reached, ?_, ?_⟩
  · rw [Step.run, advanced]
  · rw [Step.run, nextCode, advanced]
    rfl

theorem run_of_not_lt {registers : Registers} {register : String}
    (full : ¬(registers register).current.toNat < 2 ^ 64 - 1) :
    (Step.advance register).run registers = (.exhausted {}, registers) ∧
      (Step.nextCode register).run registers = (.exhausted {}, registers) := by
  have stopped := advance_of_not_lt full
  refine ⟨?_, ?_⟩
  · rw [Step.run, stopped]
  · rw [Step.run, nextCode, stopped]
    rfl

/-- Many moves lead as far as they can, and fail if that is not as far as they should. -/
theorem run_advanceMany (registers : Registers) (register : String) (count : Nat) :
    let made := min count (2 ^ 64 - 1 - (registers register).current.toNat)
    ∃ moved, moved.current.toNat = (registers register).current.toNat + made ∧
      (Step.advanceMany register count).run registers =
        (if made = count then .nothing else .exhausted {}, registers.set register moved) := by
  intro made
  have counted := successes_eq_min count (registers register)
  obtain ⟨led, failed⟩ := advanceMany_eq count (registers register)
  rw [counted] at led failed
  refine ⟨_, led, ?_⟩
  rw [Step.run]
  dsimp only
  rw [failed]
  split <;> rfl

theorem run_equals (registers : Registers) (register other : String) :
    (Step.equals register other).run registers =
      (.truth (decide ((registers register).current = (registers other).current)),
        registers) := by
  have same : (registers register == registers other) =
      decide ((registers register).current = (registers other).current) := by
    rw [Bool.eq_iff_iff, beq_iff_eq, decide_eq_true_eq, eq_iff_current]
  rw [Step.run, same]

/-- A code that is issued is that of the number reached, which is a new one. -/
theorem of_issued?_eq_some {registers : Registers} {register : String} {step : Step}
    {code : ShortCode} (found : step.issued? register (step.run registers).1 = some code) :
    code = ShortCode.ofNumber ((step.run registers).2 register).current ∧
      (registers register).current < ((step.run registers).2 register).current := by
  cases step with
  | nextCode name =>
      by_cases room : (registers name).current.toNat < 2 ^ 64 - 1
      · obtain ⟨moved, reached, -, outcome⟩ := run_of_lt room
        rw [outcome] at found ⊢
        simp only [Step.issued?] at found
        split at found
        · rename_i same
          subst same
          dsimp only
          rw [set_eq_update, Function.update_self, UInt64.lt_iff_toNat_lt, reached]
          exact ⟨(Option.some.inj found).symm, Nat.lt_succ_self _⟩
        · contradiction
      · rw [(run_of_not_lt room).2] at found
        contradiction
  | _ => contradiction

/-- Until another register is copied into it, a register issues codes of growing numbers. -/
theorem exists_issued (registers : Registers) {register : String} {steps : List Step}
    (apart : KeepsApart register steps) :
    ∃ numbers : List UInt64,
      issued registers register steps = numbers.map ShortCode.ofNumber ∧
      numbers.Pairwise (· < ·) ∧ ∀ number ∈ numbers, (registers register).current < number := by
  induction steps generalizing registers with
  | nil => exact ⟨[], rfl, .nil, nofun⟩
  | cons step rest ih =>
      obtain ⟨first, others⟩ := apart.of_cons
      obtain ⟨numbers, later, increasing, above⟩ := ih (step.run registers).2 others
      rw [issued_cons, later]
      cases found : step.issued? register (step.run registers).1 with
      | none =>
          refine ⟨numbers, rfl, increasing, fun number member => ?_⟩
          exact UInt64.lt_of_le_of_lt (current_le_run registers first) (above number member)
      | some code =>
          obtain ⟨rfl, grown⟩ := of_issued?_eq_some found
          refine ⟨_ :: numbers, rfl, increasing.cons above, ?_⟩
          rintro number (_ | ⟨_, member⟩)
          · exact grown
          · exact UInt64.lt_trans grown (above number member)

/-- So these codes have growing numbers, and no two of them are the same. -/
theorem pairwise_issued (registers : Registers) {register : String} {steps : List Step}
    (apart : KeepsApart register steps) :
    (issued registers register steps).Nodup ∧
      (issued registers register steps).Pairwise fun earlier later =>
        ∃ number larger, earlier.number = .ok number ∧ later.number = .ok larger ∧
          number < larger := by
  obtain ⟨numbers, codes, increasing, -⟩ := exists_issued registers apart
  rw [codes]
  have growing : (numbers.map ShortCode.ofNumber).Pairwise fun earlier later =>
      ∃ number larger, earlier.number = .ok number ∧ later.number = .ok larger ∧
        number < larger :=
    List.pairwise_map.mpr (increasing.imp fun less =>
      ⟨_, _, Base62.decode_encode _, Base62.decode_encode _, less⟩)
  refine ⟨growing.imp ?_, growing⟩
  rintro earlier later ⟨number, larger, first, second, less⟩ rfl
  rw [first] at second
  exact absurd (Except.ok.inj second ▸ less) (UInt64.lt_irrefl _)

/-! ## Whole runs -/

/-- After any script each register has counted on from the start of its origin, as often as its
lineage has been moved on with success.  A register below its end moves on by one and issues
the code of the number reached; one at its end fails and stays as it is, now and until another
register is copied into it; many moves lead as far as they can.  No step changes any register
but its target, and codes issued between two copies into a register have growing numbers. -/
theorem current_eq_start_add_moves (start : Registers) (steps : List Step) :
    let registers := after start steps
    (∀ register,
      let lineage := lineage start steps register
      (registers register).current.toNat =
        (start lineage.origin).current.toNat + lineage.moves) ∧
    (∀ step rest, (run start (steps ++ step :: rest))[steps.length]? =
      some ((step.run registers).1, ((step.run registers).2 step.register).current)) ∧
    (∀ register, (registers register).current.toNat < 2 ^ 64 - 1 →
      ∃ moved code, moved.current.toNat = (registers register).current.toNat + 1 ∧
        code.number = .ok moved.current ∧
        (Step.advance register).run registers =
          (.number moved.current, registers.set register moved) ∧
        (Step.nextCode register).run registers = (.code code, registers.set register moved)) ∧
    (∀ register, ¬(registers register).current.toNat < 2 ^ 64 - 1 →
      ∀ between, KeepsApart register between →
        let later := after registers between
        later register = registers register ∧
        (Step.advance register).run later = (.exhausted {}, later) ∧
        (Step.nextCode register).run later = (.exhausted {}, later)) ∧
    Exhausted.message {} = "sequence exhausted the u64 key space" ∧
    (∀ register count,
      let made := min count (2 ^ 64 - 1 - (registers register).current.toNat)
      ∃ moved, moved.current.toNat = (registers register).current.toNat + made ∧
        (Step.advanceMany register count).run registers =
          (if made = count then .nothing else .exhausted {}, registers.set register moved)) ∧
    (∀ (step : Step) register, step.effect.target? ≠ some register →
      (step.run registers).2 register = registers register) ∧
    (∀ register between, KeepsApart register between →
      (issued registers register between).Nodup ∧
      (issued registers register between).Pairwise fun earlier later =>
        ∃ number larger, earlier.number = .ok number ∧ later.number = .ok larger ∧
          number < larger) ∧
    ∀ register other,
      (registers register = registers other ↔
        (registers register).current = (registers other).current) ∧
      (Step.equals register other).run registers =
        (.truth (decide ((registers register).current = (registers other).current)),
          registers) := by
  intro registers
  refine ⟨Follow.after (fun _ => rfl) steps, fun step rest => getElem?_run start steps step rest,
    ?_, ?_, rfl, run_advanceMany registers, ?_, fun _ _ => pairwise_issued registers,
    fun _ _ => ⟨eq_iff_current, run_equals registers _ _⟩⟩
  · intro register room
    obtain ⟨moved, reached, advanced, issued⟩ := run_of_lt room
    exact ⟨moved, .ofNumber moved.current, reached, Base62.decode_encode _, advanced, issued⟩
  · intro register full between apart later
    have same : later register = registers register := after_of_full registers full apart
    exact ⟨same, run_of_not_lt (same ▸ full)⟩
  · intro step register other
    rw [registers_run, apply_of_ne_target registers other]

/-- Of two registers one is moved to its end and the other stays one short of it. -/
theorem current_eq_start_add_moves_at_end :
    let start : Registers := fun _ => ⟨18446744073709551614⟩
    let registers := after start [.clone "a" "b", .advance "a"]
    (registers "a").current.toNat = 18446744073709551614 + 1 ∧
      (registers "b").current.toNat < 2 ^ 64 - 1 ∧
      (∃ moved, (Step.advance "b").run registers = (.number moved, registers.set "b" ⟨moved⟩)) ∧
      ¬(registers "a").current.toNat < 2 ^ 64 - 1 ∧ KeepsApart "a" [.advance "b"] ∧
      (let later := after registers [.advance "b"]
       (Step.advance "a").run later = (.exhausted {}, later)) ∧
      (Step.clone "a" "b").effect.target? ≠ some "a" ∧
      ((Step.clone "a" "b").run registers).2 "a" = registers "a" ∧
      KeepsApart "b" [.nextCode "b", .nextCode "b"] ∧
      (issued registers "b" [.nextCode "b", .nextCode "b"]).Nodup := by
  intro start registers
  have room : (registers "b").current.toNat < 2 ^ 64 - 1 := by decide +kernel
  have full : ¬(registers "a").current.toNat < 2 ^ 64 - 1 := by decide +kernel
  have apart : KeepsApart "a" [.advance "b"] := by
    rintro source (_ | ⟨_, member⟩)
    contradiction
  have target : (Step.clone "a" "b").effect.target? ≠ some "a" := by decide
  have apartOther : KeepsApart "b" [.nextCode "b", .nextCode "b"] := by
    rintro source (_ | ⟨_, _ | ⟨_, member⟩⟩)
    contradiction
  obtain ⟨counted, -, moves, stays, -, -, frame, codes, -⟩ :=
    current_eq_start_add_moves start [.clone "a" "b", .advance "a"]
  obtain ⟨moved, -, -, -, advanced, -⟩ := moves "b" room
  exact ⟨counted "a", room, ⟨moved.current, advanced⟩, full, apart, (stays "a" full _ apart).2.1,
    target, frame _ _ target, apartOther, (codes "b" _ apartOther).1⟩

/-- A register that has failed at its end can be moved on again once another one has been copied
into it. -/
theorem not_forall_exhausted_ever_after :
    ¬∀ (value : UInt64) (before between : List Step) (register : String),
      let start : Registers := fun _ => ⟨value⟩
      ((Step.advance register).run (after start before)).1 = .exhausted {} →
        ((Step.advance register).run
          (after start (before ++ .advance register :: between))).1 = .exhausted {} := by
  intro forever
  have fails := forever 18446744073709551614 [.clone "a" "b", .advance "a"] [.clone "b" "a"] "a"
    (by decide +kernel)
  revert fails
  decide +kernel

end Script

end Shortlink.Sequence
