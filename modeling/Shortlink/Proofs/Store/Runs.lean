import Shortlink.Store.Call

/-!
# Runs of calls

A run of calls can be cut anywhere: the rest goes on from the store that the first
part leaves.
-/

namespace Shortlink.Call

variable {σ : Type} [KeyStore σ]

theorem runAll_append (store : σ) (calls more : List Call) :
    runAll store (calls ++ more) =
      { answer := (runAll store calls).answer ++
          (runAll (runAll store calls).store more).answer
        store := (runAll (runAll store calls).store more).store
        events := (runAll store calls).events ++
          (runAll (runAll store calls).store more).events } := by
  induction calls generalizing store with
  | nil => rfl
  | cons call rest ih =>
      rw [List.cons_append, runAll, ih, runAll]
      simp only [List.cons_append, List.append_assoc]

theorem runAll_concat (store : σ) (calls : List Call) (last : Call) :
    runAll store (calls ++ [last]) =
      { answer := (runAll store calls).answer ++ [(last.run (runAll store calls).store).answer]
        store := (last.run (runAll store calls).store).store
        events := (runAll store calls).events ++
          (last.run (runAll store calls).store).events } := by
  rw [runAll_append, runAll, runAll, List.append_nil]

theorem length_answer_runAll (store : σ) (calls : List Call) :
    (runAll store calls).answer.length = calls.length := by
  induction calls generalizing store with
  | nil => rfl
  | cons call rest ih => rw [runAll, List.length_cons, ih, List.length_cons]

end Shortlink.Call
