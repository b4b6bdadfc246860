import Shortlink.Log.Filter

/-!
# What filters let through

What lets a level through lets graver ones through, too.  A filter that enables a level
for all targets lets through every event that is at least as grave, whatever it is about.
-/

namespace Shortlink.Log

theorem Threshold.allows_of_rank_le {threshold : Threshold} {level graver : Level}
    (allowed : threshold.allows level) (grave : graver.rank ≤ level.rank) :
    threshold.allows graver :=
  decide_eq_true (Nat.le_trans grave (of_decide_eq_true allowed))

namespace Filter

variable {filter : Filter} {level : Level}

theorem admits_of_rank_le {graver : Level} {target : String} {fields? : Option (List String)}
    (admitted : filter.admits { level, target, fields? }) (grave : graver.rank ≤ level.rank) :
    filter.admits { level := graver, target, fields? } := by
  rw [admits, Option.getD_eq_iff] at admitted ⊢
  rcases admitted with found | ⟨-, impossible⟩
  · obtain ⟨directive, applies, allowed⟩ := Option.map_eq_some_iff.mp found
    exact .inl (Option.map_eq_some_iff.mpr
      ⟨directive, applies, Threshold.allows_of_rank_le allowed grave⟩)
  · contradiction

/-- During every request a filter lets a level through, whatever an event is filed under and
whatever fields it has. -/
structure Enables (filter : Filter) (level : Level) : Prop where
  /-- The level is not beyond all that is let through. -/
  reached : filter.maximum.allows level
  /-- The plain directives let the level through, or else the spanned ones do. -/
  admitted : ∀ (target : String) (fields : List String) (span : Span),
    filter.admits { level, target, fields? := some fields } ∨
      filter.showsRequests ∧ (filter.scope span).allows level

theorem Enables.lets_during (enables : filter.Enables level) {event : Event}
    (grave : event.level.rank ≤ level.rank) (span : Span) :
    filter.lets { span? := some span, event } := by
  have reached := Threshold.allows_of_rank_le enables.reached grave
  rw [lets, reached, Bool.true_and, Bool.or_eq_true, Bool.and_eq_true]
  rcases enables.admitted event.target event.fieldNames span with plain | ⟨shown, spanned⟩
  · exact .inl (admits_of_rank_le plain grave)
  · exact .inr ⟨shown, Threshold.allows_of_rank_le spanned grave⟩

/-- A filter lets a level through for all that is filed under a target, during requests and
outside of them. -/
def EnablesFor (filter : Filter) (level : Level) (target : String) : Prop :=
  ∀ entry : Entry, isStartOf target entry.event.target → entry.event.level.rank ≤ level.rank →
    filter.lets entry

/-- It is enough that the plain directives let the level through. -/
theorem enablesFor_of_admits {target : String} (reached : filter.maximum.allows level)
    (admitted : ∀ within, isStartOf target within → ∀ fields,
      filter.admits { level, target := within, fields? := some fields }) :
    filter.EnablesFor level target := by
  intro entry filed grave
  have passes : filter.admits entry.event.subject :=
    admits_of_rank_le (admitted _ filed _) grave
  rw [lets, Threshold.allows_of_rank_le reached grave, passes]
  rfl

end Filter

end Shortlink.Log
