/-
# EventRules.Proofs.Trigger -- which writes change a field

A write changes a field exactly when the values before and after differ by more than stamps in
place of dates, at any depth (`Change.of_exact`).  A field that comes to have a value, or loses
the one it had, is always changed.  So each trigger is stricter than the next: what fires when
a field is first set fires when it changes, and what fires when it changes fires on every save
of a value.
-/
import EventRules.Proofs.Value.Canonical
import EventRules.Trigger
namespace EventRules

set_option autoImplicit false

namespace Change

theorem changed_eq_false {previous next : Value} :
    (Change.of previous next).changed = false ↔ previous.canonicalEq next = true := by
  rw [Change.of, Bool.not_eq_false']

/-- A field that is set or unset by a write is changed by it. -/
theorem changed_of_isPresent {previous next : Value}
    (differ : previous.isPresent ≠ next.isPresent) : (Change.of previous next).changed = true := by
  rw [← Bool.not_eq_false, changed_eq_false, Value.canonicalEq_iff_stamped]
  intro same
  rw [← Value.isPresent_stamped previous, same, Value.isPresent_stamped] at differ
  exact differ rfl

/-- **Changes are told exactly.**  Two values have one canonical text exactly when they are
written as one document.  A write leaves a field unchanged exactly when the two values agree up
to stamps for dates, so never when one of them is present and the other is not.  A trigger for
the first value of a field fires only on changes, and a trigger for changes only on saves of a
value. -/
theorem of_exact (previous next : Value) :
    (previous.canonicalEq next = true ↔ previous.toTree = next.toTree) ∧
      ((Change.of previous next).changed = false ↔ previous.stamped = next.stamped) ∧
      (previous.isPresent ≠ next.isPresent → previous.canonicalEq next = false) ∧
      (Trigger.onFirstSet.fires (Change.of previous next) = true →
        Trigger.onChange.fires (Change.of previous next) = true) ∧
      (Trigger.onChange.fires (Change.of previous next) = true →
        Trigger.onSave.fires (Change.of previous next) = true) := by
  refine ⟨Value.canonicalEq_iff_toTree, changed_eq_false.trans Value.canonicalEq_iff_stamped,
    ?_, ?_, ?_⟩
  · intro differ
    have changed := changed_of_isPresent differ
    rwa [Change.of, Bool.not_eq_true'] at changed
  · intro fires
    rw [Trigger.fires, firstSet, Bool.and_eq_true, Bool.not_eq_true'] at fires
    have absent : previous.isPresent = false := fires.1
    have present : next.isPresent = true := fires.2
    rw [Trigger.fires, Bool.and_eq_true]
    refine ⟨changed_of_isPresent ?_, fires.2⟩
    rw [absent, present]
    exact Bool.false_ne_true
  · intro fires
    rw [Trigger.fires, Bool.and_eq_true] at fires
    exact fires.2

end Change
end EventRules
