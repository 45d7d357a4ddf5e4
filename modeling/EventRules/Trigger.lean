/-
# EventRules.Trigger -- when a rule fires

A write is classified by the value of a field before and after.  The change is
judged by canonical text, so the order of keys never counts.  Every trigger needs
a value that is present after the write.
-/
import EventRules.Rule.Basic
import EventRules.Value.Canonical
namespace EventRules

set_option autoImplicit false

/-- What one write did to one field. -/
structure Change where
  hasPrevious : Bool
  hasNext : Bool
  changed : Bool
  deriving DecidableEq, Repr

namespace Change

/-- Classify the values of a field before and after a write. -/
def of (previous next : Value) : Change :=
  ⟨previous.isPresent, next.isPresent, !previous.canonicalEq next⟩

/-- Whether the field was absent before and is present now. -/
def firstSet (change : Change) : Bool := !change.hasPrevious && change.hasNext

end Change

/-- Whether a trigger fires on a change. -/
def Trigger.fires : Trigger → Change → Bool
  | .onSave, change => change.hasNext
  | .onChange, change => change.changed && change.hasNext
  | .onFirstSet, change => change.firstSet
  | .unrecognized, _ => false

end EventRules
