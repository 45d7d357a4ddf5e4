/-
# EventRules.Visibility -- when an event is shown

An event is shown unless its rule says otherwise: an event without a readable
tag, without a registered rule or without a date is always shown.  The bounds of
a window belong to it, and a bound outside the calendar bounds nothing.
-/
import EventRules.Registry.Basic
import EventRules.Event.Basic
namespace EventRules

set_option autoImplicit false

/-- Whether an event with a base date is shown at an instant. -/
def Visibility.shows (v : Visibility) (base now : Instant) : Bool :=
  match v.mode with
  | .always => true
  | .unrecognized => true
  | .afterDate => base.le now
  | .untilDate => now.le base
  | .window =>
      let opens := base.plusDays (-(v.beforeDays.getD 0))
      let closes := base.plusDays (v.afterDays.getD 0)
      (opens.all fun opens => opens.le now) && (closes.all fun closes => now.le closes)

/-- Whether an event is shown at an instant by a rule's visibility. -/
def StoredEvent.isVisibleBy (event : StoredEvent) (v : Visibility) (now : Instant) : Bool :=
  match event.anchor with
  | none => true
  | some base => v.shows base now

/-- Whether an event is shown at an instant by the registered rules. -/
def Registry.isVisible (registry : Registry) (event : StoredEvent) (now : Instant) : Bool :=
  match event.provenanceTag.bind Provenance.decode? with
  | none => true
  | some provenance =>
      match registry.resolve? provenance.scope provenance.ruleId with
      | none => true
      | some r => event.isVisibleBy r.spec.visibility now

end EventRules
