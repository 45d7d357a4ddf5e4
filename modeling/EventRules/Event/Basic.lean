/-
# EventRules.Event.Basic -- events

A rule that fires offers a new event; a store that accepts it gives it an id.
The stored event is what is needed later to decide whether the event is shown.

`Extent.of?` places an event in time, given its base date: a deadline ends there,
everything else starts there, and an interval ends a whole number of days later.
-/
import EventRules.Rule.Basic
import EventRules.Calendar.DateText
namespace EventRules

set_option autoImplicit false

/-- How an event repeats. -/
inductive Recurrence where
  | monthly | yearly
  deriving DecidableEq, Repr

namespace Recurrence

/-- The name in answers. -/
def name : Recurrence → String
  | monthly => "monthly"
  | yearly => "yearly"

/-- How the events of a time kind repeat. -/
def ofKind? : TimeKind → Option Recurrence
  | .recurringMonthly => some monthly
  | .recurringYearly => some yearly
  | _ => none

end Recurrence

/-- From when to when an event lasts. -/
structure Extent where
  start : Option Instant
  finish : Option Instant
  deriving DecidableEq

/-- The extent of an event of a time kind with a base date.  An interval lasts at
least one day; `none` when its end lies outside the calendar. -/
def Extent.of? (base : Instant) (kind : TimeKind) (days : Option Int) : Option Extent :=
  match kind with
  | .deadline => some ⟨none, some base⟩
  | .interval => (base.plusDays (max (days.getD 1) 1)).map fun finish => ⟨some base, some finish⟩
  | _ => some ⟨some base, none⟩

/-- A reference to the group of an event. -/
structure GroupTag where
  groupType : String
  groupId : String
  deriving DecidableEq, Repr

/-- Someone who takes part in an event. -/
structure Participant where
  refType : String
  refId : String
  deriving DecidableEq, Repr

/-- The identifier that a store gives to an event. -/
abbrev EventId := String

/-- An event that is offered to a store. -/
structure NewEvent where
  eventType : String
  actorId : String
  payload : Record
  timeKind : TimeKind
  start : Option Instant
  finish : Option Instant
  allDay : Bool
  recurrence : Option Recurrence
  group : Option GroupTag
  participants : List Participant
  visibilityDefault : VisibilityMode
  provenanceTag : String
  deriving DecidableEq

/-- What is known of an event when it is read back. -/
structure StoredEvent where
  id : EventId
  timeKind : TimeKind
  start : Option Instant
  finish : Option Instant
  provenanceTag : Option String
  deriving DecidableEq

namespace NewEvent

/-- The event as it is read back once stored under an id. -/
def withId (event : NewEvent) (id : EventId) : StoredEvent :=
  ⟨id, event.timeKind, event.start, event.finish, some event.provenanceTag⟩

end NewEvent

/-- The date an event is judged by: its end if it has one, else its start. -/
def StoredEvent.anchor (event : StoredEvent) : Option Instant :=
  event.finish.or event.start

end EventRules
