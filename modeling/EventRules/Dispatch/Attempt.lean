/-
# EventRules.Dispatch.Attempt -- one firing rule

An attempt is a rule whose trigger fires on a field of a written record or of one
of its members.  `Attempt.prepare` works out the event that it offers, or why it
offers none: the base date must exist, the condition must hold in the context of
the change, and the extent must lie inside the calendar, in this order.  A rule
that is dated by the day of the dispatch crashes the program where the calendar
does not have that day.

`Attempt.context` is what conditions and titles can read.
-/
import EventRules.Dispatch.Write
import EventRules.Registry.Basic
import EventRules.Condition.Holds
import EventRules.Event.Basic
import EventRules.Template
namespace EventRules

set_option autoImplicit false

/-- The written record, as every attempt of one write sees it. -/
structure Source where
  recordType : String
  id : String
  actorId : String
  before : Record
  after : Record

/-- A member, as an attempt on one of its fields sees it. -/
structure MemberChange where
  key : String
  refType : String
  before : Record
  after : Record

/-- A rule that fires on a field. -/
structure Attempt where
  rule : RegisteredRule
  field : String
  previous : Value
  next : Value
  source : Source
  /-- The member the field belongs to, if it is one of a member. -/
  member : Option MemberChange
  /-- Every current member of the group. -/
  allMembers : List Participant

/-- What tells the attempts of one write apart. -/
structure AttemptId where
  ruleId : String
  field : String
  memberKey : Option String
  deriving DecidableEq, Repr

/-- Why an attempt offers no event. -/
inductive SkipCause where
  /-- The new value of the field is no date. -/
  | invalidDate
  /-- The base date or the end of an interval lies outside the calendar. -/
  | dateOutOfRange
  | conditionFalse
  deriving DecidableEq, Repr

/-- The name in answers. -/
def SkipCause.name : SkipCause → String
  | invalidDate => "invalid_date"
  | dateOutOfRange => "date_out_of_range"
  | conditionFalse => "condition_false"

/-- An event ready for the store, with what a hook is told about it. -/
structure Offer where
  event : NewEvent
  title : String
  /-- The record or the member after the write. -/
  subject : Value
  context : Value

/-- What stands before the title of an event of a member. -/
def memberTitleMark : String := "[member] "

namespace Attempt

/-- What tells the attempt apart. -/
def key (a : Attempt) : AttemptId :=
  ⟨a.rule.id, a.field, a.member.map MemberChange.key⟩

/-- The member as a value of the context. -/
def memberValue (m : MemberChange) : Value :=
  .object [("before", .object m.before), ("fields", .object m.after), ("id", .text m.key),
    ("key", .text m.key)]

/-- What conditions and titles can read, keys ascending. -/
def context (a : Attempt) (offset : UtcOffset) (now base : Instant) : Value :=
  .object (
    [("actor", .text a.source.actorId), ("after", .object a.source.after),
      ("base_date", .date base), ("base_day", .text (offset.dayText base)),
      ("before", .object a.source.before), ("field", .text a.field)]
    ++ (match a.member with
        | some m => [("member", memberValue m)]
        | none => [])
    ++ [("now", .date now), ("previous", a.previous),
      ("rule", .object [("id", .text a.rule.id), ("name", .text a.rule.name)]),
      ("source", .object [("id", .text a.source.id), ("type", .text a.source.recordType)]),
      ("value", a.next)])

/-- The base date of the event, or why there is none; or the crash. -/
def base (a : Attempt) (offset : UtcOffset) (now : Instant) :
    Except Crash (Except SkipCause Instant) :=
  match a.rule.spec.timeSource with
  | .now =>
      match offset.startOfDay now with
      | .ok (some base) => .ok (.ok base)
      | .ok none => .ok (.error .dateOutOfRange)
      | .error crash => .error crash
  | .field =>
      match a.next.toDate offset with
      | some base => .ok (.ok base)
      | none => .ok (.error .invalidDate)

/-- The title of the event. -/
def title (a : Attempt) (context : Value) : String :=
  let title := Template.render a.rule.spec.title context
  if a.member.isSome then memberTitleMark ++ title else title

/-- An entry that is written when it is set. -/
def putSome (key : String) (value : Option Value) (record : Record) : Record :=
  match value with
  | some v => Keyed.insert key v record
  | none => record

/-- The payload of the event: the fixed fields of the rule, then the title, the
description and the hint, each replacing what is there. -/
def payload (a : Attempt) (context : Value) : Record :=
  let spec := a.rule.spec
  let titled := Keyed.insert "title" (.text (a.title context)) spec.prefill
  let described :=
    putSome "description"
      (spec.description.map fun d => .text (Template.render d context)) titled
  putSome "ui_hint" (spec.uiHint.map Value.ofTree) described

/-- The reference to the group, when the rule asks for it. -/
def group (a : Attempt) : Option GroupTag :=
  match a.rule.spec.scope, a.rule.spec.groupLink with
  | .group, .attach => some ⟨a.source.recordType, a.source.id⟩
  | _, _ => none

/-- Who takes part in the event. -/
def participants (a : Attempt) : List Participant :=
  match a.rule.spec.memberLink with
  | .none => []
  | .allMembers => a.allMembers
  | .entity =>
      match a.member with
      | some m => [⟨m.refType, m.key⟩]
      | none => [⟨a.source.recordType, a.source.id⟩]

/-- The event of the attempt with an extent, in its context. -/
def event (a : Attempt) (context : Value) (extent : Extent) : NewEvent :=
  let spec := a.rule.spec
  { eventType := spec.eventType
    actorId := a.source.actorId
    payload := a.payload context
    timeKind := spec.timeKind
    start := extent.start
    finish := extent.finish
    allDay := a.rule.allDay
    recurrence := Recurrence.ofKind? spec.timeKind
    group := a.group
    participants := a.participants
    visibilityDefault := spec.visibility.mode
    provenanceTag := a.rule.provenance.encode }

/-- Whether the condition of the rule holds; a rule without one holds always. -/
def admits (a : Attempt) (offset : UtcOffset) (context : Value) : Bool :=
  match a.rule.spec.condition with
  | some condition => condition.holds offset context
  | none => true

/-- The record or the member the rule fired on, after the write. -/
def subject (a : Attempt) : Value :=
  match a.member with
  | some m => .object m.after
  | none => .object a.source.after

/-- The event that the attempt offers from a base date, or why it offers none. -/
def offerFrom (a : Attempt) (offset : UtcOffset) (now base : Instant) : Except SkipCause Offer :=
  let context := a.context offset now base
  if a.admits offset context then
    match Extent.of? base a.rule.spec.timeKind a.rule.spec.intervalDays with
    | some extent => .ok ⟨a.event context extent, a.title context, a.subject, context⟩
    | none => .error .dateOutOfRange
  else .error .conditionFalse

/-- The event that the attempt offers, or why it offers none; or the crash. -/
def prepare (a : Attempt) (offset : UtcOffset) (now : Instant) :
    Except Crash (Except SkipCause Offer) :=
  match a.base offset now with
  | .error crash => .error crash
  | .ok (.error reason) => .ok (.error reason)
  | .ok (.ok base) => .ok (a.offerFrom offset now base)

end Attempt
end EventRules
