/-
# EventRules.Rule.Basic -- rules

A rule watches one field of one type of record and says which event a change of
that field produces: its type, its time, its title, who takes part, and from when
to when it is shown.

Enumerations that documents may extend -- triggers, time kinds, visibility modes
-- have a case for names that are not known here: an unknown trigger never fires,
an unknown mode is always visible.
-/
import EventRules.Catalog.Basic
import EventRules.Condition.Basic
namespace EventRules

set_option autoImplicit false

/-- Whether a rule anchors to a singular record or to a group record. -/
inductive Scope where
  | entity | group
  deriving DecidableEq, Repr

/-- Whether the watched field belongs to the written record or to its members. -/
inductive Target where
  | record | member
  deriving DecidableEq, Repr

/-- When a rule fires, given the value of the watched field before and after. -/
inductive Trigger where
  | onSave | onChange | onFirstSet
  /-- A trigger that is not known here; it never fires. -/
  | unrecognized
  deriving DecidableEq, Repr

/-- Where the date of an event comes from. -/
inductive TimeSource where
  /-- The new value of the watched field. -/
  | field
  /-- The start of the current local day. -/
  | now
  deriving DecidableEq, Repr

/-- When an event is shown. -/
inductive VisibilityMode where
  | always | afterDate | untilDate | window
  /-- A mode that is not known here; its events are always shown. -/
  | unrecognized
  deriving DecidableEq, Repr

/-- Who takes part in an event. -/
inductive MemberLink where
  | none
  /-- The record or the member that the rule fired on. -/
  | entity
  /-- Every current member of the group. -/
  | allMembers
  deriving DecidableEq, Repr

/-- Whether an event refers to its group. -/
inductive GroupLink where
  | none | attach
  deriving DecidableEq, Repr

namespace Scope

/-- Every scope. -/
def everyOne : List Scope := [entity, group]

/-- The name in documents and messages. -/
def name : Scope → String
  | entity => "entity"
  | group => "group"

/-- The letter at the start of a provenance tag. -/
def letter : Scope → Char
  | entity => 'E'
  | group => 'G'

/-- The scope of a letter. -/
def ofLetter? (c : Char) : Option Scope :=
  if c = 'E' then some entity else if c = 'G' then some group else Option.none

theorem ofLetter?_letter (scope : Scope) : ofLetter? scope.letter = some scope := by
  cases scope <;> rfl

end Scope

namespace Target

/-- Every target. -/
def everyOne : List Target := [record, member]

/-- The name in documents. -/
def name : Target → String
  | record => "record"
  | member => "member"

end Target

namespace Trigger

/-- Every trigger that a document can name. -/
def known : List Trigger := [onSave, onChange, onFirstSet]

/-- The name in documents. -/
def name : Trigger → String
  | onSave => "on_save"
  | onChange => "on_change"
  | onFirstSet => "on_first_set"
  | unrecognized => "unrecognized"

end Trigger

namespace TimeSource

/-- Every time source. -/
def everyOne : List TimeSource := [field, now]

/-- The name in documents. -/
def name : TimeSource → String
  | field => "field"
  | now => "now"

end TimeSource

namespace VisibilityMode

/-- Every mode that a document can name. -/
def known : List VisibilityMode := [always, afterDate, untilDate, window]

/-- The name in documents. -/
def name : VisibilityMode → String
  | always => "always"
  | afterDate => "after_date"
  | untilDate => "until_date"
  | window => "window"
  | unrecognized => "unrecognized"

end VisibilityMode

namespace MemberLink

/-- Every link. -/
def everyOne : List MemberLink := [none, entity, allMembers]

/-- The name in documents. -/
def name : MemberLink → String
  | none => "none"
  | entity => "entity"
  | allMembers => "all_members"

end MemberLink

namespace GroupLink

/-- Every link. -/
def everyOne : List GroupLink := [none, attach]

/-- The name in documents. -/
def name : GroupLink → String
  | none => "none"
  | attach => "attach"

end GroupLink

/-- When an event is shown: a mode, and how many days around its date in a
window. -/
structure Visibility where
  mode : VisibilityMode
  beforeDays : Option Int
  afterDays : Option Int
  deriving DecidableEq, Repr

/-- Always visible, no days given. -/
def Visibility.default : Visibility := ⟨.always, none, none⟩

/-- The head of every document. -/
structure Metadata where
  id : String
  name : String
  description : Option String
  tags : Option (List String)
  enabled : Bool
  deriving DecidableEq, Repr

/-- What a rule watches and what it produces. -/
structure RuleSpec where
  scope : Scope
  sourceType : String
  target : Target
  field : String
  trigger : Trigger
  eventType : String
  timeKind : TimeKind
  timeSource : TimeSource
  /-- The length of an interval in days; less than one counts as one. -/
  intervalDays : Option Int
  /-- Set to override what the event type says. -/
  allDay : Option Bool
  visibility : Visibility
  title : String
  description : Option String
  /-- Fields of every payload. -/
  prefill : Record
  memberLink : MemberLink
  groupLink : GroupLink
  condition : Option Condition
  /-- Carried into payloads and never looked at. -/
  uiHint : Option Tree

/-- A rule document. -/
structure Rule where
  apiVersion : String
  kind : String
  metadata : Metadata
  spec : RuleSpec

namespace Rule

/-- The id of a rule. -/
def id (rule : Rule) : String := rule.metadata.id

/-- The name of a rule. -/
def name (rule : Rule) : String := rule.metadata.name

/-- The scope of a rule. -/
def scope (rule : Rule) : Scope := rule.spec.scope

end Rule
end EventRules
