/-
# EventRules.Registry.Violation -- what is wrong with a rule

A rule must fit the catalogs: its record type, its field and its event type must
be known, its field must be a date when the event takes its time from it, and its
event type must permit its time kind.  Numbers of days lie between zero and one
hundred years.  What only groups have cannot stand in an entity rule.

`Rule.violations` lists everything that is wrong with one rule by itself, in a
fixed order; it depends on the rule and the catalogs alone.
-/
import EventRules.Rule.Basic
import EventRules.Registry.EditDistance
import EventRules.Text.Digits
namespace EventRules

set_option autoImplicit false

/-- An invariant of rules that is violated. -/
inductive Flaw where
  | unknownSourceType (sourceType : String)
  | unknownField (recordType field : String)
  | fieldNotDate (field : String) (kind : FieldKind)
  | unknownEventType (eventType : String)
  | timeKindNotPermitted (eventType : String) (timeKind : TimeKind)
  | duplicateId (scope : Scope)
  | memberTargetOnEntity
  | noMemberCatalog (sourceType : String)
  | groupLinkOnEntity
  | allMembersOnEntity
  | dayOffsetOutOfRange (setting : String) (days : Int)
  deriving DecidableEq, Repr

/-- The greatest number of days in a rule: one hundred years. -/
def maxDayOffset : Int := 36500

namespace Flaw

/-- The wording. -/
def message : Flaw → String
  | unknownSourceType sourceType => "unknown source type '" ++ sourceType ++ "'"
  | unknownField recordType field => "unknown field '" ++ field ++ "' on '" ++ recordType ++ "'"
  | fieldNotDate field kind =>
      "time_source is 'field' but '" ++ field ++ "' is declared as " ++ kind.label ++ ", not date"
  | unknownEventType eventType => "unknown event type '" ++ eventType ++ "'"
  | timeKindNotPermitted eventType timeKind =>
      "event type '" ++ eventType ++ "' does not permit time kind '" ++ timeKind.name ++ "'"
  | duplicateId scope => "duplicate rule id within " ++ scope.name ++ " scope"
  | memberTargetOnEntity => "member target is only valid on group rules"
  | noMemberCatalog sourceType => "'" ++ sourceType ++ "' has no member catalog"
  | groupLinkOnEntity => "group_link is only valid on group rules"
  | allMembersOnEntity => "member_link 'all_members' is only valid on group rules"
  | dayOffsetOutOfRange setting days =>
      setting ++ " must be within 0..=36500 (got " ++ String.ofList (Text.ofInt days) ++ ")"

end Flaw

/-- A flaw of a rule, with a name that may have been meant. -/
structure Violation where
  ruleId : String
  scope : Scope
  flaw : Flaw
  suggestion : Option String
  deriving DecidableEq, Repr

namespace Violation

/-- The wording, with the rule and the suggestion. -/
def message (v : Violation) : String :=
  "rule '" ++ v.ruleId ++ "' (" ++ v.scope.name ++ "): " ++ v.flaw.message ++
    match v.suggestion with
    | some name => " (did you mean '" ++ name ++ "'?)"
    | none => ""

end Violation

/-- The name and the fields of the catalog in which the watched field is looked up:
the record's own, or that of its members. -/
def FieldCatalog.watched (catalog : FieldCatalog) : Target → Option (String × FieldTable)
  | .record => some (catalog.recordType, catalog.fields)
  | .member =>
      catalog.members.map fun members =>
        (catalog.recordType ++ "." ++ members.listField, members.fields)

namespace RuleSpec

/-- A flaw with the name that may have been meant. -/
abbrev Finding := Flaw × Option String

/-- What only groups have but an entity rule asks for. -/
def scopeFlaws (spec : RuleSpec) : List Finding :=
  if spec.scope = .entity then
    (if spec.target = .member then [(.memberTargetOnEntity, none)] else []) ++
    (if spec.groupLink = .attach then [(.groupLinkOnEntity, none)] else []) ++
    (if spec.memberLink = .allMembers then [(.allMembersOnEntity, none)] else [])
  else []

/-- A number of days out of range. -/
def dayFlaws (setting : String) (days : Option Int) : List Finding :=
  match days with
  | some n =>
      if 0 ≤ n ∧ n ≤ maxDayOffset then [] else [(.dayOffsetOutOfRange setting n, none)]
  | none => []

/-- What is wrong with the watched field in the fields it is looked up in. -/
def tableFlaws (spec : RuleSpec) (name : String) (fields : FieldTable) : List Finding :=
  match fields.kind? spec.field with
  | none => [(.unknownField name spec.field, Suggestion.closest spec.field fields.keys)]
  | some kind =>
      if spec.timeSource = .field ∧ kind ≠ .date then [(.fieldNotDate spec.field kind, none)]
      else []

/-- What is wrong with the record type and the watched field. -/
def fieldFlaws (catalogs : Catalogs) (spec : RuleSpec) : List Finding :=
  match catalogs.record? spec.sourceType with
  | none =>
      [(.unknownSourceType spec.sourceType,
        Suggestion.closest spec.sourceType catalogs.recordTypes)]
  | some catalog =>
      match catalog.watched spec.target with
      | some (name, fields) => spec.tableFlaws name fields
      | none => if spec.scope = .entity then [] else [(.noMemberCatalog spec.sourceType, none)]

/-- What is wrong with the event type. -/
def eventFlaws (catalogs : Catalogs) (spec : RuleSpec) : List Finding :=
  match catalogs.eventType? spec.eventType with
  | none =>
      [(.unknownEventType spec.eventType,
        Suggestion.closest spec.eventType catalogs.eventTypeNames)]
  | some type =>
      if type.permits spec.timeKind then []
      else [(.timeKindNotPermitted spec.eventType spec.timeKind, none)]

/-- Everything that is wrong with the body of a rule. -/
def flaws (catalogs : Catalogs) (spec : RuleSpec) : List Finding :=
  spec.scopeFlaws ++ dayFlaws "interval_days" spec.intervalDays ++
    dayFlaws "visibility.before_days" spec.visibility.beforeDays ++
    dayFlaws "visibility.after_days" spec.visibility.afterDays ++
    spec.fieldFlaws catalogs ++ spec.eventFlaws catalogs

end RuleSpec

namespace Rule

/-- A finding about a rule. -/
def violation (rule : Rule) (finding : RuleSpec.Finding) : Violation :=
  ⟨rule.id, rule.scope, finding.1, finding.2⟩

/-- Everything that is wrong with a rule by itself. -/
def violations (catalogs : Catalogs) (rule : Rule) : List Violation :=
  (rule.spec.flaws catalogs).map rule.violation

/-- The violation of a rule whose id was taken before. -/
def duplicate (rule : Rule) : Violation :=
  rule.violation (.duplicateId rule.scope, none)

end Rule
end EventRules
