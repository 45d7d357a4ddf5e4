/-
# EventRules.Registry.Codec -- registries in answers

The answer forms of violations and of registered rules.
-/
import EventRules.Registry.Basic
import EventRules.Rule.Codec
namespace EventRules

set_option autoImplicit false

/-- The name and the parts of a flaw in answers. -/
def Flaw.parts : Flaw → String × List (String × Tree)
  | .unknownSourceType sourceType => ("unknown_source_type", [("source_type", .text sourceType)])
  | .unknownField recordType field =>
      ("unknown_field", [("record_type", .text recordType), ("field", .text field)])
  | .fieldNotDate field kind =>
      ("field_not_date", [("field", .text field), ("kind", .text kind.name)])
  | .unknownEventType eventType => ("unknown_event_type", [("event_type", .text eventType)])
  | .timeKindNotPermitted eventType timeKind =>
      ("time_kind_not_permitted",
        [("event_type", .text eventType), ("time_kind", .text timeKind.name)])
  | .duplicateId _ => ("duplicate_id", [])
  | .memberTargetOnEntity => ("member_target_on_entity", [])
  | .noMemberCatalog sourceType => ("no_member_catalog", [("source_type", .text sourceType)])
  | .groupLinkOnEntity => ("group_link_on_entity", [])
  | .allMembersOnEntity => ("all_members_on_entity", [])
  | .dayOffsetOutOfRange setting days =>
      ("day_offset_out_of_range", [("setting", .text setting), ("days", Tree.ofInt days)])

/-- A violation in answers; without a suggestion the entry is left out. -/
def Violation.encode (v : Violation) : Tree :=
  let (name, parts) := v.flaw.parts
  .map ([("rule_id", .text v.ruleId), ("scope", .text v.scope.name), ("violation", .text name)]
    ++ parts
    ++ match v.suggestion with
      | some s => [("suggestion", .text s)]
      | none => [])

end EventRules
