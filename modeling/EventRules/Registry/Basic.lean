/-
# EventRules.Registry.Basic -- the registered rules

Building a registry checks every enabled rule and either refuses the whole list,
with everything that is wrong, or indexes it: entity rules, group rules and
member rules by record type and field, each in the order of definition, and every
rule by its scope and id.  Disabled rules are passed over.

* `Registry.inspect` pairs each enabled rule with what is wrong with it; of two
  rules with one scope and id the later one is a duplicate and nothing else.
* `Registry.build` succeeds exactly when nothing is wrong.
-/
import EventRules.Registry.Violation
import EventRules.Provenance
namespace EventRules

set_option autoImplicit false

/-- A rule that fits the catalogs, with what was worked out when it was registered. -/
structure RegisteredRule where
  rule : Rule
  provenance : Provenance
  /-- The rule's own setting, else that of its event type. -/
  allDay : Bool

namespace RegisteredRule

/-- The id of the rule. -/
def id (r : RegisteredRule) : String := r.rule.id

/-- The name of the rule. -/
def name (r : RegisteredRule) : String := r.rule.name

/-- The body of the rule. -/
def spec (r : RegisteredRule) : RuleSpec := r.rule.spec

/-- Register a rule against the event types. -/
def of (catalogs : Catalogs) (rule : Rule) : RegisteredRule where
  rule := rule
  provenance := ⟨rule.scope, rule.id⟩
  allDay :=
    match rule.spec.allDay with
    | some allDay => allDay
    | none =>
        match catalogs.eventType? rule.spec.eventType with
        | some type => type.allDay
        | none => false

end RegisteredRule

/-- Rules by record type and watched field. -/
abbrev WatchTable := List (String × List (String × List RegisteredRule))

namespace WatchTable

/-- The rules that watch a field of a record type, in the order of definition. -/
def rules (index : WatchTable) (recordType field : String) : List RegisteredRule :=
  match Keyed.get? recordType index with
  | some fields => (Keyed.get? field fields).getD []
  | none => []

/-- Whether some rule watches a record type. -/
def watches (index : WatchTable) (recordType : String) : Bool :=
  Keyed.has recordType index

/-- Add a rule after those that watch the same field. -/
def add (index : WatchTable) (r : RegisteredRule) : WatchTable :=
  let type := r.spec.sourceType
  let fields := (Keyed.get? type index).getD []
  let here := (Keyed.get? r.spec.field fields).getD []
  Keyed.insert type (Keyed.insert r.spec.field (here ++ [r]) fields) index

end WatchTable

/-- The registered rules, indexed. -/
structure Registry where
  entity : WatchTable
  group : WatchTable
  member : WatchTable
  /-- The entity rules by id. -/
  entityIds : List (String × RegisteredRule)
  /-- The group rules, of records and of members, by id. -/
  groupIds : List (String × RegisteredRule)
  size : Nat

namespace Registry

/-- A registry without rules. -/
def empty : Registry := ⟨[], [], [], [], [], 0⟩

instance : Inhabited Registry := ⟨empty⟩

/-- Add a rule to the index that its scope and target name. -/
def addToIndex (registry : Registry) (r : RegisteredRule) : Registry :=
  match r.spec.scope, r.spec.target with
  | .entity, _ => { registry with entity := registry.entity.add r }
  | .group, .record => { registry with group := registry.group.add r }
  | .group, .member => { registry with member := registry.member.add r }

/-- Add a rule under its id. -/
def addToIds (registry : Registry) (r : RegisteredRule) : Registry :=
  match r.spec.scope with
  | .entity => { registry with entityIds := Keyed.insert r.id r registry.entityIds }
  | .group => { registry with groupIds := Keyed.insert r.id r registry.groupIds }

/-- Add a rule. -/
def add (registry : Registry) (r : RegisteredRule) : Registry :=
  let indexed := (registry.addToIndex r).addToIds r
  { indexed with size := registry.size + 1 }

/-- The index of the rules of a scope that watch records. -/
def index (registry : Registry) : Scope → WatchTable
  | .entity => registry.entity
  | .group => registry.group

/-- The rules of a scope by id. -/
def ids (registry : Registry) : Scope → List (String × RegisteredRule)
  | .entity => registry.entityIds
  | .group => registry.groupIds

/-- The rules that watch a field of a record, in the order of definition. -/
def rulesFor (registry : Registry) (scope : Scope) (recordType field : String) :
    List RegisteredRule :=
  (registry.index scope).rules recordType field

/-- The rules that watch a field of the members of a group. -/
def memberRules (registry : Registry) (recordType field : String) : List RegisteredRule :=
  registry.member.rules recordType field

/-- Whether some rule of a scope watches a record type or its members. -/
def watches (registry : Registry) (scope : Scope) (recordType : String) : Bool :=
  (registry.index scope).watches recordType ||
    (scope == .group && registry.member.watches recordType)

/-- Whether some rule watches the members of a record type. -/
def watchesMembers (registry : Registry) (recordType : String) : Bool :=
  registry.member.watches recordType

/-- The rule of a scope and an id. -/
def resolve? (registry : Registry) (scope : Scope) (id : String) : Option RegisteredRule :=
  Keyed.get? id (registry.ids scope)

/-- Every rule: entity rules, then group rules, each by id. -/
def toList (registry : Registry) : List RegisteredRule :=
  (registry.entityIds ++ registry.groupIds).map Prod.snd

/-- Each enabled rule with what is wrong with it, where `seen` are the scopes and
ids of the rules before. -/
def inspect (catalogs : Catalogs) :
    List (Scope × String) → List Rule → List (Rule × List Violation)
  | _, [] => []
  | seen, rule :: rest =>
      if rule.metadata.enabled then
        let key := (rule.scope, rule.id)
        if key ∈ seen then (rule, [rule.duplicate]) :: inspect catalogs seen rest
        else (rule, rule.violations catalogs) :: inspect catalogs (key :: seen) rest
      else inspect catalogs seen rest

/-- Everything that is wrong with a list of rules, in its order. -/
def violations (catalogs : Catalogs) (rules : List Rule) : List Violation :=
  (inspect catalogs [] rules).flatMap Prod.snd

/-- Index rules that fit the catalogs. -/
def ofRules (catalogs : Catalogs) (rules : List Rule) : Registry :=
  rules.foldl (fun registry rule => registry.add (RegisteredRule.of catalogs rule)) empty

/-- Check and index a list of rules; everything that is wrong if anything is. -/
def build (catalogs : Catalogs) (rules : List Rule) : Except (List Violation) Registry :=
  match violations catalogs rules with
  | [] => .ok (ofRules catalogs ((inspect catalogs [] rules).map Prod.fst))
  | found => .error found

end Registry

namespace Violation

/-- The ids of the rules that violations are about, in order, none twice. -/
def ruleIds (violations : List Violation) : List String :=
  (violations.map Violation.ruleId).eraseDups

/-- The wording of a refusal. -/
def summary (violations : List Violation) : String :=
  "rule registry rejected " ++ String.ofList (Text.ofNat violations.length) ++
    " violation(s): " ++ String.intercalate "; " (violations.map Violation.message)

end Violation
end EventRules
