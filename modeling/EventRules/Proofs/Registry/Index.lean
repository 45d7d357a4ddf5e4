/-
# EventRules.Proofs.Registry.Index -- what the indexes of a registry hold

Adding a rule touches one of the three watch tables, one of the two lists of ids
and the count.  `Registry.Indexes` says what all of them hold together: each table
has exactly the rules of its scope and target, under their type and field, in the
order in which they were added; an id leads to the last rule of its scope and id.

* `WatchTable.Holds.add`, `Registry.Indexes.add`: what one rule changes.
* `Registry.indexes_ofRules`: what holds after a whole list, by induction from it.
-/
import EventRules.Proofs.Keyed
import EventRules.Registry.Basic
namespace EventRules

set_option autoImplicit false

/-! ## One table -/

namespace WatchTable

/-- A table holds a list of rules: by type and field in their order, and it knows
exactly their types. -/
structure Holds (table : WatchTable) (rules : List RegisteredRule) : Prop where
  rules_eq : ∀ recordType field, table.rules recordType field =
    rules.filter fun r => r.spec.sourceType = recordType ∧ r.spec.field = field
  watches_eq : ∀ recordType, table.watches recordType =
    rules.any fun r => r.spec.sourceType = recordType

theorem rules_eq_getD (table : WatchTable) (recordType field : String) :
    table.rules recordType field =
      (Keyed.get? field ((Keyed.get? recordType table).getD [])).getD [] := by
  unfold rules
  cases Keyed.get? recordType table <;> rfl

/-- A rule goes after those that watch the same field of the same type; every other
place keeps its rules. -/
theorem rules_add (table : WatchTable) (r : RegisteredRule) (recordType field : String) :
    (table.add r).rules recordType field = table.rules recordType field ++
      if r.spec.sourceType = recordType ∧ r.spec.field = field then [r] else [] := by
  rw [rules_eq_getD, rules_eq_getD, add, Keyed.get?_insert]
  by_cases sameType : r.spec.sourceType = recordType
  · subst sameType
    rw [if_pos rfl, Option.getD_some, Keyed.get?_insert]
    by_cases sameField : r.spec.field = field
    · subst sameField
      simp
    · simp [sameField]
  · simp [sameType]

theorem watches_add (table : WatchTable) (r : RegisteredRule) (recordType : String) :
    (table.add r).watches recordType =
      (decide (r.spec.sourceType = recordType) || table.watches recordType) :=
  Keyed.has_insert _ _ _ _

theorem Holds.empty : Holds [] [] := ⟨fun _ _ => rfl, fun _ => rfl⟩

theorem Holds.add {table : WatchTable} {rules : List RegisteredRule} (holds : table.Holds rules)
    (r : RegisteredRule) : (table.add r).Holds (rules ++ [r]) where
  rules_eq recordType field := by
    rw [rules_add, holds.rules_eq, List.filter_append]
    by_cases here : r.spec.sourceType = recordType ∧ r.spec.field = field <;> simp [here]
  watches_eq recordType := by
    rw [watches_add, holds.watches_eq, List.any_append, Bool.or_comm]
    simp

/-- A table that takes only the rules of one sort. -/
theorem Holds.add_if {table : WatchTable} {rules : List RegisteredRule}
    {sort : RegisteredRule → Bool} (holds : table.Holds (rules.filter sort)) (r : RegisteredRule) :
    (if sort r then table.add r else table).Holds ((rules ++ [r]).filter sort) := by
  rw [List.filter_append]
  by_cases takes : sort r
  · simpa [takes] using holds.add r
  · simpa [takes] using holds

end WatchTable

/-! ## The registry -/

namespace RegisteredRule

/-- Whether the rule belongs to the table of entity rules, whatever its target. -/
def isEntity (r : RegisteredRule) : Bool := r.spec.scope = .entity

/-- Whether the rule belongs to the table of group rules that watch records or to that
of those that watch members. -/
def isGroup (r : RegisteredRule) (target : Target) : Bool :=
  r.spec.scope = .group ∧ r.spec.target = target

/-- Whether the rule has a scope and an id. -/
def named (scope : Scope) (id : String) (r : RegisteredRule) : Bool :=
  r.spec.scope = scope ∧ r.id = id

end RegisteredRule

namespace Registry

/-- The indexes of a registry hold a list of rules, in its order. -/
structure Indexes (registry : Registry) (rules : List RegisteredRule) : Prop where
  entity : registry.entity.Holds (rules.filter RegisteredRule.isEntity)
  group : registry.group.Holds (rules.filter fun r => r.isGroup .record)
  member : registry.member.Holds (rules.filter fun r => r.isGroup .member)
  ids : ∀ scope id, registry.resolve? scope id =
    (rules.filter (RegisteredRule.named scope id)).getLast?
  size : registry.size = rules.length

theorem Indexes.empty : Indexes Registry.empty [] where
  entity := .empty
  group := .empty
  member := .empty
  ids scope _ := by cases scope <;> rfl
  size := rfl

/-! Where the parts of a registry go when a rule is added. -/

theorem entity_add (registry : Registry) (r : RegisteredRule) :
    (registry.add r).entity = if r.isEntity then registry.entity.add r else registry.entity := by
  cases scope : r.spec.scope <;> cases target : r.spec.target <;>
    simp [add, addToIndex, addToIds, RegisteredRule.isEntity, scope, target]

theorem group_add (registry : Registry) (r : RegisteredRule) :
    (registry.add r).group =
      if r.isGroup .record then registry.group.add r else registry.group := by
  cases scope : r.spec.scope <;> cases target : r.spec.target <;>
    simp [add, addToIndex, addToIds, RegisteredRule.isGroup, scope, target]

theorem member_add (registry : Registry) (r : RegisteredRule) :
    (registry.add r).member =
      if r.isGroup .member then registry.member.add r else registry.member := by
  cases scope : r.spec.scope <;> cases target : r.spec.target <;>
    simp [add, addToIndex, addToIds, RegisteredRule.isGroup, scope, target]

theorem size_add (registry : Registry) (r : RegisteredRule) :
    (registry.add r).size = registry.size + 1 := by
  cases scope : r.spec.scope <;> cases target : r.spec.target <;>
    simp [add, addToIndex, addToIds, scope, target]

theorem resolve?_add (registry : Registry) (r : RegisteredRule) (scope : Scope) (id : String) :
    (registry.add r).resolve? scope id =
      if r.named scope id then some r else registry.resolve? scope id := by
  cases here : r.spec.scope <;> cases target : r.spec.target <;> cases scope <;>
    simp [add, addToIndex, addToIds, resolve?, ids, RegisteredRule.named, here, target,
      Keyed.get?_insert]

/-- One rule more: exactly one table takes it, and its id leads to it. -/
theorem Indexes.add {registry : Registry} {rules : List RegisteredRule}
    (indexes : registry.Indexes rules) (r : RegisteredRule) :
    (registry.add r).Indexes (rules ++ [r]) where
  entity := by
    rw [entity_add]
    exact indexes.entity.add_if r
  group := by
    rw [group_add]
    exact indexes.group.add_if r
  member := by
    rw [member_add]
    exact indexes.member.add_if r
  ids scope id := by
    rw [resolve?_add, indexes.ids, List.filter_append]
    by_cases named : r.named scope id <;> simp [named]
  size := by
    rw [size_add, indexes.size, List.length_append, List.length_singleton]

theorem indexes_foldl {registry : Registry} {before : List RegisteredRule}
    (indexes : registry.Indexes before) (rules : List RegisteredRule) :
    (rules.foldl Registry.add registry).Indexes (before ++ rules) := by
  induction rules generalizing registry before with
  | nil => simpa using indexes
  | cons r rules ih => simpa using ih (indexes.add r)

/-- Indexing a list of rules makes a registry that holds exactly that list. -/
theorem indexes_ofRules (catalogs : Catalogs) (rules : List Rule) :
    (ofRules catalogs rules).Indexes (rules.map (RegisteredRule.of catalogs)) := by
  have indexed := indexes_foldl Indexes.empty (rules.map (RegisteredRule.of catalogs))
  rwa [List.foldl_map, List.nil_append] at indexed

end Registry
end EventRules
