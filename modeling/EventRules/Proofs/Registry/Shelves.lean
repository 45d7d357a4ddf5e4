/-
# EventRules.Proofs.Registry.Shelves -- where a rule of a registry is found

The lists of a registry are shelves: one for each scope, record type and field, and one
for each field of the members of a group type.  An enabled rule stands on the shelf that
its body names (`Rule.shelf`), once, and on no other; the ids lead to the same rules, and
the count is theirs.  `Registry.Serves` says this of a registry and the rules it was built
from; `Registry.build_serves` says it of every registry that was built.

Distinct scopes and ids carry it all.  Of two rules with one id the later would take the
place of the earlier under that id, and both would be counted and stand on the shelves.
-/
import EventRules.Proofs.Registry.Faults
namespace EventRules

set_option autoImplicit false

/-! ## Shelves -/

/-- One of the lists in which the rules of a registry stand. -/
inductive Shelf where
  | records (scope : Scope) (recordType field : String)
  | members (recordType field : String)
  deriving DecidableEq

/-- The shelf that a rule names. -/
def Rule.shelf (rule : Rule) : Shelf :=
  match rule.spec.target with
  | .record => .records rule.scope rule.spec.sourceType rule.spec.field
  | .member => .members rule.spec.sourceType rule.spec.field

namespace Registry

/-- The rules on a shelf. -/
def onShelf (registry : Registry) : Shelf → List RegisteredRule
  | .records scope recordType field => registry.rulesFor scope recordType field
  | .members recordType field => registry.memberRules recordType field

/-- A registry answers every question as a list of rules says, and holds no other rule. -/
structure Serves (registry : Registry) (known : Catalogs) (rules : List Rule) : Prop where
  records : ∀ scope recordType field, registry.rulesFor scope recordType field =
    (rules.filter fun rule => rule.scope = scope ∧ rule.spec.target = .record ∧
      rule.spec.sourceType = recordType ∧ rule.spec.field = field).map (RegisteredRule.of known)
  members : ∀ recordType field, registry.memberRules recordType field =
    (rules.filter fun rule => rule.scope = .group ∧ rule.spec.target = .member ∧
      rule.spec.sourceType = recordType ∧ rule.spec.field = field).map (RegisteredRule.of known)
  /-- A rule stands once on its own shelf and on no other. -/
  once : ∀ rule ∈ rules, ∀ shelf, (registry.onShelf shelf).countP (fun r => r.rule.key = rule.key) =
    if rule.shelf = shelf then 1 else 0
  watches : ∀ scope recordType, registry.watches scope recordType = true ↔
    ∃ rule ∈ rules, rule.scope = scope ∧ rule.spec.sourceType = recordType
  watchesMembers : ∀ recordType, registry.watchesMembers recordType = true ↔
    ∃ rule ∈ rules, rule.spec.target = .member ∧ rule.spec.sourceType = recordType
  resolves : ∀ scope id, (registry.resolve? scope id).isSome = true ↔
    ∃ rule ∈ rules, rule.scope = scope ∧ rule.id = id
  /-- An id leads to the rule that stands on its shelf. -/
  resolved : ∀ scope id r, registry.resolve? scope id = some r →
    r.rule ∈ rules ∧ r.rule.key = (scope, id) ∧ r ∈ registry.onShelf r.rule.shelf ∧
      r.provenance = ⟨scope, id⟩ ∧ ∃ type, known.eventType? r.spec.eventType = some type ∧
        r.allDay = r.spec.allDay.getD type.allDay
  /-- Every rule is counted. -/
  size_eq : registry.size = rules.length
  listed : registry.toList.Perm (rules.map (RegisteredRule.of known))

variable {known : Catalogs} {rules : List Rule} {registry : Registry}

/-! ## On the shelves -/

theorem shelf_eq_records {rule : Rule} {scope : Scope} {recordType field : String} :
    rule.shelf = .records scope recordType field ↔ rule.scope = scope ∧
      rule.spec.target = .record ∧ rule.spec.sourceType = recordType ∧
        rule.spec.field = field := by
  cases target : rule.spec.target <;> simp [Rule.shelf, target]

theorem shelf_eq_members {rule : Rule} {recordType field : String} :
    rule.shelf = .members recordType field ↔ rule.spec.target = .member ∧
      rule.spec.sourceType = recordType ∧ rule.spec.field = field := by
  cases target : rule.spec.target <;> simp [Rule.shelf, target]

theorem group_of_member (built : build known rules = .ok registry) {r : RegisteredRule}
    (member : r ∈ accepted known rules) (target : r.spec.target = .member) :
    r.spec.scope = .group := by
  cases scope : r.spec.scope with
  | group => rfl
  | entity =>
      rw [record_of_entity built member scope] at target
      cases target

/-- A shelf holds the rules that name it, in their order. -/
theorem onShelf_of_build (built : build known rules = .ok registry) (shelf : Shelf) :
    registry.onShelf shelf = (accepted known rules).filter fun r => r.rule.shelf = shelf := by
  cases shelf with
  | records scope recordType field =>
      rw [onShelf, rulesFor_of_build built]
      apply List.filter_congr
      intro r _
      simp only [RegisteredRule.watches, shelf_eq_records]
      rfl
  | members recordType field =>
      rw [onShelf, memberRules_of_build built]
      apply List.filter_congr
      intro r member
      simp only [RegisteredRule.watches, shelf_eq_members, decide_eq_decide]
      constructor
      · rintro ⟨-, here⟩
        exact here
      · rintro ⟨target, here⟩
        exact ⟨group_of_member built member target, target, here⟩

/-- No two rules share a key, so each is counted once where it stands. -/
theorem countP_onShelf (built : build known rules = .ok registry) {rule : Rule}
    (isEnabled : rule ∈ enabled rules) (shelf : Shelf) :
    (registry.onShelf shelf).countP (fun r => r.rule.key = rule.key) =
      if rule.shelf = shelf then 1 else 0 := by
  have distinct := (build_eq_ok.1 built).1
  have same : ∀ other ∈ enabled rules, other.key = rule.key → other = rule :=
    fun other member equal => List.inj_on_of_nodup_map distinct member isEnabled equal
  rw [onShelf_of_build built, List.countP_filter, accepted, List.countP_map]
  by_cases here : rule.shelf = shelf
  · rw [if_pos here, ← List.count_eq_one_of_mem distinct (List.mem_map_of_mem isEnabled),
      List.count, List.countP_map]
    apply List.countP_congr
    intro other member
    simp only [Function.comp_apply, Bool.and_eq_true, decide_eq_true_eq, beq_iff_eq]
    constructor
    · exact And.left
    · intro equal
      cases same other member equal
      exact ⟨equal, here⟩
  · rw [if_neg here, List.countP_eq_zero]
    intro other member both
    simp only [Function.comp_apply, Bool.and_eq_true, decide_eq_true_eq] at both
    cases same other member both.1
    exact here both.2

/-! ## By id -/

theorem resolve?_eq_some (built : build known rules = .ok registry) {scope : Scope} {id : String}
    {r : RegisteredRule} : registry.resolve? scope id = some r ↔
      r ∈ accepted known rules ∧ r.spec.scope = scope ∧ r.id = id := by
  constructor
  · intro found
    rw [(indexes_of_build built).ids] at found
    have last := List.mem_filter.1 (List.mem_of_getLast? found)
    simpa [RegisteredRule.named] using last
  · rintro ⟨member, rfl, rfl⟩
    exact resolve?_of_build built member

/-- Whether the events of a rule take whole days: its own word, else that of its type. -/
theorem allDay_of {rule : Rule} {type : EventType}
    (named : known.eventType? rule.spec.eventType = some type) :
    (RegisteredRule.of known rule).allDay = rule.spec.allDay.getD type.allDay := by
  cases own : rule.spec.allDay <;> simp [RegisteredRule.of, own, named]

/-! ## All of them -/

/-- A rule with a new scope and id comes to the others. -/
theorem toList_add {r : RegisteredRule} (fresh : registry.resolve? r.spec.scope r.id = none) :
    (registry.add r).toList.Perm (r :: registry.toList) := by
  unfold resolve? ids at fresh
  cases scope : r.spec.scope with
  | entity =>
      rw [scope] at fresh
      have added := ((Keyed.insert_perm fresh r).append_right registry.groupIds).map Prod.snd
      cases target : r.spec.target <;>
        simpa [toList, add, addToIndex, addToIds, scope, target] using added
  | group =>
      rw [scope] at fresh
      have added := ((Keyed.insert_perm fresh r).append_left registry.entityIds).map Prod.snd
      have first := added.trans (List.perm_middle.map Prod.snd)
      cases target : r.spec.target <;>
        simpa [toList, add, addToIndex, addToIds, scope, target] using first

/-- Rules with distinct scopes and ids are all kept. -/
theorem toList_foldl {before : List RegisteredRule} (indexes : registry.Indexes before)
    (listed : registry.toList.Perm before) {rest : List RegisteredRule}
    (distinct : ((before ++ rest).map fun r => (r.spec.scope, r.id)).Nodup) :
    (rest.foldl Registry.add registry).toList.Perm (before ++ rest) := by
  induction rest generalizing registry before with
  | nil => simpa using listed
  | cons r rest ih =>
      have fresh : registry.resolve? r.spec.scope r.id = none := by
        rw [indexes.ids, List.getLast?_eq_none_iff, List.filter_eq_nil_iff]
        intro other member named
        rw [List.map_append, List.map_cons, List.nodup_middle] at distinct
        apply (List.nodup_cons.1 distinct).1
        refine List.mem_append_left _ (List.mem_map.2 ⟨other, member, ?_⟩)
        simpa [RegisteredRule.named] using named
      have more : (registry.add r).toList.Perm (before ++ [r]) :=
        (toList_add fresh).trans ((listed.cons r).trans (List.perm_append_singleton r before).symm)
      have split : before ++ r :: rest = before ++ [r] ++ rest := by simp
      rw [split] at distinct ⊢
      exact ih (indexes.add r) more distinct

theorem toList_of_build (built : build known rules = .ok registry) :
    registry.toList.Perm (accepted known rules) := by
  have distinct := keys_of_build built
  obtain ⟨-, -, rfl⟩ := build_eq_ok.1 built
  have kept : ((accepted known rules).foldl Registry.add Registry.empty).toList.Perm
      ([] ++ accepted known rules) := toList_foldl Indexes.empty (List.Perm.refl _) distinct
  rwa [accepted, List.foldl_map] at kept

/-- **A registry that was built serves its enabled rules.** -/
theorem build_serves (built : build known rules = .ok registry) :
    registry.Serves known (enabled rules) where
  records scope recordType field := by
    rw [rulesFor_of_build built, accepted, List.filter_map]
    rfl
  members recordType field := by
    rw [memberRules_of_build built, accepted, List.filter_map]
    rfl
  once rule isEnabled := countP_onShelf built isEnabled
  watches scope recordType := by
    rw [watches_of_build built]
    simp only [accepted, List.mem_map, exists_exists_and_eq_and]
    rfl
  watchesMembers recordType := by
    rw [watchesMembers_of_build built]
    constructor
    · rintro ⟨r, member, -, target, type⟩
      obtain ⟨rule, isEnabled, rfl⟩ := List.mem_map.1 member
      exact ⟨rule, isEnabled, target, type⟩
    · rintro ⟨rule, isEnabled, target, type⟩
      have member : RegisteredRule.of known rule ∈ accepted known rules :=
        List.mem_map_of_mem isEnabled
      exact ⟨_, member, group_of_member built member target, target, type⟩
  resolves scope id := by
    rw [Option.isSome_iff_exists]
    simp only [resolve?_eq_some built, accepted, List.mem_map, exists_exists_and_eq_and]
    rfl
  resolved scope id r found := by
    obtain ⟨member, rfl, rfl⟩ := (resolve?_eq_some built).1 found
    have shelved : r ∈ registry.onShelf r.rule.shelf := by
      rw [onShelf_of_build built]
      exact List.mem_filter.2 ⟨member, by simp⟩
    obtain ⟨rule, isEnabled, rfl⟩ := List.mem_map.1 member
    obtain ⟨type, named, -⟩ := ((exists_build_eq_ok.1 ⟨_, built⟩).2 rule isEnabled).permitted
    exact ⟨isEnabled, rfl, shelved, rfl, type, named, allDay_of named⟩
  size_eq := by
    rw [(indexes_of_build built).size, accepted, List.length_map]
  listed := toList_of_build built

end Registry

namespace Example

/-- The entity rules on the phase stand together in their order; the two rules `cut:1`
that are enabled are told apart by their scope, and the one that is disabled is nowhere. -/
theorem rules_served :
    Registry.build catalogs rules = .ok registry ∧
      (registry.rulesFor .entity "order" "phase").map RegisteredRule.id = ["cut:1", "pack"] ∧
      registry.rulesFor .entity "order" "due" = [] ∧
      (registry.memberRules "crew" "role").map RegisteredRule.id = ["role", "cut:1"] ∧
      (registry.resolve? .group "cut:1").isSome = true ∧
      registry.size = 5 ∧ registry.toList.length = 5 := by
  have serves := Registry.build_serves built
  have five : (Registry.enabled rules).length = 5 := by decide
  refine ⟨built, ?_, ?_, ?_, ?_, serves.size_eq.trans five, ?_⟩
  · rw [serves.records]
    decide
  · rw [serves.records]
    rfl
  · rw [serves.members]
    decide
  · rw [serves.resolves]
    decide
  · rw [serves.listed.length_eq, List.length_map, five]

end Example
end EventRules
