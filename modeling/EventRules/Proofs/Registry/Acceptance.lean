/-
# EventRules.Proofs.Registry.Acceptance -- what an accepted rule list is

A rule list is accepted exactly when its enabled rules have distinct scopes and ids
and nothing is wrong with any of them (`Registry.build_eq_ok`).  The registry then
answers every question by a filter of the enabled rules in their order:

* `rulesFor_of_build`, `memberRules_of_build`: the rules that watch a field;
* `watches_of_build`, `watchesMembers_of_build`: whether a type is watched;
* `resolve?_of_build`: an id leads to the one rule of its scope and id.

No accepted entity rule watches members, so the table of entity rules, which does
not look at targets, holds only rules that watch records.
-/
import EventRules.Proofs.Registry.Index
import Mathlib.Data.List.Nodup
namespace EventRules

set_option autoImplicit false

/-- Whether a rule of a scope watches a field of the records of a type, or of their
members. -/
def RegisteredRule.watches (scope : Scope) (target : Target) (recordType field : String)
    (r : RegisteredRule) : Bool :=
  r.spec.scope = scope ∧ r.spec.target = target ∧ r.spec.sourceType = recordType ∧
    r.spec.field = field

/-- What no two enabled rules of a registry share. -/
def Rule.key (rule : Rule) : Scope × String := (rule.scope, rule.id)

namespace Registry

variable {known : Catalogs} {rules : List Rule} {registry : Registry}

/-- The rules that count: those that are not disabled. -/
def enabled (rules : List Rule) : List Rule := rules.filter fun rule => rule.metadata.enabled

/-- The enabled rules as a registry holds them. -/
def accepted (known : Catalogs) (rules : List Rule) : List RegisteredRule :=
  (enabled rules).map (RegisteredRule.of known)

/-! ## The check -/

theorem map_fst_inspect (catalogs : Catalogs) (seen : List (Scope × String)) (rules : List Rule) :
    (inspect catalogs seen rules).map Prod.fst = enabled rules := by
  fun_induction inspect catalogs seen rules with
  | case1 => rfl
  | case2 seen rule rest isEnabled key taken ih => simp [enabled, isEnabled, ih]
  | case3 seen rule rest isEnabled key fresh ih => simp [enabled, isEnabled, ih]
  | case4 seen rule rest isDisabled ih => simp [enabled, isDisabled, ih]

/-- The check finds nothing exactly when keys are distinct, none was taken before, and
every rule by itself is faultless. -/
theorem inspect_faultless (catalogs : Catalogs) (seen : List (Scope × String))
    (rules : List Rule) :
    (inspect catalogs seen rules).flatMap Prod.snd = [] ↔
      ((enabled rules).map Rule.key).Nodup ∧ (∀ rule ∈ enabled rules, rule.key ∉ seen) ∧
        ∀ rule ∈ enabled rules, rule.violations catalogs = [] := by
  fun_induction inspect catalogs seen rules with
  | case1 => simp [enabled]
  | case2 seen rule rest isEnabled key taken ih =>
      constructor
      · intro faultless
        simp at faultless
      · rintro ⟨-, fresh, -⟩
        exact absurd taken (fresh rule (List.mem_filter.2 ⟨List.mem_cons_self, isEnabled⟩))
  | case3 seen rule rest isEnabled key fresh ih =>
      have split : enabled (rule :: rest) = rule :: enabled rest := by simp [enabled, isEnabled]
      rw [List.flatMap_cons, List.append_eq_nil_iff, ih, split, List.map_cons, List.nodup_cons,
        List.forall_mem_cons, List.forall_mem_cons]
      simp only [List.mem_cons, List.mem_map, not_or]
      constructor
      · rintro ⟨own, distinct, apart, faultless⟩
        refine ⟨⟨?_, distinct⟩, ⟨fresh, fun other member => (apart other member).2⟩, own, faultless⟩
        rintro ⟨other, member, same⟩
        exact (apart other member).1 same
      · rintro ⟨⟨unshared, distinct⟩, ⟨-, apart⟩, own, faultless⟩
        refine ⟨own, distinct, fun other member => ⟨?_, apart other member⟩, faultless⟩
        intro same
        exact unshared ⟨other, member, same⟩
  | case4 seen rule rest isDisabled ih =>
      rw [ih]
      simp [enabled, isDisabled]

/-- **A rule list is accepted exactly when** its enabled rules have distinct scopes and
ids and each of them is faultless; the registry indexes them. -/
theorem build_eq_ok :
    build known rules = .ok registry ↔
      ((enabled rules).map Rule.key).Nodup ∧
        (∀ rule ∈ enabled rules, rule.violations known = []) ∧
        registry = ofRules known (enabled rules) := by
  have checked := inspect_faultless known [] rules
  simp only [List.not_mem_nil, not_false_eq_true, implies_true, true_and] at checked
  unfold build violations
  rw [map_fst_inspect]
  constructor
  · intro built
    split at built
    · rename_i faultless
      cases built
      exact ⟨(checked.1 faultless).1, (checked.1 faultless).2, rfl⟩
    · cases built
  · rintro ⟨distinct, faultless, rfl⟩
    rw [checked.2 ⟨distinct, faultless⟩]

/-! ## Faultless rules -/

theorem mem_enabled {rule : Rule} (member : rule ∈ enabled rules) :
    rule ∈ rules ∧ rule.metadata.enabled = true := List.mem_filter.1 member

/-- A registered rule of an accepted list is an enabled rule of the list without flaws. -/
theorem of_mem_accepted (built : build known rules = .ok registry) {r : RegisteredRule}
    (member : r ∈ accepted known rules) :
    ∃ rule ∈ rules, rule.metadata.enabled = true ∧ r = RegisteredRule.of known rule ∧
      rule.spec.flaws known = [] := by
  obtain ⟨rule, isEnabled, rfl⟩ := List.mem_map.1 member
  have faultless := (build_eq_ok.1 built).2.1 rule isEnabled
  exact ⟨rule, (mem_enabled isEnabled).1, (mem_enabled isEnabled).2, rfl,
    List.map_eq_nil_iff.1 faultless⟩

theorem target_of_faultless {spec : RuleSpec} (faultless : spec.flaws known = [])
    (entity : spec.scope = .entity) : spec.target = .record := by
  simp only [RuleSpec.flaws, List.append_eq_nil_iff] at faultless
  have groupOnly := faultless.1.1.1.1.1
  rw [RuleSpec.scopeFlaws, if_pos entity] at groupOnly
  cases target : spec.target with
  | record => rfl
  | member => simp [target] at groupOnly

theorem days_of_faultless {setting : String} {days : Option Int}
    (faultless : RuleSpec.dayFlaws setting days = []) :
    0 ≤ days.getD 0 ∧ days.getD 0 ≤ maxDayOffset := by
  cases days with
  | none => exact ⟨Int.le_refl 0, by decide⟩
  | some n =>
      by_cases inside : 0 ≤ n ∧ n ≤ maxDayOffset
      · exact inside
      · simp [RuleSpec.dayFlaws, inside] at faultless

/-! ## Answers of the registry -/

/-- A registry that was built indexes the enabled rules. -/
theorem indexes_of_build (built : build known rules = .ok registry) :
    registry.Indexes (accepted known rules) := by
  obtain ⟨-, -, rfl⟩ := build_eq_ok.1 built
  exact indexes_ofRules known (enabled rules)

theorem keys_of_build (built : build known rules = .ok registry) :
    ((accepted known rules).map fun r => (r.spec.scope, r.id)).Nodup := by
  rw [accepted, List.map_map]
  exact (build_eq_ok.1 built).1

theorem record_of_entity (built : build known rules = .ok registry) {r : RegisteredRule}
    (member : r ∈ accepted known rules) (entity : r.spec.scope = .entity) :
    r.spec.target = .record := by
  obtain ⟨rule, -, -, rfl, faultless⟩ := of_mem_accepted built member
  exact target_of_faultless faultless entity

theorem rulesFor_of_build (built : build known rules = .ok registry) (scope : Scope)
    (recordType field : String) :
    registry.rulesFor scope recordType field =
      (accepted known rules).filter (RegisteredRule.watches scope .record recordType field) := by
  have indexes := indexes_of_build built
  cases scope with
  | entity =>
      rw [rulesFor, index, indexes.entity.rules_eq, List.filter_filter]
      apply List.filter_congr
      intro r member
      have record := record_of_entity built member
      by_cases entity : r.spec.scope = .entity <;>
        simp [RegisteredRule.watches, RegisteredRule.isEntity, entity, record]
  | group =>
      rw [rulesFor, index, indexes.group.rules_eq, List.filter_filter]
      apply List.filter_congr
      intro r _
      simp [RegisteredRule.watches, RegisteredRule.isGroup, Bool.and_comm, Bool.and_assoc,
        Bool.and_left_comm]

theorem memberRules_of_build (built : build known rules = .ok registry)
    (recordType field : String) :
    registry.memberRules recordType field =
      (accepted known rules).filter (RegisteredRule.watches .group .member recordType field) := by
  rw [memberRules, (indexes_of_build built).member.rules_eq, List.filter_filter]
  apply List.filter_congr
  intro r _
  simp [RegisteredRule.watches, RegisteredRule.isGroup, Bool.and_comm, Bool.and_assoc,
    Bool.and_left_comm]

theorem watchesMembers_of_build (built : build known rules = .ok registry) (recordType : String) :
    registry.watchesMembers recordType = true ↔
      ∃ r ∈ accepted known rules, r.spec.scope = .group ∧ r.spec.target = .member ∧
        r.spec.sourceType = recordType := by
  rw [watchesMembers, (indexes_of_build built).member.watches_eq, List.any_filter]
  simp [RegisteredRule.isGroup, and_assoc]

theorem watches_of_build (built : build known rules = .ok registry) (scope : Scope)
    (recordType : String) :
    registry.watches scope recordType = true ↔
      ∃ r ∈ accepted known rules, r.spec.scope = scope ∧ r.spec.sourceType = recordType := by
  have indexes := indexes_of_build built
  cases scope with
  | entity =>
      rw [watches, index, indexes.entity.watches_eq, List.any_filter]
      simp [RegisteredRule.isEntity]
  | group =>
      rw [watches, index, indexes.group.watches_eq, indexes.member.watches_eq, List.any_filter,
        List.any_filter]
      simp only [beq_self_eq_true, Bool.true_and, Bool.or_eq_true, List.any_eq_true,
        RegisteredRule.isGroup, Bool.and_eq_true, decide_eq_true_eq]
      constructor
      · rintro (⟨r, member, ⟨group, -⟩, type⟩ | ⟨r, member, ⟨group, -⟩, type⟩)
        · exact ⟨r, member, group, type⟩
        · exact ⟨r, member, group, type⟩
      · rintro ⟨r, member, group, type⟩
        cases target : r.spec.target with
        | record => exact .inl ⟨r, member, ⟨group, target⟩, type⟩
        | member => exact .inr ⟨r, member, ⟨group, target⟩, type⟩

/-- The scope and the id of an accepted rule lead to that rule. -/
theorem resolve?_of_build (built : build known rules = .ok registry) {r : RegisteredRule}
    (member : r ∈ accepted known rules) : registry.resolve? r.spec.scope r.id = some r := by
  rw [(indexes_of_build built).ids]
  have here : r ∈ (accepted known rules).filter (RegisteredRule.named r.spec.scope r.id) :=
    List.mem_filter.2 ⟨member, by simp [RegisteredRule.named]⟩
  have found := List.getLast?_eq_some_getLast (List.ne_nil_of_mem here)
  have last := List.mem_filter.1 (List.mem_of_getLast? found)
  rw [found, List.inj_on_of_nodup_map (keys_of_build built) last.1 member
    (by simpa [RegisteredRule.named] using last.2)]

end Registry

/-! ## An accepted list -/

namespace Example

/-- Orders, and crews with their members. -/
def catalogs : Catalogs where
  records :=
    [("crew", ⟨"crew", .ofList [("lead", .text), ("due", .date)],
        some ⟨"members", "id", .ofList [("role", .text), ("until", .date)]⟩⟩),
      ("order", ⟨"order", .ofList [("phase", .text), ("due", .date)], none⟩)]
  eventTypes := [("task", ⟨"task", [.point, .deadline], true⟩)]

/-- A rule on every save of a text field, with an event on the day of the write that is
shown from ten days before to five days after. -/
def rule (id : String) (enabled : Bool) (scope : Scope) (sourceType : String) (target : Target)
    (field : String) : Rule where
  apiVersion := "v1"
  kind := "AutoEventRule"
  metadata := ⟨id, id, none, none, enabled⟩
  spec :=
    { scope, sourceType, target, field, trigger := .onSave, eventType := "task",
      timeKind := .deadline, timeSource := .now, intervalDays := none, allDay := none,
      visibility := ⟨.window, some 10, some 5⟩, title := "done", description := none,
      prefill := [], memberLink := .none, groupLink := .none, condition := none, uiHint := none }

/-- Two entity rules on one field, a disabled one with an id that is taken, a group rule on
records and two on members. -/
def rules : List Rule :=
  [rule "cut:1" true .entity "order" .record "phase",
    rule "cut:1" false .entity "order" .record "due",
    rule "pack" true .entity "order" .record "phase",
    rule "lead" true .group "crew" .record "lead",
    rule "role" true .group "crew" .member "role",
    rule "cut:1" true .group "crew" .member "role"]

/-- The registry of these rules. -/
def registry : Registry := .ofRules catalogs (Registry.enabled rules)

theorem built : Registry.build catalogs rules = .ok registry := by
  refine Registry.build_eq_ok.2 ⟨?_, ?_, rfl⟩ <;> decide

end Example
end EventRules
