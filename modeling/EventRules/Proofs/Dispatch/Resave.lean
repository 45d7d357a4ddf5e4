/-
# EventRules.Proofs.Dispatch.Resave -- saving a group again unchanged

A group saved again as it was, with the members it had, is quiet: no rule on a change or
on a first value comes to anything, on the record or on a member -- as long as the members
are told apart by their key texts.

Members are compared by key text, each with the last of the former members of its text.
Of two members that share a text the earlier one is thus compared with the later one, and
where these two differ the rule fires though nothing was changed: `KeyedMember.Clashes`.
That is the one exception (`Engine.fireGroup_resaved`), and it does occur
(`Example.twins_not_quiet`).
-/
import EventRules.Proofs.Dispatch.Isolation
import EventRules.Proofs.Dispatch.Listing
import EventRules.Dispatch.MemoryStore
namespace EventRules

set_option autoImplicit false

/-! ## Nothing changed -/

/-- Whether a trigger asks for a change of the field, and not only for a value. -/
def Trigger.asksChange (trigger : Trigger) : Prop := trigger = .onChange ∨ trigger = .onFirstSet

/-- Such a trigger does not fire on a value that stays. -/
theorem Trigger.fires_same {trigger : Trigger} (asks : trigger.asksChange) (value : Value) :
    trigger.fires (Change.of value value) = false := by
  rcases asks with rfl | rfl
  · simp [fires, Change.of, Value.canonicalEq]
  · cases present : value.isPresent <;> simp [fires, Change.of, Change.firstSet, present]

namespace KeyedMember

/-- From the last member of a list under a key text to some member under that text a
trigger fires on a field. -/
def Clashes (members : List KeyedMember) (trigger : Trigger) (field text : String) : Prop :=
  ∃ m ∈ members, m.key = text ∧
    trigger.fires (Change.of ((lastRecord text members).value field) (m.record.value field)) = true

/-- A member of a list is compared with a member of its key text. -/
theorem lastRecord_of_mem {members : List KeyedMember} {m : KeyedMember} (listed : m ∈ members) :
    ∃ last ∈ members, last.key = m.key ∧ lastRecord m.key members = last.record := by
  have here : m ∈ members.filter fun other => other.key = m.key :=
    List.mem_filter.2 ⟨listed, by simp⟩
  have found := List.getLast?_eq_some_getLast (List.ne_nil_of_mem here)
  obtain ⟨isListed, same⟩ := List.mem_filter.1 (List.mem_of_getLast? found)
  refine ⟨_, isListed, by simpa using same, ?_⟩
  rw [lastRecord, found]
  rfl

/-- A clash is one of two members that share a key text and differ in the field. -/
theorem Clashes.differ {members : List KeyedMember} {trigger : Trigger} {field text : String}
    (clash : Clashes members trigger field text) (asks : trigger.asksChange) :
    ∃ m ∈ members, ∃ last ∈ members, m.key = text ∧ last.key = text ∧
      last.record.value field ≠ m.record.value field := by
  obtain ⟨m, listed, rfl, fires⟩ := clash
  obtain ⟨last, isLast, shared, compared⟩ := lastRecord_of_mem listed
  refine ⟨m, listed, last, isLast, rfl, shared, ?_⟩
  intro same
  rw [compared, same, Trigger.fires_same asks] at fires
  exact Bool.false_ne_true fires

/-- Where key texts are distinct no two members clash. -/
theorem not_clashes {members : List KeyedMember} (distinct : (members.map key).Nodup)
    {trigger : Trigger} (asks : trigger.asksChange) (field text : String) :
    ¬ Clashes members trigger field text := by
  intro clash
  obtain ⟨m, listed, last, isLast, named, shared, differ⟩ := clash.differ asks
  have same : last = m := List.inj_on_of_nodup_map distinct isLast listed (shared.trans named.symm)
  exact differ (congrArg (fun member => member.record.value field) same)

end KeyedMember

/-! ## The listing of a group saved again -/

namespace GroupWrite

/-- In a group saved again unchanged, a rule that asks for a change is only listed for a
member, and only where two members clash. -/
theorem clashes_of_mem_listing {w : GroupWrite} (again : w.previous = some w.next)
    (sameMembers : w.previousMembers = w.nextMembers) {catalogs : Catalogs}
    {rules : List RegisteredRule} {a : Attempt} (listed : a ∈ w.listing catalogs rules)
    (asks : a.rule.spec.trigger.asksChange) :
    ∃ catalog, catalogs.record? w.recordType = some catalog ∧
      ∃ text, a.key.memberKey = some text ∧
        KeyedMember.Clashes (w.current catalog) a.rule.spec.trigger a.field text := by
  have before : w.previous.getD [] = w.next := by rw [again, Option.getD_some]
  obtain ⟨fires, catalog, described, onRecord | ⟨members, keyed, m, isListed, onMember⟩⟩ :=
    of_mem_listing listed
  · -- on the record: both states are one record
    obtain ⟨field, -, r, -, -, rfl⟩ := Source.of_mem_pairs onRecord
    have unchanged : w.source.before = w.source.after := before
    rw [Attempt.fires, unchanged, Trigger.fires_same asks] at fires
    exact absurd fires Bool.false_ne_true
  · obtain ⟨field, -, r, -, -, rfl⟩ := Source.of_mem_pairs onMember
    have former : (w.listedChange members m).before =
        KeyedMember.lastRecord m.key (members.listed w.nextMembers w.next) := by
      rw [listedChange, sameMembers, before]
    refine ⟨catalog, described, m.key, rfl, ?_⟩
    rw [w.current_eq_listed keyed]
    rw [Attempt.fires, former] at fires
    exact ⟨m, isListed, rfl, fires⟩

end GroupWrite

/-! ## The report -/

/-- The keys in the three lists of a report. -/
def Report.keys (report : Report) : List AttemptId :=
  report.emitted.map Prod.fst ++ report.skipped.map Prod.fst ++ report.failures.map Prod.fst

section Resaved

variable {known : Catalogs} {rules : List Rule} {registry : Registry}

/-- The rule of an attempt of a group is the one group rule of its id. -/
theorem Registry.rule_of_key (built : build known rules = .ok registry) {rule : Rule}
    (member : rule ∈ rules) (isEnabled : rule.metadata.enabled = true) (group : rule.scope = .group)
    {a : Attempt} (accepted : a.rule ∈ accepted known rules) (inScope : a.rule.spec.scope = .group)
    (named : a.key.ruleId = rule.id) : a.rule = RegisteredRule.of known rule := by
  have mine : RegisteredRule.of known rule ∈ Registry.accepted known rules :=
    List.mem_map_of_mem (List.mem_filter.2 ⟨member, isEnabled⟩)
  refine List.inj_on_of_nodup_map (keys_of_build built) accepted mine ?_
  exact Prod.ext (inScope.trans group.symm) named

/-- **A group saved again unchanged is quiet but for clashing members.**  For every registry
that was built, any catalogs, offset, instant, store and hook: no entry of the report is
of a rule that asks for a change, except for a member that differs from the last one under
its key text so that the trigger fires between them.  When key texts are distinct there is
none at all. -/
theorem Engine.fireGroup_resaved (built : Registry.build known rules = .ok registry)
    {σ η : Type} (catalogs : Catalogs) (offset : UtcOffset) (outlet : Outlet σ η) (now : Instant)
    (state : σ × η) {w : GroupWrite} (again : w.previous = some w.next)
    (sameMembers : w.previousMembers = w.nextMembers) :
    let report := ((Engine.mk registry catalogs offset).fireGroup outlet now state
      w).1.journal.report
    ∀ rule ∈ rules, rule.metadata.enabled = true → rule.scope = .group →
      rule.spec.trigger.asksChange →
        (∀ key ∈ report.keys, key.ruleId = rule.id →
          ∃ catalog, catalogs.record? w.recordType = some catalog ∧
            ∃ text, key.memberKey = some text ∧
              KeyedMember.Clashes (w.current catalog) rule.spec.trigger key.field text) ∧
        ((∀ catalog, catalogs.record? w.recordType = some catalog →
            ((w.current catalog).map KeyedMember.key).Nodup) →
          ∀ key ∈ report.keys, key.ruleId ≠ rule.id) := by
  intro report rule member isEnabled group asks
  have onlyClashes : ∀ key ∈ report.keys, key.ruleId = rule.id →
      ∃ catalog, catalogs.record? w.recordType = some catalog ∧
        ∃ text, key.memberKey = some text ∧
          KeyedMember.Clashes (w.current catalog) rule.spec.trigger key.field text := by
    intro key reported named
    have attempted : key ∈ ((Engine.mk registry catalogs offset).fireGroup outlet now state
        w).1.journal.map JournalEntry.key :=
      (Journal.report_perm _).subset reported
    have seen : (Engine.mk registry catalogs offset).fireGroup outlet now state w = _ :=
      (Engine.mk registry catalogs offset).fire_eq_seeThrough outlet now state (.group w)
    rw [seen, Outlet.keys_seeThrough] at attempted
    obtain ⟨a, stood, rfl⟩ := List.mem_map.1 attempted
    have first := (Attempt.standing_prefix _ _ _).subset stood
    have listed : a ∈ w.listing catalogs (Registry.accepted known rules) := by
      rw [← w.attempts_eq_listing built]
      exact (Attempt.firsts_sublist _).subset first
    obtain ⟨accepted, inScope⟩ := GroupWrite.rule_of_mem_listing listed
    have mine : a.rule.spec = rule.spec :=
      congrArg RegisteredRule.spec
        (Registry.rule_of_key built member isEnabled group accepted inScope named)
    rw [← mine] at asks ⊢
    exact GroupWrite.clashes_of_mem_listing again sameMembers listed asks
  refine ⟨onlyClashes, ?_⟩
  intro distinct key reported named
  obtain ⟨catalog, described, text, -, clash⟩ := onlyClashes key reported named
  exact KeyedMember.not_clashes (distinct catalog described) asks _ _ clash

end Resaved

namespace Example

/-- A rule on the changes of its field. -/
def onChange (r : Rule) : Rule := { r with spec := { r.spec with trigger := .onChange } }

/-- A rule on the lead of a crew and one on the roles of its members. -/
def changeRules : List Rule :=
  [onChange (rule "lead" true .group "crew" .record "lead"),
    onChange (rule "role" true .group "crew" .member "role")]

/-- The registry of these rules. -/
def changeRegistry : Registry := .ofRules catalogs (Registry.enabled changeRules)

theorem changes_built : Registry.build catalogs changeRules = .ok changeRegistry := by
  refine Registry.build_eq_ok.2 ⟨?_, ?_, rfl⟩ <;> decide

/-- A crew saved again as it was, with the members it had. -/
def resaved (members : List Record) : GroupWrite where
  recordType := "crew"
  id := "c-1"
  actorId := "u-1"
  next := [("lead", .text "ann")]
  previous := some [("lead", .text "ann")]
  nextMembers := some members
  previousMembers := some members

/-- Two members under one key. -/
def twins : GroupWrite :=
  resaved [[("id", .text "1"), ("role", .text "a")], [("id", .text "1"), ("role", .text "b")]]

/-- The same two under keys of their own. -/
def singles : GroupWrite :=
  resaved [[("id", .text "1"), ("role", .text "a")], [("id", .text "2"), ("role", .text "b")]]

/-- What comes of a crew that is saved. -/
def resaveReport (w : GroupWrite) : Report :=
  ((Engine.mk changeRegistry catalogs .utc).fireGroup
    ⟨MemoryStore.store, (none : Option (Hook Unit))⟩ .epoch (.empty, ()) w).1.journal.report

/-- Twins that were saved again unchanged come out as a change: the first is compared with
the second, which is the last of the former members under their key. -/
theorem twins_not_quiet :
    Registry.build catalogs changeRules = .ok changeRegistry ∧
      twins.previous = some twins.next ∧ twins.previousMembers = twins.nextMembers ∧
      (∃ rule ∈ changeRules, rule.id = "role" ∧ rule.metadata.enabled = true ∧
        rule.spec.trigger = .onChange) ∧
      (resaveReport twins).emitted = [(⟨"role", "role", some "1"⟩, "ev-1")] := by
  refine ⟨changes_built, rfl, rfl, ?_, ?_⟩ <;> decide

/-- What the twins fire is owed to their clash; under keys of their own they are quiet. -/
theorem singles_quiet :
    (∃ catalog, catalogs.record? "crew" = some catalog ∧
      KeyedMember.Clashes (twins.current catalog) .onChange "role" "1") ∧
      ∀ key ∈ (resaveReport singles).keys, key.ruleId ≠ "lead" ∧ key.ruleId ≠ "role" := by
  have lead : onChange (rule "lead" true .group "crew" .record "lead") ∈ changeRules :=
    List.mem_cons_self
  have role : onChange (rule "role" true .group "crew" .member "role") ∈ changeRules :=
    List.mem_cons_of_mem _ List.mem_cons_self
  have fired : (⟨"role", "role", some "1"⟩ : AttemptId) ∈ (resaveReport twins).keys := by decide
  have apart : ∀ catalog, catalogs.record? singles.recordType = some catalog →
      ((singles.current catalog).map KeyedMember.key).Nodup := by
    intro catalog described
    cases described
    decide
  have twins_again : twins.previous = some twins.next := rfl
  have singles_again : singles.previous = some singles.next := rfl
  have ofTwins := Engine.fireGroup_resaved changes_built catalogs .utc
    ⟨MemoryStore.store, (none : Option (Hook Unit))⟩ .epoch (.empty, ())
    twins_again rfl
  have ofSingles := Engine.fireGroup_resaved changes_built catalogs .utc
    ⟨MemoryStore.store, (none : Option (Hook Unit))⟩ .epoch (.empty, ())
    singles_again rfl
  constructor
  · obtain ⟨catalog, described, text, named, clash⟩ :=
      (ofTwins _ role rfl rfl (.inl rfl)).1 _ fired rfl
    cases named
    exact ⟨catalog, described, clash⟩
  · intro key reported
    exact ⟨(ofSingles _ lead rfl rfl (.inl rfl)).2 apart key reported,
      (ofSingles _ role rfl rfl (.inl rfl)).2 apart key reported⟩

end Example
end EventRules
