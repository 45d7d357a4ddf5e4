/-
# EventRules.Proofs.Dispatch.Listing -- the attempts of a write, listed plainly

The listing of a write pairs every field of the catalog with every rule that watches
it -- for a group also for each member that has a key -- and keeps the pairs whose
trigger fires.  It knows no shortcut: it does not ask beforehand whether a type or its
members are watched, nor whether a field occurs in one of the two states, and the
former state of a member is the last previous member with its key.

`EntityWrite.attempts_eq_listing` and `GroupWrite.attempts_eq_listing` say that the
attempts of a write are this listing, for every registry that was built.  Each shortcut
is harmless for one reason: a rule that does not exist pairs with nothing, and no
trigger fires on a field that is absent afterwards (`Trigger.fires_absent`).
-/
import EventRules.Dispatch.Firing
import EventRules.Proofs.Registry.Acceptance
namespace EventRules

set_option autoImplicit false

/-! ## The listing -/

/-- Whether the trigger of the rule fires on the change of the field. -/
def Attempt.fires (a : Attempt) : Bool :=
  a.rule.spec.trigger.fires (Change.of a.previous a.next)

/-- Every field of a table, in order, with every rule that watches it, in the order of
definition, on the change from one state to another. -/
def Source.pairs (source : Source) (rules : List RegisteredRule) (scope : Scope)
    (target : Target) (fields : FieldTable) (member : Option MemberChange)
    (allMembers : List Participant) (before after : Record) : List Attempt :=
  fields.keys.flatMap fun field =>
    (rules.filter (RegisteredRule.watches scope target source.recordType field)).map fun r =>
      ⟨r, field, before.value field, after.value field, source, member, allMembers⟩

/-- The objects among the items of a list; none when the value is no list. -/
def Value.objects : Value → List Record
  | .list items => items.filterMap Value.object?
  | _ => []

/-- The members that have a key, in order: those given, else the objects in the list
field of the record. -/
def MemberCatalog.listed (members : MemberCatalog) (given : Option (List Record))
    (record : Record) : List KeyedMember :=
  (given.getD (record.value members.listField).objects).filterMap fun member =>
    if (member.value members.keyField).isPresent then
      some ⟨(member.value members.keyField).display, member⟩
    else none

/-- The record of the last member with a key; the empty record when there is none. -/
def KeyedMember.lastRecord (key : String) (members : List KeyedMember) : Record :=
  (((members.filter fun m => m.key = key).getLast?).map KeyedMember.record).getD []

namespace EntityWrite

/-- The pairs of a saved singular record. -/
def pairs (w : EntityWrite) (catalog : FieldCatalog) (rules : List RegisteredRule) :
    List Attempt :=
  w.source.pairs rules .entity .record catalog.fields none [] w.source.before w.source.after

/-- The pairs whose trigger fires; a type without a catalog has no fields. -/
def listing (w : EntityWrite) (catalogs : Catalogs) (rules : List RegisteredRule) :
    List Attempt :=
  match catalogs.record? w.recordType with
  | none => []
  | some catalog => (w.pairs catalog rules).filter Attempt.fires

end EntityWrite

namespace GroupWrite

/-- The members after the write, as participants. -/
def listedParticipants (w : GroupWrite) (members : MemberCatalog) : List Participant :=
  (members.listed w.nextMembers w.next).map fun m => ⟨w.recordType ++ ".member", m.key⟩

/-- What the write did to a member. -/
def listedChange (w : GroupWrite) (members : MemberCatalog) (m : KeyedMember) : MemberChange :=
  ⟨m.key, w.recordType ++ ".member",
    KeyedMember.lastRecord m.key (members.listed w.previousMembers (w.previous.getD [])), m.record⟩

/-- The pairs of the fields of the record. -/
def recordPairs (w : GroupWrite) (catalog : FieldCatalog) (rules : List RegisteredRule) :
    List Attempt :=
  w.source.pairs rules .group .record catalog.fields none
    ((catalog.members.map w.listedParticipants).getD []) w.source.before w.source.after

/-- The pairs of the fields of each member, in the order of the list. -/
def memberPairs (w : GroupWrite) (members : MemberCatalog) (rules : List RegisteredRule) :
    List Attempt :=
  (members.listed w.nextMembers w.next).flatMap fun m =>
    w.source.pairs rules .group .member members.fields (some (w.listedChange members m))
      (w.listedParticipants members) (w.listedChange members m).before
      (w.listedChange members m).after

/-- The pairs of a saved group record: those of the record, then those of its members. -/
def pairs (w : GroupWrite) (catalog : FieldCatalog) (rules : List RegisteredRule) :
    List Attempt :=
  w.recordPairs catalog rules ++
    match catalog.members with
    | none => []
    | some members => w.memberPairs members rules

/-- The pairs whose trigger fires; a type without a catalog has no fields. -/
def listing (w : GroupWrite) (catalogs : Catalogs) (rules : List RegisteredRule) :
    List Attempt :=
  match catalogs.record? w.recordType with
  | none => []
  | some catalog => (w.pairs catalog rules).filter Attempt.fires

end GroupWrite

namespace SavedWrite

/-- The scope of the rules that the write concerns. -/
def scope : SavedWrite → Scope
  | entity _ => .entity
  | group _ => .group

/-- The pairs of a saved record whose trigger fires. -/
def listing (catalogs : Catalogs) (rules : List RegisteredRule) : SavedWrite → List Attempt
  | entity w => w.listing catalogs rules
  | group w => w.listing catalogs rules

end SavedWrite

/-! ## The shortcuts -/

/-- Every trigger needs a value after the write. -/
theorem Trigger.fires_absent (trigger : Trigger) (previous : Value) {next : Value}
    (absent : next.isPresent = false) : trigger.fires (Change.of previous next) = false := by
  cases trigger <;> simp [fires, Change.of, Change.firstSet, absent]

theorem Record.value_absent {record : Record} {field : String}
    (absent : Keyed.has field record = false) : record.value field = .null := by
  cases found : Keyed.get? field record with
  | none => rw [Record.value, found, Option.getD_none]
  | some value => simp [Keyed.has, found] at absent

/-- Elements that contribute nothing may be left out beforehand. -/
theorem flatMap_filter_of_nil {α β : Type} {p : α → Bool} {f : α → List β} {xs : List α}
    (nothing : ∀ x ∈ xs, p x = false → f x = []) : (xs.filter p).flatMap f = xs.flatMap f := by
  induction xs with
  | nil => rfl
  | cons x xs ih =>
      have tail := ih fun y member => nothing y (List.mem_cons_of_mem x member)
      cases kept : p x with
      | true => rw [List.filter_cons_of_pos kept, List.flatMap_cons, List.flatMap_cons, tail]
      | false =>
          rw [List.filter_cons_of_neg (by simp [kept]), tail, List.flatMap_cons,
            nothing x List.mem_cons_self kept, List.nil_append]

namespace Source

variable (source : Source)

/-- The fields that neither state has fire no rule, so examining the candidates alone
examines all. -/
theorem flatMap_candidates (rules : String → List RegisteredRule) (fields : FieldTable)
    (member : Option MemberChange) (allMembers : List Participant) (before after : Record) :
    ((fields.candidates before after).flatMap fun field =>
        source.attemptsOn member allMembers (rules field) field (before.value field)
          (after.value field)) =
      (fields.keys.flatMap fun field => (rules field).map fun r =>
        (⟨r, field, before.value field, after.value field, source, member, allMembers⟩ :
          Attempt)).filter Attempt.fires := by
  rw [FieldTable.candidates, flatMap_filter_of_nil, List.filter_flatMap]
  · congr 1
    funext field
    rw [attemptsOn, List.filter_map]
    rfl
  · intro field _ dropped
    have absent : Keyed.has field after = false := (Bool.or_eq_false_iff.1 dropped).2
    rw [attemptsOn, List.map_eq_nil_iff, List.filter_eq_nil_iff]
    intro r _
    rw [Record.value_absent absent, Trigger.fires_absent _ _ rfl]
    exact Bool.false_ne_true

/-- When no rule watches the type, there is no pair. -/
theorem pairs_eq_nil {rules : List RegisteredRule} {scope : Scope} {target : Target}
    (unwatched : ∀ r ∈ rules, r.spec.scope = scope → r.spec.target = target →
      r.spec.sourceType ≠ source.recordType)
    (fields : FieldTable) (member : Option MemberChange) (allMembers : List Participant)
    (before after : Record) :
    source.pairs rules scope target fields member allMembers before after = [] := by
  rw [pairs, List.flatMap_eq_nil_iff]
  intro field _
  rw [List.map_eq_nil_iff, List.filter_eq_nil_iff]
  intro r member watches
  simp only [RegisteredRule.watches, decide_eq_true_eq] at watches
  exact unwatched r member watches.1 watches.2.1 watches.2.2.1

/-- Rules with distinct scopes and ids make pairs with distinct keys, as the fields of a
table are distinct. -/
theorem nodup_keys_pairs {rules : List RegisteredRule}
    (distinct : (rules.map fun r => (r.spec.scope, r.id)).Nodup) (scope : Scope)
    (target : Target) (fields : FieldTable) (member : Option MemberChange)
    (allMembers : List Participant) (before after : Record) :
    ((source.pairs rules scope target fields member allMembers before after).map
      Attempt.key).Nodup := by
  rw [pairs, List.map_flatMap, List.nodup_flatMap]
  constructor
  · -- one field: two rules of one scope differ in their ids
    intro field _
    rw [List.map_map]
    refine List.Nodup.map_on ?_ ((List.Nodup.of_map _ distinct).filter _)
    intro r member r' member' same
    obtain ⟨mine, watches⟩ := List.mem_filter.1 member
    obtain ⟨mine', watches'⟩ := List.mem_filter.1 member'
    simp only [RegisteredRule.watches, decide_eq_true_eq] at watches watches'
    refine List.inj_on_of_nodup_map distinct mine mine' ?_
    rw [Prod.mk.injEq]
    exact ⟨watches.1.trans watches'.1.symm, congrArg AttemptId.ruleId same⟩
  · -- two fields: the keys name them
    refine fields.distinct.imp ?_
    intro field field' differ key here there
    obtain ⟨a, mine, rfl⟩ := List.mem_map.1 here
    obtain ⟨b, mine', same⟩ := List.mem_map.1 there
    obtain ⟨r, -, rfl⟩ := List.mem_map.1 mine
    obtain ⟨r', -, rfl⟩ := List.mem_map.1 mine'
    exact differ (congrArg AttemptId.field same).symm

/-- A pair is a field of the table with a rule that watches it. -/
theorem of_mem_pairs {source : Source} {rules : List RegisteredRule} {scope : Scope}
    {target : Target} {fields : FieldTable} {member : Option MemberChange}
    {allMembers : List Participant} {before after : Record} {a : Attempt}
    (listed : a ∈ source.pairs rules scope target fields member allMembers before after) :
    ∃ field ∈ fields.keys, ∃ r ∈ rules, r.watches scope target source.recordType field = true ∧
      a = ⟨r, field, before.value field, after.value field, source, member, allMembers⟩ := by
  obtain ⟨field, isField, here⟩ := List.mem_flatMap.1 listed
  obtain ⟨r, watching, rfl⟩ := List.mem_map.1 here
  obtain ⟨mine, watches⟩ := List.mem_filter.1 watching
  exact ⟨field, isField, r, mine, watches, rfl⟩

theorem rule_of_mem_pairs {source : Source} {rules : List RegisteredRule} {scope : Scope}
    {target : Target} {fields : FieldTable} {member : Option MemberChange}
    {allMembers : List Participant} {before after : Record} {a : Attempt}
    (listed : a ∈ source.pairs rules scope target fields member allMembers before after) :
    a.rule ∈ rules ∧ a.rule.spec.scope = scope := by
  obtain ⟨field, -, r, mine, watches, rfl⟩ := of_mem_pairs listed
  simp only [RegisteredRule.watches, decide_eq_true_eq] at watches
  exact ⟨mine, watches.1⟩

variable {known : Catalogs} {rules : List Rule} {registry : Registry}

theorem recordAttempts_eq_pairs (built : Registry.build known rules = .ok registry)
    (scope : Scope) (fields : FieldTable) (allMembers : List Participant) :
    source.recordAttempts registry scope fields allMembers =
      (source.pairs (Registry.accepted known rules) scope .record fields none allMembers
        source.before source.after).filter Attempt.fires := by
  simp only [recordAttempts, Registry.rulesFor_of_build built]
  exact source.flatMap_candidates _ fields none allMembers source.before source.after

theorem memberAttempts_eq_pairs (built : Registry.build known rules = .ok registry)
    (fields : FieldTable) (allMembers : List Participant) (member : MemberChange) :
    source.memberAttempts registry fields allMembers member =
      (source.pairs (Registry.accepted known rules) .group .member fields (some member)
        allMembers member.before member.after).filter Attempt.fires := by
  simp only [memberAttempts, Registry.memberRules_of_build built]
  exact source.flatMap_candidates _ fields (some member) allMembers member.before member.after

end Source

/-! ## Members -/

theorem MemberCatalog.membersWithKeys_eq_listed (members : MemberCatalog)
    (given : Option (List Record)) (record : Record) :
    members.membersWithKeys given record = members.listed given record := by
  have records : members.memberRecords given record =
      given.getD (record.value members.listField).objects := by
    cases given with
    | some given => rfl
    | none =>
        rw [memberRecords, Option.getD_none, Record.value]
        cases Keyed.get? members.listField record with
        | none => rfl
        | some value => cases value <;> rfl
  rw [membersWithKeys, listed, records]
  apply List.filterMap_congr
  intro member _
  rw [keyOf?, Record.value]
  cases Keyed.get? members.keyField member with
  | none => rfl
  | some key => cases present : key.isPresent <;> simp [present]

/-- The current members are those that are listed. -/
theorem GroupWrite.current_eq_listed (w : GroupWrite) {catalog : FieldCatalog}
    {members : MemberCatalog} (described : catalog.members = some members) :
    w.current catalog = members.listed w.nextMembers w.next := by
  rw [current, described]
  exact members.membersWithKeys_eq_listed _ _

theorem GroupWrite.former_eq_listed (w : GroupWrite) {catalog : FieldCatalog}
    {members : MemberCatalog} (described : catalog.members = some members) :
    w.former catalog = members.listed w.previousMembers (w.previous.getD []) := by
  rw [former, described]
  exact members.membersWithKeys_eq_listed _ _

theorem GroupWrite.lastWith_eq_lastRecord (key : String) (members : List KeyedMember) :
    (lastWith key members).getD [] = KeyedMember.lastRecord key members := by
  rw [lastWith, Keyed.get?_ofList, List.filter_map, List.getLast?_map, Option.map_map,
    KeyedMember.lastRecord]
  rfl

/-! ## The attempts are the listing -/

variable {known : Catalogs} {rules : List Rule} {registry : Registry}

theorem unwatched_of_build (built : Registry.build known rules = .ok registry) {scope : Scope}
    {recordType : String} (unwatched : registry.watches scope recordType = false) :
    ∀ r ∈ Registry.accepted known rules, r.spec.scope = scope →
      r.spec.sourceType ≠ recordType := by
  intro r member inScope type
  have watched := (Registry.watches_of_build built scope recordType).2 ⟨r, member, inScope, type⟩
  exact Bool.false_ne_true (unwatched.symm.trans watched)

theorem EntityWrite.attempts_eq_listing (built : Registry.build known rules = .ok registry)
    (catalogs : Catalogs) (w : EntityWrite) :
    w.attempts registry catalogs = w.listing catalogs (Registry.accepted known rules) := by
  unfold attempts listing
  cases catalogs.record? w.recordType with
  | none => split <;> rfl
  | some catalog =>
      cases watched : registry.watches .entity w.recordType with
      | true => exact w.source.recordAttempts_eq_pairs built .entity catalog.fields []
      | false =>
          have none : w.pairs catalog (Registry.accepted known rules) = [] :=
            w.source.pairs_eq_nil (fun r member inScope _ =>
              unwatched_of_build built watched r member inScope) _ _ _ _ _
          simp [none]

namespace GroupWrite

theorem memberPairs_eq_nil (w : GroupWrite) (members : MemberCatalog)
    {rules : List RegisteredRule}
    (unwatched : ∀ r ∈ rules, r.spec.scope = .group → r.spec.target = .member →
      r.spec.sourceType ≠ w.recordType) :
    w.memberPairs members rules = [] := by
  rw [memberPairs, List.flatMap_eq_nil_iff]
  intro m _
  exact w.source.pairs_eq_nil unwatched _ _ _ _ _

theorem memberAttempts_eq_memberPairs (built : Registry.build known rules = .ok registry)
    (w : GroupWrite) {catalog : FieldCatalog} {members : MemberCatalog}
    (described : catalog.members = some members) :
    w.memberAttempts registry catalog =
      (w.memberPairs members (Registry.accepted known rules)).filter Attempt.fires := by
  have current := w.current_eq_listed described
  have change : ∀ m, w.memberChange (w.former catalog) m = w.listedChange members m := by
    intro m
    rw [memberChange, lastWith_eq_lastRecord, w.former_eq_listed described]
    rfl
  have all : w.allMembers catalog = w.listedParticipants members := by
    rw [allMembers, current]
    rfl
  rw [memberAttempts, described]
  cases watched : registry.watchesMembers w.recordType with
  | true =>
      simp only [if_true, current, change, all]
      rw [memberPairs, List.filter_flatMap]
      congr 1
      funext m
      exact w.source.memberAttempts_eq_pairs built members.fields _ _
  | false =>
      have none : w.memberPairs members (Registry.accepted known rules) = [] := by
        apply w.memberPairs_eq_nil
        intro r member inScope target type
        have watches := (Registry.watchesMembers_of_build built w.recordType).2
          ⟨r, member, inScope, target, type⟩
        exact Bool.false_ne_true (watched.symm.trans watches)
      simp [none]

theorem allMembers_eq (w : GroupWrite) (catalog : FieldCatalog) :
    w.allMembers catalog = (catalog.members.map w.listedParticipants).getD [] := by
  cases described : catalog.members with
  | none => rw [allMembers, current, described, Option.map_none, Option.getD_none, List.map_nil]
  | some members =>
      rw [allMembers, w.current_eq_listed described, Option.map_some, Option.getD_some]
      rfl

theorem attempts_eq_listing (built : Registry.build known rules = .ok registry)
    (catalogs : Catalogs) (w : GroupWrite) :
    w.attempts registry catalogs = w.listing catalogs (Registry.accepted known rules) := by
  unfold attempts listing
  cases catalogs.record? w.recordType with
  | none => split <;> rfl
  | some catalog =>
      cases watched : registry.watches .group w.recordType with
      | true =>
          simp only [if_true]
          rw [pairs, List.filter_append, recordPairs, ← w.allMembers_eq,
            w.source.recordAttempts_eq_pairs built]
          congr 1
          cases described : catalog.members with
          | none => simp [memberAttempts, described]
          | some members => exact w.memberAttempts_eq_memberPairs built described
      | false =>
          have unwatched := unwatched_of_build built watched
          have onRecord : w.recordPairs catalog (Registry.accepted known rules) = [] :=
            w.source.pairs_eq_nil (fun r member inScope _ => unwatched r member inScope) _ _ _ _ _
          have onMembers : ∀ members,
              w.memberPairs members (Registry.accepted known rules) = [] := fun members =>
            w.memberPairs_eq_nil members fun r member inScope _ => unwatched r member inScope
          have none : w.pairs catalog (Registry.accepted known rules) = [] := by
            rw [pairs, onRecord]
            cases catalog.members <;> simp [onMembers]
          simp [none]

end GroupWrite

/-! ## The rules of the attempts -/

theorem EntityWrite.rule_of_mem_listing {w : EntityWrite} {catalogs : Catalogs}
    {rules : List RegisteredRule} {a : Attempt} (listed : a ∈ w.listing catalogs rules) :
    a.rule ∈ rules ∧ a.rule.spec.scope = .entity := by
  unfold listing at listed
  split at listed
  · cases listed
  · exact Source.rule_of_mem_pairs (List.mem_of_mem_filter listed)

/-- What is listed for a group fires, and is a pair of the record or of a listed member. -/
theorem GroupWrite.of_mem_listing {w : GroupWrite} {catalogs : Catalogs}
    {rules : List RegisteredRule} {a : Attempt} (listed : a ∈ w.listing catalogs rules) :
    a.fires = true ∧ ∃ catalog, catalogs.record? w.recordType = some catalog ∧
      (a ∈ w.recordPairs catalog rules ∨
        ∃ members, catalog.members = some members ∧
          ∃ m ∈ members.listed w.nextMembers w.next,
            a ∈ w.source.pairs rules .group .member members.fields (some (w.listedChange members m))
              (w.listedParticipants members) (w.listedChange members m).before
              (w.listedChange members m).after) := by
  unfold listing at listed
  split at listed
  · cases listed
  · rename_i catalog described
    obtain ⟨paired, fires⟩ := List.mem_filter.1 listed
    refine ⟨fires, catalog, described, ?_⟩
    rcases List.mem_append.1 paired with onRecord | onMembers
    · exact .inl onRecord
    · split at onMembers
      · cases onMembers
      · rename_i members keyed
        obtain ⟨m, isListed, onMember⟩ := List.mem_flatMap.1 onMembers
        exact .inr ⟨members, keyed, m, isListed, onMember⟩

theorem GroupWrite.rule_of_mem_listing {w : GroupWrite} {catalogs : Catalogs}
    {rules : List RegisteredRule} {a : Attempt} (listed : a ∈ w.listing catalogs rules) :
    a.rule ∈ rules ∧ a.rule.spec.scope = .group := by
  obtain ⟨-, catalog, -, onRecord | ⟨members, -, m, -, onMember⟩⟩ := of_mem_listing listed
  · exact Source.rule_of_mem_pairs onRecord
  · exact Source.rule_of_mem_pairs onMember

namespace SavedWrite

theorem attempts_eq_listing (built : Registry.build known rules = .ok registry)
    (catalogs : Catalogs) (w : SavedWrite) :
    w.attempts registry catalogs = w.listing catalogs (Registry.accepted known rules) := by
  cases w with
  | entity w => exact w.attempts_eq_listing built catalogs
  | group w => exact w.attempts_eq_listing built catalogs

/-- What is listed is listed for a rule of the list, and one of the scope of the write. -/
theorem rule_of_mem_listing {w : SavedWrite} {catalogs : Catalogs}
    {rules : List RegisteredRule} {a : Attempt} (listed : a ∈ w.listing catalogs rules) :
    a.rule ∈ rules ∧ a.rule.spec.scope = w.scope := by
  cases w with
  | entity w => exact EntityWrite.rule_of_mem_listing listed
  | group w => exact GroupWrite.rule_of_mem_listing listed

/-- Every attempt of a write, on a record or on a member, is that of an accepted rule. -/
theorem rule_of_mem_attempts (built : Registry.build known rules = .ok registry)
    {catalogs : Catalogs} {w : SavedWrite} {a : Attempt}
    (attempted : a ∈ w.attempts registry catalogs) : a.rule ∈ Registry.accepted known rules := by
  rw [w.attempts_eq_listing built] at attempted
  exact (rule_of_mem_listing attempted).1

end SavedWrite
end EventRules
