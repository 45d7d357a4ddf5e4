/-
# EventRules.Proofs.Dispatch.Mentions -- a rule reads only what it mentions

An entity rule is attempted on a field for what the write did to that field alone, and what the
attempt decides -- to offer which event, or why none -- is read off the type, the id and the
actor of the write, the two values of the field, and the paths that the rule mentions.  Two
writes that look alike in these (`EntityWrite.AlikeTo`) may differ in every other field, which
other rules may well react to: the rule decides the same in both dispatches, whatever the stores
and the hooks (`Engine.fireEntity_attends`).

The key of an attempt names its rule and its field, and so there is one attempt at most to ask
for (`EntityWrite.eq_attemptOn`).
-/
import EventRules.Proofs.Dispatch.Entity
import EventRules.Proofs.Dispatch.Independence
import EventRules.Proofs.Rule.Mentions
namespace EventRules

set_option autoImplicit false

/-! ## What an attempt decides -/

/-- What an attempt decides before any store is asked, unless it crashes: why it is skipped, or
the event that it offers. -/
def Attempt.decision? (offset : UtcOffset) (now : Instant) (a : Attempt) :
    Option (Except SkipCause NewEvent) :=
  match a.prepare offset now with
  | .ok prepared => some (prepared.map Offer.event)
  | .error _ => none

/-- With a base date, an attempt is decided by its condition and by its extent. -/
theorem Attempt.decision?_of_base {offset : UtcOffset} {now base : Instant} {a : Attempt}
    (found : a.base offset now = .ok (.ok base)) :
    a.decision? offset now =
      some (if a.admits offset (a.context offset now base) then
        match Extent.of? base a.rule.spec.timeKind a.rule.spec.intervalDays with
        | some extent => .ok (a.event (a.context offset now base) extent)
        | none => .error .dateOutOfRange
      else .error .conditionFalse) := by
  rw [decision?, prepare, found]
  dsimp only
  rw [offerFrom]
  cases a.admits offset (a.context offset now base) with
  | false => rfl
  | true => cases Extent.of? base a.rule.spec.timeKind a.rule.spec.intervalDays <;> rfl

/-- What was decided, whatever the store answered. -/
def Outcome.decision : Outcome → Except SkipCause NewEvent
  | .skipped reason => .error reason
  | .refused event _ => .ok event
  | .emitted event _ _ _ => .ok event

/-- What was decided under a key, in order. -/
def Journal.decisions (key : AttemptId) (journal : Journal) : List (Except SkipCause NewEvent) :=
  journal.filterMap fun e => if e.key = key then some e.outcome.decision else none

namespace Outlet

variable {σ η : Type} (outlet : Outlet σ η) (offset : UtcOffset) (now : Instant)

/-- No answer of a store or a hook has a say in what an attempt decides. -/
theorem decision_attempt {before after : σ × η} {a : Attempt} {outcome : Outcome}
    (seen : outlet.attempt offset now before a = .ok (outcome, after)) :
    a.decision? offset now = some outcome.decision := by
  unfold Attempt.decision?
  rcases attempt_cases seen with ⟨reason, prepared, rfl, rfl⟩ | ⟨offer, prepared, rfl, rfl⟩
  · rw [prepared]
    rfl
  · rw [prepared]
    rcases answer : outlet.store.create before.1 offer.event with ⟨error | id, store⟩
    · rw [deliver_refused answer]
      rfl
    · rw [deliver_accepted answer]
      rfl

theorem decisions_seeThrough (key : AttemptId) (state : σ × η) {attempts : List Attempt}
    (stand : ∀ a ∈ attempts, a.Stands offset now) :
    (outlet.seeThrough offset now state attempts).1.journal.decisions key =
      (attempts.filter fun a => a.key = key).filterMap (Attempt.decision? offset now) := by
  rw [List.filterMap_filter, Journal.decisions, filterMap_seeThrough,
    Attempt.standing_eq_self stand]
  intro before after a outcome seen
  simp only [decision_attempt outlet offset now seen, decide_eq_true_eq]

end Outlet

/-! ## The attempt of a rule on a field -/

namespace EntityWrite

/-- The attempt of a rule on a field of a saved singular record. -/
def attemptOn (w : EntityWrite) (r : RegisteredRule) (field : String) : Attempt :=
  ⟨r, field, w.source.before.value field, w.source.after.value field, w.source, none, []⟩

variable {catalogs : Catalogs} {w w' : EntityWrite} {r : RegisteredRule} {field : String}

/-- The attempt is listed when the type has the field, the rule watches it and its trigger
fires. -/
theorem attemptOn_mem_listing {rules : List RegisteredRule} (mine : r ∈ rules) :
    w.attemptOn r field ∈ w.listing catalogs rules ↔
      (∃ catalog, catalogs.record? w.recordType = some catalog ∧ field ∈ catalog.fields.keys) ∧
        r.watches .entity .record w.recordType field = true ∧
        r.spec.trigger.fires
          (Change.of (w.source.before.value field) (w.source.after.value field)) = true := by
  unfold listing
  cases catalogs.record? w.recordType with
  | none => simp
  | some catalog =>
      rw [List.mem_filter]
      constructor
      · rintro ⟨paired, fires⟩
        obtain ⟨f, isField, r', -, watches, same⟩ := Source.of_mem_pairs paired
        cases same
        exact ⟨⟨catalog, rfl, isField⟩, watches, fires⟩
      · rintro ⟨⟨_, described, isField⟩, watches, fires⟩
        cases described
        refine ⟨List.mem_flatMap.2 ⟨field, isField, ?_⟩, fires⟩
        exact List.mem_map.2 ⟨r, List.mem_filter.2 ⟨mine, watches⟩, rfl⟩

/-- Rules of one scope differ in their ids, so a listed attempt is known by its key. -/
theorem eq_attemptOn {rules : List RegisteredRule}
    (distinct : (rules.map fun r => (r.spec.scope, r.id)).Nodup) (mine : r ∈ rules)
    (inScope : r.spec.scope = .entity) {a : Attempt} (listed : a ∈ w.listing catalogs rules)
    (named : a.key = ⟨r.id, field, none⟩) : a = w.attemptOn r field := by
  unfold listing at listed
  split at listed
  · cases listed
  · obtain ⟨f, -, r', mine', watches, rfl⟩ := Source.of_mem_pairs (List.mem_of_mem_filter listed)
    simp only [RegisteredRule.watches, decide_eq_true_eq] at watches
    obtain rfl : f = field := congrArg AttemptId.field named
    obtain rfl : r' = r := by
      refine List.inj_on_of_nodup_map distinct mine' mine ?_
      rw [Prod.mk.injEq]
      exact ⟨watches.1.trans inScope.symm, congrArg AttemptId.ruleId named⟩
    rfl

/-! ## Writes that look alike to a rule -/

/-- Two writes look alike to a rule on a field at an instant: they are of the same record by the
same actor, the field has the same value in both, before and after, and so has every path that
the rule mentions, in the context in which the rule would be read. -/
structure AlikeTo (w w' : EntityWrite) (r : RegisteredRule) (field : String) (offset : UtcOffset)
    (now : Instant) : Prop where
  recordType : w.recordType = w'.recordType
  id : w.id = w'.id
  actorId : w.actorId = w'.actorId
  before : w.source.before.value field = w'.source.before.value field
  after : w.source.after.value field = w'.source.after.value field
  mentioned : ∀ base, (w.attemptOn r field).base offset now = .ok (.ok base) →
    Value.AgreeAt r.spec.paths ((w.attemptOn r field).context offset now base)
      ((w'.attemptOn r field).context offset now base)

namespace AlikeTo

variable {offset : UtcOffset} {now : Instant}

theorem mem_listing (alike : w.AlikeTo w' r field offset now) {rules : List RegisteredRule}
    (mine : r ∈ rules) :
    w.attemptOn r field ∈ w.listing catalogs rules ↔
      w'.attemptOn r field ∈ w'.listing catalogs rules := by
  rw [attemptOn_mem_listing mine, attemptOn_mem_listing mine, alike.recordType, alike.before,
    alike.after]

/-- The base date depends on the new value of the field at most. -/
theorem base (alike : w.AlikeTo w' r field offset now) :
    (w.attemptOn r field).base offset now = (w'.attemptOn r field).base offset now := by
  simp only [Attempt.base, attemptOn, alike.after]

variable {context other : Value}

theorem admits (agree : Value.AgreeAt r.spec.paths context other) :
    (w.attemptOn r field).admits offset context = (w'.attemptOn r field).admits offset other := by
  unfold Attempt.admits attemptOn
  dsimp only
  cases guarded : r.spec.condition with
  | none => rfl
  | some condition =>
      refine condition.holds_congr (agree.mono ?_)
      simp [RuleSpec.paths, guarded]

/-- The texts of the payload are rendered from what the rule mentions; the rest of it is the
rule's own. -/
theorem payload (agree : Value.AgreeAt r.spec.paths context other) :
    (w.attemptOn r field).payload context = (w'.attemptOn r field).payload other := by
  have title : Template.render r.spec.title context = Template.render r.spec.title other := by
    refine Template.render_congr _ (agree.mono ?_)
    simp [RuleSpec.paths]
  have description : (r.spec.description.map fun d => Value.text (Template.render d context)) =
      r.spec.description.map fun d => Value.text (Template.render d other) := by
    cases described : r.spec.description with
    | none => rw [Option.map_none, Option.map_none]
    | some d =>
        have same : Template.render d context = Template.render d other := by
          refine Template.render_congr _ (agree.mono ?_)
          simp [RuleSpec.paths, described]
        rw [Option.map_some, Option.map_some, same]
  unfold Attempt.payload Attempt.title attemptOn
  dsimp only
  rw [title, description]

/-- Nothing else in an event is taken from the record. -/
theorem event (alike : w.AlikeTo w' r field offset now)
    (agree : Value.AgreeAt r.spec.paths context other) (extent : Extent) :
    (w.attemptOn r field).event context extent = (w'.attemptOn r field).event other extent := by
  have group : (w.attemptOn r field).group = (w'.attemptOn r field).group := by
    simp only [Attempt.group, attemptOn, source, alike.recordType, alike.id]
  have participants :
      (w.attemptOn r field).participants = (w'.attemptOn r field).participants := by
    simp only [Attempt.participants, attemptOn, source, alike.recordType, alike.id]
  have actor : (w.attemptOn r field).source.actorId = (w'.attemptOn r field).source.actorId :=
    alike.actorId
  rw [Attempt.event, Attempt.event, payload agree, group, participants, actor]
  rfl

/-- An attempt decides the same on writes that look alike to its rule. -/
theorem decision? (alike : w.AlikeTo w' r field offset now) :
    (w.attemptOn r field).decision? offset now = (w'.attemptOn r field).decision? offset now := by
  rcases found : (w.attemptOn r field).base offset now with crash | reason | base
  · have found' := alike.base.symm.trans found
    rw [Attempt.decision?, Attempt.decision?, Attempt.prepare, Attempt.prepare, found, found']
  · have found' := alike.base.symm.trans found
    rw [Attempt.decision?, Attempt.decision?, Attempt.prepare, Attempt.prepare, found, found']
  · have found' := alike.base.symm.trans found
    have agree := alike.mentioned base found
    rw [Attempt.decision?_of_base found, Attempt.decision?_of_base found', admits agree,
      funext (alike.event agree)]
    rfl

end AlikeTo

end EntityWrite

/-! ## Two dispatches -/

section Attending

variable {known : Catalogs} {rules : List Rule} {registry : Registry}

/-- What a dispatch that does not crash decides for a rule on a field is what the attempt
decides, if it is listed at all. -/
theorem Engine.decisions_fireEntity (built : Registry.build known rules = .ok registry)
    {r : RegisteredRule} (mine : r ∈ Registry.accepted known rules)
    (inScope : r.spec.scope = .entity) (catalogs : Catalogs) (offset : UtcOffset) (now : Instant)
    (field : String) (w : EntityWrite) {σ η : Type} (outlet : Outlet σ η) (state : σ × η)
    (returns : ((Engine.mk registry catalogs offset).fireEntity outlet now state w).1.crash =
      none) :
    let decided := ((Engine.mk registry catalogs offset).fireEntity outlet now state
      w).1.journal.decisions ⟨r.id, field, none⟩
    let listing := w.listing catalogs (Registry.accepted known rules)
    (w.attemptOn r field ∉ listing ∧ decided = []) ∨
      (w.attemptOn r field ∈ listing ∧
        decided = ((w.attemptOn r field).decision? offset now).toList) := by
  intro decided listing
  obtain ⟨distinct, run, -, crash, -⟩ :=
    Engine.attempts_fireEntity built catalogs offset outlet now state w
  have all : decided = (listing.filter fun a => a.key = ⟨r.id, field, none⟩).filterMap
      (Attempt.decision? offset now) := by
    change Journal.decisions _ (fireEntity _ outlet now state w).1.journal = _
    rw [run, Outlet.decisions_seeThrough outlet offset now _ state (crash.1 returns)]
  rw [all]
  by_cases listed : w.attemptOn r field ∈ listing
  · have only : listing.filter (fun a => a.key = ⟨r.id, field, none⟩) = [w.attemptOn r field] :=
      filter_key_eq_singleton distinct listed
    refine .inr ⟨listed, ?_⟩
    rw [only, List.filterMap_cons]
    cases (w.attemptOn r field).decision? offset now <;> rfl
  · refine .inl ⟨listed, ?_⟩
    have none : listing.filter (fun a => a.key = ⟨r.id, field, none⟩) = [] := by
      rw [List.filter_eq_nil_iff]
      intro a member named
      have same := EntityWrite.eq_attemptOn (Registry.keys_of_build built) mine inScope member
        (of_decide_eq_true named)
      exact listed (same ▸ member)
    rw [none, List.filterMap_nil]

/-- **A rule reads only what it mentions, short of a crash.**  Take an accepted entity rule and a
field, and two writes that look alike to the rule on the field; they may differ in all else, and
so may the stores and the hooks.  Then the rule is attempted on the field in neither dispatch, or
skipped in both for one reason, or offers one event in both; unless a dispatch crashes, which may
be for another rule on another field.  For any condition and any template, contexts that agree at
the paths that occur in it are the same. -/
theorem Engine.fireEntity_attends (built : Registry.build known rules = .ok registry)
    {r : RegisteredRule} (mine : r ∈ Registry.accepted known rules)
    (inScope : r.spec.scope = .entity) (catalogs : Catalogs) (offset : UtcOffset) (now : Instant)
    {field : String} {w w' : EntityWrite} (alike : w.AlikeTo w' r field offset now)
    {σ η σ' η' : Type} (outlet : Outlet σ η) (state : σ × η) (outlet' : Outlet σ' η')
    (state' : σ' × η')
    (returns : ((Engine.mk registry catalogs offset).fireEntity outlet now state w).1.crash = none)
    (returns' : ((Engine.mk registry catalogs offset).fireEntity outlet' now state' w').1.crash =
      none) :
    let d := Engine.mk registry catalogs offset
    let decided := (d.fireEntity outlet now state w).1.journal.decisions ⟨r.id, field, none⟩
    let decided' := (d.fireEntity outlet' now state' w').1.journal.decisions ⟨r.id, field, none⟩
    ((decided = [] ∧ decided' = []) ∨
        (∃ reason, decided = [.error reason] ∧ decided' = [.error reason]) ∨
        ∃ event, decided = [.ok event] ∧ decided' = [.ok event]) ∧
      (∀ (offset : UtcOffset) (context other : Value) (c : Condition),
        Value.AgreeAt c.paths context other → c.holds offset context = c.holds offset other) ∧
      ∀ (context other : Value) (template : String),
        Value.AgreeAt (Template.paths template) context other →
          Template.render template context = Template.render template other := by
  intro d decided decided'
  refine ⟨?_, fun _ _ _ c agree => c.holds_congr agree,
    fun _ _ template agree => Template.render_congr template agree⟩
  have one := Engine.decisions_fireEntity built mine inScope catalogs offset now field w outlet
    state returns
  have other := Engine.decisions_fireEntity built mine inScope catalogs offset now field w' outlet'
    state' returns'
  dsimp only at one other
  rw [← alike.mem_listing mine, ← alike.decision?] at other
  rcases one with ⟨unlisted, idle⟩ | ⟨listed, done⟩
  · have idle' := (other.resolve_right fun found => unlisted found.1).2
    exact .inl ⟨idle, idle'⟩
  · have done' := (other.resolve_left fun missed => missed.1 listed).2
    rcases decision : (w.attemptOn r field).decision? offset now with none | reason | event <;>
      rw [decision] at done done'
    · exact .inl ⟨done, done'⟩
    · exact .inr (.inl ⟨reason, done, done'⟩)
    · exact .inr (.inr ⟨event, done, done'⟩)

end Attending

namespace Example

/-- A rule that mentions the value of the phase and the id of the order. -/
def pointed : Rule :=
  let r := rule "cut:1" true .entity "order" .record "phase"
  { r with spec := { r.spec with
      condition := some (.compare (.path "value") .eq (.constant (.text "cut")) .string)
      title := "cut \x7b\x7bsource.id\x7d\x7d" } }

/-- That rule, and one on another field. -/
def apartRules : List Rule := [pointed, rule "late" true .entity "order" .record "due"]

/-- The registry of these rules. -/
def apartRegistry : Registry := .ofRules catalogs (Registry.enabled apartRules)

theorem apart_built : Registry.build catalogs apartRules = .ok apartRegistry := by
  refine Registry.build_eq_ok.2 ⟨?_, ?_, rfl⟩ <;> decide

/-- The order whose phase was set, with a due date and without the note. -/
def datedOrder : EntityWrite :=
  { order with next := [("due", .text "2024-02-01"), ("phase", .text "cut")] }

theorem paths_pointed : pointed.spec.paths = ["value", "source.id"] := by
  have title : Template.pieces pointed.spec.title.toList =
      [.literal "cut ".toList, .slot "source.id".toList, .literal []] :=
    Template.pieces_of_reads (.slot (Template.firstAt_of_breakAt rfl)
      (Template.firstAt_of_breakAt rfl)
      (.last fun _ _ _ => Template.unmarked_of_breakAt rfl _ _))
  rw [RuleSpec.paths, Template.paths, title]
  decide

theorem dated_alike :
    order.AlikeTo datedOrder (.of catalogs pointed) "phase" .utc .epoch where
  recordType := rfl
  id := rfl
  actorId := rfl
  before := rfl
  after := rfl
  mentioned base _ := by
    change Value.AgreeAt pointed.spec.paths _ _
    rw [paths_pointed]
    intro path member
    rcases List.mem_pair.1 member with rfl | rfl <;> rfl

/-- Another rule reacts to the due date, but the event on the phase is the same, and so it is
with another store. -/
theorem due_unread :
    let plain := ((Engine.mk apartRegistry catalogs .utc).fireEntity
      ⟨firstOnly, (none : Option (Hook Unit))⟩ .epoch (0, ()) order).1
    let dated := ((Engine.mk apartRegistry catalogs .utc).fireEntity
      ⟨MemoryStore.store, (none : Option (Hook Unit))⟩ .epoch (.empty, ()) datedOrder).1
    plain.crash = none ∧ dated.crash = none ∧
      plain.journal.map JournalEntry.key = [⟨"cut:1", "phase", none⟩] ∧
      dated.journal.map JournalEntry.key = [⟨"cut:1", "phase", none⟩, ⟨"late", "due", none⟩] ∧
      ∃ event, plain.journal.decisions ⟨"cut:1", "phase", none⟩ = [.ok event] ∧
        dated.journal.decisions ⟨"cut:1", "phase", none⟩ = [.ok event] := by
  intro plain dated
  have returns : plain.crash = none := by decide +revert
  have returns' : dated.crash = none := by
    clear returns
    decide +revert
  have offered : (plain.journal.decisions ⟨"cut:1", "phase", none⟩).map Except.isOk = [true] := by
    clear returns returns'
    decide +revert
  have mine : RegisteredRule.of catalogs pointed ∈ Registry.accepted catalogs apartRules :=
    List.mem_cons_self
  have attends := Engine.fireEntity_attends apart_built mine rfl catalogs .utc .epoch
    dated_alike ⟨firstOnly, (none : Option (Hook Unit))⟩ (0, ())
    ⟨MemoryStore.store, (none : Option (Hook Unit))⟩ (.empty, ())
  obtain ⟨decides, -, -⟩ := attends returns returns'
  refine ⟨returns, returns', ?_, ?_, ?_⟩
  · clear returns returns' offered decides
    decide +revert
  · clear returns returns' offered decides
    decide +revert
  · rcases decides with ⟨idle, -⟩ | ⟨reason, skipped, -⟩ | same
    · cases offered.symm.trans (congrArg (List.map Except.isOk) idle)
    · cases offered.symm.trans (congrArg (List.map Except.isOk) skipped)
    · exact same

/-- A rule on the phase that is dated by the day of the dispatch, and one on the due date that is
dated by it. -/
def phaseRules : List Rule :=
  [rule "pack" true .entity "order" .record "phase",
    byField (rule "late" true .entity "order" .record "due")]

/-- The registry of these rules. -/
def phaseRegistry : Registry := .ofRules catalogs (Registry.enabled phaseRules)

/-- The order with a due date, whose phase was set as well. -/
def phasedOrder : EntityWrite :=
  { dueOrder with next := [("due", .date .epoch), ("phase", .text "cut")] }

/-- In the first hour of the calendar, an hour west of UTC, the rule on the due date offers an
event when the phase is not set, and comes to nothing when it is, though it does not mention the
phase. -/
theorem phase_suppresses :
    let d := Engine.mk phaseRegistry catalogs hourWest
    let late := RegisteredRule.of catalogs (byField (rule "late" true .entity "order" .record "due"))
    let plain := (d.fireEntity ⟨firstOnly, (none : Option (Hook Unit))⟩ .first (0, ()) dueOrder).1
    let phased := (d.fireEntity ⟨firstOnly, (none : Option (Hook Unit))⟩ .first (0, ())
      phasedOrder).1
    Registry.build catalogs phaseRules = .ok phaseRegistry ∧
      late ∈ Registry.accepted catalogs phaseRules ∧
      dueOrder.AlikeTo phasedOrder late "due" hourWest .first ∧
      (plain.journal.decisions ⟨"late", "due", none⟩).map Except.isOk = [true] ∧
      phased.journal.map JournalEntry.key = [] ∧ phased.report? = none := by
  intro d late plain phased
  refine ⟨?_, List.mem_cons_of_mem _ List.mem_cons_self, ?_, ?_, ?_, ?_⟩
  · refine Registry.build_eq_ok.2 ⟨?_, ?_, rfl⟩ <;> decide
  · refine ⟨rfl, rfl, rfl, rfl, rfl, ?_⟩
    intro base _ path mentioned
    have title : Template.pieces "done".toList = [.literal "done".toList] :=
      Template.pieces_of_reads (.last fun _ _ _ => Template.unmarked_of_breakAt rfl _ _)
    have none : late.spec.paths = [] := by
      change [] ++ Template.paths "done" ++ [] = []
      rw [Template.paths, title]
      rfl
    rw [none] at mentioned
    cases mentioned
  all_goals decide

end Example
end EventRules
