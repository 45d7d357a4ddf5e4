/-
# EventRules.Proofs.Dispatch.Isolation -- what a store and a hook have no say in

Which events a write offers, in which order, what it skips and which keys it attempts
is worked out from the attempts alone, and so is whether the run crashes.  Two runs with
different stores and hooks differ only in what the stores answer (`Engine.fire_isolated`).

What a run makes of the answers is `Outlet.Answered`: the store is given the offered
events one after another and nothing else, each answer goes under the key its event was
offered for, and the hook hears one notice for each accepted event.  One attempt
preserves this (`Answered.skip`, `Answered.deliver`), and so does a run.
-/
import EventRules.Proofs.Dispatch.Entity
namespace EventRules

set_option autoImplicit false

/-! ## Views of a journal by key -/

namespace Journal

/-- The offered events under the keys of their attempts. -/
def offers (journal : Journal) : List (AttemptId × NewEvent) :=
  journal.filterMap fun e => e.offered?.map fun event => (e.key, event)

/-- What there is to tell about each accepted event, under the key of its attempt. -/
def notices (journal : Journal) : List (AttemptId × Notice) :=
  journal.filterMap fun e =>
    match e.outcome with
    | .emitted _ _ notice _ => some (e.key, notice)
    | _ => none

theorem offered_eq_offers (journal : Journal) : journal.offered = journal.offers.map Prod.snd := by
  rw [offered, offers, List.map_filterMap]
  apply List.filterMap_congr
  intro e _
  cases e.offered? <;> rfl

end Journal

/-! ## Answers given one after another -/

/-- Give a store events one after another, each under a key: its answers under these
keys, and its state after them. -/
def EventStore.settle {σ : Type} (store : EventStore σ) :
    σ → List (AttemptId × NewEvent) → List (AttemptId × Except StoreError EventId) × σ
  | state, [] => ([], state)
  | state, (key, event) :: rest =>
      let (answer, state) := store.create state event
      let (answers, state) := store.settle state rest
      ((key, answer) :: answers, state)

/-- The id in an answer, if the event was taken. -/
def accepted? : AttemptId × Except StoreError EventId → Option (AttemptId × EventId)
  | (key, .ok id) => some (key, id)
  | (_, .error _) => none

/-- The error in an answer, if the event was refused. -/
def refused? : AttemptId × Except StoreError EventId → Option (AttemptId × StoreError)
  | (_, .ok _) => none
  | (key, .error error) => some (key, error)

/-- Tell a hook one notice after another: its answers, and its state after them. -/
def Hook.hear {η : Type} (hook : Hook η) :
    η → List Notice → List (Notice × Except HookFault Unit) × η
  | state, [] => ([], state)
  | state, notice :: rest =>
      let (answer, state) := hook.notify state notice
      let (answers, state) := hook.hear state rest
      ((notice, answer) :: answers, state)

namespace Outlet

variable {σ η : Type}

/-- Tell notices to the hook of an outlet; without one nothing is told. -/
def hear (outlet : Outlet σ η) (state : η) (notices : List Notice) :
    List (Notice × Except HookFault Unit) × η :=
  match outlet.hook with
  | none => ([], state)
  | some hook => hook.hear state notices

/-- A journal is what the answers of an outlet make of its offers, from one state to
another: the store was given the offers in order and nothing else, what it took is
emitted under the id it returned, what it refused is a failure, and the hook heard
exactly one notice of each accepted event, with its id. -/
structure Answered (outlet : Outlet σ η) (before : σ × η) (journal : Journal) (after : σ × η) :
    Prop where
  store : (outlet.store.settle before.1 journal.offers).2 = after.1
  emitted : journal.report.emitted =
    (outlet.store.settle before.1 journal.offers).1.filterMap accepted?
  failures : journal.report.failures =
    (outlet.store.settle before.1 journal.offers).1.filterMap refused?
  notices : journal.notices.map (fun n => (n.1, n.2.eventId)) = journal.report.emitted
  hook : outlet.hear before.2 (journal.notices.map Prod.snd) = (journal.told, after.2)

/-! ## One attempt -/

variable {outlet : Outlet σ η} {before after : σ × η} {journal : Journal}

theorem Answered.nil (state : σ × η) : outlet.Answered state [] state where
  store := rfl
  emitted := rfl
  failures := rfl
  notices := rfl
  hook := by
    unfold hear
    split <;> rfl

/-- A skipped attempt asks neither the store nor the hook. -/
theorem Answered.skip (rest : outlet.Answered before journal after) (key : AttemptId)
    (reason : SkipCause) : outlet.Answered before (⟨key, .skipped reason⟩ :: journal) after :=
  ⟨rest.store, rest.emitted, rest.failures, rest.notices, rest.hook⟩

theorem deliver_refused {a : Attempt} {offer : Offer} {error : StoreError} {store : σ}
    (answer : outlet.store.create before.1 offer.event = (.error error, store)) :
    outlet.deliver before a offer = (.refused offer.event error, (store, before.2)) := by
  rw [Outlet.deliver, answer]

theorem deliver_accepted {a : Attempt} {offer : Offer} {id : EventId} {store : σ}
    (answer : outlet.store.create before.1 offer.event = (.ok id, store)) :
    outlet.deliver before a offer =
      (.emitted offer.event id (a.notice offer id)
          (outlet.tell before.2 (a.notice offer id)).1,
        (store, (outlet.tell before.2 (a.notice offer id)).2)) := by
  rw [Outlet.deliver, answer]

theorem settle_cons {event : NewEvent} {answer : Except StoreError EventId} {state next : σ}
    {store : EventStore σ} (given : store.create state event = (answer, next)) (key : AttemptId)
    (rest : List (AttemptId × NewEvent)) :
    store.settle state ((key, event) :: rest) =
      ((key, answer) :: (store.settle next rest).1, (store.settle next rest).2) := by
  rw [EventStore.settle, given]

theorem hear_cons (state : η) (notice : Notice) (rest : List Notice) :
    outlet.hear state (notice :: rest) =
      (((outlet.tell state notice).1.map (Prod.mk notice)).toList ++
          (outlet.hear (outlet.tell state notice).2 rest).1,
        (outlet.hear (outlet.tell state notice).2 rest).2) := by
  unfold Outlet.hear Outlet.tell
  cases outlet.hook <;> rfl

theorem told_cons (key : AttemptId) (event : NewEvent) (id : EventId) (notice : Notice)
    (answer : Option (Except HookFault Unit)) (journal : Journal) :
    Journal.told (⟨key, .emitted event id notice answer⟩ :: journal) =
      (answer.map (Prod.mk notice)).toList ++ journal.told := by
  cases answer <;> rfl

/-- An offered event is one question to the store, and one notice when it is taken. -/
theorem Answered.deliver (a : Attempt) (offer : Offer)
    (rest : outlet.Answered (outlet.deliver before a offer).2 journal after) :
    outlet.Answered before (⟨a.key, (outlet.deliver before a offer).1⟩ :: journal) after := by
  rcases answer : outlet.store.create before.1 offer.event with ⟨error | id, store⟩
  · rw [deliver_refused answer] at rest ⊢
    have settled := settle_cons answer a.key journal.offers
    constructor
    · show (outlet.store.settle before.1 ((a.key, offer.event) :: journal.offers)).2 = after.1
      rw [settled, rest.store]
    · show journal.report.emitted =
        (outlet.store.settle before.1 ((a.key, offer.event) :: journal.offers)).1.filterMap accepted?
      rw [settled, rest.emitted]
      rfl
    · show (a.key, error) :: journal.report.failures =
        (outlet.store.settle before.1 ((a.key, offer.event) :: journal.offers)).1.filterMap refused?
      rw [settled, rest.failures]
      rfl
    · exact rest.notices
    · exact rest.hook
  · rw [deliver_accepted answer] at rest ⊢
    have settled := settle_cons answer a.key journal.offers
    constructor
    · show (outlet.store.settle before.1 ((a.key, offer.event) :: journal.offers)).2 = after.1
      rw [settled, rest.store]
    · show (a.key, id) :: journal.report.emitted =
        (outlet.store.settle before.1 ((a.key, offer.event) :: journal.offers)).1.filterMap accepted?
      rw [settled, rest.emitted]
      rfl
    · show journal.report.failures =
        (outlet.store.settle before.1 ((a.key, offer.event) :: journal.offers)).1.filterMap refused?
      rw [settled, rest.failures]
      rfl
    · show (a.key, id) :: journal.notices.map (fun n => (n.1, n.2.eventId)) =
        (a.key, id) :: journal.report.emitted
      rw [rest.notices]
    · show outlet.hear before.2 (a.notice offer id :: journal.notices.map Prod.snd) = _
      rw [hear_cons, rest.hook, told_cons]

/-! ## A run -/

/-- Whatever attempts are seen through, the journal is what the answers make of them. -/
theorem answered_seeThrough (outlet : Outlet σ η) (offset : UtcOffset) (now : Instant)
    (state : σ × η) (attempts : List Attempt) :
    outlet.Answered state (outlet.seeThrough offset now state attempts).1.journal
      (outlet.seeThrough offset now state attempts).2 := by
  induction attempts generalizing state with
  | nil => exact .nil state
  | cons a attempts ih =>
      by_cases stands : a.Stands offset now
      · obtain ⟨outcome, after, seen⟩ := outlet.attempt_of_stands state stands
        rw [seeThrough_cons seen]
        rcases attempt_cases seen with ⟨reason, -, rfl, rfl⟩ | ⟨offer, -, rfl, rfl⟩
        · exact (ih _).skip a.key reason
        · exact Answered.deliver a offer (ih _)
      · rw [seeThrough_crashes stands]
        exact .nil state

end Outlet

/-! ## What the attempts alone decide -/

namespace Attempt

/-- The event that an attempt offers, under its key. -/
def offer? (offset : UtcOffset) (now : Instant) (a : Attempt) : Option (AttemptId × NewEvent) :=
  match a.prepare offset now with
  | .ok (.ok offer) => some (a.key, offer.event)
  | _ => none

/-- Why an attempt offers none, under its key. -/
def skip? (offset : UtcOffset) (now : Instant) (a : Attempt) : Option (AttemptId × SkipCause) :=
  match a.prepare offset now with
  | .ok (.error reason) => some (a.key, reason)
  | _ => none

end Attempt

namespace Outlet

variable {σ η : Type} (outlet : Outlet σ η) (offset : UtcOffset) (now : Instant)

/-- Delivery makes an entry that offers the event and skips nothing, whatever the answers. -/
theorem deliver_offered (state : σ × η) (a : Attempt) (offer : Offer) :
    JournalEntry.offered? ⟨a.key, (outlet.deliver state a offer).1⟩ = some offer.event ∧
      JournalEntry.skipped? ⟨a.key, (outlet.deliver state a offer).1⟩ = none := by
  rcases answer : outlet.store.create state.1 offer.event with ⟨error | id, store⟩
  · rw [deliver_refused answer]
    exact ⟨rfl, rfl⟩
  · rw [deliver_accepted answer]
    exact ⟨rfl, rfl⟩

/-- What a view takes from the entry of an attempt whatever the answers were, it takes from
the entries of a run, up to the first attempt that crashes. -/
theorem filterMap_seeThrough {β : Type} {view : JournalEntry → Option β}
    {decided : Attempt → Option β}
    (takes : ∀ {before after a outcome},
      outlet.attempt offset now before a = .ok (outcome, after) → view ⟨a.key, outcome⟩ = decided a)
    (state : σ × η) (attempts : List Attempt) :
    (outlet.seeThrough offset now state attempts).1.journal.filterMap view =
      (Attempt.standing offset now attempts).filterMap decided := by
  induction attempts generalizing state with
  | nil => rfl
  | cons a attempts ih =>
      by_cases stands : a.Stands offset now
      · obtain ⟨outcome, after, seen⟩ := outlet.attempt_of_stands state stands
        rw [seeThrough_cons seen, Attempt.standing_cons_of_stands stands, Dispatched.after,
          List.filterMap_cons, List.filterMap_cons, takes seen, ih]
      · rw [seeThrough_crashes stands, Attempt.standing_cons_of_not stands]
        rfl

theorem offers_seeThrough (state : σ × η) (attempts : List Attempt) :
    (outlet.seeThrough offset now state attempts).1.journal.offers =
      (Attempt.standing offset now attempts).filterMap (Attempt.offer? offset now) := by
  apply filterMap_seeThrough
  intro before after a outcome seen
  unfold Attempt.offer?
  rcases attempt_cases seen with ⟨reason, prepared, rfl, rfl⟩ | ⟨offer, prepared, rfl, rfl⟩
  · rw [prepared]
    rfl
  · rw [prepared, (outlet.deliver_offered before a offer).1]
    rfl

theorem skipped_seeThrough (state : σ × η) (attempts : List Attempt) :
    (outlet.seeThrough offset now state attempts).1.journal.report.skipped =
      (Attempt.standing offset now attempts).filterMap (Attempt.skip? offset now) := by
  apply filterMap_seeThrough
  intro before after a outcome seen
  unfold Attempt.skip?
  rcases attempt_cases seen with ⟨reason, prepared, rfl, rfl⟩ | ⟨offer, prepared, rfl, rfl⟩
  · rw [prepared]
    rfl
  · rw [prepared, (outlet.deliver_offered before a offer).2]

end Outlet

/-! ## Two runs -/

/-- A saved record is dispatched by seeing through the first attempt of each key. -/
theorem Engine.fire_eq_seeThrough (d : Engine) {σ η : Type} (outlet : Outlet σ η) (now : Instant)
    (state : σ × η) (w : SavedWrite) :
    d.fire outlet now state w =
      outlet.seeThrough d.offset now state
        (Attempt.firsts (w.attempts d.registry d.catalogs)) := by
  cases w <;> exact outlet.run_eq_seeThrough d.offset now state _

/-- A dispatch crashes exactly when one of the attempts does that are not passed over. -/
theorem Engine.crash_fire (d : Engine) {σ η : Type} (outlet : Outlet σ η) (now : Instant)
    (state : σ × η) (w : SavedWrite) :
    (d.fire outlet now state w).1.crash = none ↔
      ∀ a ∈ Attempt.firsts (w.attempts d.registry d.catalogs), a.Stands d.offset now := by
  rw [d.fire_eq_seeThrough, Outlet.crash_seeThrough]

/-- **Failures stay apart.**  Two runs of one write, with any two stores and any two hooks,
offer the same events under the same keys, skip the same attempts for the same reasons,
and attempt the same keys; and each run is what its own store and hook answered.  Both runs
crash or neither does; if neither does, which is so unless an attempt crashes, the reports say
all this. -/
theorem Engine.fire_isolated (d : Engine) (now : Instant) (w : SavedWrite) {σ η σ' η' : Type}
    (outlet : Outlet σ η) (state : σ × η) (outlet' : Outlet σ' η') (state' : σ' × η') :
    let run := d.fire outlet now state w
    let run' := d.fire outlet' now state' w
    run.1.journal.offered = run'.1.journal.offered ∧
      run.1.journal.offers = run'.1.journal.offers ∧
      run.1.journal.report.skipped = run'.1.journal.report.skipped ∧
      run.1.journal.map JournalEntry.key = run'.1.journal.map JournalEntry.key ∧
      outlet.Answered state run.1.journal run.2 ∧ outlet'.Answered state' run'.1.journal run'.2 ∧
      (run.1.crash = none ↔ run'.1.crash = none) ∧
      ((∀ a ∈ w.attempts d.registry d.catalogs, a.Stands d.offset now) →
        run.1.report? = some run.1.journal.report ∧
          run'.1.report? = some run'.1.journal.report) := by
  intro run run'
  have seen : run = _ := d.fire_eq_seeThrough outlet now state w
  have seen' : run' = _ := d.fire_eq_seeThrough outlet' now state' w
  have crash : run.1.crash = none ↔ _ := d.crash_fire outlet now state w
  have crash' : run'.1.crash = none ↔ _ := d.crash_fire outlet' now state' w
  have offers : run.1.journal.offers = run'.1.journal.offers := by
    rw [seen, seen', Outlet.offers_seeThrough, Outlet.offers_seeThrough]
  refine ⟨?_, offers, ?_, ?_, ?_, ?_, crash.trans crash'.symm, ?_⟩
  · rw [Journal.offered_eq_offers, Journal.offered_eq_offers, offers]
  · rw [seen, seen', Outlet.skipped_seeThrough, Outlet.skipped_seeThrough]
  · rw [seen, seen', Outlet.keys_seeThrough, Outlet.keys_seeThrough]
  · rw [seen]
    exact outlet.answered_seeThrough d.offset now state _
  · rw [seen']
    exact outlet'.answered_seeThrough d.offset now state' _
  · intro stand
    have firsts : ∀ a ∈ Attempt.firsts (w.attempts d.registry d.catalogs), a.Stands d.offset now :=
      fun a first => stand a ((Attempt.firsts_sublist _).subset first)
    exact ⟨Dispatched.report?_eq_some (crash.2 firsts),
      Dispatched.report?_eq_some (crash'.2 firsts)⟩

namespace Example

/-- A rule that is dated by the value of its field. -/
def byField (r : Rule) : Rule := { r with spec := { r.spec with timeSource := .field } }

/-- Three rules on the due date of an order, of which the second is dated by the day of the
dispatch and the others by the due date. -/
def dueRules : List Rule :=
  [byField (rule "late" true .entity "order" .record "due"),
    rule "pack" true .entity "order" .record "due",
    byField (rule "ship" true .entity "order" .record "due")]

/-- The registry of these rules. -/
def dueRegistry : Registry := .ofRules catalogs (Registry.enabled dueRules)

theorem due_built : Registry.build catalogs dueRules = .ok dueRegistry := by
  refine Registry.build_eq_ok.2 ⟨?_, ?_, rfl⟩ <;> decide

/-- A new order with a due date. -/
def dueOrder : EntityWrite := ⟨"order", "o-1", "u-1", [("due", .date .epoch)], none⟩

/-- In the first hour of the calendar, an hour west of UTC, the store takes the event of the first
rule, the second crashes, and no report says that the event was emitted. -/
theorem taken_unreported :
    let fired := (Engine.mk dueRegistry catalogs hourWest).fire
      ⟨firstOnly, (none : Option (Hook Unit))⟩ .first (0, ()) (.entity dueOrder)
    Registry.build catalogs dueRules = .ok dueRegistry ∧
      fired.1.journal.created.map Prod.fst = ["first"] ∧ fired.2 = (1, ()) ∧
      fired.1.report? = none := by
  refine ⟨due_built, ?_, ?_, ?_⟩ <;> decide

end Example
end EventRules
