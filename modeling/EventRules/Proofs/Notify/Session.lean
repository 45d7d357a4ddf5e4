/-
# EventRules.Proofs.Notify.Session -- every accepted event is announced once

Saved records are dispatched one after another through one outlet whose hook notifies channels
(`Engine.fireAll`).  Each event that the store takes is announced by one notification, and each
notification goes through every channel once, in order, whatever the channels answered before
(`Tells`).  Nothing is announced of skipped attempts and refused events.  One attempt preserves
this (`tells_attempt`), so does a write, and so does a sequence of writes
(`Engine.fireAll_announced`).

What the hook answers ends in the journal and nowhere else: with any other hook, or with none,
the reports, the created events and the store are the same (`Engine.unheard_fireAll`).
-/
import EventRules.Proofs.Dispatch.Entity
import EventRules.Proofs.Dispatch.ReadBack
import EventRules.Proofs.Notify.Templates
namespace EventRules

set_option autoImplicit false

/-! ## Sending -/

namespace Channel

variable {κ : Type}

/-- Send notifications one after another, each through its channel. -/
def sendEach : List (Channel κ × Notification) → κ → List Delivery × κ
  | [], state => ([], state)
  | (channel, notification) :: rest, state =>
      let (result, state) := channel.send state notification
      let (deliveries, state) := sendEach rest state
      (⟨channel.name, notification, result⟩ :: deliveries, state)

theorem sendEach_append (first second : List (Channel κ × Notification)) (state : κ) :
    sendEach (first ++ second) state =
      ((sendEach first state).1 ++ (sendEach second (sendEach first state).2).1,
        (sendEach second (sendEach first state).2).2) := by
  induction first generalizing state with
  | nil => rfl
  | cons head first ih => simp [sendEach, ih]

/-- A notification goes through every channel once, in order: one that fails stops none. -/
theorem fanOut_eq_sendEach (notification : Notification) (channels : List (Channel κ))
    (state : κ) :
    fanOut notification channels state = sendEach (channels.map fun c => (c, notification)) state := by
  induction channels generalizing state with
  | nil => rfl
  | cons channel channels ih => simp [fanOut, sendEach, ih]

theorem sent_fanOut (notification : Notification) (channels : List (Channel κ)) (state : κ) :
    (fanOut notification channels state).1.map (fun d => (d.channel, d.notification)) =
      channels.map fun c => (c.name, notification) := by
  induction channels generalizing state with
  | nil => rfl
  | cons channel channels ih => simp [fanOut, ih]

end Channel

/-! ## Announcements -/

/-- An event that the store took, and what the hook answered when it was told. -/
structure Emission where
  key : AttemptId
  event : NewEvent
  id : EventId
  answer : Option (Except HookFault Unit)

/-- The events of a journal that the store took, in order. -/
def Journal.emissions (journal : Journal) : List Emission :=
  journal.filterMap fun e =>
    match e.outcome with
    | .emitted event id _ answer => some ⟨e.key, event, id, answer⟩
    | _ => none

/-- An event was announced through channels: by one notification, which has its title as the
subject and names it and its rule, and which every channel was sent once, in order.  The hook
failed when a channel failed, and its error lists the channels that failed, in order. -/
structure Emission.Announced {κ : Type} (channels : List (Channel κ)) (e : Emission)
    (notification : Notification) (deliveries : List Delivery) : Prop where
  subject : Keyed.get? "title" e.event.payload = some (.text notification.subject)
  eventId : Keyed.get? "event_id" notification.metadata = some e.id
  ruleId : Keyed.get? "rule_id" notification.metadata = some e.key.ruleId
  sent : deliveries.map (fun d => (d.channel, d.notification)) =
    channels.map fun c => (c.name, notification)
  succeeds : (∀ d ∈ deliveries, d.failure? = none) → e.answer = some (.ok ())
  fails : (∃ d ∈ deliveries, d.failure? ≠ none) →
    e.answer = some (.error (.delivery (String.intercalate "; "
      ((deliveries.filterMap Delivery.failure?).map fun f => f.1 ++ ": " ++ f.2.message))))

/-- From one state of the notify hook to another, the emissions were announced one after
another, each through every channel, and nothing else was sent. -/
structure Tells {κ : Type} (channels : List (Channel κ)) (before : NotifyState κ)
    (emissions : List Emission) (rounds : List (Notification × List Delivery))
    (after : NotifyState κ) : Prop where
  announced : List.Forall₂ (fun e round => e.Announced channels round.1 round.2) emissions rounds
  sends : Channel.sendEach (rounds.flatMap fun round => channels.map fun c => (c, round.1))
    before.channels = (rounds.flatMap Prod.snd, after.channels)
  log : after.deliveries = before.deliveries ++ rounds.flatMap Prod.snd

namespace Tells

variable {κ : Type} {channels : List (Channel κ)} {before middle after : NotifyState κ}

theorem nil (state : NotifyState κ) : Tells channels state [] [] state where
  announced := .nil
  sends := rfl
  log := by simp

theorem append {first second : List Emission}
    {rounds others : List (Notification × List Delivery)}
    (left : Tells channels before first rounds middle)
    (right : Tells channels middle second others after) :
    Tells channels before (first ++ second) (rounds ++ others) after where
  announced := List.rel_append left.announced right.announced
  sends := by
    rw [List.flatMap_append, Channel.sendEach_append, left.sends, right.sends,
      List.flatMap_append]
  log := by
    rw [right.log, left.log, List.flatMap_append, List.append_assoc]

end Tells

/-! ## One notice -/

/-- The hook fails with the failing channels in order, and succeeds when none failed. -/
theorem outcome_of_failures (deliveries : List Delivery) :
    ((∀ d ∈ deliveries, d.failure? = none) → NotifyHook.outcome deliveries = .ok ()) ∧
      ((∃ d ∈ deliveries, d.failure? ≠ none) →
        NotifyHook.outcome deliveries = .error (.delivery (String.intercalate "; "
          ((deliveries.filterMap Delivery.failure?).map fun f => f.1 ++ ": " ++ f.2.message)))) := by
  unfold NotifyHook.outcome Delivery.failures
  constructor
  · intro clean
    rw [List.filterMap_eq_nil_iff.2 clean]
  · rintro ⟨d, member, failed⟩
    split
    · rename_i none
      exact absurd (List.filterMap_eq_nil_iff.1 none d member) failed
    · rfl

/-- A faithful renderer makes a notice into a notification that names the event and its rule,
with the title for its subject. -/
theorem notification_eq {render : Renderer} (faithful : render.Faithful) {notice : Notice}
    (source : notice.HasSource) :
    ∃ body, notice.notification render = .ok ⟨notice.title, body,
      [("rule_id", notice.ruleId), ("event_id", notice.eventId),
        ("event_type", notice.eventType), ("scope", notice.scope.name)]⟩ := by
  obtain ⟨body, rendered⟩ := faithful.body notice source
  refine ⟨body, ?_⟩
  rw [Notice.notification, faithful.subject]
  dsimp only
  rw [rendered]

section Telling

variable {κ : Type} {render : Renderer}

/-- A notice is one announcement. -/
theorem tells_notify (faithful : render.Faithful) (channels : List (Channel κ))
    (state : NotifyState κ) {notice : Notice}
    (source : notice.HasSource) {key : AttemptId} (rule : notice.ruleId = key.ruleId)
    {event : NewEvent} (title : Keyed.get? "title" event.payload = some (.text notice.title)) :
    ∃ rounds, Tells channels state
      [⟨key, event, notice.eventId, some (NotifyHook.notify render channels state notice).1⟩]
      rounds (NotifyHook.notify render channels state notice).2 := by
  obtain ⟨body, made⟩ := notification_eq faithful source
  rw [NotifyHook.notify, made]
  generalize facts : (⟨notice.title, body, _⟩ : Notification) = notification
  dsimp only
  obtain ⟨succeeds, fails⟩ :=
    outcome_of_failures (Channel.fanOut notification channels state.channels).1
  refine ⟨[(notification, (Channel.fanOut notification channels state.channels).1)], ?_⟩
  constructor
  · refine .cons ?_ .nil
    constructor
    · rw [← facts]
      exact title
    · rw [← facts]
      rfl
    · rw [← facts, ← rule]
      rfl
    · exact Channel.sent_fanOut notification channels state.channels
    · exact fun clean => congrArg some (succeeds clean)
    · exact fun failed => congrArg some (fails failed)
  · simp [Channel.fanOut_eq_sendEach]
  · simp

end Telling

/-! ## One attempt -/

/-- An event carries the title of its rule, whatever else is put into its payload. -/
theorem Attempt.title_payload (a : Attempt) (context : Value) :
    Keyed.get? "title" (a.payload context) = some (.text (a.title context)) := by
  have kept : ∀ (key : String) (value : Option Value) (record : Record), key ≠ "title" →
      Keyed.get? "title" (putSome key value record) = Keyed.get? "title" record := by
    intro key value record other
    cases value with
    | none => rfl
    | some v => rw [putSome, Keyed.get?_insert, if_neg other]
  rw [payload, kept "ui_hint" _ _ (by decide), kept "description" _ _ (by decide), Keyed.get?_insert_self]

/-- The context of an attempt says which record was written. -/
theorem Attempt.source_context (a : Attempt) (offset : UtcOffset) (now base : Instant) :
    ∃ fields, a.context offset now base = .object fields ∧ Keyed.get? "source" fields =
      some (.object [("id", .text a.source.id), ("type", .text a.source.recordType)]) := by
  refine ⟨_, rfl, ?_⟩
  cases a.member <;> simp [Keyed.get?]

/-- What the hook is told of an offer names the record, the rule and the title of the event. -/
theorem Attempt.notice_of_prepare {a : Attempt} {offset : UtcOffset} {now : Instant}
    {offer : Offer} (prepared : a.prepare offset now = .ok (.ok offer)) (id : EventId) :
    (a.notice offer id).HasSource ∧ (a.notice offer id).ruleId = a.key.ruleId ∧
      Keyed.get? "title" offer.event.payload = some (.text (a.notice offer id).title) := by
  obtain ⟨base, extent, -, -, -, rfl⟩ := Attempt.prepare_eq_ok prepared
  obtain ⟨fields, object, found⟩ := a.source_context offset now base
  exact ⟨⟨fields, _, _, object, found⟩, rfl, a.title_payload _⟩

/-! ## A run -/

namespace Outlet

variable {σ κ : Type} {render : Renderer}

/-- A store beside the notify hook. -/
def notifying (store : EventStore σ) (render : Renderer) (channels : List (Channel κ)) :
    Outlet σ (NotifyState κ) :=
  ⟨store, some (NotifyHook.hook render channels)⟩

/-- Seeing an attempt through announces its event if the store takes it, and nothing else. -/
theorem tells_attempt (faithful : render.Faithful) {store : EventStore σ}
    {channels : List (Channel κ)} {offset : UtcOffset} {now : Instant}
    {before after : σ × NotifyState κ} {a : Attempt} {outcome : Outcome}
    (seen : (notifying store render channels).attempt offset now before a = .ok (outcome, after)) :
    ∃ rounds, Tells channels before.2 (Journal.emissions [⟨a.key, outcome⟩]) rounds after.2 := by
  rcases attempt_cases seen with ⟨reason, prepared, rfl, rfl⟩ | ⟨offer, prepared, rfl, rfl⟩
  · exact ⟨[], .nil _⟩
  · rcases answer : store.create before.1 offer.event with ⟨error | id, next⟩
    · have refused : (notifying store render channels).deliver before a offer = _ :=
        deliver_refused answer
      rw [refused]
      exact ⟨[], .nil before.2⟩
    · have accepted : (notifying store render channels).deliver before a offer = _ :=
        deliver_accepted answer
      rw [accepted]
      obtain ⟨source, rule, title⟩ := Attempt.notice_of_prepare prepared id
      exact tells_notify faithful channels before.2 source rule title

/-- Seeing attempts through announces the events that the store takes, in order, also when an
attempt crashes later. -/
theorem tells_seeThrough (faithful : render.Faithful) (store : EventStore σ)
    (channels : List (Channel κ)) (offset : UtcOffset) (now : Instant)
    (state : σ × NotifyState κ) (attempts : List Attempt) :
    ∃ rounds, Tells channels state.2
      ((notifying store render channels).seeThrough offset now state attempts).1.journal.emissions
      rounds
      ((notifying store render channels).seeThrough offset now state attempts).2.2 := by
  induction attempts generalizing state with
  | nil => exact ⟨[], .nil state.2⟩
  | cons a attempts ih =>
      by_cases stands : a.Stands offset now
      · obtain ⟨outcome, after, seen⟩ :=
          (notifying store render channels).attempt_of_stands state stands
        obtain ⟨first, told⟩ := tells_attempt faithful seen
        obtain ⟨others, rest⟩ := ih after
        rw [seeThrough_cons seen]
        have split : ∀ (e : JournalEntry) (journal : Journal),
            Journal.emissions (e :: journal) = Journal.emissions [e] ++ journal.emissions :=
          fun e journal => List.filterMap_append (l := [e])
        rw [Dispatched.after, split]
        exact ⟨_, told.append rest⟩
      · rw [seeThrough_crashes stands]
        exact ⟨[], .nil state.2⟩

end Outlet

/-! ## A sequence of writes -/

/-- Dispatch saved records one after another, each at its instant: what each dispatch did, and the
state after the last.  After a dispatch that crashes, whoever called may go on with the next
record or not. -/
def Engine.fireAll {σ η : Type} (d : Engine) (outlet : Outlet σ η) :
    σ × η → List (Instant × SavedWrite) → List Dispatched × (σ × η)
  | state, [] => ([], state)
  | state, (now, w) :: rest =>
      let (dispatched, state) := d.fire outlet now state w
      let (others, state) := d.fireAll outlet state rest
      (dispatched :: others, state)

theorem Engine.fireAll_cons {σ η : Type} (d : Engine) (outlet : Outlet σ η) (state : σ × η)
    (now : Instant) (w : SavedWrite) (rest : List (Instant × SavedWrite)) :
    d.fireAll outlet state ((now, w) :: rest) =
      ((d.fire outlet now state w).1 ::
          (d.fireAll outlet (d.fire outlet now state w).2 rest).1,
        (d.fireAll outlet (d.fire outlet now state w).2 rest).2) := rfl

/-- The journals of dispatches. -/
def Dispatched.journals (all : List Dispatched) : List Journal := all.map Dispatched.journal

/-- Every event that is taken in a sequence of writes is announced, in order. -/
theorem Engine.tells_fireAll (d : Engine) {σ κ : Type} {render : Renderer}
    (faithful : render.Faithful) (store : EventStore σ) (channels : List (Channel κ))
    (state : σ × NotifyState κ) (writes : List (Instant × SavedWrite)) :
    ∃ rounds, Tells channels state.2
      ((Dispatched.journals (d.fireAll (.notifying store render channels) state writes).1).flatMap
        Journal.emissions)
      rounds (d.fireAll (.notifying store render channels) state writes).2.2 := by
  induction writes generalizing state with
  | nil => exact ⟨[], .nil state.2⟩
  | cons write writes ih =>
      obtain ⟨now, w⟩ := write
      obtain ⟨others, rest⟩ := ih (d.fire (.notifying store render channels) now state w).2
      obtain ⟨first, told⟩ := Outlet.tells_seeThrough faithful store channels d.offset now state
        (Attempt.firsts (w.attempts d.registry d.catalogs))
      rw [← d.fire_eq_seeThrough] at told
      rw [fireAll_cons, Dispatched.journals, List.map_cons, List.flatMap_cons]
      exact ⟨_, told.append rest⟩

/-! ## Other hooks -/

/-- An outcome without the answer of a hook. -/
def Outcome.unheard : Outcome → Outcome
  | .emitted event id notice _ => .emitted event id notice none
  | outcome => outcome

/-- A journal without the answers of a hook. -/
def Journal.unheard (journal : Journal) : Journal :=
  journal.map fun e => ⟨e.key, e.outcome.unheard⟩

namespace Journal

/-- What a view takes from an entry whatever the hook answered, it takes from a journal without
the answers. -/
theorem filterMap_unheard {β : Type} (view : JournalEntry → Option β)
    (same : ∀ key outcome, view ⟨key, Outcome.unheard outcome⟩ = view ⟨key, outcome⟩)
    (journal : Journal) : journal.unheard.filterMap view = journal.filterMap view := by
  rw [unheard, List.filterMap_map]
  exact congrArg (fun f => journal.filterMap f) (funext fun e => same e.key e.outcome)

/-- The report and the created events do not tell what a hook answered. -/
theorem report_unheard (journal : Journal) :
    journal.unheard.report = journal.report ∧ journal.unheard.created = journal.created := by
  have emitted := filterMap_unheard JournalEntry.emitted?
    (fun _ outcome => by cases outcome <;> rfl) journal
  have skipped := filterMap_unheard JournalEntry.skipped?
    (fun _ outcome => by cases outcome <;> rfl) journal
  have failed := filterMap_unheard JournalEntry.failed?
    (fun _ outcome => by cases outcome <;> rfl) journal
  have created := filterMap_unheard JournalEntry.created?
    (fun _ outcome => by cases outcome <;> rfl) journal
  refine ⟨?_, created⟩
  rw [report, report, emitted, skipped, failed]

theorem report_of_unheard {journal other : Journal} (same : journal.unheard = other.unheard) :
    journal.report = other.report ∧ journal.created = other.created := by
  obtain ⟨report, created⟩ := journal.report_unheard
  obtain ⟨report', created'⟩ := other.report_unheard
  rw [← report, ← created, same]
  exact ⟨report', created'⟩

end Journal

section Hooks

variable {σ η η' : Type} (store : EventStore σ) (hook : Option (Hook η)) (hook' : Option (Hook η'))

/-- What becomes of an attempt and of the store does not depend on the hook. -/
theorem Outlet.unheard_attempt {offset : UtcOffset} {now : Instant} {state : σ} {heard : η}
    (heard' : η') {a : Attempt} {outcome : Outcome} {after : σ × η}
    (seen : (Outlet.mk store hook).attempt offset now (state, heard) a = .ok (outcome, after)) :
    ∃ outcome' ear', (Outlet.mk store hook').attempt offset now (state, heard') a =
        .ok (outcome', (after.1, ear')) ∧ outcome.unheard = outcome'.unheard := by
  rcases attempt_cases seen with ⟨reason, prepared, rfl, rfl⟩ | ⟨offer, prepared, rfl, rfl⟩
  · refine ⟨.skipped reason, heard', ?_, rfl⟩
    rw [attempt, prepared]
  · rw [attempt, prepared]
    dsimp only
    rcases answer : store.create state offer.event with ⟨error | id, next⟩
    · have refused : (Outlet.mk store hook).deliver (state, heard) a offer = _ :=
        deliver_refused answer
      have refused' : (Outlet.mk store hook').deliver (state, heard') a offer = _ :=
        deliver_refused answer
      rw [refused, refused']
      exact ⟨_, _, rfl, rfl⟩
    · have accepted : (Outlet.mk store hook).deliver (state, heard) a offer = _ :=
        deliver_accepted answer
      have accepted' : (Outlet.mk store hook').deliver (state, heard') a offer = _ :=
        deliver_accepted answer
      rw [accepted, accepted']
      exact ⟨_, _, rfl, rfl⟩

/-- What a dispatch leaves is the same, whatever a hook answered: the journal without these
answers, the crash, and the store. -/
structure Dispatched.Alike (run : Dispatched × (σ × η)) (run' : Dispatched × (σ × η')) : Prop where
  journal : run.1.journal.unheard = run'.1.journal.unheard
  crash : run.1.crash = run'.1.crash
  store : run.2.1 = run'.2.1

theorem Outlet.alike_seeThrough (offset : UtcOffset) (now : Instant) (state : σ) (heard : η)
    (heard' : η') (attempts : List Attempt) :
    Dispatched.Alike ((Outlet.mk store hook).seeThrough offset now (state, heard) attempts)
      ((Outlet.mk store hook').seeThrough offset now (state, heard') attempts) := by
  induction attempts generalizing state heard heard' with
  | nil => exact ⟨rfl, rfl, rfl⟩
  | cons a attempts ih =>
      by_cases stands : a.Stands offset now
      · obtain ⟨outcome, ⟨next, ear⟩, seen⟩ :=
          (Outlet.mk store hook).attempt_of_stands (state, heard) stands
        obtain ⟨outcome', ear', seen', outcomes⟩ :=
          unheard_attempt store hook hook' heard' seen
        obtain ⟨journals, crashes, stores⟩ := ih next ear ear'
        rw [seeThrough_cons seen, seeThrough_cons seen']
        refine ⟨?_, crashes, stores⟩
        simp only [Dispatched.after, Journal.unheard, List.map_cons, outcomes]
        exact congrArg _ journals
      · rw [seeThrough_crashes stands, seeThrough_crashes stands]
        exact ⟨rfl, rfl, rfl⟩

theorem Dispatched.Alike.report? {run : Dispatched × (σ × η)} {run' : Dispatched × (σ × η')}
    (alike : Dispatched.Alike run run') : run.1.report? = run'.1.report? := by
  unfold Dispatched.report?
  rw [alike.crash, (Journal.report_of_unheard alike.journal).1]

/-- Reports, created events and the store are the same with every hook. -/
theorem Engine.unheard_fireAll (d : Engine) (state : σ) (heard : η) (heard' : η')
    (writes : List (Instant × SavedWrite)) :
    let run := d.fireAll ⟨store, hook⟩ (state, heard) writes
    let run' := d.fireAll ⟨store, hook'⟩ (state, heard') writes
    run.1.map Dispatched.report? = run'.1.map Dispatched.report? ∧
      (Dispatched.journals run.1).map Journal.report =
        (Dispatched.journals run'.1).map Journal.report ∧
      (Dispatched.journals run.1).map Journal.created =
        (Dispatched.journals run'.1).map Journal.created ∧ run.2.1 = run'.2.1 := by
  induction writes generalizing state heard heard' with
  | nil => exact ⟨rfl, rfl, rfl, rfl⟩
  | cons write writes ih =>
      obtain ⟨now, w⟩ := write
      have one := Outlet.alike_seeThrough store hook hook' d.offset now state heard heard'
        (Attempt.firsts (w.attempts d.registry d.catalogs))
      rw [← d.fire_eq_seeThrough, ← d.fire_eq_seeThrough] at one
      rcases fired : d.fire ⟨store, hook⟩ now (state, heard) w with ⟨done, next, ear⟩
      rcases fired' : d.fire ⟨store, hook'⟩ now (state, heard') w with ⟨done', next', ear'⟩
      rw [fired, fired'] at one
      have returned := one.report?
      obtain ⟨report, created⟩ := Journal.report_of_unheard one.journal
      obtain rfl : next = next' := one.store
      obtain ⟨returns, reports, creations, stores⟩ := ih next ear ear'
      dsimp only [Dispatched.journals] at returned report created returns reports creations stores ⊢
      rw [fireAll_cons, fireAll_cons, fired, fired']
      simp only [List.map_cons, returned, report, created, returns, reports, creations, stores,
        and_self]

end Hooks

/-- **Every accepted event is announced once.**  In a sequence of writes with the notify hook,
the events that the store takes are announced one after another, each by one notification that
every channel is sent once, in order, and nothing else is sent; and with other channels, with
another hook or with none, the reports, the created events and the store are the same. -/
theorem Engine.fireAll_announced (d : Engine) {σ κ : Type} {render : Renderer}
    (faithful : render.Faithful) (store : EventStore σ) (channels : List (Channel κ))
    (state : σ × NotifyState κ) (writes : List (Instant × SavedWrite)) :
    let run := d.fireAll (.notifying store render channels) state writes
    (∃ rounds, Tells channels state.2
        ((Dispatched.journals run.1).flatMap Journal.emissions) rounds run.2.2) ∧
      ∀ {η : Type} (hook : Option (Hook η)) (heard : η),
        let other := d.fireAll ⟨store, hook⟩ (state.1, heard) writes
        run.1.map Dispatched.report? = other.1.map Dispatched.report? ∧
          (Dispatched.journals run.1).map Journal.report =
            (Dispatched.journals other.1).map Journal.report ∧
          (Dispatched.journals run.1).map Journal.created =
            (Dispatched.journals other.1).map Journal.created ∧ run.2.1 = other.2.1 :=
  ⟨d.tells_fireAll faithful store channels state writes, fun hook heard =>
    Engine.unheard_fireAll store (some (NotifyHook.hook render channels)) hook d state.1 state.2
      heard writes⟩

namespace Example

/-- A channel that delivers everything. -/
def mail : Channel Nat := ⟨"mail", fun n _ => (.ok (), n + 1)⟩

/-- A channel that is down. -/
def chat : Channel Nat := ⟨"chat", fun n _ => (.error (.http "down"), n)⟩

/-- The reports of an order that is saved twice: of its events the first is taken. -/
def orderReports : List Report :=
  [⟨[(⟨"cut:1", "phase", none⟩, "first")], [],
      [(⟨"pack", "phase", none⟩, .unavailable "full")]⟩,
    ⟨[], [], [(⟨"cut:1", "phase", none⟩, .unavailable "full"),
      (⟨"pack", "phase", none⟩, .unavailable "full")]⟩]

theorem order_reports : ((Engine.mk registry catalogs .utc).fireAll
    ⟨firstOnly, (none : Option (Hook Unit))⟩ (0, ())
    [(.epoch, .entity order), (.epoch, .entity order)]).1.map Dispatched.report? =
      orderReports.map some := by
  decide

/-- The one event that is taken is announced through both channels, although the first of them
is down; nothing is announced of the others. -/
theorem order_announced :
    let run := (Engine.mk registry catalogs .utc).fireAll
      (.notifying firstOnly (Markup.renderer []) [chat, mail]) (0, ⟨0, []⟩)
      [(.epoch, .entity order), (.epoch, .entity order)]
    (Markup.renderer []).Faithful ∧ run.1.map Dispatched.report? = orderReports.map some ∧
      ∃ rounds, Tells [chat, mail] ⟨0, []⟩
        ((Dispatched.journals run.1).flatMap Journal.emissions) rounds run.2.2 := by
  have faithful := Markup.faithful_renderer []
  have announced := Engine.fireAll_announced ⟨registry, catalogs, .utc⟩ faithful firstOnly
    [chat, mail] (0, ⟨0, []⟩) [(.epoch, .entity order), (.epoch, .entity order)]
  -- the reports are those without a hook, where there is nothing to render
  exact ⟨faithful, (announced.2 none ()).1.trans order_reports, announced.1⟩

end Example
end EventRules
