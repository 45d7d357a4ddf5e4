/-
# EventRules.Dispatch.Journal -- what came of each attempt

`Outlet.run` goes through the attempts of a write in order.  An attempt with
the key of an earlier one is passed over.  Every other attempt ends in one entry
of the journal: it was skipped, its event was refused, or its event was emitted
and the hook was told.  Nothing that a store or a hook answers has a say in what
is attempted afterwards.

An attempt that crashes ends the run: nothing is attempted after it, and whoever
called gets no report.  What the store and the hook were given before remains.

The report of a write, the events it created and the answers of the hook are all
read off the journal.
-/
import EventRules.Dispatch.Firing
import EventRules.Dispatch.Outlet
namespace EventRules

set_option autoImplicit false

/-- What came of an attempt. -/
inductive Outcome where
  | skipped (reason : SkipCause)
  | refused (event : NewEvent) (error : StoreError)
  | emitted (event : NewEvent) (id : EventId) (notice : Notice)
      (answer : Option (Except HookFault Unit))

/-- An attempt and what came of it. -/
structure JournalEntry where
  key : AttemptId
  outcome : Outcome

/-- The entries of one write, in the order of the attempts. -/
abbrev Journal := List JournalEntry

/-- What a dispatch did: its journal, and the crash that it ended in, if it did. -/
structure Dispatched where
  journal : Journal
  crash : Option Crash

namespace Dispatched

/-- Nothing was attempted. -/
def idle : Dispatched := ⟨[], none⟩

/-- The dispatch, after an entry that came before. -/
def after (d : Dispatched) (e : JournalEntry) : Dispatched := { d with journal := e :: d.journal }

end Dispatched

/-- What a hook is told about an offer that was accepted. -/
def Attempt.notice (a : Attempt) (offer : Offer) (id : EventId) : Notice where
  scope := a.rule.spec.scope
  ruleId := a.rule.id
  ruleName := a.rule.name
  eventId := id
  eventType := a.rule.spec.eventType
  title := offer.title
  subject := offer.subject
  context := offer.context

namespace Outlet

variable {σ η : Type}

/-- Offer an event to the store and tell the hook when it is accepted. -/
def deliver (outlet : Outlet σ η) (state : σ × η) (a : Attempt) (offer : Offer) :
    Outcome × (σ × η) :=
  match outlet.store.create state.1 offer.event with
  | (.error e, store) => (.refused offer.event e, (store, state.2))
  | (.ok id, store) =>
      let notice := a.notice offer id
      let (answer, hook) := outlet.tell state.2 notice
      (.emitted offer.event id notice answer, (store, hook))

/-- See one attempt through. -/
def attempt (outlet : Outlet σ η) (offset : UtcOffset) (now : Instant) (state : σ × η)
    (a : Attempt) : Except Crash (Outcome × (σ × η)) :=
  match a.prepare offset now with
  | .error crash => .error crash
  | .ok (.error reason) => .ok (.skipped reason, state)
  | .ok (.ok offer) => .ok (outlet.deliver state a offer)

/-- Go through attempts in order, where `seen` are the keys of those before. -/
def run (outlet : Outlet σ η) (offset : UtcOffset) (now : Instant) :
    List AttemptId → σ × η → List Attempt → Dispatched × (σ × η)
  | _, state, [] => (.idle, state)
  | seen, state, a :: rest =>
      if a.key ∈ seen then outlet.run offset now seen state rest
      else
        match outlet.attempt offset now state a with
        | .error crash => (⟨[], some crash⟩, state)
        | .ok (outcome, state) =>
            let (dispatched, state) := outlet.run offset now (a.key :: seen) state rest
            (dispatched.after ⟨a.key, outcome⟩, state)

end Outlet

/-- Rules, catalogs and the local offset: all that decides which events a write
offers, apart from the instant. -/
structure Engine where
  registry : Registry
  catalogs : Catalogs
  offset : UtcOffset

namespace Engine

variable {σ η : Type}

/-- Dispatch a saved singular record at an instant. -/
def fireEntity (d : Engine) (outlet : Outlet σ η) (now : Instant) (state : σ × η)
    (w : EntityWrite) : Dispatched × (σ × η) :=
  outlet.run d.offset now [] state (w.attempts d.registry d.catalogs)

/-- Dispatch a saved group record at an instant. -/
def fireGroup (d : Engine) (outlet : Outlet σ η) (now : Instant) (state : σ × η)
    (w : GroupWrite) : Dispatched × (σ × η) :=
  outlet.run d.offset now [] state (w.attempts d.registry d.catalogs)

/-- Dispatch a saved record at an instant. -/
def fire (d : Engine) (outlet : Outlet σ η) (now : Instant) (state : σ × η) :
    SavedWrite → Dispatched × (σ × η)
  | .entity w => d.fireEntity outlet now state w
  | .group w => d.fireGroup outlet now state w

end Engine
end EventRules
