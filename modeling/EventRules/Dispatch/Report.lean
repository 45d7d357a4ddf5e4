/-
# EventRules.Dispatch.Report -- reports

A report lists what came of the attempts of a write: the emitted events with
their ids, the skipped attempts with their reasons, the refused events with the
words of the store, each in the order of the attempts.  There is one for every
dispatch that does not crash.
-/
import EventRules.Dispatch.Journal
namespace EventRules

set_option autoImplicit false

/-- What came of one write. -/
structure Report where
  emitted : List (AttemptId × EventId)
  skipped : List (AttemptId × SkipCause)
  failures : List (AttemptId × StoreError)
  deriving DecidableEq

namespace JournalEntry

/-- The key and the id of an emitted event. -/
def emitted? (e : JournalEntry) : Option (AttemptId × EventId) :=
  match e.outcome with
  | .emitted _ id _ _ => some (e.key, id)
  | _ => none

/-- The key and the reason of a skipped attempt. -/
def skipped? (e : JournalEntry) : Option (AttemptId × SkipCause) :=
  match e.outcome with
  | .skipped reason => some (e.key, reason)
  | _ => none

/-- The key and the error of a refused event. -/
def failed? (e : JournalEntry) : Option (AttemptId × StoreError) :=
  match e.outcome with
  | .refused _ error => some (e.key, error)
  | _ => none

/-- The event that was offered to the store, if one was. -/
def offered? (e : JournalEntry) : Option NewEvent :=
  match e.outcome with
  | .skipped _ => none
  | .refused event _ => some event
  | .emitted event _ _ _ => some event

/-- The event that was created, with its id. -/
def created? (e : JournalEntry) : Option (EventId × NewEvent) :=
  match e.outcome with
  | .emitted event id _ _ => some (id, event)
  | _ => none

/-- What a hook was told, with its answer. -/
def told? (e : JournalEntry) : Option (Notice × Except HookFault Unit) :=
  match e.outcome with
  | .emitted _ _ notice (some answer) => some (notice, answer)
  | _ => none

end JournalEntry

namespace Journal

/-- The report of a journal. -/
def report (journal : Journal) : Report where
  emitted := journal.filterMap JournalEntry.emitted?
  skipped := journal.filterMap JournalEntry.skipped?
  failures := journal.filterMap JournalEntry.failed?

/-- The events offered to the store, in order. -/
def offered (journal : Journal) : List NewEvent := journal.filterMap JournalEntry.offered?

/-- The events created, with their ids, in order. -/
def created (journal : Journal) : List (EventId × NewEvent) :=
  journal.filterMap JournalEntry.created?

/-- What the hook was told and answered, in order. -/
def told (journal : Journal) : List (Notice × Except HookFault Unit) :=
  journal.filterMap JournalEntry.told?

end Journal

/-- The report that whoever called gets; a dispatch that crashed gives none. -/
def Dispatched.report? (d : Dispatched) : Option Report :=
  match d.crash with
  | none => some d.journal.report
  | some _ => none

namespace Report

/-- Whether every offered event was created. -/
def isClean (report : Report) : Bool := report.failures.isEmpty

/-- How many events a rule produced. -/
def emittedBy (report : Report) (ruleId : String) : Nat :=
  (report.emitted.filter fun e => e.1.ruleId = ruleId).length

/-- Why attempts of a rule were skipped, in order. -/
def skippedBy (report : Report) (ruleId : String) : List SkipCause :=
  (report.skipped.filter fun e => e.1.ruleId = ruleId).map Prod.snd

end Report
end EventRules
