/-
# EventRules.Proofs.Dispatch.Run -- what a run does with its attempts

A run passes over an attempt when an earlier one had its key.  What is left are the
first attempts of each key, `Attempt.firsts`, and these are seen through, in order:
`Outlet.run_eq_seeThrough`.  The keys that were seen have no other effect.

One thing ends a run early.  An attempt whose rule is dated by the day of the dispatch
crashes where the calendar lacks the local reading (`Attempt.prepare_eq_error_iff`); every
other attempt stands (`Attempt.Stands`).  A run leaves what became of the attempts before
the first that crashes, and it crashes exactly when there is one
(`Outlet.keys_seeThrough`, `Outlet.crash_seeThrough`).

The report of a run that does not crash records each of the keys in exactly one of its
three lists, and each list keeps the order of the attempts: `Journal.report_records`.
-/
import EventRules.Dispatch.Report
import EventRules.Proofs.Calendar.Midnight
import Mathlib.Data.List.Nodup
import Mathlib.Data.List.Perm.Basic
import Mathlib.Data.List.TakeWhile
namespace EventRules

set_option autoImplicit false

/-! ## The first attempt of each key -/

namespace Attempt

/-- Of the attempts with one key only the first, in order. -/
def firsts : List Attempt → List Attempt
  | [] => []
  | a :: rest => a :: (firsts rest).filter fun b => b.key ≠ a.key

theorem firsts_sublist (attempts : List Attempt) : (firsts attempts).Sublist attempts := by
  induction attempts with
  | nil => exact List.Sublist.refl []
  | cons a rest ih => exact (List.filter_sublist.trans ih).cons_cons a

theorem nodup_keys_firsts (attempts : List Attempt) : ((firsts attempts).map key).Nodup := by
  induction attempts with
  | nil => exact List.nodup_nil
  | cons a rest ih =>
      rw [firsts, List.map_cons, List.nodup_cons]
      refine ⟨?_, ih.sublist (List.filter_sublist.map key)⟩
      intro again
      obtain ⟨b, member, same⟩ := List.mem_map.1 again
      simpa [same] using (List.mem_filter.1 member).2

/-- When no two attempts share a key, none is passed over. -/
theorem firsts_eq_self {attempts : List Attempt} (distinct : (attempts.map key).Nodup) :
    firsts attempts = attempts := by
  induction attempts with
  | nil => rfl
  | cons a rest ih =>
      obtain ⟨fresh, distinct⟩ := List.nodup_cons.1 distinct
      rw [firsts, ih distinct, List.filter_eq_self.2]
      intro b member
      have differ : b.key ≠ a.key := fun same => fresh (same ▸ List.mem_map_of_mem member)
      simpa using differ

end Attempt

/-! ## Attempts that crash -/

namespace Attempt

variable {a : Attempt} {offset : UtcOffset} {now : Instant}

/-- An attempt stands where its rule is dated by a field, or the calendar has the local
reading of the instant. -/
def Stands (a : Attempt) (offset : UtcOffset) (now : Instant) : Prop :=
  a.rule.spec.timeSource = .now → offset.Reads now

instance (a : Attempt) (offset : UtcOffset) (now : Instant) : Decidable (a.Stands offset now) :=
  inferInstanceAs (Decidable (_ → _))

/-- An attempt that does not stand crashes, before anything else about it is looked at. -/
theorem prepare_crashes (falls : ¬ a.Stands offset now) :
    a.prepare offset now = .error .dateOutsideCalendar := by
  obtain ⟨source, missing⟩ := Classical.not_imp.1 falls
  have base : a.base offset now = .error .dateOutsideCalendar := by
    simp only [Attempt.base, source, UtcOffset.startOfDay_eq_error_iff.2 missing]
  rw [prepare, base]

theorem base_of_stands (stands : a.Stands offset now) : ∃ base, a.base offset now = .ok base := by
  unfold Attempt.base
  cases source : a.rule.spec.timeSource with
  | now =>
      rw [UtcOffset.startOfDay_of_reads (stands source)]
      dsimp only
      cases Instant.of? (offset.midnight now) 0 with
      | none => exact ⟨_, rfl⟩
      | some base => exact ⟨_, rfl⟩
  | field =>
      dsimp only
      cases a.next.toDate offset with
      | none => exact ⟨_, rfl⟩
      | some base => exact ⟨_, rfl⟩

theorem prepare_of_stands (stands : a.Stands offset now) :
    ∃ prepared, a.prepare offset now = .ok prepared := by
  obtain ⟨base, found⟩ := base_of_stands stands
  rw [prepare, found]
  cases base <;> exact ⟨_, rfl⟩

/-- An attempt crashes exactly when it does not stand. -/
theorem prepare_eq_error_iff {crash : Crash} :
    a.prepare offset now = .error crash ↔ ¬ a.Stands offset now := by
  constructor
  · intro crashes stands
    obtain ⟨prepared, made⟩ := prepare_of_stands stands
    cases crashes.symm.trans made
  · intro falls
    cases crash
    exact prepare_crashes falls

/-- The attempts before the first that crashes. -/
def standing (offset : UtcOffset) (now : Instant) (attempts : List Attempt) : List Attempt :=
  attempts.takeWhile fun a => a.Stands offset now

theorem standing_prefix (offset : UtcOffset) (now : Instant) (attempts : List Attempt) :
    standing offset now attempts <+: attempts :=
  List.takeWhile_prefix _

theorem standing_cons_of_stands (stands : a.Stands offset now) (rest : List Attempt) :
    standing offset now (a :: rest) = a :: standing offset now rest :=
  List.takeWhile_cons_of_pos (decide_eq_true stands)

theorem standing_cons_of_not (falls : ¬ a.Stands offset now) (rest : List Attempt) :
    standing offset now (a :: rest) = [] :=
  List.takeWhile_cons_of_neg (by simpa using falls)

theorem stands_of_mem_standing {attempts : List Attempt}
    (member : a ∈ standing offset now attempts) : a.Stands offset now := by
  unfold standing at member
  have stands := List.mem_takeWhile_imp member
  exact of_decide_eq_true stands

theorem standing_eq_self {attempts : List Attempt}
    (stand : ∀ a ∈ attempts, a.Stands offset now) : standing offset now attempts = attempts :=
  List.takeWhile_eq_self_iff.2 fun a member => decide_eq_true (stand a member)

end Attempt

/-! ## The run -/

namespace Outlet

variable {σ η : Type}

/-- See attempts through, one after another, whatever their keys. -/
def seeThrough (outlet : Outlet σ η) (offset : UtcOffset) (now : Instant) :
    σ × η → List Attempt → Dispatched × (σ × η)
  | state, [] => (.idle, state)
  | state, a :: rest =>
      match outlet.attempt offset now state a with
      | .error crash => (⟨[], some crash⟩, state)
      | .ok (outcome, state) =>
          let (dispatched, state) := outlet.seeThrough offset now state rest
          (dispatched.after ⟨a.key, outcome⟩, state)

section Attempted

variable {outlet : Outlet σ η} {offset : UtcOffset} {now : Instant} {before after : σ × η}
  {a : Attempt} {outcome : Outcome}

theorem attempt_crashes (falls : ¬ a.Stands offset now) :
    outlet.attempt offset now before a = .error .dateOutsideCalendar := by
  rw [attempt, Attempt.prepare_crashes falls]

theorem attempt_of_stands (outlet : Outlet σ η) (before : σ × η) (stands : a.Stands offset now) :
    ∃ outcome after, outlet.attempt offset now before a = .ok (outcome, after) := by
  obtain ⟨prepared, made⟩ := Attempt.prepare_of_stands stands
  rw [attempt, made]
  cases prepared <;> exact ⟨_, _, rfl⟩

/-- An attempt that is seen through was skipped, and nothing changed, or its event was
delivered. -/
theorem attempt_cases (seen : outlet.attempt offset now before a = .ok (outcome, after)) :
    (∃ reason, a.prepare offset now = .ok (.error reason) ∧ outcome = .skipped reason ∧
        after = before) ∨
      ∃ offer, a.prepare offset now = .ok (.ok offer) ∧
        outcome = (outlet.deliver before a offer).1 ∧ after = (outlet.deliver before a offer).2 := by
  unfold attempt at seen
  cases prepared : a.prepare offset now with
  | error crash =>
      rw [prepared] at seen
      cases seen
  | ok verdict =>
      rw [prepared] at seen
      cases verdict with
      | error reason =>
          cases seen
          exact .inl ⟨reason, rfl, rfl, rfl⟩
      | ok offer =>
          have delivered : outlet.deliver before a offer = (outcome, after) := Except.ok.inj seen
          exact .inr ⟨offer, rfl, by rw [delivered], by rw [delivered]⟩

theorem seeThrough_crashes (falls : ¬ a.Stands offset now) (rest : List Attempt) :
    outlet.seeThrough offset now before (a :: rest) =
      (⟨[], some .dateOutsideCalendar⟩, before) := by
  rw [seeThrough, attempt_crashes falls]

theorem seeThrough_cons (seen : outlet.attempt offset now before a = .ok (outcome, after))
    (rest : List Attempt) :
    outlet.seeThrough offset now before (a :: rest) =
      ((outlet.seeThrough offset now after rest).1.after ⟨a.key, outcome⟩,
        (outlet.seeThrough offset now after rest).2) := by
  rw [seeThrough, seen]

theorem run_crashes {keys : List AttemptId} (fresh : a.key ∉ keys)
    (falls : ¬ a.Stands offset now) (rest : List Attempt) :
    outlet.run offset now keys before (a :: rest) =
      (⟨[], some .dateOutsideCalendar⟩, before) := by
  rw [run, if_neg fresh, attempt_crashes falls]

theorem run_cons {keys : List AttemptId} (fresh : a.key ∉ keys)
    (seen : outlet.attempt offset now before a = .ok (outcome, after)) (rest : List Attempt) :
    outlet.run offset now keys before (a :: rest) =
      ((outlet.run offset now (a.key :: keys) after rest).1.after ⟨a.key, outcome⟩,
        (outlet.run offset now (a.key :: keys) after rest).2) := by
  rw [run, if_neg fresh, seen]

end Attempted

variable (outlet : Outlet σ η) (offset : UtcOffset) (now : Instant)

/-- The journal has an entry for each attempt before the first that crashes. -/
theorem keys_seeThrough (state : σ × η) (attempts : List Attempt) :
    (outlet.seeThrough offset now state attempts).1.journal.map JournalEntry.key =
      (Attempt.standing offset now attempts).map Attempt.key := by
  induction attempts generalizing state with
  | nil => rfl
  | cons a rest ih =>
      by_cases stands : a.Stands offset now
      · obtain ⟨outcome, after, seen⟩ := outlet.attempt_of_stands state stands
        rw [seeThrough_cons seen, Attempt.standing_cons_of_stands stands, List.map_cons, ← ih after]
        rfl
      · rw [seeThrough_crashes stands, Attempt.standing_cons_of_not stands]
        rfl

/-- A run crashes exactly when one of its attempts does. -/
theorem crash_seeThrough (state : σ × η) (attempts : List Attempt) :
    (outlet.seeThrough offset now state attempts).1.crash = none ↔
      ∀ a ∈ attempts, a.Stands offset now := by
  induction attempts generalizing state with
  | nil => exact ⟨fun _ _ member => absurd member List.not_mem_nil, fun _ => rfl⟩
  | cons a rest ih =>
      rw [List.forall_mem_cons]
      by_cases stands : a.Stands offset now
      · obtain ⟨outcome, after, seen⟩ := outlet.attempt_of_stands state stands
        rw [seeThrough_cons seen, ← ih after]
        exact ⟨fun calm => ⟨stands, calm⟩, And.right⟩
      · rw [seeThrough_crashes stands]
        exact ⟨fun calm => absurd calm (Option.some_ne_none _), fun stand => absurd stand.1 stands⟩

/-- A run that has seen some keys sees through the first attempt of every other key. -/
theorem run_eq_seeThrough_filter (seen : List AttemptId) (state : σ × η)
    (attempts : List Attempt) :
    outlet.run offset now seen state attempts =
      outlet.seeThrough offset now state
        ((Attempt.firsts attempts).filter fun a => a.key ∉ seen) := by
  induction attempts generalizing seen state with
  | nil => rfl
  | cons a rest ih =>
      rw [Attempt.firsts]
      by_cases again : a.key ∈ seen
      · -- what the head would take out of the rest is taken out by `seen` already
        rw [run, if_pos again, ih, List.filter_cons_of_neg (by simpa using again),
          List.filter_filter]
        congr 1
        apply List.filter_congr
        intro b _
        by_cases same : b.key = a.key <;> simp [same, again]
      · rw [List.filter_cons_of_pos (by simpa using again), List.filter_filter]
        by_cases stands : a.Stands offset now
        · obtain ⟨outcome, after, went⟩ := outlet.attempt_of_stands state stands
          have others : (fun b : Attempt => decide (b.key ∉ a.key :: seen)) =
              fun b => decide (b.key ∉ seen) && decide (b.key ≠ a.key) := by
            funext b
            simp [Bool.and_comm]
          rw [run_cons again went, seeThrough_cons went, ih, others]
        · rw [run_crashes again stands, seeThrough_crashes stands]

/-- **A run sees through exactly the first attempt of each key**, in order. -/
theorem run_eq_seeThrough (state : σ × η) (attempts : List Attempt) :
    outlet.run offset now [] state attempts =
      outlet.seeThrough offset now state (Attempt.firsts attempts) := by
  rw [run_eq_seeThrough_filter]
  simp

end Outlet

/-! ## The report -/

/-- A report records each of a list of distinct keys once, in one of its lists, and no
other key; each list is in the order of the keys. -/
structure Report.Records (report : Report) (keys : List AttemptId) : Prop where
  distinct : keys.Nodup
  once : (report.emitted.map Prod.fst ++ report.skipped.map Prod.fst ++
    report.failures.map Prod.fst).Perm keys
  emitted_order : (report.emitted.map Prod.fst).Sublist keys
  skipped_order : (report.skipped.map Prod.fst).Sublist keys
  failures_order : (report.failures.map Prod.fst).Sublist keys

namespace Journal

/-- A view of a journal that keeps the keys of its entries keeps their order. -/
theorem keys_filterMap_sublist {β : Type} {view : JournalEntry → Option (AttemptId × β)}
    (keeps : ∀ e p, view e = some p → p.1 = e.key) (journal : Journal) :
    ((journal.filterMap view).map Prod.fst).Sublist (journal.map JournalEntry.key) := by
  induction journal with
  | nil => exact List.Sublist.refl []
  | cons e rest ih =>
      rw [List.map_cons]
      cases seen : view e with
      | none =>
          rw [List.filterMap_cons_none seen]
          exact ih.cons e.key
      | some p =>
          rw [List.filterMap_cons_some seen, List.map_cons, keeps e p seen]
          exact ih.cons_cons e.key

theorem report_perm (journal : Journal) :
    (journal.report.emitted.map Prod.fst ++ journal.report.skipped.map Prod.fst ++
      journal.report.failures.map Prod.fst).Perm (journal.map JournalEntry.key) := by
  induction journal with
  | nil => exact List.Perm.refl []
  | cons e rest ih =>
      obtain ⟨key, outcome⟩ := e
      cases outcome with
      | emitted event id notice answer => exact ih.cons key
      | skipped reason =>
          refine List.Perm.trans ?_ (ih.cons key)
          exact List.perm_middle.append_right _
      | refused event error =>
          exact List.perm_middle.trans (ih.cons key)

/-- The report of a journal whose keys are distinct records each of them once. -/
theorem report_records {journal : Journal} (distinct : (journal.map JournalEntry.key).Nodup) :
    journal.report.Records (journal.map JournalEntry.key) where
  distinct := distinct
  once := journal.report_perm
  emitted_order := by
    apply keys_filterMap_sublist
    rintro ⟨key, outcome⟩ p shown
    cases outcome <;> cases shown
    rfl
  skipped_order := by
    apply keys_filterMap_sublist
    rintro ⟨key, outcome⟩ p shown
    cases outcome <;> cases shown
    rfl
  failures_order := by
    apply keys_filterMap_sublist
    rintro ⟨key, outcome⟩ p shown
    cases outcome <;> cases shown
    rfl

end Journal

/-- A dispatch returns the report of its journal, unless it crashes. -/
theorem Dispatched.report?_eq_some {d : Dispatched} (returns : d.crash = none) :
    d.report? = some d.journal.report := by
  rw [report?, returns]

namespace Outlet

variable {σ η : Type}

/-- A dispatch attempts a list of attempts with distinct keys.  It sees them through one after
another, up to the first that crashes, and it crashes exactly when there is one.  When there is
none, it returns a report that records each of them once. -/
structure Attempts (outlet : Outlet σ η) (offset : UtcOffset) (now : Instant) (state : σ × η)
    (attempted : List Attempt) (fired : Dispatched × (σ × η)) : Prop where
  distinct : (attempted.map Attempt.key).Nodup
  run : fired = outlet.seeThrough offset now state attempted
  keys : fired.1.journal.map JournalEntry.key =
    (Attempt.standing offset now attempted).map Attempt.key
  crash : fired.1.crash = none ↔ ∀ a ∈ attempted, a.Stands offset now
  complete : (∀ a ∈ attempted, a.Stands offset now) →
    fired.1.journal.map JournalEntry.key = attempted.map Attempt.key ∧
      ∃ report, fired.1.report? = some report ∧ report.Records (attempted.map Attempt.key)

theorem attempts_seeThrough (outlet : Outlet σ η) (offset : UtcOffset) (now : Instant)
    (state : σ × η) {attempted : List Attempt} (distinct : (attempted.map Attempt.key).Nodup) :
    outlet.Attempts offset now state attempted
      (outlet.seeThrough offset now state attempted) where
  distinct := distinct
  run := rfl
  keys := outlet.keys_seeThrough offset now state attempted
  crash := outlet.crash_seeThrough offset now state attempted
  complete := by
    intro stand
    have keys := outlet.keys_seeThrough offset now state attempted
    rw [Attempt.standing_eq_self stand] at keys
    have returns := (outlet.crash_seeThrough offset now state attempted).2 stand
    refine ⟨keys, _, Dispatched.report?_eq_some returns, ?_⟩
    rw [← keys] at distinct ⊢
    exact Journal.report_records distinct

end Outlet

namespace Example

/-- An hour west of UTC, where the first hour of the calendar is in no local year. -/
def hourWest : UtcOffset := ⟨-3600, by decide⟩

end Example
end EventRules
