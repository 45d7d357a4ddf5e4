/-
# EventRules.Proofs.Visibility -- an event is shown on its own date

A move by whole days either stays or lands in an earlier or a later second, in a leap
second too (`Instant.plusDays_cases`).  So a window whose bounds lie no days or more
before and after a date holds the date, and every other mode shows an event on its date
as well (`Visibility.shows_base`).
-/
import EventRules.Visibility
namespace EventRules

set_option autoImplicit false

namespace Instant

theorem le_refl (t : Instant) : t.le t = true := by simp [le]

theorem le_of_seconds_lt {t u : Instant} (earlier : t.seconds < u.seconds) :
    t.le u = true := by simp [le, earlier]

theorem of?_eq_some {seconds : Int} {nanos : Nat} {t : Instant}
    (made : of? seconds nanos = some t) : t.seconds = seconds ∧ t.nanos = nanos := by
  unfold of? at made
  split at made
  · split at made
    · cases made
      exact ⟨rfl, rfl⟩
    · cases made
  · cases made

theorem plusDays_eq_some {t u : Instant} {days : Int} (landed : t.plusDays days = some u) :
    u.seconds = (moved t.seconds t.nanos (86400 * days)).1 ∧
      u.nanos = (moved t.seconds t.nanos (86400 * days)).2 :=
  of?_eq_some landed

/-- Moving by no days stays; moving by others leaves the second in their direction. -/
theorem plusDays_cases {t u : Instant} {days : Int} (landed : t.plusDays days = some u) :
    (days = 0 ∧ u = t) ∨ (0 < days ∧ t.seconds < u.seconds) ∨
      (days < 0 ∧ u.seconds < t.seconds) := by
  obtain ⟨seconds, nanos⟩ := plusDays_eq_some landed
  rcases Int.lt_trichotomy days 0 with back | rfl | ahead
  · -- off a leap second the move starts at the next second, still less than a day away
    refine .inr (.inr ⟨back, ?_⟩)
    rw [seconds, moved]
    split
    · rw [if_neg (by omega), if_pos (by omega)]
      simp only
      omega
    · simp only
      omega
  · refine .inl ⟨rfl, ?_⟩
    have stays : moved t.seconds t.nanos (86400 * 0) = (t.seconds, t.nanos) := by simp [moved]
    rw [stays] at seconds nanos
    cases t
    cases u
    cases seconds
    cases nanos
    rfl
  · refine .inr (.inl ⟨ahead, ?_⟩)
    rw [seconds, moved]
    split
    · rw [if_pos (by omega)]
      simp only
      omega
    · simp only
      omega

theorem le_of_plusDays {t u : Instant} {days : Int} (ahead : 0 ≤ days)
    (landed : t.plusDays days = some u) : t.le u = true := by
  rcases plusDays_cases landed with ⟨-, rfl⟩ | ⟨-, later⟩ | ⟨back, -⟩
  · exact le_refl _
  · exact le_of_seconds_lt later
  · omega

theorem plusDays_le {t u : Instant} {days : Int} (back : days ≤ 0)
    (landed : t.plusDays days = some u) : u.le t = true := by
  rcases plusDays_cases landed with ⟨-, rfl⟩ | ⟨ahead, -⟩ | ⟨-, earlier⟩
  · exact le_refl _
  · omega
  · exact le_of_seconds_lt earlier

end Instant

/-- Whatever the mode, an event is shown on its own date when no bound of its window lies
on the wrong side.  A bound outside the calendar does not hide it either. -/
theorem Visibility.shows_base {v : Visibility} (before : 0 ≤ v.beforeDays.getD 0)
    (after : 0 ≤ v.afterDays.getD 0) (base : Instant) : v.shows base base = true := by
  unfold shows
  cases v.mode with
  | always => rfl
  | unrecognized => rfl
  | afterDate => exact base.le_refl
  | untilDate => exact base.le_refl
  | window =>
      have opens : (base.plusDays (-(v.beforeDays.getD 0))).all (fun t => t.le base) = true := by
        cases landed : base.plusDays (-(v.beforeDays.getD 0)) with
        | none => rfl
        | some t => exact Instant.plusDays_le (by omega) landed
      have closes : (base.plusDays (v.afterDays.getD 0)).all (fun t => base.le t) = true := by
        cases landed : base.plusDays (v.afterDays.getD 0) with
        | none => rfl
        | some t => exact Instant.le_of_plusDays after landed
      simp only [opens, closes, Bool.and_self]

end EventRules
