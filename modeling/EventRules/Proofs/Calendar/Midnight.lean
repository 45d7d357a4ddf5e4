/-
# EventRules.Proofs.Calendar.Midnight -- the start of a local day, and days after it

`UtcOffset.startOfDay` finds the instant at which the local clock shows the first moment of
the local day of an instant (`UtcOffset.beginsDay_of_startOfDay`); it lies less than a day
back.  It crashes exactly at the instants whose local reading the calendar does not have
(`UtcOffset.startOfDay_eq_error_iff`): those within the offset of its first second, west of
UTC, and of its last second, east of it.

`Instant.plusDays_later` says where a move by one day or more leads: so many days of 86400
seconds on, and out of a leap second if it began in one, so never back to where it began.
-/
import EventRules.Proofs.Calendar.Civil
import EventRules.Proofs.Visibility
namespace EventRules

set_option autoImplicit false

namespace Instant

/-- The first instant of the calendar. -/
def first : Instant :=
  { epoch with seconds := -8334601228800, inCalendar := ⟨Int.le_refl _, by decide⟩ }

end Instant

namespace UtcOffset

/-- The calendar has the local reading of an instant. -/
def Reads (offset : UtcOffset) (t : Instant) : Prop :=
  Instant.first.seconds ≤ t.seconds + offset.seconds ∧
    t.seconds + offset.seconds ≤ Instant.last.seconds

instance (offset : UtcOffset) (t : Instant) : Decidable (offset.Reads t) :=
  inferInstanceAs (Decidable (_ ∧ _))

/-- The second in which the local day of an instant begins, whether or not the calendar has it. -/
def midnight (offset : UtcOffset) (t : Instant) : Int :=
  86400 * offset.localDay t - offset.seconds

/-- The calendar begins and ends with a whole day, so it has the first second of a local day
when it has any second of it. -/
theorem reads_iff {offset : UtcOffset} {t : Instant} :
    offset.Reads t ↔
      -8334601228800 ≤ 86400 * offset.localDay t ∧ 86400 * offset.localDay t ≤ 8210266876799 := by
  change -8334601228800 ≤ t.seconds + offset.seconds ∧
    t.seconds + offset.seconds ≤ 8210266876799 ↔ _
  rw [localDay]
  omega

theorem startOfDay_of_reads {offset : UtcOffset} {t : Instant} (reads : offset.Reads t) :
    offset.startOfDay t = .ok (Instant.of? (offset.midnight t) 0) := by
  have there : Instant.of? (86400 * offset.localDay t) 0 =
      some ⟨86400 * offset.localDay t, 0, reads_iff.1 reads, by decide⟩ := by
    rw [Instant.of?, dif_pos (reads_iff.1 reads), dif_pos (by decide)]
  have day : (86400 * (Civil.ofDays (offset.localDay t)).toDays + ((0 : Nat) : Int)) =
      86400 * offset.localDay t := by
    rw [Civil.toDays_ofDays, Int.natCast_zero, Int.add_zero]
  rw [startOfDay, localDate, there]
  dsimp only
  rw [instantOf?, day, there]
  rfl

/-- The program crashes exactly where the calendar lacks the local reading. -/
theorem startOfDay_eq_error_iff {offset : UtcOffset} {t : Instant} :
    offset.startOfDay t = .error .dateOutsideCalendar ↔ ¬ offset.Reads t := by
  constructor
  · intro crashes reads
    rw [startOfDay_of_reads reads] at crashes
    cases crashes
  · intro missing
    rw [startOfDay, localDate, Instant.of?,
      dif_neg fun inCalendar => missing (reads_iff.2 inCalendar)]

theorem reads_of_startOfDay {offset : UtcOffset} {t : Instant} {found : Option Instant}
    (returned : offset.startOfDay t = .ok found) : offset.Reads t := by
  refine Decidable.byContradiction fun missing => ?_
  rw [startOfDay_eq_error_iff.2 missing] at returned
  cases returned

/-- An instant is the local midnight that begins the local day of another: the local clock
shows the first moment of that day, and the other is not before it and less than a day
after it. -/
structure BeginsDay (offset : UtcOffset) (midnight now : Instant) : Prop where
  reading : offset.reading midnight = ⟨(offset.reading now).date, 0, 0⟩
  notAfter : midnight.le now = true
  within : now.seconds < midnight.seconds + 86400

theorem beginsDay_of_startOfDay {offset : UtcOffset} {now midnight : Instant}
    (found : offset.startOfDay now = .ok (some midnight)) : offset.BeginsDay midnight now := by
  rw [startOfDay_of_reads (reads_of_startOfDay found), Except.ok.injEq] at found
  obtain ⟨seconds, nanos⟩ := Instant.of?_eq_some found
  rw [UtcOffset.midnight] at seconds
  have local' : midnight.seconds + offset.seconds = 86400 * offset.localDay now := by omega
  have lower : 86400 * offset.localDay now ≤ now.seconds + offset.seconds := by
    rw [localDay]
    omega
  have upper : now.seconds + offset.seconds < 86400 * offset.localDay now + 86400 := by
    rw [localDay]
    omega
  constructor
  · have day : 86400 * offset.localDay now / 86400 = (now.seconds + offset.seconds) / 86400 :=
      Int.mul_ediv_cancel_left _ (by decide)
    have moment : 86400 * offset.localDay now % 86400 = 0 := Int.mul_emod_right _ _
    simp only [reading, local', day, moment, nanos]
    rfl
  · simp only [Instant.le, Bool.or_eq_true, Bool.and_eq_true, decide_eq_true_eq, beq_iff_eq]
    omega
  · omega

end UtcOffset

/-- Days later there are so many times 86400 seconds more, and a leap second is over. -/
theorem Instant.plusDays_later {t u : Instant} {days : Int} (ahead : 1 ≤ days)
    (landed : t.plusDays days = some u) :
    u.seconds = t.seconds + 86400 * days ∧ u.nanos = t.nanos % 1000000000 := by
  obtain ⟨seconds, nanos⟩ := plusDays_eq_some landed
  have bounded := t.nanos_lt
  unfold moved at seconds nanos
  split at seconds
  · rw [if_pos (by omega)] at seconds
    rw [if_pos (by assumption), if_pos (by omega)] at nanos
    simp only at seconds nanos
    omega
  · rw [if_neg (by assumption)] at nanos
    simp only at seconds nanos
    omega

end EventRules
