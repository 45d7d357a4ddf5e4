/-
# EventRules.Proofs.Calendar.Millis -- instants to the millisecond

Milliseconds tell an instant but for what is finer: the instant they stand for is the one they
were taken of, cut off to the millisecond (`Instant.ofMillis?_millis`), before 1970 as after it.
No count of them is 2^53 or more (`Instant.natAbs_millis_lt`).
-/
import EventRules.Calendar.Instant
namespace EventRules.Instant

set_option autoImplicit false

theorem of?_self (t : Instant) : of? t.seconds t.nanos = some t := by
  rw [of?, dif_pos t.inCalendar, dif_pos t.nanos_lt]

theorem le_iff_parts {t u : Instant} :
    t.le u = true ↔ t.seconds < u.seconds ∨ t.seconds = u.seconds ∧ t.nanos ≤ u.nanos := by
  simp only [le, Bool.or_eq_true, Bool.and_eq_true, decide_eq_true_eq, beq_iff_eq]

/-- The instant without what is finer than a millisecond. -/
def truncated (t : Instant) : Instant :=
  { t with
    nanos := t.nanos / 1000000 * 1000000
    nanos_lt := Nat.lt_of_le_of_lt (Nat.div_mul_le_self _ _) t.nanos_lt }

@[simp] theorem seconds_truncated (t : Instant) : t.truncated.seconds = t.seconds := rfl

@[simp] theorem nanos_truncated (t : Instant) :
    t.truncated.nanos = t.nanos / 1000000 * 1000000 := rfl

/-- Of the instants at a whole millisecond, the same are not after the truncated instant and not
after the instant itself. -/
theorem le_truncated_iff {t u : Instant} (whole : u.nanos % 1000000 = 0) :
    u.le t.truncated = true ↔ u.le t = true := by
  have fits : u.nanos ≤ t.nanos / 1000000 * 1000000 ↔ u.nanos ≤ t.nanos := by omega
  rw [le_iff_parts, le_iff_parts, seconds_truncated, nanos_truncated, fits]

theorem millis_truncated (t : Instant) : t.truncated.millis = t.millis := by
  rw [millis, millis, seconds_truncated, nanos_truncated, Nat.mul_div_cancel _ (by decide)]

/-- The milliseconds of an instant stand for the instant, cut off to the millisecond. -/
theorem ofMillis?_millis {t : Instant} (noLeap : t.isLeap = false) :
    ofMillis? t.millis = some t.truncated := by
  rw [isLeap, decide_eq_false_iff_not] at noLeap
  have seconds : t.millis / 1000 = t.truncated.seconds := by
    rw [millis, seconds_truncated]
    omega
  have nanos : (t.millis % 1000).toNat * 1000000 = t.truncated.nanos := by
    rw [millis, nanos_truncated]
    omega
  rw [ofMillis?, seconds, nanos, of?_self]

/-- No instant of the calendar is 2^53 milliseconds away from 1970. -/
theorem natAbs_millis_lt (t : Instant) : t.millis.natAbs < Nat.pow 2 53 := by
  obtain ⟨first, last⟩ := t.inCalendar
  have short := t.nanos_lt
  have limit : Nat.pow 2 53 = 9007199254740992 := rfl
  rw [limit, millis]
  omega

end EventRules.Instant
