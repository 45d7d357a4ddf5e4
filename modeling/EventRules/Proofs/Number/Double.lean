/-
# EventRules.Proofs.Number.Double -- whole numbers as integers

A whole number is the number nearest to its integer part (`Double.ofInt_truncate`): nothing
is lost when it is written as an integer and read again.  Nor is an integer below 2^53 rounded
(`Double.units_ofInt`), so it is the integer part of its number (`Double.truncate_ofInt`).
-/
import EventRules.Number.Double
namespace EventRules.Double

set_option autoImplicit false

theorem unitsPerOne_pos : 0 < unitsPerOne := by
  unfold unitsPerOne
  generalize 1074 = exponent
  exact Nat.two_pow_pos exponent

theorem ofUnits?_units (x : Double) : ofUnits? x.units = some x := dif_pos x.representable

/-- An integer that the format holds is not rounded. -/
theorem nearest_of_representable {n : Nat}
    (representable : Representable (n * unitsPerOne : Nat)) (negative : Bool) :
    nearest negative n 1 =
      ofUnits?
        (if negative then -((n * unitsPerOne : Nat) : Int) else (n * unitsPerOne : Nat)) := by
  unfold nearest
  dsimp only
  -- from here on the units of one are any number, so nothing computes with them
  generalize n * unitsPerOne = total at representable ⊢
  rw [Nat.div_one, Nat.one_mul]
  have exact : total % Nat.pow 2 (total.log2 - 52) = 0 := representable.2
  have positive : 0 < Nat.pow 2 (total.log2 - 52) := Nat.two_pow_pos _
  generalize Nat.pow 2 (total.log2 - 52) = step at exact positive ⊢
  have whole : total / step * step = total := Nat.div_mul_cancel (Nat.dvd_of_mod_eq_zero exact)
  have down : ¬ (decide (step < 2 * 0) || (2 * 0 == step && total / step % 2 == 1)) = true := by
    simp [Nat.ne_of_lt positive]
  rw [exact, if_neg down, whole]

/-- A whole number is the number of its integer part. -/
theorem ofInt_truncate {x : Double} (whole : x.isWhole = true) : ofInt x.truncate = x := by
  have divides : unitsPerOne ∣ x.units.natAbs :=
    Nat.dvd_of_mod_eq_zero (by simpa [isWhole] using whole)
  have product : x.truncate * (unitsPerOne : Int) = x.units :=
    Int.tdiv_mul_cancel (Int.ofNat_dvd_left.2 divides)
  have magnitude : x.truncate.natAbs * unitsPerOne = x.units.natAbs := by
    rw [← product, Int.natAbs_mul, Int.natAbs_natCast]
  have negative : x.truncate < 0 ↔ x.units < 0 := by
    have positive : 0 < (unitsPerOne : Int) := Int.natCast_pos.2 unitsPerOne_pos
    rw [← product]
    constructor
    · exact fun below => Int.mul_neg_of_neg_of_pos below positive
    · intro below
      rw [← Int.not_le]
      exact fun above => Int.not_le.2 below (Int.mul_nonneg above (Int.le_of_lt positive))
  have representable : Representable (x.truncate.natAbs * unitsPerOne : Nat) := by
    rw [magnitude, Representable, Int.natAbs_natCast]
    exact x.representable
  rw [ofInt, nearest_of_representable representable, magnitude]
  have units : (if decide (x.truncate < 0) = true then -(x.units.natAbs : Int)
      else (x.units.natAbs : Int)) = x.units := by
    simp only [decide_eq_true_eq, negative]
    split <;> omega
  rw [units, ofUnits?_units, Option.getD_some]

/-- A multiple of a power of two by fewer than 2^53 is in the format while it stays in range. -/
theorem representable_mul {n places : Nat} (small : n < Nat.pow 2 53)
    (within : 53 + places ≤ 2098) :
    Representable (n * Nat.pow 2 places : Nat) := by
  have below : n * Nat.pow 2 places < Nat.pow 2 (53 + places) :=
    calc n * Nat.pow 2 places < Nat.pow 2 53 * Nat.pow 2 places :=
          Nat.mul_lt_mul_of_pos_right small (Nat.two_pow_pos places)
      _ = Nat.pow 2 (53 + places) := (Nat.pow_add 2 53 places).symm
  rw [Representable, Int.natAbs_natCast]
  generalize 2098 = range at within ⊢
  refine ⟨Nat.lt_of_lt_of_le below (Nat.pow_le_pow_right (by decide) within),
    Nat.mod_eq_zero_of_dvd ?_⟩
  rcases Nat.eq_zero_or_pos (n * Nat.pow 2 places) with zero | positive
  · rw [zero]
    exact Nat.dvd_zero _
  · have high : (n * Nat.pow 2 places).log2 < 53 + places :=
      (Nat.log2_lt (Nat.ne_of_gt positive)).2 below
    exact Nat.dvd_trans (Nat.pow_dvd_pow 2 (by omega)) (Nat.dvd_mul_left _ _)

/-- An integer below 2^53 is a number as it stands. -/
theorem units_ofInt {n : Int} (small : n.natAbs < Nat.pow 2 53) :
    (ofInt n).units = n * unitsPerOne := by
  have natural : Representable (n.natAbs * unitsPerOne : Nat) := by
    have room : 53 + 1074 ≤ 2098 := by decide
    unfold unitsPerOne
    generalize 1074 = places at room ⊢
    exact representable_mul small room
  have signed : (if decide (n < 0) = true then -((n.natAbs * unitsPerOne : Nat) : Int)
      else (n.natAbs * unitsPerOne : Nat)) = n * unitsPerOne := by
    simp only [Int.natCast_mul, decide_eq_true_eq]
    split
    · rw [← Int.neg_mul]
      congr 1
      omega
    · congr 1
      omega
  have representable : Representable (n * unitsPerOne) := by
    rw [Representable, Int.natAbs_natCast] at natural
    rw [Representable, Int.natAbs_mul, Int.natAbs_natCast]
    exact natural
  rw [ofInt, nearest_of_representable natural, signed, ofUnits?, dif_pos representable,
    Option.getD_some]

/-- An integer below 2^53 is the integer part of its number. -/
theorem truncate_ofInt {n : Int} (small : n.natAbs < Nat.pow 2 53) : (ofInt n).truncate = n := by
  have positive : (unitsPerOne : Int) ≠ 0 := Int.natCast_ne_zero.2 (Nat.ne_of_gt unitsPerOne_pos)
  rw [truncate, units_ofInt small, Int.mul_tdiv_cancel _ positive]

end EventRules.Double
