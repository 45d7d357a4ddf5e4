/-
# EventRules.Proofs.Number.Shortest -- no two numbers have one text

The shortest numeral of a number stands for a real that rounds to the number
(`Double.has_shortest`): the search for it ends on a grid where some point does, or on the
grid of seventeen digits, which is finer than the steps between numbers.

The intervals of reals that round to two numbers have no real in common (`Double.eq_of_has`).
Within a binade neighbours share an end, which belongs to the one with the even last bit; from
a binade to the next the step doubles, and the gap below a power of two is half as wide.  So
the shortest numeral tells the number, and so does its text (`Double.write_injective`).
-/
import EventRules.Number.Shortest
import EventRules.Proofs.Number.Double
import EventRules.Proofs.Number.Written
import Mathlib.Tactic.Linarith
namespace EventRules
set_option autoImplicit false

open Text

namespace Double

-- the units of one are a power too large to compute with
attribute [local irreducible] unitsPerOne

/-! ## Points of the grids -/

/-- A count of powers of ten, in quarters of a unit. -/
def quarters (digits : Nat) (place : Int) : ℚ := 4 * unitsPerOne * (digits * (10 : ℚ) ^ place)

/-- A real that rounds to the number. -/
def Interval.Has (i : Interval) (q : ℚ) : Prop :=
  if i.closed then i.low ≤ q ∧ q ≤ i.high else i.low < q ∧ q < i.high

theorem ten_zpow (place : Int) :
    (10 : ℚ) ^ place = (10 : ℚ) ^ place.toNat / (10 : ℚ) ^ (-place).toNat := by
  rcases Int.le_total 0 place with above | below
  · have up : (place.toNat : Int) = place := Int.toNat_of_nonneg above
    have down : (-place).toNat = 0 := by omega
    rw [down, pow_zero, div_one, ← zpow_natCast, up]
  · have up : place.toNat = 0 := by omega
    have down : ((-place).toNat : Int) = -place := by omega
    rw [up, pow_zero, one_div, ← zpow_natCast, down, zpow_neg, inv_inv]

theorem Interval.has_of_holds {i : Interval} {digits : Nat} {place : Int}
    (holds : i.holds (Nat.pow 10 (-place).toNat)
      (digits * (4 * unitsPerOne * Nat.pow 10 place.toNat)) = true) :
    i.Has (quarters digits place) := by
  have scale : (0 : ℚ) < (10 : ℚ) ^ (-place).toNat := by positivity
  have value : quarters digits place =
      ((digits * (4 * unitsPerOne * 10 ^ place.toNat) : Nat) : ℚ) / (10 : ℚ) ^ (-place).toNat := by
    rw [quarters, ten_zpow]
    push_cast
    ring
  unfold Interval.holds at holds
  unfold Has
  rw [value]
  split at holds
  · rw [if_pos (by assumption), le_div_iff₀ scale, div_le_iff₀ scale]
    simp only [Bool.and_eq_true, decide_eq_true_eq] at holds
    exact_mod_cast holds
  · rw [if_neg (by assumption), lt_div_iff₀ scale, div_lt_iff₀ scale]
    simp only [Bool.and_eq_true, decide_eq_true_eq] at holds
    exact_mod_cast holds

theorem has_of_onGrid {i : Interval} {digits : Nat} {place : Int}
    (found : onGrid i place = some digits) : i.Has (quarters digits place) := by
  apply Interval.has_of_holds
  unfold onGrid at found
  dsimp only at found
  split at found
  · split at found
    · cases found
      assumption
    · cases found
      assumption
  · cases found
    assumption
  · cases found
    assumption
  · cases found

/-- The last point of a grid that is not above the number. -/
def pointBelow (i : Interval) (place : Int) : Nat :=
  i.value * Nat.pow 10 (-place).toNat / (4 * unitsPerOne * Nat.pow 10 place.toNat)

/-- The search ends with a point of the interval, or with the point below the number on the
grid after the last one that was tried. -/
theorem searchGrids_cases (i : Interval) (count : Nat) (place : Int) :
    i.Has (quarters (searchGrids i count place).1 (searchGrids i count place).2) ∨
      searchGrids i count place = (pointBelow i (place - count), place - count) := by
  induction count generalizing place with
  | zero =>
      right
      have same : place - (0 : Nat) = place := by omega
      rw [same]
      rfl
  | succ count ih =>
      cases found : onGrid i place with
      | some digits =>
          left
          have here : searchGrids i (count + 1) place = (digits, place) := by
            rw [searchGrids, found]
          rw [here]
          exact has_of_onGrid found
      | none =>
          have finer : searchGrids i (count + 1) place = searchGrids i count (place - 1) := by
            rw [searchGrids, found]
          have step : place - (count + 1 : Nat) = place - 1 - count := by omega
          rw [finer, step]
          exact ih (place - 1)

theorem quarters_dropZeros (fuel digits : Nat) (place : Int) :
    quarters (dropZeros fuel digits place).1 (dropZeros fuel digits place).2 =
      quarters digits place := by
  induction fuel generalizing digits place with
  | zero => rfl
  | succ fuel ih =>
      rw [dropZeros]
      split
      · rename_i zero
        rw [ih]
        simp only [Bool.and_eq_true, beq_iff_eq, decide_eq_true_eq] at zero
        have whole : digits / 10 * 10 = digits := by omega
        rw [quarters, quarters, zpow_add₀ (by norm_num), ← whole]
        push_cast
        rw [Nat.mul_div_cancel _ (by decide)]
        ring
      · rfl

/-! ## Steps -/

/-- The distance of neighbours at a magnitude. -/
def step (magnitude : Nat) : Nat := Nat.pow 2 (magnitude.log2 - 52)

/-- How many steps a magnitude is. -/
def significand (magnitude : Nat) : Nat := magnitude / step magnitude

theorem step_pos (magnitude : Nat) : 0 < step magnitude := Nat.two_pow_pos _

theorem significand_mul_step {m : Nat} (representable : Representable m) :
    significand m * step m = m :=
  Nat.div_mul_cancel (Nat.dvd_of_mod_eq_zero representable.2)

/-- At most 53 bits are significant. -/
theorem significand_lt (m : Nat) : significand m < 2 ^ 53 := by
  rw [significand, Nat.div_lt_iff_lt_mul (step_pos m)]
  have bits : m < 2 ^ (m.log2 + 1) := Nat.lt_log2_self
  refine Nat.lt_of_lt_of_le bits ?_
  rw [step, Nat.pow_eq, ← Nat.pow_add]
  exact Nat.pow_le_pow_right (by decide) (by omega)

/-- Neighbours farther apart than one unit have all 53 bits. -/
theorem le_significand {m : Nat} (wide : 0 < m.log2 - 52) : 2 ^ 52 ≤ significand m := by
  have nonzero : m ≠ 0 := by
    rintro rfl
    simp at wide
  rw [significand, Nat.le_div_iff_mul_le (step_pos m), step, Nat.pow_eq, ← Nat.pow_add]
  refine Nat.le_trans (Nat.pow_le_pow_right (by decide) ?_) (Nat.log2_self_le nonzero)
  omega

/-- Farther out, neighbours are as far apart or at least twice as far. -/
theorem step_cases {m n : Nat} (le : m ≤ n) :
    step m = step n ∨ (2 * step m ≤ step n ∧ 0 < n.log2 - 52) := by
  have logs : m.log2 ≤ n.log2 := by
    rcases Nat.eq_zero_or_pos m with rfl | positive
    · exact Nat.zero_le _
    · exact (Nat.le_log2 (by omega)).2 (Nat.le_trans (Nat.log2_self_le (by omega)) le)
  rcases Nat.lt_or_ge (m.log2 - 52) (n.log2 - 52) with below | same
  · right
    refine ⟨?_, by omega⟩
    rw [step, step, Nat.pow_eq, Nat.pow_eq, ← Nat.pow_succ']
    exact Nat.pow_le_pow_right (by decide) below
  · left
    have : m.log2 - 52 = n.log2 - 52 := by omega
    rw [step, step, this]

/-! ## Intervals -/

/-- How far the interval of a magnitude reaches down, in quarters of a unit. -/
def lowGap (m : Nat) : Nat :=
  if significand m == Nat.pow 2 52 && 0 < m.log2 - 52 then step m else 2 * step m

theorem interval_eq (m : Nat) :
    interval m = ⟨4 * m - lowGap m, 4 * m, 4 * m + 2 * step m, significand m % 2 == 0⟩ := rfl

theorem lowGap_le (m : Nat) : lowGap m ≤ 2 * step m := by
  unfold lowGap
  split <;> omega

theorem step_le_lowGap (m : Nat) : step m ≤ lowGap m := by
  unfold lowGap
  split <;> omega


/-- A magnitude has at most 53 significant bits, so a step more does not leave its binade. -/
theorem add_step_le {m : Nat} (representable : Representable m) :
    m + step m ≤ 2 ^ 53 * step m := by
  have whole := significand_mul_step representable
  have few : (significand m + 1) * step m ≤ 2 ^ 53 * step m :=
    Nat.mul_le_mul_right _ (significand_lt m)
  rwa [Nat.succ_mul, whole] at few

/-- Below an even last bit there is room for two steps. -/
theorem add_two_steps_le {m : Nat} (representable : Representable m)
    (even : significand m % 2 = 0) : m + 2 * step m ≤ 2 ^ 53 * step m := by
  have whole := significand_mul_step representable
  have fewer : significand m + 2 ≤ 2 ^ 53 := by
    have few := significand_lt m
    omega
  have few : (significand m + 2) * step m ≤ 2 ^ 53 * step m := Nat.mul_le_mul_right _ fewer
  rwa [Nat.add_mul, whole] at few

/-- The interval of a magnitude ends where that of a larger one begins or before, and where
they meet one of the two significands is odd. -/
def Apart (m n : Nat) : Prop :=
  4 * m + 2 * step m + lowGap n ≤ 4 * n ∧
    (4 * m + 2 * step m + lowGap n = 4 * n → significand m % 2 = 1 ∨ significand n % 2 = 1)

/-- Within a binade, two significands in a row are one odd and one even. -/
theorem apart_of_same {m n : Nat} (repM : Representable m) (repN : Representable n)
    (below : m < n) (same : step m = step n) : Apart m n := by
  have wholeM := significand_mul_step repM
  have wholeN := significand_mul_step repN
  have positive := step_pos m
  have gap := lowGap_le n
  rw [← same] at wholeN gap
  have less : significand m < significand n := by
    rw [← Nat.mul_lt_mul_right positive]
    omega
  rcases Nat.lt_or_eq_of_le (Nat.succ_le_of_lt less) with far | next
  · have apart : (significand m + 2) * step m ≤ significand n * step m :=
      Nat.mul_le_mul_right _ far
    rw [Nat.add_mul] at apart
    exact ⟨by omega, fun meet => by omega⟩
  · rw [← next, Nat.succ_mul] at wholeN
    exact ⟨by omega, fun _ => by omega⟩

/-- From one binade to a later one: only the last significand of a binade reaches the next,
and it is odd. -/
theorem apart_of_wider {m n : Nat} (repM : Representable m) (repN : Representable n)
    (wider : 2 * step m ≤ step n) (wide : 0 < n.log2 - 52) : Apart m n := by
  have wholeN := significand_mul_step repN
  have top := add_step_le repM
  have positive := step_pos m
  rcases Nat.lt_or_eq_of_le (le_significand wide) with inside | first
  · have gap := lowGap_le n
    have bottom : (2 ^ 52 + 1) * step n ≤ significand n * step n :=
      Nat.mul_le_mul_right _ inside
    rw [wholeN] at bottom
    exact ⟨by omega, fun meet => by omega⟩
  · have gap : lowGap n = step n := by
      rw [lowGap, ← first, if_pos (by simpa using wide)]
    rw [← first] at wholeN
    refine ⟨by linarith, fun meet => ?_⟩
    rcases Nat.mod_two_eq_zero_or_one (significand m) with even | odd
    · have room := add_two_steps_le repM even
      linarith
    · exact .inl odd

theorem apart_of_lt {m n : Nat} (repM : Representable m) (repN : Representable n)
    (below : m < n) : Apart m n := by
  rcases step_cases (Nat.le_of_lt below) with same | ⟨wider, wide⟩
  · exact apart_of_same repM repN below same
  · exact apart_of_wider repM repN wider wide

/-! ## Uniqueness -/

/-- No real rounds to two numbers. -/
theorem Interval.not_has_of_apart {m n : Nat} (apart : Apart m n) {q : ℚ}
    (left : (interval m).Has q) (right : (interval n).Has q) : False := by
  obtain ⟨le, meet⟩ := apart
  have ends : 4 * m + 2 * step m ≤ 4 * n - lowGap n := by omega
  have ends' : ((4 * m + 2 * step m : Nat) : ℚ) ≤ ((4 * n - lowGap n : Nat) : ℚ) := by
    exact_mod_cast ends
  rw [interval_eq] at left right
  unfold Has at left right
  dsimp only at left right
  split at left
  · rename_i evenLeft
    split at right
    · rename_i evenRight
      have same : ((4 * m + 2 * step m : Nat) : ℚ) = ((4 * n - lowGap n : Nat) : ℚ) := by
        linarith [left.2, right.1]
      have touching : 4 * m + 2 * step m + lowGap n = 4 * n := by
        have : 4 * m + 2 * step m = 4 * n - lowGap n := by exact_mod_cast same
        have : 0 < step m := step_pos m
        omega
      rw [beq_iff_eq] at evenLeft evenRight
      have := meet touching
      omega
    · linarith [left.2, right.1]
  · split at right
    · linarith [left.2, right.1]
    · linarith [left.2, right.1]

theorem eq_of_has {m n : Nat} (repM : Representable m) (repN : Representable n) {q : ℚ}
    (left : (interval m).Has q) (right : (interval n).Has q) : m = n := by
  rcases Nat.lt_trichotomy m n with below | same | above
  · exact (Interval.not_has_of_apart (apart_of_lt repM repN below) left right).elim
  · exact same
  · exact (Interval.not_has_of_apart (apart_of_lt repN repM above) right left).elim

/-! ## The shortest numeral -/

theorem two_pow_le_ten_pow {exponent places : Nat} (le : exponent ≤ 3 * places) :
    Nat.pow 2 exponent ≤ Nat.pow 10 places :=
  calc 2 ^ exponent ≤ 2 ^ (3 * places) := Nat.pow_le_pow_right (by decide) le
    _ = 8 ^ places := Nat.pow_mul 2 3 places
    _ ≤ 10 ^ places := Nat.pow_le_pow_left (by decide) places

theorem unitsPerOne_le : unitsPerOne ≤ Nat.pow 10 400 := by
  have le : 1074 ≤ 3 * 400 := by decide
  unfold unitsPerOne
  generalize 1074 = exponent at le ⊢
  generalize 400 = places at le ⊢
  exact two_pow_le_ten_pow le

/-- The leading decimal digit of a magnitude stands where it is said to stand. -/
theorem leadingPlace_le {m : Nat} (positive : 0 < m) :
    unitsPerOne * (10 : ℚ) ^ leadingPlace m ≤ m := by
  have unit := unitsPerOne_pos
  have enough : unitsPerOne ≤ m * Nat.pow 10 400 :=
    Nat.le_trans unitsPerOne_le (Nat.le_mul_of_pos_left _ positive)
  rw [leadingPlace]
  -- any power would do, so nothing computes with this one
  generalize shift : (400 : Nat) = places at enough
  have places' : ((ofNat (m * Nat.pow 10 places / unitsPerOne)).length : Int) - 401 =
      (((ofNat (m * Nat.pow 10 places / unitsPerOne)).length - 1 : Nat) : Int) - places := by
    have some := List.length_pos_iff.2 (ofNat_ne_nil (m * Nat.pow 10 places / unitsPerOne))
    omega
  have first := pow_length_ofNat_le (Nat.div_pos enough unit)
  rw [Nat.le_div_iff_mul_le unit] at first
  rw [places', zpow_sub₀ (by norm_num), zpow_natCast, zpow_natCast, ← mul_div_assoc,
    div_le_iff₀ (by positivity), mul_comm]
  exact_mod_cast first

/-- Seventeen digits reach a grid finer than any step. -/
theorem grid_lt_step {m : Nat} (positive : 0 < m) (representable : Representable m) :
    4 * unitsPerOne * (10 : ℚ) ^ (leadingPlace m - (17 : Nat)) < step m := by
  have leading := leadingPlace_le positive
  have top : m + step m ≤ 2 ^ 53 * step m := add_step_le representable
  have top' : (m : ℚ) + step m ≤ 2 ^ 53 * step m := by exact_mod_cast top
  have wide : (0 : ℚ) < step m := by exact_mod_cast step_pos m
  rw [zpow_sub₀ (by norm_num), zpow_natCast, ← mul_div_assoc, div_lt_iff₀ (by positivity)]
  linarith

theorem pointBelow_le (i : Interval) (place : Int) :
    quarters (pointBelow i place) place ≤ i.value := by
  have scale : (0 : ℚ) < (10 : ℚ) ^ (-place).toNat := by positivity
  have floor : pointBelow i place * (4 * unitsPerOne * 10 ^ place.toNat) ≤
      i.value * 10 ^ (-place).toNat := Nat.div_mul_le_self _ _
  have floor' : (pointBelow i place : ℚ) * (4 * unitsPerOne * 10 ^ place.toNat) ≤
      i.value * 10 ^ (-place).toNat := by exact_mod_cast floor
  rw [quarters, ten_zpow, ← mul_div_assoc, ← mul_div_assoc, div_le_iff₀ scale]
  linarith

theorem lt_pointBelow_succ (i : Interval) (place : Int) :
    (i.value : ℚ) < quarters (pointBelow i place) place + 4 * unitsPerOne * (10 : ℚ) ^ place := by
  have scale : (0 : ℚ) < (10 : ℚ) ^ (-place).toNat := by positivity
  have unit : 0 < 4 * unitsPerOne * Nat.pow 10 place.toNat :=
    Nat.mul_pos (Nat.mul_pos (by decide) unitsPerOne_pos) (Nat.pow_pos (by decide))
  have ceiling : i.value * 10 ^ (-place).toNat <
      (pointBelow i place + 1) * (4 * unitsPerOne * 10 ^ place.toNat) :=
    (Nat.div_lt_iff_lt_mul unit).1 (Nat.lt_succ_self _)
  have ceiling' : (i.value : ℚ) * 10 ^ (-place).toNat <
      ((pointBelow i place : ℚ) + 1) * (4 * unitsPerOne * 10 ^ place.toNat) := by
    exact_mod_cast ceiling
  have sum : quarters (pointBelow i place) place + 4 * unitsPerOne * (10 : ℚ) ^ place =
      ((pointBelow i place : ℚ) + 1) * (4 * unitsPerOne * 10 ^ place.toNat) /
        (10 : ℚ) ^ (-place).toNat := by
    rw [quarters, ten_zpow]
    ring
  rwa [sum, lt_div_iff₀ scale]

theorem low_interval {m : Nat} (representable : Representable m) (positive : 0 < m) :
    ((interval m).low : ℚ) + lowGap m = 4 * m ∧ 0 < (interval m).low := by
  have whole := significand_mul_step representable
  have some : 0 < significand m := by
    rcases Nat.eq_zero_or_pos (significand m) with none | some
    · rw [none, Nat.zero_mul] at whole
      omega
    · exact some
  have single : 1 * step m ≤ significand m * step m := Nat.mul_le_mul_right _ some
  have gap := lowGap_le m
  have room : (interval m).low + lowGap m = 4 * m := by
    rw [interval_eq]
    dsimp only
    omega
  exact ⟨by exact_mod_cast room, by omega⟩

/-- The point below a number on that grid is in its interval. -/
theorem has_pointBelow {m : Nat} (positive : 0 < m) (representable : Representable m) :
    (interval m).Has (quarters (pointBelow (interval m) (leadingPlace m - (17 : Nat)))
      (leadingPlace m - (17 : Nat))) := by
  have grid := grid_lt_step positive representable
  generalize leadingPlace m - (17 : Nat) = place at grid ⊢
  have below := pointBelow_le (interval m) place
  have near := lt_pointBelow_succ (interval m) place
  have room := (low_interval representable positive).1
  have gap : (step m : ℚ) ≤ lowGap m := by exact_mod_cast step_le_lowGap m
  have wide : (0 : ℚ) < step m := by exact_mod_cast step_pos m
  have value : ((interval m).value : ℚ) = 4 * m := by
    rw [interval_eq]
    push_cast
    rfl
  have high : ((interval m).high : ℚ) = 4 * m + 2 * step m := by
    rw [interval_eq]
    push_cast
    rfl
  rw [value] at below near
  have low : ((interval m).low : ℚ) < quarters (pointBelow (interval m) place) place := by linarith
  have top : quarters (pointBelow (interval m) place) place < ((interval m).high : ℚ) := by
    linarith
  unfold Interval.Has
  split
  · exact ⟨le_of_lt low, le_of_lt top⟩
  · exact ⟨low, top⟩

theorem representable_natAbs (x : Double) : Representable x.units.natAbs := by
  rw [Representable, Int.natAbs_natCast]
  exact x.representable

/-- **The shortest numeral of a number rounds to it**, with its sign. -/
theorem has_shortest {x : Double} (nonzero : x.units ≠ 0) :
    (interval x.units.natAbs).Has (4 * unitsPerOne * x.shortest.magnitude) ∧
      x.shortest.negative = decide (x.units < 0) := by
  have positive : 0 < x.units.natAbs := Int.natAbs_pos.2 nonzero
  unfold shortest
  dsimp only
  rw [if_neg (Nat.ne_of_gt positive)]
  refine ⟨?_, rfl⟩
  show (interval x.units.natAbs).Has (quarters _ _)
  rw [quarters_dropZeros]
  rcases searchGrids_cases (interval x.units.natAbs) 17 (leadingPlace x.units.natAbs) with
    found | last
  · exact found
  · rw [last]
    exact has_pointBelow positive (representable_natAbs x)

theorem shortest_zero {x : Double} (zero : x.units = 0) : x.shortest = ⟨false, 0, 0⟩ := by
  unfold shortest
  rw [zero]
  rfl

theorem magnitude_shortest_pos {x : Double} (nonzero : x.units ≠ 0) :
    0 < x.shortest.magnitude := by
  have positive := Int.natAbs_pos.2 nonzero
  have low := (low_interval (representable_natAbs x) positive).2
  have low' : (0 : ℚ) < (interval x.units.natAbs).low := by exact_mod_cast low
  have unit : (0 : ℚ) < 4 * unitsPerOne := by
    have := unitsPerOne_pos
    positivity
  have has := (has_shortest nonzero).1
  refine pos_of_mul_pos_right ?_ (le_of_lt unit)
  unfold Interval.Has at has
  split at has
  · exact lt_of_lt_of_le low' has.1
  · exact lt_trans low' has.1

theorem magnitude_shortest_zero {x : Double} (zero : x.units = 0) : x.shortest.magnitude = 0 := by
  rw [shortest_zero zero, Decimal.magnitude]
  simp

/-- **Numbers whose shortest numerals stand for the same are the same number.** -/
theorem eq_of_shortest {x y : Double} (same : x.shortest.Same y.shortest) : x = y := by
  have units : x.units = y.units := by
    by_cases zeroX : x.units = 0
    · by_contra nonzero
      have zeroY : y.units ≠ 0 := fun zero => nonzero (zeroX.trans zero.symm)
      have positive := magnitude_shortest_pos zeroY
      rw [← same.magnitude, magnitude_shortest_zero zeroX] at positive
      exact lt_irrefl _ positive
    · by_cases zeroY : y.units = 0
      · have positive := magnitude_shortest_pos zeroX
        rw [same.magnitude, magnitude_shortest_zero zeroY] at positive
        exact (lt_irrefl _ positive).elim
      · obtain ⟨hasX, signX⟩ := has_shortest zeroX
        obtain ⟨hasY, signY⟩ := has_shortest zeroY
        rw [← same.magnitude] at hasY
        have size := eq_of_has (representable_natAbs x) (representable_natAbs y) hasX hasY
        have sign : x.units < 0 ↔ y.units < 0 := by
          rw [← decide_eq_decide, ← signX, ← signY, same.negative]
        omega
  cases x
  cases y
  cases units
  rfl

/-- **The text of a number tells the number**, in every style. -/
theorem write_injective {style : NumberStyle} {x y : Double}
    (same : x.write style = y.write style) : x = y := by
  obtain ⟨d, readX, sameX⟩ := Decimal.read_write style x.shortest
  obtain ⟨e, readY, sameY⟩ := Decimal.read_write style y.shortest
  have text : x.shortest.write style = y.shortest.write style := same
  rw [text, readY] at readX
  cases readX
  exact eq_of_shortest (sameX.symm.trans sameY)

end Double
end EventRules
