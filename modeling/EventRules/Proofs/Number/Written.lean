/-
# EventRules.Proofs.Number.Written -- the text of a numeral says what it stands for

A numeral may be written with its digits in their places or with an exponent mark, and it
may be read back with its digits moved to another place.  What it stands for is never
changed: in every style, a written numeral reads back as one of the same sign and the same
magnitude (`Decimal.read_write`).

Its text has digits, signs, points and exponent marks only (`Decimal.isMark_write`), and in
the styles that mark whole numbers it cannot be taken for an integer (`Decimal.marked_write`).
-/
import EventRules.Number.Style
import EventRules.Proofs.Text.Digits
import Mathlib.Algebra.Order.Field.Power
import Mathlib.Algebra.Order.Field.Rat
import Mathlib.Tactic.FieldSimp
import Mathlib.Tactic.Positivity
import Mathlib.Tactic.Ring
namespace EventRules
set_option autoImplicit false

open Text

namespace Decimal

/-- What a numeral stands for, its sign aside. -/
def magnitude (d : Decimal) : ℚ := d.digits * (10 : ℚ) ^ d.exponent

/-- Numerals that stand for the same number. -/
structure Same (d e : Decimal) : Prop where
  negative : d.negative = e.negative
  magnitude : d.magnitude = e.magnitude

theorem Same.symm {d e : Decimal} (same : d.Same e) : e.Same d :=
  ⟨same.negative.symm, same.magnitude.symm⟩

theorem Same.trans {d e f : Decimal} (left : d.Same e) (right : e.Same f) : d.Same f :=
  ⟨left.negative.trans right.negative, left.magnitude.trans right.magnitude⟩

/-! ## Reading the parts -/

/-- What may follow the digits of a numeral without a point: nothing, or no more digits. -/
def Stops (rest : List Char) : Prop := ∀ c ∈ rest.head?, c.isDigit = false

theorem stops_nil : Stops [] := fun _ head => nomatch head

theorem readUnsigned_point (negative : Bool) {whole fraction rest : List Char}
    (digits : ∀ c ∈ whole, c.isDigit = true) (something : whole ≠ [])
    (places : ∀ c ∈ fraction, c.isDigit = true) (stops : Stops rest) :
    readUnsigned negative (whole ++ '.' :: (fraction ++ rest)) =
      some (⟨negative, natOf (whole ++ fraction), (readExponent rest).1 - fraction.length⟩,
        (readExponent rest).2) := by
  have point : Stops ('.' :: (fraction ++ rest)) := by
    rintro c ⟨⟩
    rfl
  rw [readUnsigned, spanDigits_append digits point]
  simp only [spanDigits_append places stops]
  rw [if_neg (by simp [something])]

theorem readUnsigned_whole (negative : Bool) {whole : List Char} (rest : List Char)
    (digits : ∀ c ∈ whole, c.isDigit = true) (something : whole ≠ [])
    (stops : Stops rest) (noPoint : '.' ∉ rest.head?) :
    readUnsigned negative (whole ++ rest) =
      some (⟨negative, natOf whole, (readExponent rest).1⟩, (readExponent rest).2) := by
  rw [readUnsigned, spanDigits_append digits stops]
  cases rest with
  | nil => simp [something]
  | cons c tail =>
      have other : c ≠ '.' := fun point => noPoint (congrArg some point)
      simp [something, other]

/-- A digit is no sign. -/
theorem ne_of_isDigit {c d : Char} (digit : c.isDigit = true) (other : d.isDigit = false) :
    c ≠ d := by
  rintro rfl
  rw [digit] at other
  cases other

/-- The exponent of a written numeral reads back. -/
theorem readExponent_ofInt (plusSign : Bool) (n : Int) :
    readExponent ('e' :: ((if plusSign && 0 ≤ n then ['+'] else []) ++ ofInt n)) = (n, []) := by
  have span : spanDigits (ofNat n.natAbs) = (ofNat n.natAbs, []) := by
    have digits : ∀ c ∈ ofNat n.natAbs, c.isDigit = true := fun _ => isDigit_of_mem_ofNat
    have split := spanDigits_append digits stops_nil
    rwa [List.append_nil] at split
  have value := natOf_ofNat n.natAbs
  obtain ⟨first, others, split⟩ := List.exists_cons_of_ne_nil (ofNat_ne_nil n.natAbs)
  have digit : first.isDigit = true := isDigit_of_mem_ofNat (split ▸ List.mem_cons_self)
  have notPlus : first ≠ '+' := ne_of_isDigit digit rfl
  have notMinus : first ≠ '-' := ne_of_isDigit digit rfl
  rw [ofInt, split]
  rw [split] at span value
  rcases Int.lt_or_le n 0 with below | above
  · have noPlus : ¬ 0 ≤ n := Int.not_le.2 below
    have back : -(n.natAbs : Int) = n := by omega
    simpa [readExponent, below, noPlus, span, value] using back
  · have notBelow : ¬ n < 0 := Int.not_lt.2 above
    have back : (n.natAbs : Int) = n := by omega
    cases plusSign with
    | true => simp [readExponent, above, notBelow, span, value]
    | false => simp [readExponent, notBelow, notPlus, notMinus, span, value, back]

/-! ## Reading a numeral -/

/-- Digits that are moved to another place stand for the same number. -/
theorem magnitude_scaled (negative : Bool) (digits places : Nat) (exponent : Int) :
    magnitude ⟨negative, 10 ^ places * digits, exponent - places⟩ =
      magnitude ⟨negative, digits, exponent⟩ := by
  simp only [magnitude]
  push_cast
  rw [zpow_sub₀ (by norm_num), zpow_natCast]
  field_simp

/-! ### Digits in their places

The three ways to place the point: after the digits and the zeros that fill their places up,
among the digits, and before them. -/

theorem natOf_filled (digits count : Nat) :
    natOf (ofNat digits ++ List.replicate count '0') = 10 ^ count * digits := by
  have zeros := natOf_zeros_append count []
  rw [List.append_nil] at zeros
  rw [natOf_append, natOf_ofNat, List.length_replicate, zeros]
  rfl

theorem isDigit_of_mem_filled {digits count : Nat} {c : Char}
    (member : c ∈ ofNat digits ++ List.replicate count '0') : c.isDigit = true := by
  rcases List.mem_append.1 member with digit | zero
  · exact isDigit_of_mem_ofNat digit
  · exact isDigit_of_mem_zeros zero

/-- Digits with zeros after them, and `.0` in the styles that mark whole numbers. -/
theorem readUnsigned_filled (negative marked : Bool) (digits count : Nat) :
    ∃ e, readUnsigned negative (ofNat digits ++ List.replicate count '0' ++
        (if marked then ['.', '0'] else [])) = some (e, []) ∧
      e.negative = negative ∧ e.magnitude = magnitude ⟨negative, digits, count⟩ := by
  have something : ofNat digits ++ List.replicate count '0' ≠ [] := by simp [ofNat_ne_nil]
  cases marked with
  | true =>
      have zero : ∀ c ∈ ['0'], c.isDigit = true := List.forall_mem_singleton.2 rfl
      have read := readUnsigned_point negative (fun _ => isDigit_of_mem_filled) something zero
        stops_nil
      refine ⟨_, read, rfl, ?_⟩
      rw [natOf_append, natOf_filled, ← magnitude_scaled negative digits (count + 1) count]
      have number : Nat.pow 10 (['0'] : List Char).length * (10 ^ count * digits) + natOf ['0'] =
          10 ^ (count + 1) * digits := by
        rw [pow_succ, mul_right_comm, mul_comm]
        rfl
      have exponent : (readExponent []).1 - ((['0'] : List Char).length : Int) =
          count - (count + 1 : Nat) := by
        show (0 : Int) - 1 = _
        omega
      rw [number, exponent]
  | false =>
      have read := readUnsigned_whole negative [] (fun _ => isDigit_of_mem_filled) something
        stops_nil (by decide)
      refine ⟨_, read, rfl, ?_⟩
      rw [natOf_filled, ← magnitude_scaled negative digits count count, Int.sub_self]
      rfl

/-- Digits with the point among them. -/
theorem readUnsigned_cut (negative : Bool) {digits places : Nat}
    (inside : places < (ofNat digits).length) :
    readUnsigned negative ((ofNat digits).take ((ofNat digits).length - places) ++
        '.' :: (ofNat digits).drop ((ofNat digits).length - places)) =
      some (⟨negative, digits, -(places : Int)⟩, []) := by
  have whole : ∀ c ∈ (ofNat digits).take ((ofNat digits).length - places), c.isDigit = true :=
    fun _ member => isDigit_of_mem_ofNat (List.mem_of_mem_take member)
  have fraction : ∀ c ∈ (ofNat digits).drop ((ofNat digits).length - places),
      c.isDigit = true :=
    fun _ member => isDigit_of_mem_ofNat (List.mem_of_mem_drop member)
  have something : (ofNat digits).take ((ofNat digits).length - places) ≠ [] := by
    simp only [ne_eq, List.take_eq_nil_iff, ofNat_ne_nil, or_false]
    omega
  have read := readUnsigned_point negative whole something fraction stops_nil
  have exponent : (readExponent []).1 -
      (((ofNat digits).drop ((ofNat digits).length - places)).length : Int) =
        -(places : Int) := by
    rw [List.length_drop]
    show (0 : Int) - _ = _
    omega
  rwa [List.append_nil, exponent, List.take_append_drop, natOf_ofNat] at read

/-- Digits that begin after the point, with zeros between. -/
theorem readUnsigned_below (negative : Bool) {digits places : Nat}
    (outside : (ofNat digits).length ≤ places) :
    readUnsigned negative ('0' :: '.' ::
        (List.replicate (places - (ofNat digits).length) '0' ++ ofNat digits)) =
      some (⟨negative, digits, -(places : Int)⟩, []) := by
  have zero : ∀ c ∈ ['0'], c.isDigit = true := List.forall_mem_singleton.2 rfl
  have digit : ∀ c ∈ List.replicate (places - (ofNat digits).length) '0' ++ ofNat digits,
      c.isDigit = true :=
    List.forall_mem_append.2 ⟨fun _ => isDigit_of_mem_zeros, fun _ => isDigit_of_mem_ofNat⟩
  have read := readUnsigned_point negative zero (List.cons_ne_nil _ _) digit stops_nil
  have exponent : (readExponent []).1 - ((List.replicate
      (places - (ofNat digits).length) '0' ++ ofNat digits).length : Int) = -(places : Int) := by
    rw [List.length_append, List.length_replicate]
    show (0 : Int) - _ = _
    omega
  have number : natOf (['0'] ++
      (List.replicate (places - (ofNat digits).length) '0' ++ ofNat digits)) = digits := by
    rw [← List.append_assoc]
    exact (natOf_zeros_append (_ + 1) _).trans (natOf_ofNat _)
  rwa [List.append_nil, exponent, number] at read

/-- A numeral with its digits in their places stands for what it was written from. -/
theorem readUnsigned_positional (negative marked : Bool) (d : Decimal) :
    ∃ e, readUnsigned negative (d.positional (if marked then ['.', '0'] else [])) = some (e, []) ∧
      e.negative = negative ∧ e.magnitude = d.magnitude := by
  unfold positional
  dsimp only
  split
  · rename_i whole
    obtain ⟨e, read, sign, value⟩ :=
      readUnsigned_filled negative marked d.digits d.exponent.toNat
    rw [Int.toNat_of_nonneg whole] at value
    exact ⟨e, read, sign, value⟩
  · rename_i fractional
    have places : -((-d.exponent).toNat : Int) = d.exponent := by omega
    split
    · rename_i inside
      have read := readUnsigned_cut negative inside
      rw [places] at read
      exact ⟨_, read, rfl, rfl⟩
    · rename_i outside
      have read := readUnsigned_below negative (Nat.le_of_not_lt outside)
      rw [places] at read
      exact ⟨_, read, rfl, rfl⟩

/-- A numeral with an exponent mark is read as it was written. -/
theorem readUnsigned_withExponent (negative plusSign : Bool) (d : Decimal) :
    readUnsigned negative
        (d.withExponent plusSign (((ofNat d.digits).length : Int) - 1 + d.exponent)) =
      some (⟨negative, d.digits, d.exponent⟩, []) := by
  have value := natOf_ofNat d.digits
  have digits : ∀ c ∈ ofNat d.digits, c.isDigit = true := fun _ => isDigit_of_mem_ofNat
  rw [withExponent]
  generalize leads : ((ofNat d.digits).length : Int) - 1 + d.exponent = leading
  have exponent := readExponent_ofInt plusSign leading
  have stops : Stops ('e' :: ((if plusSign && 0 ≤ leading then ['+'] else []) ++
      ofInt leading)) := by
    rintro c ⟨⟩
    rfl
  rcases shape : ofNat d.digits with _ | ⟨first, _ | ⟨second, others⟩⟩
  · exact absurd shape (ofNat_ne_nil _)
  · rw [shape] at value digits leads
    have read := readUnsigned_whole negative _ digits (List.cons_ne_nil _ _) stops (by simp)
    rw [exponent, value] at read
    rw [read, ← leads]
    simp
  · rw [shape] at value digits leads
    obtain ⟨head, tail⟩ := List.forall_mem_cons.1 digits
    have read := readUnsigned_point negative (List.forall_mem_singleton.2 head)
      (List.cons_ne_nil _ _) tail stops
    rw [exponent] at read
    refine read.trans ?_
    rw [← leads]
    simp [value]

/-- An unsigned numeral begins with no sign. -/
theorem read_of_unsigned {chars rest : List Char} {d : Decimal}
    (unsigned : readUnsigned false chars = some (d, rest)) : read chars = some (d, rest) := by
  unfold read
  split
  · simp [readUnsigned, spanDigits] at unsigned
  · simp [readUnsigned, spanDigits] at unsigned
  · exact unsigned

/-- A numeral is written with its digits in their places or with an exponent mark, after its
sign. -/
theorem write_cases (style : NumberStyle) (d : Decimal) :
    ∃ body, d.write style = (if d.negative then '-' :: body else body) ∧
      (body = d.positional (if style.wholeMark then ['.', '0'] else []) ∨
        body = d.withExponent style.plusSign (((ofNat d.digits).length : Int) - 1 + d.exponent)) := by
  exact ⟨_, rfl, ite_eq_or_eq _ _ _⟩

/-- **The text of a numeral says what it stands for**, in every style. -/
theorem read_write (style : NumberStyle) (d : Decimal) :
    ∃ e, read (d.write style) = some (e, []) ∧ e.Same d := by
  obtain ⟨body, text, shape⟩ := d.write_cases style
  have unsigned : ∃ e, readUnsigned d.negative body = some (e, []) ∧ e.negative = d.negative ∧
      e.magnitude = d.magnitude := by
    rcases shape with rfl | rfl
    · exact readUnsigned_positional d.negative style.wholeMark d
    · exact ⟨_, readUnsigned_withExponent d.negative style.plusSign d, rfl, rfl⟩
  obtain ⟨e, found, sign, magnitude⟩ := unsigned
  refine ⟨e, ?_, sign, magnitude⟩
  rw [text]
  cases negative : d.negative with
  | true =>
      rw [negative] at found
      exact found
  | false =>
      rw [negative] at found
      exact read_of_unsigned found

/-! ## The characters of a numeral -/

/-- A character that a numeral can have. -/
def isMark (c : Char) : Bool := c.isDigit || c == '-' || c == '+' || c == '.' || c == 'e'

theorem isMark_ofNat (n : Nat) : ∀ c ∈ ofNat n, isMark c = true := by
  intro c member
  simp [isMark, isDigit_of_mem_ofNat member]

theorem isMark_zeros (count : Nat) : ∀ c ∈ List.replicate count '0', isMark c = true := by
  intro c member
  rw [List.eq_of_mem_replicate member]
  rfl

theorem isMark_ofInt (n : Int) : ∀ c ∈ ofInt n, isMark c = true := by
  unfold ofInt
  split
  · exact List.forall_mem_cons.2 ⟨rfl, isMark_ofNat _⟩
  · exact isMark_ofNat _

theorem isMark_positional (d : Decimal) (marked : Bool) :
    ∀ c ∈ d.positional (if marked then ['.', '0'] else []), isMark c = true := by
  have digits := isMark_ofNat d.digits
  have mark : ∀ c ∈ (if marked then ['.', '0'] else []), isMark c = true := by
    cases marked with
    | true => exact List.forall_mem_cons.2 ⟨rfl, List.forall_mem_singleton.2 rfl⟩
    | false => exact fun _ member => nomatch member
  unfold positional
  dsimp only
  split
  · exact List.forall_mem_append.2
      ⟨List.forall_mem_append.2 ⟨digits, isMark_zeros _⟩, mark⟩
  · split
    · exact List.forall_mem_append.2 ⟨fun c member => digits c (List.mem_of_mem_take member),
        List.forall_mem_cons.2 ⟨rfl, fun c member => digits c (List.mem_of_mem_drop member)⟩⟩
    · exact List.forall_mem_cons.2 ⟨rfl, List.forall_mem_cons.2 ⟨rfl,
        List.forall_mem_append.2 ⟨isMark_zeros _, digits⟩⟩⟩

theorem isMark_withExponent (d : Decimal) (plusSign : Bool) (leading : Int) :
    ∀ c ∈ d.withExponent plusSign leading, isMark c = true := by
  have digits := isMark_ofNat d.digits
  have sign : ∀ c ∈ (if plusSign && 0 ≤ leading then ['+'] else []), isMark c = true := by
    split
    · exact List.forall_mem_singleton.2 rfl
    · exact fun _ member => nomatch member
  unfold withExponent
  refine List.forall_mem_append.2 ⟨?_, List.forall_mem_cons.2 ⟨rfl,
    List.forall_mem_append.2 ⟨sign, isMark_ofInt _⟩⟩⟩
  split
  · rename_i shape
    rw [shape] at digits
    obtain ⟨first, others⟩ := List.forall_mem_cons.1 digits
    exact List.forall_mem_cons.2 ⟨first, List.forall_mem_cons.2 ⟨rfl, others⟩⟩
  · exact digits

/-- A numeral has digits, signs, points and exponent marks, and no other characters. -/
theorem isMark_write (style : NumberStyle) (d : Decimal) :
    ∀ c ∈ d.write style, isMark c = true := by
  obtain ⟨body, text, shape⟩ := d.write_cases style
  have each : ∀ c ∈ body, isMark c = true := by
    rcases shape with rfl | rfl
    · exact isMark_positional d style.wholeMark
    · exact isMark_withExponent d style.plusSign _
  rw [text]
  split
  · exact List.forall_mem_cons.2 ⟨rfl, each⟩
  · exact each

/-- A numeral that marks whole numbers has a point or an exponent mark. -/
theorem marked_write {style : NumberStyle} (marks : style.wholeMark = true) (d : Decimal) :
    '.' ∈ d.write style ∨ 'e' ∈ d.write style := by
  obtain ⟨body, text, shape⟩ := d.write_cases style
  have inBody : '.' ∈ body ∨ 'e' ∈ body := by
    rcases shape with rfl | rfl
    · left
      rw [marks]
      unfold positional
      dsimp only
      split
      · simp
      · split <;> simp
    · right
      simp [withExponent]
  rw [text]
  split
  · exact inBody.imp (List.mem_cons_of_mem _) (List.mem_cons_of_mem _)
  · exact inBody

end Decimal
end EventRules
