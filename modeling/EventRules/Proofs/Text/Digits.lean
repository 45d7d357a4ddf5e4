/-
# EventRules.Proofs.Text.Digits -- a written number reads back

`ofNat` writes decimal digits and nothing else, and `natOf` reads from them the number
that was written.  Zeros in front do not count (`natOf_zeros_append`, `natOf_padded`), and
runs of digits are valued by their places (`natOf_append`).  A run of digits is its value
written with the same number of digits, so nothing but zeros in front is lost
(`padded_natOf`).  A reader of digits stops where they end (`spanDigits_append`,
`takeDigits_append`).
-/
import EventRules.Text.Digits
namespace EventRules.Text

set_option autoImplicit false

/-! ## Runs of digits -/

theorem natOf_eq_ofDigitChars (digits : List Char) : natOf digits = Nat.ofDigitChars 10 digits 0 :=
  rfl

theorem natOf_append (a b : List Char) :
    natOf (a ++ b) = Nat.pow 10 b.length * natOf a + natOf b := by
  rw [natOf_eq_ofDigitChars, Nat.ofDigitChars_append, Nat.ofDigitChars_eq_ofDigitChars_zero]
  rfl

theorem natOf_cons (c : Char) (digits : List Char) :
    natOf (c :: digits) = Nat.pow 10 digits.length * digitValue c + natOf digits := by
  rw [← List.singleton_append, natOf_append, natOf, List.foldl_cons, List.foldl_nil, Nat.mul_zero,
    Nat.zero_add]

theorem natOf_zeros_append (count : Nat) (digits : List Char) :
    natOf (List.replicate count '0' ++ digits) = natOf digits := by
  rw [natOf_eq_ofDigitChars, Nat.ofDigitChars_append, Nat.ofDigitChars_replicate_zero,
    Nat.mul_zero, natOf_eq_ofDigitChars]

theorem isDigit_of_mem_zeros {count : Nat} {c : Char} (member : c ∈ List.replicate count '0') :
    c.isDigit = true := by
  rw [List.eq_of_mem_replicate member]
  rfl

theorem spanDigits_append {digits rest : List Char} (all : ∀ c ∈ digits, c.isDigit = true)
    (stops : ∀ c ∈ rest.head?, c.isDigit = false) :
    spanDigits (digits ++ rest) = (digits, rest) := by
  have here : rest.takeWhile Char.isDigit = [] ∧ rest.dropWhile Char.isDigit = rest := by
    cases rest with
    | nil => exact ⟨rfl, rfl⟩
    | cons c rest => simp [stops c rfl]
  rw [spanDigits, List.takeWhile_append_of_pos all, List.dropWhile_append_of_pos all, here.1,
    here.2, List.append_nil]

theorem takeDigits_append {digits : List Char} (all : ∀ c ∈ digits, c.isDigit = true)
    (rest : List Char) : takeDigits digits.length (digits ++ rest) = (digits, rest) := by
  induction digits with
  | nil => cases rest <;> rfl
  | cons c digits ih =>
      obtain ⟨first, others⟩ := List.forall_mem_cons.1 all
      simp only [List.length_cons, List.cons_append, takeDigits, first, if_true, ih others]

/-! ## What a run of digits is worth -/

theorem digitValue_lt {c : Char} (digit : c.isDigit = true) : digitValue c < 10 := by
  have bounds : 48 ≤ c.toNat ∧ c.toNat ≤ 57 := Char.isDigit_iff_toNat.1 digit
  rw [digitValue]
  omega

theorem digitValue_injective {c d : Char} (digitC : c.isDigit = true) (digitD : d.isDigit = true)
    (same : digitValue c = digitValue d) : c = d := by
  have boundsC : 48 ≤ c.toNat ∧ c.toNat ≤ 57 := Char.isDigit_iff_toNat.1 digitC
  have boundsD : 48 ≤ d.toNat ∧ d.toNat ≤ 57 := Char.isDigit_iff_toNat.1 digitD
  rw [digitValue, digitValue] at same
  exact Char.toNat_inj.1 (by omega)

theorem natOf_lt {digits : List Char} (all : ∀ c ∈ digits, c.isDigit = true) :
    natOf digits < Nat.pow 10 digits.length := by
  induction digits with
  | nil => exact Nat.one_pos
  | cons c digits ih =>
      obtain ⟨first, others⟩ := List.forall_mem_cons.1 all
      have tail := ih others
      have whole : Nat.pow 10 digits.length * digitValue c ≤ Nat.pow 10 digits.length * 9 :=
        Nat.mul_le_mul_left _ (Nat.le_of_lt_succ (digitValue_lt first))
      have more : Nat.pow 10 (digits.length + 1) = Nat.pow 10 digits.length * 10 := rfl
      rw [natOf_cons, List.length_cons, more]
      omega

/-- Runs of as many digits differ in value. -/
theorem eq_of_natOf {a b : List Char} (allA : ∀ c ∈ a, c.isDigit = true)
    (allB : ∀ c ∈ b, c.isDigit = true) (length : a.length = b.length)
    (same : natOf a = natOf b) : a = b := by
  induction a generalizing b with
  | nil => exact (List.length_eq_zero_iff.1 length.symm).symm
  | cons c a ih =>
      cases b with
      | nil => cases length
      | cons d b =>
          obtain ⟨firstA, othersA⟩ := List.forall_mem_cons.1 allA
          obtain ⟨firstB, othersB⟩ := List.forall_mem_cons.1 allB
          have length' : a.length = b.length := Nat.succ.inj length
          have below := natOf_lt othersA
          have below' := natOf_lt othersB
          rw [natOf_cons, natOf_cons, length'] at same
          rw [length'] at below
          have positive : 0 < Nat.pow 10 b.length := Nat.pow_pos (by decide)
          have leading : digitValue c = digitValue d := by
            have quotient := congrArg (· / Nat.pow 10 b.length) same
            rwa [Nat.mul_add_div positive, Nat.mul_add_div positive, Nat.div_eq_of_lt below,
              Nat.div_eq_of_lt below'] at quotient
          rw [leading] at same
          rw [digitValue_injective firstA firstB leading,
            ih othersA othersB length' (Nat.add_left_cancel same)]

/-! ## Written numbers -/

theorem natOf_ofNat (n : Nat) : natOf (ofNat n) = n := by
  have read : natOf (ofNat n) = Nat.ofDigitChars 10 (Nat.toDigits 10 n) 0 := rfl
  rw [read, Nat.ofDigitChars_ten_toDigits]

theorem isDigit_of_mem_ofNat {n : Nat} {c : Char} (member : c ∈ ofNat n) : c.isDigit = true :=
  Nat.isDigit_of_mem_toDigits (by decide) (by decide) member

theorem ofNat_ne_nil (n : Nat) : ofNat n ≠ [] := Nat.toDigits_ne_nil

theorem length_ofNat_le_iff {n places : Nat} (positive : 0 < places) :
    (ofNat n).length ≤ places ↔ n < Nat.pow 10 places :=
  Nat.length_toDigits_le_iff (by decide) positive

/-- The first digit of a positive number is not zero. -/
theorem pow_length_ofNat_le {n : Nat} (positive : 0 < n) :
    Nat.pow 10 ((ofNat n).length - 1) ≤ n := by
  rcases Nat.eq_zero_or_pos ((ofNat n).length - 1) with single | more
  · rw [single]
    exact positive
  · rw [← Nat.not_lt, ← length_ofNat_le_iff more]
    omega

theorem ofNat_injective {m n : Nat} (same : ofNat m = ofNat n) : m = n := by
  rw [← natOf_ofNat m, same, natOf_ofNat]

/-- An integer is read off its text: a minus sign tells a negative one. -/
theorem ofInt_injective {m n : Int} (same : ofInt m = ofInt n) : m = n := by
  have minus : ∀ (k : Nat) (rest : List Char), ofNat k ≠ '-' :: rest := by
    intro k rest split
    have digit := isDigit_of_mem_ofNat (split ▸ List.mem_cons_self : '-' ∈ ofNat k)
    revert digit
    decide
  unfold ofInt at same
  split at same <;> split at same
  · have := ofNat_injective (List.cons.inj same).2
    omega
  · exact absurd same.symm (minus _ _)
  · exact absurd same (minus _ _)
  · have := ofNat_injective same
    omega

/-! ## Padded numbers -/

theorem isDigit_of_mem_padded {width n : Nat} {c : Char} (member : c ∈ padded width n) :
    c.isDigit = true := by
  rcases List.mem_append.1 member with zero | digit
  · exact isDigit_of_mem_zeros zero
  · exact isDigit_of_mem_ofNat digit

theorem padded_ne_nil (width n : Nat) : padded width n ≠ [] :=
  List.append_ne_nil_of_right_ne_nil _ (ofNat_ne_nil n)

/-- What begins with a padded number begins with a digit. -/
theorem padded_append_eq_cons (width n : Nat) (rest : List Char) :
    ∃ c digits, padded width n ++ rest = c :: digits ∧ c.isDigit = true := by
  obtain ⟨c, digits, split⟩ := List.exists_cons_of_ne_nil (padded_ne_nil width n)
  exact ⟨c, digits ++ rest, by rw [split, List.cons_append],
    isDigit_of_mem_padded (split ▸ List.mem_cons_self)⟩

theorem natOf_padded (width n : Nat) : natOf (padded width n) = n := by
  rw [padded, natOf_zeros_append, natOf_ofNat]

theorem length_padded {width n : Nat} (positive : 0 < width) (fits : n < Nat.pow 10 width) :
    (padded width n).length = width := by
  have short := (length_ofNat_le_iff positive).2 fits
  rw [padded, List.length_append, List.length_replicate]
  omega

/-- A run of digits is its value, filled with zeros to as many digits. -/
theorem padded_natOf {digits : List Char} (all : ∀ c ∈ digits, c.isDigit = true)
    (something : digits ≠ []) : padded digits.length (natOf digits) = digits := by
  have positive : 0 < digits.length := List.length_pos_iff.2 something
  exact eq_of_natOf (fun _ => isDigit_of_mem_padded) all (length_padded positive (natOf_lt all))
    (natOf_padded _ _)

/-- A number that fits its width is taken to its end. -/
theorem takeDigits_padded {width n : Nat} (positive : 0 < width) (fits : n < Nat.pow 10 width)
    (rest : List Char) : takeDigits width (padded width n ++ rest) = (padded width n, rest) := by
  have digits : ∀ c ∈ padded width n, c.isDigit = true := fun _ => isDigit_of_mem_padded
  have taken := takeDigits_append digits rest
  rwa [length_padded positive fits] at taken

end EventRules.Text
