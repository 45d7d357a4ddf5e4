/-
# EventRules.Proofs.Text.Blank -- what trimming leaves

A text is trimmed when no blank stands at either end of it (`trimChars_eq_self`), and so is what
trimming leaves (`trimChars_trimChars`).  Blanks that stand around a text make no difference
(`trimChars_surrounded`).
-/
import EventRules.Text.Blank
namespace EventRules.Text

set_option autoImplicit false

theorem isBlank_of_isDigit {c : Char} (digit : c.isDigit = true) : isBlank c = false := by
  have bounds : 48 ≤ c.toNat ∧ c.toNat ≤ 57 := by
    simpa [Char.isDigit, UInt32.le_iff_toNat_le] using digit
  simp [isBlank]
  omega

theorem skipBlanks_eq_self {chars : List Char} (begins : ∀ c ∈ chars.head?, isBlank c = false) :
    skipBlanks chars = chars := by
  cases chars with
  | nil => rfl
  | cons c rest => exact List.dropWhile_cons_of_neg (Bool.eq_false_iff.1 (begins c rfl))

/-- A text that neither begins nor ends with a blank is trimmed. -/
theorem trimChars_eq_self {chars : List Char} (begins : ∀ c ∈ chars.head?, isBlank c = false)
    (ends : ∀ c ∈ chars.getLast?, isBlank c = false) : trimChars chars = chars := by
  rw [trimChars, skipBlanks_eq_self begins, skipBlanks_eq_self, List.reverse_reverse]
  rwa [List.head?_reverse]

theorem head_skipBlanks (chars : List Char) :
    ∀ c ∈ (skipBlanks chars).head?, isBlank c = false := by
  intro c first
  have visible := List.head?_dropWhile_not isBlank chars
  rw [skipBlanks] at first
  rwa [Option.mem_def.1 first] at visible

/-- Trimming leaves nothing to trim. -/
theorem trimChars_trimChars (chars : List Char) :
    trimChars (trimChars chars) = trimChars chars := by
  apply trimChars_eq_self
  · intro c first
    -- what is left is the beginning of what has lost its leading blanks
    have leading : trimChars chars <+: skipBlanks chars := by
      have suffix : skipBlanks (skipBlanks chars).reverse <:+ (skipBlanks chars).reverse :=
        List.dropWhile_suffix isBlank
      rw [trimChars, ← List.reverse_suffix, List.reverse_reverse]
      exact suffix
    obtain ⟨dropped, whole⟩ := leading
    apply head_skipBlanks chars c
    rw [← whole, List.head?_append, Option.mem_def.1 first]
    rfl
  · intro c last
    rw [trimChars, List.getLast?_reverse] at last
    exact head_skipBlanks _ c last

theorem skipBlanks_blank_append {before : List Char} (blank : ∀ c ∈ before, isBlank c = true)
    (chars : List Char) : skipBlanks (before ++ chars) = skipBlanks chars :=
  List.dropWhile_append_of_pos blank

/-- Blanks around a text are dropped with its own. -/
theorem trimChars_surrounded {before after : List Char}
    (blankBefore : ∀ c ∈ before, isBlank c = true) (blankAfter : ∀ c ∈ after, isBlank c = true)
    (chars : List Char) : trimChars (before ++ chars ++ after) = trimChars chars := by
  have reversed : ∀ c ∈ after.reverse, isBlank c = true := fun c member =>
    blankAfter c (List.mem_reverse.1 member)
  have start : skipBlanks (chars ++ after) =
      if (skipBlanks chars).isEmpty then skipBlanks after else skipBlanks chars ++ after :=
    List.dropWhile_append
  rw [trimChars, List.append_assoc, skipBlanks_blank_append blankBefore, start, trimChars]
  -- what follows the text is skipped at the start if the text is blank, else at the end
  split
  · rename_i nothing
    have skipped : skipBlanks after = [] := by
      rw [← List.append_nil after, skipBlanks_blank_append blankAfter]
      rfl
    rw [List.isEmpty_iff.1 nothing, skipped]
  · rw [List.reverse_append, skipBlanks_blank_append reversed]

end EventRules.Text
