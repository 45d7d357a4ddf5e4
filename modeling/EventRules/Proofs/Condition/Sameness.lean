/-
# EventRules.Proofs.Condition.Sameness -- comparisons of values with one canonical text

Values with one canonical text are unchanged, and a comparison does not tell them apart
either: both sides have one measure, whatever the kind of the comparison
(`Value.measure?_of_canonicalEq`).  A date and its stamp are compared as the same too, as text or
as dates; as a number the stamp cannot be read.

A comparison without a kind is the exception.  It takes a date for a number and the stamp of
the date for text, since a stamp is no numeral (`Value.numberOfText?_stamp`), and then compares
two texts of which one is a number's.  These always differ.  `Condition.compare_same` says both.
-/
import EventRules.Condition.Holds
import EventRules.Proofs.Calendar.Stamp
import EventRules.Proofs.Value.Canonical
namespace EventRules

set_option autoImplicit false

open Text

theorem Double.isMark_plain (x : Double) : ∀ c ∈ x.plain, Decimal.isMark c = true := by
  unfold plain
  split
  · exact Decimal.isMark_ofInt _
  · exact Decimal.isMark_write _ _

/-! ## Measures -/

namespace Measure

theorem order_self (m : Measure) : m.order m = .eq := by
  cases m with
  | number x => exact Std.ReflOrd.compare_self
  | text s => exact Std.ReflOrd.compare_self

/-- A number and a text that is no number's are never in order of equals. -/
theorem order_ne_eq {x : Double} {s : String} (other : String.ofList x.plain ≠ s) :
    (number x).order (text s) ≠ .eq ∧ (text s).order (number x) ≠ .eq := by
  constructor
  · exact fun same => other (Std.LawfulEqOrd.eq_of_compare same)
  · exact fun same => other (Std.LawfulEqOrd.eq_of_compare same).symm

end Measure

theorem Comparison.accepts_eq (op : Comparison) :
    op.accepts .eq = true ↔ op ∈ [Comparison.eq, .ge, .le] := by
  cases op <;> decide

namespace Value

/-- Whether a value is a date. -/
def isDate : Value → Bool
  | .date _ => true
  | _ => false

theorem display_stamped (v : Value) : v.stamped.display = v.display := by
  cases v with
  | list items =>
      rw [stamped, display, display, canonical, canonical, ← stamped, toTree_stamped]
  | object fields =>
      rw [stamped, display, display, canonical, canonical, ← stamped, toTree_stamped]
  | _ => rfl

/-- Canonically equal values have one text form. -/
theorem display_of_canonicalEq {a b : Value} (same : a.canonicalEq b = true) :
    a.display = b.display := by
  rw [← display_stamped a, canonicalEq_iff_stamped.1 same, display_stamped]

/-- A stamp is no numeral: its year ends at a hyphen. -/
theorem numberOfText?_stamp {t : Instant} (plain : t.Plain) :
    numberOfText? t.millisStamp = none := by
  obtain ⟨digits, rest, text, -, something, all⟩ := Instant.stampWith_parts plain
  have stops : Decimal.Stops ('-' :: (rest ++ ['Z'])) := by
    rintro c ⟨⟩
    rfl
  have unsigned := Decimal.readUnsigned_whole false _ all something stops (by simp)
  have exponent : Decimal.readExponent ('-' :: (rest ++ ['Z'])) = (0, '-' :: (rest ++ ['Z'])) := by
    simp [Decimal.readExponent]
  rw [exponent] at unsigned
  rw [numberOfText?, Instant.millisStamp, String.toList_ofList, Instant.trimChars_stampWith plain,
    text, Double.ofText?, Decimal.read_of_unsigned unsigned]

/-- No number is written as a stamp. -/
theorem plain_ne_stamp {t : Instant} (plain : t.Plain) (x : Double) :
    String.ofList x.plain ≠ t.millisStamp := by
  intro same
  obtain ⟨digits, rest, text, mark, -⟩ := Instant.stampWith_parts plain
  have member : 'T' ∈ x.plain := by
    rw [String.ofList_injective same, text]
    simp [mark]
  exact absurd (x.isMark_plain 'T' member) (by decide)

section Measures

variable {a b : Value} {offset : UtcOffset} {kind : ValueKind}

/-- The dates of a comparison are of years with four digits, and no leap seconds. -/
def Dated (v : Value) : Prop := ∀ t, v = .date t → t.Plain

/-- Canonically equal dates have one measure of every kind. -/
theorem measure?_dates {t u : Instant} (plainT : t.Plain) (plainU : u.Plain)
    (same : t.millisStamp = u.millisStamp) :
    (date t).measure? offset kind = (date u).measure? offset kind := by
  have number : millisNumber t = millisNumber u := by
    rw [millisNumber, Instant.millis_of_millisStamp plainT plainU same, millisNumber]
  cases kind with
  | number => exact congrArg (fun x => some (Measure.number x)) number
  | string => exact congrArg (fun s => some (Measure.text s)) same
  | date => exact congrArg (fun x => some (Measure.number x)) number
  | auto => exact congrArg (fun x => some (Measure.number x)) number

/-- Canonically equal values that are both dates or both none have one measure. -/
theorem measure?_alike (same : a.canonicalEq b = true) (datedA : a.Dated) (datedB : b.Dated)
    (alike : a.isDate = b.isDate) : a.measure? offset kind = b.measure? offset kind := by
  have display := display_of_canonicalEq same
  have stamps := canonicalEq_iff_stamped.1 same
  cases a with
  | null =>
      cases b with
      | null => rfl
      | date _ => cases alike
      | _ => cases stamps
  | bool p =>
      cases b with
      | bool q =>
          cases stamps
          rfl
      | date _ => cases alike
      | _ => cases stamps
  | number x =>
      cases b with
      | number y =>
          cases stamps
          rfl
      | date _ => cases alike
      | _ => cases stamps
  | text s =>
      cases b with
      | text s' =>
          cases stamps
          rfl
      | date _ => cases alike
      | _ => cases stamps
  | date t =>
      cases b with
      | date u => exact measure?_dates (datedA t rfl) (datedB u rfl) display
      | _ => cases alike
  | list items =>
      cases b with
      | list items' =>
          cases kind with
          | number => rfl
          | string => exact congrArg (fun s => some (Measure.text s)) display
          | date => rfl
          | auto => exact congrArg (fun s => some (Measure.text s)) display
      | date _ => cases alike
      | _ => cases stamps
  | object fields =>
      cases b with
      | object fields' =>
          cases kind with
          | number => rfl
          | string => exact congrArg (fun s => some (Measure.text s)) display
          | date => rfl
          | auto => exact congrArg (fun s => some (Measure.text s)) display
      | date _ => cases alike
      | _ => cases stamps

/-- What is canonically equal to a date and is no date is its stamp. -/
theorem eq_stamp {t : Instant} (same : (date t).canonicalEq b = true) (other : b.isDate = false) :
    b = .text t.millisStamp := by
  have stamps := canonicalEq_iff_stamped.1 same
  cases b with
  | text s =>
      cases stamps
      rfl
  | date _ => cases other
  | _ => cases stamps

/-- Of canonically equal values of which one is a date and the other is none, the other is its
stamp. -/
theorem date_beside_stamp (same : a.canonicalEq b = true) (apart : a.isDate ≠ b.isDate) :
    ∃ t, (a = .date t ∧ b = .text t.millisStamp) ∨ (a = .text t.millisStamp ∧ b = .date t) := by
  cases b with
  | date t =>
      have other : a.isDate = false := Bool.eq_false_iff.2 apart
      have same' : (date t).canonicalEq a = true := by
        rw [canonicalEq_iff_toTree] at same ⊢
        exact same.symm
      exact ⟨t, .inr ⟨eq_stamp same' other, rfl⟩⟩
  | _ =>
      cases a with
      | date t => exact ⟨t, .inl ⟨rfl, eq_stamp same rfl⟩⟩
      | _ => exact absurd rfl apart

/-- A date and its stamp have one measure in a comparison of a kind that can read both. -/
theorem measure?_stamp {t : Instant} (plain : t.Plain) (kinds : kind ≠ .auto)
    (readable : ((text t.millisStamp).measure? offset kind).isSome = true) :
    (date t).measure? offset kind = (text t.millisStamp).measure? offset kind := by
  cases kind with
  | number =>
      simp [measure?, isNull, toNumber?, numberOfText?_stamp plain] at readable
  | string => rfl
  | date =>
      simp [measure?, isNull, toDate, offset.ofDateText?_millisStamp plain, millisNumber,
        Instant.millis_truncated]
  | auto => exact absurd rfl kinds

/-- **Canonically equal values have one measure** in every comparison that can read both, but
for a date beside its stamp in a comparison without a kind. -/
theorem measure?_of_canonicalEq (same : a.canonicalEq b = true) (datedA : a.Dated)
    (datedB : b.Dated) (readA : (a.measure? offset kind).isSome = true)
    (readB : (b.measure? offset kind).isSome = true)
    (plain : kind ≠ .auto ∨ a.isDate = b.isDate) :
    a.measure? offset kind = b.measure? offset kind := by
  by_cases alike : a.isDate = b.isDate
  · exact measure?_alike same datedA datedB alike
  have kinds := plain.resolve_right alike
  obtain ⟨t, ⟨rfl, rfl⟩ | ⟨rfl, rfl⟩⟩ := date_beside_stamp same alike
  · exact measure?_stamp (datedA t rfl) kinds readB
  · exact (measure?_stamp (datedB t rfl) kinds readA).symm

/-- A date is a number and its stamp a text in a comparison without a kind. -/
theorem measure?_auto_stamp {t : Instant} (plain : t.Plain) (offset : UtcOffset) :
    (date t).measure? offset .auto = some (.number (millisNumber t)) ∧
      (text t.millisStamp).measure? offset .auto = some (.text t.millisStamp) := by
  refine ⟨rfl, ?_⟩
  simp [measure?, isNull, autoMeasure, numberOfText?_stamp plain]

/-- Values of one measure are compared as the same. -/
theorem compares_of_measure? (readable : (a.measure? offset kind).isSome = true)
    (same : a.measure? offset kind = b.measure? offset kind) (op : Comparison) :
    a.compares offset kind op b = true ↔ op ∈ [Comparison.eq, .ge, .le] := by
  obtain ⟨m, found⟩ := Option.isSome_iff_exists.1 readable
  rw [compares, ← same, found]
  dsimp only
  rw [Measure.order_self, Comparison.accepts_eq]

/-- A comparison without a kind takes a date and its stamp for different values. -/
theorem compares_auto (same : a.canonicalEq b = true) (datedA : a.Dated) (datedB : b.Dated)
    (apart : a.isDate ≠ b.isDate) :
    a.compares offset .auto .eq b = false ∧ a.compares offset .auto .ne b = true := by
  obtain ⟨t, dated⟩ := date_beside_stamp same apart
  have plain : t.Plain := by
    rcases dated with ⟨date, -⟩ | ⟨-, date⟩
    · exact datedA t date
    · exact datedB t date
  have differ := Measure.order_ne_eq (plain_ne_stamp plain (millisNumber t))
  obtain ⟨number, text⟩ := measure?_auto_stamp plain offset
  rcases dated with ⟨rfl, rfl⟩ | ⟨rfl, rfl⟩
  · rw [compares, compares, number, text]
    exact ⟨beq_eq_false_iff_ne.2 differ.1, bne_iff_ne.2 differ.1⟩
  · rw [compares, compares, number, text]
    exact ⟨beq_eq_false_iff_ne.2 differ.2, bne_iff_ne.2 differ.2⟩

end Measures

end Value

/-- **Comparisons do not tell apart what canonical text does not**, but for a date beside its
stamp in a comparison without a kind, which always takes these for different. -/
theorem Condition.compare_same {context : Value} {left right : Operand}
    (same : (left.resolve context).canonicalEq (right.resolve context) = true)
    (datedLeft : (left.resolve context).Dated) (datedRight : (right.resolve context).Dated)
    {offset : UtcOffset} {kind : ValueKind}
    (readLeft : ((left.resolve context).measure? offset kind).isSome = true)
    (readRight : ((right.resolve context).measure? offset kind).isSome = true) :
    (kind ≠ .auto ∨ (left.resolve context).isDate = (right.resolve context).isDate →
        ∀ op, (compare left op right kind).holds offset context = true ↔
          op ∈ [Comparison.eq, .ge, .le]) ∧
      (kind = .auto → (left.resolve context).isDate ≠ (right.resolve context).isDate →
        (compare left .eq right kind).holds offset context = false ∧
          (compare left .ne right kind).holds offset context = true) := by
  constructor
  · intro plain op
    have measure := Value.measure?_of_canonicalEq same datedLeft datedRight readLeft readRight plain
    rw [holds, Value.compares_of_measure? readLeft measure]
  · rintro rfl apart
    rw [holds, holds]
    exact Value.compares_auto same datedLeft datedRight apart

namespace Example

/-- The base date of a change beside the same date as it stands in a record. -/
def dueToday : Value :=
  .object [("base_date", .date .epoch),
    ("after", .object [("due", .text "1970-01-01T00:00:00.000Z")])]

theorem base_dueToday : (Operand.path "base_date").resolve dueToday = .date .epoch := by decide

theorem due_dueToday :
    (Operand.path "after.due").resolve dueToday = .text Instant.epoch.millisStamp := by decide

theorem same_dueToday : ((Operand.path "base_date").resolve dueToday).canonicalEq
    ((Operand.path "after.due").resolve dueToday) = true := by
  rw [base_dueToday, due_dueToday]
  exact Value.canonicalEq_iff_toTree.2 rfl

theorem dated_base : ((Operand.path "base_date").resolve dueToday).Dated := by
  rw [base_dueToday]
  rintro t ⟨⟩
  decide

theorem dated_due : ((Operand.path "after.due").resolve dueToday).Dated := by
  rw [due_dueToday]
  rintro t ⟨⟩

/-- A date and its text are canonically equal and can both be read, and a comparison without a
kind finds them different. -/
theorem base_differs :
    let base := (Operand.path "base_date").resolve dueToday
    let due := (Operand.path "after.due").resolve dueToday
    base.canonicalEq due = true ∧ base.Dated ∧ due.Dated ∧
      (base.measure? .utc .auto).isSome = true ∧ (due.measure? .utc .auto).isSome = true ∧
      (Condition.compare (.path "base_date") .eq (.path "after.due") .auto).holds .utc dueToday =
        false := by
  refine ⟨same_dueToday, dated_base, dated_due, ?_, ?_, ?_⟩
  · rw [base_dueToday]
    decide
  · rw [due_dueToday]
    decide
  · rw [Condition.holds, base_dueToday, due_dueToday]
    decide +kernel

/-- As dates they are the same. -/
theorem base_same :
    let base := (Operand.path "base_date").resolve dueToday
    let due := (Operand.path "after.due").resolve dueToday
    base.canonicalEq due = true ∧ base.Dated ∧ due.Dated ∧
      (base.measure? .utc .date).isSome = true ∧ (due.measure? .utc .date).isSome = true ∧
      (Condition.compare (.path "base_date") .ge (.path "after.due") .date).holds .utc dueToday =
        true := by
  have readBase : (((Operand.path "base_date").resolve dueToday).measure? .utc .date).isSome =
      true := by
    rw [base_dueToday]
    decide
  have readDue : (((Operand.path "after.due").resolve dueToday).measure? .utc .date).isSome =
      true := by
    rw [due_dueToday]
    decide +kernel
  refine ⟨same_dueToday, dated_base, dated_due, readBase, readDue, ?_⟩
  have compared := (Condition.compare_same same_dueToday dated_base dated_due readBase readDue).1
    (.inl (by decide)) .ge
  exact compared.2 (by decide)

end Example
end EventRules
