/-
# EventRules.Proofs.Condition.Order -- the six comparisons tell one order

The operators of a comparison are six questions about one `Ordering`, and the ordering of two
measures is turned round when they change places (`Measure.order_swap`).  So the operators agree
with one another in both directions (`Comparison.Coherent`), whatever is compared.

A comparison of a kind other than `auto` puts everything that it can read in one place of one
order (`Comparison.Follows`): a number by its size, a text by its characters, a date by its
milliseconds.  That makes a total preorder of what can be read (`Comparison.Ranks`).  Without a
kind there is no such place: a number stands among numbers by its size and among other texts by
its digits.

Milliseconds are compared as numbers, which loses nothing, since no instant of the calendar is
2^53 milliseconds away from 1970 (`Instant.natAbs_millis_lt`).
-/
import EventRules.Condition.Holds
import EventRules.Proofs.Calendar.Millis
import EventRules.Proofs.Number.Double
import Mathlib.Logic.ExistsUnique
namespace EventRules

set_option autoImplicit false

open Std (OrientedCmp TransCmp)

namespace Comparison

/-! ## Operators that agree -/

/-- The operators answer as one: `forth` are the answers about two operands, and `back` those
about the same operands in the other order. -/
structure Coherent (forth back : Comparison → Bool) : Prop where
  one : ∃! op, op ∈ [lt, eq, gt] ∧ forth op = true
  ne : forth ne = !forth eq
  ge : forth ge = !forth lt
  le : forth le = !forth gt
  back_lt : back lt = forth gt
  back_gt : back gt = forth lt
  back_eq : back eq = forth eq

/-- The operators make a total preorder of what can be read: `eq` is reflexive and transitive,
`lt` does not tell apart what `eq` does not, and `le` is transitive and total. -/
structure Ranks {α : Type} (readable : α → Prop) (holds : α → Comparison → α → Bool) : Prop where
  eq_refl : ∀ a, readable a → holds a eq a = true
  eq_trans : ∀ a b c, holds a eq b = true → holds b eq c = true → holds a eq c = true
  lt_trans : ∀ a b c, holds a lt b = true → holds b lt c = true → holds a lt c = true
  lt_of_lt_of_eq : ∀ a b c, holds a lt b = true → holds b eq c = true → holds a lt c = true
  lt_of_eq_of_lt : ∀ a b c, holds a eq b = true → holds b lt c = true → holds a lt c = true
  le_trans : ∀ a b c, holds a le b = true → holds b le c = true → holds a le c = true
  le_total : ∀ a b, readable a → readable b → holds a le b = true ∨ holds b le a = true

/-- The operators ask for the order of places: what can be read has a place, and an operator
holds when it accepts the order of the two places. -/
structure Follows {α β : Type} (readable : α → Prop) (holds : α → Comparison → α → Bool)
    (place : α → Option β) (cmp : β → β → Ordering) : Prop where
  readable_iff : ∀ a, readable a ↔ ∃ x, place a = some x
  readable_of_holds : ∀ a op b, holds a op b = true → readable a ∧ readable b
  holds_eq : ∀ a b x y, place a = some x → place b = some y →
    ∀ op, holds a op b = op.accepts (cmp x y)

/-- Six questions about an ordering, and about the same turned round. -/
theorem coherent_accepts (o : Ordering) :
    Coherent (fun op => op.accepts o) (fun op => op.accepts o.swap) := by
  have one : ∃! op, op ∈ [lt, eq, gt] ∧ op.accepts o = true := by
    cases o with
    | lt => exact ⟨lt, by decide, by rintro (_ | _) <;> decide⟩
    | eq => exact ⟨eq, by decide, by rintro (_ | _) <;> decide⟩
    | gt => exact ⟨gt, by decide, by rintro (_ | _) <;> decide⟩
  cases o <;> exact ⟨one, rfl, rfl, rfl, rfl, rfl, rfl⟩

theorem accepts_eq_iff {o : Ordering} : eq.accepts o = true ↔ o = .eq := by
  cases o <;> decide

theorem accepts_lt_iff {o : Ordering} : lt.accepts o = true ↔ o = .lt := by
  cases o <;> decide

theorem accepts_le_iff {o : Ordering} : le.accepts o = true ↔ o.isLE = true := by
  cases o <;> decide

section Places

variable {α β : Type} {readable : α → Prop} {holds : α → Comparison → α → Bool}
  {place : α → Option β} {cmp : β → β → Ordering}

/-- Where an operator holds, both sides have a place. -/
theorem Follows.placed (follows : Follows readable holds place cmp) {a b : α} {op : Comparison}
    (held : holds a op b = true) :
    ∃ x y, place a = some x ∧ place b = some y ∧ op.accepts (cmp x y) = true := by
  obtain ⟨readA, readB⟩ := follows.readable_of_holds a op b held
  obtain ⟨x, placeA⟩ := (follows.readable_iff a).1 readA
  obtain ⟨y, placeB⟩ := (follows.readable_iff b).1 readB
  rw [follows.holds_eq a b x y placeA placeB] at held
  exact ⟨x, y, placeA, placeB, held⟩

/-- Two operators in a row are two about three places. -/
theorem Follows.compose (follows : Follows readable holds place cmp)
    {first second whole : Comparison}
    (trans : ∀ x y z, first.accepts (cmp x y) = true → second.accepts (cmp y z) = true →
      whole.accepts (cmp x z) = true)
    (a b c : α) (ab : holds a first b = true) (bc : holds b second c = true) :
    holds a whole c = true := by
  obtain ⟨x, y, placeA, placeB, accepts⟩ := follows.placed ab
  obtain ⟨y', z, placeB', placeC, accepts'⟩ := follows.placed bc
  rw [placeB] at placeB'
  cases placeB'
  rw [follows.holds_eq a c x z placeA placeC]
  exact trans x y z accepts accepts'

/-- What is put in places of one order is ranked. -/
theorem Follows.ranks [TransCmp cmp] (follows : Follows readable holds place cmp) :
    Ranks readable holds where
  eq_refl a read := by
    obtain ⟨x, placed⟩ := (follows.readable_iff a).1 read
    rw [follows.holds_eq a a x x placed placed, accepts_eq_iff]
    exact Std.ReflCmp.compare_self
  eq_trans := follows.compose fun x y z => by
    simp only [accepts_eq_iff]
    exact TransCmp.eq_trans
  lt_trans := follows.compose fun x y z => by
    simp only [accepts_lt_iff]
    exact TransCmp.lt_trans
  lt_of_lt_of_eq := follows.compose fun x y z => by
    simp only [accepts_lt_iff, accepts_eq_iff]
    exact TransCmp.lt_of_lt_of_eq
  lt_of_eq_of_lt := follows.compose fun x y z => by
    simp only [accepts_lt_iff, accepts_eq_iff]
    exact TransCmp.lt_of_eq_of_lt
  le_trans := follows.compose fun x y z => by
    simp only [accepts_le_iff]
    exact TransCmp.isLE_trans
  le_total a b readA readB := by
    obtain ⟨x, placeA⟩ := (follows.readable_iff a).1 readA
    obtain ⟨y, placeB⟩ := (follows.readable_iff b).1 readB
    rw [follows.holds_eq a b x y placeA placeB, follows.holds_eq b a y x placeB placeA,
      @OrientedCmp.eq_swap β cmp _ y x]
    cases cmp x y <;> decide

end Places
end Comparison

/-! ## Places of values -/

/-- Measures that change places are in the order turned round. -/
theorem Measure.order_swap (m n : Measure) : n.order m = (m.order n).swap := by
  have texts : compare n.display m.display = (compare m.display n.display).swap :=
    OrientedCmp.eq_swap
  cases m with
  | number x =>
      cases n with
      | number y =>
          have units : compare y.units x.units = (compare x.units y.units).swap :=
            OrientedCmp.eq_swap
          exact units
      | text s => exact texts
  | text s => cases n <;> exact texts

namespace Value

/-- Dates are compared by their milliseconds. -/
theorem order_millisNumber (t u : Instant) :
    (Measure.number (millisNumber t)).order (.number (millisNumber u)) =
      compareOn Instant.millis t u := by
  have positive : 0 < (Double.unitsPerOne : Int) := Int.natCast_pos.2 Double.unitsPerOne_pos
  rw [Measure.order, millisNumber, millisNumber, Double.units_ofInt t.natAbs_millis_lt,
    Double.units_ofInt u.natAbs_millis_lt, compareOn, Int.compare_eq_ite_lt, Int.compare_eq_ite_lt]
  simp only [Int.mul_lt_mul_right positive]

variable {offset : UtcOffset}

theorem compares_of_measures {kind : ValueKind} {a b : Value} {m n : Measure}
    (measureA : a.measure? offset kind = some m) (measureB : b.measure? offset kind = some n)
    (op : Comparison) : a.compares offset kind op b = op.accepts (m.order n) := by
  rw [compares, measureA, measureB]

/-- What holds has a measure on both sides. -/
theorem measured_of_compares {kind : ValueKind} {a b : Value} {op : Comparison}
    (held : a.compares offset kind op b = true) :
    (a.measure? offset kind).isSome = true ∧ (b.measure? offset kind).isSome = true := by
  rw [compares] at held
  split at held
  · rename_i measureA measureB
    rw [measureA, measureB]
    exact ⟨rfl, rfl⟩
  · cases held

/-- A kind follows an order of places when it measures a value by its place. -/
theorem follows_of_place {kind : ValueKind} {β : Type} {place : Value → Option β}
    {cmp : β → β → Ordering} (measure : β → Measure)
    (measured : ∀ v, v.measure? offset kind = (place v).map measure)
    (ordered : ∀ x y, (measure x).order (measure y) = cmp x y) :
    Comparison.Follows (fun v => (v.measure? offset kind).isSome = true)
      (fun a op b => a.compares offset kind op b) place cmp where
  readable_iff v := by
    rw [measured, Option.isSome_map, Option.isSome_iff_exists]
  readable_of_holds _ _ _ := measured_of_compares
  holds_eq a b x y placeA placeB op := by
    rw [← ordered x y]
    apply compares_of_measures
    · rw [measured, placeA, Option.map_some]
    · rw [measured, placeB, Option.map_some]

/-- Numbers stand at their size. -/
theorem follows_number :
    Comparison.Follows (fun v => (v.measure? offset .number).isSome = true)
      (fun a op b => a.compares offset .number op b) toNumber? (compareOn Double.units) :=
  follows_of_place .number (fun v => by cases v <;> rfl) fun _ _ => rfl

/-- The text that a value is compared by; nothing has none. -/
def comparedText? (v : Value) : Option String := if v.isNull then none else some v.display

/-- Texts stand in the order of their characters. -/
theorem follows_string :
    Comparison.Follows (fun v => (v.measure? offset .string).isSome = true)
      (fun a op b => a.compares offset .string op b) comparedText? compare :=
  follows_of_place .text (fun v => by cases v <;> rfl) fun _ _ => rfl

/-- Dates stand at their milliseconds. -/
theorem follows_date :
    Comparison.Follows (fun v => (v.measure? offset .date).isSome = true)
      (fun a op b => a.compares offset .date op b) (toDate offset) (compareOn Instant.millis) :=
  follows_of_place (fun t => .number (millisNumber t)) (fun v => by cases v <;> rfl)
    order_millisNumber

/-- Every kind but `auto` ranks what it can read. -/
theorem ranks_of_ne_auto {kind : ValueKind} (kinds : kind ≠ .auto) :
    Comparison.Ranks (fun v : Value => (v.measure? offset kind).isSome = true)
      fun a op b => a.compares offset kind op b := by
  cases kind with
  | number => exact follows_number.ranks
  | string => exact follows_string.ranks
  | date => exact follows_date.ranks
  | auto => exact absurd rfl kinds

/-- What both sides can be read for is compared coherently. -/
theorem coherent_of_measures {kind : ValueKind} {a b : Value} {m n : Measure}
    (measureA : a.measure? offset kind = some m) (measureB : b.measure? offset kind = some n) :
    Comparison.Coherent (fun op => a.compares offset kind op b)
      fun op => b.compares offset kind op a := by
  have forth : (fun op => a.compares offset kind op b) = fun op => op.accepts (m.order n) :=
    funext (compares_of_measures measureA measureB)
  have back : (fun op => b.compares offset kind op a) = fun op => op.accepts (m.order n).swap := by
    rw [← Measure.order_swap]
    exact funext (compares_of_measures measureB measureA)
  rw [forth, back]
  exact Comparison.coherent_accepts _

/-- **The six comparisons tell one order.**  A comparison in a condition compares what its
operands resolve to.  Whatever the kind, two values that cannot both be read satisfy no operator,
and of any others exactly one of `lt`, `eq` and `gt` holds, the other three are the negations of
these, and changing places exchanges `lt` and `gt`.  Every kind but `auto` ranks all that it can
read in a total preorder, which for dates is the order of the milliseconds of the instants, all
of them below 2^53. -/
theorem compares_coherent (offset : UtcOffset) (kind : ValueKind) :
    let readable := fun v : Value => (v.measure? offset kind).isSome = true
    let holds := fun (a : Value) op (b : Value) => a.compares offset kind op b
    (∀ context left op right, (Condition.compare left op right kind).holds offset context =
        holds (left.resolve context) op (right.resolve context)) ∧
      (∀ a b : Value,
        (¬ (readable a ∧ readable b) ∧ ∀ op, holds a op b = false) ∨
          (readable a ∧ readable b) ∧ Comparison.Coherent (holds a · b) (holds b · a)) ∧
      (kind ≠ .auto → Comparison.Ranks readable holds) ∧
      (kind = .date →
        Comparison.Follows readable holds (toDate offset) (compareOn Instant.millis)) ∧
      ∀ t : Instant, t.millis.natAbs < Nat.pow 2 53 := by
  intro readable holds
  refine ⟨fun _ _ _ _ => by rw [Condition.holds], ?_, ranks_of_ne_auto, ?_,
    Instant.natAbs_millis_lt⟩
  · intro a b
    by_cases both : readable a ∧ readable b
    · obtain ⟨m, measureA⟩ := Option.isSome_iff_exists.1 both.1
      obtain ⟨n, measureB⟩ := Option.isSome_iff_exists.1 both.2
      exact .inr ⟨both, coherent_of_measures measureA measureB⟩
    · refine .inl ⟨both, fun op => Bool.eq_false_iff.2 fun held => both ?_⟩
      exact measured_of_compares held
  · rintro rfl
    exact follows_date

end Value

namespace Example

/-- A day, noon of that day and the end of the calendar are in this order as dates, however they
are written. -/
theorem noon_between :
    let day := Value.text "1970-01-01"
    let noon := Value.text "1970-01-01T12:00"
    let last := Value.date .last
    ValueKind.date ≠ .auto ∧ day.toDate .utc = some .epoch ∧
      day.compares .utc .date .lt noon = true ∧ noon.compares .utc .date .lt last = true ∧
      day.compares .utc .date .lt last = true ∧ last.compares .utc .date .gt day = true := by
  intro day noon last
  obtain ⟨-, coherent, ranks, follows, -⟩ := Value.compares_coherent .utc .date
  have onDay : day.toDate .utc = some .epoch := by decide +kernel
  have atNoon : noon.toDate .utc = some ⟨43200, 0, by decide, by decide⟩ := by decide +kernel
  have early : day.compares .utc .date .lt noon = true := by
    rw [(follows rfl).holds_eq day noon _ _ onDay atNoon]
    decide
  have late : noon.compares .utc .date .lt last = true := by
    rw [(follows rfl).holds_eq noon last _ _ atNoon rfl]
    decide
  have whole := (ranks (by decide)).lt_trans day noon last early late
  refine ⟨by decide, onDay, early, late, whole, ?_⟩
  rcases coherent day last with ⟨-, never⟩ | ⟨-, agree⟩
  · exact absurd whole (Bool.eq_false_iff.1 (never .lt))
  · exact agree.back_gt.trans whole

end Example
end EventRules
