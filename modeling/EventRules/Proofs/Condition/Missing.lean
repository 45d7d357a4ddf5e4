/-
# EventRules.Proofs.Condition.Missing -- what missing data can make true

A *positive* condition has no negation and never asks that something is not set.  Its value
depends on its leaves in one direction only: when every leaf that holds in one context holds
in another, so does the condition (`Condition.holds_of_leaves`).

A context is *poorer* than another for a condition when each path that the condition mentions
leads in it to the same value or to nothing.  Comparisons and presence do not hold of nothing,
so a poorer context makes none of them true.  Membership is plain equality, in which nothing
equals nothing: a missing value is found among candidates of which one is missing as well.
That is the only way in which a positive condition comes to hold for lack of data
(`Condition.holds_of_poorer`), and it does happen (`Example.missing_found`).
-/
import EventRules.Condition.Holds
namespace EventRules

set_option autoImplicit false

namespace Condition

/-! ## Leaves -/

mutual
/-- The leaves of a condition, in order. -/
def leaves : Condition → List Condition
  | .all children => leavesOf children
  | .any children => leavesOf children
  | .not child => leaves child
  | leaf => [leaf]

/-- The leaves of every condition of a list. -/
def leavesOf : List Condition → List Condition
  | [] => []
  | c :: rest => leaves c ++ leavesOf rest
end

mutual
/-- Whether a condition is built of junctions over `always`, comparisons, memberships and
presence. -/
def isPositive : Condition → Bool
  | .all children => arePositive children
  | .any children => arePositive children
  | .not _ => false
  | .isNotSet _ => false
  | _ => true

/-- Whether every condition of a list is positive. -/
def arePositive : List Condition → Bool
  | [] => true
  | c :: rest => isPositive c && arePositive rest
end

/-- The operands of a leaf. -/
def operands : Condition → List Operand
  | .compare left _ right _ => [left, right]
  | .membership value candidates => value :: candidates
  | .isSet value => [value]
  | .isNotSet value => [value]
  | _ => []

section Leaves

variable {offset : UtcOffset} {context other : Value}

mutual
/-- A positive condition holds wherever its leaves hold that held before. -/
theorem holds_of_leaves : (c : Condition) → c.isPositive = true →
    (∀ leaf ∈ c.leaves, leaf.holds offset context = true → leaf.holds offset other = true) →
    c.holds offset context = true → c.holds offset other = true
  | .all children => allHold_of_leaves children
  | .any children => anyHolds_of_leaves children
  | .not _ => fun positive => nomatch positive
  | .isNotSet _ => fun positive => nomatch positive
  | .always => fun _ keeps => keeps _ List.mem_cons_self
  | .compare .. => fun _ keeps => keeps _ List.mem_cons_self
  | .membership .. => fun _ keeps => keeps _ List.mem_cons_self
  | .isSet _ => fun _ keeps => keeps _ List.mem_cons_self

theorem allHold_of_leaves : (children : List Condition) → arePositive children = true →
    (∀ leaf ∈ leavesOf children,
      leaf.holds offset context = true → leaf.holds offset other = true) →
    allHold offset context children = true → allHold offset other children = true
  | [] => fun _ _ _ => rfl
  | c :: rest => by
      intro positive keeps held
      obtain ⟨first, others⟩ := Bool.and_eq_true_iff.1 positive
      obtain ⟨heldFirst, heldOthers⟩ := Bool.and_eq_true_iff.1 held
      obtain ⟨keepsFirst, keepsOthers⟩ := List.forall_mem_append.1 keeps
      rw [allHold, holds_of_leaves c first keepsFirst heldFirst,
        allHold_of_leaves rest others keepsOthers heldOthers]
      rfl

theorem anyHolds_of_leaves : (children : List Condition) → arePositive children = true →
    (∀ leaf ∈ leavesOf children,
      leaf.holds offset context = true → leaf.holds offset other = true) →
    anyHolds offset context children = true → anyHolds offset other children = true
  | [] => fun _ _ held => nomatch held
  | c :: rest => by
      intro positive keeps held
      obtain ⟨first, others⟩ := Bool.and_eq_true_iff.1 positive
      obtain ⟨keepsFirst, keepsOthers⟩ := List.forall_mem_append.1 keeps
      rw [anyHolds, Bool.or_eq_true]
      rcases Bool.or_eq_true_iff.1 held with held | held
      · exact .inl (holds_of_leaves c first keepsFirst held)
      · exact .inr (anyHolds_of_leaves rest others keepsOthers held)
end

/-- A leaf that asks for something: it is none of the negations. -/
inductive Asks : Condition → Prop
  | always : Asks .always
  | compare (left : Operand) (op : Comparison) (right : Operand) (kind : ValueKind) :
      Asks (.compare left op right kind)
  | membership (value : Operand) (candidates : List Operand) : Asks (.membership value candidates)
  | isSet (value : Operand) : Asks (.isSet value)

mutual
/-- The leaves of a positive condition all ask for something. -/
theorem asks_of_mem_leaves : (c : Condition) → c.isPositive = true → ∀ leaf ∈ c.leaves, Asks leaf
  | .all children => asks_of_mem_leavesOf children
  | .any children => asks_of_mem_leavesOf children
  | .not _ => fun positive => nomatch positive
  | .isNotSet _ => fun positive => nomatch positive
  | .always => fun _ => List.forall_mem_singleton.2 .always
  | .compare left op right kind => fun _ => List.forall_mem_singleton.2 (.compare left op right kind)
  | .membership value candidates => fun _ => List.forall_mem_singleton.2 (.membership value candidates)
  | .isSet value => fun _ => List.forall_mem_singleton.2 (.isSet value)

theorem asks_of_mem_leavesOf : (children : List Condition) → arePositive children = true →
    ∀ leaf ∈ leavesOf children, Asks leaf
  | [] => fun _ _ member => nomatch member
  | c :: rest => by
      intro positive
      obtain ⟨first, others⟩ := Bool.and_eq_true_iff.1 positive
      rw [leavesOf, List.forall_mem_append]
      exact ⟨asks_of_mem_leaves c first, asks_of_mem_leavesOf rest others⟩
end

end Leaves

/-! ## Operands that lead to nothing -/

/-- A context is poorer than another for a condition: each operand of its leaves means in it
what it means in the other, or nothing.  A constant means the same everywhere, so this is
about the paths that the condition mentions. -/
def Poorer (c : Condition) (poor rich : Value) : Prop :=
  ∀ leaf ∈ c.leaves, ∀ operand ∈ leaf.operands,
    operand.resolve poor = operand.resolve rich ∨ operand.resolve poor = .null

/-- A membership finds nothing among nothing: its value and one of its candidates are both
missing. -/
def FindsNothing (context : Value) (value : Operand) (candidates : List Operand) : Prop :=
  value.resolve context = .null ∧ ∃ candidate ∈ candidates, candidate.resolve context = .null

section Missing

variable {offset : UtcOffset} {poor rich : Value}

/-- A comparison with nothing on either side does not hold. -/
theorem compare_missing {left right : Operand} {context : Value}
    (missing : left.resolve context = .null ∨ right.resolve context = .null) (op : Comparison)
    (kind : ValueKind) : (Condition.compare left op right kind).holds offset context = false := by
  have unread : Value.null.measure? offset kind = none := rfl
  rw [holds, Value.compares]
  rcases missing with nothing | nothing
  · rw [nothing, unread]
  · rw [nothing, unread]
    cases (left.resolve context).measure? offset kind <;> rfl

/-- A membership holds when some candidate is the value. -/
theorem membership_holds {value : Operand} {candidates : List Operand} {context : Value} :
    (Condition.membership value candidates).holds offset context = true ↔
      ∃ candidate ∈ candidates, candidate.resolve context = value.resolve context := by
  rw [holds, List.any_eq_true]
  simp only [decide_eq_true_eq]

/-- A leaf that asks for something and holds in the poorer context holds in the richer one,
unless it is a membership that finds nothing among nothing. -/
theorem leaf_of_poorer {c leaf : Condition} (poorer : c.Poorer poor rich)
    (member : leaf ∈ c.leaves) (asks : Asks leaf)
    (finds : ∀ value candidates, leaf = .membership value candidates →
      ¬ FindsNothing poor value candidates)
    (held : leaf.holds offset poor = true) : leaf.holds offset rich = true := by
  have kept : ∀ operand ∈ leaf.operands, operand.resolve poor ≠ .null →
      operand.resolve poor = operand.resolve rich := fun operand mine something =>
    (poorer leaf member operand mine).resolve_right something
  cases asks with
  | always => rfl
  | compare left op right kind =>
      have something : ¬ (left.resolve poor = .null ∨ right.resolve poor = .null) := by
        intro missing
        rw [compare_missing missing] at held
        cases held
      have sameLeft := kept left List.mem_cons_self fun nothing => something (.inl nothing)
      have sameRight := kept right (List.mem_cons_of_mem _ List.mem_cons_self)
        fun nothing => something (.inr nothing)
      rw [holds, ← sameLeft, ← sameRight]
      exact held
  | membership value candidates =>
      obtain ⟨candidate, among, found⟩ := membership_holds.1 held
      -- what was found is there, else the value and this candidate are both missing
      have something : candidate.resolve poor ≠ .null := fun nothing =>
        finds value candidates rfl ⟨found ▸ nothing, candidate, among, nothing⟩
      have sameValue := kept value List.mem_cons_self fun nothing => something (found ▸ nothing)
      have sameCandidate := kept candidate (List.mem_cons_of_mem _ among) something
      exact membership_holds.2 ⟨candidate, among, by rw [← sameCandidate, ← sameValue, found]⟩
  | isSet value =>
      have something : value.resolve poor ≠ .null := by
        intro nothing
        rw [holds, nothing] at held
        cases held
      rw [holds, ← kept value List.mem_cons_self something]
      exact held

end Missing

/-- **What missing data can make true.**  A positive condition that holds in a poorer context
holds in the richer one too, unless one of its memberships finds nothing among nothing.  Of
nothing, no comparison holds and nothing is set, and a membership holds exactly when it finds
nothing among its candidates. -/
theorem holds_of_poorer {poor rich : Value} {c : Condition} (positive : c.isPositive = true)
    (poorer : c.Poorer poor rich) (offset : UtcOffset) :
    (c.holds offset poor = true →
      c.holds offset rich = true ∨
        ∃ value candidates, .membership value candidates ∈ c.leaves ∧
          FindsNothing poor value candidates) ∧
      (∀ left op right kind,
        left.resolve poor = .null ∨ right.resolve poor = .null →
          (Condition.compare left op right kind).holds offset poor = false) ∧
      (∀ value, value.resolve poor = .null → (isSet value).holds offset poor = false) ∧
      ∀ value candidates, value.resolve poor = .null →
        ((membership value candidates).holds offset poor = true ↔
          FindsNothing poor value candidates) := by
  refine ⟨?_, fun _ op _ kind missing => compare_missing missing op kind, ?_, ?_⟩
  · intro held
    by_cases exceptional : ∃ value candidates, .membership value candidates ∈ c.leaves ∧
        FindsNothing poor value candidates
    · exact .inr exceptional
    · refine .inl (holds_of_leaves c positive (fun leaf member => ?_) held)
      refine leaf_of_poorer poorer member (asks_of_mem_leaves c positive leaf member) ?_
      rintro value candidates rfl finds
      exact exceptional ⟨value, candidates, member, finds⟩
  · intro value nothing
    rw [holds, nothing]
    rfl
  · intro value candidates nothing
    rw [membership_holds, nothing]
    exact ⟨fun found => ⟨nothing, found⟩, And.right⟩

end Condition

namespace Example

/-- The code after a change is the one before it, or the size is above ten. -/
def sameCodeOrLarge : Condition :=
  .any [.membership (.path "after.code") [.path "before.code"],
    .all [.isSet (.path "after.size"),
      .compare (.path "after.size") .gt (.constant (.text "10")) .string]]

/-- A change of a code, with a size. -/
def recoded : Value :=
  .object [("after", .object [("code", .text "a"), ("size", .text "11")]),
    ("before", .object [("code", .text "b")])]

/-- The same change where nothing is known of the code before. -/
def firstCoded : Value :=
  .object [("after", .object [("code", .text "a"), ("size", .text "11")])]

/-- Two missing codes are the same code: nothing is found among nothing, which neither of the
codes that were there would have made true. -/
theorem missing_found :
    let sameCode := Condition.membership (.path "after.code") [.path "before.code"]
    sameCode.isPositive = true ∧ sameCode.Poorer (.object []) recoded ∧
      (Operand.path "after.code").resolve (.object []) = .null ∧
      sameCode.holds .utc (.object []) = true ∧ sameCode.holds .utc recoded = false := by
  unfold Condition.Poorer
  decide

/-- Without the code before, the condition holds for its size, and so it does with it. -/
theorem recoded_holds :
    sameCodeOrLarge.isPositive = true ∧ sameCodeOrLarge.Poorer firstCoded recoded ∧
      sameCodeOrLarge.holds .utc firstCoded = true ∧ sameCodeOrLarge.holds .utc recoded = true := by
  have poorer : sameCodeOrLarge.Poorer firstCoded recoded := by
    unfold Condition.Poorer
    decide
  have held : sameCodeOrLarge.holds .utc firstCoded = true := by decide
  refine ⟨rfl, poorer, held, ?_⟩
  refine ((Condition.holds_of_poorer rfl poorer .utc).1 held).resolve_right ?_
  rintro ⟨value, candidates, member, nothing, -⟩
  cases List.mem_cons.1 member with
  | inl same =>
    cases same
    cases nothing
  | inr other => simp [Condition.leavesOf, Condition.leaves] at other

end Example
end EventRules
