/-
# EventRules.Proofs.Rule.Mentions -- what a rule reads of a context

A condition reads a context at the paths that its leaves compare, look up among candidates or
ask for; a template reads it at the paths of its slots.  Contexts that lead to the same values
there are the same to a condition (`Condition.holds_congr`) and to a template
(`Template.render_congr`), whatever else they hold.

A rule mentions the paths of its condition, of its title and of its description
(`RuleSpec.paths`).
-/
import EventRules.Proofs.Condition.Missing
import EventRules.Proofs.Template
import EventRules.Rule.Basic
import Mathlib.Data.List.Basic
namespace EventRules

set_option autoImplicit false

/-- Two contexts lead to the same value at each of some paths. -/
def Value.AgreeAt (paths : List String) (context other : Value) : Prop :=
  ∀ path ∈ paths, context.lookup path = other.lookup path

theorem Value.AgreeAt.mono {paths fewer : List String} {context other : Value}
    (agree : Value.AgreeAt paths context other) (among : fewer ⊆ paths) :
    Value.AgreeAt fewer context other :=
  fun path member => agree path (among member)

/-! ## Conditions -/

/-- The path of an operand; a constant has none. -/
def Operand.path? : Operand → Option String
  | .path p => some p
  | .constant _ => none

theorem Operand.resolve_congr {context other : Value} (operand : Operand)
    (agree : ∀ p, operand.path? = some p → context.lookup p = other.lookup p) :
    operand.resolve context = operand.resolve other := by
  cases operand with
  | path p => exact agree p rfl
  | constant value => rfl

namespace Condition

/-- The paths that occur in a condition. -/
def paths (c : Condition) : List String :=
  c.leaves.flatMap fun leaf => leaf.operands.filterMap Operand.path?

section Agreeing

variable {offset : UtcOffset} {context other : Value}

/-- Two contexts give the same value to each operand of some leaves. -/
def ResolveAlike (leaves : List Condition) (context other : Value) : Prop :=
  ∀ leaf ∈ leaves, ∀ operand ∈ leaf.operands, operand.resolve context = operand.resolve other

mutual
/-- A condition sees of a context only what the operands of its leaves mean there. -/
theorem holds_of_resolveAlike : (c : Condition) → ResolveAlike c.leaves context other →
    c.holds offset context = c.holds offset other
  | .all children => allHold_of_resolveAlike children
  | .any children => anyHolds_of_resolveAlike children
  | .not child => fun alike => congrArg Bool.not (holds_of_resolveAlike child alike)
  | .always => fun _ => rfl
  | .compare left op right kind => by
      intro alike
      have here := List.forall_mem_singleton.1 alike
      rw [holds, holds, here left List.mem_cons_self,
        here right (List.mem_cons_of_mem _ List.mem_cons_self)]
  | .membership value candidates => by
      intro alike
      have here := List.forall_mem_singleton.1 alike
      have candidate : ∀ c ∈ candidates, c.resolve context = c.resolve other :=
        fun c member => here c (List.mem_cons_of_mem _ member)
      rw [Bool.eq_iff_iff, membership_holds, membership_holds, here value List.mem_cons_self]
      exact exists_congr fun c => and_congr_right fun member => by rw [candidate c member]
  | .isSet value => by
      intro alike
      rw [holds, holds, List.forall_mem_singleton.1 alike value List.mem_cons_self]
  | .isNotSet value => by
      intro alike
      rw [holds, holds, List.forall_mem_singleton.1 alike value List.mem_cons_self]

theorem allHold_of_resolveAlike : (children : List Condition) →
    ResolveAlike (leavesOf children) context other →
    allHold offset context children = allHold offset other children
  | [] => fun _ => rfl
  | c :: rest => by
      intro alike
      obtain ⟨first, others⟩ := List.forall_mem_append.1 alike
      rw [allHold, allHold, holds_of_resolveAlike c first, allHold_of_resolveAlike rest others]

theorem anyHolds_of_resolveAlike : (children : List Condition) →
    ResolveAlike (leavesOf children) context other →
    anyHolds offset context children = anyHolds offset other children
  | [] => fun _ => rfl
  | c :: rest => by
      intro alike
      obtain ⟨first, others⟩ := List.forall_mem_append.1 alike
      rw [anyHolds, anyHolds, holds_of_resolveAlike c first, anyHolds_of_resolveAlike rest others]
end

/-- A condition reads a context at its paths only. -/
theorem holds_congr (c : Condition) (agree : Value.AgreeAt c.paths context other) :
    c.holds offset context = c.holds offset other := by
  apply holds_of_resolveAlike
  intro leaf member operand mine
  apply operand.resolve_congr
  intro p isPath
  exact agree p (List.mem_flatMap.2 ⟨leaf, member, List.mem_filterMap.2 ⟨operand, mine, isPath⟩⟩)

end Agreeing

end Condition

/-! ## Templates -/

namespace Template

open Text

/-- The path of a slot, blanks around it dropped; a literal has none. -/
def Piece.path? : Piece → Option String
  | .literal _ => none
  | .slot path => some (trim (String.ofList path))

/-- The paths that occur in a template. -/
def paths (template : String) : List String := (pieces template.toList).filterMap Piece.path?

/-- A template reads a context at the paths of its slots only. -/
theorem render_congr {context other : Value} (template : String)
    (agree : Value.AgreeAt (paths template) context other) :
    render template context = render template other := by
  refine congrArg String.ofList (List.flatMap_congr fun piece member => ?_)
  cases piece with
  | literal chars => rfl
  | slot path =>
      have same := agree (trim (String.ofList path)) (List.mem_filterMap.2 ⟨_, member, rfl⟩)
      rw [lookup_trim, lookup_trim] at same
      rw [Piece.render, Piece.render, same]

end Template

/-! ## Rules -/

namespace RuleSpec

/-- The paths that occur in the condition, in the title and in the description of a rule. -/
def paths (spec : RuleSpec) : List String :=
  (spec.condition.map Condition.paths).getD [] ++ Template.paths spec.title ++
    (spec.description.map Template.paths).getD []

end RuleSpec
end EventRules
