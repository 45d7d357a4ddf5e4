/-
# EventRules.Template -- titles with slots

A template is text with slots.  A slot starts at two opening braces and ends at
the first two closing braces after them; between them stands a path.  Rendering
copies the text and puts the text form of the value of its path into each slot.
Opening braces that are never closed are text, and so is all that follows them.

`Template.pieces` is the decomposition; it depends on the template alone, so a
value that is put in is never read for slots again.

* `breakAt_length`: what follows a mark is shorter, which is why it ends.
-/
import EventRules.Value.Path
import EventRules.Value.Canonical
namespace EventRules.Template

set_option autoImplicit false

/-- A part of a template. -/
inductive Piece where
  | literal (chars : List Char)
  /-- The text between the braces. -/
  | slot (path : List Char)
  deriving DecidableEq, Repr

/-- What stands before and after the first place where `mark` stands twice. -/
def breakAt (mark : Char) : List Char → Option (List Char × List Char)
  | [] => none
  | [_] => none
  | a :: b :: rest =>
      if a = mark ∧ b = mark then some ([], rest)
      else (breakAt mark (b :: rest)).map fun (before, after) => (a :: before, after)

theorem breakAt_length {mark : Char} {chars before after : List Char}
    (found : breakAt mark chars = some (before, after)) :
    before.length + after.length + 2 = chars.length := by
  fun_induction breakAt mark chars generalizing before after with
  | case1 => cases found
  | case2 => cases found
  | case3 a b rest _ =>
      cases found
      simp
  | case4 a b rest _ ih =>
      obtain ⟨⟨inner, rest'⟩, here, same⟩ := Option.map_eq_some_iff.1 found
      cases same
      have := ih here
      simp only [List.length_cons] at this ⊢
      omega

/-- The pieces of a template. -/
def pieces (chars : List Char) : List Piece :=
  match opened : breakAt '\x7b' chars with
  | none => [.literal chars]
  | some (text, inside) =>
      match closed : breakAt '\x7d' inside with
      | none => [.literal chars]
      | some (path, rest) =>
          have := breakAt_length opened
          have := breakAt_length closed
          .literal text :: .slot path :: pieces rest
termination_by chars.length
decreasing_by omega

/-- The text of a piece in a context. -/
def Piece.render (context : Value) : Piece → List Char
  | .literal chars => chars
  | .slot path => (context.lookup (String.ofList path)).display.toList

/-- The text of a template in a context. -/
def render (template : String) (context : Value) : String :=
  String.ofList ((pieces template.toList).flatMap (Piece.render context))

end EventRules.Template
