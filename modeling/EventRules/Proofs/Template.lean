/-
# EventRules.Proofs.Template -- the one way to read a template

A mark is a character that stands twice.  `Template.FirstAt` says where the first mark of a text
is, and there is no more than one such place (`FirstAt.unique`).  A template reads as literals
and slots when each slot opens at the first opening mark of what remains and closes at the first
closing mark after it, and what is left at the end has no opening mark with a closing one behind
it (`Template.Reads`).

Every template reads so in one way (`Template.Reads.unique`, `Template.reads_pieces`), which no
context has a say in: rendering puts values between the literals and looks at nothing twice
(`Template.render_faithful`).
-/
import EventRules.Template
import EventRules.Proofs.Text.Blank
namespace EventRules

set_option autoImplicit false

namespace Template

open Text

/-! ## The first mark -/

/-- The first place where `mark` stands twice is between `before` and `after`. -/
structure FirstAt (mark : Char) (chars before after : List Char) : Prop where
  split : chars = before ++ mark :: mark :: after
  first : ∀ before' after', chars = before' ++ mark :: mark :: after' →
    before.length ≤ before'.length

theorem FirstAt.unique {mark : Char} {chars before after before' after' : List Char}
    (one : FirstAt mark chars before after) (other : FirstAt mark chars before' after') :
    before = before' ∧ after = after' := by
  have length : before.length = before'.length :=
    Nat.le_antisymm (one.first _ _ other.split) (other.first _ _ one.split)
  obtain ⟨same, rest⟩ := List.append_inj (one.split.symm.trans other.split) length
  cases rest
  exact ⟨same, rfl⟩

theorem firstAt_of_breakAt {mark : Char} {chars before after : List Char}
    (found : breakAt mark chars = some (before, after)) : FirstAt mark chars before after := by
  fun_induction breakAt mark chars generalizing before after with
  | case1 => cases found
  | case2 => cases found
  | case3 a b rest here =>
      cases found
      obtain ⟨rfl, rfl⟩ := here
      exact ⟨rfl, fun _ _ _ => Nat.zero_le _⟩
  | case4 a b rest elsewhere ih =>
      obtain ⟨⟨inner, tail⟩, later, same⟩ := Option.map_eq_some_iff.1 found
      cases same
      obtain ⟨split, first⟩ := ih later
      refine ⟨by rw [split, List.cons_append], ?_⟩
      intro before' after' split'
      cases before' with
      | nil =>
          cases split'
          exact absurd ⟨rfl, rfl⟩ elsewhere
      | cons c before' => exact Nat.succ_le_succ (first before' after' (List.cons.inj split').2)

theorem unmarked_of_breakAt {mark : Char} {chars : List Char}
    (absent : breakAt mark chars = none) (before after : List Char) :
    chars ≠ before ++ mark :: mark :: after := by
  fun_induction breakAt mark chars generalizing before with
  | case1 => simp
  | case2 c =>
      intro split
      have length := congrArg List.length split
      simp only [List.length_append, List.length_cons, List.length_nil] at length
      omega
  | case3 => cases absent
  | case4 a b rest elsewhere ih =>
      intro split
      cases before with
      | nil =>
          cases split
          exact absurd ⟨rfl, rfl⟩ elsewhere
      | cons c before =>
          exact ih (Option.map_eq_none_iff.1 absent) before (List.cons.inj split).2

/-! ## Literals and slots -/

/-- The characters that open and close slots, each standing twice. -/
def opening : Char := '\x7b'

/-- The character that closes slots. -/
def closing : Char := '\x7d'

/-- A template reads as slots, each with the literal before it, and a last literal. -/
inductive Reads : List Char → List (List Char × List Char) → List Char → Prop
  | last {chars : List Char}
      (closed : ∀ before inside after,
        chars ≠ before ++ opening :: opening :: (inside ++ closing :: closing :: after)) :
      Reads chars [] chars
  | slot {chars literal inside path rest last : List Char} {slots : List (List Char × List Char)}
      (opens : FirstAt opening chars literal inside) (closes : FirstAt closing inside path rest)
      (others : Reads rest slots last) : Reads chars ((literal, path) :: slots) last

/-- The literals in order, with a text for its path in place of each slot. -/
def filled (fill : List Char → List Char) : List (List Char × List Char) → List Char → List Char
  | [], last => last
  | (literal, path) :: slots, last => literal ++ (fill path ++ filled fill slots last)

/-- A slot as it is written. -/
def braced (path : List Char) : List Char := opening :: opening :: (path ++ [closing, closing])

theorem Reads.unique {chars last last' : List Char} {slots slots' : List (List Char × List Char)}
    (one : Reads chars slots last) (other : Reads chars slots' last') :
    slots = slots' ∧ last = last' := by
  induction one generalizing slots' last' with
  | last closed =>
      cases other with
      | last => exact ⟨rfl, rfl⟩
      | slot opens closes _ =>
          exact absurd (closes.split ▸ opens.split) (closed _ _ _)
  | slot opens closes _ ih =>
      cases other with
      | last closed => exact absurd (closes.split ▸ opens.split) (closed _ _ _)
      | slot opens' closes' others' =>
          obtain ⟨rfl, rfl⟩ := opens.unique opens'
          obtain ⟨rfl, rfl⟩ := closes.unique closes'
          obtain ⟨rfl, rfl⟩ := ih others'
          exact ⟨rfl, rfl⟩

theorem Reads.filled_braced {chars last : List Char} {slots : List (List Char × List Char)}
    (reads : Reads chars slots last) : filled braced slots last = chars := by
  induction reads with
  | last => rfl
  | slot opens closes _ ih =>
      rw [opens.split, closes.split, filled, ih, braced]
      simp

/-- What has no closing mark after its first opening mark has none after any. -/
theorem closed_of_breakAt {chars literal inside : List Char}
    (opens : FirstAt opening chars literal inside) (unclosed : breakAt closing inside = none)
    (before path after : List Char) :
    chars ≠ before ++ opening :: opening :: (path ++ closing :: closing :: after) := by
  intro split
  -- the first opening mark is no later, so the closing mark stands in what follows it
  have early : literal.length + 2 ≤ (before ++ opening :: opening :: path).length := by
    have first := opens.first _ _ split
    rw [List.length_append, List.length_cons, List.length_cons]
    omega
  have whole : literal ++ opening :: opening :: inside =
      (before ++ opening :: opening :: path) ++ closing :: closing :: after := by
    rw [← opens.split, split, List.append_assoc]
    rfl
  have behind : inside = (before ++ opening :: opening :: path).drop (literal.length + 2) ++
      closing :: closing :: after :=
    calc inside = (literal ++ opening :: opening :: inside).drop (literal.length + 2) := by
          rw [← List.drop_drop, List.drop_left]
          rfl
      _ = _ := by rw [whole, List.drop_append_of_le_length early]
  exact unmarked_of_breakAt unclosed _ _ behind

/-- Slots, with the literals before them, and a last literal as pieces. -/
def piecesOf : List (List Char × List Char) → List Char → List Piece
  | [], last => [.literal last]
  | (literal, path) :: slots, last => .literal literal :: .slot path :: piecesOf slots last

/-- The pieces of a template are those of a reading. -/
theorem reads_pieces (chars : List Char) :
    ∃ slots last, Reads chars slots last ∧ pieces chars = piecesOf slots last := by
  fun_induction pieces chars with
  | case1 chars unopened =>
      exact ⟨[], chars, .last fun _ _ _ => unmarked_of_breakAt unopened _ _, rfl⟩
  | case2 chars literal inside opened unclosed =>
      exact ⟨[], chars, .last (closed_of_breakAt (firstAt_of_breakAt opened) unclosed), rfl⟩
  | case3 chars literal inside opened path rest closed _ _ ih =>
      obtain ⟨slots, last, reads, same⟩ := ih
      refine ⟨(literal, path) :: slots, last, ?_, by rw [same, piecesOf]⟩
      exact .slot (firstAt_of_breakAt opened) (firstAt_of_breakAt closed) reads

theorem pieces_of_reads {chars last : List Char} {slots : List (List Char × List Char)}
    (reads : Reads chars slots last) : pieces chars = piecesOf slots last := by
  obtain ⟨slots', last', reads', same⟩ := reads_pieces chars
  obtain ⟨rfl, rfl⟩ := reads.unique reads'
  exact same

/-! ## Rendering -/

/-- Blanks around a path do not count. -/
theorem lookup_trim (v : Value) (path : String) : v.lookup (trim path) = v.lookup path := by
  rw [Value.lookup, Value.lookup, Path.segments, Path.segments, trim, String.toList_ofList,
    trimChars_trimChars]

/-- Rendering fills each slot with the text of what its path leads to. -/
theorem render_piecesOf (context : Value) (slots : List (List Char × List Char))
    (last : List Char) :
    (piecesOf slots last).flatMap (Piece.render context) =
      filled (fun path => (context.lookup (trim (String.ofList path))).display.toList) slots
        last := by
  induction slots with
  | nil => exact List.append_nil last
  | cons slot slots ih =>
      obtain ⟨literal, path⟩ := slot
      rw [piecesOf, filled, List.flatMap_cons, List.flatMap_cons, ih, lookup_trim]
      rfl

/-- **A template has one reading, and its slots are filled once.**  There is exactly one way to
read a template as literals and slots, and with its paths in braces it is the template again.  In
every context the template is rendered from this one reading: the literals as they stand, and in
place of each slot the text of what its path leads to, blanks around the path dropped. -/
theorem render_faithful (template : String) :
    ∃ slots last, Reads template.toList slots last ∧
      (∀ slots' last', Reads template.toList slots' last' → slots' = slots ∧ last' = last) ∧
      filled braced slots last = template.toList ∧
      ∀ context : Value, (render template context).toList =
        filled (fun path => (context.lookup (trim (String.ofList path))).display.toList) slots
          last := by
  obtain ⟨slots, last, reads, pieces⟩ := reads_pieces template.toList
  refine ⟨slots, last, reads, fun _ _ reads' => reads'.unique reads, reads.filled_braced, ?_⟩
  intro context
  rw [render, pieces, String.toList_ofList, render_piecesOf]

end Template

namespace Example

/-- A title with a slot, and with braces that are never closed. -/
def halfOpen : String := "\x7b\x7b a \x7d\x7d, \x7b\x7bb"

/-- A context in which the value for the slot looks like a slot itself. -/
def braces : Value := .object [("a", .text "\x7b\x7bb\x7d\x7d"), ("b", .text "x")]

/-- The value is copied with its braces and not read again, and so are the braces that are not
closed. -/
theorem braces_copied :
    Template.Reads halfOpen.toList [([], " a ".toList)] ", \x7b\x7bb".toList ∧
      (Template.render halfOpen braces).toList = "\x7b\x7bb\x7d\x7d, \x7b\x7bb".toList := by
  have reads : Template.Reads halfOpen.toList [([], " a ".toList)] ", \x7b\x7bb".toList :=
    .slot (Template.firstAt_of_breakAt rfl) (Template.firstAt_of_breakAt rfl)
      (.last (Template.closed_of_breakAt (Template.firstAt_of_breakAt rfl) rfl))
  obtain ⟨slots, last, -, unique, -, shown⟩ := Template.render_faithful halfOpen
  obtain ⟨rfl, rfl⟩ := unique _ _ reads
  refine ⟨reads, ?_⟩
  rw [shown]
  decide

end Example
end EventRules
