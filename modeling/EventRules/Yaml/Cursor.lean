/-
# EventRules.Yaml.Cursor -- a place in a YAML text

YAML reads by lines and columns, so a place in a text is what remains of it
together with its line, its column and how many characters stand before it.
`Cursor.lineEnd` passes a line end and says what it stands for in a scalar: a
line feed, except for the two separators of Unicode, which stand for themselves.

`Cursor.gap` passes the blanks and line ends inside a scalar and folds them: one
line end becomes a space, and of several all but the first are kept.
-/
import EventRules.Text.Digits
namespace EventRules.Yaml

set_option autoImplicit false

/-- Whether a character ends a line. -/
def isLineEnd (c : Char) : Bool :=
  c = '\n' || c = '\r' || c = '\x85' || c = '\u2028' || c = '\u2029'

/-- A space or a tab. -/
def isGap (c : Char) : Bool := c = ' ' || c = '\t'

/-- Whether a character may stand in a YAML text at all. -/
def isAllowed (c : Char) : Bool :=
  let n := c.toNat
  n == 9 || n == 0xA || n == 0xD || (0x20 ≤ n && n ≤ 0x7E) || n == 0x85 ||
    (0xA0 ≤ n && n ≤ 0xFFFD) || 0x10000 ≤ n

/-- Whether a character may stand in the name of an anchor. -/
def isWordChar (c : Char) : Bool := c.isAlphanum || c = '_' || c = '-'

/-- A place in a text. -/
structure Cursor where
  rest : List Char
  line : Nat
  column : Nat
  /-- The number of characters before the place. -/
  offset : Nat

namespace Cursor

/-- The start of a text. -/
def start (text : List Char) : Cursor := ⟨text, 0, 0, 0⟩

/-- The place after the next character, which does not end the line. -/
def next (c : Cursor) : Cursor :=
  { c with rest := c.rest.tail, column := c.column + 1, offset := c.offset + 1 }

/-- The place `count` characters further in the line. -/
def skip (count : Nat) (c : Cursor) : Cursor :=
  { c with rest := c.rest.drop count, column := c.column + count, offset := c.offset + count }

/-- The characters of the line that satisfy a test, and the place after them. -/
def span (test : Char → Bool) (c : Cursor) : List Char × Cursor :=
  let taken := c.rest.takeWhile fun ch => test ch && !isLineEnd ch
  (taken, c.skip taken.length)

/-- The place after the characters of the line that satisfy a test. -/
def skipWhile (test : Char → Bool) (c : Cursor) : Cursor := (c.span test).2

/-- The place at the end of the line. -/
def skipLine (c : Cursor) : Cursor := c.skipWhile fun _ => true

/-- Whether the text ends here. -/
def atEnd (c : Cursor) : Bool := c.rest.isEmpty

/-- Whether a text that remains is empty or starts with a character that passes a
test. -/
def endsOr (test : Char → Bool) : List Char → Bool
  | [] => true
  | ch :: _ => test ch

/-- Whether the line ends here. -/
def atLineEnd (c : Cursor) : Bool := endsOr isLineEnd c.rest

/-- Whether a text starts with a blank or a line end, or is empty. -/
def isSpaced (rest : List Char) : Bool := endsOr (fun ch => isGap ch || isLineEnd ch) rest

/-- Whether the next character is a given one. -/
def sees (ch : Char) (c : Cursor) : Bool := c.rest.head? = some ch

/-- Pass a line end, if there is one: what it stands for, and the place after it. -/
def lineEnd (c : Cursor) : List Char × Cursor :=
  let after := fun (rest : List Char) (width : Nat) =>
    (⟨rest, c.line + 1, 0, c.offset + width⟩ : Cursor)
  match c.rest with
  | '\r' :: '\n' :: rest => (['\n'], after rest 2)
  | ch :: rest =>
      if ch = '\u2028' || ch = '\u2029' then ([ch], after rest 1)
      else if isLineEnd ch then (['\n'], after rest 1)
      else ([], c)
  | [] => ([], c)

/-- Whether a line starts here with a marker between documents: three times the
same sign, and nothing attached to it. -/
def atMarker (sign : Char) (c : Cursor) : Bool :=
  c.column = 0 && [sign, sign, sign].isPrefixOf c.rest && isSpaced (c.rest.drop 3)

/-- Whether a line starts here with either marker between documents. -/
def atAnyMarker (c : Cursor) : Bool := c.atMarker '-' || c.atMarker '.'

end Cursor

/-- The blanks and line ends between two parts of a scalar. -/
structure Gap where
  /-- The blanks before the first line end. -/
  blanks : List Char
  /-- The first line end. -/
  lead : List Char
  /-- The line ends after it. -/
  trail : List Char
  /-- Whether there was a line end. -/
  broken : Bool

namespace Gap

/-- Nothing yet. -/
def none : Gap := ⟨[], [], [], false⟩

/-- Nothing yet, after a line end that does not count. -/
def continued : Gap := ⟨[], [], [], true⟩

/-- What the gap stands for: itself when it is within a line; otherwise a space for
a single line feed, and all line feeds but the first when there are more. -/
def folded (gap : Gap) : List Char :=
  if gap.broken then
    if gap.lead = ['\n'] then
      if gap.trail.isEmpty then [' '] else gap.trail
    else gap.lead ++ gap.trail
  else gap.blanks

end Gap

namespace Cursor

/-- Pass blanks and line ends.  On a later line no tab may stand before the column
`margin`.  Each step takes a character, so `fuel` need not be more than their
number. -/
def gapWithin (margin : Nat) : Nat → Gap → Cursor → Option (Gap × Cursor)
  | 0, gap, c => some (gap, c)
  | fuel + 1, gap, c =>
      match c.rest with
      | [] => some (gap, c)
      | ch :: _ =>
          if isGap ch then
            if gap.broken then
              if ch = '\t' && c.column < margin then none
              else gapWithin margin fuel gap c.next
            else gapWithin margin fuel { gap with blanks := gap.blanks ++ [ch] } c.next
          else if isLineEnd ch then
            let (text, after) := c.lineEnd
            if gap.broken then
              gapWithin margin fuel { gap with trail := gap.trail ++ text } after
            else gapWithin margin fuel ⟨[], text, [], true⟩ after
          else some (gap, c)

/-- Pass the blanks and line ends inside a scalar, after `gap`. -/
def gap (margin : Nat) (gap : Gap) (c : Cursor) : Option (Gap × Cursor) :=
  c.gapWithin margin (c.rest.length + 1) gap

end Cursor
end EventRules.Yaml
