/-
# EventRules.Yaml.Scalar -- the text of scalars

A scalar is written plain, between quotes, or as a block of indented lines.  Each
reader here takes the place where a scalar starts and gives its text and the
place after it; `none` means that the text is no YAML.

* `Scalar.quoted` reads up to the closing quote.  Line ends are folded; between
  double quotes a backslash starts an escape.
* `Scalar.plain` reads up to a character that has a meaning of its own: a colon
  or a number sign set off by a blank, and in brackets also a bracket or a comma.
  Outside brackets it goes on over lines as long as they are indented enough.
* `Scalar.block` reads the lines that are indented as far as the first of them,
  kept as they are or folded.
-/
import EventRules.Yaml.Cursor
namespace EventRules.Yaml

set_option autoImplicit false

open Text

/-- How a scalar is written. -/
inductive ScalarStyle where
  | plain | quoted | literal | folded
  deriving DecidableEq, Repr

/-- A scalar as it is written. -/
structure Scalar where
  style : ScalarStyle
  text : String
  deriving DecidableEq, Repr

namespace Scalar

/-- The character that an escape of one letter stands for. -/
def letterEscape? (c : Char) : Option Char :=
  if c = '0' then some '\x00'
  else if c = 'a' then some '\x07'
  else if c = 'b' then some '\x08'
  else if c = 't' || c = '\t' then some '\t'
  else if c = 'n' then some '\n'
  else if c = 'v' then some '\x0b'
  else if c = 'f' then some '\x0c'
  else if c = 'r' then some '\r'
  else if c = 'e' then some '\x1b'
  else if c = ' ' || c = '"' || c = '/' || c = '\\' then some c
  else if c = 'N' then some '\x85'
  else if c = '_' then some '\u00a0'
  else if c = 'L' then some '\u2028'
  else if c = 'P' then some '\u2029'
  else none

/-- How many hexadecimal digits an escape has. -/
def hexEscapeWidth (c : Char) : Nat :=
  if c = 'x' then 2 else if c = 'u' then 4 else if c = 'U' then 8 else 0

/-- Read an escape after its backslash. -/
def readEscape (c : Cursor) : Option (Char × Cursor) :=
  match c.rest with
  | [] => none
  | ch :: rest =>
      let width := hexEscapeWidth ch
      if width = 0 then (letterEscape? ch).map fun e => (e, c.next)
      else
        let digits := rest.take width
        if digits.length = width then
          match natInBase? 16 digits with
          | some n =>
              if n.isValidChar then some (Char.ofNat n, c.skip (width + 1)) else none
          | none => none
        else none

/-- Why the reading of a line between quotes stopped. -/
inductive LinePart where
  /-- The closing quote. -/
  | closed
  /-- A blank, a line end or the end of the text. -/
  | spaced
  /-- A line end after a backslash. -/
  | continued

/-- Read between quotes up to a blank, a line end or the closing quote.  Each step
takes a character, so `fuel` need not be more than their number. -/
def quotedPart (single : Bool) :
    Nat → Cursor → Option (List Char × LinePart × Cursor)
  | 0, _ => none
  | fuel + 1, c =>
      match c.rest with
      | [] => some ([], .spaced, c)
      | ch :: rest =>
          let before := fun (taken : Char) (c : Cursor) =>
            (quotedPart single fuel c).map fun (s, part, c) => (taken :: s, part, c)
          if isGap ch || isLineEnd ch then some ([], .spaced, c)
          else if single then
            if ch = '\'' then
              if rest.head? = some '\'' then before ch (c.skip 2)
              else some ([], .closed, c.next)
            else before ch c.next
          else if ch = '"' then some ([], .closed, c.next)
          else if ch = '\\' then
            match rest with
            | [] => none
            | e :: _ =>
                if isLineEnd e then some ([], .continued, c.next.lineEnd.2)
                else
                  match readEscape c.next with
                  | some (e, c) => before e c
                  | none => none
          else before ch c.next

/-- Read the text between quotes.  Each step takes a character, so `fuel` need not
be more than their number. -/
def quotedRest (single : Bool) : Nat → Cursor → Option (List Char × Cursor)
  | 0, _ => none
  | fuel + 1, c =>
      if c.atAnyMarker || c.atEnd then none
      else
        match quotedPart single (c.rest.length + 1) c with
        | none => none
        | some (s, .closed, c) => some (s, c)
        | some (s, part, c) =>
            let gap := match part with
              | .continued => Gap.continued
              | _ => Gap.none
            match c.gap 0 gap with
            | none => none
            | some (gap, c) =>
                (quotedRest single fuel c).map fun (t, c) => (s ++ gap.folded ++ t, c)

/-- Read a scalar between quotes. -/
def quoted (c : Cursor) : Option (Scalar × Cursor) :=
  (quotedRest (c.sees '\'') (c.rest.length + 1) c.next).map fun (s, c) =>
    (⟨.quoted, String.ofList s⟩, c)

/-- Whether a character is a comma or a bracket. -/
def isFlowMark (c : Char) : Bool :=
  c = ',' || c = '[' || c = ']' || c = '\x7b' || c = '\x7d'

/-- Whether a plain scalar ends before what remains. -/
def endsPlain (inFlow : Bool) (rest : List Char) : Bool :=
  match rest with
  | [] => true
  | ch :: tail =>
      isGap ch || isLineEnd ch || (ch = ':' && Cursor.isSpaced tail) || (inFlow && isFlowMark ch)

/-- Whether a colon stands where it can neither belong to a plain scalar nor end it. -/
def strayColon (inFlow : Bool) (rest : List Char) : Bool :=
  match rest with
  | ':' :: ch :: _ => inFlow && (isFlowMark ch || ch = '?')
  | _ => false

/-- Read a plain scalar up to a blank or its end. -/
def plainPart (inFlow : Bool) : List Char → Option (List Char)
  | [] => some []
  | ch :: rest =>
      if strayColon inFlow (ch :: rest) then none
      else if endsPlain inFlow (ch :: rest) then some []
      else (plainPart inFlow rest).map (ch :: ·)

/-- A plain scalar, and whether lines were passed after its end. -/
structure Plain where
  text : List Char
  linesPassed : Bool
  after : Cursor

/-- Read a plain scalar.  Each step takes a character, so `fuel` need not be more
than their number. -/
def plainRest (inFlow : Bool) (margin : Nat) :
    Nat → Gap → Cursor → Option Plain
  | 0, _, _ => none
  | fuel + 1, gap, c =>
      let ends : Plain := ⟨[], gap.broken, c⟩
      if c.atAnyMarker || c.sees '#' then some ends
      else
        match plainPart inFlow c.rest with
        | none => none
        | some [] => some ends
        | some s =>
            let c := c.skip s.length
            match c.gap margin Gap.none with
            | none => none
            | some (next, c') =>
                let text := gap.folded ++ s
                if c'.offset = c.offset || (!inFlow && c'.column < margin) then
                  some ⟨text, next.broken, c'⟩
                else
                  (plainRest inFlow margin fuel next c').map fun p =>
                    { p with text := text ++ p.text }

/-- Read a plain scalar whose lines have to reach the column `margin`. -/
def plain (inFlow : Bool) (margin : Nat) (c : Cursor) : Option Plain :=
  plainRest inFlow margin (c.rest.length + 1) Gap.none c

/-- What becomes of the line ends at the end of a block. -/
inductive Chomping where
  | strip | clip | keep
  deriving DecidableEq, Repr

/-- The sign that says what becomes of the line ends at the end of a block. -/
def chomping? (c : Char) : Option Chomping :=
  if c = '+' then some .keep else if c = '-' then some .strip else none

/-- The digit that says how far a block is indented. -/
def increment? (c : Char) : Option Nat :=
  if c.isDigit then some (digitValue c) else none

/-- The signs after the mark of a block, in either order, and the place after them. -/
def blockHeader (c : Cursor) : Option (Chomping × Nat × Cursor) :=
  let sized := fun (kept : Chomping) (n : Nat) (c : Cursor) =>
    if n = 0 then none else some (kept, n, c)
  match c.rest with
  | a :: rest =>
      match chomping? a, increment? a with
      | some kept, _ =>
          match rest.head?.bind increment? with
          | some n => sized kept n (c.skip 2)
          | none => some (kept, 0, c.next)
      | none, some n =>
          match rest.head?.bind chomping? with
          | some kept => sized kept n (c.skip 2)
          | none => sized .clip n c.next
      | none, none => some (.clip, 0, c)
  | [] => some (.clip, 0, c)

/-- The empty lines of a block, the greatest column reached in them and the place
after them.  With `indent` unset every line up to the first that holds something
counts as empty.  Each step takes a character, so `fuel` need not be more than
their number. -/
def emptyLines (indent : Option Nat) :
    Nat → Nat → Cursor → Option (List Char × Nat × Cursor)
  | 0, reached, c => some ([], reached, c)
  | fuel + 1, reached, c =>
      let within := fun (column : Nat) =>
        match indent with
        | some n => column < n
        | none => true
      let spaces := (c.rest.takeWhile (· = ' ')).length
      let c := match indent with
        | some n => c.skip (min spaces (n - c.column))
        | none => c.skip spaces
      let reached := max reached c.column
      if within c.column && c.sees '\t' then none
      else if !c.atEnd && c.atLineEnd then
        let (text, after) := c.lineEnd
        (emptyLines indent fuel reached after).map fun (s, reached, c) => (text ++ s, reached, c)
      else some ([], reached, c)

/-- The lines of a block.  `lead` is the line end before the line, `trail` the
empty lines after that, `wasBlank` whether the line before starts with a blank.
Each step takes a character, so `fuel` need not be more than their number. -/
def blockLines (folds : Bool) (chomping : Chomping) (indent : Nat) :
    Nat → Bool → List Char → List Char → Cursor → Option (List Char × Cursor)
  | 0, _, _, _, _ => none
  | fuel + 1, wasBlank, lead, trail, c =>
      if c.column = indent && !c.atEnd then
        let isBlank := match c.rest.head? with
          | some ch => isGap ch
          | none => false
        let joined :=
          if folds && lead = ['\n'] && !wasBlank && !isBlank then
            if trail.isEmpty then [' '] else trail
          else lead ++ trail
        let (s, c) := c.span fun _ => true
        let (lead, c) := c.lineEnd
        match emptyLines (some indent) (c.rest.length + 1) 0 c with
        | none => none
        | some (trail, _, c) =>
            (blockLines folds chomping indent fuel isBlank lead trail c).map fun (t, c) =>
              (joined ++ s ++ t, c)
      else
        match chomping with
        | .strip => some ([], c)
        | .clip => some (lead, c)
        | .keep => some (lead ++ trail, c)

/-- Read a block whose lines have to reach the column `margin`, from its mark. -/
def block (margin : Nat) (c : Cursor) : Option (Scalar × Cursor) :=
  let folds := c.sees '>'
  match blockHeader c.next with
  | none => none
  | some (chomping, increment, c) =>
      let c := c.skipWhile isGap
      let c := if c.sees '#' then c.skipLine else c
      if c.atLineEnd then
        let c := c.lineEnd.2
        let given := if increment = 0 then none else some (margin - 1 + increment)
        match emptyLines given (c.rest.length + 1) 0 c with
        | none => none
        | some (trail, reached, c) =>
            let indent := given.getD (max reached (max margin 1))
            (blockLines folds chomping indent (c.rest.length + 1) false [] trail c).map
              fun (s, c) => (⟨if folds then .folded else .literal, String.ofList s⟩, c)
      else none

end Scalar
end EventRules.Yaml
