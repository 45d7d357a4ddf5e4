/-
# EventRules.Yaml.Token -- YAML texts as tokens

The tokens of a text hold its structure: where a collection in brackets opens and
closes, where an indented one does, what is a key and what a value.

A key without a mark of its own is only known by the colon after it.  So a place
where one may start is kept as a *candidate*, one for each level of brackets, and
when the colon comes on the same line and within 1024 characters the token of a
key is put in at that place; outside brackets so is the token that opens a map,
when the key is indented further than what is open.

A text that is no YAML still has tokens, up to where it fails: a reader that
objects to something earlier is told of that first.  Tokens from a candidate on
that was still undecided do not count.
-/
import EventRules.Yaml.Scalar
namespace EventRules.Yaml

set_option autoImplicit false

open Text

/-- A token of a YAML text. -/
inductive Token where
  | documentStart
  | documentEnd
  /-- A directive that gives the version. -/
  | version
  /-- A directive that gives a handle for tags. -/
  | handle (name : String) (stands : String)
  /-- An indented list starts. -/
  | openList
  /-- An indented map starts. -/
  | openMap
  /-- An indented list or map ends. -/
  | close
  | openFlowList
  | closeFlowList
  | openFlowMap
  | closeFlowMap
  /-- The dash of an item. -/
  | dash
  /-- The comma between items. -/
  | comma
  | key
  | value
  | alias (name : String)
  | anchor (name : String)
  | tag (handle : String) (suffix : String)
  | scalar (s : Scalar)
  deriving DecidableEq

/-- The tokens of a text up to where it fails, and whether it does not. -/
structure Lexed where
  tokens : List Token
  isWhole : Bool

namespace Tag

/-- Whether a character may stand in a tag. -/
def isTagChar (inUri : Bool) (c : Char) : Bool :=
  isWordChar c || ";/?:@&=+$.%!~*'()".toList.contains c || (inUri && ",[]".toList.contains c)

/-- How many bytes a character has whose first byte is given; zero for a byte that
starts none. -/
def byteWidth (lead : Nat) : Nat :=
  if lead < 0x80 then 1
  else if 0xC0 ≤ lead && lead < 0xE0 then 2
  else if 0xE0 ≤ lead && lead < 0xF0 then 3
  else if 0xF0 ≤ lead && lead < 0xF8 then 4
  else 0

/-- The bytes that are written as a percent sign and two digits, `count` of them. -/
def escapedBytes : Nat → List Char → Option (List UInt8 × List Char)
  | 0, rest => some ([], rest)
  | count + 1, '%' :: a :: b :: rest => do
      let byte ← natInBase? 16 [a, b]
      let (bytes, rest) ← escapedBytes count rest
      some (byte.toUInt8 :: bytes, rest)
  | _ + 1, _ => none

/-- Decode the character whose bytes are written out at the start of a text. -/
def escapedChar (rest : List Char) : Option (List Char × List Char) :=
  match escapedBytes 1 rest with
  | some ([lead], _) =>
      let width := byteWidth lead.toNat
      if width = 0 then none
      else do
        let (bytes, rest) ← escapedBytes width rest
        let s ← String.fromUTF8? bytes.toByteArray
        some (s.toList, rest)
  | _ => none

/-- Decode the characters of a tag.  Each step takes a character, so `fuel` need
not be more than their number. -/
def unescape : Nat → List Char → Option (List Char)
  | 0, _ => some []
  | _, [] => some []
  | fuel + 1, c :: rest =>
      if c = '%' then do
        let (s, rest) ← escapedChar (c :: rest)
        let t ← unescape fuel rest
        some (s ++ t)
      else (unescape fuel rest).map (c :: ·)

/-- Read the characters of a tag, at least one unless something stands before them. -/
def chars (inUri : Bool) (head : List Char) (c : Cursor) : Option (List Char × Cursor) :=
  let (taken, c) := c.span (isTagChar inUri)
  if taken.isEmpty && head.isEmpty then none
  else (unescape taken.length taken).map fun s => (head ++ s, c)

/-- Read a handle: an exclamation mark, a word, and an exclamation mark if there is
one. -/
def readHandle (c : Cursor) : List Char × Cursor :=
  let (word, after) := c.next.span isWordChar
  if after.sees '!' then ('!' :: word ++ ['!'], after.next) else ('!' :: word, after)

/-- Read a tag: its handle, its suffix and the place after it. -/
def read (inFlow : Bool) (c : Cursor) : Option (String × String × Cursor) :=
  let found :=
    if c.next.sees '<' then
      match chars true [] (c.skip 2) with
      | some (s, c) => if c.sees '>' then some ([], s, c.next) else none
      | none => none
    else
      let (handle, after) := readHandle c
      if 2 ≤ handle.length && handle.getLast? = some '!' then
        (chars false [] after).map fun (s, c) => (handle, s, c)
      else
        (chars false handle after).map fun (s, c) =>
          if s = ['!'] then ([], s, c) else (['!'], s.tail, c)
  match found with
  | some (handle, suffix, c) =>
      if Cursor.isSpaced c.rest || (inFlow && c.sees ',') then
        some (String.ofList handle, String.ofList suffix, c)
      else none
  | none => none

end Tag

/-- A place where a key without a mark of its own may start. -/
structure Candidate where
  /-- The number of tokens before it. -/
  place : Nat
  line : Nat
  column : Nat
  offset : Nat
  /-- Whether only a key can stand there. -/
  isRequired : Bool

/-- Whether a candidate is too far back for a colon to follow. -/
def Candidate.isStale (c : Cursor) (candidate : Candidate) : Bool :=
  candidate.line < c.line || candidate.offset + 1024 < c.offset

/-- How far a text has been cut into tokens. -/
structure Lexer where
  cursor : Cursor
  /-- The tokens so far, the latest first. -/
  tokens : List Token
  /-- The columns of the open indented collections, the innermost first. -/
  indents : List Nat
  /-- The candidate at this level of brackets. -/
  candidate : Option Candidate
  /-- The candidates at the levels around it, the innermost first. -/
  outer : List (Option Candidate)
  /-- Whether a key without a mark of its own may start here. -/
  keyAllowed : Bool

namespace Lexer

/-- Nothing read yet. -/
def start (text : List Char) : Lexer := ⟨Cursor.start text, [], [], none, [], true⟩

/-- Whether brackets are open. -/
def inFlow (l : Lexer) : Bool := !l.outer.isEmpty

/-- The column that lines inside the innermost indented collection have to reach. -/
def margin (l : Lexer) : Nat :=
  match l.indents with
  | [] => 0
  | column :: _ => column + 1

/-- Add a token. -/
def push (token : Token) (l : Lexer) : Lexer := { l with tokens := token :: l.tokens }

/-- Put tokens in at an earlier place. -/
def insertAt (place : Nat) (added : List Token) (l : Lexer) : Lexer :=
  let after := l.tokens.length - place
  { l with tokens := l.tokens.take after ++ added.reverse ++ l.tokens.drop after }

/-- Whether outside brackets a collection at a column is a new one. -/
def isDeeper (column : Nat) (l : Lexer) : Bool := !l.inFlow && l.margin ≤ column

/-- Open an indented collection at a column, if it is a new one. -/
def openAt (column : Nat) (token : Token) (l : Lexer) : Lexer :=
  if l.isDeeper column then { l.push token with indents := column :: l.indents } else l

/-- Close the indented collections that do not reach the column `margin`. -/
def closeTo (margin : Nat) (l : Lexer) : Lexer :=
  if l.inFlow then l
  else
    let closed := l.indents.takeWhile fun column => margin < column + 1
    { l with
      tokens := List.replicate closed.length .close ++ l.tokens
      indents := l.indents.drop closed.length }

/-- Close all indented collections. -/
def closeAll (l : Lexer) : Lexer := l.closeTo 0

/-- Give up the candidate at this level, unless only a key can stand there. -/
def dropCandidate (l : Lexer) : Option Lexer :=
  match l.candidate with
  | some candidate => if candidate.isRequired then none else some { l with candidate := none }
  | none => some l

/-- Give up a candidate that is too far back, unless only a key can stand there. -/
def expire (c : Cursor) (candidate : Option Candidate) : Option (Option Candidate) :=
  match candidate with
  | some k => if k.isStale c then (if k.isRequired then none else some none) else some (some k)
  | none => some none

/-- Give up all candidates that are too far back. -/
def expireAll (l : Lexer) : Option Lexer := do
  let outer ← l.outer.mapM (expire l.cursor)
  let candidate ← expire l.cursor l.candidate
  some { l with candidate := candidate, outer := outer }

/-- A key may start here: keep the place. -/
def saveCandidate (l : Lexer) : Option Lexer :=
  if l.keyAllowed then do
    let l ← l.dropCandidate
    let c := l.cursor
    let required := !l.inFlow && l.indents.head? = some c.column
    some { l with candidate := some ⟨l.tokens.length, c.line, c.column, c.offset, required⟩ }
  else some l

/-- Pass blanks, comments and line ends up to the next token.  Each step takes a
character, so `fuel` need not be more than their number. -/
def skipSpace : Nat → Lexer → Lexer
  | 0, l => l
  | fuel + 1, l =>
      let c := if l.cursor.offset = 0 && l.cursor.sees '\ufeff' then l.cursor.next else l.cursor
      let tabs := l.inFlow || !l.keyAllowed
      let c := c.skipWhile fun ch => ch = ' ' || (tabs && ch = '\t')
      let c := if c.sees '#' then c.skipLine else c
      if !c.atEnd && c.atLineEnd then
        skipSpace fuel { l with cursor := c.lineEnd.2, keyAllowed := l.keyAllowed || !l.inFlow }
      else { l with cursor := c }

/-- Read the version of a directive: two numbers with a point between them, of
which the first is one and the second one or two. -/
def readVersion (c : Cursor) : Option Cursor :=
  let (major, c) := c.span Char.isDigit
  if c.sees '.' then
    let (minor, c) := c.next.span Char.isDigit
    let fits := !major.isEmpty && !minor.isEmpty && major.length ≤ 9 && minor.length ≤ 9
    if fits && natOf major = 1 && (natOf minor = 1 || natOf minor = 2) then some c else none
  else none

/-- Read what a directive says, from the place after its name. -/
def readDirective (name : List Char) (c : Cursor) : Option (Token × Cursor) :=
  let c := c.skipWhile isGap
  if name = ['Y', 'A', 'M', 'L'] then (readVersion c).map fun c => (.version, c)
  else if name = ['T', 'A', 'G'] then
    if c.sees '!' then
      let (handle, c) := Tag.readHandle c
      if handle.length = 1 || handle.getLast? = some '!' then
        if (c.rest.head?.map isGap).getD false then do
          let (stands, c) ← Tag.chars true [] (c.skipWhile isGap)
          if Cursor.isSpaced c.rest then
            some (.handle (String.ofList handle) (String.ofList stands), c)
          else none
        else none
      else none
    else none
  else none

/-- Read a directive. -/
def directive (l : Lexer) : Option Lexer := do
  let l ← l.closeAll.dropCandidate
  let (name, c) := l.cursor.next.span isWordChar
  if name.isEmpty || !Cursor.isSpaced c.rest then none
  else
    let (token, c) ← readDirective name c
    let c := c.skipWhile isGap
    let c := if c.sees '#' then c.skipLine else c
    if c.atLineEnd then
      some { l.push token with cursor := c.lineEnd.2, keyAllowed := false }
    else none

/-- Read a marker between documents. -/
def marker (token : Token) (l : Lexer) : Option Lexer := do
  let l ← l.closeAll.dropCandidate
  some { l.push token with cursor := l.cursor.skip 3, keyAllowed := false }

/-- Read an opening bracket. -/
def openFlow (token : Token) (l : Lexer) : Option Lexer := do
  let l ← l.saveCandidate
  some { l.push token with
    cursor := l.cursor.next, candidate := none
    outer := l.candidate :: l.outer, keyAllowed := true }

/-- Read a closing bracket. -/
def closeFlow (token : Token) (l : Lexer) : Option Lexer := do
  let l ← l.dropCandidate
  let l := { l.push token with cursor := l.cursor.next, keyAllowed := false }
  match l.outer with
  | candidate :: outer => some { l with candidate := candidate, outer := outer }
  | [] => some l

/-- Read a comma. -/
def comma (l : Lexer) : Option Lexer := do
  let l ← l.dropCandidate
  some { l.push .comma with cursor := l.cursor.next, keyAllowed := true }

/-- Read the dash of an item. -/
def dash (l : Lexer) : Option Lexer :=
  if l.inFlow || l.keyAllowed then do
    let l ← (l.openAt l.cursor.column .openList).dropCandidate
    some { l.push .dash with cursor := l.cursor.next, keyAllowed := true }
  else none

/-- Read the question mark of a key. -/
def key (l : Lexer) : Option Lexer :=
  if l.inFlow || l.keyAllowed then do
    let l ← (l.openAt l.cursor.column .openMap).dropCandidate
    some { l.push .key with cursor := l.cursor.next, keyAllowed := !l.inFlow }
  else none

/-- Read the colon of a value.  A candidate turns out to be a key. -/
def value (l : Lexer) : Option Lexer :=
  match l.candidate with
  | some found =>
      let opened := l.isDeeper found.column
      let l := l.insertAt found.place (if opened then [.openMap, .key] else [.key])
      some { l.push .value with
        cursor := l.cursor.next, candidate := none, keyAllowed := false,
        indents := if opened then found.column :: l.indents else l.indents }
  | none =>
      if l.inFlow || l.keyAllowed then
        let l := l.openAt l.cursor.column .openMap
        some { l.push .value with cursor := l.cursor.next, keyAllowed := !l.inFlow }
      else none

/-- Read a token that may start a key. -/
def keyed (l : Lexer) (token : Cursor → Option (Token × Cursor)) : Option Lexer := do
  let l ← l.saveCandidate
  let (t, c) ← token l.cursor
  some { l.push t with cursor := c, keyAllowed := false }

/-- Read the name of an anchor or an alias. -/
def anchorName (c : Cursor) : Option (String × Cursor) :=
  let (name, c) := c.next.span isWordChar
  let ends := match c.rest with
    | [] => true
    | ch :: _ => isGap ch || isLineEnd ch || "?:,]\x7d%@`".toList.contains ch
  if name.isEmpty || !ends then none else some (String.ofList name, c)

/-- Read a plain scalar. -/
def plain (l : Lexer) : Option Lexer := do
  let l ← l.saveCandidate
  let p ← Scalar.plain l.inFlow l.margin l.cursor
  some { l.push (.scalar ⟨.plain, String.ofList p.text⟩) with
    cursor := p.after, keyAllowed := p.linesPassed }

/-- Read a block. -/
def block (l : Lexer) : Option Lexer := do
  let l ← l.dropCandidate
  let (s, c) ← Scalar.block l.margin l.cursor
  some { l.push (.scalar s) with cursor := c, keyAllowed := true }

/-- Characters that do not start a plain scalar. -/
def isIndicator (c : Char) : Bool := "-?:,[]\x7b\x7d#&*!|>'\"%@`".toList.contains c

/-- Read the next token, which starts with a given character. -/
def token (ch : Char) (rest : List Char) (l : Lexer) : Option Lexer :=
  let spaced := Cursor.isSpaced rest
  if l.cursor.column = 0 && ch = '%' then l.directive
  else if l.cursor.atMarker '-' then l.marker .documentStart
  else if l.cursor.atMarker '.' then l.marker .documentEnd
  else if ch = '[' then l.openFlow .openFlowList
  else if ch = '\x7b' then l.openFlow .openFlowMap
  else if ch = ']' then l.closeFlow .closeFlowList
  else if ch = '\x7d' then l.closeFlow .closeFlowMap
  else if ch = ',' then l.comma
  else if ch = '-' && spaced then l.dash
  else if ch = '?' && (l.inFlow || spaced) then l.key
  else if ch = ':' && (l.inFlow || spaced) then l.value
  else if ch = '*' then l.keyed fun c => (anchorName c).map fun (name, c) => (.alias name, c)
  else if ch = '&' then l.keyed fun c => (anchorName c).map fun (name, c) => (.anchor name, c)
  else if ch = '!' then
    l.keyed fun c => (Tag.read l.inFlow c).map fun (handle, suffix, c) => (.tag handle suffix, c)
  else if (ch = '|' || ch = '>') && !l.inFlow then l.block
  else if ch = '\'' || ch = '"' then
    l.keyed fun c => (Scalar.quoted c).map fun (s, c) => (.scalar s, c)
  else if !(isIndicator ch || isGap ch) || (ch = '-' && !spaced) ||
      (!l.inFlow && (ch = '?' || ch = ':') && !spaced) then l.plain
  else none

/-- The tokens of a text that fails here. -/
def failed (l : Lexer) : Lexed :=
  let undecided := (l.candidate :: l.outer).filterMap fun candidate =>
    candidate.bind fun k => if k.isStale l.cursor && !k.isRequired then none else some k.place
  let visible := undecided.foldl min l.tokens.length
  ⟨(l.tokens.drop (l.tokens.length - visible)).reverse, false⟩

/-- Cut what remains into tokens. -/
def run (l : Lexer) : Lexed :=
  match (l.skipSpace (l.cursor.rest.length + 1)).expireAll with
  | none => l.failed
  | some spaced =>
      let ready := spaced.closeTo (spaced.cursor.column + 1)
      match ready.cursor.rest with
      | [] =>
          match ready.closeAll.dropCandidate with
          | some ended => ⟨ended.tokens.reverse, true⟩
          | none => l.failed
      | ch :: rest =>
          match ready.token ch rest with
          | none => l.failed
          | some next =>
              if next.cursor.rest.length < l.cursor.rest.length then run next else l.failed
termination_by l.cursor.rest.length

end Lexer

/-- The tokens of a text.  A text with a character that may not stand in YAML has
none. -/
def Lexed.ofText (text : List Char) : Lexed :=
  if text.all isAllowed then (Lexer.start text).run else ⟨[], false⟩

end EventRules.Yaml
