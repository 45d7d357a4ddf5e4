/-
# EventRules.Text.Case -- lower and upper case

The full case maps of the character set: a character may become several, and a
capital sigma becomes a final sigma at the end of a word.
-/
import EventRules.Text.CaseTable
namespace EventRules.Text

set_option autoImplicit false

/-- Whether some range holds a number. -/
def inRanges (n : Nat) (ranges : List (Nat × Nat)) : Bool :=
  ranges.any fun (first, last) => first ≤ n && n ≤ last

/-- What a number maps to in a table of runs; itself outside all of them. -/
def mapRuns (n : Nat) (runs : List (Nat × Nat × Nat × Int)) : Nat :=
  match runs.find? fun (first, last, step, _) =>
      first ≤ n && n ≤ last && (n - first) % step == 0 with
  | some (_, _, _, difference) => (n + difference).toNat
  | none => n

/-- The case map of a character, with the tables of one direction. -/
def mapCase (ascii : Char → Char) (sequences : List (Nat × List Nat))
    (runs : List (Nat × Nat × Nat × Int)) (c : Char) : List Char :=
  if c.toNat < 0x80 then [ascii c]
  else
    match sequences.find? fun e => e.1 = c.toNat with
    | some (_, sequence) => sequence.map Char.ofNat
    | none => [Char.ofNat (mapRuns c.toNat runs)]

/-- Whether a character has the property Cased. -/
def isCased (c : Char) : Bool := inRanges c.toNat casedRanges

/-- Whether a character has the property Case_Ignorable. -/
def isIgnorable (c : Char) : Bool := inRanges c.toNat ignorableRanges

/-- Whether the nearest character that counts is cased. -/
def meetsCased (chars : List Char) : Bool :=
  match chars.dropWhile isIgnorable with
  | c :: _ => isCased c
  | [] => false

/-- The lower case of what follows `before`, which is reversed. -/
def lowerAfter (before : List Char) : List Char → List Char
  | [] => []
  | c :: rest =>
      let mapped :=
        if c = '\u03a3' then
          [if meetsCased before && !meetsCased rest then '\u03c2' else '\u03c3']
        else mapCase Char.toLower lowerSequences lowerRuns c
      mapped ++ lowerAfter (c :: before) rest

/-- The lower case of a text. -/
def lower (s : String) : String := String.ofList (lowerAfter [] s.toList)

/-- The upper case of a text. -/
def upper (s : String) : String :=
  String.ofList (s.toList.flatMap (mapCase Char.toUpper upperSequences upperRuns))

end EventRules.Text
