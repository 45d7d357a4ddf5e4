/-
# EventRules.Text.Blank -- blank characters and trimming

A character is *blank* when it has the Unicode property White_Space.  Every
place that trims text or skips blanks -- lookup paths, dates, numbers, rule ids
-- uses this one class, which is larger than the four blanks of
`Char.isWhitespace`: it also holds the no-break space, the ideographic space and
the line and paragraph separators.
-/
namespace EventRules.Text

set_option autoImplicit false

/-- Whether a character has the property White_Space. -/
def isBlank (c : Char) : Bool :=
  let n := c.toNat
  (9 ≤ n && n ≤ 13) || n == 0x20 || n == 0x85 || n == 0xA0 || n == 0x1680 ||
    (0x2000 ≤ n && n ≤ 0x200A) || n == 0x2028 || n == 0x2029 || n == 0x202F ||
    n == 0x205F || n == 0x3000

/-- Drop leading blanks. -/
def skipBlanks (chars : List Char) : List Char :=
  chars.dropWhile isBlank

/-- Drop leading and trailing blanks. -/
def trimChars (chars : List Char) : List Char :=
  (skipBlanks (skipBlanks chars).reverse).reverse

/-- Drop leading and trailing blanks of a text. -/
def trim (s : String) : String :=
  String.ofList (trimChars s.toList)

end EventRules.Text
