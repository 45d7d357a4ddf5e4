/-
# EventRules.Provenance -- which rule produced an event

The provenance tag of an event is the letter of the scope, the length of the rule
id in bytes, and the id, joined by colons: `E:11:cut-started`.  The length makes
every id readable back, also one that contains colons.
-/
import EventRules.Rule.Basic
import EventRules.Text.Digits
namespace EventRules

set_option autoImplicit false

open Text

/-- The scope and the id of the rule that produced an event. -/
structure Provenance where
  scope : Scope
  ruleId : String
  deriving DecidableEq, Repr

namespace Provenance

/-- The tag. -/
def encode (p : Provenance) : String :=
  String.ofList (p.scope.letter :: ':' :: (ofNat p.ruleId.utf8ByteSize ++ ':' :: p.ruleId.toList))

/-- The characters before and after the first colon. -/
def splitColon : List Char → Option (List Char × List Char)
  | [] => none
  | c :: rest =>
      if c = ':' then some ([], rest)
      else (splitColon rest).map fun (before, after) => (c :: before, after)

/-- Read the characters of a tag. -/
def decodeChars? : List Char → Option Provenance
  | letter :: ':' :: rest => do
      let scope ← Scope.ofLetter? letter
      let (digits, id) ← splitColon rest
      let ruleId := String.ofList id
      if !digits.isEmpty && digits.all Char.isDigit && natOf digits < Nat.pow 2 64 &&
          natOf digits == ruleId.utf8ByteSize then
        some ⟨scope, ruleId⟩
      else none
  | _ => none

/-- Read a tag; `none` when it is none. -/
def decode? (tag : String) : Option Provenance := decodeChars? tag.toList

end Provenance
end EventRules
