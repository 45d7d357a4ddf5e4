/-
# EventRules.Proofs.Provenance -- tags have one grammar

A text is a tag when it is the letter of a scope, a length in decimal digits and an id of so
many bytes, joined by colons (`Provenance.Spells`).  The id is whatever follows the second
colon, so it may hold any characters, colons and digits too: the reader stops at the first colon
after the scope letter, and the digits before it hold none.

The reader takes exactly the tags (`Provenance.decode?_eq_some_iff`), the encoded ones among
them (`Provenance.decode?_encode`), and what it takes is an encoded tag but for zeros in front of
the length (`Provenance.Spells.zeros`).  It takes no length that a machine word cannot hold; no
id in memory is that long.
-/
import EventRules.Proofs.Text.Digits
import EventRules.Provenance
namespace EventRules

set_option autoImplicit false

open Text

theorem Scope.ofLetter?_eq_some_iff {c : Char} {scope : Scope} :
    ofLetter? c = some scope ↔ c = scope.letter := by
  constructor
  · intro found
    unfold ofLetter? at found
    split at found
    · cases found
      assumption
    · split at found
      · cases found
        assumption
      · cases found
  · rintro rfl
    exact ofLetter?_letter scope

namespace Provenance

/-! ## The first colon -/

/-- What precedes a colon, when it holds none itself, is split off exactly. -/
theorem splitColon_append {before : List Char} (plain : ∀ c ∈ before, c ≠ ':')
    (after : List Char) : splitColon (before ++ ':' :: after) = some (before, after) := by
  induction before with
  | nil => rfl
  | cons c before ih =>
      obtain ⟨differs, plain⟩ := List.forall_mem_cons.1 plain
      rw [List.cons_append, splitColon, if_neg differs, ih plain, Option.map_some]

theorem eq_of_splitColon {chars before after : List Char}
    (split : splitColon chars = some (before, after)) : chars = before ++ ':' :: after := by
  induction chars generalizing before with
  | nil => cases split
  | cons c chars ih =>
      rw [splitColon] at split
      split at split
      · rename_i colon
        cases split
        rw [colon, List.nil_append]
      · obtain ⟨⟨before', after'⟩, later, both⟩ := Option.map_eq_some_iff.1 split
        cases both
        rw [ih later, List.cons_append]

/-- Digits hold no colon, so they are split off exactly. -/
theorem splitColon_digits {digits : List Char} (decimal : ∀ c ∈ digits, c.isDigit = true)
    (after : List Char) : splitColon (digits ++ ':' :: after) = some (digits, after) := by
  apply splitColon_append
  rintro c member rfl
  exact absurd (decimal ':' member) (by decide)

/-! ## The grammar -/

/-- A text spells a tag, with these digits for the length of the id in bytes. -/
structure Spells (p : Provenance) (digits : List Char) (tag : String) : Prop where
  text : tag.toList = p.scope.letter :: ':' :: (digits ++ ':' :: p.ruleId.toList)
  something : digits ≠ []
  decimal : ∀ c ∈ digits, c.isDigit = true
  length : natOf digits = p.ruleId.utf8ByteSize
  /-- The length is one that a machine word can hold. -/
  fits : natOf digits < Nat.pow 2 64

variable {p : Provenance} {tag : String} {digits : List Char}

theorem Spells.decode? (spelled : p.Spells digits tag) : decode? tag = some p := by
  have decimal : digits.all Char.isDigit = true := List.all_eq_true.2 spelled.decimal
  have something : digits.isEmpty = false := List.isEmpty_eq_false_iff.2 spelled.something
  rw [Provenance.decode?, spelled.text, decodeChars?, Scope.ofLetter?_letter,
    splitColon_digits spelled.decimal]
  simp only [Option.bind_eq_bind, Option.bind_some, String.ofList_toList, decimal, something,
    spelled.length ▸ spelled.fits, spelled.length, Bool.not_false, decide_true,
    Bool.and_true, beq_self_eq_true, if_true]

theorem spells_of_decode? (read : decode? tag = some p) : ∃ digits, p.Spells digits tag := by
  rw [decode?] at read
  generalize text : tag.toList = chars at read
  unfold decodeChars? at read
  split at read
  · obtain ⟨scope, letter, read⟩ := Option.bind_eq_some_iff.1 read
    obtain ⟨⟨digits, id⟩, split, read⟩ := Option.bind_eq_some_iff.1 read
    dsimp only at read
    split at read
    · rename_i checks
      cases read
      simp only [Bool.and_eq_true, Bool.not_eq_true', List.isEmpty_eq_false_iff,
        List.all_eq_true, decide_eq_true_eq, beq_iff_eq] at checks
      obtain ⟨⟨⟨something, decimal⟩, fits⟩, length⟩ := checks
      refine ⟨digits, ?_, something, decimal, length, fits⟩
      rw [text, Scope.ofLetter?_eq_some_iff.1 letter, eq_of_splitColon split,
        String.toList_ofList]
    · cases read
  · cases read

/-- The reader takes exactly the tags. -/
theorem decode?_eq_some_iff : decode? tag = some p ↔ ∃ digits, p.Spells digits tag :=
  ⟨spells_of_decode?, fun ⟨_, spelled⟩ => spelled.decode?⟩

/-! ## Encoded tags -/

theorem toList_encode (p : Provenance) :
    p.encode.toList =
      p.scope.letter :: ':' :: (ofNat p.ruleId.utf8ByteSize ++ ':' :: p.ruleId.toList) := by
  rw [encode, String.toList_ofList]

theorem spells_encode (fits : p.ruleId.utf8ByteSize < Nat.pow 2 64) :
    p.Spells (ofNat p.ruleId.utf8ByteSize) p.encode where
  text := p.toList_encode
  something := ofNat_ne_nil _
  decimal := fun _ => isDigit_of_mem_ofNat
  length := natOf_ofNat _
  fits := by rwa [natOf_ofNat]

/-- **Every tag reads back** to the scope and the id it was made of, whatever characters
the id holds. -/
theorem decode?_encode (p : Provenance) (fits : p.ruleId.utf8ByteSize < Nat.pow 2 64) :
    decode? p.encode = some p :=
  (spells_encode fits).decode?

/-- A tag tells its scope and its id. -/
theorem encode_injective : Function.Injective encode := by
  intro p q same
  have text : p.encode.toList = q.encode.toList := congrArg String.toList same
  rw [toList_encode, toList_encode] at text
  obtain ⟨letter, rest⟩ := List.cons.inj text
  have scope : some p.scope = some q.scope := by
    rw [← Scope.ofLetter?_letter, letter, Scope.ofLetter?_letter]
  have split := congrArg splitColon (List.cons.inj rest).2
  rw [splitColon_digits fun _ => isDigit_of_mem_ofNat,
    splitColon_digits fun _ => isDigit_of_mem_ofNat] at split
  have id : p.ruleId.toList = q.ruleId.toList := congrArg Prod.snd (Option.some.inj split)
  obtain ⟨_, _⟩ := p
  obtain ⟨_, _⟩ := q
  cases scope
  cases String.toList_inj.1 id
  rfl

/-- What spells a tag is the encoded tag, but for zeros in front of the length. -/
theorem Spells.zeros (spelled : p.Spells digits tag) :
    ∃ zeros rest, p.encode.toList = p.scope.letter :: ':' :: rest ∧
      tag.toList = p.scope.letter :: ':' :: (List.replicate zeros '0' ++ rest) := by
  have filled := padded_natOf spelled.decimal spelled.something
  rw [spelled.length, padded] at filled
  refine ⟨digits.length - (ofNat p.ruleId.utf8ByteSize).length, _, p.toList_encode, ?_⟩
  rw [spelled.text, ← List.append_assoc, filled]

/-- **The reader takes the tags and nothing else.**  A text is read as a scope and an id exactly
if it spells them, and as nothing if it spells no tag.  An encoded tag is read back, unless its
id is longer than a machine word can tell; no two are one text; and what is read as a tag is the
encoded one, but for zeros in front of the length. -/
theorem decode?_exact :
    (∀ (tag : String) (p : Provenance), decode? tag = some p ↔ ∃ digits, p.Spells digits tag) ∧
      (∀ tag : String, decode? tag = none ↔ ∀ p digits, ¬ Spells p digits tag) ∧
      (∀ p : Provenance, decode? p.encode = some p ↔ p.ruleId.utf8ByteSize < Nat.pow 2 64) ∧
      Function.Injective encode ∧
      (∀ (tag : String) (p : Provenance), decode? tag = some p →
        ∃ zeros rest, p.encode.toList = p.scope.letter :: ':' :: rest ∧
          tag.toList = p.scope.letter :: ':' :: (List.replicate zeros '0' ++ rest)) := by
  refine ⟨fun _ _ => decode?_eq_some_iff, fun tag => ?_, fun p => ?_, encode_injective, ?_⟩
  · rw [Option.eq_none_iff_forall_ne_some]
    constructor
    · exact fun unread p digits spelled => unread p spelled.decode?
    · intro unspelled p read
      obtain ⟨digits, spelled⟩ := spells_of_decode? read
      exact unspelled p digits spelled
  · constructor
    · intro read
      obtain ⟨digits, spelled⟩ := spells_of_decode? read
      exact spelled.length ▸ spelled.fits
    · exact p.decode?_encode
  · intro tag p read
    obtain ⟨digits, spelled⟩ := spells_of_decode? read
    exact spelled.zeros

end Provenance

namespace Example

/-- The id of this tag holds a colon and a character of two bytes; its length has zeros in
front. -/
theorem padded_tag :
    Provenance.decode? "G:005:é:42" = some ⟨.group, "é:42"⟩ ∧
      ∃ zeros rest, (Provenance.encode ⟨.group, "é:42"⟩).toList = 'G' :: ':' :: rest ∧
        "G:005:é:42".toList = 'G' :: ':' :: (List.replicate zeros '0' ++ rest) := by
  have read : Provenance.decode? "G:005:é:42" = some ⟨.group, "é:42"⟩ := by decide +kernel
  exact ⟨read, Provenance.decode?_exact.2.2.2.2 _ _ read⟩

end Example
end EventRules
