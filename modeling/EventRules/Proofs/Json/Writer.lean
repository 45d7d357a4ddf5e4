/-
# EventRules.Proofs.Json.Writer -- the compact text of a document tells the document

No two documents that are JSON have one compact text (`Json.write_injective`).  The first
character of a text tells the shape of its document (`Json.head_chars`).  A quoted text ends at
the first quote that is not escaped, and its escapes read back (`Json.quotedRest_escapes`).  A
number ends where the characters of numbers end, and its text tells which number it is
(`Json.numeral_injective`): integers have no point and no exponent, all others do.  So the text
of a document can be cut off what follows it in one way only (`Json.unambiguous`).
-/
import EventRules.Json.Reader
import EventRules.Json.Writer
import EventRules.Proofs.Number.Shortest
import EventRules.Proofs.Tree
namespace EventRules.Json

set_option autoImplicit false

open Text

/-! ## Quoted texts -/

/-- The characters that have an escape of one letter. -/
def named : List Char := ['"', '\\', '\n', '\r', '\t', '\x08', '\x0c']

theorem quotedRest_named {c : Char} (member : c ∈ named) (rest : List Char) :
    quotedRest (escape c ++ rest) = before c (quotedRest rest) := by
  simp only [named, List.mem_cons, List.not_mem_nil, or_false] at member
  rcases member with rfl | rfl | rfl | rfl | rfl | rfl | rfl <;> rfl

theorem escape_unnamed {c : Char} (other : c ∉ named) :
    escape c = if c.toNat < 32 then '\\' :: 'u' :: hexPadded 4 c.toNat else [c] := by
  simp only [named, List.mem_cons, List.not_mem_nil, or_false, not_or] at other
  obtain ⟨quote, backslash, newline, ret, tab, back, feed⟩ := other
  rw [escape, if_neg quote, if_neg backslash, if_neg newline, if_neg ret, if_neg tab, if_neg back,
    if_neg feed]

/-- The four digits of a control character read back. -/
theorem natInBase?_control : ∀ n < 32, natInBase? 16 (hexPadded 4 n) = some n := by
  decide

/-- An escaped character reads back, whatever follows. -/
theorem quotedRest_escape (c : Char) (rest : List Char) :
    quotedRest (escape c ++ rest) = before c (quotedRest rest) := by
  by_cases member : c ∈ named
  · exact quotedRest_named member rest
  rw [escape_unnamed member]
  split
  · rename_i control
    have digits := natInBase?_control c.toNat control
    have unit : unitChar? c.toNat = some c := by
      have low : (0xD800 ≤ c.toNat && c.toNat < 0xE000) = false := by
        simp only [Bool.and_eq_false_iff, decide_eq_false_iff_not]
        omega
      rw [unitChar?, low, if_neg Bool.false_ne_true, Char.ofNat_toNat]
    obtain ⟨first, second, third, fourth, four⟩ : ∃ first second third fourth,
        hexPadded 4 c.toNat = [first, second, third, fourth] := ⟨_, _, _, _, rfl⟩
    rw [four] at digits ⊢
    show quotedRest ('\\' :: 'u' :: first :: second :: third :: fourth :: rest) = _
    rw [quotedRest, digits]
    dsimp only
    rw [unit]
  · rename_i plain
    simp only [named, List.mem_cons, List.not_mem_nil, or_false, not_or] at member
    show quotedRest (c :: rest) = _
    rw [quotedRest, if_neg plain]
    · exact member.1
    · exact fun _ _ _ _ _ backslash => absurd backslash member.2.1
    · exact fun _ _ backslash => absurd backslash member.2.1

/-- A quoted text ends at the quote that was written after it. -/
theorem quotedRest_escapes (chars rest : List Char) :
    quotedRest (chars.flatMap escape ++ '"' :: rest) = some (chars, rest) := by
  induction chars with
  | nil => rfl
  | cons c chars ih =>
      rw [List.flatMap_cons, List.append_assoc, quotedRest_escape, ih]
      rfl

/-- A quoted text and what follows it are told apart. -/
theorem unambiguous_quoted {s t : String} {rest other : List Char}
    (same : quoted s ++ rest = quoted t ++ other) : s = t ∧ rest = other := by
  have texts : s.toList.flatMap escape ++ '"' :: rest = t.toList.flatMap escape ++ '"' :: other := by
    simpa only [quoted, List.cons_append, List.append_assoc, List.nil_append, List.cons.injEq,
      true_and] using same
  have read := quotedRest_escapes s.toList rest
  rw [texts, quotedRest_escapes, Option.some.injEq, Prod.mk.injEq] at read
  exact ⟨String.toList_inj.1 read.1.symm, read.2.symm⟩

/-! ## Numbers -/

/-- Texts of which every character passes a test, before others that do not begin so. -/
theorem unambiguous_span {test : Char → Bool} {a b rest other : List Char}
    (passA : ∀ c ∈ a, test c = true) (passB : ∀ c ∈ b, test c = true)
    (stops : ∀ c ∈ rest.head?, test c = false) (stops' : ∀ c ∈ other.head?, test c = false)
    (same : a ++ rest = b ++ other) : a = b ∧ rest = other := by
  have ended : ∀ {l : List Char}, (∀ c ∈ l.head?, test c = false) → l.takeWhile test = [] := by
    intro l stop
    cases l with
    | nil => rfl
    | cons c l => rw [List.takeWhile_cons_of_neg (by simp [stop c rfl])]
  have texts := congrArg (List.takeWhile test) same
  rw [List.takeWhile_append_of_pos passA, List.takeWhile_append_of_pos passB, ended stops,
    ended stops', List.append_nil, List.append_nil] at texts
  subst texts
  exact ⟨rfl, List.append_cancel_left same⟩

/-- A number has only characters of numbers. -/
theorem isMark_numeral {n : Numeral} (json : n.toDouble?.isSome = true) :
    ∀ c ∈ numeral n, Decimal.isMark c = true := by
  cases n with
  | int n => exact Decimal.isMark_ofInt n
  | double x => exact Decimal.isMark_write .canonical x.shortest
  | minusZero =>
      have text : numeral .minusZero = ['-', '0', '.', '0'] := rfl
      simp [text, Decimal.isMark]
  | infinite _ => cases json
  | undefined => cases json

/-- An integer has no point and no exponent. -/
theorem unmarked_ofInt (n : Int) : '.' ∉ ofInt n ∧ 'e' ∉ ofInt n := by
  have digits : ∀ c ∈ ofNat n.natAbs, c ≠ '.' ∧ c ≠ 'e' := fun c member =>
    ⟨Decimal.ne_of_isDigit (isDigit_of_mem_ofNat member) rfl,
      Decimal.ne_of_isDigit (isDigit_of_mem_ofNat member) rfl⟩
  have point : '.' ∉ ofNat n.natAbs := fun member => (digits _ member).1 rfl
  have mark : 'e' ∉ ofNat n.natAbs := fun member => (digits _ member).2 rfl
  unfold ofInt
  split
  · simp [point, mark]
  · exact ⟨point, mark⟩

theorem ofInt_ne_write (n : Int) (x : Double) : ofInt n ≠ x.write .canonical := by
  intro same
  obtain ⟨point, mark⟩ := unmarked_ofInt n
  rw [same] at point mark
  rcases Decimal.marked_write (rfl : NumberStyle.canonical.wholeMark = true) x.shortest with
    found | found
  · exact point found
  · exact mark found

theorem ofInt_ne_minusZero (n : Int) : ofInt n ≠ ['-', '0', '.', '0'] := by
  intro same
  have point := (unmarked_ofInt n).1
  rw [same] at point
  exact absurd (by decide) point

/-- Zero as a number of a record has no sign. -/
theorem write_ne_minusZero (x : Double) : x.write .canonical ≠ ['-', '0', '.', '0'] := by
  intro text
  obtain ⟨d, read, same⟩ := Decimal.read_write .canonical x.shortest
  have minus : Decimal.read ['-', '0', '.', '0'] = some (⟨true, 0, -1⟩, []) := by decide
  have text' : x.shortest.write .canonical = ['-', '0', '.', '0'] := text
  rw [text', minus] at read
  cases read
  by_cases zero : x.units = 0
  · have sign := same.negative
    rw [Double.shortest_zero zero] at sign
    cases sign
  · have positive := Double.magnitude_shortest_pos zero
    rw [← same.magnitude, Decimal.magnitude] at positive
    simp at positive

/-- The text of a number tells the number. -/
theorem numeral_injective {m n : Numeral} (jsonM : m.toDouble?.isSome = true)
    (jsonN : n.toDouble?.isSome = true) (same : numeral m = numeral n) : m = n := by
  cases m with
  | int i =>
      cases n with
      | int j => rw [ofInt_injective same]
      | double x => exact absurd same (ofInt_ne_write i x)
      | minusZero => exact absurd same (ofInt_ne_minusZero i)
      | infinite _ => cases jsonN
      | undefined => cases jsonN
  | double x =>
      cases n with
      | int j => exact absurd same.symm (ofInt_ne_write j x)
      | double y => rw [Double.write_injective same]
      | minusZero => exact absurd same (write_ne_minusZero x)
      | infinite _ => cases jsonN
      | undefined => cases jsonN
  | minusZero =>
      cases n with
      | int j => exact absurd same.symm (ofInt_ne_minusZero j)
      | double y => exact absurd same.symm (write_ne_minusZero y)
      | minusZero => rfl
      | infinite _ => cases jsonN
      | undefined => cases jsonN
  | infinite _ => cases jsonM
  | undefined => cases jsonM

/-! ## Documents -/

/-- What a document is, apart from what stands in it. -/
inductive Shape where
  | null
  | bool
  | number
  | text
  | list
  | map

/-- The shape of a document. -/
def shape : Tree → Shape
  | .null => .null
  | .bool _ => .bool
  | .number _ => .number
  | .text _ => .text
  | .list _ => .list
  | .map _ => .map

/-- The shape of the document whose text begins with a character; none begins with a comma or
a closing bracket. -/
def shapeOf? (c : Char) : Option Shape :=
  if Decimal.isMark c then some .number
  else if c = 'n' then some .null
  else if c = 't' || c = 'f' then some .bool
  else if c = '"' then some .text
  else if c = '[' then some .list
  else if c = '\x7b' then some .map
  else none

theorem numeral_ne_nil {n : Numeral} (json : n.toDouble?.isSome = true) : numeral n ≠ [] := by
  cases n with
  | int n =>
      rw [numeral, ofInt]
      split
      · exact List.cons_ne_nil _ _
      · exact ofNat_ne_nil _
  | double x =>
      rcases Decimal.marked_write (rfl : NumberStyle.canonical.wholeMark = true) x.shortest with
        found | found
      · exact List.ne_nil_of_mem found
      · exact List.ne_nil_of_mem found
  | minusZero => exact List.cons_ne_nil _ _
  | infinite _ => cases json
  | undefined => cases json

/-- The first character of a text tells the shape of the document. -/
theorem head_chars {t : Tree} (json : t.isJson = true) :
    ∃ c rest, chars t = c :: rest ∧ shapeOf? c = some (shape t) := by
  cases t with
  | null => exact ⟨'n', _, rfl, rfl⟩
  | bool b =>
      cases b with
      | true => exact ⟨'t', _, rfl, rfl⟩
      | false => exact ⟨'f', _, rfl, rfl⟩
  | number n =>
      obtain ⟨c, rest, text⟩ := List.exists_cons_of_ne_nil (numeral_ne_nil json)
      refine ⟨c, rest, text, ?_⟩
      rw [shapeOf?, isMark_numeral json c (text ▸ List.mem_cons_self), if_pos rfl]
      rfl
  | text s => exact ⟨'"', _, rfl, rfl⟩
  | list items => exact ⟨'[', _, by rw [chars], rfl⟩
  | map entries => exact ⟨'\x7b', _, by rw [chars], rfl⟩

/-- What may follow the text of a document inside a document: nothing, a comma, or the bracket
that closes what it stands in. -/
def Ends (rest : List Char) : Prop := ∀ c ∈ rest.head?, c = ',' ∨ c = ']' ∨ c = '\x7d'

theorem ends_nil : Ends [] := by
  rintro c ⟨⟩

theorem Ends.stops {rest : List Char} (ends : Ends rest) :
    ∀ c ∈ rest.head?, Decimal.isMark c = false := by
  intro c head
  rcases ends c head with rfl | rfl | rfl <;> rfl

section Parts

variable {α : Type} {body : List α → List Char} {close : Char}

/-- What follows the first of the parts that a list or a map is written in. -/
def afterFirst (body : List α → List Char) : List α → List Char
  | [] => []
  | part :: rest => ',' :: body (part :: rest)

theorem ends_afterFirst (closes : close = ']' ∨ close = '\x7d') (parts : List α)
    (rest : List Char) : Ends (afterFirst body parts ++ close :: rest) := by
  cases parts with
  | nil =>
      rintro c ⟨⟩
      exact .inr closes
  | cons part parts =>
      rintro c ⟨⟩
      exact .inl rfl

/-- After a part a comma tells that there are more. -/
theorem body_of_afterFirst (empty : body [] = []) (closes : close ≠ ',') {parts parts' : List α}
    {rest other : List Char}
    (same : afterFirst body parts ++ close :: rest = afterFirst body parts' ++ close :: other) :
    body parts ++ close :: rest = body parts' ++ close :: other := by
  cases parts with
  | nil =>
      cases parts' with
      | nil =>
          rw [empty]
          exact same
      | cons _ _ => exact absurd (List.head_eq_of_cons_eq same) closes
  | cons _ _ =>
      cases parts' with
      | nil => exact absurd (List.head_eq_of_cons_eq same).symm closes
      | cons _ _ => exact List.tail_eq_of_cons_eq same

end Parts

theorem itemChars_cons (t : Tree) (rest : List Tree) :
    itemChars (t :: rest) = chars t ++ afterFirst itemChars rest := by
  cases rest with
  | nil => rw [itemChars, afterFirst, List.append_nil]
  | cons next rest => rw [itemChars, afterFirst]

theorem entryChars_cons (k : String) (t : Tree) (rest : List (String × Tree)) :
    entryChars ((k, t) :: rest) =
      quoted k ++ ':' :: (chars t ++ afterFirst entryChars rest) := by
  cases rest with
  | nil => rw [entryChars, afterFirst, List.append_nil]
  | cons next rest => rw [entryChars, afterFirst]

theorem same_shape {t u : Tree} {rest other : List Char} (jsonT : t.isJson = true)
    (jsonU : u.isJson = true) (same : chars t ++ rest = chars u ++ other) : shape t = shape u := by
  obtain ⟨c, _, textT, shapeT⟩ := head_chars jsonT
  obtain ⟨d, _, textU, shapeU⟩ := head_chars jsonU
  rw [textT, textU, List.cons_append, List.cons_append, List.cons.injEq] at same
  rw [same.1, shapeU, Option.some.injEq] at shapeT
  exact shapeT.symm

/-- No document begins with a bracket that closes a list. -/
theorem not_closed {t : Tree} {rest other : List Char} (json : t.isJson = true) {c : Char}
    (closes : shapeOf? c = none) : c :: rest ≠ chars t ++ other := by
  intro same
  obtain ⟨d, _, text, shape⟩ := head_chars json
  rw [text, List.cons_append, List.cons.injEq] at same
  rw [← same.1, closes] at shape
  cases shape

mutual
/-- The text of a document can be cut off what follows it in one way only. -/
theorem unambiguous : (t : Tree) → t.isJson = true → ∀ {u : Tree} {rest other : List Char},
    u.isJson = true → Ends rest → Ends other → chars t ++ rest = chars u ++ other →
      t = u ∧ rest = other
  | .null => by
      intro jsonT u rest other jsonU _ _ same
      have shapes := same_shape jsonT jsonU same
      cases u with
      | null => exact ⟨rfl, List.append_cancel_left same⟩
      | _ => cases shapes
  | .bool a => by
      intro jsonT u rest other jsonU _ _ same
      have shapes := same_shape jsonT jsonU same
      cases u with
      | bool b =>
          cases a with
          | true =>
              cases b with
              | true => exact ⟨rfl, List.append_cancel_left same⟩
              | false => cases same
          | false =>
              cases b with
              | true => cases same
              | false => exact ⟨rfl, List.append_cancel_left same⟩
      | _ => cases shapes
  | .number n => by
      intro jsonT u rest other jsonU ends ends' same
      have shapes := same_shape jsonT jsonU same
      cases u with
      | number m =>
          obtain ⟨text, after⟩ := unambiguous_span (isMark_numeral jsonT) (isMark_numeral jsonU)
            ends.stops ends'.stops same
          rw [numeral_injective jsonT jsonU text]
          exact ⟨rfl, after⟩
      | _ => cases shapes
  | .text s => by
      intro jsonT u rest other jsonU _ _ same
      have shapes := same_shape jsonT jsonU same
      cases u with
      | text s' =>
          obtain ⟨text, after⟩ := unambiguous_quoted same
          rw [text]
          exact ⟨rfl, after⟩
      | _ => cases shapes
  | .list items => by
      intro jsonT u rest other jsonU _ _ same
      have shapes := same_shape jsonT jsonU same
      cases u with
      | list items' =>
          rw [chars, chars, List.cons_append, List.cons_append, List.cons.injEq] at same
          rw [List.append_assoc, List.append_assoc] at same
          obtain ⟨text, after⟩ := unambiguous_items items jsonT jsonU same.2
          rw [text]
          exact ⟨rfl, after⟩
      | _ => cases shapes
  | .map entries => by
      intro jsonT u rest other jsonU _ _ same
      have shapes := same_shape jsonT jsonU same
      cases u with
      | map entries' =>
          rw [chars, chars, List.cons_append, List.cons_append, List.cons.injEq] at same
          rw [List.append_assoc, List.append_assoc] at same
          obtain ⟨text, after⟩ := unambiguous_entries entries jsonT jsonU same.2
          rw [text]
          exact ⟨rfl, after⟩
      | _ => cases shapes

theorem unambiguous_items : (items : List Tree) → Tree.areJson items = true →
    ∀ {items' : List Tree} {rest other : List Char}, Tree.areJson items' = true →
      itemChars items ++ (']' :: rest) = itemChars items' ++ (']' :: other) →
        items = items' ∧ rest = other
  | [] => by
      intro _ items' rest other json same
      cases items' with
      | nil => exact ⟨rfl, List.tail_eq_of_cons_eq same⟩
      | cons u us =>
          rw [Tree.areJson, Bool.and_eq_true] at json
          rw [itemChars_cons, List.append_assoc] at same
          exact absurd same (not_closed json.1 rfl)
  | t :: ts => by
      intro jsonT items' rest other json same
      rw [Tree.areJson, Bool.and_eq_true] at jsonT
      rw [itemChars_cons, List.append_assoc] at same
      cases items' with
      | nil => exact absurd same.symm (not_closed jsonT.1 rfl)
      | cons u us =>
          rw [Tree.areJson, Bool.and_eq_true] at json
          rw [itemChars_cons, List.append_assoc] at same
          obtain ⟨first, after⟩ := unambiguous t jsonT.1 json.1
            (ends_afterFirst (.inl rfl) _ _) (ends_afterFirst (.inl rfl) _ _) same
          obtain ⟨others, closed⟩ := unambiguous_items ts jsonT.2 json.2
            (body_of_afterFirst (by rw [itemChars]) (by decide) after)
          rw [first, others]
          exact ⟨rfl, closed⟩

theorem unambiguous_entries : (entries : List (String × Tree)) → Tree.holdJson entries = true →
    ∀ {entries' : List (String × Tree)} {rest other : List Char}, Tree.holdJson entries' = true →
      entryChars entries ++ ('\x7d' :: rest) = entryChars entries' ++ ('\x7d' :: other) →
        entries = entries' ∧ rest = other
  | [] => by
      intro _ entries' rest other _ same
      cases entries' with
      | nil => exact ⟨rfl, List.tail_eq_of_cons_eq same⟩
      | cons e es =>
          rw [entryChars_cons, List.append_assoc] at same
          cases same
  | (k, t) :: ts => by
      intro jsonT entries' rest other json same
      rw [Tree.holdJson, Bool.and_eq_true] at jsonT
      rw [entryChars_cons, List.append_assoc] at same
      cases entries' with
      | nil => cases same
      | cons e us =>
          obtain ⟨key, u⟩ := e
          rw [Tree.holdJson, Bool.and_eq_true] at json
          rw [entryChars_cons, List.append_assoc] at same
          obtain ⟨keys, values⟩ := unambiguous_quoted same
          rw [List.cons_append, List.cons_append, List.cons.injEq, List.append_assoc,
            List.append_assoc] at values
          obtain ⟨first, after⟩ := unambiguous t jsonT.1 json.1
            (ends_afterFirst (.inr rfl) _ _) (ends_afterFirst (.inr rfl) _ _) values.2
          obtain ⟨others, closed⟩ := unambiguous_entries ts jsonT.2 json.2
            (body_of_afterFirst (by rw [entryChars]) (by decide) after)
          rw [keys, first, others]
          exact ⟨rfl, closed⟩
end

/-- **Documents with one compact text are one document.** -/
theorem write_injective {t u : Tree} (jsonT : t.isJson = true) (jsonU : u.isJson = true)
    (same : write t = write u) : t = u := by
  have texts : chars t ++ [] = chars u ++ [] := by
    rw [List.append_nil, List.append_nil]
    exact String.ofList_injective same
  exact (unambiguous t jsonT jsonU ends_nil ends_nil texts).1

end EventRules.Json
