/-
# EventRules.Proofs.Notify.EnvReference -- the one way to read references

A reference opens at a dollar sign that has an opening brace behind it and closes at the first
closing brace after that.  `EnvReference.OpensAt` says where the first reference of a text opens,
and there is no more than one such place (`OpensAt.unique`).  A text reads as references, each
with the literal before it, until none opens any more or one is not closed
(`EnvReference.Reads`).

Every text reads so in one way (`Reads.unique`, `exists_reads`), in which no environment has a
say.  Expanding follows this reading: it gives the literals as they stand with the values between
them, which nothing looks at again, or else the fault of the first reference that cannot be
replaced (`EnvReference.expand_exact`).
-/
import EventRules.Notify.EnvReference
namespace EventRules.EnvReference

set_option autoImplicit false

/-! ## Where references open and close -/

/-- The first place where a reference opens is between `literal` and `inside`. -/
structure OpensAt (chars literal inside : List Char) : Prop where
  split : chars = literal ++ '$' :: '\x7b' :: inside
  first : ∀ before after, chars = before ++ '$' :: '\x7b' :: after →
    literal.length ≤ before.length

/-- No reference opens in a text. -/
def Unopened (chars : List Char) : Prop :=
  ∀ before after, chars ≠ before ++ '$' :: '\x7b' :: after

/-- The first closing brace is between `name` and `after`. -/
structure ClosesAt (inside name after : List Char) : Prop where
  split : inside = name ++ '\x7d' :: after
  first : '\x7d' ∉ name

section Marks

variable {c : Char} {chars rest literal inside name after : List Char}

theorem OpensAt.unique {literal' inside' : List Char} (one : OpensAt chars literal inside)
    (other : OpensAt chars literal' inside') : literal = literal' ∧ inside = inside' := by
  have length : literal.length = literal'.length :=
    Nat.le_antisymm (one.first _ _ other.split) (other.first _ _ one.split)
  obtain ⟨same, tail⟩ := List.append_inj (one.split.symm.trans other.split) length
  cases tail
  exact ⟨same, rfl⟩

/-- Whether a reference opens at the first character of a text. -/
def OpensHere (c : Char) (rest : List Char) : Prop := c = '$' ∧ rest.head? = some '\x7b'

theorem opensAt_of_here (here : OpensHere c rest) : OpensAt (c :: rest) [] rest.tail := by
  obtain ⟨rfl, brace⟩ := here
  obtain ⟨inside, rfl⟩ := List.head?_eq_some_iff.1 brace
  exact ⟨rfl, fun _ _ _ => Nat.zero_le _⟩

/-- Where no reference opens at the first character, the first one opens further on. -/
theorem opensAt_cons (elsewhere : ¬ OpensHere c rest) :
    OpensAt (c :: rest) (c :: literal) inside ↔ OpensAt rest literal inside := by
  constructor
  · intro opens
    refine ⟨(List.cons.inj opens.split).2, fun before after split => ?_⟩
    exact Nat.succ_le_succ_iff.1 (opens.first (c :: before) after (congrArg (c :: ·) split))
  · intro opens
    refine ⟨congrArg (c :: ·) opens.split, fun before after split => ?_⟩
    cases before with
    | nil =>
        cases split
        exact absurd ⟨rfl, rfl⟩ elsewhere
    | cons _ before => exact Nat.succ_le_succ (opens.first before after (List.cons.inj split).2)

theorem unopened_cons (elsewhere : ¬ OpensHere c rest) (unopened : Unopened rest) :
    Unopened (c :: rest) := by
  intro before after split
  cases before with
  | nil =>
      cases split
      exact elsewhere ⟨rfl, rfl⟩
  | cons _ before => exact unopened before after (List.cons.inj split).2

theorem Unopened.elsewhere (unopened : Unopened (c :: rest)) : ¬ OpensHere c rest := fun here =>
  unopened _ _ (opensAt_of_here here).split

/-- A reference opens somewhere, and then somewhere first, or nowhere. -/
theorem exists_opensAt (chars : List Char) :
    (∃ literal inside, OpensAt chars literal inside) ∨ Unopened chars := by
  induction chars with
  | nil =>
      refine .inr fun before after split => ?_
      cases before <;> cases split
  | cons c rest ih =>
      by_cases here : OpensHere c rest
      · exact .inl ⟨[], rest.tail, opensAt_of_here here⟩
      · rcases ih with ⟨literal, inside, opens⟩ | unopened
        · exact .inl ⟨c :: literal, inside, (opensAt_cons here).2 opens⟩
        · exact .inr (unopened_cons here unopened)

theorem closesAt_of_splitBrace (found : splitBrace inside = some (name, after)) :
    ClosesAt inside name after := by
  induction inside generalizing name with
  | nil => cases found
  | cons c rest ih =>
      unfold splitBrace at found
      split at found
      · rename_i brace
        cases found
        exact ⟨by rw [brace, List.nil_append], List.not_mem_nil⟩
      · rename_i other
        obtain ⟨⟨further, tail⟩, later, same⟩ := Option.map_eq_some_iff.1 found
        cases same
        obtain ⟨split, first⟩ := ih later
        refine ⟨by rw [split, List.cons_append], fun member => ?_⟩
        rcases List.mem_cons.1 member with brace | member
        · exact other brace.symm
        · exact first member

theorem splitBrace_eq_none : splitBrace inside = none ↔ '\x7d' ∉ inside := by
  induction inside with
  | nil => exact ⟨fun _ => List.not_mem_nil, fun _ => rfl⟩
  | cons c rest ih =>
      rw [splitBrace, List.mem_cons, not_or, ← ih]
      by_cases brace : c = '\x7d'
      · simp [brace]
      · simp [brace, Ne.symm brace]

theorem ClosesAt.splitBrace (closes : ClosesAt inside name after) :
    splitBrace inside = some (name, after) := by
  obtain ⟨rfl, first⟩ := closes
  induction name with
  | nil => exact if_pos rfl
  | cons c name ih =>
      have other : c ≠ '\x7d' := fun brace => first (brace ▸ List.mem_cons_self)
      rw [List.cons_append, EnvReference.splitBrace, if_neg other,
        ih fun member => first (List.mem_cons_of_mem c member)]
      rfl

theorem ClosesAt.unique {name' after' : List Char} (one : ClosesAt inside name after)
    (other : ClosesAt inside name' after') : name = name' ∧ after = after' :=
  Prod.mk.inj (Option.some.inj (one.splitBrace.symm.trans other.splitBrace))

end Marks

/-! ## The reading of a text -/

/-- A reference, with the literal between it and the reference before. -/
structure Reference where
  literal : List Char
  name : List Char

/-- How a text ends after its references. -/
inductive Ending where
  /-- With a literal in which none opens. -/
  | plain (chars : List Char)
  /-- With one that opens and is not closed. -/
  | unclosed (literal inside : List Char)

/-- A text reads as references and an ending. -/
inductive Reads : List Char → List Reference → Ending → Prop
  | plain {chars : List Char} (unopened : Unopened chars) : Reads chars [] (.plain chars)
  | unclosed {chars literal inside : List Char} (opens : OpensAt chars literal inside)
      (never : '\x7d' ∉ inside) : Reads chars [] (.unclosed literal inside)
  | reference {chars literal inside name after : List Char} {refs : List Reference}
      {ending : Ending} (opens : OpensAt chars literal inside)
      (closes : ClosesAt inside name after) (others : Reads after refs ending) :
      Reads chars (⟨literal, name⟩ :: refs) ending

theorem Reads.unique {chars : List Char} {refs refs' : List Reference} {ending ending' : Ending}
    (one : Reads chars refs ending) (other : Reads chars refs' ending') :
    refs = refs' ∧ ending = ending' := by
  induction one generalizing refs' ending' with
  | plain unopened =>
      cases other with
      | plain => exact ⟨rfl, rfl⟩
      | unclosed opens => exact absurd opens.split (unopened _ _)
      | reference opens => exact absurd opens.split (unopened _ _)
  | unclosed opens never =>
      cases other with
      | plain unopened => exact absurd opens.split (unopened _ _)
      | unclosed opens' =>
          obtain ⟨rfl, rfl⟩ := opens.unique opens'
          exact ⟨rfl, rfl⟩
      | reference opens' closes' =>
          obtain ⟨rfl, rfl⟩ := opens.unique opens'
          exact absurd (by simp [closes'.split]) never
  | reference opens closes _ ih =>
      cases other with
      | plain unopened => exact absurd opens.split (unopened _ _)
      | unclosed opens' never =>
          obtain ⟨rfl, rfl⟩ := opens.unique opens'
          exact absurd (by simp [closes.split]) never
      | reference opens' closes' others' =>
          obtain ⟨rfl, rfl⟩ := opens.unique opens'
          obtain ⟨rfl, rfl⟩ := closes.unique closes'
          obtain ⟨rfl, rfl⟩ := ih others'
          exact ⟨rfl, rfl⟩

/-- Every text has a reading. -/
theorem exists_reads (chars : List Char) : ∃ refs ending, Reads chars refs ending := by
  -- what follows a reference is shorter than the text
  induction size : chars.length using Nat.strongRecOn generalizing chars with
  | ind length ih =>
    rcases exists_opensAt chars with ⟨literal, inside, opens⟩ | unopened
    · cases closing : splitBrace inside with
      | none => exact ⟨[], _, .unclosed opens (splitBrace_eq_none.1 closing)⟩
      | some found =>
          obtain ⟨name, after⟩ := found
          have closes := closesAt_of_splitBrace closing
          have shorter : after.length < length := by
            rw [← size, opens.split, closes.split]
            simp
            omega
          obtain ⟨refs, ending, reads⟩ := ih _ shorter after rfl
          exact ⟨_, ending, .reference opens closes reads⟩
    · exact ⟨[], _, .plain unopened⟩

/-- A reference as it is written. -/
def braced (name : List Char) : List Char := '$' :: '\x7b' :: (name ++ ['\x7d'])

/-- The ending as it is written. -/
def Ending.chars : Ending → List Char
  | plain chars => chars
  | unclosed literal inside => literal ++ '$' :: '\x7b' :: inside

/-- The literals in order, with a text for its name in place of each reference, and the ending. -/
def filled (fill : List Char → List Char) (refs : List Reference) (ending : Ending) :
    List Char :=
  refs.foldr (fun r rest => r.literal ++ (fill r.name ++ rest)) ending.chars

theorem Reads.filled_braced {chars : List Char} {refs : List Reference} {ending : Ending}
    (reads : Reads chars refs ending) : filled braced refs ending = chars := by
  induction reads with
  | plain => rfl
  | unclosed opens => exact opens.split.symm
  | reference opens closes _ ih =>
      rw [filled] at ih
      rw [filled, List.foldr_cons, ih, opens.split, closes.split, braced]
      simp

/-! ## What expanding makes of it -/

section Expanding

variable {env : Environment} {c : Char} {chars rest literal inside name after : List Char}

/-- The value of a variable, by the characters of its name. -/
def value? (env : Environment) (name : List Char) : Option String :=
  Keyed.get? (String.ofList name) env

/-- What comes of a text that reads as references and an ending. -/
def outcome (env : Environment) : List Reference → Ending → Except Fault (List Char)
  | [], .plain chars => .ok chars
  | [], .unclosed _ _ => .error .unclosed
  | r :: refs, ending =>
      match value? env r.name with
      | none => .error (.unset (String.ofList r.name))
      | some value => before r.literal (before value.toList (outcome env refs ending))

theorem before_before (chars more : List Char) (rest : Except Fault (List Char)) :
    before chars (before more rest) = before (chars ++ more) rest := by
  cases rest <;> simp [before, Except.map]

theorem expandChars_cons (elsewhere : ¬ OpensHere c rest) :
    expandChars env (c :: rest) = before [c] (expandChars env rest) := by
  rw [expandChars]
  exact if_neg elsewhere

theorem expandChars_unopened (unopened : Unopened chars) :
    expandChars env chars = .ok chars := by
  induction chars with
  | nil => rw [expandChars]
  | cons c rest ih =>
      have later : Unopened rest := fun before after split =>
        unopened (c :: before) after (congrArg (c :: ·) split)
      rw [expandChars_cons unopened.elsewhere, ih later]
      rfl

/-- What stands before the first reference is copied. -/
theorem expandChars_opensAt (opens : OpensAt chars literal inside) :
    expandChars env chars = before literal (expandChars env ('$' :: '\x7b' :: inside)) := by
  induction literal generalizing chars with
  | nil =>
      rw [opens.split, List.nil_append]
      cases expandChars env ('$' :: '\x7b' :: inside) <;> rfl
  | cons c literal ih =>
      obtain ⟨rest, rfl⟩ : ∃ rest, chars = c :: rest := ⟨_, opens.split⟩
      have elsewhere : ¬ OpensHere c rest := fun here =>
        absurd (opens.unique (opensAt_of_here here)).1 (List.cons_ne_nil _ _)
      rw [expandChars_cons elsewhere, ih ((opensAt_cons elsewhere).1 opens), before_before]
      rfl

/-- What happens at a reference. -/
theorem expandChars_reference :
    expandChars env ('$' :: '\x7b' :: inside) =
      match splitBrace inside with
      | none => .error .unclosed
      | some (name, after) =>
          match value? env name with
          | none => .error (.unset (String.ofList name))
          | some value => before value.toList (expandChars env after) := by
  rw [expandChars, if_pos ⟨rfl, rfl⟩]
  split <;> rename_i found <;> rw [List.tail_cons] at found <;> rw [found]
  rfl

/-- Expanding follows the reading of the text. -/
theorem expandChars_of_reads {refs : List Reference} {ending : Ending}
    (reads : Reads chars refs ending) (env : Environment) :
    expandChars env chars = outcome env refs ending := by
  induction reads with
  | plain unopened => exact expandChars_unopened unopened
  | unclosed opens never =>
      rw [expandChars_opensAt opens, expandChars_reference, splitBrace_eq_none.2 never]
      rfl
  | reference opens closes _ ih =>
      rw [expandChars_opensAt opens, expandChars_reference, closes.splitBrace, outcome, ← ih]
      dsimp only
      split <;> rfl

end Expanding

/-! ## Success and the first fault -/

/-- A reference names a variable that is set. -/
def Reference.IsSet (env : Environment) (r : Reference) : Prop :=
  (value? env r.name).isSome = true

/-- The characters of the value of a variable that is set. -/
def valueChars (env : Environment) (name : List Char) : List Char :=
  ((value? env name).getD "").toList

/-- The first reference that cannot be replaced is at fault: one that names no variable that is
set, or else the one that is not closed. -/
def FirstFault (env : Environment) (refs : List Reference) (ending : Ending) : Fault → Prop
  | .unset name => ∃ earlier r later, refs = earlier ++ r :: later ∧
      (∀ e ∈ earlier, e.IsSet env) ∧ ¬ r.IsSet env ∧ name = String.ofList r.name
  | .unclosed => (∀ r ∈ refs, r.IsSet env) ∧ ∃ literal inside, ending = .unclosed literal inside

section Outcome

variable {env : Environment} {refs : List Reference} {ending : Ending}

theorem before_eq_ok {chars all : List Char} {rest : Except Fault (List Char)} :
    before chars rest = .ok all ↔ ∃ more, rest = .ok more ∧ all = chars ++ more := by
  cases rest <;> simp [before, Except.map, eq_comm]

theorem before_eq_error {chars : List Char} {rest : Except Fault (List Char)} {fault : Fault} :
    before chars rest = .error fault ↔ rest = .error fault := by
  cases rest <;> simp [before, Except.map]

theorem outcome_eq_ok {all : List Char} :
    outcome env refs ending = .ok all ↔
      (∀ r ∈ refs, r.IsSet env) ∧ (∃ last, ending = .plain last) ∧
        all = filled (valueChars env) refs ending := by
  induction refs generalizing all with
  | nil =>
      cases ending <;> simp [outcome, filled, Ending.chars, eq_comm]
  | cons r refs ih =>
      rw [outcome, List.forall_mem_cons, filled, List.foldr_cons]
      cases found : value? env r.name with
      | none => simp [Reference.IsSet, found]
      | some value =>
          have set : r.IsSet env := by simp [Reference.IsSet, found]
          simp only [before_eq_ok, ih, set, true_and, valueChars, found, Option.getD_some]
          constructor
          · rintro ⟨_, ⟨_, ⟨fine, ends, rfl⟩, rfl⟩, rfl⟩
            exact ⟨fine, ends, rfl⟩
          · rintro ⟨fine, ends, rfl⟩
            exact ⟨_, ⟨_, ⟨fine, ends, rfl⟩, rfl⟩, rfl⟩

theorem firstFault_nil {fault : Fault} :
    FirstFault env [] ending fault ↔
      fault = .unclosed ∧ ∃ literal inside, ending = .unclosed literal inside := by
  cases fault <;> simp [FirstFault]

theorem firstFault_of_set {r : Reference} {fault : Fault} (set : r.IsSet env) :
    FirstFault env (r :: refs) ending fault ↔ FirstFault env refs ending fault := by
  cases fault with
  | unset name =>
      constructor
      · rintro ⟨earlier, culprit, later, split, fine, missing, named⟩
        cases earlier with
        | nil =>
            cases split
            exact absurd set missing
        | cons _ earlier =>
            cases split
            exact ⟨earlier, culprit, later, rfl, (List.forall_mem_cons.1 fine).2, missing, named⟩
      · rintro ⟨earlier, culprit, later, rfl, fine, missing, named⟩
        exact ⟨r :: earlier, culprit, later, rfl, List.forall_mem_cons.2 ⟨set, fine⟩, missing,
          named⟩
  | unclosed => simp [FirstFault, set]

theorem firstFault_of_unset {r : Reference} {fault : Fault} (missing : ¬ r.IsSet env) :
    FirstFault env (r :: refs) ending fault ↔ fault = .unset (String.ofList r.name) := by
  cases fault with
  | unset name =>
      constructor
      · rintro ⟨earlier, culprit, later, split, fine, -, named⟩
        cases earlier with
        | nil =>
            cases split
            rw [named]
        | cons _ earlier =>
            cases split
            exact absurd (fine r List.mem_cons_self) missing
      · rintro ⟨⟩
        exact ⟨[], r, refs, rfl, by simp, missing, rfl⟩
  | unclosed => simp [FirstFault, missing]

theorem outcome_eq_error {fault : Fault} :
    outcome env refs ending = .error fault ↔ FirstFault env refs ending fault := by
  induction refs with
  | nil =>
      rw [firstFault_nil]
      cases ending <;> simp [outcome, eq_comm]
  | cons r refs ih =>
      rw [outcome]
      cases found : value? env r.name with
      | none =>
          have missing : ¬ r.IsSet env := by simp [Reference.IsSet, found]
          rw [firstFault_of_unset missing]
          simp [eq_comm]
      | some value =>
          have set : r.IsSet env := by simp [Reference.IsSet, found]
          rw [firstFault_of_set set, ← ih, before_eq_error, before_eq_error]

end Outcome

/-- **Expansion is exact.**  There is exactly one way to read a text as references and an ending,
and with its names in braces it is the text again.  In every environment expanding succeeds
exactly when every reference is closed and names a variable that is set, and gives the literals
as they stand with the values in place of the references; otherwise the fault is that of the
first reference that is not closed or names no variable that is set. -/
theorem expand_exact (input : String) :
    ∃ refs ending, Reads input.toList refs ending ∧
      (∀ refs' ending', Reads input.toList refs' ending' → refs' = refs ∧ ending' = ending) ∧
      filled braced refs ending = input.toList ∧
      ∀ env : Environment,
        (∀ text, expand env input = .ok text ↔
          (∀ r ∈ refs, r.IsSet env) ∧ (∃ last, ending = .plain last) ∧
            text.toList = filled (valueChars env) refs ending) ∧
        ∀ fault, expand env input = .error fault ↔ FirstFault env refs ending fault := by
  obtain ⟨refs, ending, reads⟩ := exists_reads input.toList
  refine ⟨refs, ending, reads, fun _ _ reads' => reads'.unique reads, reads.filled_braced,
    fun env => ⟨fun text => ?_, fun fault => ?_⟩⟩
  · rw [expand, expandChars_of_reads reads, ← outcome_eq_ok]
    cases outcome env refs ending <;> simp [Except.map, String.ext_iff, eq_comm]
  · rw [expand, expandChars_of_reads reads, ← outcome_eq_error]
    cases outcome env refs ending <;> simp [Except.map]

/-- A lone dollar sign and a lone brace stay, and so does a value that looks like a reference. -/
example : expand [("A", "$\x7bB\x7d")] "$$\x7bA\x7d\x7d$" = .ok "$$\x7bB\x7d\x7d$" := by cbv

end EventRules.EnvReference
