/-
# EventRules.Notify.EnvReference -- variables inside settings

A text may refer to variables of the environment as `${NAME}`.  References are
replaced from left to right, each up to its first closing brace; the value that is
put in is not looked at again.  The first reference that cannot be replaced is
the error.
-/
import EventRules.Settings
namespace EventRules.EnvReference

set_option autoImplicit false

/-- Why a text cannot be expanded. -/
inductive Fault where
  /-- A reference has no closing brace. -/
  | unclosed
  /-- A variable is not set. -/
  | unset (name : String)
  deriving DecidableEq, Repr

/-- The wording, for the text that was to be expanded. -/
def Fault.message (input : String) : Fault → String
  | unclosed => "unclosed env var reference in: " ++ input
  | unset name => "env var not found: " ++ name

/-- The characters before and after the first closing brace. -/
def splitBrace : List Char → Option (List Char × List Char)
  | [] => none
  | c :: rest =>
      if c = '\x7d' then some ([], rest)
      else (splitBrace rest).map fun (before, after) => (c :: before, after)

theorem splitBrace_length {chars before after : List Char}
    (found : splitBrace chars = some (before, after)) : after.length < chars.length := by
  induction chars generalizing before with
  | nil => cases found
  | cons c rest ih =>
      unfold splitBrace at found
      split at found
      · cases found
        exact Nat.lt_succ_self _
      · obtain ⟨⟨inner, tail⟩, here, same⟩ := Option.map_eq_some_iff.1 found
        cases same
        exact Nat.lt_succ_of_lt (ih here)

/-- Put characters before what follows. -/
def before (chars : List Char) (rest : Except Fault (List Char)) : Except Fault (List Char) :=
  rest.map (chars ++ ·)

/-- Replace every reference. -/
def expandChars (env : Environment) : List Char → Except Fault (List Char)
  | [] => .ok []
  | c :: rest =>
      if c = '$' ∧ rest.head? = some '\x7b' then
        match found : splitBrace rest.tail with
        | none => .error .unclosed
        | some (name, after) =>
            have := splitBrace_length found
            match Keyed.get? (String.ofList name) env with
            | none => .error (.unset (String.ofList name))
            | some value => before value.toList (expandChars env after)
      else before [c] (expandChars env rest)
termination_by chars => chars.length
decreasing_by
  · simp only [List.length_tail, List.length_cons] at *
    omega
  · exact Nat.lt_succ_self _

/-- The names of the variables that a text refers to. -/
def names : List Char → List String
  | [] => []
  | c :: rest =>
      match if c = '$' ∧ rest.head? = some '\x7b' then splitBrace rest.tail else none with
      | some (name, _) => String.ofList name :: names rest
      | none => names rest

/-- Replace every reference in a text. -/
def expand (env : Environment) (input : String) : Except Fault String :=
  (expandChars env input.toList).map String.ofList

end EventRules.EnvReference
