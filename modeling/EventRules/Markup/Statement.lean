/-
# EventRules.Markup.Statement -- statements of message templates

A template is a list of statements.  The parts of a template are read in order;
a statement that has a body takes the parts up to the statement that ends it.
`Statement.ofTemplate?` reads a whole template: this is what makes it well formed.
-/
import EventRules.Markup.Expr
namespace EventRules.Markup

set_option autoImplicit false

/-- What a value is bound to: a name, or a list of targets for its items. -/
inductive Target where
  | name (s : String)
  | list (items : List Target)
  deriving Inhabited

/-- A filter with its arguments. -/
structure FilterCall where
  name : String
  args : List (String × Expr)

/-- A statement. -/
inductive Statement where
  | text (chars : List Char)
  | output (e : Expr)
  | choose (condition : Expr) (whenTrue whenFalse : List Statement)
  | loop (target : Target) (source : Expr) (only : Option Expr) (body whenNone : List Statement)
  | set (target : Target) (value : Expr)
  | capture (name : String) (filters : List FilterCall) (body : List Statement)
  | scope (bindings : List (Target × Expr)) (body : List Statement)
  | filtered (filters : List FilterCall) (body : List Statement)
  | evaluate (e : Expr)
  /-- Something that needs another template. -/
  | foreign
  deriving Inhabited

namespace Statement

open EventRules.Markup.Expr (take takeName)

mutual
/-- Targets separated by commas. -/
def target : Nat → List Token → Option (Target × List Token)
  | 0, _ => none
  | fuel + 1, tokens => do
      let (first, rest) ← oneTarget fuel tokens
      match take "," rest with
      | none => some (first, rest)
      | some rest => do
          let (more, rest) ← moreTargets fuel rest
          some (.list (first :: more), rest)

/-- Targets after a comma, which may be the last. -/
def moreTargets : Nat → List Token → Option (List Target × List Token)
  | 0, _ => none
  | fuel + 1, tokens =>
      match oneTarget fuel tokens with
      | none => some ([], tokens)
      | some (first, rest) =>
          match take "," rest with
          | none => some ([first], rest)
          | some rest => (moreTargets fuel rest).map fun (more, rest) => (first :: more, rest)

/-- A name, or targets in brackets. -/
def oneTarget : Nat → List Token → Option (Target × List Token)
  | 0, _ => none
  | fuel + 1, tokens =>
      match tokens with
      | .name "in" :: _ => none
      | .name s :: rest => some (.name s, rest)
      | .mark "(" :: rest => do
          let (t, rest) ← target fuel rest
          let rest ← take ")" rest
          some (t, rest)
      | _ => none
end

/-- Read a target at the front of tokens. -/
def readTarget (tokens : List Token) : Option (Target × List Token) :=
  target (4 * (tokens.length + 1)) tokens

/-- Filters separated by bars. -/
def readFilters : Nat → List Token → Option (List FilterCall × List Token)
  | 0, _ => none
  | fuel + 1, .name s :: rest => do
      let (args, rest) ←
        match take "(" rest with
        | some rest => Expr.arguments (Expr.fuelFor rest) rest
        | none => some ([], rest)
      match take "|" rest with
      | some rest => (readFilters fuel rest).map fun (fs, rest) => (⟨s, args⟩ :: fs, rest)
      | none => some ([⟨s, args⟩], rest)
  | _ + 1, _ => none

/-- The filters that tokens are as a whole. -/
def wholeFilters? (tokens : List Token) : Option (List FilterCall) :=
  match readFilters (tokens.length + 1) tokens with
  | some (fs, []) => some fs
  | _ => none

/-- Bindings separated by commas. -/
def readBindings : Nat → List Token → Option (List (Target × Expr))
  | 0, _ => none
  | _ + 1, [] => some []
  | fuel + 1, tokens => do
      let (t, rest) ← oneTarget (4 * (tokens.length + 1)) tokens
      let rest ← take "=" rest
      let (e, rest) ← Expr.read rest
      match rest with
      | [] => some [(t, e)]
      | rest => do
          let rest ← take "," rest
          let more ← readBindings fuel rest
          some ((t, e) :: more)

/-- The head of a loop: its target, what it goes through, and a condition. -/
def readLoop (tokens : List Token) : Option (Target × Expr × Option Expr) := do
  let (t, rest) ← readTarget tokens
  let rest ← takeName "in" rest
  let (e, rest) ← Expr.readPlain rest
  let (only, rest) ←
    match takeName "if" rest with
    | some rest => (Expr.read rest).map fun (c, rest) => (some c, rest)
    | none => some (none, rest)
  match rest with
  | [] => some (t, e, only)
  | [.name "recursive"] => some (t, e, only)
  | _ => none

/-- The parts of a template after a body, with the tokens of the statement that
ended it; no tokens at the end of the template. -/
abbrev Ended := List Token × List Part

/-- Whether a statement ends a body that ends at one of some words. -/
def endsBody (ends : List String) : List Token → Bool
  | .name s :: _ => ends.contains s
  | _ => false

/-- Whether tokens are one word, or one word and a name. -/
def closes (word : String) (nameAllowed : Bool) : List Token → Bool
  | [.name s] => s == word
  | [.name s, .name _] => nameAllowed && s == word
  | _ => false

mutual
/-- Statements up to one that starts with one of the words `ends`; with no words,
up to the end of the template. -/
def body : Nat → List String → List Part → Option (List Statement × Ended)
  | 0, _, _ => none
  | _ + 1, ends, [] => if ends.isEmpty then some ([], [], []) else none
  | fuel + 1, ends, part :: rest =>
      match part with
      | .text chars => (body fuel ends rest).map fun (ss, e) => (.text chars :: ss, e)
      | .output tokens => do
          let e ← Expr.whole? tokens
          (body fuel ends rest).map fun (ss, ended) => (.output e :: ss, ended)
      | .statement tokens =>
          if endsBody ends tokens then some ([], tokens, rest)
          else do
            let (s, rest) ← statement fuel tokens rest
            (body fuel ends rest).map fun (ss, ended) => (s :: ss, ended)

/-- A statement from its tokens, with the parts of its body. -/
def statement : Nat → List Token → List Part → Option (Statement × List Part)
  | 0, _, _ => none
  | fuel + 1, tokens, rest =>
      match tokens with
      | .name "if" :: tokens => branches fuel tokens rest
      | .name "for" :: tokens => do
          let (t, e, only) ← readLoop tokens
          let (ss, ended, rest) ← body fuel ["else", "endfor"] rest
          if closes "endfor" false ended then some (.loop t e only ss [], rest)
          else if closes "else" false ended then do
            let (others, ended, rest) ← body fuel ["endfor"] rest
            if closes "endfor" false ended then some (.loop t e only ss others, rest) else none
          else none
      | .name "set" :: tokens => setting fuel tokens rest
      | .name "with" :: tokens => do
          let bindings ← readBindings (tokens.length + 1) tokens
          let (ss, ended, rest) ← body fuel ["endwith"] rest
          if closes "endwith" false ended then some (.scope bindings ss, rest) else none
      | .name "filter" :: tokens => do
          let fs ← wholeFilters? tokens
          let (ss, ended, rest) ← body fuel ["endfilter"] rest
          if closes "endfilter" false ended then some (.filtered fs ss, rest) else none
      | [.name "block", .name _] => do
          let (ss, ended, rest) ← body fuel ["endblock"] rest
          if closes "endblock" true ended then some (.scope [] ss, rest) else none
      | .name "autoescape" :: tokens => do
          let _ ← Expr.whole? tokens
          let (ss, ended, rest) ← body fuel ["endautoescape"] rest
          if closes "endautoescape" false ended then some (.scope [] ss, rest) else none
      | .name "do" :: tokens =>
          match Expr.whole? tokens with
          | some (.call f args) => some (.evaluate (.call f args), rest)
          | _ => none
      | .name "include" :: tokens => do
          let (_, ended) ← Expr.read tokens
          if ended.isEmpty then some (.foreign, rest)
          else if ended = [.name "ignore", .name "missing"] then some (.text [], rest)
          else none
      | .name "extends" :: tokens => (Expr.whole? tokens).map fun _ => (.foreign, rest)
      | .name "import" :: tokens => do
          let (_, ended) ← Expr.read tokens
          match ended with
          | [.name "as", .name _] => some (.foreign, rest)
          | _ => none
      | _ => none

/-- The branches of a choice, after the word before the condition. -/
def branches : Nat → List Token → List Part → Option (Statement × List Part)
  | 0, _, _ => none
  | fuel + 1, tokens, rest => do
      let condition ← Expr.whole? tokens
      let (ss, ended, rest) ← body fuel ["elif", "else", "endif"] rest
      match ended with
      | .name "elif" :: tokens => do
          let (other, rest) ← branches fuel tokens rest
          some (.choose condition ss [other], rest)
      | ended =>
          if closes "endif" false ended then some (.choose condition ss [], rest)
          else if closes "else" false ended then do
            let (others, ended, rest) ← body fuel ["endif"] rest
            if closes "endif" false ended then some (.choose condition ss others, rest) else none
          else none

/-- An assignment: of an expression, or of what a body puts out. -/
def setting : Nat → List Token → List Part → Option (Statement × List Part)
  | 0, _, _ => none
  | fuel + 1, tokens, rest => do
      let (t, after) ← readTarget tokens
      match take "=" after with
      | some tokens => (Expr.whole? tokens).map fun e => (.set t e, rest)
      | none =>
          match t with
          | .list _ => none
          | .name s => do
              let fs ←
                match after with
                | [] => some []
                | .mark "|" :: after => wholeFilters? after
                | _ => none
              let (ss, ended, rest) ← body fuel ["endset"] rest
              if closes "endset" false ended then some (.capture s fs ss, rest) else none
end

/-- The statements of a template, if it is well formed.  Every call of the reader
takes a part or goes one level into a statement, so twice the number of parts is
enough fuel. -/
def ofTemplate (template : String) : Except Fault (List Statement) :=
  match Part.ofTemplate template with
  | .error e => .error e
  | .ok parts =>
      match body (3 * (parts.length + 1)) [] parts with
      | some (ss, _) => .ok ss
      | none => .error .malformed

end Statement

/-- Whether a template is well formed; nothing is evaluated. -/
def isWellFormed (template : String) : Bool :=
  match Statement.ofTemplate template with
  | .ok _ => true
  | .error _ => false

end EventRules.Markup
