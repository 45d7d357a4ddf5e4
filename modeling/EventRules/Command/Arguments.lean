/-
# EventRules.Command.Arguments -- the words of the command line

A command is a word with options behind it; the directories of rules and catalogs
may be given before it as well as behind it, and behind it they count more.  An
option is written `--name value` or `--name=value`, and at most once on each side.
`Arguments.read` gives nothing for any other line.
-/
import EventRules.Calendar.Stamp
import EventRules.Calendar.DateText
import EventRules.Keyed
namespace EventRules

set_option autoImplicit false

/-- What to do. -/
inductive Command where
  /-- Report every problem of the documents. -/
  | validate
  /-- Dispatch the write of a file, at an instant if one is given. -/
  | dispatch (input : String) (now : Option Instant)
  /-- Say whether the event of a file is visible, at an instant if one is given. -/
  | visible (event : String) (now : Option Instant)
  deriving DecidableEq

/-- A command line. -/
structure Arguments where
  rulesDir : Option String
  catalogDir : Option String
  command : Command
  deriving DecidableEq

/-- A word of a command line. -/
inductive ArgumentWord where
  /-- An option, with its value if it is written in the same word. -/
  | option (name : String) (value : Option String)
  | plain (s : String)
  /-- The word after which there are no options. -/
  | endOfOptions
  /-- Anything else that starts with a dash. -/
  | dashed
  deriving DecidableEq

namespace ArgumentWord

/-- Cut the name of an option from its value. -/
def ofOption (chars : List Char) : ArgumentWord :=
  match chars.dropWhile (· ≠ '=') with
  | _ :: value => option (String.ofList (chars.takeWhile (· ≠ '='))) (some (String.ofList value))
  | [] => option (String.ofList chars) none

/-- What a word is. -/
def ofText (s : String) : ArgumentWord :=
  match s.toList with
  | ['-', '-'] => endOfOptions
  | ['-'] => plain s
  | '-' :: '-' :: rest => ofOption rest
  | '-' :: _ => dashed
  | _ => plain s

end ArgumentWord

namespace Arguments

/-- Options with their values. -/
abbrev Options := List (String × String)

/-- Read options up to the first word that is none; no option may stand twice. -/
def readOptions (known : List String) : Options → List String → Option (Options × List String)
  | found, [] => some (found, [])
  | found, word :: rest =>
      match ArgumentWord.ofText word with
      | .plain _ => some (found, word :: rest)
      | .endOfOptions => some (found, word :: rest)
      | .dashed => none
      | .option name value =>
          if known.contains name && !Keyed.has name found then
            match value with
            | some value => readOptions known (found ++ [(name, value)]) rest
            | none =>
                match rest with
                | [] => none
                | value :: rest =>
                    match ArgumentWord.ofText value with
                    | .plain value => readOptions known (found ++ [(name, value)]) rest
                    | _ => none
          else none

/-- The options that may stand on either side of the command. -/
def everywhere : List String := ["rules-dir", "catalog-dir"]

/-- A path that is given; the empty path is none. -/
def path? (name : String) (options : Options) : Option (Option String) :=
  match Keyed.get? name options with
  | none => some none
  | some path => if path.isEmpty then none else some (some path)

/-- An instant that is given. -/
def instant? (name : String) (options : Options) : Option (Option Instant) :=
  match Keyed.get? name options with
  | none => some none
  | some text => (Instant.ofStamp? text).map some

/-- The options that stand behind a command, apart from those that stand everywhere. -/
def optionsOf (command : String) : Option (List String) :=
  if command = "validate" then some []
  else if command = "dispatch" then some ["input", "now"]
  else if command = "visible" then some ["event", "now"]
  else none

/-- The command of a name with its options. -/
def commandOf (name : String) (options : Options) : Option Command := do
  let now ← instant? "now" options
  if name = "dispatch" then
    let input ← (← path? "input" options)
    some (.dispatch input now)
  else if name = "visible" then
    let event ← (← path? "event" options)
    some (.visible event now)
  else some .validate

/-- Read a command line. -/
def read (words : List String) : Option Arguments := do
  let (before, rest) ← readOptions everywhere [] words
  match rest with
  | [] => none
  | name :: rest =>
      let own ← optionsOf name
      let (behind, rest) ← readOptions (everywhere ++ own) [] rest
      if rest.isEmpty || rest = ["--"] then
        let command ← commandOf name behind
        let rules ← path? "rules-dir" behind
        let catalogs ← path? "catalog-dir" behind
        let rulesBefore ← path? "rules-dir" before
        let catalogsBefore ← path? "catalog-dir" before
        some ⟨rules.or rulesBefore, catalogs.or catalogsBefore, command⟩
      else none

end Arguments
end EventRules
