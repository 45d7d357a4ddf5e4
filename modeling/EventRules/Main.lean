/-
# EventRules.Main -- the command line

The outer layer of the program: it reads the environment, the clock and the files
that a command looks at, and prints what the command answers.  No endpoint is
reached from here, so the notifications of a dispatch are not delivered; what is
printed does not hang on that.
-/
import EventRules.Command.Run
import Std.Time.DateTime.Timestamp
namespace EventRules.Main

set_option autoImplicit false

/-- A variable with its value, if it is set. -/
def lookUp (name : String) : IO (Option (String × String)) := do
  return (← IO.getEnv name).map fun value => (name, value)

/-- The variables of the settings and those that the address of the hook refers to,
as far as they are set. -/
def environment : IO Environment := do
  let profile ← IO.getEnv Settings.profileKey
  let base ← (Settings.variableNames (profile.getD "")).filterMapM lookUp
  let address := (Settings.ofEnvironment base).hook.url.getD ""
  let referred ← (EnvReference.names address.toList).filterMapM lookUp
  return base ++ referred

/-- The instant of the system's clock. -/
def clock : IO Instant := do
  let nanos := (← Std.Time.Timestamp.now).toNanosecondsSinceUnixEpoch.val
  return (Instant.of? (nanos / 1000000000) (nanos % 1000000000).toNat).getD Instant.epoch

/-- What stands at a path, directories to at most a given depth. -/
def readTree : Nat → String → IO (Option FileTree)
  | 0, _ => return some .closedFolder
  | depth + 1, path => do
      try
        let listing ← (← IO.FS.realPath path).readDir
        let entries ← listing.toList.filterMapM fun entry => do
          let below ← readTree depth (path ++ "/" ++ entry.fileName)
          return below.map fun tree => (entry.fileName, tree)
        return some (.folder entries)
      catch
        | .noFileOrDirectory .. => return none
        | .inappropriateType .. =>
            try
              return some (.file (String.fromUTF8? (← IO.FS.readBinFile path)))
            catch _ => return some (.file none)
        | _ => return some .closedFolder

/-- How deep directories are looked into. -/
def depthLimit : Nat := 256

/-- The words for what is at the bottom of an error. -/
def causeText : ErrorCause → String
  | .text s => s
  | .system => "the file cannot be read"
  | .json => "the file does not hold what it should"

/-- Print an error with its causes. -/
def printError (e : CommandError) : IO Unit := do
  match e.chain.map causeText with
  | [] => pure ()
  | first :: causes =>
      IO.eprintln ("Error: " ++ first)
      for cause in causes do
        IO.eprintln ("  " ++ cause)

/-- How the command line is written. -/
def usage : String :=
  "usage: autoevent [--rules-dir DIR] [--catalog-dir DIR] COMMAND\n" ++
  "  validate\n" ++
  "  dispatch --input FILE [--now INSTANT]\n" ++
  "  visible --event FILE [--now INSTANT]"

/-- Run a command line. -/
def run (words : List String) : IO UInt32 := do
  match Arguments.read words with
  | none =>
      IO.eprintln usage
      return 2
  | some args =>
      let env ← environment
      let settings := args.settings env
      let input ← match args.inputPath? with
        | none => pure none
        | some path => readTree 1 path
      let files : CommandFiles :=
        ⟨← readTree depthLimit settings.catalogDir, ← readTree depthLimit settings.rulesDir, input⟩
      let transport : Transport := fun _ => .error "no endpoint is reached from here"
      match args.command.run env transport (← clock) settings files with
      | .error crash =>
          IO.eprintln ("the program crashed: " ++ crash.message)
          return 101
      | .ok answer =>
          match answer.printed with
          | .lines items =>
              for item in items do
                IO.println item
          | .document t => IO.println (Json.pretty t)
          match answer.error with
          | none => return 0
          | some e =>
              printError e
              return 1

end EventRules.Main

/-- The program. -/
def main (words : List String) : IO UInt32 := EventRules.Main.run words
