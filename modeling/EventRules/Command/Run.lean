/-
# EventRules.Command.Run -- what commands answer

`Command.run` is the answer of a command to what stands in its files: what it
prints, and the error that it ends with, if any.  It reads nothing itself: the
files, the clock and the way to reach an endpoint are given.  A dispatch that
crashes takes the command with it, which then has no answer.
-/
import EventRules.Command.Arguments
import EventRules.Command.Workspace
import EventRules.Dispatch.Codec
import EventRules.Dispatch.MemoryStore
import EventRules.Json.Reader
import EventRules.Notify.Webhook
import EventRules.Visibility
namespace EventRules

set_option autoImplicit false

/-- What stands where a command looks. -/
structure CommandFiles where
  catalogs : Option FileTree
  rules : Option FileTree
  /-- The file that the command names. -/
  input : Option FileTree

/-- What a command prints. -/
inductive Printed where
  | lines (items : List String)
  | document (t : Tree)

/-- Why a command fails. -/
inductive CommandError where
  | workspace (error : WorkspaceError)
  /-- A file cannot be read. -/
  | unreadable (path : String)
  /-- A file does not hold what it should. -/
  | malformed (path : String)
  | setting (error : SettingError)
  | rejected (violations : List Violation)
  | notifier (error : ChannelError)
  /-- Documents have problems. -/
  | problems (count : Nat)
  /-- Events were refused. -/
  | refused (count : Nat)

/-- What is at the bottom of an error. -/
inductive ErrorCause where
  | text (s : String)
  /-- The system's own words. -/
  | system
  /-- The words of the reader of JSON. -/
  | json

namespace CommandError

/-- A number before a text. -/
def counted (n : Nat) (s : String) : String := String.ofList (Text.ofNat n) ++ s

/-- The wording, the outermost first. -/
def chain : CommandError → List ErrorCause
  | workspace e => e.chain.map .text
  | unreadable path => [.text ("reading " ++ path), .system]
  | malformed path => [.text ("parsing " ++ path), .json]
  | setting e => [.text e.message]
  | rejected violations => [.text (Violation.summary violations)]
  | notifier e => [.text e.message]
  | problems n => [.text (counted n " problem(s) found")]
  | refused n => [.text (counted n " event(s) could not be created")]

end CommandError

/-- What a command prints and how it ends. -/
structure CommandAnswer where
  printed : Printed
  error : Option CommandError

namespace CommandAnswer

/-- An error before anything is printed. -/
def ofError (e : CommandError) : CommandAnswer := ⟨.lines [], some e⟩

/-- The answer that was found, or the error that came before it. -/
def ofExcept : Except CommandError CommandAnswer → CommandAnswer
  | .ok answer => answer
  | .error e => ofError e

end CommandAnswer

/-- Decode a write as it stands in a file: a map with the kind of the write as its
key. -/
def SavedWrite.decode : Tree → Decoded SavedWrite
  | .map [("entity", t)] => (EntityWrite.decode t).map entity
  | .map [("group", t)] => (GroupWrite.decode t).map group
  | _ => .error .other

namespace Command

/-- Read a file as JSON and decode it. -/
def readFile {α : Type} (path : String) (decode : Tree → Decoded α) (file : Option FileTree) :
    Except CommandError α :=
  match file.bind FileTree.text? with
  | none => .error (.unreadable path)
  | some text =>
      match Json.read text with
      | none => .error (.malformed path)
      | some t =>
          match decode t with
          | .ok a => .ok a
          | .error _ => .error (.malformed path)

/-- The registry of a workspace. -/
def registryOf (w : Workspace) : Except CommandError Registry :=
  match w.registry with
  | .ok registry => .ok registry
  | .error violations => .error (.rejected violations)

/-- Report every problem of the documents. -/
def runValidate (w : Workspace) : CommandAnswer :=
  let count := fun (n : Nat) => String.ofList (Text.ofNat n)
  let head := ["catalogs: " ++ count w.catalogs.records.length ++ " record type(s), " ++
      count w.catalogs.eventTypes.length ++ " event type(s)",
    "rules:    " ++ count w.rules.length ++ " document(s)"]
  let failed := w.failures.map fun f => "  load error: " ++ f.1 ++ ": " ++ f.2.message
  let (checked, violations) := match w.registry with
    | .ok registry => (["registry: " ++ count registry.size ++ " enabled rule(s)"], 0)
    | .error violations => (violations.map fun v => "  " ++ v.message, violations.length)
  let problems := w.failures.length + violations
  if problems = 0 then ⟨.lines (head ++ failed ++ checked ++ ["ok"]), none⟩
  else ⟨.lines (head ++ failed ++ checked), some (.problems problems)⟩

/-- The hook that the settings ask for. -/
def hookOf (env : Environment) (transport : Transport) (settings : Settings) :
    Except CommandError (Option (Hook (NotifyState Unit))) :=
  let render := Markup.renderer env
  match Webhook.ofSettings env settings.hook with
  | .error e => .error (.notifier e)
  | .ok none => .ok none
  | .ok (some webhook) => .ok (some (NotifyHook.hook render [webhook.channel render transport]))

/-- What a dispatched write is answered with. -/
def dispatched (d : Dispatched) (memory : MemoryStore) : Except Crash CommandAnswer :=
  match d.crash with
  | some crash => .error crash
  | none =>
      let report := d.journal.report
      let events := memory.events.map fun e => Tree.map [("event", e.2.encode), ("id", .text e.1)]
      let printed := Tree.map [("events", .list events), ("report", report.encode)]
      .ok ⟨.document printed.carried,
        if report.isClean then none else some (.refused report.failures.length)⟩

/-- Dispatch the write of a file. -/
def runDispatch (env : Environment) (transport : Transport) (settings : Settings) (w : Workspace)
    (path : String) (file : Option FileTree) (now : Instant) :
    Except CommandError (Except Crash CommandAnswer) := do
  let write ← readFile path SavedWrite.decode file
  let offset ← match settings.offset with
    | .ok offset => .ok offset
    | .error e => .error (CommandError.setting e)
  let registry ← registryOf w
  let hook ← hookOf env transport settings
  let engine : Engine := ⟨registry, w.catalogs, offset⟩
  let outlet : Outlet MemoryStore (NotifyState Unit) := ⟨MemoryStore.store, hook⟩
  let state := (MemoryStore.empty, (⟨(), []⟩ : NotifyState Unit))
  let (done, after) := engine.fire outlet now state write
  pure (dispatched done after.1)

/-- Say whether the event of a file is visible. -/
def runVisible (w : Workspace) (path : String) (file : Option FileTree) (now : Instant) :
    Except CommandError CommandAnswer := do
  let event ← readFile path StoredEvent.decode file
  let registry ← registryOf w
  pure ⟨.document (.map [("event_id", .text event.id), ("now", now.encode),
    ("visible", .bool (registry.isVisible event now))]), none⟩

/-- The answer of a command.  `clock` is the instant that counts when none is given. -/
def run (env : Environment) (transport : Transport) (clock : Instant) (settings : Settings)
    (files : CommandFiles) (command : Command) : Except Crash CommandAnswer :=
  match Workspace.load settings files.catalogs files.rules with
  | .error e => .ok (.ofError (.workspace e))
  | .ok w =>
      match command with
      | .validate => .ok (runValidate w)
      | .dispatch path now =>
          match runDispatch env transport settings w path files.input (now.getD clock) with
          | .error e => .ok (.ofError e)
          | .ok answer => answer
      | .visible path now => .ok (.ofExcept (runVisible w path files.input (now.getD clock)))

end Command

namespace Arguments

/-- The settings of the environment, with the directories that the command line
gives. -/
def settings (args : Arguments) (env : Environment) : Settings :=
  let settings := Settings.ofEnvironment env
  { settings with
    rulesDir := args.rulesDir.getD settings.rulesDir
    catalogDir := args.catalogDir.getD settings.catalogDir }

/-- The file that the command names. -/
def inputPath? (args : Arguments) : Option String :=
  match args.command with
  | .validate => none
  | .dispatch input _ => some input
  | .visible event _ => some event

/-- The answer of a command line, where `files` says what stands at a path. -/
def answer (args : Arguments) (env : Environment) (transport : Transport) (clock : Instant)
    (files : String → Option FileTree) : Except Crash CommandAnswer :=
  let settings := args.settings env
  args.command.run env transport clock settings
    ⟨files settings.catalogDir, files settings.rulesDir, args.inputPath?.bind files⟩

end Arguments
end EventRules
