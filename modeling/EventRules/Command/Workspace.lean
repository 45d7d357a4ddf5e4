/-
# EventRules.Command.Workspace -- the documents that a command works with

A workspace is what was read from the two directories, before it is checked:
catalogs may stand beside the rules as well as in a directory of their own.
-/
import EventRules.Loading.Loader
import EventRules.Registry.Basic
import EventRules.Settings
namespace EventRules

set_option autoImplicit false

/-- Catalogs and rules as they were read. -/
structure Workspace where
  catalogs : Catalogs
  rules : List Rule
  /-- The files that give no document though they should, with their errors. -/
  failures : List (String × FileError)

/-- Why there is no workspace. -/
structure WorkspaceError where
  /-- What the directory should hold. -/
  content : String
  dir : String
  error : DirectoryError
  deriving DecidableEq, Repr

/-- The wording, the outermost first. -/
def WorkspaceError.chain (e : WorkspaceError) : List String :=
  ["failed to load rules", "reading " ++ e.content ++ " from " ++ e.dir, e.error.message]

namespace Workspace

/-- Read a directory. -/
def loadFrom (content dir : String) (tree : Option FileTree) : Except WorkspaceError LoadReport :=
  match FileTree.load dir tree with
  | .ok set => .ok set
  | .error e => .error ⟨content, dir, e⟩

/-- The failures of a directory, with their paths. -/
def failuresIn (dir : String) (set : LoadReport) : List (String × FileError) :=
  set.failures.map fun f => (FileTree.pathText dir f.1, f.2)

/-- The workspace of the directories that the settings name. -/
def load (settings : Settings) (catalogTree ruleTree : Option FileTree) :
    Except WorkspaceError Workspace :=
  match loadFrom "catalogs" settings.catalogDir catalogTree with
  | .error e => .error e
  | .ok catalogs =>
      match loadFrom "rules" settings.rulesDir ruleTree with
      | .error e => .error e
      | .ok rules =>
          .ok
            { catalogs := rules.addTo catalogs.catalogs
              rules := rules.rules
              failures := failuresIn settings.catalogDir catalogs ++
                failuresIn settings.rulesDir rules }

/-- The registry of the rules. -/
def registry (w : Workspace) : Except (List Violation) Registry :=
  Registry.build w.catalogs w.rules

end Workspace
end EventRules
