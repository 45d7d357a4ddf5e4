/-
# EventRules.Loading.Loader -- documents from a directory

`FileTree.load` reads every YAML file under a directory.  The entries of each
directory are visited by name, ascending, so the results stand in the order of
their paths, compared part by part.  A hidden file is skipped, and so is a file
that is no YAML file by its name; a hidden directory is not looked into.  A file
that cannot be read or holds no document is a result like any other and stops
nothing.

Only a directory can stop the reading: the first one, when it is none or is
missing, and any one that is looked into and cannot be listed.
-/
import EventRules.Loading.FileTree
import EventRules.Document.Reading
namespace EventRules

set_option autoImplicit false

/-- Why a file is not looked into. -/
inductive FileSkip where
  | hidden | notYaml
  deriving DecidableEq, Repr

/-- The wording. -/
def FileSkip.text : FileSkip → String
  | hidden => "dotfile"
  | notYaml => "not a YAML file"

/-- Why a file gives no document. -/
inductive FileError where
  /-- The file cannot be read as text. -/
  | unreadable
  | document (error : DocumentError)
  deriving DecidableEq, Repr

/-- The wording. -/
def FileError.message : FileError → String
  | unreadable => "IO error"
  | document (.unreadable e) => (DocumentError.unreadable e).message
  | document e => "Validation error: " ++ e.message

/-- What became of a file. -/
inductive FileOutcome where
  | loaded (id : String)
  | skipped (reason : FileSkip)
  | failed (error : FileError)
  deriving DecidableEq, Repr

/-- A file, by the names on the way to it, and what became of it. -/
structure FileReport where
  path : List String
  status : FileOutcome
  deriving DecidableEq, Repr

/-- What became of the files under a directory, and the documents they gave. -/
structure LoadReport where
  results : List FileReport
  documents : List Document

/-- Why a directory could not be read. -/
inductive DirectoryError where
  /-- What should be a directory is none, or is missing. -/
  | missingRoot (root : String)
  /-- A directory cannot be listed. -/
  | unlistable
  deriving DecidableEq, Repr

/-- The wording. -/
def DirectoryError.message : DirectoryError → String
  | missingRoot root => "rules directory not found: " ++ root
  | unlistable => "IO error"

namespace LoadReport

/-- No files. -/
def empty : LoadReport := ⟨[], []⟩

/-- The files of one set and then those of another. -/
def append (a b : LoadReport) : LoadReport := ⟨a.results ++ b.results, a.documents ++ b.documents⟩

/-- The rules among the documents. -/
def rules (set : LoadReport) : List Rule := set.documents.filterMap Document.rule?

/-- The catalogs with what the documents add to it. -/
def addTo (set : LoadReport) (catalogs : Catalogs) : Catalogs :=
  set.documents.foldl Document.addTo catalogs

/-- The catalogs and event types among the documents. -/
def catalogs (set : LoadReport) : Catalogs := set.addTo Catalogs.empty

/-- The files that give no document though they should. -/
def failures (set : LoadReport) : List (List String × FileError) :=
  set.results.filterMap fun r =>
    match r.status with
    | .failed e => some (r.path, e)
    | _ => none

/-- A file that is skipped. -/
def ofSkipped (path : List String) (reason : FileSkip) : LoadReport :=
  ⟨[⟨path, .skipped reason⟩], []⟩

end LoadReport

namespace FileTree

/-- Whether a name is hidden. -/
def isHidden (name : String) : Bool := name.startsWith "."

/-- Whether a name ends as that of a YAML file. -/
def isYaml (name : String) : Bool :=
  ".yml".toList.isSuffixOf name.toList || ".yaml".toList.isSuffixOf name.toList

/-- The document of a file. -/
def document (text : Option String) : Except FileError Document :=
  match text with
  | none => .error .unreadable
  | some text =>
      match Document.read text with
      | .ok doc => .ok doc
      | .error e => .error (.document e)

/-- What becomes of a file that is not hidden. -/
def reportFile (path : List String) (name : String) (text : Option String) : LoadReport :=
  if isYaml name then
    match document text with
    | .ok doc => ⟨[⟨path, .loaded doc.id⟩], [doc]⟩
    | .error e => ⟨[⟨path, .failed e⟩], []⟩
  else LoadReport.ofSkipped path .notYaml

/-- The files of several directories, one after the other. -/
def gathered : List (String × Except DirectoryError LoadReport) → Except DirectoryError LoadReport
  | [] => .ok LoadReport.empty
  | (_, .error e) :: _ => .error e
  | (_, .ok set) :: rest => (gathered rest).map set.append

mutual
/-- What becomes of the files under an entry of a directory. -/
def reportEntry (above : List String) (name : String) : FileTree → Except DirectoryError LoadReport
  | file text =>
      let path := above ++ [name]
      .ok (if isHidden name then LoadReport.ofSkipped path .hidden else reportFile path name text)
  | folder entries =>
      if isHidden name then .ok LoadReport.empty
      else gathered (Keyed.ofList (reportEntries (above ++ [name]) entries))
  | closedFolder => if isHidden name then .ok LoadReport.empty else .error .unlistable

/-- What becomes of the files under each entry of a directory. -/
def reportEntries (above : List String) :
    List (String × FileTree) → List (String × Except DirectoryError LoadReport)
  | [] => []
  | (name, tree) :: rest => (name, reportEntry above name tree) :: reportEntries above rest
end

/-- What becomes of the files under a directory, which is called `root` when it is
missing. -/
def load (root : String) (tree : Option FileTree) : Except DirectoryError LoadReport :=
  match tree with
  | some (folder entries) => gathered (Keyed.ofList (reportEntries [] entries))
  | some closedFolder => .error .unlistable
  | some (file _) => .error (.missingRoot root)
  | none => .error (.missingRoot root)

/-- A path below a directory as text. -/
def pathText (root : String) (path : List String) : String :=
  let below := String.intercalate "/" path
  if root.endsWith "/" then root ++ below else root ++ "/" ++ below

end FileTree
end EventRules
