/-
# EventRules.Loading.FileTree -- directories as trees

What stands under a directory: files with their text, folders with named entries,
and folders that cannot be listed.  A file whose bytes cannot be read as text has
none.  A path leads from a folder to what stands there, a name at a time.
-/
import EventRules.Keyed
namespace EventRules

set_option autoImplicit false

/-- A file or a directory with what stands under it. -/
inductive FileTree where
  | file (text : Option String)
  | folder (entries : List (String × FileTree))
  /-- A directory that cannot be listed. -/
  | closedFolder
  deriving Inhabited

namespace FileTree

/-- Whether it is a directory. -/
def isFolder : FileTree → Bool
  | file _ => false
  | _ => true

/-- The text of a file. -/
def text? : FileTree → Option String
  | file text => text
  | _ => none

/-- Follow the parts of a path.  The directories that were passed are given, the
last one first; an empty part and a dot stay where they are, two dots go back. -/
def follow : List FileTree → List String → Option FileTree
  | [], _ => none
  | here :: _, [] => some here
  | here :: above, part :: rest =>
      match here with
      | folder entries =>
          if part = "" || part = "." then follow (here :: above) rest
          else if part = ".." then follow above rest
          else
            match Keyed.get? part entries with
            | some next => follow (next :: here :: above) rest
            | none => none
      | closedFolder => if part = "" || part = "." then follow (here :: above) rest else none
      | file _ => none

/-- What stands at a path below a directory.  The empty path and a path from the
root of all directories lead nowhere. -/
def at? (path : String) (tree : FileTree) : Option FileTree :=
  if path.isEmpty || path.startsWith "/" then none
  else follow [tree] (path.splitOn "/")

end FileTree
end EventRules
