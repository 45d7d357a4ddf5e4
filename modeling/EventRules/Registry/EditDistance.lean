/-
# EventRules.Registry.EditDistance -- edit distance and suggestions

The edit distance of two texts is the least number of insertions, deletions and
substitutions of single characters that turn one into the other.  It is computed
row by row: a row holds the distances from the beginning of `a` that was read so
far to each beginning of `b`, the shortest first.

Two rows are kept, and they change places after each character of `a`.  So the
row that is written still holds an older row, until each entry is overwritten.

`Suggestion.closest` is the first candidate at the least distance, letter case
ignored, if that distance is at most half the longer of the two texts.
-/
import EventRules.Text.Case
namespace EventRules

set_option autoImplicit false

namespace EditDistance

/-- A row of distances to the beginnings of `b`. -/
abbrev Row (b : List Char) := Vector Nat (b.length + 1)

/-- The rows that are kept. -/
structure Rows (b : List Char) where
  /-- The distances from what was read so far. -/
  prev : Row b
  /-- The row to be written next. -/
  curr : Row b

variable (a b : List Char)

/-- The rows before anything is read: every beginning is reached by insertions alone. -/
def Rows.first : Rows b := ⟨Vector.range (b.length + 1), Vector.replicate (b.length + 1) 0⟩

/-- Write the entry for one more character of `b`, when `x` is read. -/
def enter (x : Char) (prev curr : Row b) (j : Fin b.length) : Row b :=
  let cost := if x ≠ b[j] then 1 else 0
  curr.set (j + 1) (min (min (prev[j.val + 1] + 1) (curr[j.val] + 1)) (prev[j.val] + cost))

/-- Read the character of `a` at a place: write the row for it, and let the rows change places. -/
def pass (rows : Rows b) (i : Fin a.length) : Rows b :=
  let written := Fin.foldl b.length (enter b a[i] rows.prev) (rows.curr.set 0 (i + 1))
  ⟨written, rows.prev⟩

/-- The edit distance of two texts. -/
def distance : Nat := (Fin.foldl a.length (pass a b) (Rows.first b)).prev[b.length]

end EditDistance

namespace Suggestion

/-- The edit distance of two texts, letter case ignored. -/
def distance (input candidate : String) : Nat :=
  EditDistance.distance (Text.lower input).toList (Text.lower candidate).toList

/-- The best candidate so far and its distance, after one more candidate. -/
def better (input : String) (best : Option (String × Nat)) (candidate : String) :
    Option (String × Nat) :=
  let here := distance input candidate
  match best with
  | none => some (candidate, here)
  | some (name, least) => if here < least then some (candidate, here) else some (name, least)

/-- The first candidate at the least distance, with that distance. -/
def nearest (input : String) (candidates : List String) : Option (String × Nat) :=
  candidates.foldl (better input) none

/-- The nearest candidate, unless it is further away than half the longer text. -/
def closest (input : String) (candidates : List String) : Option String :=
  match nearest input candidates with
  | some (name, apart) =>
      if apart ≤ max input.length name.length / 2 then some name else none
  | none => none

end Suggestion
end EventRules
