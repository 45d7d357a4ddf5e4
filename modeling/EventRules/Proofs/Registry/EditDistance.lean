/-
# EventRules.Proofs.Registry.EditDistance -- distances are least numbers of edits

An edit inserts, deletes or substitutes one character anywhere in a text (`EditDistance.Edit`),
and a text can be turned into another by making edits one after the other
(`EditDistance.Edits`).

The least number of edits has a recurrence in the edits at the front (`EditDistance.apart`).  By
the recurrence there are as many edits as it says (`edits_apart`).  There are no fewer, since one
edit moves the distance to any third text by at most one (`Edit.apart_le`).

The computation reads both texts from the front, so its recurrence is in the edits at the back:
a row that is filled up to an entry holds, up to this entry, the distances of the texts read
backwards (`Filled`).  Writing an entry fills the row by one more (`Filled.enter`), whatever stood
behind it, and a pass fills it to the end (`Filled.pass`).  Edits can be read backwards too
(`Edits.reverse`), so the distance is the least number of edits (`isLeast_distance`), and a metric.

A suggestion is the first of the candidates to which none is nearer, kept if it is near enough
(`Suggestion.closest_eq`).
-/
import EventRules.Registry.EditDistance
import Mathlib.Order.Bounds.Basic
namespace EventRules

set_option autoImplicit false

namespace EditDistance

variable {a b c : List Char} {m n : Nat}

/-! ## Edits -/

/-- One insertion, deletion or substitution of a character. -/
inductive Edit : List Char → List Char → Prop where
  | insert (before after : List Char) (y : Char) : Edit (before ++ after) (before ++ y :: after)
  | delete (before after : List Char) (x : Char) : Edit (before ++ x :: after) (before ++ after)
  | substitute (before after : List Char) (x y : Char) :
      Edit (before ++ x :: after) (before ++ y :: after)

/-- A number of edits, one after the other. -/
inductive Edits : Nat → List Char → List Char → Prop where
  | refl (a : List Char) : Edits 0 a a
  | tail {n : Nat} {a b c : List Char} : Edits n a b → Edit b c → Edits (n + 1) a c

theorem Edit.symm (edit : Edit a b) : Edit b a := by
  cases edit with
  | insert before after y => exact .delete before after y
  | delete before after x => exact .insert before after x
  | substitute before after x y => exact .substitute before after y x

theorem Edit.cons (x : Char) (edit : Edit a b) : Edit (x :: a) (x :: b) := by
  cases edit with
  | insert before after y => exact .insert (x :: before) after y
  | delete before after y => exact .delete (x :: before) after y
  | substitute before after y z => exact .substitute (x :: before) after y z

namespace Edits

theorem single (edit : Edit a b) : Edits 1 a b := (refl a).tail edit

theorem trans (first : Edits m a b) (second : Edits n b c) : Edits (m + n) a c := by
  induction second with
  | refl => exact first
  | tail _ edit ih => exact (ih first).tail edit

theorem head (edit : Edit a b) (rest : Edits n b c) : Edits (n + 1) a c := by
  rw [Nat.add_comm]
  exact (single edit).trans rest

theorem symm (edits : Edits n a b) : Edits n b a := by
  induction edits with
  | refl a => exact refl a
  | tail _ edit ih => exact head edit.symm ih

theorem cons (x : Char) (edits : Edits n a b) : Edits n (x :: a) (x :: b) := by
  induction edits with
  | refl a => exact refl (x :: a)
  | tail _ edit ih => exact ih.tail (edit.cons x)

/-- No edits leave a text as it is. -/
theorem zero_iff : Edits 0 a b ↔ a = b := by
  constructor
  · intro edits
    cases edits
    rfl
  · rintro rfl
    exact refl a

end Edits

/-! ## The recurrence -/

/-- The distance by the edits at the front: a deletion, an insertion, or a substitution, for which
characters that are the same need no edit. -/
def apart : List Char → List Char → Nat
  | [], b => b.length
  | x :: a, [] => (x :: a).length
  | x :: a, y :: b =>
      min (min (apart a (y :: b) + 1) (apart (x :: a) b + 1)) (apart a b + if x = y then 0 else 1)
termination_by a b => a.length + b.length

@[simp] theorem apart_nil_left (b : List Char) : apart [] b = b.length := by
  rw [apart]

@[simp] theorem apart_nil_right (a : List Char) : apart a [] = a.length := by
  cases a <;> simp [apart]

theorem apart_cons_cons (x y : Char) (a b : List Char) :
    apart (x :: a) (y :: b) =
      min (min (apart a (y :: b) + 1) (apart (x :: a) b + 1))
        (apart a b + if x = y then 0 else 1) := by
  rw [apart]

theorem apart_cons_cons_cases (x y : Char) (a b : List Char) :
    apart (x :: a) (y :: b) = apart a (y :: b) + 1 ∨
      apart (x :: a) (y :: b) = apart (x :: a) b + 1 ∨
      apart (x :: a) (y :: b) = apart a b + if x = y then 0 else 1 := by
  rw [apart_cons_cons]
  omega

/-! ## There are so many edits -/

/-- A text is made of nothing by inserting its characters. -/
theorem edits_nil (b : List Char) : Edits b.length [] b := by
  induction b with
  | nil => exact .refl []
  | cons y b ih => exact ih.tail (.insert [] b y)

/-- A text is turned into another by as many edits as the recurrence says. -/
theorem edits_apart (a b : List Char) : Edits (apart a b) a b := by
  induction a generalizing b with
  | nil =>
      rw [apart_nil_left]
      exact edits_nil b
  | cons x a ihA =>
      induction b with
      | nil =>
          rw [apart_nil_right]
          exact (edits_nil (x :: a)).symm
      | cons y b ihB =>
          have deleting : Edits (apart a (y :: b) + 1) (x :: a) (y :: b) :=
            .head (.delete [] a x) (ihA (y :: b))
          have inserting : Edits (apart (x :: a) b + 1) (x :: a) (y :: b) :=
            ihB.tail (.insert [] b y)
          have substituting : Edits (apart a b + if x = y then 0 else 1) (x :: a) (y :: b) := by
            split
            · rename_i same
              subst same
              exact (ihA b).cons x
            · exact ((ihA b).cons x).tail (.substitute [] b x y)
          rcases apart_cons_cons_cases x y a b with last | last | last
          · rwa [last]
          · rwa [last]
          · rwa [last]

/-! ## There are no fewer edits -/

theorem apart_self (a : List Char) : apart a a = 0 := by
  induction a with
  | nil => exact apart_nil_left []
  | cons x a ih =>
      rw [apart_cons_cons, if_pos rfl]
      omega

theorem apart_cons_left_le (x : Char) (a b : List Char) :
    apart (x :: a) b ≤ apart a b + 1 := by
  cases b with
  | nil => simp
  | cons y b =>
      rw [apart_cons_cons]
      omega

theorem apart_cons_right_le (y : Char) (a b : List Char) :
    apart a (y :: b) ≤ apart a b + 1 := by
  cases a with
  | nil => simp
  | cons x a =>
      rw [apart_cons_cons]
      omega

theorem apart_le_cons_right (y : Char) (a b : List Char) :
    apart a b ≤ apart a (y :: b) + 1 := by
  induction a with
  | nil =>
      simp
      omega
  | cons x a ih =>
      have deleting := apart_cons_left_le x a b
      rw [apart_cons_cons]
      omega

theorem apart_substitute_le (x y : Char) (a b : List Char) :
    apart a (y :: b) ≤ apart a (x :: b) + 1 := by
  induction a with
  | nil => simp
  | cons z a ih =>
      rw [apart_cons_cons z x, apart_cons_cons z y]
      split <;> split <;> omega

/-- What one edit at the front does to distances, it does behind a character too. -/
theorem apart_cons_cons_le {b b' : List Char} (y : Char)
    (near : ∀ a, apart a b' ≤ apart a b + 1) (a : List Char) :
    apart a (y :: b') ≤ apart a (y :: b) + 1 := by
  induction a with
  | nil => simpa using near []
  | cons x a ih =>
      have here := near a
      have next := near (x :: a)
      rw [apart_cons_cons, apart_cons_cons]
      omega

theorem apart_append_le {b b' : List Char} (before : List Char)
    (near : ∀ a, apart a b' ≤ apart a b + 1) (a : List Char) :
    apart a (before ++ b') ≤ apart a (before ++ b) + 1 := by
  induction before generalizing a with
  | nil => exact near a
  | cons y before ih => exact apart_cons_cons_le y ih a

/-- One edit moves the distance from any text by at most one. -/
theorem Edit.apart_le (edit : Edit b c) (a : List Char) : apart a c ≤ apart a b + 1 := by
  cases edit with
  | insert before after y =>
      exact apart_append_le before (fun a => apart_cons_right_le y a after) a
  | delete before after x =>
      exact apart_append_le before (fun a => apart_le_cons_right x a after) a
  | substitute before after x y =>
      exact apart_append_le before (fun a => apart_substitute_le x y a after) a

theorem Edits.apart_le (edits : Edits n b c) (a : List Char) :
    apart a c ≤ apart a b + n := by
  induction edits with
  | refl => exact Nat.le_refl _
  | tail _ edit ih =>
      have step := edit.apart_le a
      omega

/-- The recurrence gives the least number of edits. -/
theorem isLeast_apart (a b : List Char) : IsLeast {n | Edits n a b} (apart a b) := by
  refine ⟨edits_apart a b, ?_⟩
  intro n edits
  have counted := edits.apart_le a
  rwa [apart_self, Nat.zero_add] at counted

/-! ## Rows -/

/-- A row is filled up to an entry: it holds the distances of a text from the beginnings of the
other, both read backwards. -/
def Filled (a : List Char) (k : Nat) (row : Row b) : Prop :=
  ∀ j (within : j < b.length + 1), j ≤ k → row[j] = apart a.reverse (b.take j).reverse

/-- What each step of a fold takes one step further holds of the whole fold. -/
theorem foldl_reaches {State : Type} {step : State → Fin n → State} {Reached : Nat → State → Prop}
    {s : State} (start : Reached 0 s)
    (next : ∀ (i : Fin n) (t : State), Reached i t → Reached (i + 1) (step t i)) :
    Reached n (Fin.foldl n step s) := by
  induction n with
  | zero => exact start
  | succ n ih =>
      rw [Fin.foldl_succ_last]
      exact next (Fin.last n) _ (ih fun i => next i.castSucc)

theorem reverse_take_succ {i : Nat} (within : i < a.length) :
    (a.take (i + 1)).reverse = a[i] :: (a.take i).reverse := by
  rw [← List.take_append_getElem within, List.reverse_concat]

/-- An entry is the least of three edits at the back, given the row before and the entries to its
left.  The entries behind it are not read. -/
theorem Filled.enter {x : Char} {prev curr : Row b} {j : Fin b.length}
    (before : Filled a b.length prev) (left : Filled (a ++ [x]) j curr) :
    Filled (a ++ [x]) (j + 1) (enter b x prev curr j) := by
  intro k within upTo
  rw [EditDistance.enter, Vector.getElem_set]
  split
  · rename_i here
    have above := before (j + 1) (by omega) (by omega)
    have beside := left j (by omega) (Nat.le_refl _)
    have diagonal := before j (by omega) (by omega)
    rw [above, beside, diagonal, ← here, reverse_take_succ j.isLt, List.reverse_concat,
      apart_cons_cons]
    simp only [ne_eq, ite_not, Fin.getElem_fin]
  · exact left k within (by omega)

/-- A pass fills the row for one more character, and keeps it as the row before the next. -/
theorem Filled.pass {rows : Rows b} {i : Fin a.length}
    (before : Filled (a.take i) b.length rows.prev) :
    Filled (a.take (i + 1)) b.length (pass a b rows i).prev := by
  have read : a.take (i + 1) = a.take i ++ [a[i]] := (List.take_append_getElem i.isLt).symm
  rw [read]
  let Reached (j : Nat) (curr : Row b) : Prop := Filled (a.take i ++ [a[i]]) j curr
  have start : Reached 0 (rows.curr.set 0 (i + 1)) := by
    intro j within first
    obtain rfl : j = 0 := Nat.le_zero.1 first
    simp [Nat.succ_le_of_lt i.isLt]
  exact foldl_reaches start fun j curr left => before.enter left

/-- The computation follows the recurrence of the texts read backwards. -/
theorem distance_eq (a b : List Char) : distance a b = apart a.reverse b.reverse := by
  let Reached (i : Nat) (rows : Rows b) : Prop := Filled (a.take i) b.length rows.prev
  have start : Reached 0 (Rows.first b) := by
    intro j within upTo
    simp [Rows.first, upTo]
  have filled : Reached a.length (Fin.foldl a.length (pass a b) (Rows.first b)) :=
    foldl_reaches start fun i rows before => before.pass
  have last := filled b.length (by omega) (Nat.le_refl _)
  rwa [List.take_length, List.take_length] at last

/-! ## Edits, read backwards -/

theorem Edit.reverse (edit : Edit a b) : Edit a.reverse b.reverse := by
  cases edit with
  | insert before after y => simpa using Edit.insert after.reverse before.reverse y
  | delete before after x => simpa using Edit.delete after.reverse before.reverse x
  | substitute before after x y => simpa using Edit.substitute after.reverse before.reverse x y

theorem Edits.reverse (edits : Edits n a b) : Edits n a.reverse b.reverse := by
  induction edits with
  | refl a => exact .refl a.reverse
  | tail _ edit ih => exact ih.tail edit.reverse

theorem edits_reverse_iff : Edits n a.reverse b.reverse ↔ Edits n a b := by
  constructor
  · intro edits
    simpa using edits.reverse
  · exact Edits.reverse

/-- **The distance is the least number of edits.** -/
theorem isLeast_distance (a b : List Char) : IsLeast {n | Edits n a b} (distance a b) := by
  have least := isLeast_apart a.reverse b.reverse
  simp only [edits_reverse_iff] at least
  rwa [distance_eq]

example : distance "kitten".toList "sitting".toList = 3 := by decide +kernel

/-! ## A metric -/

theorem edits_distance (a b : List Char) : Edits (distance a b) a b := (isLeast_distance a b).1

theorem distance_comm (a b : List Char) : distance a b = distance b a := by
  have forth : distance b a ≤ distance a b := (isLeast_distance b a).2 (edits_distance a b).symm
  have back : distance a b ≤ distance b a := (isLeast_distance a b).2 (edits_distance b a).symm
  exact Nat.le_antisymm back forth

theorem distance_eq_zero_iff : distance a b = 0 ↔ a = b := by
  constructor
  · intro none
    have edits := edits_distance a b
    rwa [none, Edits.zero_iff] at edits
  · rintro rfl
    exact Nat.le_zero.1 ((isLeast_distance a a).2 (.refl a))

theorem distance_triangle (a b c : List Char) : distance a c ≤ distance a b + distance b c :=
  (isLeast_distance a c).2 ((edits_distance a b).trans (edits_distance b c))

end EditDistance

namespace Suggestion

/-! ## The nearest candidate -/

/-- Whether no candidate is nearer to a text. -/
def isNearest (input : String) (candidates : List String) (name : String) : Bool :=
  candidates.all fun other => distance input name ≤ distance input other

theorem isNearest_iff {input name : String} {candidates : List String} :
    isNearest input candidates name = true ↔
      ∀ other ∈ candidates, distance input name ≤ distance input other := by
  simp [isNearest]

theorem isNearest_cons {input name candidate : String} {candidates : List String} :
    isNearest input (candidate :: candidates) name = true ↔
      distance input name ≤ distance input candidate ∧ isNearest input candidates name = true := by
  simp [isNearest]

/-- A candidate that is further away than another does not change which are nearest. -/
theorem isNearest_cons_of_lt {input name candidate : String} {rest : List String}
    (member : name ∈ rest) (nearer : distance input name < distance input candidate) :
    isNearest input (candidate :: rest) = isNearest input rest := by
  funext other
  rw [Bool.eq_iff_iff, isNearest_cons]
  constructor
  · exact And.right
  · intro best
    have near := isNearest_iff.1 best name member
    exact ⟨by omega, best⟩

/-- A candidate that is no nearer than the best before it does not change which are nearest. -/
theorem isNearest_cons_cons_of_le {input name candidate : String} {rest : List String}
    (near : distance input name ≤ distance input candidate) :
    isNearest input (name :: candidate :: rest) = isNearest input (name :: rest) := by
  funext other
  rw [Bool.eq_iff_iff, isNearest_cons, isNearest_cons, isNearest_cons]
  constructor
  · rintro ⟨best, -, least⟩
    exact ⟨best, least⟩
  · rintro ⟨best, least⟩
    exact ⟨best, Nat.le_trans best near, least⟩

/-- After a candidate, the rest are searched for a nearer one. -/
theorem foldl_better (input name : String) (rest : List String) :
    rest.foldl (better input) (some (name, distance input name)) =
      ((name :: rest).find? (isNearest input (name :: rest))).map fun name =>
        (name, distance input name) := by
  induction rest generalizing name with
  | nil => simp [isNearest]
  | cons candidate rest ih =>
      rw [List.foldl_cons]
      by_cases nearer : distance input candidate < distance input name
      · have kept : isNearest input (name :: candidate :: rest) =
            isNearest input (candidate :: rest) :=
          isNearest_cons_of_lt List.mem_cons_self nearer
        have further : ¬ isNearest input (candidate :: rest) name = true := fun near =>
          Nat.not_le.2 nearer (isNearest_cons.1 near).1
        rw [better, if_pos nearer, ih, kept, List.find?_cons_of_neg further]
      · have near : distance input name ≤ distance input candidate := Nat.not_lt.1 nearer
        rw [better, if_neg nearer, ih, isNearest_cons_cons_of_le near]
        by_cases best : isNearest input (name :: rest) name = true
        · rw [List.find?_cons_of_pos best, List.find?_cons_of_pos best]
        · -- the candidate is no nearer than one that is not nearest
          have passed : ¬ isNearest input (name :: rest) candidate = true := by
            intro least
            rw [isNearest_cons] at least best
            refine best ⟨Nat.le_refl _, isNearest_iff.2 fun other member => ?_⟩
            exact Nat.le_trans near (isNearest_iff.1 least.2 other member)
          rw [List.find?_cons_of_neg best, List.find?_cons_of_neg best,
            List.find?_cons_of_neg passed]

/-- The first of the nearest candidates is found, with its distance. -/
theorem nearest_eq (input : String) (candidates : List String) :
    nearest input candidates =
      (candidates.find? (isNearest input candidates)).map fun name =>
        (name, distance input name) := by
  cases candidates with
  | nil => rfl
  | cons candidate rest => exact foldl_better input candidate rest

/-- A suggestion is the first of the nearest candidates, kept if it is near enough. -/
theorem closest_eq (input : String) (candidates : List String) :
    closest input candidates =
      (candidates.find? (isNearest input candidates)).filter fun name =>
        distance input name ≤ max input.length name.length / 2 := by
  rw [closest, nearest_eq]
  cases candidates.find? (isNearest input candidates) with
  | none => rfl
  | some name => simp [Option.filter]

theorem exists_isNearest (input : String) {candidates : List String} (some' : candidates ≠ []) :
    ∃ name ∈ candidates, isNearest input candidates name = true := by
  induction candidates with
  | nil => exact absurd rfl some'
  | cons candidate rest ih =>
      by_cases last : rest = []
      · subst last
        exact ⟨candidate, List.mem_cons_self, by simp [isNearest]⟩
      · obtain ⟨name, member, best⟩ := ih last
        by_cases nearer : distance input name < distance input candidate
        · refine ⟨name, List.mem_cons_of_mem _ member, ?_⟩
          rwa [isNearest_cons_of_lt member nearer]
        · refine ⟨candidate, List.mem_cons_self, ?_⟩
          refine isNearest_cons.2 ⟨Nat.le_refl _, isNearest_iff.2 fun other member => ?_⟩
          exact Nat.le_trans (Nat.not_lt.1 nearer) (isNearest_iff.1 best other member)

theorem find?_isNearest_isSome (input : String) (candidates : List String) :
    (candidates.find? (isNearest input candidates)).isSome = true ↔ candidates ≠ [] := by
  rw [List.find?_isSome]
  constructor
  · rintro ⟨name, member, -⟩ rfl
    cases member
  · exact exists_isNearest input

end Suggestion
end EventRules
