/-
# EventRules.Proofs.Value.Document -- values read back from documents

Reading a document sorts its maps and rounds its numbers, and what has been read once is
settled: a value that was read from a document reads back from the document it is written as
(`Value.readsBack_ofTree`).  Its dates are text, its keys ascend, and its whole numbers are
those of the integers they are written as.  Every value is written as JSON
(`Value.isJson_toTree`).
-/
import EventRules.Value.Basic
import EventRules.Proofs.Tree
import EventRules.Proofs.Number.Double
namespace EventRules

set_option autoImplicit false

namespace Value

/-- A value is read back from the document it is written as. -/
def ReadsBack (v : Value) : Prop := ofTree v.toTree = v

/-- The numeral of a number denotes the number. -/
theorem toDouble?_numeral (x : Double) : (numeral x).toDouble? = some x := by
  unfold numeral
  split
  · rename_i whole
    rw [Numeral.toDouble?, Double.ofInt_truncate (Bool.and_eq_true_iff.1 whole).1]
  · rfl

theorem readsBack_number (x : Double) : (number x).ReadsBack := by
  rw [ReadsBack, toTree, ofTree, toDouble?_numeral]

theorem readsBack_list {items : List Value} (each : ∀ v ∈ items, v.ReadsBack) :
    (list items).ReadsBack := by
  have back : ofTrees (toTrees items) = items := by
    induction items with
    | nil => rfl
    | cons v rest ih =>
        obtain ⟨first, others⟩ := List.forall_mem_cons.1 each
        rw [toTrees, ofTrees, first, ih others]
  rw [ReadsBack, toTree, ofTree, back]

theorem readsBack_object {fields : Record} (order : Keyed.Ascending fields)
    (each : ∀ field ∈ fields, field.2.ReadsBack) : (object fields).ReadsBack := by
  have back : ofEntries (toEntries fields) = fields := by
    clear order
    induction fields with
    | nil => rfl
    | cons field rest ih =>
        obtain ⟨first, others⟩ := List.forall_mem_cons.1 each
        rw [toEntries, ofEntries, first, ih others]
  rw [ReadsBack, toTree, ofTree, back, Keyed.ofList_of_ascending order]

mutual
/-- Whatever was read from a document reads back. -/
theorem readsBack_ofTree : (t : Tree) → (ofTree t).ReadsBack
  | .null => rfl
  | .bool _ => rfl
  | .number n => by
      rw [ofTree]
      cases n.toDouble? with
      | none => rfl
      | some x => exact readsBack_number x
  | .text _ => rfl
  | .list items => by
      rw [ofTree]
      exact readsBack_list (readsBack_of_mem_ofTrees items)
  | .map entries => by
      rw [ofTree]
      refine readsBack_object (Keyed.ascending_ofList _) fun field member => ?_
      exact readsBack_of_mem_ofEntries entries field (Keyed.mem_of_mem_ofList member)

theorem readsBack_of_mem_ofTrees : (items : List Tree) → ∀ v ∈ ofTrees items, v.ReadsBack
  | [] => fun _ member => nomatch member
  | t :: rest => by
      rw [ofTrees, List.forall_mem_cons]
      exact ⟨readsBack_ofTree t, readsBack_of_mem_ofTrees rest⟩

theorem readsBack_of_mem_ofEntries : (entries : List (String × Tree)) →
    ∀ field ∈ ofEntries entries, field.2.ReadsBack
  | [] => fun _ member => nomatch member
  | (_, t) :: rest => by
      rw [ofEntries, List.forall_mem_cons]
      exact ⟨readsBack_ofTree t, readsBack_of_mem_ofEntries rest⟩
end

/-! ## The document of a value -/

theorem isJson_numeral (x : Double) : (Tree.number (numeral x)).isJson = true := by
  unfold numeral
  split <;> rfl

mutual
/-- A value is written as JSON. -/
theorem isJson_toTree : (v : Value) → v.toTree.isJson = true
  | .null => rfl
  | .bool _ => rfl
  | .number x => isJson_numeral x
  | .text _ => rfl
  | .date _ => rfl
  | .list items => by
      rw [toTree, Tree.isJson]
      exact areJson_toTrees items
  | .object fields => by
      rw [toTree, Tree.isJson]
      exact holdJson_toEntries fields

theorem areJson_toTrees : (items : List Value) → Tree.areJson (toTrees items) = true
  | [] => rfl
  | v :: rest => by
      rw [toTrees, Tree.areJson, isJson_toTree v, areJson_toTrees rest]
      rfl

theorem holdJson_toEntries : (fields : List (String × Value)) →
    Tree.holdJson (toEntries fields) = true
  | [] => rfl
  | (_, v) :: rest => by
      rw [toEntries, Tree.holdJson, isJson_toTree v, holdJson_toEntries rest]
      rfl
end

end Value
end EventRules
