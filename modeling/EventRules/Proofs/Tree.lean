/-
# EventRules.Proofs.Tree -- documents that are JSON

`Tree.isJson` tells which documents JSON can write.  What stands inside JSON is JSON, and is
nested less deep.  Data that is only carried along is JSON and settled after one pass
(`Tree.isCarried_carried`), and JSON that is not null does not become null on the way
(`Tree.carried_ne_null`).
-/
import EventRules.Tree
import EventRules.Proofs.Keyed
namespace EventRules

set_option autoImplicit false

namespace Tree

mutual
/-- Whether a tree is JSON: none of its numbers is infinite or undefined. -/
def isJson : Tree → Bool
  | .number n => n.toDouble?.isSome
  | .list items => areJson items
  | .map entries => holdJson entries
  | _ => true

/-- Whether every item of a list is JSON. -/
def areJson : List Tree → Bool
  | [] => true
  | t :: rest => t.isJson && areJson rest

/-- Whether every entry of a map holds JSON. -/
def holdJson : List (String × Tree) → Bool
  | [] => true
  | (_, t) :: rest => t.isJson && holdJson rest
end

theorem isJson_list {items : List Tree} :
    (Tree.list items).isJson = true ↔ ∀ t ∈ items, t.isJson = true := by
  rw [isJson]
  induction items with
  | nil => simp [areJson]
  | cons t rest ih => rw [areJson, Bool.and_eq_true, ih, List.forall_mem_cons]

theorem isJson_map {entries : List (String × Tree)} :
    (Tree.map entries).isJson = true ↔ ∀ entry ∈ entries, entry.2.isJson = true := by
  rw [isJson]
  induction entries with
  | nil => simp [holdJson]
  | cons entry rest ih => rw [holdJson, Bool.and_eq_true, ih, List.forall_mem_cons]

theorem isJson_ofOption {α : Type} {leaf : α → Tree} {o : Option α}
    (each : ∀ a ∈ o, (leaf a).isJson = true) : (ofOption leaf o).isJson = true := by
  cases o with
  | none => rfl
  | some a => exact each a rfl

/-! ## Depth -/

theorem depth_lt_of_item {t : Tree} {items : List Tree} (member : t ∈ items) :
    t.depth < (Tree.list items).depth := by
  rw [depth, Nat.lt_succ_iff]
  induction member with
  | head => exact Nat.le_max_left _ _
  | tail _ _ ih => exact Nat.le_trans ih (Nat.le_max_right _ _)

theorem depth_lt_of_entry {entry : String × Tree} {entries : List (String × Tree)}
    (member : entry ∈ entries) : entry.2.depth < (Tree.map entries).depth := by
  rw [depth, Nat.lt_succ_iff]
  induction member with
  | head => exact Nat.le_max_left _ _
  | tail _ _ ih => exact Nat.le_trans ih (Nat.le_max_right _ _)

/-! ## Data that is only carried along -/

/-- Data that was carried along: it is JSON, and carrying it along again changes nothing. -/
structure IsCarried (t : Tree) : Prop where
  json : t.isJson = true
  settled : t.carried = t

theorem isCarried_list {items : List Tree} (each : ∀ t ∈ items, t.IsCarried) :
    (list items).IsCarried where
  json := isJson_list.2 fun t member => (each t member).json
  settled := by
    have same : carriedItems items = items := by
      induction items with
      | nil => rfl
      | cons t rest ih =>
          obtain ⟨first, others⟩ := List.forall_mem_cons.1 each
          rw [carriedItems, first.settled, ih others]
    rw [carried, same]

theorem isCarried_map {entries : List (String × Tree)} (order : Keyed.Ascending entries)
    (each : ∀ entry ∈ entries, entry.2.IsCarried) : (map entries).IsCarried where
  json := isJson_map.2 fun entry member => (each entry member).json
  settled := by
    have same : carriedEntries entries = entries := by
      clear order
      induction entries with
      | nil => rfl
      | cons entry rest ih =>
          obtain ⟨first, others⟩ := List.forall_mem_cons.1 each
          rw [carriedEntries, first.settled, ih others]
    rw [carried, same, Keyed.ofList_of_ascending order]

mutual
/-- One pass settles data that is only carried along. -/
theorem isCarried_carried : (t : Tree) → t.carried.IsCarried
  | .null => ⟨rfl, rfl⟩
  | .bool _ => ⟨rfl, rfl⟩
  | .number (.int _) => ⟨rfl, rfl⟩
  | .number (.double _) => ⟨rfl, rfl⟩
  | .number .minusZero => ⟨rfl, rfl⟩
  | .number (.infinite _) => ⟨rfl, rfl⟩
  | .number .undefined => ⟨rfl, rfl⟩
  | .text _ => ⟨rfl, rfl⟩
  | .list items => by
      rw [carried]
      exact isCarried_list (isCarried_of_mem_carriedItems items)
  | .map entries => by
      rw [carried]
      refine isCarried_map (Keyed.ascending_ofList _) fun entry member => ?_
      exact isCarried_of_mem_carriedEntries entries entry (Keyed.mem_of_mem_ofList member)

theorem isCarried_of_mem_carriedItems : (items : List Tree) →
    ∀ t ∈ carriedItems items, t.IsCarried
  | [] => fun _ member => nomatch member
  | t :: rest => by
      rw [carriedItems, List.forall_mem_cons]
      exact ⟨isCarried_carried t, isCarried_of_mem_carriedItems rest⟩

theorem isCarried_of_mem_carriedEntries : (entries : List (String × Tree)) →
    ∀ entry ∈ carriedEntries entries, entry.2.IsCarried
  | [] => fun _ member => nomatch member
  | (_, t) :: rest => by
      rw [carriedEntries, List.forall_mem_cons]
      exact ⟨isCarried_carried t, isCarried_of_mem_carriedEntries rest⟩
end

/-- JSON that is not null is carried along as something. -/
theorem carried_ne_null {t : Tree} (json : t.isJson = true) (something : t ≠ .null) :
    t.carried ≠ .null := by
  cases t with
  | null => exact absurd rfl something
  | number n => cases n <;> simp_all [carried, isJson, Numeral.toDouble?]
  | _ => simp [carried]

end Tree
end EventRules
