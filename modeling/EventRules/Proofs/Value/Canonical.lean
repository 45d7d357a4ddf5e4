/-
# EventRules.Proofs.Value.Canonical -- what canonical text tells

The canonical text of a value tells the document that the value is written as
(`Value.canonicalEq_iff_toTree`), and the document tells the value, except that a date is
written as its stamp: `Value.stamped` puts stamps for the dates of a value, at every depth, and
values are canonically equal exactly when they agree after that
(`Value.canonicalEq_iff_stamped`).
-/
import EventRules.Proofs.Json.Writer
import EventRules.Proofs.Value.Document
import EventRules.Value.Canonical
namespace EventRules.Value

set_option autoImplicit false

/-- Canonical text tells the document of a value. -/
theorem canonicalEq_iff_toTree {a b : Value} :
    a.canonicalEq b = true ↔ a.toTree = b.toTree := by
  rw [canonicalEq, beq_iff_eq, canonical, canonical]
  constructor
  · exact Json.write_injective (isJson_toTree a) (isJson_toTree b)
  · exact congrArg Json.write

/-- A number is told by its numeral. -/
theorem numeral_injective {x y : Double} (same : numeral x = numeral y) : x = y := by
  have read := toDouble?_numeral x
  rw [same, toDouble?_numeral] at read
  exact (Option.some.inj read).symm

/-! ## Stamps for dates -/

mutual
/-- A value with the stamp of every date in place of the date. -/
def stamped : Value → Value
  | .date t => .text t.millisStamp
  | .list items => .list (stampedItems items)
  | .object fields => .object (stampedFields fields)
  | leaf => leaf

/-- The items of a list with stamps for dates. -/
def stampedItems : List Value → List Value
  | [] => []
  | v :: rest => stamped v :: stampedItems rest

/-- The fields of an object with stamps for dates. -/
def stampedFields : List (String × Value) → List (String × Value)
  | [] => []
  | (k, v) :: rest => (k, stamped v) :: stampedFields rest
end

mutual
/-- Stamps for dates leave the document as it is. -/
theorem toTree_stamped : (v : Value) → v.stamped.toTree = v.toTree
  | .null => rfl
  | .bool _ => rfl
  | .number _ => rfl
  | .text _ => rfl
  | .date _ => rfl
  | .list items => by rw [stamped, toTree, toTrees_stamped items, toTree]
  | .object fields => by rw [stamped, toTree, toEntries_stamped fields, toTree]

theorem toTrees_stamped : (items : List Value) → toTrees (stampedItems items) = toTrees items
  | [] => rfl
  | v :: rest => by rw [stampedItems, toTrees, toTree_stamped v, toTrees_stamped rest, toTrees]

theorem toEntries_stamped : (fields : List (String × Value)) →
    toEntries (stampedFields fields) = toEntries fields
  | [] => rfl
  | (_, v) :: rest => by
      rw [stampedFields, toEntries, toTree_stamped v, toEntries_stamped rest, toEntries]
end

mutual
/-- The document tells the value up to stamps for dates. -/
theorem stamped_of_toTree : (a : Value) → ∀ ⦃b : Value⦄, a.toTree = b.toTree →
    a.stamped = b.stamped
  | .null => by
      intro b same
      cases b with
      | null => rfl
      | _ => cases same
  | .bool p => by
      intro b same
      cases b with
      | bool q =>
          cases same
          rfl
      | _ => cases same
  | .number x => by
      intro b same
      cases b with
      | number y => rw [numeral_injective (Tree.number.inj same)]
      | _ => cases same
  | .text s => by
      intro b same
      cases b with
      | text s' =>
          cases same
          rfl
      | date t =>
          cases same
          rfl
      | _ => cases same
  | .date t => by
      intro b same
      cases b with
      | text s =>
          cases same
          rfl
      | date t' => rw [stamped, stamped, Tree.text.inj same]
      | _ => cases same
  | .list items => by
      intro b same
      cases b with
      | list items' =>
          rw [stamped, stamped, stampedItems_of_toTrees items (Tree.list.inj same)]
      | _ => cases same
  | .object fields => by
      intro b same
      cases b with
      | object fields' =>
          rw [stamped, stamped, stampedFields_of_toEntries fields (Tree.map.inj same)]
      | _ => cases same

theorem stampedItems_of_toTrees : (items : List Value) → ∀ ⦃items' : List Value⦄,
    toTrees items = toTrees items' → stampedItems items = stampedItems items'
  | [] => by
      intro items' same
      cases items' with
      | nil => rfl
      | cons _ _ => cases same
  | v :: rest => by
      intro items' same
      cases items' with
      | nil => cases same
      | cons w rest' =>
          obtain ⟨first, others⟩ := List.cons.inj same
          rw [stampedItems, stampedItems, stamped_of_toTree v first,
            stampedItems_of_toTrees rest others]

theorem stampedFields_of_toEntries : (fields : List (String × Value)) →
    ∀ ⦃fields' : List (String × Value)⦄, toEntries fields = toEntries fields' →
      stampedFields fields = stampedFields fields'
  | [] => by
      intro fields' same
      cases fields' with
      | nil => rfl
      | cons _ _ => cases same
  | (k, v) :: rest => by
      intro fields' same
      cases fields' with
      | nil => cases same
      | cons field rest' =>
          obtain ⟨entry, others⟩ := List.cons.inj same
          obtain ⟨key, value⟩ := Prod.mk.inj entry
          obtain ⟨k', w⟩ := field
          cases key
          rw [stampedFields, stampedFields, stamped_of_toTree v value,
            stampedFields_of_toEntries rest others]
end

/-- **Values are canonically equal exactly when they agree up to stamps for dates.** -/
theorem canonicalEq_iff_stamped {a b : Value} :
    a.canonicalEq b = true ↔ a.stamped = b.stamped := by
  rw [canonicalEq_iff_toTree]
  constructor
  · exact fun same => stamped_of_toTree a same
  · intro same
    rw [← toTree_stamped a, same, toTree_stamped]

/-! ## Presence -/

theorem millisStamp_ne_empty (t : Instant) : t.millisStamp ≠ "" := by
  intro empty
  have chars := congrArg String.toList empty
  rw [Instant.millisStamp, String.toList_ofList, Instant.stampWith] at chars
  simp at chars

/-- A date is as present as its stamp. -/
theorem isPresent_stamped (v : Value) : v.stamped.isPresent = v.isPresent := by
  cases v with
  | date t => exact bne_iff_ne.2 (millisStamp_ne_empty t)
  | _ => rfl

end EventRules.Value
