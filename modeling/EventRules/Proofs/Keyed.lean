/-
# EventRules.Proofs.Keyed -- reading a keyed list after writes

A write is read back under its own key and leaves all other keys alone
(`get?_insert`); under a new key it adds one entry (`insert_perm`).  A list written
entry by entry holds, under each key, the last entry of that key (`get?_ofList`); its keys
ascend, and once they do nothing is left to sort (`ofList_of_ascending`).  If no key comes twice
it holds every entry (`ofList_perm`), and sorting does not look at values (`ofList_map`).
-/
import EventRules.Keyed
import Mathlib.Data.List.Induction
namespace EventRules.Keyed

set_option autoImplicit false

universe u

variable {α : Type u}

theorem get?_insert (key other : String) (value : α) (entries : List (String × α)) :
    get? other (insert key value entries) =
      if key = other then some value else get? other entries := by
  by_cases same : key = other
  · subst same
    rw [if_pos rfl, get?_insert_self]
  · rw [if_neg same, get?_insert_of_ne (Ne.symm same)]

theorem has_insert (key other : String) (value : α) (entries : List (String × α)) :
    has other (insert key value entries) = (decide (key = other) || has other entries) := by
  unfold has
  rw [get?_insert]
  by_cases same : key = other <;> simp [same]

/-- A write under a new key adds its entry and touches no other. -/
theorem insert_perm {key : String} {entries : List (String × α)} (fresh : get? key entries = none)
    (value : α) : (insert key value entries).Perm ((key, value) :: entries) := by
  induction entries with
  | nil => exact List.Perm.refl _
  | cons entry rest ih =>
      obtain ⟨k, v⟩ := entry
      have differ : k ≠ key := by
        rintro rfl
        simp [get?] at fresh
      rw [get?_cons, if_neg differ] at fresh
      unfold insert
      split
      · exact List.Perm.refl _
      · exact ((ih fresh).cons (k, v)).trans (List.Perm.swap _ _ rest)

theorem ofList_append_singleton (entries : List (String × α)) (entry : String × α) :
    ofList (entries ++ [entry]) = insert entry.1 entry.2 (ofList entries) := by
  simp [ofList, List.foldl_append]

/-- A list written entry by entry holds the last entry of each key. -/
theorem get?_ofList (key : String) (entries : List (String × α)) :
    get? key (ofList entries) =
      ((entries.filter fun entry => entry.1 = key).getLast?).map Prod.snd := by
  -- the last entry decides, so the induction takes entries off the end
  induction entries using List.reverseRecOn with
  | nil => rfl
  | append_singleton entries entry ih =>
      rw [ofList_append_singleton, get?_insert, ih, List.filter_append]
      by_cases same : entry.1 = key
      · simp [same]
      · simp [same]

theorem mem_of_mem_insert {key : String} {value : α} {entry : String × α}
    {entries : List (String × α)} (member : entry ∈ insert key value entries) :
    entry = (key, value) ∨ entry ∈ entries := by
  induction entries with
  | nil => exact .inl (List.mem_singleton.1 member)
  | cons first rest ih =>
      obtain ⟨k, v⟩ := first
      unfold insert at member
      split at member
      · exact List.mem_cons.1 member
      · split at member
        · exact (List.mem_cons.1 member).imp_right (List.mem_cons_of_mem _)
        · rcases List.mem_cons.1 member with rfl | member
          · exact .inr List.mem_cons_self
          · exact (ih member).imp_right (List.mem_cons_of_mem _)

/-- Sorting makes up no entries. -/
theorem mem_of_mem_ofList {entry : String × α} {entries : List (String × α)}
    (member : entry ∈ ofList entries) : entry ∈ entries := by
  induction entries using List.reverseRecOn with
  | nil => cases member
  | append_singleton entries last ih =>
      rw [ofList_append_singleton] at member
      rcases mem_of_mem_insert member with rfl | member
      · exact List.mem_append_right _ List.mem_cons_self
      · exact List.mem_append_left _ (ih member)

theorem ascending_ofList (entries : List (String × α)) : Ascending (ofList entries) := by
  induction entries using List.reverseRecOn with
  | nil => exact List.Pairwise.nil
  | append_singleton entries last ih =>
      rw [ofList_append_singleton]
      exact ih.insert _ _

/-- A key above all others is written at the end. -/
theorem insert_above {key : String} {entries : List (String × α)}
    (above : ∀ other ∈ keys entries, other < key) (value : α) :
    insert key value entries = entries ++ [(key, value)] := by
  induction entries with
  | nil => rfl
  | cons first rest ih =>
      obtain ⟨k, v⟩ := first
      have below : k < key := above k List.mem_cons_self
      have others : ∀ other ∈ keys rest, other < key := fun other member =>
        above other (List.mem_cons_of_mem _ member)
      unfold insert
      rw [if_neg (String.lt_asymm below), if_neg (String.ne_of_lt below), ih others]
      rfl

/-- A list whose keys ascend is sorted already. -/
theorem ofList_of_ascending {entries : List (String × α)} (order : Ascending entries) :
    ofList entries = entries := by
  induction entries using List.reverseRecOn with
  | nil => rfl
  | append_singleton entries last ih =>
      unfold Ascending keys at order
      rw [List.map_append, List.pairwise_append] at order
      obtain ⟨order, -, apart⟩ := order
      have above : ∀ other ∈ keys entries, other < last.1 := fun other member =>
        apart other member last.1 List.mem_cons_self
      rw [ofList_append_singleton, ih order, insert_above above]

theorem get?_eq_none {key : String} {entries : List (String × α)} (absent : key ∉ keys entries) :
    get? key entries = none := by
  induction entries with
  | nil => rfl
  | cons first rest ih =>
      obtain ⟨k, v⟩ := first
      simp only [keys, List.map_cons, List.mem_cons, not_or] at absent ih
      rw [get?_cons, if_neg (Ne.symm absent.1), ih absent.2]

/-- Sorting loses no entry when no key comes twice. -/
theorem ofList_perm {entries : List (String × α)} (distinct : (keys entries).Nodup) :
    (ofList entries).Perm entries := by
  induction entries using List.reverseRecOn with
  | nil => exact List.Perm.refl _
  | append_singleton entries last ih =>
      simp only [keys, List.map_append, List.map_cons, List.map_nil] at distinct ih
      obtain ⟨distinct, -, apart⟩ := List.nodup_append.1 distinct
      have sorted := ih distinct
      have fresh : get? last.1 (ofList entries) = none := by
        apply get?_eq_none
        intro member
        have member := (sorted.map Prod.fst).subset member
        exact apart _ member _ List.mem_cons_self rfl
      rw [ofList_append_singleton]
      calc (insert last.1 last.2 (ofList entries)).Perm (last :: ofList entries) :=
            insert_perm fresh _
        _ |>.Perm (last :: entries) := sorted.cons last
        _ |>.Perm (entries ++ [last]) := (List.perm_append_singleton _ _).symm

section Values

universe w

variable {β : Type w} (f : String → α → β)

theorem insert_map (key : String) (value : α) (entries : List (String × α)) :
    insert key (f key value) (entries.map fun entry => (entry.1, f entry.1 entry.2)) =
      (insert key value entries).map fun entry => (entry.1, f entry.1 entry.2) := by
  induction entries with
  | nil => rfl
  | cons first rest ih =>
      obtain ⟨k, v⟩ := first
      simp only [List.map_cons, insert]
      split
      · rfl
      · split
        · rfl
        · rw [ih, List.map_cons]

/-- Entries are sorted by their keys, whatever their values are. -/
theorem ofList_map (entries : List (String × α)) :
    ofList (entries.map fun entry => (entry.1, f entry.1 entry.2)) =
      (ofList entries).map fun entry => (entry.1, f entry.1 entry.2) := by
  induction entries using List.reverseRecOn with
  | nil => rfl
  | append_singleton entries last ih =>
      rw [List.map_append, List.map_singleton, ofList_append_singleton, ofList_append_singleton,
        ih, insert_map]

end Values

end EventRules.Keyed
