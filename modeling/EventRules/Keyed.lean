/-
# EventRules.Keyed -- lists of keyed entries

Records, contexts and catalogs are lists of entries with a text key.  `get?`
finds the first entry of a key.  `insert` keeps ascending lists ascending and
replaces the entry that is there; `put` keeps the places that keys already have
and appends a new one.

* `get?_insert_self`, `get?_insert_of_ne`: a written key reads back, all other
  keys read as before.
* `nodup_gather`: gathered keys are distinct.
* `Ascending.insert`: insertion keeps the order of keys.
-/
namespace EventRules.Keyed

set_option autoImplicit false

universe u

variable {α : Type u}

/-- The value of the first entry with a key. -/
def get? (key : String) : List (String × α) → Option α
  | [] => none
  | (k, v) :: rest => if k = key then some v else get? key rest

/-- The keys, in order. -/
def keys (entries : List (String × α)) : List String :=
  entries.map Prod.fst

/-- Whether some entry has a key. -/
def has (key : String) (entries : List (String × α)) : Bool :=
  (get? key entries).isSome

/-- Write an entry at its place in the order of keys. -/
def insert (key : String) (value : α) : List (String × α) → List (String × α)
  | [] => [(key, value)]
  | (k, v) :: rest =>
      if key < k then (key, value) :: (k, v) :: rest
      else if k = key then (key, value) :: rest
      else (k, v) :: insert key value rest

/-- Write an entry where its key stands, or at the end. -/
def put (key : String) (value : α) : List (String × α) → List (String × α)
  | [] => [(key, value)]
  | (k, v) :: rest =>
      if k = key then (key, value) :: rest else (k, v) :: put key value rest

/-- The entries in ascending order of keys; of two with one key the last wins. -/
def ofList (entries : List (String × α)) : List (String × α) :=
  entries.foldl (fun found entry => insert entry.1 entry.2 found) []

/-- The entries in the order in which keys first occur; of two with one key the
last wins. -/
def gather (entries : List (String × α)) : List (String × α) :=
  entries.foldl (fun found entry => put entry.1 entry.2 found) []

/-- The keys strictly ascend. -/
def Ascending (entries : List (String × α)) : Prop :=
  (keys entries).Pairwise (· < ·)

@[simp] theorem get?_nil (key : String) : get? key ([] : List (String × α)) = none := rfl

theorem get?_cons (key k : String) (v : α) (rest : List (String × α)) :
    get? key ((k, v) :: rest) = if k = key then some v else get? key rest := rfl

theorem get?_insert_self (key : String) (value : α) (entries : List (String × α)) :
    get? key (insert key value entries) = some value := by
  induction entries with
  | nil => simp [insert, get?]
  | cons entry rest ih =>
      obtain ⟨k, v⟩ := entry
      unfold insert
      split
      · simp [get?]
      · split
        · simp [get?]
        · rename_i other
          simp [get?, other, ih]

theorem get?_insert_of_ne {key other : String} (differ : other ≠ key) (value : α)
    (entries : List (String × α)) :
    get? other (insert key value entries) = get? other entries := by
  induction entries with
  | nil => simp [insert, get?, Ne.symm differ]
  | cons entry rest ih =>
      obtain ⟨k, v⟩ := entry
      unfold insert
      split
      · simp [get?, Ne.symm differ]
      · split
        · rename_i same
          subst same
          simp [get?, Ne.symm differ]
        · simp [get?, ih]

theorem mem_keys_insert {key other : String} {value : α} {entries : List (String × α)} :
    other ∈ keys (insert key value entries) ↔ other = key ∨ other ∈ keys entries := by
  induction entries with
  | nil => simp [insert, keys]
  | cons entry rest ih =>
      obtain ⟨k, v⟩ := entry
      unfold insert
      split
      · simp [keys]
      · split
        · rename_i same
          subst same
          simp [keys]
        · simp only [keys, List.map_cons, List.mem_cons] at ih ⊢
          rw [ih]
          exact or_left_comm

theorem mem_keys_put {key other : String} {value : α} {entries : List (String × α)} :
    other ∈ keys (put key value entries) ↔ other = key ∨ other ∈ keys entries := by
  induction entries with
  | nil => simp [put, keys]
  | cons entry rest ih =>
      obtain ⟨k, v⟩ := entry
      unfold put
      split
      · rename_i same
        subst same
        simp [keys]
      · simp only [keys, List.map_cons, List.mem_cons] at ih ⊢
        rw [ih]
        exact or_left_comm

theorem nodup_put {entries : List (String × α)} (distinct : (keys entries).Nodup)
    (key : String) (value : α) : (keys (put key value entries)).Nodup := by
  induction entries with
  | nil => exact List.nodup_cons.2 ⟨List.not_mem_nil, List.nodup_nil⟩
  | cons entry rest ih =>
      obtain ⟨k, v⟩ := entry
      obtain ⟨fresh, tail⟩ := List.nodup_cons.1 distinct
      unfold put
      split
      · rename_i same
        subst same
        exact distinct
      · rename_i differ
        refine List.nodup_cons.2 ⟨fun member => ?_, ih tail⟩
        rcases mem_keys_put.1 member with same | member
        · exact differ same
        · exact fresh member

theorem nodup_gather (entries : List (String × α)) : (keys (gather entries)).Nodup := by
  have grow : ∀ (rest found : List (String × α)), (keys found).Nodup →
      (keys (rest.foldl (fun found entry => put entry.1 entry.2 found) found)).Nodup := by
    intro rest
    induction rest with
    | nil => exact fun _ distinct => distinct
    | cons entry rest ih => exact fun found distinct => ih _ (nodup_put distinct _ _)
  exact grow entries [] List.nodup_nil

theorem Ascending.insert {entries : List (String × α)} (order : Ascending entries)
    (key : String) (value : α) : Ascending (insert key value entries) := by
  induction entries with
  | nil => exact List.pairwise_singleton _ _
  | cons entry rest ih =>
      obtain ⟨k, v⟩ := entry
      have tail : Ascending rest := (List.pairwise_cons.1 order).2
      have above : ∀ other ∈ keys rest, k < other := (List.pairwise_cons.1 order).1
      unfold Keyed.insert
      split
      · rename_i below
        refine List.pairwise_cons.2 ⟨fun other member => ?_, order⟩
        rcases List.mem_cons.1 member with rfl | member
        · exact below
        · exact String.lt_trans below (above other member)
      · split
        · rename_i same
          subst same
          exact List.pairwise_cons.2 ⟨above, tail⟩
        · rename_i notBelow differ
          refine List.pairwise_cons.2 ⟨fun other member => ?_, ih tail⟩
          rcases mem_keys_insert.1 member with rfl | member
          · rcases String.le_total k other with le | le
            · exact String.not_le.1 fun back => differ (String.le_antisymm le back)
            · exact String.not_le.1 fun back => notBelow (String.not_le.1 fun le' =>
                differ (String.le_antisymm le' le))
          · exact above other member

end EventRules.Keyed
