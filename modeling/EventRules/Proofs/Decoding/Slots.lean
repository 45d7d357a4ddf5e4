/-
# EventRules.Proofs.Decoding.Slots -- what decoders yield, and what they read back

Two kinds of facts about decoders, each put together slot by slot as the decoders are:

* what a decoder makes of JSON has a property (`Decode.Yields`, `Slots.Yields`), whatever
  the order of the entries, with defaults for what is missing, and also where the parts
  stand in a list;
* a map with one entry for each slot, in the order of the slots, is decoded to what its
  entries are decoded to (`Slots.Reads`).  Such a map repeats no name and has no name
  without a slot, so nothing is wrong with it as a whole (`Slots.Reads.decode`).

A codec that writes every part out reads back what it yields once the two meet: what each
part yields is what makes it read back.
-/
import EventRules.Decoding.Basic
import EventRules.Proofs.Tree
namespace EventRules

set_option autoImplicit false

variable {α β : Type}

/-! ## Single parts -/

namespace Decode

/-- What a decoder makes of JSON has a property. -/
def Yields (part : Tree → Decoded α) (P : α → Prop) : Prop :=
  ∀ (t : Tree) (a : α), t.isJson = true → part t = .ok a → P a

variable {part : Tree → Decoded α} {P : α → Prop}

theorem map_eq_ok {x : Decoded α} {f : α → β} {b : β} :
    x.map f = .ok b ↔ ∃ a, x = .ok a ∧ f a = b := by
  cases x <;> simp [Except.map]

theorem Yields.any : Yields part fun _ => True := fun _ _ _ _ => trivial

theorem Yields.optional (yields : Yields part P) :
    Yields (Decode.optional part) fun o => ∀ a ∈ o, P a := by
  intro t o json decoded a present
  unfold Decode.optional at decoded
  split at decoded
  · cases decoded
    cases present
  · obtain ⟨b, answer, rfl⟩ := map_eq_ok.1 decoded
    cases present
    exact yields t a json answer

theorem each_yields (yields : Yields part P) {items : List Tree}
    (json : ∀ t ∈ items, t.isJson = true) {found : List α} (decoded : each part items = .ok found) :
    ∀ a ∈ found, P a := by
  induction items generalizing found with
  | nil =>
      cases decoded
      exact fun a member => nomatch member
  | cons t rest ih =>
      obtain ⟨first, others⟩ := List.forall_mem_cons.1 json
      rw [each] at decoded
      split at decoded
      · cases decoded
      · rename_i a answer
        obtain ⟨tail, answers, rfl⟩ := map_eq_ok.1 decoded
        exact List.forall_mem_cons.2 ⟨yields t a first answer, ih others answers⟩

theorem Yields.list (yields : Yields part P) : Yields (Decode.list part) fun l => ∀ a ∈ l, P a := by
  intro t found json decoded
  cases t with
  | list items => exact each_yields yields (Tree.isJson_list.1 json) decoded
  | _ => cases decoded

/-- An integer that was decoded lies in the range of what can be decoded. -/
theorem int_yields : Yields int fun n => int (Tree.ofInt n) = .ok n := by
  intro t n _ decoded
  have read := decoded
  unfold int at decoded
  split at decoded
  · split at decoded
    · cases decoded
      exact read
    · split at decoded <;> cases decoded
  · cases decoded

/-! ### Reading back -/

theorem text_text (d : Dialect) (s : String) : text d (.text s) = .ok s := by
  cases d <;> rfl

theorem bool_bool (b : Bool) : bool (.bool b) = .ok b := rfl

theorem choice_text {known : String → Option α} {name : String} {a : α}
    (named : known name = some a) (d : Dialect) : choice known d (.text name) = .ok a := by
  cases d <;> simp [choice, choiceOf, scalarText?, named]

theorem optional_ofOption {leaf : α → Tree} {o : Option α}
    (back : ∀ a ∈ o, leaf a ≠ .null ∧ part (leaf a) = .ok a) :
    optional part (Tree.ofOption leaf o) = .ok o := by
  cases o with
  | none => rfl
  | some a =>
      obtain ⟨something, read⟩ := back a rfl
      rw [Tree.ofOption]
      unfold optional
      split
      · contradiction
      · rw [read]
        rfl

theorem list_map {leaf : α → Tree} {l : List α} (back : ∀ a ∈ l, part (leaf a) = .ok a) :
    list part (.list (l.map leaf)) = .ok l := by
  rw [list]
  induction l with
  | nil => rfl
  | cons a rest ih =>
      obtain ⟨first, others⟩ := List.forall_mem_cons.1 back
      rw [List.map_cons, each, first, ih others]
      rfl

end Decode

namespace Slots

/-! ## Names -/

section Names

variable (name : String) (part : Tree → Decoded α)

@[simp] theorem names_none (a : α) : (Slots.none a).names = [] := rfl

@[simp] theorem names_required : (Slots.required name part).names = [name] := rfl

@[simp] theorem names_withDefault (default : α) :
    (Slots.withDefault default name part).names = [name] := rfl

@[simp] theorem names_optional : (Slots.optional name part).names = [name] := rfl

@[simp] theorem names_and (slots : Slots (α → β)) (slot : Slots α) :
    (slots.and slot).names = slots.names ++ slot.names := rfl

end Names

/-! ## What slots yield -/

theorem mem_of_find {name : String} {entries : List (String × Tree)} {start place : Nat} {t : Tree}
    (found : find name start entries = some (place, t)) : (name, t) ∈ entries := by
  induction entries generalizing start with
  | nil => cases found
  | cons entry rest ih =>
      obtain ⟨k, held⟩ := entry
      unfold find at found
      split at found
      · rename_i same
        cases found
        cases same
        exact List.mem_cons_self
      · exact List.mem_cons_of_mem _ (ih found)

/-- What slots make of JSON has a property, in a map and in a list; of a list what is left
over is JSON again. -/
structure Yields (slots : Slots α) (P : α → Prop) : Prop where
  ofEntries : ∀ {entries : List (String × Tree)} {a : α},
    (∀ entry ∈ entries, entry.2.isJson = true) → slots.ofEntries entries = .ok a → P a
  ofItems : ∀ {items rest : List Tree} {a : α}, (∀ t ∈ items, t.isJson = true) →
    slots.ofItems items = .ok (a, rest) → P a ∧ ∀ t ∈ rest, t.isJson = true

namespace Yields

variable {P : α → Prop} {part : Tree → Decoded α} {name : String}

theorem none {a : α} (holds : P a) : (Slots.none a).Yields P where
  ofEntries _ decoded := by
    cases decoded
    exact holds
  ofItems json decoded := by
    cases decoded
    exact ⟨holds, json⟩

theorem ok_of_decodeAt {place : Nat} {t : Tree} {a : α}
    (decoded : decodeAt part place t = .ok a) : part t = .ok a := by
  unfold decodeAt at decoded
  split at decoded
  · cases decoded
    assumption
  · cases decoded

/-- What the first item of a list is decoded to, and what is left over. -/
theorem of_item (yields : Decode.Yields part P) {t : Tree} {rest rest' : List Tree} {a : α}
    (json : ∀ t' ∈ t :: rest, t'.isJson = true)
    (decoded : ((part t).map fun a => (a, rest)) = .ok (a, rest')) :
    P a ∧ ∀ t ∈ rest', t.isJson = true := by
  obtain ⟨first, others⟩ := List.forall_mem_cons.1 json
  obtain ⟨b, answer, same⟩ := Decode.map_eq_ok.1 decoded
  cases same
  exact ⟨yields t a first answer, others⟩

theorem required (yields : Decode.Yields part P) : (Slots.required name part).Yields P where
  ofEntries json decoded := by
    dsimp only [Slots.required] at decoded
    split at decoded
    · rename_i found
      exact yields _ _ (json _ (mem_of_find found)) (ok_of_decodeAt decoded)
    · cases decoded
  ofItems {items rest a} json decoded := by
    cases items with
    | nil => cases decoded
    | cons t items => exact of_item yields json decoded

theorem withDefault {default : α} (holds : P default) (yields : Decode.Yields part P) :
    (Slots.withDefault default name part).Yields P where
  ofEntries json decoded := by
    dsimp only [Slots.withDefault] at decoded
    split at decoded
    · rename_i found
      exact yields _ _ (json _ (mem_of_find found)) (ok_of_decodeAt decoded)
    · cases decoded
      exact holds
  ofItems {items rest a} json decoded := by
    cases items with
    | nil =>
        cases decoded
        exact ⟨holds, json⟩
    | cons t items => exact of_item yields json decoded

theorem optional (yields : Decode.Yields part P) :
    (Slots.optional name part).Yields fun o => ∀ a ∈ o, P a :=
  withDefault (fun _ absent => nomatch absent) yields.optional

/-- One more slot: what it yields goes into the next argument. -/
theorem and {slots : Slots (α → β)} {slot : Slots α} {Q : β → Prop}
    (before : slots.Yields fun f => ∀ a, P a → Q (f a)) (yields : slot.Yields P) :
    (slots.and slot).Yields Q where
  ofEntries {entries b} json decoded := by
    dsimp only [Slots.and] at decoded
    split at decoded
    · rename_i f a first second
      cases decoded
      exact before.ofEntries json first a (yields.ofEntries json second)
    all_goals cases decoded
  ofItems {items rest b} json decoded := by
    dsimp only [Slots.and] at decoded
    split at decoded
    · cases decoded
    · rename_i f middle first
      obtain ⟨into, json⟩ := before.ofItems json first
      obtain ⟨⟨a, left⟩, second, same⟩ := Decode.map_eq_ok.1 decoded
      cases same
      obtain ⟨holds, json⟩ := yields.ofItems json second
      exact ⟨into a holds, json⟩

/-- One more slot, of which nothing need be known. -/
theorem and_any {slots : Slots (α → β)} {slot : Slots α} {Q : β → Prop}
    (before : slots.Yields fun f => ∀ a, Q (f a)) (yields : slot.Yields fun _ => True) :
    (slots.and slot).Yields Q := by
  refine and ⟨fun json decoded a _ => ?_, fun json decoded => ?_⟩ yields
  · exact before.ofEntries json decoded a
  · obtain ⟨into, left⟩ := before.ofItems json decoded
    exact ⟨fun a _ => into a, left⟩

variable {slots : Slots α}

theorem decodeEntries (yields : slots.Yields P) {closed : Bool} {entries : List (String × Tree)}
    {a : α} (json : ∀ entry ∈ entries, entry.2.isJson = true)
    (decoded : slots.decodeEntries closed entries = .ok a) : P a := by
  unfold Slots.decodeEntries at decoded
  split at decoded
  · rename_i filled _
    cases decoded
    exact yields.ofEntries json filled
  all_goals cases decoded

theorem decodeItems (yields : slots.Yields P) {leftOver : DecodeError} {items : List Tree} {a : α}
    (json : ∀ t ∈ items, t.isJson = true)
    (decoded : slots.decodeItems leftOver items = .ok a) : P a := by
  unfold Slots.decodeItems at decoded
  split at decoded
  · rename_i filled
    cases decoded
    exact (yields.ofItems json filled).1
  all_goals cases decoded

theorem decode (yields : slots.Yields P) (closed : Bool) (d : Dialect) :
    Decode.Yields (slots.decode closed d) P := by
  intro t a json decoded
  cases t with
  | map entries => exact yields.decodeEntries (Tree.isJson_map.1 json) decoded
  | list items =>
      cases d with
      | direct => exact yields.decodeItems (Tree.isJson_list.1 json) decoded
      | buffered => exact yields.decodeItems (Tree.isJson_list.1 json) decoded
      | plain => cases decoded
  | _ => cases decoded

end Yields

/-! ## What slots read back -/

theorem find_append {name : String} {entries : List (String × Tree)}
    (fresh : name ∉ entries.map Prod.fst) (start : Nat) (t : Tree) (more : List (String × Tree)) :
    find name start (entries ++ (name, t) :: more) = some (start + entries.length, t) := by
  induction entries generalizing start with
  | nil => simp [find]
  | cons entry rest ih =>
      obtain ⟨k, held⟩ := entry
      rw [List.map_cons, List.mem_cons, not_or] at fresh
      rw [List.cons_append, find, if_neg (Ne.symm fresh.1), ih fresh.2, List.length_cons,
        Nat.add_right_comm]
      rfl

theorem stray_eq_none {names seen : List String} {entries : List (String × Tree)}
    (slotted : ∀ k ∈ entries.map Prod.fst, k ∈ names) (distinct : (entries.map Prod.fst).Nodup)
    (fresh : ∀ k ∈ entries.map Prod.fst, k ∉ seen) (closed : Bool) (place : Nat) :
    Fault.stray closed names place seen entries = .none := by
  induction entries generalizing seen place with
  | nil => rfl
  | cons entry rest ih =>
      obtain ⟨k, held⟩ := entry
      obtain ⟨here, slotted⟩ := List.forall_mem_cons.1 slotted
      obtain ⟨new, fresh⟩ := List.forall_mem_cons.1 fresh
      obtain ⟨once, distinct⟩ := List.nodup_cons.1 distinct
      have later : ∀ k' ∈ rest.map Prod.fst, k' ∉ k :: seen := by
        intro k' member again
        rcases List.mem_cons.1 again with rfl | again
        · exact once member
        · exact fresh k' member again
      rw [Fault.stray, if_pos (List.contains_iff_mem.2 here),
        if_neg (fun again => new (List.contains_iff_mem.1 again)), ih slotted distinct later]

/-- A slot of a name decodes what stands under the name. -/
structure At (slot : Slots α) (name : String) (t : Tree) (a : α) : Prop where
  names : slot.names = [name]
  ofEntries : ∀ {entries : List (String × Tree)} {place : Nat},
    find name 0 entries = some (place, t) → slot.ofEntries entries = .ok a

namespace At

variable {part : Tree → Decoded α} {name : String} {t : Tree} {a : α}

theorem required (read : part t = .ok a) : (Slots.required name part).At name t a where
  names := rfl
  ofEntries found := by
    dsimp only [Slots.required]
    rw [found]
    simp only [decodeAt, read]

theorem withDefault {default : α} (read : part t = .ok a) :
    (Slots.withDefault default name part).At name t a where
  names := rfl
  ofEntries found := by
    dsimp only [Slots.withDefault]
    rw [found]
    simp only [decodeAt, read]

theorem optional (leaf : α → Tree) {o : Option α}
    (back : ∀ a ∈ o, leaf a ≠ .null ∧ part (leaf a) = .ok a) :
    (Slots.optional name part).At name (Tree.ofOption leaf o) o :=
  withDefault (Decode.optional_ofOption back)

end At

/-- A map has one entry for each slot, in order, and is decoded to `a`, whatever follows. -/
structure Reads (slots : Slots α) (entries : List (String × Tree)) (a : α) : Prop where
  names : entries.map Prod.fst = slots.names
  ofEntries : slots.names.Nodup → ∀ more, slots.ofEntries (entries ++ more) = .ok a

namespace Reads

theorem none (a : α) : (Slots.none a).Reads [] a where
  names := rfl
  ofEntries _ _ := rfl

/-- One more slot, and its entry at the end. -/
theorem and {slots : Slots (α → β)} {slot : Slots α} {entries : List (String × Tree)}
    {name : String} {t : Tree} {f : α → β} {a : α} (before : slots.Reads entries f)
    (last : slot.At name t a) : (slots.and slot).Reads (entries ++ [(name, t)]) (f a) where
  names := by
    rw [List.map_append, before.names, names_and, last.names]
    rfl
  ofEntries distinct more := by
    rw [names_and, last.names] at distinct
    obtain ⟨earlier, -, apart⟩ := List.nodup_append.1 distinct
    have fresh : name ∉ entries.map Prod.fst := by
      rw [before.names]
      exact fun member => apart name member name List.mem_cons_self rfl
    dsimp only [Slots.and]
    rw [List.append_assoc, before.ofEntries earlier, List.singleton_append,
      last.ofEntries (find_append fresh 0 t more)]

variable {slots : Slots α} {entries : List (String × Tree)} {a : α}

theorem decodeEntries (reads : slots.Reads entries a) (distinct : slots.names.Nodup)
    (closed : Bool) : slots.decodeEntries closed entries = .ok a := by
  have filled := reads.ofEntries distinct []
  rw [List.append_nil] at filled
  have whole : Fault.stray closed slots.names 0 [] entries = .none := by
    rw [← reads.names] at distinct ⊢
    exact stray_eq_none (fun _ member => member) distinct (fun _ _ => List.not_mem_nil) closed 0
  rw [Slots.decodeEntries, filled, whole]

theorem decode (reads : slots.Reads entries a) (distinct : slots.names.Nodup) (closed : Bool)
    (d : Dialect) : slots.decode closed d (.map entries) = .ok a :=
  reads.decodeEntries distinct closed

end Reads
end Slots
end EventRules
