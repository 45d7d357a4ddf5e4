/-
# EventRules.Proofs.Condition.Codec -- conditions read back

Whatever condition was decoded from JSON, of any depth and in any of the forms a decoder takes,
it is decoded again from the document it is written as (`Condition.decode_yields`).

A decoder of conditions is given how deep it may go, so the induction is on that depth and
carries that the conditions inside read back at every depth that suffices for them
(`Condition.ReadsBack`).  The parts of a kind are the slots of that kind, and one lemma for each
constructor says that what its parts yield makes it read back.
-/
import EventRules.Condition.Codec
import EventRules.Proofs.Decoding.Slots
import EventRules.Proofs.Value.Document
namespace EventRules

set_option autoImplicit false

namespace Operand

theorem decode_yields :
    Decode.Yields decode fun operand => decode operand.encode = .ok operand := by
  have path : ∀ p, decode (encode (.path p)) = .ok (.path p) := by
    intro p
    simp [encode, decode, only?]
  have constant : ∀ t, decode (encode (.constant (Value.ofTree t))) =
      .ok (.constant (Value.ofTree t)) := by
    intro t
    have back : Value.ofTree (Value.ofTree t).toTree = Value.ofTree t := Value.readsBack_ofTree t
    simp [encode, decode, only?, back]
  intro t operand _ decoded
  unfold decode at decoded
  split at decoded
  · split at decoded
    · cases decoded
      exact path _
    · split at decoded
      · cases decoded
        exact constant _
      · cases decoded
  · cases decoded
    exact path _
  · cases decoded
    exact constant _
  · cases decoded

theorem isJson_encode (operand : Operand) : operand.encode.isJson = true := by
  cases operand with
  | path p => rfl
  | constant value => simp [encode, Tree.isJson, Tree.holdJson, value.isJson_toTree]

end Operand

namespace Comparison

theorem ofName?_symbol (op : Comparison) : ofName? op.symbol = some op := by
  cases op <;> decide

end Comparison

namespace ValueKind

theorem named_name (kind : ValueKind) : Decode.named everyOne name kind.name = some kind := by
  cases kind <;> decide

end ValueKind

namespace Condition

variable {child : Tree → Decoded Condition}

theorem Kind.decode_name (d : Dialect) (kind : Kind) :
    Kind.decode d (.text kind.name) = .ok kind := by
  cases d <;> cases kind <;> rfl

/-- A condition is decoded from the document it is written as, at every depth that suffices. -/
def ReadsBack (c : Condition) : Prop :=
  ∀ (d : Dialect) (n : Nat), c.encode.depth < n → decodeTo n d c.encode = .ok c

theorem slots_distinct (child : Tree → Decoded Condition) (kind : Kind) :
    ("type" :: (slots child kind).names).Nodup := by
  cases kind <;> simp [slots]

/-- The parts of a kind are read back under its name. -/
theorem decodeWith_of_reads {kind : Kind} {parts : List (String × Tree)} {c : Condition}
    (reads : (slots child kind).Reads parts c) (d : Dialect) :
    decodeWith child d (.map (("type", .text kind.name) :: parts)) = .ok c := by
  obtain ⟨apart, distinct⟩ := List.nodup_cons.1 (slots_distinct child kind)
  have unnamed : ∀ part ∈ parts, part.1 ≠ "type" := by
    intro part member same
    rw [← reads.names] at apart
    exact apart (same ▸ List.mem_map_of_mem member)
  have none : parts.filter (fun part => part.1 = "type") = [] :=
    List.filter_eq_nil_iff.2 fun part member => by simpa using unnamed part member
  have all : parts.filter (fun part => part.1 ≠ "type") = parts :=
    List.filter_eq_self.2 fun part member => by simpa using unnamed part member
  have named : kindOf d (("type", .text kind.name) :: parts) = .ok kind := by
    rw [kindOf, List.filter_cons_of_pos (by simp), none]
    simp [Kind.decode_name]
  rw [decodeWith, named]
  dsimp only
  rw [List.filter_cons_of_neg (by simp), all]
  exact reads.decodeEntries distinct false

/-- A condition reads back once its parts do, one level further in. -/
theorem readsBack_of_reads (kind : Kind) {parts : List (String × Tree)} {c : Condition}
    (written : c.encode = .map (("type", .text kind.name) :: parts))
    (reads : ∀ n, (∀ part ∈ parts, part.2.depth < n) →
      (slots (decodeTo n .buffered) kind).Reads parts c) : c.ReadsBack := by
  intro d n deep
  rw [written] at deep ⊢
  cases n with
  | zero => exact absurd deep (Nat.not_lt_zero _)
  | succ n =>
      rw [decodeTo]
      refine decodeWith_of_reads (reads n fun part member => ?_) d
      have inside := Tree.depth_lt_of_entry (List.mem_cons_of_mem ("type", .text kind.name) member)
      exact Nat.lt_of_lt_of_le inside (Nat.le_of_lt_succ deep)

/-! ## Each kind -/

theorem encodeAll_eq_map (children : List Condition) :
    encodeAll children = children.map encode := by
  induction children with
  | nil => rfl
  | cons c rest ih => rw [encodeAll, ih, List.map_cons]

/-- Children that read back are read as a list, once it goes deep enough. -/
theorem list_encodeAll {children : List Condition} (back : ∀ c ∈ children, c.ReadsBack) {n : Nat}
    (deep : (Tree.list (encodeAll children)).depth < n) :
    Decode.list (decodeTo n .buffered) (.list (encodeAll children)) = .ok children := by
  rw [encodeAll_eq_map] at deep ⊢
  refine Decode.list_map fun c member => back c member .buffered n ?_
  exact Nat.lt_trans (Tree.depth_lt_of_item (List.mem_map_of_mem member)) deep

theorem readsBack_always : always.ReadsBack :=
  readsBack_of_reads .always rfl fun _ _ => .none _

theorem readsBack_all {children : List Condition} (back : ∀ c ∈ children, c.ReadsBack) :
    (all children).ReadsBack :=
  readsBack_of_reads .all rfl fun _ deep =>
    (Slots.Reads.none _).and (.withDefault (list_encodeAll back (deep _ List.mem_cons_self)))

theorem readsBack_any {children : List Condition} (back : ∀ c ∈ children, c.ReadsBack) :
    (any children).ReadsBack :=
  readsBack_of_reads .any rfl fun _ deep =>
    (Slots.Reads.none _).and (.withDefault (list_encodeAll back (deep _ List.mem_cons_self)))

theorem readsBack_not {c : Condition} (back : c.ReadsBack) : (not c).ReadsBack :=
  readsBack_of_reads .not rfl fun n deep =>
    (Slots.Reads.none _).and (.required (back .buffered n (deep _ List.mem_cons_self)))

theorem readsBack_compare {left right : Operand} (leftBack : Operand.decode left.encode = .ok left)
    (rightBack : Operand.decode right.encode = .ok right) (op : Comparison) (kind : ValueKind) :
    (compare left op right kind).ReadsBack :=
  readsBack_of_reads .compare rfl fun _ _ =>
    (Slots.Reads.none _)
      |>.and (.required leftBack)
      |>.and (.required (Decode.choice_text op.ofName?_symbol .buffered))
      |>.and (.required rightBack)
      |>.and (.withDefault (Decode.choice_text kind.named_name .buffered))

theorem readsBack_membership {value : Operand} {candidates : List Operand}
    (back : Operand.decode value.encode = .ok value)
    (each : ∀ candidate ∈ candidates, Operand.decode candidate.encode = .ok candidate) :
    (membership value candidates).ReadsBack :=
  readsBack_of_reads .membership rfl fun _ _ =>
    (Slots.Reads.none _).and (.required back) |>.and (.required (Decode.list_map each))

theorem readsBack_isSet {value : Operand} (back : Operand.decode value.encode = .ok value) :
    (isSet value).ReadsBack :=
  readsBack_of_reads .isSet rfl fun _ _ => (Slots.Reads.none _).and (.required back)

theorem readsBack_isNotSet {value : Operand} (back : Operand.decode value.encode = .ok value) :
    (isNotSet value).ReadsBack :=
  readsBack_of_reads .isNotSet rfl fun _ _ => (Slots.Reads.none _).and (.required back)

/-! ## Conditions -/

/-- Where the conditions inside read back, so does whatever is put together from the parts. -/
theorem slots_yields (inside : Decode.Yields child ReadsBack) (kind : Kind) :
    (slots child kind).Yields ReadsBack := by
  cases kind with
  | always => exact .none readsBack_always
  | all =>
      refine .and (.none fun children back => readsBack_all back) ?_
      exact .withDefault (fun _ member => nomatch member) inside.list
  | any =>
      refine .and (.none fun children back => readsBack_any back) ?_
      exact .withDefault (fun _ member => nomatch member) inside.list
  | not => exact .and (.none fun c back => readsBack_not back) (.required inside)
  | compare =>
      refine .and (.and (.and (.and (.none ?_) (.required Operand.decode_yields))
        (.required .any)) (.required Operand.decode_yields)) (.withDefault trivial .any)
      exact fun left leftBack op _ right rightBack kind _ =>
        readsBack_compare leftBack rightBack op kind
  | membership =>
      refine .and (.and (.none ?_) (.required Operand.decode_yields))
        (.required Operand.decode_yields.list)
      exact fun value back candidates each => readsBack_membership back each
  | isSet => exact .and (.none fun _ back => readsBack_isSet back) (.required Operand.decode_yields)
  | isNotSet =>
      exact .and (.none fun _ back => readsBack_isNotSet back) (.required Operand.decode_yields)

theorem decodeTo_yields (n : Nat) (d : Dialect) : Decode.Yields (decodeTo n d) ReadsBack := by
  induction n generalizing d with
  | zero => exact fun t c json decoded => nomatch decoded
  | succ n inside =>
      intro t c json decoded
      rw [decodeTo] at decoded
      unfold decodeWith at decoded
      split at decoded
      · split at decoded
        · cases decoded
        · refine (slots_yields (inside .buffered) _).decodeEntries (fun part member => ?_) decoded
          exact Tree.isJson_map.1 json part (List.mem_filter.1 member).1
      · cases decoded
      · split at decoded
        · cases decoded
        · refine (slots_yields (inside .buffered) _).decodeItems (fun part member => ?_) decoded
          exact Tree.isJson_list.1 json part (List.mem_cons_of_mem _ member)
      · cases decoded

/-- Whatever condition was decoded from JSON is decoded again from the document it is written
as, in every dialect. -/
theorem decode_yields (d : Dialect) :
    Decode.Yields (decode d) fun c => ∀ d', decode d' c.encode = .ok c :=
  fun t c json decoded d' =>
    decodeTo_yields _ d t c json decoded d' _ (Nat.lt_succ_self _)

mutual
/-- A condition is written as JSON. -/
theorem isJson_encode : (c : Condition) → c.encode.isJson = true
  | .always => rfl
  | .all children => by
      simp [encode, Tree.isJson, Tree.holdJson, areJson_encodeAll children]
  | .any children => by
      simp [encode, Tree.isJson, Tree.holdJson, areJson_encodeAll children]
  | .not child => by
      simp [encode, Tree.isJson, Tree.holdJson, isJson_encode child]
  | .compare left _ right _ => by
      simp [encode, Tree.isJson, Tree.holdJson, left.isJson_encode, right.isJson_encode]
  | .membership value candidates => by
      have each : Tree.areJson (candidates.map Operand.encode) = true :=
        Tree.isJson_list.2 (by simp [Operand.isJson_encode])
      simp [encode, Tree.isJson, Tree.holdJson, value.isJson_encode, each]
  | .isSet value => by
      simp [encode, Tree.isJson, Tree.holdJson, value.isJson_encode]
  | .isNotSet value => by
      simp [encode, Tree.isJson, Tree.holdJson, value.isJson_encode]

theorem areJson_encodeAll : (children : List Condition) → Tree.areJson (encodeAll children) = true
  | [] => rfl
  | c :: rest => by
      rw [encodeAll, Tree.areJson, isJson_encode c, areJson_encodeAll rest]
      rfl
end

end Condition
end EventRules
