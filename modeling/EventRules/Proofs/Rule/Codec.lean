/-
# EventRules.Proofs.Rule.Codec -- rules read back

A rule, a condition or a visibility that was decoded from JSON is decoded again, as it is, from
the document it is written as (`Rule.decode_settles`).  So nothing that a decoder keeps is lost
by writing it: defaults are filled in once, an unknown name becomes `unrecognized` once,
constants and prefilled fields are rounded and sorted once.

What keeps a rule from reading back is what no document says: days beyond 64 bits, a date among
the prefilled fields, a hint that is null.  `RuleSpec.Settled` lists these, and no decoder
yields any of them.  All other parts read back whatever they are.
-/
import EventRules.Rule.Codec
import EventRules.Proofs.Condition.Codec
namespace EventRules

set_option autoImplicit false

/-! ## Names -/

theorem Scope.named_name (scope : Scope) :
    Decode.named everyOne name scope.name = some scope := by
  cases scope <;> decide

theorem Target.named_name (target : Target) :
    Decode.named everyOne name target.name = some target := by
  cases target <;> decide

theorem TimeSource.named_name (source : TimeSource) :
    Decode.named everyOne name source.name = some source := by
  cases source <;> decide

theorem MemberLink.named_name (link : MemberLink) :
    Decode.named everyOne name link.name = some link := by
  cases link <;> decide

theorem GroupLink.named_name (link : GroupLink) :
    Decode.named everyOne name link.name = some link := by
  cases link <;> decide

theorem Trigger.namedOr_name (trigger : Trigger) :
    Decode.namedOr known name .unrecognized trigger.name = some trigger := by
  cases trigger <;> decide

theorem TimeKind.namedOr_name (kind : TimeKind) :
    Decode.namedOr known name .unrecognized kind.name = some kind := by
  cases kind <;> decide

theorem VisibilityMode.namedOr_name (mode : VisibilityMode) :
    Decode.namedOr known name .unrecognized mode.name = some mode := by
  cases mode <;> decide

/-! ## Optional parts -/

section Optional

variable {name : String}

theorem Slots.At.optionalText (d : Dialect) (o : Option String) :
    (Slots.optional name (Decode.text d)).At name (Tree.ofOption Tree.ofText o) o :=
  .optional Tree.ofText fun s _ => ⟨nofun, Decode.text_text d s⟩

theorem Slots.At.optionalInt {o : Option Int}
    (inRange : ∀ n ∈ o, Decode.int (Tree.ofInt n) = .ok n) :
    (Slots.optional name Decode.int).At name (Tree.ofOption Tree.ofInt o) o :=
  .optional Tree.ofInt fun n member => ⟨nofun, inRange n member⟩

end Optional

/-! ## Visibilities and heads -/

namespace Visibility

theorem decode_encode {v : Visibility}
    (before : ∀ n ∈ v.beforeDays, Decode.int (Tree.ofInt n) = .ok n)
    (after : ∀ n ∈ v.afterDays, Decode.int (Tree.ofInt n) = .ok n) (d : Dialect) :
    decode d v.encode = .ok v := by
  have reads : (slots d).Reads _ v :=
    (Slots.Reads.none _)
      |>.and (.withDefault (Decode.choice_text v.mode.namedOr_name d))
      |>.and (.optionalInt before)
      |>.and (.optionalInt after)
  have read := reads.decode (by simp [slots]) true d
  rw [decode, encode]
  simpa only [List.nil_append, List.cons_append] using read

theorem decode_yields (d : Dialect) :
    Decode.Yields (decode d) fun v => ∀ d', decode d' v.encode = .ok v := by
  refine Slots.Yields.decode ?_ true d
  refine .and ?_ (.optional Decode.int_yields)
  refine .and ?_ (.optional Decode.int_yields)
  refine .and_any (.none ?_) (.withDefault trivial .any)
  intro mode beforeDays before afterDays after d'
  exact decode_encode before after d'

theorem isJson_encode (v : Visibility) : v.encode.isJson = true := by
  have days : ∀ o : Option Int, (Tree.ofOption Tree.ofInt o).isJson = true := fun o =>
    Tree.isJson_ofOption fun _ _ => rfl
  simp [encode, Tree.isJson, Tree.holdJson, days]

end Visibility

namespace Metadata

theorem decode_encode (m : Metadata) (d : Dialect) : decode d m.encode = .ok m := by
  have tags : ∀ l ∈ m.tags, Tree.list (l.map Tree.ofText) ≠ .null ∧
      Decode.list (Decode.text d) (.list (l.map Tree.ofText)) = .ok l :=
    fun l _ => ⟨nofun, Decode.list_map fun s _ => Decode.text_text d s⟩
  have reads : (slots d).Reads _ m :=
    (Slots.Reads.none _)
      |>.and (.required (Decode.text_text d m.id))
      |>.and (.required (Decode.text_text d m.name))
      |>.and (.optionalText d m.description)
      |>.and (.optional (fun tags => .list (tags.map Tree.ofText)) tags)
      |>.and (.withDefault (Decode.bool_bool m.enabled))
  have read := reads.decode (by simp [slots]) true d
  rw [decode, encode]
  simpa only [List.nil_append, List.cons_append] using read

theorem isJson_encode (m : Metadata) : m.encode.isJson = true := by
  have description : (Tree.ofOption Tree.ofText m.description).isJson = true :=
    Tree.isJson_ofOption fun _ _ => rfl
  have tags : (Tree.ofOption (fun tags => Tree.list (tags.map Tree.ofText)) m.tags).isJson = true :=
    Tree.isJson_ofOption fun tags _ => Tree.isJson_list.2 (by simp [Tree.ofText, Tree.isJson])
  simp [encode, Tree.isJson, Tree.holdJson, description, tags]

end Metadata

/-! ## Bodies of rules -/

theorem Record.decode_toTree {record : Record} (back : (Value.object record).ReadsBack) :
    decode (Value.object record).toTree = .ok record := by
  have read : Value.ofTree (Value.object record).toTree = .object record := back
  rw [Value.toTree] at read ⊢
  rw [decode, Record.ofTree, read]
  rfl

/-- Whatever is prefilled was read from a document. -/
theorem Record.decode_yields :
    Decode.Yields decode fun record => (Value.object record).ReadsBack := by
  intro t record _ decoded
  cases t with
  | map entries =>
      cases decoded
      exact Value.readsBack_ofTree (.map entries)
  | _ => cases decoded

/-- A hint is something, and was carried along before. -/
theorem Tree.decodeCarried_yields : Decode.Yields (Decode.optional decodeCarried) fun o =>
    ∀ hint ∈ o, hint ≠ .null ∧ hint.IsCarried := by
  intro t o json decoded hint present
  unfold Decode.optional at decoded
  split at decoded
  · cases decoded
    cases present
  · rename_i something
    cases decoded
    cases present
    exact ⟨carried_ne_null json something, isCarried_carried t⟩

namespace RuleSpec

/-- The parts of a rule that read back only as documents say them. -/
structure Settled (s : RuleSpec) : Prop where
  intervalDays : ∀ n ∈ s.intervalDays, Decode.int (Tree.ofInt n) = .ok n
  visibility : ∀ d, Visibility.decode d s.visibility.encode = .ok s.visibility
  prefill : (Value.object s.prefill).ReadsBack
  condition : ∀ c ∈ s.condition, ∀ d, Condition.decode d c.encode = .ok c
  uiHint : ∀ hint ∈ s.uiHint, hint ≠ .null ∧ hint.IsCarried

theorem decode_encode {s : RuleSpec} (settled : s.Settled) (d : Dialect) :
    decode d s.encode = .ok s := by
  have condition : ∀ c ∈ s.condition, c.encode ≠ .null ∧ Condition.decode d c.encode = .ok c := by
    intro c present
    exact ⟨by cases c <;> exact nofun, settled.condition c present d⟩
  have uiHint : ∀ hint ∈ s.uiHint, hint ≠ .null ∧ Tree.decodeCarried hint = .ok hint := by
    intro hint present
    obtain ⟨something, carried⟩ := settled.uiHint hint present
    exact ⟨something, congrArg Except.ok carried.settled⟩
  have reads : (slots d).Reads _ s :=
    (Slots.Reads.none _)
      |>.and (.required (Decode.choice_text s.scope.named_name d))
      |>.and (.required (Decode.text_text d s.sourceType))
      |>.and (.withDefault (Decode.choice_text s.target.named_name d))
      |>.and (.required (Decode.text_text d s.field))
      |>.and (.required (Decode.choice_text s.trigger.namedOr_name d))
      |>.and (.required (Decode.text_text d s.eventType))
      |>.and (.required (Decode.choice_text s.timeKind.namedOr_name d))
      |>.and (.required (Decode.choice_text s.timeSource.named_name d))
      |>.and (.optionalInt settled.intervalDays)
      |>.and (.optional Tree.bool fun b _ => ⟨nofun, Decode.bool_bool b⟩)
      |>.and (.withDefault (settled.visibility d))
      |>.and (.required (Decode.text_text d s.title))
      |>.and (.optionalText d s.description)
      |>.and (.withDefault (Record.decode_toTree settled.prefill))
      |>.and (.withDefault (Decode.choice_text s.memberLink.named_name d))
      |>.and (.withDefault (Decode.choice_text s.groupLink.named_name d))
      |>.and (.optional Condition.encode condition)
      |>.and (.optional (fun hint => hint) uiHint)
  have read := reads.decode (by simp [slots]) true d
  rw [decode, encode]
  simpa only [List.nil_append, List.cons_append] using read

theorem isJson_encode {s : RuleSpec} (settled : s.Settled) : s.encode.isJson = true := by
  have days : (Tree.ofOption Tree.ofInt s.intervalDays).isJson = true :=
    Tree.isJson_ofOption fun _ _ => rfl
  have allDay : (Tree.ofOption Tree.bool s.allDay).isJson = true :=
    Tree.isJson_ofOption fun _ _ => rfl
  have description : (Tree.ofOption Tree.ofText s.description).isJson = true :=
    Tree.isJson_ofOption fun _ _ => rfl
  have condition : (Tree.ofOption Condition.encode s.condition).isJson = true :=
    Tree.isJson_ofOption fun c _ => c.isJson_encode
  have uiHint : (Tree.ofOption (fun hint => hint) s.uiHint).isJson = true :=
    Tree.isJson_ofOption fun hint present => (settled.uiHint hint present).2.json
  simp [encode, Tree.isJson, Tree.holdJson, days, allDay, s.visibility.isJson_encode, description,
    (Value.object s.prefill).isJson_toTree, condition, uiHint]

theorem decode_yields (d : Dialect) : Decode.Yields (decode d) Settled := by
  have standard : ∀ d', Visibility.decode d' Visibility.default.encode = .ok Visibility.default :=
    Visibility.decode_encode nofun nofun
  have empty : (Value.object []).ReadsBack := rfl
  refine Slots.Yields.decode ?_ true d
  -- slot by slot, the last one first
  refine .and ?_ (.withDefault (fun _ absent => nomatch absent) Tree.decodeCarried_yields)
  refine .and ?_ (.optional (Condition.decode_yields d))
  refine .and_any ?_ (.withDefault trivial .any)
  refine .and_any ?_ (.withDefault trivial .any)
  refine .and ?_ (.withDefault empty Record.decode_yields)
  refine .and_any ?_ (.withDefault trivial .any)
  refine .and_any ?_ (.required .any)
  refine .and ?_ (.withDefault standard (Visibility.decode_yields d))
  refine .and_any ?_ (.withDefault trivial .any)
  refine .and ?_ (.optional Decode.int_yields)
  refine .and_any ?_ (.required .any)
  refine .and_any ?_ (.required .any)
  refine .and_any ?_ (.required .any)
  refine .and_any ?_ (.required .any)
  refine .and_any ?_ (.required .any)
  refine .and_any ?_ (.withDefault trivial .any)
  refine .and_any ?_ (.required .any)
  refine .and_any (.none ?_) (.required .any)
  intro scope sourceType target field trigger eventType timeKind timeSource intervalDays inRange
    allDay visibility shown title description prefill filled memberLink groupLink condition
    admits uiHint carried
  exact ⟨inRange, shown, filled, admits, carried⟩

end RuleSpec

/-! ## Rules -/

namespace Rule

theorem decode_encode {rule : Rule} (settled : rule.spec.Settled) (d : Dialect) :
    decode d rule.encode = .ok rule := by
  have reads : (slots d).Reads _ rule :=
    (Slots.Reads.none _)
      |>.and (.required (Decode.text_text d rule.apiVersion))
      |>.and (.required (Decode.text_text d rule.kind))
      |>.and (.required (rule.metadata.decode_encode d))
      |>.and (.required (rule.spec.decode_encode settled d))
  have read := reads.decode (by simp [slots]) true d
  rw [decode, encode]
  simpa only [List.nil_append, List.cons_append] using read

theorem isJson_encode {rule : Rule} (settled : rule.spec.Settled) :
    rule.encode.isJson = true := by
  simp [encode, Tree.isJson, Tree.holdJson, rule.metadata.isJson_encode,
    rule.spec.isJson_encode settled]

theorem decode_yields (d : Dialect) : Decode.Yields (decode d) fun rule => rule.spec.Settled := by
  have yields : (slots d).Yields fun rule => rule.spec.Settled :=
    (Slots.Yields.none fun _ _ _ _ settled => settled)
      |>.and_any (.required .any)
      |>.and_any (.required .any)
      |>.and_any (.required .any)
      |>.and (.required (RuleSpec.decode_yields d))
  exact yields.decode true d

end Rule

/-! ## Decoding settles a document -/

/-- Whatever is decoded from a tree is written as JSON; from that it is decoded again, and then
it is written the same. -/
def Decode.Settles {α : Type} (decode : Dialect → Tree → Decoded α) (encode : α → Tree)
    (t : Tree) : Prop :=
  ∀ (d d' : Dialect) (a : α), decode d t = .ok a →
    (encode a).isJson = true ∧ decode d' (encode a) = .ok a ∧
      (decode d' (encode a)).map encode = .ok (encode a)

theorem Decode.Settles.of_readsBack {α : Type} {decode : Dialect → Tree → Decoded α}
    {encode : α → Tree} {t : Tree}
    (back : ∀ (d d' : Dialect) (a : α), decode d t = .ok a →
      (encode a).isJson = true ∧ decode d' (encode a) = .ok a) :
    Decode.Settles decode encode t := by
  intro d d' a decoded
  obtain ⟨json, read⟩ := back d d' a decoded
  refine ⟨json, read, ?_⟩
  rw [read]
  rfl

/-- **Decoding settles a document.**  Take any JSON.  The rule that is decoded from it, if there
is one, is written as JSON, decoded from that again as it is, and written the same -- with any
condition, of any depth, any prefilled fields and any hint, and whatever was missing, null, or
not known by name.  The same goes for a condition and for a visibility of their own, and for
whatever dialect the tree is read in, first and again. -/
theorem Rule.decode_settles {t : Tree} (json : t.isJson = true) :
    Decode.Settles Rule.decode Rule.encode t ∧
      Decode.Settles Condition.decode Condition.encode t ∧
      Decode.Settles Visibility.decode Visibility.encode t := by
  have rules : Decode.Settles Rule.decode Rule.encode t := .of_readsBack fun d d' rule decoded =>
    have settled := Rule.decode_yields d t rule json decoded
    ⟨Rule.isJson_encode settled, Rule.decode_encode settled d'⟩
  have conditions : Decode.Settles Condition.decode Condition.encode t :=
    .of_readsBack fun d d' c decoded =>
      ⟨c.isJson_encode, Condition.decode_yields d t c json decoded d'⟩
  have visibilities : Decode.Settles Visibility.decode Visibility.encode t :=
    .of_readsBack fun d d' v decoded =>
      ⟨v.isJson_encode, Visibility.decode_yields d t v json decoded d'⟩
  exact ⟨rules, conditions, visibilities⟩

namespace Example

/-- A rule as someone may have written it: parts in an order of their own, some left out or
null, an operator by its name, and a trigger and a mode that are not known. -/
def draft : Tree :=
  .map [("kind", .text "AutoEventRule"), ("apiVersion", .text "v1"),
    ("metadata", .map [("name", .text "Review"), ("id", .text "review"), ("tags", .null)]),
    ("spec", .map [("source_type", .text "order"), ("scope", .text "entity"),
      ("field", .text "due"), ("trigger", .text "on_delete"), ("event_type", .text "task"),
      ("time_kind", .text "point"), ("time_source", .text "field"), ("title", .text "Review"),
      ("visibility", .map [("mode", .text "sometimes"), ("after_days", .number (.int 2))]),
      ("prefill", .map [("size", .number (.int 3)), ("note", .null)]),
      ("condition", .map [("children", .list
        [.map [("type", .text "compare"), ("op", .text "gte"),
            ("left", .map [("path", .text "value")]),
            ("right", .map [("const", .map [("b", .null), ("a", .list [])])])],
          .map [("type", .text "not"), ("child", .map [("type", .text "always")])]]),
        ("type", .text "and")]),
      ("ui_hint", .list [.number .minusZero, .text "wide"])])]

/-- The condition of the draft. -/
def draftCondition : Condition :=
  .all [.compare (.path "value") .ge (.constant (.object [("a", .list []), ("b", .null)])) .auto,
    .not .always]

/-- The condition is read whatever the order of its parts, an operator under either name.  What was
not known by name stays so, under the name that it is written with. -/
theorem draft_settles :
    draft.isJson = true ∧ ∃ rule, Rule.decode .direct draft = .ok rule ∧
      rule.spec.condition = some draftCondition ∧
      rule.spec.trigger = .unrecognized ∧ rule.spec.visibility = ⟨.unrecognized, none, some 2⟩ ∧
      ((rule.encode.entry "spec").entry "trigger").text? = some "unrecognized" ∧
      Rule.decode .direct rule.encode = .ok rule := by
  have json : draft.isJson = true := by
    decide +kernel
  have read : ((Rule.decode .direct draft).toOption.any fun rule =>
      rule.spec.trigger = .unrecognized ∧ rule.spec.visibility = ⟨.unrecognized, none, some 2⟩ ∧
      ((rule.encode.entry "spec").entry "trigger").text? = some "unrecognized") = true := by
    decide +kernel
  have condition : ((Rule.decode .direct draft).toOption.bind fun rule => rule.spec.condition) =
      some draftCondition := by
    rfl
  obtain ⟨ofRules, -, -⟩ := Rule.decode_settles json
  cases decoded : Rule.decode .direct draft with
  | error e =>
      rw [decoded] at read
      cases read
  | ok rule =>
      rw [decoded] at read condition
      obtain ⟨trigger, visibility, written⟩ := of_decide_eq_true read
      obtain ⟨-, again, -⟩ := ofRules .direct .direct rule decoded
      exact ⟨json, rule, rfl, condition, trigger, visibility, written, again⟩

end Example
end EventRules
