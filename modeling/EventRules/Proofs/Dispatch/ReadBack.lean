/-
# EventRules.Proofs.Dispatch.ReadBack -- offered events lead back to their rule

An event carries the tag of the rule that offered it.  Read back over the registry it
was offered under, the tag leads to that rule and no other, so the event is shown exactly
when that rule shows it, and always on its own date (`Registry.ReadsBack`).  Were this
ever to fail the event would still be shown, since an event without a rule is, and
nothing would tell.

* `Attempt.prepare_eq_ok`: what an attempt that offers an event has gone through.
* `Registry.readsBack_of_offer`: the event of an accepted rule reads back.
* `Engine.fire_readsBack`: so does every event that a dispatch offers.
-/
import EventRules.Proofs.Dispatch.Group
import EventRules.Proofs.Dispatch.Isolation
import EventRules.Proofs.Provenance
import EventRules.Proofs.Visibility
namespace EventRules

set_option autoImplicit false

/-- An event reads back as one of a rule, under whatever id it is stored: its tag is that
of the rule, the registry resolves the tag to it, the event is shown when the rule shows
it, and on its own date it is shown. -/
structure Registry.ReadsBack (registry : Registry) (r : RegisteredRule) (event : NewEvent) :
    Prop where
  tag : Provenance.decode? event.provenanceTag = some ⟨r.spec.scope, r.id⟩
  rule : registry.resolve? r.spec.scope r.id = some r
  shown : ∀ id now, registry.isVisible (event.withId id) now =
    (event.withId id).isVisibleBy r.spec.visibility now
  anchored : ∃ anchor, ∀ id, (event.withId id).anchor = some anchor ∧
    registry.isVisible (event.withId id) anchor = true

/-! ## The event of an attempt -/

/-- An attempt offers an event when it has a base date, its condition holds and the extent
lies inside the calendar; the event is the one with that extent. -/
theorem Attempt.prepare_eq_ok {a : Attempt} {offset : UtcOffset} {now : Instant} {offer : Offer}
    (prepared : a.prepare offset now = .ok (.ok offer)) :
    ∃ base extent, a.base offset now = .ok (.ok base) ∧
      a.admits offset (a.context offset now base) = true ∧
      Extent.of? base a.rule.spec.timeKind a.rule.spec.intervalDays = some extent ∧
      offer = ⟨a.event (a.context offset now base) extent, a.title (a.context offset now base),
        a.subject, a.context offset now base⟩ := by
  unfold prepare at prepared
  rcases based : a.base offset now with crash | reason | base
  · rw [based] at prepared
    cases prepared
  · rw [based] at prepared
    cases prepared
  · rw [based] at prepared
    have made : a.offerFrom offset now base = .ok offer := Except.ok.inj prepared
    unfold offerFrom at made
    dsimp only at made
    split at made
    · rename_i admitted
      split at made
      · rename_i extent placed
        cases made
        exact ⟨base, extent, rfl, admitted, placed, rfl⟩
      · cases made
    · cases made

/-- Every event has a date: a deadline its end, all others their start. -/
theorem Extent.of?_dated {base : Instant} {kind : TimeKind} {days : Option Int} {extent : Extent}
    (placed : Extent.of? base kind days = some extent) :
    ∃ anchor, extent.finish.or extent.start = some anchor := by
  unfold Extent.of? at placed
  split at placed
  · cases placed
    exact ⟨base, rfl⟩
  · obtain ⟨finish, -, rfl⟩ := Option.map_eq_some_iff.1 placed
    exact ⟨finish, rfl⟩
  · cases placed
    exact ⟨base, rfl⟩

/-! ## Reading it back -/

namespace Registry

variable {known : Catalogs} {rules : List Rule} {registry : Registry}

theorem provenance_of_accepted {r : RegisteredRule} (member : r ∈ accepted known rules) :
    r.provenance = ⟨r.spec.scope, r.id⟩ := by
  obtain ⟨rule, -, rfl⟩ := List.mem_map.1 member
  rfl

/-- The bounds of an accepted window lie no days or more before and after the date. -/
theorem days_of_accepted (built : build known rules = .ok registry) {r : RegisteredRule}
    (member : r ∈ accepted known rules) :
    0 ≤ r.spec.visibility.beforeDays.getD 0 ∧ 0 ≤ r.spec.visibility.afterDays.getD 0 := by
  obtain ⟨rule, -, -, rfl, faultless⟩ := of_mem_accepted built member
  simp only [RuleSpec.flaws, List.append_eq_nil_iff] at faultless
  have before := faultless.1.1.1.2
  have after := faultless.1.1.2
  exact ⟨(days_of_faultless before).1, (days_of_faultless after).1⟩

/-- The registry judges an event with a rule's tag by that rule. -/
theorem isVisible_of_tag {event : StoredEvent} {tag : String} {p : Provenance}
    {r : RegisteredRule} (tagged : event.provenanceTag = some tag)
    (decoded : Provenance.decode? tag = some p)
    (resolved : registry.resolve? p.scope p.ruleId = some r) (now : Instant) :
    registry.isVisible event now = event.isVisibleBy r.spec.visibility now := by
  rw [isVisible, tagged, Option.bind_some, decoded]
  simp only [resolved]

/-- The event of an accepted rule reads back as one of that rule. -/
theorem readsBack_of_offer (built : build known rules = .ok registry) {a : Attempt}
    (member : a.rule ∈ accepted known rules) (fits : a.rule.id.utf8ByteSize < Nat.pow 2 64)
    {offset : UtcOffset} {now : Instant} {offer : Offer}
    (prepared : a.prepare offset now = .ok (.ok offer)) :
    registry.ReadsBack a.rule offer.event := by
  obtain ⟨base, extent, -, -, placed, rfl⟩ := Attempt.prepare_eq_ok prepared
  obtain ⟨anchor, dated⟩ := Extent.of?_dated placed
  obtain ⟨before, after⟩ := days_of_accepted built member
  have tag : Provenance.decode? a.rule.provenance.encode = some ⟨a.rule.spec.scope, a.rule.id⟩ := by
    rw [provenance_of_accepted member]
    exact Provenance.decode?_encode _ fits
  have rule := resolve?_of_build built member
  have shown : ∀ id instant,
      registry.isVisible ((a.event (a.context offset now base) extent).withId id) instant =
        ((a.event (a.context offset now base) extent).withId id).isVisibleBy
          a.rule.spec.visibility instant :=
    fun id instant => isVisible_of_tag rfl tag rule instant
  refine ⟨tag, rule, shown, anchor, ?_⟩
  intro id
  have judged : ((a.event (a.context offset now base) extent).withId id).anchor = some anchor :=
    dated
  refine ⟨judged, ?_⟩
  rw [shown, StoredEvent.isVisibleBy, judged]
  exact Visibility.shows_base before after anchor

end Registry

/-! ## A dispatch -/

/-- An offered event is what one of the attempts prepared, under the key of that attempt. -/
theorem Engine.attempt_of_offer {d : Engine} {σ η : Type} {outlet : Outlet σ η} {now : Instant}
    {state : σ × η} {w : SavedWrite} {key : AttemptId} {event : NewEvent}
    (offered : (key, event) ∈ (d.fire outlet now state w).1.journal.offers) :
    ∃ a ∈ w.attempts d.registry d.catalogs, a.key = key ∧
      ∃ offer, a.prepare d.offset now = .ok (.ok offer) ∧ offer.event = event := by
  rw [d.fire_eq_seeThrough, Outlet.offers_seeThrough] at offered
  obtain ⟨a, first, made⟩ := List.mem_filterMap.1 offered
  refine ⟨a, (Attempt.firsts_sublist _).subset ((Attempt.standing_prefix _ _ _).subset first), ?_⟩
  unfold Attempt.offer? at made
  split at made
  · rename_i offer prepared
    cases made
    exact ⟨rfl, offer, prepared, rfl⟩
  · cases made

section Offered

variable {known : Catalogs} {rules : List Rule} {registry : Registry}

/-- **What is offered reads back.**  For every registry that was built, any catalogs, any
store and hook, and any write: each offered event is the event of an attempt, and reads
back as one of the rule that attempted it -- an accepted rule.  The ids may hold any
characters; that their lengths fit a machine word is so of every text in memory. -/
theorem Engine.fire_readsBack (built : Registry.build known rules = .ok registry)
    (fits : ∀ rule ∈ rules, rule.id.utf8ByteSize < Nat.pow 2 64) {σ η : Type} (catalogs : Catalogs)
    (offset : UtcOffset) (outlet : Outlet σ η) (now : Instant) (state : σ × η) (w : SavedWrite) :
    let fired := (Engine.mk registry catalogs offset).fire outlet now state w
    ∀ key event, (key, event) ∈ fired.1.journal.offers →
      ∃ a ∈ w.attempts registry catalogs, a.key = key ∧
        (∃ offer, a.prepare offset now = .ok (.ok offer) ∧ offer.event = event) ∧
        a.rule ∈ Registry.accepted known rules ∧ registry.ReadsBack a.rule event := by
  intro fired key event offered
  obtain ⟨a, attempted, named, offer, prepared, rfl⟩ := Engine.attempt_of_offer offered
  have member : a.rule ∈ Registry.accepted known rules :=
    SavedWrite.rule_of_mem_attempts built attempted
  obtain ⟨rule, listed, -, same, -⟩ := Registry.of_mem_accepted built member
  have short : a.rule.id.utf8ByteSize < Nat.pow 2 64 := by
    rw [same]
    exact fits rule listed
  exact ⟨a, attempted, named, ⟨offer, prepared, rfl⟩, member,
    Registry.readsBack_of_offer built member short prepared⟩

end Offered

namespace Example

/-- The events of a crew, two of them of a rule whose id holds a colon, read back. -/
theorem crew_readsBack :
    let fired := (Engine.mk registry catalogs .utc).fire
      ⟨MemoryStore.store, (none : Option (Hook Unit))⟩ .epoch (.empty, ()) (.group crew)
    fired.1.journal.offers.map (fun o => o.2.provenanceTag) =
        ["G:4:lead", "G:4:role", "G:5:cut:1", "G:4:role", "G:5:cut:1"] ∧
      (∀ rule ∈ rules, rule.id.utf8ByteSize < Nat.pow 2 64) ∧
      ∀ o ∈ fired.1.journal.offers, ∃ r ∈ Registry.accepted catalogs rules, registry.ReadsBack r o.2 := by
  intro fired
  have tags : fired.1.journal.offers.map (fun o => o.2.provenanceTag) =
      ["G:4:lead", "G:4:role", "G:5:cut:1", "G:4:role", "G:5:cut:1"] := by decide +revert
  have fits : ∀ rule ∈ rules, rule.id.utf8ByteSize < Nat.pow 2 64 := by decide
  refine ⟨tags, fits, ?_⟩
  rintro ⟨key, event⟩ offered
  obtain ⟨a, -, -, -, member, back⟩ := Engine.fire_readsBack built fits catalogs .utc
    ⟨MemoryStore.store, (none : Option (Hook Unit))⟩ .epoch (.empty, ()) (.group crew) key event
    offered
  exact ⟨a.rule, member, back⟩

end Example
end EventRules
