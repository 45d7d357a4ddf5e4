/-
# EventRules.Proofs.Dispatch.Entity -- what a saved singular record attempts

A saved singular record attempts exactly its listing: each field of the catalog with
each enabled entity rule that watches it and whose trigger fires, in this order.  The
ids of entity rules are distinct and so are the fields of a catalog; hence no two of
these attempts share a key, and none is ever passed over as seen before.
-/
import EventRules.Proofs.Dispatch.Listing
import EventRules.Proofs.Dispatch.Run
namespace EventRules

set_option autoImplicit false

section Attempted

variable {known : Catalogs} {rules : List Rule} {registry : Registry}

theorem EntityWrite.nodup_keys_listing (built : Registry.build known rules = .ok registry)
    (catalogs : Catalogs) (w : EntityWrite) :
    ((w.listing catalogs (Registry.accepted known rules)).map Attempt.key).Nodup := by
  unfold listing
  cases catalogs.record? w.recordType with
  | none => exact List.nodup_nil
  | some catalog =>
      have pairs : ((w.pairs catalog (Registry.accepted known rules)).map Attempt.key).Nodup :=
        w.source.nodup_keys_pairs (Registry.keys_of_build built) .entity .record catalog.fields
          none [] w.source.before w.source.after
      exact pairs.sublist (List.filter_sublist.map Attempt.key)

/-- Without an entity rule for its type, or without a catalog, a write attempts nothing. -/
theorem EntityWrite.listing_eq_nil (catalogs : Catalogs) (w : EntityWrite)
    (idle : (∀ rule ∈ rules, rule.metadata.enabled = true → rule.scope = .entity →
        rule.spec.sourceType ≠ w.recordType) ∨ catalogs.record? w.recordType = none) :
    w.listing catalogs (Registry.accepted known rules) = [] := by
  unfold listing
  cases described : catalogs.record? w.recordType with
  | none => rfl
  | some catalog =>
      rcases idle with unwatched | undescribed
      · have pairs : w.pairs catalog (Registry.accepted known rules) = [] := by
          apply w.source.pairs_eq_nil
          intro r member inScope _
          obtain ⟨rule, isEnabled, rfl⟩ := List.mem_map.1 member
          obtain ⟨mine, enabled⟩ := Registry.mem_enabled isEnabled
          exact unwatched rule mine enabled inScope
        simp [pairs]
      · rw [described] at undescribed
        cases undescribed

/-- A saved singular record attempts its listing; no attempt is passed over. -/
theorem Engine.attempts_fireEntity (built : Registry.build known rules = .ok registry)
    {σ η : Type} (catalogs : Catalogs) (offset : UtcOffset) (outlet : Outlet σ η) (now : Instant)
    (state : σ × η) (w : EntityWrite) :
    outlet.Attempts offset now state (w.listing catalogs (Registry.accepted known rules))
      ((Engine.mk registry catalogs offset).fireEntity outlet now state w) := by
  have distinct := w.nodup_keys_listing built catalogs
  change outlet.Attempts offset now state _
    (outlet.run offset now [] state (w.attempts registry catalogs))
  rw [Outlet.run_eq_seeThrough, w.attempts_eq_listing built, Attempt.firsts_eq_self distinct]
  exact outlet.attempts_seeThrough offset now state distinct

/-- **What a saved singular record attempts.**  For every registry that was built, any
catalogs, and any store and hook: exactly the listing of the write, none of it passed
over.  Unless one of these attempts crashes, the report records each of them once, in order;
if one does, they are attempted up to the first that does, and there is no report.  A type
without an entity rule or without a catalog leaves the store and the hook alone. -/
theorem Engine.fireEntity_attempts (built : Registry.build known rules = .ok registry)
    {σ η : Type} (catalogs : Catalogs) (offset : UtcOffset) (outlet : Outlet σ η) (now : Instant)
    (state : σ × η) (w : EntityWrite) :
    let listing := w.listing catalogs (Registry.accepted known rules)
    let fired := (Engine.mk registry catalogs offset).fireEntity outlet now state w
    outlet.Attempts offset now state listing fired ∧
      ((∀ rule ∈ rules, rule.metadata.enabled = true → rule.scope = .entity →
          rule.spec.sourceType ≠ w.recordType) ∨ catalogs.record? w.recordType = none →
        fired.1.report? = some ⟨[], [], []⟩ ∧ fired.1.journal.offered = [] ∧ fired.2 = state) := by
  intro listing fired
  have attempts : outlet.Attempts offset now state listing fired :=
    Engine.attempts_fireEntity built catalogs offset outlet now state w
  refine ⟨attempts, ?_⟩
  intro idle
  have nothing : listing = [] := w.listing_eq_nil catalogs idle
  rw [attempts.run, nothing]
  exact ⟨rfl, rfl, rfl⟩

end Attempted

namespace Example

/-- A store that counts what it was given and takes the first event only. -/
def firstOnly : EventStore Nat where
  create n _ := (if n = 0 then .ok "first" else .error (.unavailable "full"), n + 1)

/-- An order whose phase was set. -/
def order : EntityWrite :=
  ⟨"order", "o-1", "u-1", [("note", .text "x"), ("phase", .text "cut")], none⟩

/-- Both rules on the phase are attempted, in the order of definition, and the refusal of
the second event is recorded beside the first. -/
theorem order_attempts :
    let listing := order.listing catalogs (Registry.accepted catalogs rules)
    let fired := (Engine.mk registry catalogs .utc).fireEntity
      ⟨firstOnly, (none : Option (Hook Unit))⟩ .epoch (0, ()) order
    listing.map Attempt.key = [⟨"cut:1", "phase", none⟩, ⟨"pack", "phase", none⟩] ∧
      ∃ report, fired.1.report? = some report ∧
        report.Records [⟨"cut:1", "phase", none⟩, ⟨"pack", "phase", none⟩] ∧
        report.emitted = [(⟨"cut:1", "phase", none⟩, "first")] := by
  intro listing fired
  have keys : listing.map Attempt.key = [⟨"cut:1", "phase", none⟩, ⟨"pack", "phase", none⟩] := by
    decide +revert
  have stand : ∀ a ∈ listing, a.Stands .utc .epoch := fun a _ _ => by decide
  have emitted : fired.1.report?.map Report.emitted =
      some [(⟨"cut:1", "phase", none⟩, "first")] := by
    decide +revert
  obtain ⟨attempts, -⟩ := Engine.fireEntity_attempts built catalogs .utc
    ⟨firstOnly, (none : Option (Hook Unit))⟩ .epoch (0, ()) order
  obtain ⟨-, report, returned, records⟩ := attempts.complete stand
  refine ⟨keys, report, returned, keys ▸ records, ?_⟩
  exact Option.some.inj ((congrArg (Option.map Report.emitted) returned).symm.trans emitted)

/-- In the first hour of the calendar, an hour west of UTC, the first of the two attempts
crashes: neither is recorded anywhere. -/
theorem order_unrecorded :
    let listing := order.listing catalogs (Registry.accepted catalogs rules)
    let fired := (Engine.mk registry catalogs hourWest).fireEntity
      ⟨firstOnly, (none : Option (Hook Unit))⟩ .first (0, ()) order
    Registry.build catalogs rules = .ok registry ∧
      listing.map Attempt.key = [⟨"cut:1", "phase", none⟩, ⟨"pack", "phase", none⟩] ∧
      fired.1.journal.map JournalEntry.key = [] ∧ fired.1.report? = none := by
  refine ⟨built, ?_, ?_, ?_⟩ <;> decide

end Example
end EventRules
