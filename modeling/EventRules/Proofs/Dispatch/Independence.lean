/-
# EventRules.Proofs.Dispatch.Independence -- rules have no say in one another

Take rules out of an accepted list: the rest is accepted too, and a write makes of the
rest what it made of all, restricted to the attempts of the rules that stayed
(`Engine.fire_restricted`).  So a rule that is added changes, suppresses, repeats and
reorders nothing of what the others do -- unless it crashes, and takes with it what would
come after (`Example.ship_suppressed`).

Each stage of a dispatch keeps to its own rule.  The pairs of a listing are picked rule by
rule (`SavedWrite.listing_filter`); an attempt is only ever passed over for one of its own
key, which names its rule (`Attempt.firsts_filter`); and what comes of an attempt is its
own doing and that of a store which refuses events by what they are
(`EventStore.RefusesBy`).  That a key names a rule is owed to the distinct ids of a scope:
a write concerns the rules of one scope only.
-/
import EventRules.Dispatch.MemoryStore
import EventRules.Proofs.Dispatch.Group
import EventRules.Proofs.Dispatch.Isolation
namespace EventRules

set_option autoImplicit false

/-! ## Dropping rules from a list -/

/-- What stays of a list is picked out of it by the keys that stay. -/
theorem filter_keys_eq_of_sublist {α κ : Type} [BEq κ] [LawfulBEq κ] {key : α → κ}
    {kept all : List α} (dropped : kept.Sublist all) (distinct : (all.map key).Nodup) :
    all.filter (fun x => key x ∈ kept.map key) = kept := by
  induction dropped with
  | slnil => rfl
  | @cons kept all a dropped ih =>
      obtain ⟨fresh, distinct⟩ := List.nodup_cons.1 distinct
      have gone : key a ∉ kept.map key := fun stays => fresh ((dropped.map key).subset stays)
      rw [List.filter_cons_of_neg (by simpa using gone), ih distinct]
  | @cons_cons kept all a dropped ih =>
      obtain ⟨fresh, distinct⟩ := List.nodup_cons.1 distinct
      have others : all.filter (fun x => key x ∈ (a :: kept).map key) =
          all.filter fun x => key x ∈ kept.map key := by
        apply List.filter_congr
        intro x member
        have differ : key x ≠ key a := fun same => fresh (same ▸ List.mem_map_of_mem member)
        simp [differ]
      rw [List.filter_cons_of_pos (by simp), others, ih distinct]

/-- With distinct keys, the key of an element picks out that element. -/
theorem filter_key_eq_singleton {α κ : Type} [DecidableEq κ] {key : α → κ} {all : List α}
    (distinct : (all.map key).Nodup) {x : α} (member : x ∈ all) :
    all.filter (fun y => key y = key x) = [x] := by
  have only := filter_keys_eq_of_sublist (List.singleton_sublist.2 member) distinct
  simpa using only

namespace Registry

variable {known : Catalogs} {rules kept : List Rule} {registry : Registry}

theorem enabled_sublist (dropped : kept.Sublist rules) : (enabled kept).Sublist (enabled rules) :=
  dropped.filter _

/-- What stays of an accepted list is accepted. -/
theorem build_sublist (built : build known rules = .ok registry) (dropped : kept.Sublist rules) :
    ∃ registry', build known kept = .ok registry' := by
  obtain ⟨distinct, faultless, -⟩ := build_eq_ok.1 built
  have fewer := enabled_sublist dropped
  exact ⟨_, build_eq_ok.2 ⟨distinct.sublist (fewer.map Rule.key),
    fun rule member => faultless rule (fewer.subset member), rfl⟩⟩

/-- The rules that stay, out of all, by their scopes and ids. -/
theorem accepted_sublist (built : build known rules = .ok registry)
    (dropped : kept.Sublist rules) :
    accepted known kept = (accepted known rules).filter fun r =>
      (r.spec.scope, r.id) ∈ (enabled kept).map Rule.key := by
  have fewer := (enabled_sublist dropped).map (RegisteredRule.of known)
  have picked := filter_keys_eq_of_sublist fewer (keys_of_build built)
  rw [List.map_map] at picked
  exact picked.symm

end Registry

/-! ## The listing, rule by rule -/

/-- Fewer rules make fewer pairs, and the same of each rule. -/
theorem Source.pairs_filter (source : Source) (keep : RegisteredRule → Bool)
    (rules : List RegisteredRule) (scope : Scope) (target : Target) (fields : FieldTable)
    (member : Option MemberChange) (allMembers : List Participant) (before after : Record) :
    source.pairs (rules.filter keep) scope target fields member allMembers before after =
      (source.pairs rules scope target fields member allMembers before after).filter
        fun a => keep a.rule := by
  rw [pairs, pairs, List.filter_flatMap]
  congr 1
  funext field
  rw [List.filter_map, List.filter_filter, List.filter_filter]
  congr 2
  funext r
  exact Bool.and_comm _ _

theorem EntityWrite.listing_filter (w : EntityWrite) (catalogs : Catalogs)
    (keep : RegisteredRule → Bool) (rules : List RegisteredRule) :
    w.listing catalogs (rules.filter keep) =
      (w.listing catalogs rules).filter fun a => keep a.rule := by
  unfold listing
  cases catalogs.record? w.recordType with
  | none => rfl
  | some catalog =>
      simp only [pairs, Source.pairs_filter, List.filter_filter, Bool.and_comm]

theorem GroupWrite.pairs_filter (w : GroupWrite) (catalog : FieldCatalog)
    (keep : RegisteredRule → Bool) (rules : List RegisteredRule) :
    w.pairs catalog (rules.filter keep) =
      (w.pairs catalog rules).filter fun a => keep a.rule := by
  rw [pairs, pairs, List.filter_append, recordPairs, recordPairs, Source.pairs_filter]
  congr 1
  cases catalog.members with
  | none => rfl
  | some members => simp only [memberPairs, Source.pairs_filter, List.filter_flatMap]

theorem GroupWrite.listing_filter (w : GroupWrite) (catalogs : Catalogs)
    (keep : RegisteredRule → Bool) (rules : List RegisteredRule) :
    w.listing catalogs (rules.filter keep) =
      (w.listing catalogs rules).filter fun a => keep a.rule := by
  unfold listing
  cases catalogs.record? w.recordType with
  | none => rfl
  | some catalog => simp only [pairs_filter, List.filter_filter, Bool.and_comm]

namespace SavedWrite

theorem listing_filter (w : SavedWrite) (catalogs : Catalogs) (keep : RegisteredRule → Bool)
    (rules : List RegisteredRule) :
    w.listing catalogs (rules.filter keep) =
      (w.listing catalogs rules).filter fun a => keep a.rule := by
  cases w with
  | entity w => exact w.listing_filter catalogs keep rules
  | group w => exact w.listing_filter catalogs keep rules

end SavedWrite

/-- Whether a key, in a write that concerns the rules of a scope, is one of an enabled rule
of a list. -/
def AttemptId.isOf (rules : List Rule) (scope : Scope) (key : AttemptId) : Bool :=
  ∃ rule ∈ Registry.enabled rules, rule.key = (scope, key.ruleId)

/-- The listing of the rules that stay is picked out of that of all by its keys. -/
theorem SavedWrite.listing_sublist {known : Catalogs} {rules kept : List Rule}
    {registry : Registry} (built : Registry.build known rules = .ok registry)
    (dropped : kept.Sublist rules) (catalogs : Catalogs) (w : SavedWrite) :
    w.listing catalogs (Registry.accepted known kept) =
      (w.listing catalogs (Registry.accepted known rules)).filter fun a =>
        a.key.isOf kept w.scope := by
  rw [Registry.accepted_sublist built dropped, w.listing_filter]
  apply List.filter_congr
  intro a listed
  simp only [AttemptId.isOf, ← (rule_of_mem_listing listed).2, List.mem_map]
  rfl

/-! ## The run, key by key -/

/-- To pick attempts by their keys, before or after those seen before are passed over, is
the same: an attempt is only passed over for one of its own key. -/
theorem Attempt.firsts_filter (keep : AttemptId → Bool) (attempts : List Attempt) :
    firsts (attempts.filter fun a => keep a.key) =
      (firsts attempts).filter fun a => keep a.key := by
  induction attempts with
  | nil => rfl
  | cons a rest ih =>
      cases stays : keep a.key with
      | true =>
          rw [List.filter_cons_of_pos (by simpa using stays), firsts, firsts,
            List.filter_cons_of_pos (by simpa using stays), ih, List.filter_filter,
            List.filter_filter]
          simp only [Bool.and_comm]
      | false =>
          rw [List.filter_cons_of_neg (by simp [stays]), ih, firsts,
            List.filter_cons_of_neg (by simp [stays]), List.filter_filter]
          apply List.filter_congr
          intro b _
          by_cases same : b.key = a.key <;> simp [same, stays]

/-- What is made under the keys of what it comes from is picked by its keys as that is. -/
theorem filterMap_filter_key {α β : Type} {key : α → AttemptId} {made : α → Option β}
    {name : β → AttemptId} (named : ∀ x p, made x = some p → name p = key x)
    (keep : AttemptId → Bool) (xs : List α) :
    (xs.filter fun x => keep (key x)).filterMap made =
      (xs.filterMap made).filter fun p => keep (name p) := by
  rw [List.filterMap_filter, List.filter_filterMap]
  apply List.filterMap_congr
  intro x _
  cases making : made x with
  | none => simp
  | some p => simp [Option.filter, named x p making]

/-- The error in an answer of a store, if it is a refusal. -/
def refusalIn : Except StoreError EventId → Option StoreError
  | .ok _ => none
  | .error error => some error

namespace EventStore

variable {σ : Type}

/-- A store refuses events by what they are: whether it takes an event, and with which
error it does not, is settled by the event and not by the state. -/
def RefusesBy (store : EventStore σ) (refusal : NewEvent → Option StoreError) : Prop :=
  ∀ state event, refusalIn (store.create state event).1 = refusal event

variable {store : EventStore σ} {refusal : NewEvent → Option StoreError}

/-- Of events given one after another, each is refused or not as it would be alone. -/
theorem RefusesBy.settle (refuses : store.RefusesBy refusal) (state : σ)
    (offers : List (AttemptId × NewEvent)) :
    (store.settle state offers).1.map (Prod.map id refusalIn) =
      offers.map (Prod.map id refusal) := by
  induction offers generalizing state with
  | nil => rfl
  | cons o rest ih =>
      obtain ⟨key, event⟩ := o
      have alone : refusalIn (store.create state event).1 = refusal event := refuses state event
      rw [Outlet.settle_cons rfl, List.map_cons, List.map_cons, ih, Prod.map_apply, Prod.map_apply,
        alone]

theorem RefusesBy.refused (refuses : store.RefusesBy refusal) (state : σ)
    (offers : List (AttemptId × NewEvent)) :
    (store.settle state offers).1.filterMap refused? =
      offers.filterMap fun o => (refusal o.2).map (Prod.mk o.1) := by
  have answer : refused? = (fun q => q.2.map (Prod.mk q.1)) ∘ Prod.map id refusalIn := by
    funext ⟨key, answer⟩
    cases answer <;> rfl
  rw [answer, ← List.filterMap_map, refuses.settle, List.filterMap_map]
  rfl

theorem RefusesBy.accepted (refuses : store.RefusesBy refusal) (state : σ)
    (offers : List (AttemptId × NewEvent)) :
    ((store.settle state offers).1.filterMap accepted?).map Prod.fst =
      offers.filterMap fun o => if refusal o.2 = none then some o.1 else none := by
  have answer : (fun p => (accepted? p).map Prod.fst) =
      (fun q => if q.2 = none then some q.1 else none) ∘ Prod.map id refusalIn := by
    funext ⟨key, answer⟩
    cases answer <;> rfl
  rw [List.map_filterMap, answer, ← List.filterMap_map, refuses.settle, List.filterMap_map]
  rfl

end EventStore

/-- What one journal holds is what another holds under some of the keys, in its order: the
attempts, the events offered, what was skipped and why, what was refused and how, and
which events were taken, whatever ids they were given. -/
structure Journal.Restricts (part whole : Journal) (keep : AttemptId → Bool) : Prop where
  keys : part.map JournalEntry.key = (whole.map JournalEntry.key).filter keep
  offers : part.offers = whole.offers.filter fun o => keep o.1
  skipped : part.report.skipped = whole.report.skipped.filter fun s => keep s.1
  failures : part.report.failures = whole.report.failures.filter fun f => keep f.1
  emitted : part.report.emitted.map Prod.fst = (whole.report.emitted.map Prod.fst).filter keep

theorem Attempt.key_of_offer? {offset : UtcOffset} {now : Instant} (a : Attempt)
    (p : AttemptId × NewEvent) (offered : a.offer? offset now = some p) : p.1 = a.key := by
  unfold offer? at offered
  split at offered <;> cases offered
  rfl

theorem Attempt.key_of_skip? {offset : UtcOffset} {now : Instant} (a : Attempt)
    (p : AttemptId × SkipCause) (skipped : a.skip? offset now = some p) : p.1 = a.key := by
  unfold skip? at skipped
  split at skipped <;> cases skipped
  rfl

/-- To see through the attempts of some keys makes of these what seeing through all makes
of them, whatever the states to begin with, as long as none crashes. -/
theorem Outlet.seeThrough_restricts {σ η : Type} {outlet : Outlet σ η}
    {refusal : NewEvent → Option StoreError} (refuses : outlet.store.RefusesBy refusal)
    {offset : UtcOffset} {now : Instant} (keep : AttemptId → Bool) {attempts : List Attempt}
    (stand : ∀ a ∈ attempts, a.Stands offset now) (state state' : σ × η) :
    (outlet.seeThrough offset now state'
        (attempts.filter fun a => keep a.key)).1.journal.Restricts
      (outlet.seeThrough offset now state attempts).1.journal keep := by
  have whole := outlet.answered_seeThrough offset now state attempts
  have part := outlet.answered_seeThrough offset now state' (attempts.filter fun a => keep a.key)
  have all : Attempt.standing offset now attempts = attempts := Attempt.standing_eq_self stand
  have some : Attempt.standing offset now (attempts.filter fun a => keep a.key) =
      attempts.filter fun a => keep a.key :=
    Attempt.standing_eq_self fun a member => stand a (List.mem_of_mem_filter member)
  have offers : (outlet.seeThrough offset now state'
      (attempts.filter fun a => keep a.key)).1.journal.offers =
        (outlet.seeThrough offset now state attempts).1.journal.offers.filter
          fun o => keep o.1 := by
    rw [offers_seeThrough, offers_seeThrough, all, some]
    exact filterMap_filter_key Attempt.key_of_offer? keep attempts
  constructor
  · rw [keys_seeThrough, keys_seeThrough, all, some, List.filter_map]
    rfl
  · exact offers
  · rw [skipped_seeThrough, skipped_seeThrough, all, some]
    exact filterMap_filter_key Attempt.key_of_skip? keep attempts
  · rw [part.failures, whole.failures, refuses.refused, refuses.refused, offers]
    refine filterMap_filter_key ?_ keep _
    intro o p refused
    obtain ⟨error, -, rfl⟩ := Option.map_eq_some_iff.1 refused
    rfl
  · rw [part.emitted, whole.emitted, refuses.accepted, refuses.accepted, offers]
    refine filterMap_filter_key ?_ keep _
    intro o key taken
    split at taken <;> cases taken
    rfl

/-! ## A dispatch -/

section Restricted

variable {known : Catalogs} {rules kept : List Rule} {registry : Registry}

/-- **Rules have no say in one another, short of a crash.**  Drop any rules from a list that was
accepted.  What stays is accepted; and for any catalogs, offset, instant and write, and any store
that refuses events by what they are, the run with what stays is the run with all, restricted
to the enabled rules that stayed.  The one exception is a run with all that crashes: that may be
for a rule that was dropped. -/
theorem Engine.fire_restricted (built : Registry.build known rules = .ok registry)
    (dropped : kept.Sublist rules) {σ η : Type} (catalogs : Catalogs) (offset : UtcOffset)
    {outlet : Outlet σ η} {refusal : NewEvent → Option StoreError}
    (refuses : outlet.store.RefusesBy refusal) (now : Instant) (state state' : σ × η)
    (w : SavedWrite)
    (returns : ((Engine.mk registry catalogs offset).fire outlet now state w).1.crash = none) :
    ∃ registry', Registry.build known kept = .ok registry' ∧
      let part := ((Engine.mk registry' catalogs offset).fire outlet now state' w).1
      part.crash = none ∧
        part.journal.Restricts
          ((Engine.mk registry catalogs offset).fire outlet now state w).1.journal
          (AttemptId.isOf kept w.scope) := by
  obtain ⟨registry', built'⟩ := Registry.build_sublist built dropped
  refine ⟨registry', built', ?_⟩
  have fewer : Attempt.firsts (w.attempts registry' catalogs) =
      (Attempt.firsts (w.attempts registry catalogs)).filter fun a => a.key.isOf kept w.scope := by
    rw [w.attempts_eq_listing built, w.attempts_eq_listing built',
      w.listing_sublist built dropped, Attempt.firsts_filter]
  rw [crash_fire] at returns
  have stand : ∀ a ∈ Attempt.firsts (w.attempts registry' catalogs), a.Stands offset now := by
    rw [fewer]
    exact fun a member => returns a (List.mem_of_mem_filter member)
  dsimp only
  rw [crash_fire, fire_eq_seeThrough, fire_eq_seeThrough, fewer]
  exact ⟨fewer ▸ stand, Outlet.seeThrough_restricts refuses _ returns state state'⟩

end Restricted

namespace Example

/-- A store that takes every event but those of one rule. -/
def butRole : EventStore Nat where
  create n event :=
    if event.provenanceTag = "G:4:role" then (.error (.rejected "role"), n)
    else (.ok "taken", n + 1)

theorem butRole_refuses : butRole.RefusesBy fun event =>
    if event.provenanceTag = "G:4:role" then some (.rejected "role") else none := by
  intro n event
  by_cases role : event.provenanceTag = "G:4:role" <;> simp [butRole, refusalIn, role]

/-- The rules of the members alone, and a disabled one. -/
def memberRules : List Rule :=
  [rule "cut:1" false .entity "order" .record "due",
    rule "role" true .group "crew" .member "role",
    rule "cut:1" true .group "crew" .member "role"]

theorem memberRules_sublist : memberRules.Sublist rules := by
  refine .cons _ (.cons_cons _ (.cons _ (.cons _ ?_)))
  exact List.Sublist.refl _

/-- Without the rule on the lead, the events of the members are taken and refused as
before. -/
theorem crew_restricted :
    let outlet : Outlet Nat Unit := ⟨butRole, none⟩
    let whole := ((Engine.mk registry catalogs .utc).fire outlet .epoch (0, ()) (.group crew)).1
    whole.crash = none ∧ ∃ registry', Registry.build catalogs memberRules = .ok registry' ∧
      let part := ((Engine.mk registry' catalogs .utc).fire outlet .epoch (7, ()) (.group crew)).1
      part.crash = none ∧ part.journal.Restricts whole.journal (AttemptId.isOf memberRules .group) ∧
        whole.journal.report.emitted.map Prod.fst =
          [⟨"lead", "lead", none⟩, ⟨"cut:1", "role", some "1"⟩, ⟨"cut:1", "role", some "2"⟩] ∧
        part.journal.report.emitted.map Prod.fst =
          [⟨"cut:1", "role", some "1"⟩, ⟨"cut:1", "role", some "2"⟩] ∧
        part.journal.report.failures.map Prod.fst =
          [⟨"role", "role", some "1"⟩, ⟨"role", "role", some "2"⟩] := by
  intro outlet whole
  have returns : whole.crash = none := by decide +revert
  have emitted : whole.journal.report.emitted.map Prod.fst =
      [⟨"lead", "lead", none⟩, ⟨"cut:1", "role", some "1"⟩, ⟨"cut:1", "role", some "2"⟩] := by
    clear returns
    decide +revert
  have failures : whole.journal.report.failures =
      [(⟨"role", "role", some "1"⟩, .rejected "role"),
        (⟨"role", "role", some "2"⟩, .rejected "role")] := by
    clear returns emitted
    decide +revert
  have refuses : outlet.store.RefusesBy _ := butRole_refuses
  obtain ⟨registry', built', returns', restricts⟩ := Engine.fire_restricted built
    memberRules_sublist catalogs .utc refuses .epoch (0, ()) (7, ()) (.group crew) returns
  refine ⟨returns, registry', built', returns', restricts, emitted, ?_, ?_⟩
  · rw [restricts.emitted, emitted]
    decide
  · rw [restricts.failures, failures]
    decide

/-- The rules on the due date but the one that is dated by the day of the dispatch. -/
def fieldRules : List Rule :=
  [byField (rule "late" true .entity "order" .record "due"),
    byField (rule "ship" true .entity "order" .record "due")]

/-- In the first hour of the calendar, an hour west of UTC, that one rule takes away what a rule
after it does without it. -/
theorem ship_suppressed :
    let outlet : Outlet Nat Unit := ⟨butRole, none⟩
    let whole := ((Engine.mk dueRegistry catalogs hourWest).fire outlet .first (0, ())
      (.entity dueOrder)).1
    let part := ((Engine.mk (.ofRules catalogs (Registry.enabled fieldRules)) catalogs
      hourWest).fire outlet .first (0, ()) (.entity dueOrder)).1
    Registry.build catalogs dueRules = .ok dueRegistry ∧ fieldRules.Sublist dueRules ∧
      Registry.build catalogs fieldRules = .ok (.ofRules catalogs (Registry.enabled fieldRules)) ∧
      outlet.store.RefusesBy (fun event =>
        if event.provenanceTag = "G:4:role" then some (.rejected "role") else none) ∧
      whole.journal.offers.map Prod.fst = [⟨"late", "due", none⟩] ∧ whole.report? = none ∧
      part.journal.offers.map Prod.fst = [⟨"late", "due", none⟩, ⟨"ship", "due", none⟩] ∧
      part.report?.isSome = true := by
  refine ⟨due_built, .cons_cons _ (.cons _ (List.Sublist.refl _)), ?_, butRole_refuses, ?_, ?_, ?_,
    ?_⟩
  · refine Registry.build_eq_ok.2 ⟨?_, ?_, rfl⟩ <;> decide
  all_goals decide

end Example
end EventRules
