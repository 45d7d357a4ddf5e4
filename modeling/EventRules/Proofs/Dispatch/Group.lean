/-
# EventRules.Proofs.Dispatch.Group -- what a saved group record attempts

A saved group record attempts the first attempt of each key of its listing: the fields
of the record with the group rules that watch records, then member by member the fields
of the member with the rules that watch members.  Two members of one list may have the
same key text; then they share the keys of their attempts, and those of the later member
are passed over.
-/
import EventRules.Dispatch.MemoryStore
import EventRules.Proofs.Dispatch.Listing
import EventRules.Proofs.Dispatch.Run
namespace EventRules

set_option autoImplicit false

section Attempted

variable {known : Catalogs} {rules : List Rule} {registry : Registry}

/-- **What a saved group record attempts.**  For every registry that was built, any
catalogs, and any store and hook: of its listing exactly the first attempt of each key,
in order.  Unless one of these crashes, the report records each of them once, in order; if
one does, they are attempted up to the first that does, and there is no report. -/
theorem Engine.fireGroup_attempts (built : Registry.build known rules = .ok registry)
    {σ η : Type} (catalogs : Catalogs) (offset : UtcOffset) (outlet : Outlet σ η) (now : Instant)
    (state : σ × η) (w : GroupWrite) :
    outlet.Attempts offset now state
      (Attempt.firsts (w.listing catalogs (Registry.accepted known rules)))
      ((Engine.mk registry catalogs offset).fireGroup outlet now state w) := by
  change outlet.Attempts offset now state _
    (outlet.run offset now [] state (w.attempts registry catalogs))
  rw [Outlet.run_eq_seeThrough, w.attempts_eq_listing built]
  exact outlet.attempts_seeThrough offset now state (Attempt.nodup_keys_firsts _)

end Attempted

namespace Example

/-- A new crew with a lead and three members, two of them under one key, and one without
a key. -/
def crew : GroupWrite where
  recordType := "crew"
  id := "c-1"
  actorId := "u-1"
  next := [("lead", .text "ann")]
  previous := none
  nextMembers := some [[("id", .text "1"), ("role", .text "a")], [("role", .text "b")],
    [("id", .text "1"), ("role", .text "c")], [("id", .text "2"), ("role", .text "d")]]
  previousMembers := none

/-- The keys of the crew's attempts: seven pairs fire, and the two of the second member
`1` are passed over. -/
def crewKeys : List AttemptId :=
  [⟨"lead", "lead", none⟩, ⟨"role", "role", some "1"⟩, ⟨"cut:1", "role", some "1"⟩,
    ⟨"role", "role", some "2"⟩, ⟨"cut:1", "role", some "2"⟩]

theorem crew_attempts :
    let listing := crew.listing catalogs (Registry.accepted catalogs rules)
    let fired := (Engine.mk registry catalogs .utc).fireGroup
      ⟨MemoryStore.store.refusing [("task", .rejected "closed")], (none : Option (Hook Unit))⟩
      .epoch (.empty, ()) crew
    listing.length = 7 ∧ fired.1.journal.map JournalEntry.key = crewKeys ∧
      ∃ report, fired.1.report? = some report ∧ report.Records crewKeys ∧
        report.failures.map Prod.fst = crewKeys := by
  intro listing fired
  have pairs : listing.length = 7 := by decide +revert
  have keys : (Attempt.firsts listing).map Attempt.key = crewKeys := by decide +revert
  have stand : ∀ a ∈ Attempt.firsts listing, a.Stands .utc .epoch := fun a _ _ => by decide
  have refused : fired.1.report?.map (fun report => report.failures.map Prod.fst) =
      some crewKeys := by
    decide +revert
  have attempts := Engine.fireGroup_attempts built catalogs .utc
    ⟨MemoryStore.store.refusing [("task", .rejected "closed")], (none : Option (Hook Unit))⟩
    .epoch (.empty, ()) crew
  obtain ⟨attempted, report, returned, records⟩ := attempts.complete stand
  refine ⟨pairs, attempted.trans keys, report, returned, keys ▸ records, ?_⟩
  rw [returned] at refused
  exact Option.some.inj refused

/-- In the first hour of the calendar, an hour west of UTC, the first of these attempts
crashes: none of the five keys is recorded anywhere. -/
theorem crew_unrecorded :
    let fired := (Engine.mk registry catalogs hourWest).fireGroup
      ⟨MemoryStore.store, (none : Option (Hook Unit))⟩ .first (.empty, ()) crew
    Registry.build catalogs rules = .ok registry ∧
      (Attempt.firsts (crew.listing catalogs (Registry.accepted catalogs rules))).map
        Attempt.key = crewKeys ∧
      fired.1.journal.map JournalEntry.key = [] ∧ fired.1.report? = none := by
  refine ⟨built, ?_, ?_, ?_⟩ <;> decide

end Example
end EventRules
