/-
# EventRules.Proofs.Dispatch.Offered -- what an offered event looks like

Every event that a dispatch offers is made as its rule says.  Its dates are counted from a
base date (`RuleSpec.Based`, `NewEvent.Placed`), its group and participants come from the
saved record and its current members (`SavedWrite.Links`).  Where there is no base date, the
condition fails, or an interval would end outside the calendar, the rule that fires is
skipped, with the first of these reasons (`Attempt.Passes`).  Only a rule that is dated by a
day that the calendar does not have is neither offered nor skipped: it crashes
(`Example.order_unskipped`).

* `Attempt.prepare_eq_skip`: why an attempt is skipped.
* `Extent.of?_placed`: where an extent lies.
* `SavedWrite.links_of_mem_listing`: whom and what an event of a write refers to.
* `Engine.fire_wellFormed`: what fires is offered as its rule says, or else skipped.
-/
import EventRules.Proofs.Calendar.Midnight
import EventRules.Proofs.Dispatch.ReadBack
import EventRules.Proofs.Registry.Faults
namespace EventRules

set_option autoImplicit false

/-! ## The dates of an event -/

/-- How many days an interval of a rule lasts. -/
def RuleSpec.length (spec : RuleSpec) : Int := max 1 (spec.intervalDays.getD 1)

/-- The base date that a rule takes, given the new value of its field: the instant that the
value means, or the local midnight that begins the day. -/
inductive RuleSpec.Based (spec : RuleSpec) (offset : UtcOffset) (now : Instant) (next : Value)
    (base : Instant) : Prop
  | field (source : spec.timeSource = .field) (dated : next.toDate offset = some base)
  | now (source : spec.timeSource = .now) (begins : offset.BeginsDay base now)

/-- An event lies in time as its rule says, counted from a base date. -/
structure NewEvent.Placed (event : NewEvent) (spec : RuleSpec) (base : Instant) : Prop where
  kind : event.timeKind = spec.timeKind
  deadline : spec.timeKind = .deadline → event.start = none ∧ event.finish = some base
  /-- The days of an interval are whole ones, of 86400 seconds; a leap second that the base
  lies in is one of these seconds. -/
  interval : spec.timeKind = .interval → event.start = some base ∧
    ∃ finish, event.finish = some finish ∧ base.plusDays spec.length = some finish ∧
      finish.seconds = base.seconds + 86400 * spec.length ∧
      finish.nanos = base.nanos % 1000000000
  other : spec.timeKind ≠ .deadline → spec.timeKind ≠ .interval →
    event.start = some base ∧ event.finish = none
  monthly : event.recurrence = some .monthly ↔ spec.timeKind = .recurringMonthly
  yearly : event.recurrence = some .yearly ↔ spec.timeKind = .recurringYearly
  once : event.recurrence = none ↔
    spec.timeKind ≠ .recurringMonthly ∧ spec.timeKind ≠ .recurringYearly
  anchored : ∃ anchor, event.finish.or event.start = some anchor
  ordered : ∀ start finish, event.start = some start → event.finish = some finish →
    start.le finish = true ∧ finish.le start = false

theorem Instant.before_of_seconds_lt {t u : Instant} (earlier : t.seconds < u.seconds) :
    t.le u = true ∧ u.le t = false := by
  refine ⟨le_of_seconds_lt earlier, ?_⟩
  simp only [le, Bool.or_eq_false_iff, Bool.and_eq_false_iff, decide_eq_false_iff_not,
    beq_eq_false_iff_ne]
  omega

/-- An extent places the event of a rule. -/
theorem Extent.of?_placed {base : Instant} {spec : RuleSpec} {extent : Extent} {event : NewEvent}
    (placed : Extent.of? base spec.timeKind spec.intervalDays = some extent)
    (kind : event.timeKind = spec.timeKind) (start : event.start = extent.start)
    (finish : event.finish = extent.finish)
    (recurrence : event.recurrence = Recurrence.ofKind? spec.timeKind) :
    event.Placed spec base := by
  have anchored := Extent.of?_dated placed
  rw [← start, ← finish] at anchored
  have monthly : event.recurrence = some .monthly ↔ spec.timeKind = .recurringMonthly := by
    rw [recurrence]
    cases spec.timeKind <;> decide
  have yearly : event.recurrence = some .yearly ↔ spec.timeKind = .recurringYearly := by
    rw [recurrence]
    cases spec.timeKind <;> decide
  have once : event.recurrence = none ↔
      spec.timeKind ≠ .recurringMonthly ∧ spec.timeKind ≠ .recurringYearly := by
    rw [recurrence]
    cases spec.timeKind <;> decide
  by_cases isDeadline : spec.timeKind = .deadline
  · rw [isDeadline] at placed
    cases placed
    refine ⟨kind, fun _ => ⟨start, finish⟩, ?_, ?_, monthly, yearly, once, anchored, ?_⟩
    · intro isInterval
      rw [isDeadline] at isInterval
      cases isInterval
    · exact fun notDeadline => absurd isDeadline notDeadline
    · intro first last starts
      rw [start] at starts
      cases starts
  · by_cases isInterval : spec.timeKind = .interval
    · rw [isInterval, Extent.of?, Int.max_comm] at placed
      obtain ⟨last, landed, rfl⟩ := Option.map_eq_some_iff.1 placed
      have later := Instant.plusDays_later (Int.le_max_left 1 _) landed
      refine ⟨kind, fun is => absurd is isDeadline, ?_, ?_, monthly, yearly, once, anchored, ?_⟩
      · exact fun _ => ⟨start, last, finish, landed, later⟩
      · exact fun _ notInterval => absurd isInterval notInterval
      · intro first last' starts ends
        rw [start] at starts
        rw [finish] at ends
        cases starts
        cases ends
        apply Instant.before_of_seconds_lt
        omega
    · have point : extent = ⟨some base, none⟩ := by
        unfold Extent.of? at placed
        split at placed
        · exact absurd ‹_› isDeadline
        · exact absurd ‹_› isInterval
        · exact (Option.some.inj placed).symm
      rw [point] at start finish
      refine ⟨kind, fun is => absurd is isDeadline, fun is => absurd is isInterval,
        fun _ _ => ⟨start, finish⟩, monthly, yearly, once, anchored, ?_⟩
      intro first last _ ends
      rw [finish] at ends
      cases ends

/-- An interval of an accepted rule lasts one day to a hundred years. -/
theorem RuleSpec.length_of_fits {catalogs : Catalogs} {spec : RuleSpec}
    (fits : spec.Fits catalogs) : 1 ≤ spec.length ∧ spec.length ≤ 36500 := by
  unfold length
  cases days : spec.intervalDays with
  | none => decide
  | some n =>
      have inRange := fits.interval n days
      rw [Option.getD_some]
      omega

/-! ## The base date and the skips -/

namespace Attempt

/-- Why the rule of an attempt is passed over: the first of these that is so. -/
inductive Passes (a : Attempt) (offset : UtcOffset) (now : Instant) : SkipCause → Prop
  | undated (source : a.rule.spec.timeSource = .field) (none : a.next.toDate offset = none) :
      Passes a offset now .invalidDate
  | noMidnight (source : a.rule.spec.timeSource = .now) (none : offset.startOfDay now = .ok none) :
      Passes a offset now .dateOutOfRange
  | unmet (base : Instant) (based : a.rule.spec.Based offset now a.next base)
      (fails : a.admits offset (a.context offset now base) = false) :
      Passes a offset now .conditionFalse
  | endless (base : Instant) (based : a.rule.spec.Based offset now a.next base)
      (holds : a.admits offset (a.context offset now base) = true)
      (kind : a.rule.spec.timeKind = .interval)
      (lost : base.plusDays a.rule.spec.length = none) :
      Passes a offset now .dateOutOfRange

variable {a : Attempt} {offset : UtcOffset} {now : Instant}

theorem based_of_base {base : Instant} (found : a.base offset now = .ok (.ok base)) :
    a.rule.spec.Based offset now a.next base := by
  unfold Attempt.base at found
  split at found
  · rename_i source
    split at found
    · rename_i midnight begins
      cases found
      exact .now source (UtcOffset.beginsDay_of_startOfDay begins)
    · cases found
    · cases found
  · rename_i source
    split at found
    · rename_i date dated
      cases found
      exact .field source dated
    · cases found

theorem passes_of_base {reason : SkipCause} (missing : a.base offset now = .ok (.error reason)) :
    a.Passes offset now reason := by
  unfold Attempt.base at missing
  split at missing
  · rename_i source
    split at missing
    · cases missing
    · rename_i none
      cases missing
      exact .noMidnight source none
    · cases missing
  · rename_i source
    split at missing
    · cases missing
    · rename_i none
      cases missing
      exact .undated source none

/-- With a base date, an attempt is skipped for its condition, or else for its extent. -/
theorem passes_of_offerFrom {base : Instant} {reason : SkipCause}
    (based : a.rule.spec.Based offset now a.next base)
    (skipped : a.offerFrom offset now base = .error reason) : a.Passes offset now reason := by
  unfold offerFrom at skipped
  dsimp only at skipped
  cases holds : a.admits offset (a.context offset now base) with
  | false =>
      rw [holds] at skipped
      cases skipped
      exact .unmet base based holds
  | true =>
      rw [holds, if_pos rfl] at skipped
      split at skipped
      · cases skipped
      · rename_i lost
        cases skipped
        unfold Extent.of? at lost
        split at lost
        · cases lost
        · rename_i kind
          rw [Int.max_comm, Option.map_eq_none_iff] at lost
          exact .endless base based holds kind lost
        · cases lost

/-- An attempt is skipped for the first thing that it lacks. -/
theorem prepare_eq_skip {reason : SkipCause}
    (skipped : a.prepare offset now = .ok (.error reason)) : a.Passes offset now reason := by
  unfold prepare at skipped
  rcases found : a.base offset now with crash | early | base
  · rw [found] at skipped
    cases skipped
  · rw [found] at skipped
    cases skipped
    exact passes_of_base found
  · rw [found] at skipped
    exact passes_of_offerFrom (based_of_base found) (Except.ok.inj skipped)

theorem passes_of_skip? {key : AttemptId} {reason : SkipCause}
    (skipped : a.skip? offset now = some (key, reason)) :
    a.key = key ∧ a.Passes offset now reason := by
  unfold skip? at skipped
  split at skipped
  · rename_i prepared
    cases skipped
    exact ⟨rfl, prepare_eq_skip prepared⟩
  · cases skipped

end Attempt

/-! ## Whom an event refers to -/

/-- What the event of a rule on a singular record refers to: no group, and at most that
record. -/
structure EntityWrite.Links (w : EntityWrite) (spec : RuleSpec) (event : NewEvent) : Prop where
  groupless : event.group = none
  nobody : spec.memberLink = .none → event.participants = []
  record : spec.memberLink ≠ .none → event.participants = [⟨w.recordType, w.id⟩]

/-- What the event of a rule on a group record or, under a key, on one of its members refers
to. -/
structure GroupWrite.Links (w : GroupWrite) (catalog : FieldCatalog) (spec : RuleSpec)
    (memberKey : Option String) (event : NewEvent) : Prop where
  attached : spec.groupLink = .attach → event.group = some ⟨w.recordType, w.id⟩
  detached : spec.groupLink = .none → event.group = none
  nobody : spec.memberLink = .none → event.participants = []
  record : spec.memberLink = .entity → memberKey = none →
    event.participants = [⟨w.recordType, w.id⟩]
  member : spec.memberLink = .entity → ∀ text, memberKey = some text →
    event.participants = [⟨w.recordType ++ ".member", text⟩]
  everyone : spec.memberLink = .allMembers → event.participants =
    (w.current catalog).map fun m => ⟨w.recordType ++ ".member", m.key⟩

namespace SavedWrite

/-- The type of the saved record. -/
def recordType : SavedWrite → String
  | entity w => w.recordType
  | group w => w.recordType

/-- The write leaves a value in the field of a key: in the record itself, or in a current
member of the key. -/
inductive Leaves (catalog : FieldCatalog) : SavedWrite → AttemptId → Value → Prop
  | entity (w : EntityWrite) (ruleId field : String) :
      Leaves catalog (.entity w) ⟨ruleId, field, none⟩ (w.next.value field)
  | group (w : GroupWrite) (ruleId field : String) :
      Leaves catalog (.group w) ⟨ruleId, field, none⟩ (w.next.value field)
  | member (w : GroupWrite) (m : KeyedMember) (current : m ∈ w.current catalog)
      (ruleId field : String) :
      Leaves catalog (.group w) ⟨ruleId, field, some m.key⟩ (m.record.value field)

/-- What an event of the write refers to. -/
def Links (catalog : FieldCatalog) (spec : RuleSpec) (memberKey : Option String)
    (event : NewEvent) : SavedWrite → Prop
  | entity w => w.Links spec event
  | group w => w.Links catalog spec memberKey event

end SavedWrite

section Linked

variable {catalogs : Catalogs} {rules : List RegisteredRule} {a : Attempt}

/-- What is listed for a singular record is a pair of the record. -/
theorem EntityWrite.of_mem_listing {w : EntityWrite} (listed : a ∈ w.listing catalogs rules) :
    ∃ catalog, catalogs.record? w.recordType = some catalog ∧ a ∈ w.pairs catalog rules := by
  unfold listing at listed
  split at listed
  · cases listed
  · exact ⟨_, by assumption, List.mem_of_mem_filter listed⟩

theorem EntityWrite.links_of_mem_listing {w : EntityWrite}
    (listed : a ∈ w.listing catalogs rules) (fits : ∃ known, a.rule.spec.Fits known) :
    ∃ catalog, catalogs.record? w.recordType = some catalog ∧
      (SavedWrite.entity w).Leaves catalog a.key a.next ∧
        ∀ event : NewEvent, event.group = a.group → event.participants = a.participants →
          w.Links a.rule.spec event := by
  obtain ⟨catalog, described, paired⟩ := of_mem_listing listed
  obtain ⟨field, -, r, -, watches, rfl⟩ := Source.of_mem_pairs paired
  simp only [RegisteredRule.watches, decide_eq_true_eq] at watches
  obtain ⟨known, fits⟩ := fits
  obtain ⟨-, -, notAll⟩ := fits.entity watches.1
  refine ⟨catalog, described, .entity w r.id field, fun event group participants => ⟨?_, ?_, ?_⟩⟩
  · rw [group, Attempt.group, watches.1]
  · intro link
    rw [participants, Attempt.participants, link]
  · intro link
    rw [participants, Attempt.participants]
    cases which : r.spec.memberLink with
    | none => exact absurd which link
    | entity => rfl
    | allMembers => exact absurd which notAll

/-- The links of an attempt on a group, whether on the record or on a member. -/
theorem GroupWrite.links_of_source {w : GroupWrite} {catalog : FieldCatalog}
    (scope : a.rule.spec.scope = .group) (source : a.source = w.source)
    (member : ∀ m, a.member = some m → m.refType = w.recordType ++ ".member")
    (all : a.allMembers = w.allMembers catalog) {event : NewEvent} (group : event.group = a.group)
    (participants : event.participants = a.participants) :
    w.Links catalog a.rule.spec a.key.memberKey event := by
  constructor
  · intro link
    rw [group, Attempt.group, scope, link, source]
    rfl
  · intro link
    rw [group, Attempt.group, scope, link]
  · intro link
    rw [participants, Attempt.participants, link]
  · intro link onRecord
    have none : a.member = none := by simpa [Attempt.key] using onRecord
    rw [participants, Attempt.participants, link, none, source]
    rfl
  · intro link text onMember
    obtain ⟨m, found, rfl⟩ := Option.map_eq_some_iff.1 onMember
    rw [participants, Attempt.participants, link, found]
    dsimp only
    rw [member m found]
  · intro link
    rw [participants, Attempt.participants, link, all]
    rfl

theorem GroupWrite.links_of_mem_listing {w : GroupWrite}
    (listed : a ∈ w.listing catalogs rules) :
    ∃ catalog, catalogs.record? w.recordType = some catalog ∧
      (SavedWrite.group w).Leaves catalog a.key a.next ∧
        ∀ event : NewEvent, event.group = a.group → event.participants = a.participants →
          w.Links catalog a.rule.spec a.key.memberKey event := by
  obtain ⟨-, scope⟩ := GroupWrite.rule_of_mem_listing listed
  obtain ⟨-, catalog, described, onRecord | ⟨members, keyed, m, isListed, onMember⟩⟩ :=
    GroupWrite.of_mem_listing listed
  · obtain ⟨field, -, r, -, -, rfl⟩ := Source.of_mem_pairs onRecord
    refine ⟨catalog, described, .group w r.id field, fun event group participants => ?_⟩
    exact links_of_source scope rfl (fun m onMember => nomatch onMember)
      (w.allMembers_eq catalog).symm group participants
  · obtain ⟨field, -, r, -, -, rfl⟩ := Source.of_mem_pairs onMember
    have current : m ∈ w.current catalog := by
      rw [w.current_eq_listed keyed]
      exact isListed
    have all : w.listedParticipants members = w.allMembers catalog := by
      rw [w.allMembers_eq, keyed]
      rfl
    refine ⟨catalog, described, .member w m current r.id field, fun event group participants => ?_⟩
    refine links_of_source scope rfl ?_ all group participants
    intro change onMember
    cases onMember
    rfl

/-- What is listed for a write is about a value that the write leaves, and its event refers
to what the rule links it to. -/
theorem SavedWrite.links_of_mem_listing {w : SavedWrite} (listed : a ∈ w.listing catalogs rules)
    (fits : ∃ known, a.rule.spec.Fits known) :
    ∃ catalog, catalogs.record? w.recordType = some catalog ∧ w.Leaves catalog a.key a.next ∧
      ∀ event : NewEvent, event.group = a.group → event.participants = a.participants →
        w.Links catalog a.rule.spec a.key.memberKey event := by
  cases w with
  | entity w => exact w.links_of_mem_listing listed fits
  | group w => exact w.links_of_mem_listing listed

end Linked

/-! ## A dispatch -/

/-- Every attempt that stands ends as an offer or as a skip, and not as both. -/
theorem Attempt.offers_skips_perm {offset : UtcOffset} {now : Instant} {attempts : List Attempt}
    (stand : ∀ a ∈ attempts, a.Stands offset now) :
    ((attempts.filterMap (offer? offset now)).map Prod.fst ++
      (attempts.filterMap (skip? offset now)).map Prod.fst).Perm (attempts.map key) := by
  induction attempts with
  | nil => exact List.Perm.refl _
  | cons a rest ih =>
      obtain ⟨stands, stand⟩ := List.forall_mem_cons.1 stand
      obtain ⟨verdict, prepared⟩ := prepare_of_stands stands
      cases verdict with
      | ok offer =>
          have offered : a.offer? offset now = some (a.key, offer.event) := by
            rw [offer?, prepared]
          have unskipped : a.skip? offset now = none := by rw [skip?, prepared]
          rw [List.filterMap_cons_some offered, List.filterMap_cons_none unskipped]
          exact (ih stand).cons a.key
      | error reason =>
          have unoffered : a.offer? offset now = none := by rw [offer?, prepared]
          have skipped : a.skip? offset now = some (a.key, reason) := by rw [skip?, prepared]
          rw [List.filterMap_cons_none unoffered, List.filterMap_cons_some skipped]
          exact List.perm_middle.trans ((ih stand).cons a.key)

section WellFormed

variable {known : Catalogs} {rules : List Rule} {registry : Registry}

theorem Registry.fits_of_accepted (built : build known rules = .ok registry) {r : RegisteredRule}
    (member : r ∈ accepted known rules) : r.spec.Fits known := by
  obtain ⟨rule, -, -, rfl, faultless⟩ := of_mem_accepted built member
  exact RuleSpec.flaws_eq_nil.1 faultless

/-- **What fires is offered as its rule says, or else skipped, or it crashes.**  For every registry
that was built, any catalogs, offset, instant, store and hook, and any write: each offered event
is that of an accepted rule whose condition holds, dated from the rule's base date for the value
that the write leaves in the field, with the group and the participants the rule links it
to.  Whatever else was attempted is skipped, for the first thing that it lacks.  Unless an attempt
crashes, for which its rule must be dated by a day that the calendar does not have, all that fires
is attempted, and the report that is returned says so. -/
theorem Engine.fire_wellFormed (built : Registry.build known rules = .ok registry) {σ η : Type}
    (catalogs : Catalogs) (offset : UtcOffset) (outlet : Outlet σ η) (now : Instant)
    (state : σ × η) (w : SavedWrite) :
    let attempted := Attempt.firsts (w.attempts registry catalogs)
    let fired := (Engine.mk registry catalogs offset).fire outlet now state w
    (∀ key event, (key, event) ∈ fired.1.journal.offers →
      ∃ a ∈ w.attempts registry catalogs, a.key = key ∧
        a.rule ∈ Registry.accepted known rules ∧ a.rule.spec.scope = w.scope ∧
        ∃ catalog base, catalogs.record? w.recordType = some catalog ∧
          w.Leaves catalog key a.next ∧ a.rule.spec.Based offset now a.next base ∧
          a.admits offset (a.context offset now base) = true ∧
          (1 ≤ a.rule.spec.length ∧ a.rule.spec.length ≤ 36500) ∧
          event.Placed a.rule.spec base ∧
          w.Links catalog a.rule.spec key.memberKey event) ∧
    (∀ key reason, (key, reason) ∈ fired.1.journal.report.skipped →
      ∃ a ∈ w.attempts registry catalogs, a.key = key ∧ a.Passes offset now reason) ∧
    (fired.1.journal.offers.map Prod.fst ++ fired.1.journal.report.skipped.map Prod.fst).Perm
      (fired.1.journal.map JournalEntry.key) ∧
    (fired.1.crash = none ↔ ∀ a ∈ attempted, a.Stands offset now) ∧
    ((∀ a ∈ attempted, a.Stands offset now) →
      fired.1.journal.map JournalEntry.key = attempted.map Attempt.key ∧
        fired.1.report? = some fired.1.journal.report) := by
  intro attempted fired
  have seen : fired = outlet.seeThrough offset now state attempted :=
    (Engine.mk registry catalogs offset).fire_eq_seeThrough outlet now state w
  have crash : fired.1.crash = none ↔ ∀ a ∈ attempted, a.Stands offset now :=
    (Engine.mk registry catalogs offset).crash_fire outlet now state w
  refine ⟨?_, ?_, ?_, crash, ?_⟩
  · intro key event offered
    obtain ⟨a, attempted, rfl, offer, prepared, rfl⟩ := Engine.attempt_of_offer offered
    have listed := attempted
    rw [w.attempts_eq_listing built] at listed
    obtain ⟨accepted, scope⟩ := SavedWrite.rule_of_mem_listing listed
    have fits := Registry.fits_of_accepted built accepted
    obtain ⟨base, extent, found, holds, placed, rfl⟩ := Attempt.prepare_eq_ok prepared
    obtain ⟨catalog, described, leaves, links⟩ :=
      SavedWrite.links_of_mem_listing listed ⟨known, fits⟩
    exact ⟨a, attempted, rfl, accepted, scope, catalog, base, described, leaves,
      Attempt.based_of_base found, holds, RuleSpec.length_of_fits fits,
      Extent.of?_placed placed rfl rfl rfl rfl, links _ rfl rfl⟩
  · intro key reason skipped
    rw [seen, Outlet.skipped_seeThrough] at skipped
    obtain ⟨a, stood, passed⟩ := List.mem_filterMap.1 skipped
    have first : a ∈ attempted := (Attempt.standing_prefix _ _ _).subset stood
    exact ⟨a, (Attempt.firsts_sublist _).subset first, Attempt.passes_of_skip? passed⟩
  · rw [seen, Outlet.offers_seeThrough, Outlet.skipped_seeThrough, Outlet.keys_seeThrough]
    exact Attempt.offers_skips_perm fun _ => Attempt.stands_of_mem_standing
  · intro stand
    refine ⟨?_, Dispatched.report?_eq_some (crash.2 stand)⟩
    rw [seen, Outlet.keys_seeThrough, Attempt.standing_eq_self stand]

end WellFormed

namespace Example

/-- The catalogs with a type of events that may last. -/
def stayCatalogs : Catalogs :=
  { catalogs with eventTypes := [("stay", ⟨"stay", [.interval], true⟩)] }

/-- A rule on the date until which a member stays: an event of the whole crew from that date
on, for as long as an interval lasts at least. -/
def stay : Rule :=
  let r := rule "stay" true .group "crew" .member "until"
  { r with spec := { r.spec with
      eventType := "stay"
      timeKind := .interval
      timeSource := .field
      intervalDays := some 0
      memberLink := .allMembers
      groupLink := .attach } }

theorem stay_built : Registry.build stayCatalogs [stay] =
    .ok (.ofRules stayCatalogs (Registry.enabled [stay])) := by
  refine Registry.build_eq_ok.2 ⟨?_, ?_, rfl⟩ <;> decide

/-- A crew of two, one of them with a date and one with something else in its place. -/
def stayingCrew : GroupWrite where
  recordType := "crew"
  id := "c-1"
  actorId := "u-1"
  next := []
  previous := none
  nextMembers := some [[("id", .text "1"), ("until", .date .epoch)],
    [("id", .text "2"), ("until", .bool true)]]
  previousMembers := none

/-- The one event that is offered lasts a day, belongs to the group and is for both members;
the other member is skipped. -/
theorem stay_wellFormed :
    let engine := Engine.mk (.ofRules stayCatalogs (Registry.enabled [stay])) stayCatalogs .utc
    let fired := engine.fire ⟨MemoryStore.store, (none : Option (Hook Unit))⟩ .epoch (.empty, ())
      (.group stayingCrew)
    fired.1.journal.offers.map Prod.fst = [⟨"stay", "until", some "1"⟩] ∧
      fired.1.report?.map Report.skipped =
        some [(⟨"stay", "until", some "2"⟩, .invalidDate)] ∧
      ∀ key event, (key, event) ∈ fired.1.journal.offers →
        event.group = some ⟨"crew", "c-1"⟩ ∧
        event.participants = [⟨"crew.member", "1"⟩, ⟨"crew.member", "2"⟩] ∧
        ∃ start finish, event.start = some start ∧ event.finish = some finish ∧
          finish.seconds = start.seconds + 86400 := by
  intro engine fired
  refine ⟨by decide +revert, by decide +revert, ?_⟩
  intro key event offered
  obtain ⟨a, -, -, accepted, -, catalog, base, described, -, -, -, -, placed, links⟩ :=
    (Engine.fire_wellFormed stay_built stayCatalogs .utc
      ⟨MemoryStore.store, (none : Option (Hook Unit))⟩ .epoch (.empty, ())
      (.group stayingCrew)).1 key event offered
  have mine : a.rule = RegisteredRule.of stayCatalogs stay := List.mem_singleton.1 accepted
  rw [mine] at placed links
  cases described
  obtain ⟨starts, finish, ends, -, later, -⟩ := placed.interval rfl
  exact ⟨links.attached rfl, links.everyone rfl, base, finish, starts, ends, later⟩

/-- In the first hour of the calendar, an hour west of UTC, there is no base date for the rules on
the phase of an order: they fire, and are neither offered nor skipped. -/
theorem order_unskipped :
    let attempted := Attempt.firsts ((SavedWrite.entity order).attempts registry catalogs)
    let fired := (Engine.mk registry catalogs hourWest).fire
      ⟨MemoryStore.store, (none : Option (Hook Unit))⟩ .first (.empty, ()) (.entity order)
    Registry.build catalogs rules = .ok registry ∧
      attempted.map Attempt.key = [⟨"cut:1", "phase", none⟩, ⟨"pack", "phase", none⟩] ∧
      (∀ base, ¬ hourWest.BeginsDay base .first) ∧
      fired.1.journal.offers.map Prod.fst = [] ∧ fired.1.journal.report.skipped = [] ∧
      fired.1.report? = none := by
  refine ⟨built, by decide, ?_, by decide, by decide, by decide⟩
  intro base begins
  have clock : ((base.seconds + -3600) % 86400).toNat = 0 :=
    congrArg Reading.seconds begins.reading
  have notAfter : base.seconds ≤ -8334601228800 := by
    refine Int.not_lt.1 fun later => ?_
    have after := (Instant.before_of_seconds_lt (t := .first) later).2
    rw [begins.notAfter] at after
    cases after
  have inCalendar := base.inCalendar.1
  omega

end Example
end EventRules
