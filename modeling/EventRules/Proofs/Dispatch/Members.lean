/-
# EventRules.Proofs.Dispatch.Members -- members have no say in one another

What comes of a member of a group depends on its own records before and after the write,
found under its key text, and on nothing else in the lists of members: add, remove, change
or reorder others and each attempt on it ends as before (`Engine.fireGroup_memberwise`).
The same goes for the attempts on the record of the group.  Only a dispatch that crashes is no
longer about one member: it takes away what comes after (`Example.leaver_suppressed`).

The one thing an attempt knows of the other members is the list of all current ones, and it
only goes into the participants of events of rules that ask for all members.  So two runs
are compared with that list exchanged (`Attempt.among`), and by what stays of an outcome
without ids and without these participants (`Upshot`, `Registry.setAside`).

The run passes over later attempts of a key; as a key names its member, what is passed over
for a member is its own (`Attempt.firsts_filter`).
-/
import EventRules.Proofs.Dispatch.Independence
import EventRules.Proofs.Dispatch.ReadBack
namespace EventRules

set_option autoImplicit false

/-! ## What came of an attempt, ids aside -/

/-- What came of an attempt, whatever id the event was given and whatever the hook said. -/
inductive Upshot where
  | skipped (reason : SkipCause)
  | refused (event : NewEvent) (error : StoreError)
  | accepted (event : NewEvent)
  deriving DecidableEq

/-- An outcome without the id and the hook. -/
def Outcome.upshot : Outcome → Upshot
  | .skipped reason => .skipped reason
  | .refused event error => .refused event error
  | .emitted event _ _ _ => .accepted event

/-- What came of the attempts on the members of a key text or, without one, of those on the
record, in order. -/
def Journal.upshots (journal : Journal) (memberKey : Option String) :
    List (AttemptId × Upshot) :=
  (journal.map fun e => (e.key, e.outcome.upshot)).filter fun u => u.1.memberKey = memberKey

/-- What comes of an offer or of a skip at a store that refuses events by what they are. -/
def Upshot.of (refusal : NewEvent → Option StoreError) : Except SkipCause Offer → Upshot
  | .error reason => .skipped reason
  | .ok offer =>
      match refusal offer.event with
      | some error => .refused offer.event error
      | none => .accepted offer.event

/-- What comes of an attempt at such a store, unless it crashes. -/
def Attempt.upshot? (refusal : NewEvent → Option StoreError) (offset : UtcOffset) (now : Instant)
    (a : Attempt) : Option Upshot :=
  match a.prepare offset now with
  | .ok prepared => some (.of refusal prepared)
  | .error _ => none

namespace Outlet

variable {σ η : Type} {outlet : Outlet σ η} {refusal : NewEvent → Option StoreError}

theorem upshot_deliver (refuses : outlet.store.RefusesBy refusal) (state : σ × η) (a : Attempt)
    (offer : Offer) :
    (outlet.deliver state a offer).1.upshot = .of refusal (.ok offer) := by
  have alone := refuses state.1 offer.event
  rw [Upshot.of]
  rcases answer : outlet.store.create state.1 offer.event with ⟨error | id, store⟩
  · rw [answer] at alone
    rw [deliver_refused answer, ← alone]
    rfl
  · rw [answer] at alone
    rw [deliver_accepted answer, ← alone]
    rfl

theorem upshot_attempt (refuses : outlet.store.RefusesBy refusal) {offset : UtcOffset}
    {now : Instant} {before after : σ × η} {a : Attempt} {outcome : Outcome}
    (seen : outlet.attempt offset now before a = .ok (outcome, after)) :
    a.upshot? refusal offset now = some outcome.upshot := by
  unfold Attempt.upshot?
  rcases attempt_cases seen with ⟨reason, prepared, rfl, rfl⟩ | ⟨offer, prepared, rfl, rfl⟩
  · rw [prepared]
    rfl
  · rw [prepared, upshot_deliver refuses]

/-- Whatever the state of the store, attempts that are seen through end each as it would
alone. -/
theorem upshots_seeThrough (refuses : outlet.store.RefusesBy refusal) {offset : UtcOffset}
    {now : Instant} (state : σ × η) {attempts : List Attempt}
    (stand : ∀ a ∈ attempts, a.Stands offset now) (memberKey : Option String) :
    (outlet.seeThrough offset now state attempts).1.journal.upshots memberKey =
      (attempts.filter fun a => a.key.memberKey = memberKey).filterMap
        fun a => (a.upshot? refusal offset now).map (Prod.mk a.key) := by
  have each : (outlet.seeThrough offset now state attempts).1.journal.map
      (fun e => (e.key, e.outcome.upshot)) =
        attempts.filterMap fun a => (a.upshot? refusal offset now).map (Prod.mk a.key) := by
    rw [← List.filterMap_eq_map, filterMap_seeThrough, Attempt.standing_eq_self stand]
    intro before after a outcome seen
    rw [upshot_attempt refuses seen]
    rfl
  rw [Journal.upshots, each]
  refine (filterMap_filter_key ?_ (fun key => key.memberKey = memberKey) attempts).symm
  intro a u made
  obtain ⟨upshot, -, rfl⟩ := Option.map_eq_some_iff.1 made
  rfl

end Outlet

/-! ## Other members beside an attempt -/

/-- A refusal does not look at the participants of an event. -/
def BlindToParticipants (refusal : NewEvent → Option StoreError) : Prop :=
  ∀ (event : NewEvent) (participants : List Participant),
    refusal { event with participants } = refusal event

/-- An upshot with no participants in its event. -/
def Upshot.unattended : Upshot → Upshot
  | .skipped reason => .skipped reason
  | .refused event error => .refused { event with participants := [] } error
  | .accepted event => .accepted { event with participants := [] }

namespace Attempt

/-- The attempt, with other current members of the group. -/
def among (members : List Participant) (a : Attempt) : Attempt := { a with allMembers := members }

theorem key_among (members : List Participant) (a : Attempt) : (a.among members).key = a.key := rfl

theorem offerFrom_among (members : List Participant) (a : Attempt) (offset : UtcOffset)
    (now base : Instant) :
    (a.among members).offerFrom offset now base =
      (a.offerFrom offset now base).map fun offer =>
        { offer with
          event := { offer.event with participants := (a.among members).participants } } := by
  have admits : ∀ context, (a.among members).admits offset context = a.admits offset context :=
    fun _ => rfl
  have spec : (a.among members).rule.spec = a.rule.spec := rfl
  have context : (a.among members).context offset now base = a.context offset now base := rfl
  unfold offerFrom
  rw [context]
  dsimp only
  rw [admits, spec]
  split
  · split <;> rfl
  · rfl

/-- The other members go into the participants and nowhere else. -/
theorem prepare_among (members : List Participant) (a : Attempt) (offset : UtcOffset)
    (now : Instant) :
    (a.among members).prepare offset now =
      (a.prepare offset now).map fun prepared => prepared.map fun offer =>
        { offer with
          event := { offer.event with participants := (a.among members).participants } } := by
  have base : (a.among members).base offset now = a.base offset now := rfl
  rw [prepare, prepare, base]
  rcases a.base offset now with crash | reason | base
  · rfl
  · rfl
  · exact congrArg Except.ok (offerFrom_among members a offset now base)

theorem participants_among {a : Attempt} (link : a.rule.spec.memberLink ≠ .allMembers)
    (members : List Participant) : (a.among members).participants = a.participants := by
  unfold participants
  have spec : (a.among members).rule.spec = a.rule.spec := rfl
  rw [spec]
  cases which : a.rule.spec.memberLink with
  | none => rfl
  | entity => rfl
  | allMembers => exact absurd which link

theorem participants_of_prepare {a : Attempt} {offset : UtcOffset} {now : Instant} {offer : Offer}
    (prepared : a.prepare offset now = .ok (.ok offer)) :
    offer.event.participants = a.participants := by
  obtain ⟨base, extent, -, -, -, rfl⟩ := prepare_eq_ok prepared
  rfl

variable {refusal : NewEvent → Option StoreError}

/-- A rule that does not ask for all members makes the same of an attempt among others. -/
theorem upshot?_among {a : Attempt} (link : a.rule.spec.memberLink ≠ .allMembers)
    (members : List Participant) (offset : UtcOffset) (now : Instant) :
    (a.among members).upshot? refusal offset now = a.upshot? refusal offset now := by
  unfold upshot?
  rw [prepare_among, participants_among link]
  rcases prepared : a.prepare offset now with crash | reason | offer
  · rfl
  · rfl
  · rw [← participants_of_prepare prepared]
    rfl

/-- A rule that does makes the same but for the participants. -/
theorem unattended_among (blind : BlindToParticipants refusal) (a : Attempt)
    (members : List Participant) (offset : UtcOffset) (now : Instant) :
    ((a.among members).upshot? refusal offset now).map Upshot.unattended =
      (a.upshot? refusal offset now).map Upshot.unattended := by
  unfold upshot?
  rw [prepare_among]
  rcases a.prepare offset now with crash | reason | offer
  · rfl
  · rfl
  · have same := blind offer.event (a.among members).participants
    simp only [Except.map, Option.map_some, Upshot.of, same]
    cases refusal offer.event <;> rfl

/-- Which attempts are passed over does not depend on the other members. -/
theorem firsts_among (members : List Participant) (attempts : List Attempt) :
    firsts (attempts.map (among members)) = (firsts attempts).map (among members) := by
  induction attempts with
  | nil => rfl
  | cons a rest ih =>
      rw [List.map_cons, firsts, firsts, ih, List.filter_map, List.map_cons]
      rfl

end Attempt

namespace Registry

/-- Whether the group rule of a key has all members take part. -/
def linksAll (registry : Registry) (key : AttemptId) : Bool :=
  match registry.resolve? .group key.ruleId with
  | some r => r.spec.memberLink = .allMembers
  | none => false

/-- What came of an attempt, without the participants where all members take part. -/
def setAside (registry : Registry) (u : AttemptId × Upshot) : AttemptId × Upshot :=
  if registry.linksAll u.1 then (u.1, u.2.unattended) else u

variable {known : Catalogs} {rules : List Rule} {registry : Registry}

theorem setAside_among (built : build known rules = .ok registry)
    {refusal : NewEvent → Option StoreError} (blind : BlindToParticipants refusal) {a : Attempt}
    (accepted : a.rule ∈ accepted known rules) (scope : a.rule.spec.scope = .group)
    (members : List Participant) (offset : UtcOffset) (now : Instant) :
    ((a.among members).upshot? refusal offset now).map
        (fun u => registry.setAside ((a.among members).key, u)) =
      (a.upshot? refusal offset now).map fun u => registry.setAside (a.key, u) := by
  have found : registry.resolve? .group a.key.ruleId = some a.rule := by
    have resolved := resolve?_of_build built accepted
    rwa [scope] at resolved
  rw [Attempt.key_among]
  by_cases link : a.rule.spec.memberLink = .allMembers
  · have all : registry.linksAll a.key = true := by
      rw [linksAll, found]
      simpa using link
    have aside : (fun u => registry.setAside (a.key, u)) =
        fun u => (a.key, Upshot.unattended u) := by
      funext u
      simp only [setAside, all, if_true]
    rw [aside]
    have same := congrArg (Option.map (Prod.mk a.key))
      (Attempt.unattended_among blind a members offset now)
    simpa only [Option.map_map, Function.comp_def] using same
  · rw [Attempt.upshot?_among link]

end Registry

/-! ## The listing, member by member -/

namespace KeyedMember

/-- Where key texts are distinct, to hold the same record under a text, or none, is to hold
the same members of that text. -/
theorem filter_congr_of_nodup {members members' : List KeyedMember}
    (distinct : (members.map key).Nodup) (distinct' : (members'.map key).Nodup) {text : String}
    (same : ∀ record, ⟨text, record⟩ ∈ members ↔ ⟨text, record⟩ ∈ members') :
    members.filter (fun m => m.key = text) = members'.filter fun m => m.key = text := by
  by_cases held : ∃ record, (⟨text, record⟩ : KeyedMember) ∈ members
  · obtain ⟨record, here⟩ := held
    rw [filter_key_eq_singleton distinct here,
      filter_key_eq_singleton distinct' ((same record).1 here)]
  · have none : ∀ {list : List KeyedMember}, (∀ record, ⟨text, record⟩ ∉ list) →
        list.filter (fun m => m.key = text) = [] := by
      intro list absent
      rw [List.filter_eq_nil_iff]
      intro m member named
      obtain ⟨key, record⟩ := m
      obtain rfl : key = text := by simpa using named
      exact absent record member
    rw [none fun record here => held ⟨record, here⟩,
      none fun record here => held ⟨record, (same record).2 here⟩]

end KeyedMember

namespace Source

theorem pairs_among (source : Source) (rules : List RegisteredRule) (scope : Scope)
    (target : Target) (fields : FieldTable) (member : Option MemberChange)
    (all all' : List Participant) (before after : Record) :
    source.pairs rules scope target fields member all' before after =
      (source.pairs rules scope target fields member all before after).map
        (Attempt.among all') := by
  rw [pairs, pairs, List.map_flatMap]
  simp only [List.map_map]
  rfl

theorem memberKey_of_mem_pairs {source : Source} {rules : List RegisteredRule} {scope : Scope}
    {target : Target} {fields : FieldTable} {member : Option MemberChange}
    {all : List Participant} {before after : Record} {a : Attempt}
    (paired : a ∈ source.pairs rules scope target fields member all before after) :
    a.key.memberKey = member.map MemberChange.key := by
  obtain ⟨field, -, r, -, -, rfl⟩ := of_mem_pairs paired
  rfl

/-- The pairs of one member, or of the record, are taken by its key as a whole. -/
theorem filter_pairs (source : Source) (rules : List RegisteredRule) (scope : Scope)
    (target : Target) (fields : FieldTable) (member : Option MemberChange)
    (all : List Participant) (before after : Record) (memberKey : Option String) :
    (source.pairs rules scope target fields member all before after).filter
        (fun a => a.key.memberKey = memberKey) =
      if member.map MemberChange.key = memberKey then
        source.pairs rules scope target fields member all before after
      else [] := by
  split
  · rename_i same
    rw [List.filter_eq_self]
    intro a paired
    simpa [memberKey_of_mem_pairs paired] using same
  · rename_i differ
    rw [List.filter_eq_nil_iff]
    intro a paired
    simpa [memberKey_of_mem_pairs paired] using differ

end Source

namespace GroupWrite

/-- The same save of the group, with other lists of members before and after. -/
def withMembers (w : GroupWrite) (next previous : Option (List Record)) : GroupWrite :=
  { w with nextMembers := next, previousMembers := previous }

/-- Two saves of a group hold the same under a key text: the same members before, and the
same after. -/
structure Agree (w w' : GroupWrite) (catalog : FieldCatalog) (text : String) : Prop where
  current : (w.current catalog).filter (fun m => m.key = text) =
    (w'.current catalog).filter fun m => m.key = text
  former : (w.former catalog).filter (fun m => m.key = text) =
    (w'.former catalog).filter fun m => m.key = text

/-- The key texts of the members of a saved group are distinct, before and after. -/
structure Distinct (w : GroupWrite) (catalog : FieldCatalog) : Prop where
  current : ((w.current catalog).map KeyedMember.key).Nodup
  former : ((w.former catalog).map KeyedMember.key).Nodup

/-- Two saves of a group hold the same record under a key text, or none: the same after, and
the same before. -/
structure Keeps (w w' : GroupWrite) (catalog : FieldCatalog) (text : String) : Prop where
  current : ∀ record, ⟨text, record⟩ ∈ w.current catalog ↔ ⟨text, record⟩ ∈ w'.current catalog
  former : ∀ record, ⟨text, record⟩ ∈ w.former catalog ↔ ⟨text, record⟩ ∈ w'.former catalog

theorem Agree.keeps {w w' : GroupWrite} {catalog : FieldCatalog} {text : String}
    (agree : w.Agree w' catalog text) : w.Keeps w' catalog text := by
  have held : ∀ {list : List KeyedMember} {record : Record}, ⟨text, record⟩ ∈ list ↔
      (⟨text, record⟩ : KeyedMember) ∈ list.filter fun m => m.key = text := by
    intro list record
    simp
  constructor <;> intro record
  · rw [held, agree.current, ← held]
  · rw [held, agree.former, ← held]

/-- Where key texts are distinct, it does not matter where in the lists a member stands. -/
theorem Keeps.agree {w w' : GroupWrite} {catalog : FieldCatalog} {text : String}
    (keeps : w.Keeps w' catalog text) (distinct : w.Distinct catalog)
    (distinct' : w'.Distinct catalog) : w.Agree w' catalog text where
  current := KeyedMember.filter_congr_of_nodup distinct.current distinct'.current keeps.current
  former := KeyedMember.filter_congr_of_nodup distinct.former distinct'.former keeps.former

theorem filter_memberPairs (w : GroupWrite) (members : MemberCatalog)
    (rules : List RegisteredRule) (text : String) :
    (w.memberPairs members rules).filter (fun a => a.key.memberKey = some text) =
      ((members.listed w.nextMembers w.next).filter fun m => m.key = text).flatMap fun m =>
        w.source.pairs rules .group .member members.fields (some (w.listedChange members m))
          (w.listedParticipants members) (w.listedChange members m).before
          (w.listedChange members m).after := by
  rw [memberPairs, List.filter_flatMap]
  simp only [Source.filter_pairs]
  rw [← flatMap_filter_of_nil]
  · apply List.flatMap_congr
    intro m listed
    have named : m.key = text := by simpa using (List.mem_filter.1 listed).2
    exact if_pos (congrArg some named)
  · intro m _ other
    have differ : m.key ≠ text := by simpa using other
    exact if_neg fun same => differ (Option.some.inj same)

/-- Under a key text that two saves agree on they pair the same, among their own members. -/
theorem memberPairs_withMembers (w : GroupWrite) (next previous : Option (List Record))
    {catalog : FieldCatalog} {members : MemberCatalog} (described : catalog.members = some members)
    {text : String} (agree : w.Agree (w.withMembers next previous) catalog text)
    (rules : List RegisteredRule) :
    ((w.withMembers next previous).memberPairs members rules).filter
        (fun a => a.key.memberKey = some text) =
      ((w.memberPairs members rules).filter fun a => a.key.memberKey = some text).map
        (Attempt.among ((w.withMembers next previous).listedParticipants members)) := by
  obtain ⟨current, former⟩ := agree
  rw [current_eq_listed _ described, current_eq_listed _ described] at current
  rw [former_eq_listed _ described, former_eq_listed _ described] at former
  rw [filter_memberPairs, filter_memberPairs, ← current, List.map_flatMap]
  apply List.flatMap_congr
  intro m listed
  have named : m.key = text := by simpa using (List.mem_filter.1 listed).2
  have change :
      (w.withMembers next previous).listedChange members m = w.listedChange members m := by
    simp only [listedChange, KeyedMember.lastRecord, named, former]
    rfl
  rw [change]
  exact Source.pairs_among _ _ _ _ _ _ _ _ _ _

theorem filter_pairs_none (w : GroupWrite) (catalog : FieldCatalog)
    (rules : List RegisteredRule) :
    (w.pairs catalog rules).filter (fun a => a.key.memberKey = none) =
      w.recordPairs catalog rules := by
  have onRecord : (w.recordPairs catalog rules).filter (fun a => a.key.memberKey = none) =
      w.recordPairs catalog rules := by
    rw [recordPairs, Source.filter_pairs, if_pos (by rfl)]
  have onMembers : ∀ members,
      (w.memberPairs members rules).filter (fun a => a.key.memberKey = none) = [] := by
    intro members
    rw [memberPairs, List.filter_flatMap, List.flatMap_eq_nil_iff]
    intro m _
    rw [Source.filter_pairs, if_neg (by simp)]
  rw [pairs, List.filter_append, onRecord]
  cases catalog.members with
  | none => simp
  | some members => rw [onMembers, List.append_nil]

theorem filter_pairs_some (w : GroupWrite) (catalog : FieldCatalog)
    (rules : List RegisteredRule) (text : String) :
    (w.pairs catalog rules).filter (fun a => a.key.memberKey = some text) =
      match catalog.members with
      | none => []
      | some members =>
          (w.memberPairs members rules).filter fun a => a.key.memberKey = some text := by
  have onRecord :
      (w.recordPairs catalog rules).filter (fun a => a.key.memberKey = some text) = [] := by
    rw [recordPairs, Source.filter_pairs, if_neg (by simp)]
  rw [pairs, List.filter_append, onRecord, List.nil_append]
  cases catalog.members <;> rfl

/-- For the record, and for each member that two saves agree on, they pair the same, each
among its own members. -/
theorem pairs_withMembers (w : GroupWrite) (next previous : Option (List Record))
    (catalog : FieldCatalog) (rules : List RegisteredRule) {memberKey : Option String}
    (agree : ∀ text, memberKey = some text →
      w.Agree (w.withMembers next previous) catalog text) :
    ((w.withMembers next previous).pairs catalog rules).filter
        (fun a => a.key.memberKey = memberKey) =
      ((w.pairs catalog rules).filter fun a => a.key.memberKey = memberKey).map
        (Attempt.among
          ((catalog.members.map (w.withMembers next previous).listedParticipants).getD [])) := by
  cases memberKey with
  | none =>
      rw [filter_pairs_none, filter_pairs_none]
      exact Source.pairs_among _ _ _ _ _ _ _ _ _ _
  | some text =>
      rw [filter_pairs_some, filter_pairs_some]
      cases described : catalog.members with
      | none => rfl
      | some members =>
          exact w.memberPairs_withMembers next previous described (agree text rfl) rules

theorem listing_withMembers (w : GroupWrite) (next previous : Option (List Record))
    (catalogs : Catalogs) (rules : List RegisteredRule) {memberKey : Option String}
    (agree : ∀ text, memberKey = some text → ∀ catalog,
      catalogs.record? w.recordType = some catalog →
        w.Agree (w.withMembers next previous) catalog text) :
    ∃ all, ((w.withMembers next previous).listing catalogs rules).filter
        (fun a => a.key.memberKey = memberKey) =
      ((w.listing catalogs rules).filter fun a => a.key.memberKey = memberKey).map
        (Attempt.among all) := by
  have type : (w.withMembers next previous).recordType = w.recordType := rfl
  unfold listing
  rw [type]
  cases described : catalogs.record? w.recordType with
  | none => exact ⟨[], rfl⟩
  | some catalog =>
      refine ⟨(catalog.members.map (w.withMembers next previous).listedParticipants).getD [], ?_⟩
      dsimp only
      rw [List.filter_comm, w.pairs_withMembers next previous catalog rules fun text named =>
        agree text named catalog described, List.filter_map, List.filter_comm]
      rfl

end GroupWrite

/-! ## A dispatch -/

section Memberwise

variable {known : Catalogs} {rules : List Rule} {registry : Registry}

/-- What comes of the record, or of the members under a key text, when two saves agree there and
neither dispatch crashes. -/
theorem Engine.upshots_withMembers (built : Registry.build known rules = .ok registry)
    {σ η : Type} (catalogs : Catalogs) (offset : UtcOffset) {outlet : Outlet σ η}
    {refusal : NewEvent → Option StoreError} (refuses : outlet.store.RefusesBy refusal)
    (blind : BlindToParticipants refusal) (now : Instant) (state state' : σ × η) (w : GroupWrite)
    (next previous : Option (List Record)) {memberKey : Option String}
    (agree : ∀ text, memberKey = some text → ∀ catalog,
      catalogs.record? w.recordType = some catalog →
        w.Agree (w.withMembers next previous) catalog text)
    (returns : ((Engine.mk registry catalogs offset).fireGroup outlet now state w).1.crash = none)
    (returns' : ((Engine.mk registry catalogs offset).fireGroup outlet now state'
      (w.withMembers next previous)).1.crash = none) :
    (((Engine.mk registry catalogs offset).fireGroup outlet now state' (w.withMembers next
        previous)).1.journal.upshots memberKey).map registry.setAside =
      (((Engine.mk registry catalogs offset).fireGroup outlet now state w).1.journal.upshots
        memberKey).map registry.setAside := by
  have run : ∀ (state : σ × η) (w : GroupWrite),
      ((Engine.mk registry catalogs offset).fireGroup outlet now state w).1.crash = none →
      ((Engine.mk registry catalogs offset).fireGroup outlet now state w).1.journal.upshots
          memberKey =
        (Attempt.firsts ((w.listing catalogs (Registry.accepted known rules)).filter fun a =>
          a.key.memberKey = memberKey)).filterMap
            fun a => (a.upshot? refusal offset now).map (Prod.mk a.key) := by
    intro state w returns
    have stand := ((Engine.mk registry catalogs offset).crash_fire outlet now state
      (.group w)).1 returns
    have seen : (Engine.mk registry catalogs offset).fireGroup outlet now state w = _ :=
      (Engine.mk registry catalogs offset).fire_eq_seeThrough outlet now state (.group w)
    rw [seen, Outlet.upshots_seeThrough refuses state stand, SavedWrite.attempts_eq_listing built,
      Attempt.firsts_filter fun key => key.memberKey = memberKey]
    rfl
  obtain ⟨all, listed⟩ := w.listing_withMembers next previous catalogs
    (Registry.accepted known rules) agree
  rw [run state w returns, run state' _ returns', listed, Attempt.firsts_among,
    List.filterMap_map, List.map_filterMap, List.map_filterMap]
  apply List.filterMap_congr
  intro a first
  have mine := List.mem_of_mem_filter ((Attempt.firsts_sublist _).subset first)
  obtain ⟨accepted, scope⟩ := GroupWrite.rule_of_mem_listing mine
  simpa only [Option.map_map, Function.comp_def] using
    Registry.setAside_among built blind accepted scope all offset now

/-- **Members have no say in one another, short of a crash.**  Save a group twice, alike but for
the lists of members, in each of which the key texts are distinct.  For every registry that was
built, any catalogs, offset, instant and hook, and any store that refuses events by what they are,
participants aside: the attempts on a member whose records before and after are the same both
times, or absent both times, come out the same and in the same order -- what is skipped and
why, what is offered, what is refused and how -- but for the ids, and for the participants
where all members take part.  So do the attempts on the record of the group.  The one exception
is a dispatch that crashes: that may be for another member. -/
theorem Engine.fireGroup_memberwise (built : Registry.build known rules = .ok registry)
    {σ η : Type} (catalogs : Catalogs) (offset : UtcOffset) {outlet : Outlet σ η}
    {refusal : NewEvent → Option StoreError} (refuses : outlet.store.RefusesBy refusal)
    (blind : BlindToParticipants refusal) (now : Instant) (state state' : σ × η) (w : GroupWrite)
    (next previous : Option (List Record))
    (distinct : ∀ catalog, catalogs.record? w.recordType = some catalog →
      w.Distinct catalog ∧ (w.withMembers next previous).Distinct catalog)
    (returns : ((Engine.mk registry catalogs offset).fireGroup outlet now state w).1.crash = none)
    (returns' : ((Engine.mk registry catalogs offset).fireGroup outlet now state'
      (w.withMembers next previous)).1.crash = none) :
    let run := ((Engine.mk registry catalogs offset).fireGroup outlet now state w).1.journal
    let run' := ((Engine.mk registry catalogs offset).fireGroup outlet now state'
      (w.withMembers next previous)).1.journal
    (∀ text, (∀ catalog, catalogs.record? w.recordType = some catalog →
        w.Keeps (w.withMembers next previous) catalog text) →
      (run'.upshots (some text)).map registry.setAside =
        (run.upshots (some text)).map registry.setAside) ∧
      (run'.upshots none).map registry.setAside = (run.upshots none).map registry.setAside := by
  intro run run'
  constructor
  · intro text keeps
    refine Engine.upshots_withMembers built catalogs offset refuses blind now state state' w next
      previous ?_ returns returns'
    intro text' named catalog described
    cases named
    obtain ⟨here, there⟩ := distinct catalog described
    exact (keeps catalog described).agree here there
  · refine Engine.upshots_withMembers built catalogs offset refuses blind now state state' w next
      previous ?_ returns returns'
    intro text named
    cases named

end Memberwise

namespace Example

/-- Two rules on the roles of a crew: one has nobody take part, the other has all. -/
def roleRules : List Rule :=
  let role := rule "role" true .group "crew" .member "role"
  let meet := rule "meet" true .group "crew" .member "role"
  [role, { meet with spec := { meet.spec with memberLink := .allMembers } }]

/-- The registry of these rules. -/
def roleRegistry : Registry := .ofRules catalogs (Registry.enabled roleRules)

theorem roles_built : Registry.build catalogs roleRules = .ok roleRegistry := by
  refine Registry.build_eq_ok.2 ⟨?_, ?_, rfl⟩ <;> decide

/-- A crew of two, of which the second is new. -/
def pair : GroupWrite where
  recordType := "crew"
  id := "c-1"
  actorId := "u-1"
  next := [("lead", .text "ann")]
  previous := none
  nextMembers := some [[("id", .text "1"), ("role", .text "b")], [("id", .text "2")]]
  previousMembers := some [[("id", .text "1"), ("role", .text "a")]]

/-- Other members of the crew, now and before. -/
def others : List Record × List Record :=
  ([[("id", .text "3"), ("role", .text "c")], [("id", .text "1"), ("role", .text "b")]],
    [[("id", .text "2")], [("id", .text "1"), ("role", .text "a")]])

/-- Who takes part in the event that an attempt offered. -/
def company (u : AttemptId × Upshot) : List Participant :=
  match u.2 with
  | .skipped _ => []
  | .refused event _ => event.participants
  | .accepted event => event.participants

/-- The member that stays meets others, and nothing else of what becomes of it differs. -/
theorem pair_memberwise :
    let outlet : Outlet Nat Unit := ⟨butRole, none⟩
    let fired := ((Engine.mk roleRegistry catalogs .utc).fireGroup outlet .epoch (0, ()) pair).1
    let fired' := ((Engine.mk roleRegistry catalogs .utc).fireGroup outlet .epoch (7, ())
      (pair.withMembers (some others.1) (some others.2))).1
    fired.crash = none ∧ fired'.crash = none ∧
      (fired'.journal.upshots (some "1")).map roleRegistry.setAside =
        (fired.journal.upshots (some "1")).map roleRegistry.setAside ∧
      (fired.journal.upshots (some "1")).map Prod.fst =
        [⟨"role", "role", some "1"⟩, ⟨"meet", "role", some "1"⟩] ∧
      (fired.journal.upshots (some "1")).map company =
        [[], [⟨"crew.member", "1"⟩, ⟨"crew.member", "2"⟩]] ∧
      (fired'.journal.upshots (some "1")).map company =
        [[], [⟨"crew.member", "3"⟩, ⟨"crew.member", "1"⟩]] := by
  intro outlet fired fired'
  have returns : fired.crash = none := by decide +revert
  have returns' : fired'.crash = none := by
    clear returns
    decide +revert
  have keys : (fired.journal.upshots (some "1")).map Prod.fst =
      [⟨"role", "role", some "1"⟩, ⟨"meet", "role", some "1"⟩] := by
    clear returns returns'
    decide +revert
  have before : (fired.journal.upshots (some "1")).map company =
      [[], [⟨"crew.member", "1"⟩, ⟨"crew.member", "2"⟩]] := by
    clear returns returns' keys
    decide +revert
  have after : (fired'.journal.upshots (some "1")).map company =
      [[], [⟨"crew.member", "3"⟩, ⟨"crew.member", "1"⟩]] := by
    clear returns returns' keys before
    decide +revert
  have refuses : outlet.store.RefusesBy _ := butRole_refuses
  have distinct : ∀ catalog, catalogs.record? pair.recordType = some catalog →
      pair.Distinct catalog ∧
        (pair.withMembers (some others.1) (some others.2)).Distinct catalog := by
    intro catalog described
    cases described
    exact ⟨⟨by decide, by decide⟩, ⟨by decide, by decide⟩⟩
  have kept : ∀ catalog, catalogs.record? pair.recordType = some catalog →
      pair.Keeps (pair.withMembers (some others.1) (some others.2)) catalog "1" := by
    intro catalog described
    cases described
    exact GroupWrite.Agree.keeps ⟨by decide, by decide⟩
  obtain ⟨same, -⟩ := Engine.fireGroup_memberwise roles_built catalogs .utc refuses
    (fun _ _ => rfl) .epoch (0, ()) (7, ()) pair (some others.1) (some others.2) distinct returns
    returns'
  exact ⟨returns, returns', same "1" kept, keys, before, after⟩

/-- A rule on the roles of members that is dated by the day of the dispatch, and one on the date
until which a member stays that is dated by it. -/
def untilRules : List Rule :=
  [rule "role" true .group "crew" .member "role",
    byField (rule "leave" true .group "crew" .member "until")]

/-- The registry of these rules. -/
def untilRegistry : Registry := .ofRules catalogs (Registry.enabled untilRules)

/-- A crew of one, who leaves. -/
def leaver : GroupWrite where
  recordType := "crew"
  id := "c-1"
  actorId := "u-1"
  next := []
  previous := none
  nextMembers := some [[("id", .text "1"), ("until", .date .epoch)]]
  previousMembers := some []

/-- The same one, after another who has a role. -/
def joined : List Record :=
  [[("id", .text "2"), ("role", .text "b")], [("id", .text "1"), ("until", .date .epoch)]]

/-- In the first hour of the calendar, an hour west of UTC, the one with a role takes away the
event of the one who leaves. -/
theorem leaver_suppressed :
    let outlet : Outlet Nat Unit := ⟨butRole, none⟩
    let engine := Engine.mk untilRegistry catalogs hourWest
    let fired := (engine.fireGroup outlet .first (0, ()) leaver).1
    let fired' := (engine.fireGroup outlet .first (0, ())
      (leaver.withMembers (some joined) (some []))).1
    Registry.build catalogs untilRules = .ok untilRegistry ∧
      (∃ catalog, catalogs.record? leaver.recordType = some catalog ∧ leaver.Distinct catalog ∧
        (leaver.withMembers (some joined) (some [])).Distinct catalog ∧
        leaver.Keeps (leaver.withMembers (some joined) (some [])) catalog "1") ∧
      (fired.journal.upshots (some "1")).map Prod.fst = [⟨"leave", "until", some "1"⟩] ∧
      fired'.journal.upshots (some "1") = [] ∧ fired'.report? = none := by
  refine ⟨?_, ⟨_, rfl, ?_, ?_, ?_⟩, ?_, ?_, ?_⟩
  · refine Registry.build_eq_ok.2 ⟨?_, ?_, rfl⟩ <;> decide
  · exact ⟨by decide, by decide⟩
  · exact ⟨by decide, by decide⟩
  · exact GroupWrite.Agree.keeps ⟨by decide, by decide⟩
  all_goals decide

end Example
end EventRules
