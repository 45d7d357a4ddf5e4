/-
# EventRules.Proofs.Registry.Faults -- which rules fit, and what is said of the others

`RuleSpec.Fits` says what the catalogs ask of a rule; `RuleSpec.Violates` says, flaw by
flaw, when it is short of it.  Neither follows the order of the checks or the places
where a check is given up because an earlier one failed.

* `RuleSpec.mem_flaws`: the flaws that are found are exactly those that are there.
* `RuleSpec.flaws_ordered`: they come in one order, none twice.
* `RuleSpec.flaws_eq_nil`: there is none exactly when the rule fits.
* `Registry.violations_eq_reported`: a list of rules is reported rule by rule, a rule
  whose scope and id stand before it only as a duplicate.

A watched field that cannot be looked up because its type has no members goes unreported
in an entity rule; such a rule never fits, since it asks for members at all.
-/
import EventRules.Proofs.Registry.Acceptance
import Mathlib.Data.List.Infix
namespace EventRules

set_option autoImplicit false

/-! ## What is asked of a rule -/

/-- A catalog declares a field of its records, or of their members, as of a kind. -/
def FieldCatalog.Declares (catalog : FieldCatalog) (target : Target) (field : String)
    (kind : FieldKind) : Prop :=
  match target with
  | .record => catalog.fields.kind? field = some kind
  | .member => ∃ members, catalog.members = some members ∧ members.fields.kind? field = some kind

/-- A number of days that is unset or lies between zero and one hundred years. -/
def DaysInRange (days : Option Int) : Prop := ∀ n ∈ days, 0 ≤ n ∧ n ≤ 36500

namespace RuleSpec

/-- The body of a rule fits the catalogs. -/
structure Fits (catalogs : Catalogs) (spec : RuleSpec) : Prop where
  /-- The field is declared for the type, and as a date when the event is dated by it. -/
  declared : ∃ catalog kind, catalogs.record? spec.sourceType = some catalog ∧
    catalog.Declares spec.target spec.field kind ∧ (spec.timeSource = .field → kind = .date)
  permitted : ∃ type, catalogs.eventType? spec.eventType = some type ∧
    spec.timeKind ∈ type.timeKinds
  interval : DaysInRange spec.intervalDays
  beforeDays : DaysInRange spec.visibility.beforeDays
  afterDays : DaysInRange spec.visibility.afterDays
  /-- An entity rule asks for nothing that only groups have. -/
  entity : spec.scope = .entity →
    spec.target = .record ∧ spec.groupLink = .none ∧ spec.memberLink ≠ .allMembers

/-- The body of a rule has a flaw, which is reported with a name that may have been meant. -/
inductive Violates (catalogs : Catalogs) (spec : RuleSpec) : Finding → Prop
  | memberTarget (scope : spec.scope = .entity) (target : spec.target = .member) :
      Violates catalogs spec (.memberTargetOnEntity, none)
  | groupLink (scope : spec.scope = .entity) (link : spec.groupLink = .attach) :
      Violates catalogs spec (.groupLinkOnEntity, none)
  | allMembers (scope : spec.scope = .entity) (link : spec.memberLink = .allMembers) :
      Violates catalogs spec (.allMembersOnEntity, none)
  | interval (n : Int) (set : spec.intervalDays = some n) (outside : n < 0 ∨ 36500 < n) :
      Violates catalogs spec (.dayOffsetOutOfRange "interval_days" n, none)
  | beforeDays (n : Int) (set : spec.visibility.beforeDays = some n)
      (outside : n < 0 ∨ 36500 < n) :
      Violates catalogs spec (.dayOffsetOutOfRange "visibility.before_days" n, none)
  | afterDays (n : Int) (set : spec.visibility.afterDays = some n)
      (outside : n < 0 ∨ 36500 < n) :
      Violates catalogs spec (.dayOffsetOutOfRange "visibility.after_days" n, none)
  | sourceType (unknown : catalogs.record? spec.sourceType = none) :
      Violates catalogs spec (.unknownSourceType spec.sourceType,
        Suggestion.closest spec.sourceType catalogs.recordTypes)
  | memberCatalog (catalog : FieldCatalog)
      (known : catalogs.record? spec.sourceType = some catalog) (scope : spec.scope = .group)
      (target : spec.target = .member) (memberless : catalog.members = none) :
      Violates catalogs spec (.noMemberCatalog spec.sourceType, none)
  | recordField (catalog : FieldCatalog)
      (known : catalogs.record? spec.sourceType = some catalog) (target : spec.target = .record)
      (undeclared : catalog.fields.kind? spec.field = none) :
      Violates catalogs spec (.unknownField catalog.recordType spec.field,
        Suggestion.closest spec.field catalog.fields.keys)
  | memberField (catalog : FieldCatalog) (members : MemberCatalog)
      (known : catalogs.record? spec.sourceType = some catalog) (target : spec.target = .member)
      (described : catalog.members = some members)
      (undeclared : members.fields.kind? spec.field = none) :
      Violates catalogs spec
        (.unknownField (catalog.recordType ++ "." ++ members.listField) spec.field,
          Suggestion.closest spec.field members.fields.keys)
  | notDate (catalog : FieldCatalog) (kind : FieldKind)
      (known : catalogs.record? spec.sourceType = some catalog)
      (declared : catalog.Declares spec.target spec.field kind)
      (dated : spec.timeSource = .field) (other : kind ≠ .date) :
      Violates catalogs spec (.fieldNotDate spec.field kind, none)
  | eventType (unknown : catalogs.eventType? spec.eventType = none) :
      Violates catalogs spec (.unknownEventType spec.eventType,
        Suggestion.closest spec.eventType catalogs.eventTypeNames)
  | timeKind (type : EventType) (known : catalogs.eventType? spec.eventType = some type)
      (refused : spec.timeKind ∉ type.timeKinds) :
      Violates catalogs spec (.timeKindNotPermitted spec.eventType spec.timeKind, none)

end RuleSpec

/-! ## The field that is looked up -/

namespace FieldCatalog

variable {catalog : FieldCatalog} {target : Target} {field : String}

/-- The fields that are looked up declare what the catalog declares. -/
theorem declares_of_watched {name : String} {fields : FieldTable}
    (watched : catalog.watched target = some (name, fields)) (kind : FieldKind) :
    catalog.Declares target field kind ↔ fields.kind? field = some kind := by
  cases target with
  | record =>
      cases watched
      exact Iff.rfl
  | member =>
      obtain ⟨members, described, same⟩ := Option.map_eq_some_iff.1 watched
      cases same
      simp [Declares, described]

theorem watched_eq_none :
    catalog.watched target = none ↔ target = .member ∧ catalog.members = none := by
  cases target <;> simp [watched]

theorem Declares.unique {kind kind' : FieldKind} (declared : catalog.Declares target field kind)
    (declared' : catalog.Declares target field kind') : kind = kind' := by
  cases target with
  | record => exact Option.some.inj (declared.symm.trans declared')
  | member =>
      obtain ⟨members, described, listed⟩ := declared
      obtain ⟨members', described', listed'⟩ := declared'
      cases described.symm.trans described'
      exact Option.some.inj (listed.symm.trans listed')

theorem not_declares_of_unwatched (unwatched : catalog.watched target = none) (kind : FieldKind) :
    ¬catalog.Declares target field kind := by
  obtain ⟨rfl, memberless⟩ := watched_eq_none.1 unwatched
  simp [Declares, memberless]

end FieldCatalog

/-! ## Each check finds its own flaws -/

namespace RuleSpec

variable {catalogs : Catalogs} {spec : RuleSpec} {finding : Finding}

theorem mem_scopeFlaws :
    finding ∈ spec.scopeFlaws ↔ spec.scope = .entity ∧
      ((spec.target = .member ∧ finding = (.memberTargetOnEntity, none)) ∨
        (spec.groupLink = .attach ∧ finding = (.groupLinkOnEntity, none)) ∨
        (spec.memberLink = .allMembers ∧ finding = (.allMembersOnEntity, none))) := by
  by_cases entity : spec.scope = .entity
  · simp [scopeFlaws, entity, List.mem_ite_nil_right]
  · simp [scopeFlaws, entity]

theorem mem_dayFlaws {setting : String} {days : Option Int} :
    finding ∈ dayFlaws setting days ↔ ∃ n, days = some n ∧ (n < 0 ∨ 36500 < n) ∧
      finding = (.dayOffsetOutOfRange setting n, none) := by
  cases days with
  | none => simp [dayFlaws]
  | some n =>
      by_cases inside : 0 ≤ n ∧ n ≤ 36500
      · have within : ¬(n < 0 ∨ 36500 < n) := by omega
        simp [dayFlaws, maxDayOffset, inside, within]
      · have outside : n < 0 ∨ 36500 < n := by omega
        simp [dayFlaws, maxDayOffset, inside, outside]

theorem mem_fieldFlaws :
    finding ∈ spec.fieldFlaws catalogs ↔
      (catalogs.record? spec.sourceType = none ∧
        finding = (.unknownSourceType spec.sourceType,
          Suggestion.closest spec.sourceType catalogs.recordTypes)) ∨
      ∃ catalog, catalogs.record? spec.sourceType = some catalog ∧
        ((catalog.watched spec.target = none ∧ spec.scope = .group ∧
            finding = (.noMemberCatalog spec.sourceType, none)) ∨
          ∃ name fields, catalog.watched spec.target = some (name, fields) ∧
            finding ∈ spec.tableFlaws name fields) := by
  unfold fieldFlaws
  cases catalogs.record? spec.sourceType with
  | none => simp
  | some catalog =>
      cases looked : catalog.watched spec.target with
      | none => cases scope : spec.scope <;> simp [looked]
      | some found =>
          obtain ⟨name, fields⟩ := found
          simp [looked]

theorem mem_tableFlaws {name : String} {fields : FieldTable} :
    finding ∈ spec.tableFlaws name fields ↔
      (fields.kind? spec.field = none ∧
        finding = (.unknownField name spec.field, Suggestion.closest spec.field fields.keys)) ∨
      ∃ kind, fields.kind? spec.field = some kind ∧ (spec.timeSource = .field ∧ kind ≠ .date) ∧
        finding = (.fieldNotDate spec.field kind, none) := by
  unfold tableFlaws
  cases fields.kind? spec.field with
  | none => simp
  | some kind => by_cases undated : spec.timeSource = .field ∧ kind ≠ .date <;> simp [undated]

theorem mem_eventFlaws :
    finding ∈ spec.eventFlaws catalogs ↔
      (catalogs.eventType? spec.eventType = none ∧
        finding = (.unknownEventType spec.eventType,
          Suggestion.closest spec.eventType catalogs.eventTypeNames)) ∨
      ∃ type, catalogs.eventType? spec.eventType = some type ∧ spec.timeKind ∉ type.timeKinds ∧
        finding = (.timeKindNotPermitted spec.eventType spec.timeKind, none) := by
  unfold eventFlaws
  cases catalogs.eventType? spec.eventType with
  | none => simp
  | some type => by_cases permitted : spec.timeKind ∈ type.timeKinds <;> simp [EventType.permits, permitted]

/-- **The flaws that are found are those that are there.** -/
theorem mem_flaws : finding ∈ spec.flaws catalogs ↔ spec.Violates catalogs finding := by
  simp only [flaws, List.mem_append, mem_scopeFlaws, mem_dayFlaws, mem_fieldFlaws, mem_tableFlaws,
    mem_eventFlaws]
  constructor
  · rintro (((((⟨scope, ⟨target, rfl⟩ | ⟨link, rfl⟩ | ⟨link, rfl⟩⟩ | ⟨n, set, outside, rfl⟩) |
      ⟨n, set, outside, rfl⟩) | ⟨n, set, outside, rfl⟩) | onField) | onEvent)
    · exact .memberTarget scope target
    · exact .groupLink scope link
    · exact .allMembers scope link
    · exact .interval n set outside
    · exact .beforeDays n set outside
    · exact .afterDays n set outside
    · obtain ⟨unknown, rfl⟩ | ⟨catalog, known, ⟨unwatched, scope, rfl⟩ |
        ⟨name, fields, watched, ⟨undeclared, rfl⟩ | ⟨kind, declared, ⟨dated, other⟩, rfl⟩⟩⟩ := onField
      · exact .sourceType unknown
      · obtain ⟨target, memberless⟩ := FieldCatalog.watched_eq_none.1 unwatched
        exact .memberCatalog catalog known scope target memberless
      · cases target : spec.target with
        | record =>
            rw [target] at watched
            cases watched
            exact .recordField catalog known target undeclared
        | member =>
            rw [target] at watched
            obtain ⟨members, described, same⟩ := Option.map_eq_some_iff.1 watched
            cases same
            exact .memberField catalog members known target described undeclared
      · exact .notDate catalog kind known ((FieldCatalog.declares_of_watched watched kind).2 declared)
          dated other
    · obtain ⟨unknown, rfl⟩ | ⟨type, known, refused, rfl⟩ := onEvent
      · exact .eventType unknown
      · exact .timeKind type known refused
  · intro violated
    cases violated with
    | memberTarget scope target => simp [scope, target]
    | groupLink scope link => simp [scope, link]
    | allMembers scope link => simp [scope, link]
    | interval n set outside => simp [set, outside]
    | beforeDays n set outside => simp [set, outside]
    | afterDays n set outside => simp [set, outside]
    | sourceType unknown => simp [unknown]
    | memberCatalog catalog known scope target memberless =>
        have unwatched := FieldCatalog.watched_eq_none.2 ⟨target, memberless⟩
        simp [known, unwatched, scope]
    | recordField catalog known target undeclared =>
        simp [known, FieldCatalog.watched, target, undeclared]
    | memberField catalog members known target described undeclared =>
        simp [known, FieldCatalog.watched, target, described, undeclared]
    | notDate catalog kind known declared dated other =>
        cases watched : catalog.watched spec.target with
        | none => exact absurd declared (FieldCatalog.not_declares_of_unwatched watched kind)
        | some found =>
            obtain ⟨name, fields⟩ := found
            have listed := (FieldCatalog.declares_of_watched watched kind).1 declared
            simp [known, watched, listed, dated, other]
    | eventType unknown => simp [unknown]
    | timeKind type known refused => simp [known, refused]

end RuleSpec

/-! ## In one order -/

/-- The place of a setting of days among the three. -/
def Flaw.dayPlace (setting : String) : Nat :=
  if setting = "interval_days" then 3 else if setting = "visibility.before_days" then 4 else 5

/-- The place of a flaw among those of one rule.  Of the flaws in one place a rule has at
most one. -/
def Flaw.place : Flaw → Nat
  | memberTargetOnEntity => 0
  | groupLinkOnEntity => 1
  | allMembersOnEntity => 2
  | dayOffsetOutOfRange setting _ => dayPlace setting
  | unknownSourceType _ | noMemberCatalog _ | unknownField _ _ | fieldNotDate _ _ => 6
  | unknownEventType _ | timeKindNotPermitted _ _ => 7
  | duplicateId _ => 8

namespace RuleSpec

variable {catalogs : Catalogs} {spec : RuleSpec}

/-- Findings in the order of their places, all of them between two places. -/
structure Placed (low high : Nat) (findings : List Finding) : Prop where
  low_le : ∀ finding ∈ findings, low ≤ finding.1.place
  lt_high : ∀ finding ∈ findings, finding.1.place < high
  ordered : findings.Pairwise fun a b => a.1.place < b.1.place

namespace Placed

variable {low middle high : Nat} {findings others : List Finding}

theorem nil (low high : Nat) : Placed low high [] :=
  ⟨by simp, by simp, List.Pairwise.nil⟩

theorem singleton {finding : Finding} (low_le : low ≤ finding.1.place)
    (lt_high : finding.1.place < high) : Placed low high [finding] :=
  ⟨by simpa using low_le, by simpa using lt_high, List.pairwise_singleton _ _⟩

/-- What comes later in the checks comes later in the order. -/
theorem append (first : Placed low middle findings) (second : Placed middle high others)
    (up : low ≤ middle) (on : middle ≤ high) : Placed low high (findings ++ others) where
  low_le finding found := by
    rcases List.mem_append.1 found with early | late
    · exact first.low_le finding early
    · exact up.trans (second.low_le finding late)
  lt_high finding found := by
    rcases List.mem_append.1 found with early | late
    · exact (first.lt_high finding early).trans_le on
    · exact second.lt_high finding late
  ordered := by
    refine List.pairwise_append.2 ⟨first.ordered, second.ordered, ?_⟩
    intro a early b late
    exact (first.lt_high a early).trans_le (second.low_le b late)

theorem ite {p : Prop} [Decidable p] {finding : Finding} (low_le : low ≤ finding.1.place)
    (lt_high : finding.1.place < high) : Placed low high (if p then [finding] else []) := by
  split
  · exact singleton low_le lt_high
  · exact nil low high

end Placed

theorem placed_scopeFlaws (spec : RuleSpec) : Placed 0 3 spec.scopeFlaws := by
  unfold scopeFlaws
  split
  · have target : Placed 0 1 (if spec.target = .member then [(.memberTargetOnEntity, none)] else []) :=
      .ite (Nat.le_refl 0) Nat.zero_lt_one
    have group : Placed 1 2 (if spec.groupLink = .attach then [(.groupLinkOnEntity, none)] else []) :=
      .ite (Nat.le_refl 1) Nat.one_lt_two
    have all : Placed 2 3
        (if spec.memberLink = .allMembers then [(.allMembersOnEntity, none)] else []) :=
      .ite (Nat.le_refl 2) (Nat.lt_succ_self 2)
    exact (target.append group (by omega) (by omega)).append all (by omega) (by omega)
  · exact .nil 0 3

theorem placed_dayFlaws (setting : String) (days : Option Int) :
    Placed (Flaw.dayPlace setting) (Flaw.dayPlace setting + 1) (dayFlaws setting days) := by
  unfold dayFlaws
  split
  · split
    · exact .nil _ _
    · exact .singleton (Nat.le_refl _) (Nat.lt_succ_self _)
  · exact .nil _ _

theorem placed_tableFlaws (spec : RuleSpec) (name : String) (fields : FieldTable) :
    Placed 6 7 (spec.tableFlaws name fields) := by
  unfold tableFlaws
  split
  · exact .singleton (Nat.le_refl 6) (Nat.lt_succ_self 6)
  · exact .ite (Nat.le_refl 6) (Nat.lt_succ_self 6)

theorem placed_fieldFlaws (catalogs : Catalogs) (spec : RuleSpec) :
    Placed 6 7 (spec.fieldFlaws catalogs) := by
  unfold fieldFlaws
  split
  · exact .singleton (Nat.le_refl 6) (Nat.lt_succ_self 6)
  · split
    · exact placed_tableFlaws spec _ _
    · split
      · exact .nil 6 7
      · exact .singleton (Nat.le_refl 6) (Nat.lt_succ_self 6)

theorem placed_eventFlaws (catalogs : Catalogs) (spec : RuleSpec) :
    Placed 7 8 (spec.eventFlaws catalogs) := by
  unfold eventFlaws
  split
  · exact .singleton (Nat.le_refl 7) (Nat.lt_succ_self 7)
  · split
    · exact .nil 7 8
    · exact .singleton (Nat.le_refl 7) (Nat.lt_succ_self 7)

/-- **The flaws of a rule are found in one order**, none twice. -/
theorem flaws_ordered (catalogs : Catalogs) (spec : RuleSpec) :
    (spec.flaws catalogs).Pairwise fun a b => a.1.place < b.1.place := by
  have interval : Placed 3 4 (dayFlaws "interval_days" spec.intervalDays) :=
    placed_dayFlaws "interval_days" _
  have before : Placed 4 5 (dayFlaws "visibility.before_days" spec.visibility.beforeDays) :=
    placed_dayFlaws "visibility.before_days" _
  have after : Placed 5 6 (dayFlaws "visibility.after_days" spec.visibility.afterDays) :=
    placed_dayFlaws "visibility.after_days" _
  have upToInterval := (placed_scopeFlaws spec).append interval (by omega) (by omega)
  have upToBefore := upToInterval.append before (by omega) (by omega)
  have upToAfter := upToBefore.append after (by omega) (by omega)
  have upToField := upToAfter.append (placed_fieldFlaws catalogs spec) (by omega) (by omega)
  exact (upToField.append (placed_eventFlaws catalogs spec) (by omega) (by omega)).ordered

/-! ## None in a rule that fits -/

theorem declared_of_flawless (flawless : ∀ finding, ¬spec.Violates catalogs finding) :
    ∃ catalog kind, catalogs.record? spec.sourceType = some catalog ∧
      catalog.Declares spec.target spec.field kind := by
  cases known : catalogs.record? spec.sourceType with
  | none => exact absurd (.sourceType known) (flawless _)
  | some catalog =>
      cases target : spec.target with
      | record =>
          cases listed : catalog.fields.kind? spec.field with
          | none => exact absurd (.recordField catalog known target listed) (flawless _)
          | some kind => exact ⟨catalog, kind, rfl, listed⟩
      | member =>
          cases described : catalog.members with
          | none =>
              cases scope : spec.scope with
              | entity => exact absurd (.memberTarget scope target) (flawless _)
              | group =>
                  exact absurd (.memberCatalog catalog known scope target described) (flawless _)
          | some members =>
              cases listed : members.fields.kind? spec.field with
              | none =>
                  exact absurd (.memberField catalog members known target described listed)
                    (flawless _)
              | some kind => exact ⟨catalog, kind, rfl, members, described, listed⟩

theorem fits_of_flawless (flawless : ∀ finding, ¬spec.Violates catalogs finding) :
    spec.Fits catalogs where
  declared := by
    obtain ⟨catalog, kind, known, declared⟩ := declared_of_flawless flawless
    refine ⟨catalog, kind, known, declared, fun dated => ?_⟩
    by_contra other
    exact flawless _ (.notDate catalog kind known declared dated other)
  permitted := by
    cases known : catalogs.eventType? spec.eventType with
    | none => exact absurd (.eventType known) (flawless _)
    | some type =>
        refine ⟨type, rfl, ?_⟩
        by_contra refused
        exact flawless _ (.timeKind type known refused)
  interval n set := by
    by_contra outside
    exact flawless _ (.interval n set (by omega))
  beforeDays n set := by
    by_contra outside
    exact flawless _ (.beforeDays n set (by omega))
  afterDays n set := by
    by_contra outside
    exact flawless _ (.afterDays n set (by omega))
  entity scope := by
    refine ⟨?_, ?_, fun link => flawless _ (.allMembers scope link)⟩
    · cases target : spec.target with
      | record => rfl
      | member => exact absurd (.memberTarget scope target) (flawless _)
    · cases link : spec.groupLink with
      | none => rfl
      | attach => exact absurd (.groupLink scope link) (flawless _)

theorem Fits.flawless (fits : spec.Fits catalogs) (finding : Finding) :
    ¬spec.Violates catalogs finding := by
  obtain ⟨catalog, kind, known, declared, dated⟩ := fits.declared
  obtain ⟨type, named, permitted⟩ := fits.permitted
  intro violated
  cases violated with
  | memberTarget scope target =>
      rw [(fits.entity scope).1] at target
      cases target
  | groupLink scope link =>
      rw [(fits.entity scope).2.1] at link
      cases link
  | allMembers scope link => exact (fits.entity scope).2.2 link
  | interval n set outside =>
      have inside := fits.interval n set
      omega
  | beforeDays n set outside =>
      have inside := fits.beforeDays n set
      omega
  | afterDays n set outside =>
      have inside := fits.afterDays n set
      omega
  | sourceType unknown =>
      rw [known] at unknown
      cases unknown
  | memberCatalog catalog' known' scope target memberless =>
      cases known.symm.trans known'
      exact FieldCatalog.not_declares_of_unwatched
        (FieldCatalog.watched_eq_none.2 ⟨target, memberless⟩) kind declared
  | recordField catalog' known' target undeclared =>
      cases known.symm.trans known'
      rw [target] at declared
      cases undeclared.symm.trans declared
  | memberField catalog' members known' target described undeclared =>
      cases known.symm.trans known'
      rw [target] at declared
      obtain ⟨members', described', listed⟩ := declared
      cases described.symm.trans described'
      cases undeclared.symm.trans listed
  | notDate catalog' kind' known' declared' dated' other =>
      cases known.symm.trans known'
      exact other (declared'.unique declared ▸ dated dated')
  | eventType unknown =>
      rw [named] at unknown
      cases unknown
  | timeKind type' named' refused =>
      cases named.symm.trans named'
      exact refused permitted

/-- **A rule fits the catalogs exactly when it has no flaw.** -/
theorem flaws_eq_nil : spec.flaws catalogs = [] ↔ spec.Fits catalogs := by
  rw [List.eq_nil_iff_forall_not_mem]
  simp only [mem_flaws]
  exact ⟨fits_of_flawless, Fits.flawless⟩

end RuleSpec

/-! ## What is reported of a list -/

namespace Registry

/-- What is reported of an enabled rule that stands after others: that its scope and id
were taken, or else all that is wrong with it by itself. -/
def report (catalogs : Catalogs) (earlier : List Rule) (rule : Rule) : List Violation :=
  if ∃ other ∈ earlier, other.key = rule.key then [rule.duplicate] else rule.violations catalogs

/-- What is reported of enabled rules, each after those before it. -/
def reported (catalogs : Catalogs) (rules : List Rule) : List Violation :=
  (List.zipWith (report catalogs) rules.inits rules).flatten

variable {catalogs : Catalogs} {rules : List Rule}

theorem reports_cons (earlier : List Rule) (rule : Rule) (rest : List Rule) :
    List.zipWith (report catalogs) ((rule :: rest).inits.map (earlier ++ ·)) (rule :: rest) =
      report catalogs earlier rule ::
        List.zipWith (report catalogs) (rest.inits.map (earlier ++ [rule] ++ ·)) rest := by
  simp [Function.comp_def]

/-- The check remembers the keys of the rules before, faultless or not; so its findings
are those reported after these rules. -/
theorem inspect_eq_reports {seen : List (Scope × String)} {earlier : List Rule}
    (same : ∀ key, key ∈ seen ↔ key ∈ earlier.map Rule.key) :
    (inspect catalogs seen rules).flatMap Prod.snd =
      (List.zipWith (report catalogs) ((enabled rules).inits.map (earlier ++ ·))
        (enabled rules)).flatten := by
  fun_induction inspect catalogs seen rules generalizing earlier with
  | case1 => simp [enabled]
  | case2 seen rule rest isEnabled key taken =>
      rename_i ih
      have split : enabled (rule :: rest) = rule :: enabled rest := by simp [enabled, isEnabled]
      have repeated : ∃ other ∈ earlier, other.key = rule.key :=
        List.mem_map.1 ((same rule.key).1 taken)
      have still : ∀ other, other ∈ seen ↔ other ∈ (earlier ++ [rule]).map Rule.key := by
        intro other
        rw [List.map_append, List.mem_append, ← same other, List.map_singleton, List.mem_singleton]
        exact ⟨Or.inl, fun either => either.elim id fun here => here ▸ taken⟩
      rw [split, reports_cons, List.flatten_cons, List.flatMap_cons, ih still, report,
        if_pos repeated]
  | case3 seen rule rest isEnabled key fresh =>
      rename_i ih
      have split : enabled (rule :: rest) = rule :: enabled rest := by simp [enabled, isEnabled]
      have unshared : ¬∃ other ∈ earlier, other.key = rule.key := fun taken =>
        fresh ((same rule.key).2 (List.mem_map.2 taken))
      have still : ∀ other, other ∈ rule.key :: seen ↔ other ∈ (earlier ++ [rule]).map Rule.key := by
        intro other
        rw [List.map_append, List.mem_append, ← same other, List.map_singleton, List.mem_singleton,
          List.mem_cons, or_comm]
      rw [split, reports_cons, List.flatten_cons, List.flatMap_cons, ih still, report,
        if_neg unshared]
  | case4 seen rule rest isDisabled ih =>
      have split : enabled (rule :: rest) = enabled rest := by simp [enabled, isDisabled]
      rw [split, ih same]

theorem violations_eq_reported (catalogs : Catalogs) (rules : List Rule) :
    violations catalogs rules = reported catalogs (enabled rules) := by
  have inspected : (inspect catalogs [] rules).flatMap Prod.snd =
      (List.zipWith (report catalogs) ((enabled rules).inits.map ([] ++ ·))
        (enabled rules)).flatten := inspect_eq_reports (by simp)
  rw [violations, inspected]
  simp [reported]

/-- A list is refused with all that is reported of it, or accepted when that is nothing. -/
theorem build_eq_error {found : List Violation} :
    build catalogs rules = .error found ↔
      found ≠ [] ∧ found = reported catalogs (enabled rules) := by
  rw [← violations_eq_reported]
  unfold build
  cases listed : violations catalogs rules with
  | nil => simp
  | cons first rest =>
      constructor
      · intro refused
        cases refused
        exact ⟨List.cons_ne_nil _ _, rfl⟩
      · rintro ⟨-, rfl⟩
        rfl

theorem enabled_enabled (rules : List Rule) : enabled (enabled rules) = enabled rules := by
  simp [enabled]

/-- Disabled rules play no part in the check. -/
theorem build_enabled (catalogs : Catalogs) (rules : List Rule) :
    build catalogs (enabled rules) = build catalogs rules := by
  unfold build
  rw [violations_eq_reported, violations_eq_reported, map_fst_inspect, map_fst_inspect,
    enabled_enabled]

/-- A list is accepted when its enabled rules have distinct scopes and ids and fit. -/
theorem exists_build_eq_ok :
    (∃ registry, build catalogs rules = .ok registry) ↔
      ((enabled rules).map Rule.key).Nodup ∧ ∀ rule ∈ enabled rules, rule.spec.Fits catalogs := by
  simp only [build_eq_ok, Rule.violations, List.map_eq_nil_iff, RuleSpec.flaws_eq_nil]
  exact ⟨fun ⟨_, distinct, fit, _⟩ => ⟨distinct, fit⟩, fun ⟨distinct, fit⟩ => ⟨_, distinct, fit, rfl⟩⟩

/-- The order of the rules has no say in whether a list is accepted. -/
theorem exists_build_perm {others : List Rule} (reordered : rules.Perm others) :
    (∃ registry, build catalogs rules = .ok registry) ↔
      ∃ registry, build catalogs others = .ok registry := by
  have enabledToo : (enabled rules).Perm (enabled others) := reordered.filter _
  rw [exists_build_eq_ok, exists_build_eq_ok, (enabledToo.map Rule.key).nodup_iff]
  simp only [enabledToo.mem_iff]

/-- **The verdict on a list of rules.**  It is accepted exactly when its enabled rules have
distinct scopes and ids and each of them fits the catalogs.  Otherwise it is refused with
what is reported of the enabled rules in their order: of a rule whose scope and id stand
before it that it is a duplicate, of every other rule exactly the flaws that it has, in one
order.  Disabled rules change nothing, and the order of the rules decides only the order of
the report. -/
theorem build_verdict (catalogs : Catalogs) (rules : List Rule) :
    ((∃ registry, build catalogs rules = .ok registry) ↔
        ((enabled rules).map Rule.key).Nodup ∧
          ∀ rule ∈ enabled rules, rule.spec.Fits catalogs) ∧
      (∀ found, build catalogs rules = .error found ↔
        found ≠ [] ∧ found = reported catalogs (enabled rules)) ∧
      (∀ (rule : Rule) v, v ∈ rule.violations catalogs ↔
        ∃ finding, rule.spec.Violates catalogs finding ∧ v = rule.violation finding) ∧
      (∀ rule : Rule, (rule.violations catalogs).Pairwise fun v w => v.flaw.place < w.flaw.place) ∧
      build catalogs rules = build catalogs (enabled rules) ∧
      ∀ others, rules.Perm others →
        ((∃ registry, build catalogs rules = .ok registry) ↔
          ∃ registry, build catalogs others = .ok registry) := by
  refine ⟨exists_build_eq_ok, fun found => build_eq_error, ?_, ?_, (build_enabled _ _).symm,
    fun others => exists_build_perm⟩
  · intro rule v
    rw [Rule.violations, List.mem_map]
    simp only [RuleSpec.mem_flaws, eq_comm]
  · intro rule
    rw [Rule.violations, List.pairwise_map]
    exact rule.spec.flaws_ordered catalogs

end Registry

namespace Example

/-- An entity rule that asks for members and for a group, a disabled rule, another with the
id of the first, a group rule on members that its type does not have, and a rule dated by a
field of text with a window of less than no days. -/
def faulty : List Rule :=
  let crewless := rule "crewless" true .entity "order" .member "phase"
  let dated := rule "dated" true .entity "order" .record "phase"
  [{ crewless with spec := { crewless.spec with groupLink := .attach } },
    rule "dated" false .entity "nothing" .record "phase",
    { crewless with spec := { crewless.spec with intervalDays := some 36501 } },
    rule "crewless" true .group "order" .member "phase",
    { dated with spec :=
        { dated.spec with timeSource := .field, visibility := ⟨.window, some (-1), none⟩ } }]

/-- What is reported of these rules. -/
def faults : List Violation :=
  [⟨"crewless", .entity, .memberTargetOnEntity, none⟩,
    ⟨"crewless", .entity, .groupLinkOnEntity, none⟩,
    ⟨"crewless", .entity, .duplicateId .entity, none⟩,
    ⟨"crewless", .group, .noMemberCatalog "order", none⟩,
    ⟨"dated", .entity, .dayOffsetOutOfRange "visibility.before_days" (-1), none⟩,
    ⟨"dated", .entity, .fieldNotDate "phase" .text, none⟩]

theorem faulty_verdict :
    Registry.build catalogs faulty = .error faults ∧
      Registry.build catalogs faulty = Registry.build catalogs (Registry.enabled faulty) ∧
      ¬∃ registry, Registry.build catalogs faulty.reverse = .ok registry := by
  obtain ⟨-, refused, -, -, disabled, reordered⟩ := Registry.build_verdict catalogs faulty
  have found : Registry.build catalogs faulty = .error faults :=
    (refused faults).2 ⟨by decide, by decide⟩
  refine ⟨found, disabled, ?_⟩
  rw [← reordered faulty.reverse faulty.reverse_perm.symm, found]
  rintro ⟨registry, accepted⟩
  cases accepted

end Example
end EventRules
