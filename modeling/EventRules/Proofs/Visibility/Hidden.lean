/-
# EventRules.Proofs.Visibility.Hidden -- when an event is hidden

Without leap seconds the instants of the calendar are the integers of an interval, as
nanoseconds from 1970 (`Instant.le_iff`, `Instant.nanoseconds_plusDays`).  A rule hides an
event exactly by comparing such integers, where nothing ever ends (`Visibility.Hides`).

The calendar does end, and a bound of a window may fall off it.  It only falls off on the
side it points to, beyond every instant there is to judge; so to bound nothing is right
(`Instant.opens_le`, `Instant.le_closes`).

* `Visibility.shows_eq_false`: a visibility with days of an accepted rule shows exactly
  what it does not hide.
* `Registry.isVisible_exact`: a registry hides exactly what a rule that the tag leads to
  hides; the instants at which an event is shown are an interval, and more days widen it.
-/
import EventRules.Proofs.Dispatch.ReadBack
namespace EventRules

set_option autoImplicit false

/-! ## Instants as integers -/

namespace Instant

/-- Nanoseconds from 1970-01-01T00:00:00Z. -/
def nanoseconds (t : Instant) : Int := t.seconds * 1000000000 + t.nanos

/-- The nanoseconds of a day. -/
def dayLength : Int := 86400 * 1000000000

theorem nanos_of_plain {t : Instant} (plain : t.isLeap = false) : t.nanos < 1000000000 := by
  simpa [isLeap] using plain

/-- Apart from leap seconds, instants are in the order of their nanoseconds. -/
theorem le_iff {t u : Instant} (plain : t.isLeap = false) (plain' : u.isLeap = false) :
    t.le u = true ↔ t.nanoseconds ≤ u.nanoseconds := by
  have ht := nanos_of_plain plain
  have hu := nanos_of_plain plain'
  simp only [le, nanoseconds, Bool.or_eq_true, Bool.and_eq_true, decide_eq_true_eq,
    beq_iff_eq]
  omega

theorem plusDays_eq {t : Instant} (plain : t.isLeap = false) (days : Int) :
    t.plusDays days = of? (t.seconds + 86400 * days) t.nanos := by
  have early := nanos_of_plain plain
  rw [plusDays, plusSeconds, moved, if_neg (by omega)]

/-- A move by days inside the calendar adds just these days. -/
theorem nanoseconds_plusDays {t u : Instant} (plain : t.isLeap = false) {days : Int}
    (landed : t.plusDays days = some u) :
    u.isLeap = false ∧ u.nanoseconds = t.nanoseconds + days * dayLength := by
  rw [plusDays_eq plain] at landed
  obtain ⟨seconds, nanos⟩ := of?_eq_some landed
  constructor
  · rw [isLeap, nanos]
    exact plain
  · rw [nanoseconds, nanoseconds, seconds, nanos, dayLength]
    omega

/-- A move that fails ends before the first second or after the last one. -/
theorem plusDays_eq_none {t : Instant} (plain : t.isLeap = false) {days : Int}
    (lost : t.plusDays days = none) :
    t.seconds + 86400 * days < -8334601228800 ∨ 8210266876799 < t.seconds + 86400 * days := by
  rw [plusDays_eq plain, of?] at lost
  split at lost
  · rw [dif_pos t.nanos_lt] at lost
    cases lost
  · omega

/-- The opening bound of a window, none when it lies before the calendar. -/
theorem opens_le {base now : Instant} (plain : base.isLeap = false) (plain' : now.isLeap = false)
    {days : Int} (count : 0 ≤ days) :
    (base.plusDays (-days)).all (fun opens => opens.le now) = true ↔
      base.nanoseconds - days * dayLength ≤ now.nanoseconds := by
  cases landed : base.plusDays (-days) with
  | some opens =>
      obtain ⟨plainly, moved⟩ := nanoseconds_plusDays plain landed
      rw [Option.all_some, le_iff plainly plain', moved, Int.neg_mul, Int.sub_eq_add_neg]
  | none =>
      -- the bound lies before the first instant, and so before `now`
      have outside := plusDays_eq_none plain landed
      have inside := base.inCalendar
      have inside' := now.inCalendar
      have early := nanos_of_plain plain
      simp only [Option.all_none, nanoseconds, dayLength, true_iff]
      omega

/-- The closing bound of a window, none when it lies after the calendar. -/
theorem le_closes {base now : Instant} (plain : base.isLeap = false) (plain' : now.isLeap = false)
    {days : Int} (count : 0 ≤ days) :
    (base.plusDays days).all (fun closes => now.le closes) = true ↔
      now.nanoseconds ≤ base.nanoseconds + days * dayLength := by
  cases landed : base.plusDays days with
  | some closes =>
      obtain ⟨plainly, moved⟩ := nanoseconds_plusDays plain landed
      rw [Option.all_some, le_iff plain' plainly, moved]
  | none =>
      have outside := plusDays_eq_none plain landed
      have inside := base.inCalendar
      have inside' := now.inCalendar
      have early := nanos_of_plain plain'
      simp only [Option.all_none, nanoseconds, dayLength, true_iff]
      omega

end Instant

/-! ## One visibility -/

namespace Visibility

/-- Whether a visibility hides an event with a base date at an instant.  Nanoseconds are
counted on beyond both ends of the calendar. -/
def Hides (v : Visibility) (base now : Instant) : Prop :=
  match v.mode with
  | .always => False
  | .unrecognized => False
  | .afterDate => now.nanoseconds < base.nanoseconds
  | .untilDate => base.nanoseconds < now.nanoseconds
  | .window =>
      now.nanoseconds < base.nanoseconds - v.beforeDays.getD 0 * Instant.dayLength ∨
        base.nanoseconds + v.afterDays.getD 0 * Instant.dayLength < now.nanoseconds

variable {v : Visibility} {base now : Instant}

/-- With bounds that lie no days or more before and after a date, what is not shown is just
what is hidden. -/
theorem shows_eq_false (before : 0 ≤ v.beforeDays.getD 0) (after : 0 ≤ v.afterDays.getD 0)
    (plain : base.isLeap = false) (plain' : now.isLeap = false) :
    v.shows base now = false ↔ v.Hides base now := by
  rw [← Bool.not_eq_true, shows, Hides]
  cases v.mode with
  | always => simp
  | unrecognized => simp
  | afterDate =>
      simp only [Instant.le_iff plain plain']
      exact Int.not_le
  | untilDate =>
      simp only [Instant.le_iff plain' plain]
      exact Int.not_le
  | window =>
      simp only [Bool.and_eq_true, Instant.opens_le plain plain' before,
        Instant.le_closes plain plain' after]
      omega

/-- Between two instants at which a date is not hidden it is never hidden. -/
theorem Hides.outside {first between last : Instant}
    (since : first.nanoseconds ≤ between.nanoseconds)
    (until' : between.nanoseconds ≤ last.nanoseconds) (hides : v.Hides base between) :
    v.Hides base first ∨ v.Hides base last := by
  unfold Hides at hides ⊢
  cases mode : v.mode with
  | always => simp [mode] at hides
  | unrecognized => simp [mode] at hides
  | afterDate =>
      simp only [mode] at hides ⊢
      omega
  | untilDate =>
      simp only [mode] at hides ⊢
      omega
  | window =>
      simp only [mode] at hides ⊢
      omega

/-- One visibility is of the mode of another and gives no fewer days on either side. -/
structure Widens (wide v : Visibility) : Prop where
  mode : wide.mode = v.mode
  before : v.beforeDays.getD 0 ≤ wide.beforeDays.getD 0
  after : v.afterDays.getD 0 ≤ wide.afterDays.getD 0

/-- What is hidden with more days is hidden with fewer. -/
theorem Hides.of_widens {wide : Visibility} (widens : wide.Widens v)
    (hides : wide.Hides base now) : v.Hides base now := by
  have before : v.beforeDays.getD 0 * Instant.dayLength ≤
      wide.beforeDays.getD 0 * Instant.dayLength :=
    Int.mul_le_mul_of_nonneg_right widens.before (by decide)
  have after : v.afterDays.getD 0 * Instant.dayLength ≤
      wide.afterDays.getD 0 * Instant.dayLength :=
    Int.mul_le_mul_of_nonneg_right widens.after (by decide)
  unfold Hides at hides ⊢
  rw [widens.mode] at hides
  cases mode : v.mode with
  | window =>
      simp only [mode] at hides ⊢
      omega
  | _ =>
      rw [mode] at hides
      exact hides

end Visibility

/-! ## The registry -/

/-- An event hangs on a registered rule: its tag reads as a scope and an id that the registry
resolves to the rule. -/
def StoredEvent.HangsOn (event : StoredEvent) (registry : Registry) (r : RegisteredRule) : Prop :=
  ∃ tag p, event.provenanceTag = some tag ∧ Provenance.decode? tag = some p ∧
    registry.resolve? p.scope p.ruleId = some r

namespace Registry

variable {known : Catalogs} {rules : List Rule} {registry : Registry}

/-- An event is not shown when it hangs on a rule that does not show it, and only then. -/
theorem isVisible_eq_false {event : StoredEvent} {now : Instant} :
    registry.isVisible event now = false ↔
      ∃ r base, event.HangsOn registry r ∧ event.anchor = some base ∧
        r.spec.visibility.shows base now = false := by
  unfold isVisible StoredEvent.isVisibleBy StoredEvent.HangsOn
  cases event.provenanceTag with
  | none => simp
  | some tag =>
      cases decoded : Provenance.decode? tag with
      | none => simp [decoded]
      | some p =>
          cases resolved : registry.resolve? p.scope p.ruleId with
          | none => simp [decoded, resolved]
          | some r => cases event.anchor <;> simp [decoded, resolved]

/-- A rule that a registry leads to is an accepted one. -/
theorem accepted_of_resolve? (built : build known rules = .ok registry) {scope : Scope}
    {id : String} {r : RegisteredRule} (resolved : registry.resolve? scope id = some r) :
    r ∈ accepted known rules := by
  rw [(indexes_of_build built).ids] at resolved
  exact List.mem_of_mem_filter (List.mem_of_getLast? resolved)

/-- An accepted list hides an event exactly when a rule it hangs on does. -/
theorem isVisible_eq_false_iff_hides (built : build known rules = .ok registry)
    {event : StoredEvent} (plain : ∀ base, event.anchor = some base → base.isLeap = false)
    {now : Instant} (plain' : now.isLeap = false) :
    registry.isVisible event now = false ↔
      ∃ r base, event.HangsOn registry r ∧ event.anchor = some base ∧
        r.spec.visibility.Hides base now := by
  rw [isVisible_eq_false]
  refine exists_congr fun r => exists_congr fun base => and_congr_right fun hangs =>
    and_congr_right fun dated => ?_
  obtain ⟨tag, p, -, -, resolved⟩ := hangs
  obtain ⟨before, after⟩ := days_of_accepted built (accepted_of_resolve? built resolved)
  exact Visibility.shows_eq_false before after (plain base dated) plain'

/-- **When an event is shown.**  For every registry that was built and every event and instant
without leap seconds: the event is hidden exactly when it hangs on a rule that hides it, on
its date, in unbounded nanoseconds.  Between two instants at which it is shown it is shown
throughout; and under another registry whose rules give it no fewer days it is shown
whenever it was. -/
theorem isVisible_exact (built : build known rules = .ok registry) {event : StoredEvent}
    (plain : ∀ base, event.anchor = some base → base.isLeap = false) :
    (∀ now, now.isLeap = false →
      (registry.isVisible event now = false ↔
        ∃ r base, event.HangsOn registry r ∧ event.anchor = some base ∧
          r.spec.visibility.Hides base now)) ∧
    (∀ first between last : Instant, first.isLeap = false → between.isLeap = false →
      last.isLeap = false → first.le between = true → between.le last = true →
      registry.isVisible event first = true → registry.isVisible event last = true →
        registry.isVisible event between = true) ∧
    (∀ known' rules' registry', build known' rules' = .ok registry' →
      (∀ r', event.HangsOn registry' r' → ∃ r, event.HangsOn registry r ∧
        r'.spec.visibility.Widens r.spec.visibility) →
      ∀ now, now.isLeap = false →
        registry.isVisible event now = true → registry'.isVisible event now = true) := by
  have hidden : ∀ {now : Instant}, now.isLeap = false →
      (registry.isVisible event now = false ↔
        ∃ r base, event.HangsOn registry r ∧ event.anchor = some base ∧
          r.spec.visibility.Hides base now) := fun plain' =>
    isVisible_eq_false_iff_hides built plain plain'
  refine ⟨fun now => hidden, ?_, ?_⟩
  · intro first between last plainFirst plainBetween plainLast since until' shownFirst shownLast
    rw [← Bool.not_eq_false]
    intro gone
    obtain ⟨r, base, hangs, dated, hides⟩ := (hidden plainBetween).1 gone
    rcases hides.outside ((Instant.le_iff plainFirst plainBetween).1 since)
      ((Instant.le_iff plainBetween plainLast).1 until') with hides | hides
    · rw [(hidden plainFirst).2 ⟨r, base, hangs, dated, hides⟩] at shownFirst
      cases shownFirst
    · rw [(hidden plainLast).2 ⟨r, base, hangs, dated, hides⟩] at shownLast
      cases shownLast
  · intro known' rules' registry' built' widened now plain' shown
    rw [← Bool.not_eq_false]
    intro gone
    obtain ⟨r', base, hangs', dated, hides⟩ :=
      (isVisible_eq_false_iff_hides built' plain plain').1 gone
    obtain ⟨r, hangs, widens⟩ := widened r' hangs'
    rw [(hidden plain').2 ⟨r, base, hangs, dated, hides.of_widens widens⟩] at shown
    cases shown

end Registry

namespace Example

/-- An event of a rule on orders that ends with the calendar. -/
def lastEvent : StoredEvent := ⟨"ev-1", .deadline, none, some .last, some "E:4:pack"⟩

/-- A number of days before the end of the calendar. -/
def daysBeforeLast (days : Nat) (inside : days ≤ 100) : Instant :=
  { Instant.last with seconds := 8210266876799 - 86400 * days, inCalendar := by omega }

/-- The rule of the event, with a window that opens some days before. -/
def packFrom (days : Int) : Rule :=
  let r := rule "pack" true .entity "order" .record "phase"
  { r with spec := { r.spec with visibility := ⟨.window, some days, some 5⟩ } }

/-- The registry of this rule alone. -/
def packRegistry (days : Int) : Registry := .ofRules catalogs (Registry.enabled [packFrom days])

theorem ten_built : Registry.build catalogs [packFrom 10] = .ok (packRegistry 10) := by
  refine Registry.build_eq_ok.2 ⟨?_, ?_, rfl⟩ <;> decide

theorem twenty_built : Registry.build catalogs [packFrom 20] = .ok (packRegistry 20) := by
  refine Registry.build_eq_ok.2 ⟨?_, ?_, rfl⟩ <;> decide

theorem lastEvent_hangsOn (days : Int) (r : RegisteredRule) :
    lastEvent.HangsOn (packRegistry days) r ↔ r = RegisteredRule.of catalogs (packFrom days) := by
  have decoded : Provenance.decode? "E:4:pack" = some ⟨.entity, "pack"⟩ := by decide
  constructor
  · rintro ⟨tag, p, tagged, read, found⟩
    cases tagged
    rw [decoded] at read
    cases read
    exact (Option.some.inj found).symm
  · rintro rfl
    exact ⟨_, _, rfl, decoded, rfl⟩

/-- The window closes beyond the calendar and opens inside it: the event is hidden eleven days
before its end, shown from ten days before on, and shown then with a longer window too. -/
theorem lastEvent_shown :
    (∀ base, lastEvent.anchor = some base → base.isLeap = false) ∧
      Instant.last.plusDays 5 = none ∧
      (packRegistry 10).isVisible lastEvent (daysBeforeLast 11 (by decide)) = false ∧
      (packRegistry 10).isVisible lastEvent (daysBeforeLast 3 (by decide)) = true ∧
      (packRegistry 20).isVisible lastEvent (daysBeforeLast 3 (by decide)) = true := by
  have plain : ∀ base, lastEvent.anchor = some base → base.isLeap = false := by
    rintro base dated
    cases dated
    decide
  have longer : ∀ r', lastEvent.HangsOn (packRegistry 20) r' →
      ∃ r, lastEvent.HangsOn (packRegistry 10) r ∧
        r'.spec.visibility.Widens r.spec.visibility := by
    intro r' hangs
    rw [lastEvent_hangsOn] at hangs
    subst hangs
    exact ⟨_, (lastEvent_hangsOn 10 _).2 rfl, rfl, by decide, by decide⟩
  obtain ⟨hidden, between, wider⟩ := Registry.isVisible_exact ten_built plain
  have shown : (packRegistry 10).isVisible lastEvent (daysBeforeLast 3 (by decide)) = true := by
    apply between (daysBeforeLast 10 (by decide)) _ .last <;> decide
  refine ⟨plain, by decide, ?_, shown, ?_⟩
  · exact (hidden _ (by decide)).2
      ⟨_, _, (lastEvent_hangsOn 10 _).2 rfl, rfl, .inl (by decide)⟩
  · exact wider catalogs [packFrom 20] _ twenty_built longer _ (by decide) shown

end Example
end EventRules
