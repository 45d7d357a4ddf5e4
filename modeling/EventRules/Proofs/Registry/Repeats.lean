/-
# EventRules.Proofs.Registry.Repeats -- what a list reports of each of its rules

A violation bears the scope and the id of the rule it is about, its *key*.  Under one key a list
of rules reports all that is wrong with the first enabled rule of that key by itself, and of
every later one only that it is a duplicate (`Registry.violations_of_key`); rules of other keys
have no say in it.

So nothing that is wrong with a rule is hidden by the others unless it repeats the key of an
enabled rule before it (`Registry.build_reveals`).  A repeat is not looked at any further: what is
wrong with it besides comes to light only when its id has been changed (`Example.repeat_unchecked`).
-/
import EventRules.Proofs.Registry.Faults
namespace EventRules

set_option autoImplicit false

/-- The scope and the id of the rule that a violation is about. -/
def Violation.key (v : Violation) : Scope × String := (v.scope, v.ruleId)

theorem Rule.key_of_mem_violations {catalogs : Catalogs} {rule : Rule} {v : Violation}
    (member : v ∈ rule.violations catalogs) : v.key = rule.key := by
  obtain ⟨finding, -, rfl⟩ := List.mem_map.1 member
  rfl

theorem Rule.key_duplicate (rule : Rule) : rule.duplicate.key = rule.key := rfl

namespace Registry

variable {catalogs : Catalogs} {rules before after : List Rule} {rule : Rule}
variable {key : Scope × String}

/-- The enabled rules of a key, in order. -/
def withKey (key : Scope × String) (rules : List Rule) : List Rule :=
  (enabled rules).filter fun rule => rule.key = key

/-- What is reported of rules that share a key: all that is wrong with the first of them, and
that the others repeat it. -/
def reportTogether (catalogs : Catalogs) : List Rule → List Violation
  | [] => []
  | first :: repeats => first.violations catalogs ++ repeats.map Rule.duplicate

/-- An enabled rule before it has the scope and the id of a rule. -/
def Repeats (before : List Rule) (rule : Rule) : Prop :=
  ∃ other ∈ enabled before, other.key = rule.key

theorem filter_violations (rule : Rule) :
    (rule.violations catalogs).filter (fun v => v.key = key) =
      if rule.key = key then rule.violations catalogs else [] := by
  split
  · rename_i same
    exact List.filter_eq_self.2 fun v member => by simp [Rule.key_of_mem_violations member, same]
  · rename_i differ
    exact List.filter_eq_nil_iff.2 fun v member => by
      simp [Rule.key_of_mem_violations member, differ]

theorem withKey_cons (isEnabled : rule.metadata.enabled = true) (rest : List Rule) :
    withKey key (rule :: rest) =
      if rule.key = key then rule :: withKey key rest else withKey key rest := by
  by_cases same : rule.key = key <;> simp [withKey, enabled, isEnabled, same]

/-- Under a key that was seen before, rules are reported as duplicates only. -/
theorem inspect_of_key (catalogs : Catalogs) (seen : List (Scope × String)) (rules : List Rule)
    (key : Scope × String) :
    ((inspect catalogs seen rules).flatMap Prod.snd).filter (fun v => v.key = key) =
      if key ∈ seen then (withKey key rules).map Rule.duplicate
      else reportTogether catalogs (withKey key rules) := by
  fun_induction inspect catalogs seen rules with
  | case1 => simp [withKey, enabled, reportTogether]
  | case2 seen rule rest isEnabled own taken ih =>
      rw [List.flatMap_cons, List.filter_append, ih, withKey_cons isEnabled]
      by_cases same : rule.key = key
      · have known : key ∈ seen := same ▸ taken
        simp [known, same, rule.key_duplicate]
      · simp [same, rule.key_duplicate]
  | case3 seen rule rest isEnabled own fresh ih =>
      rw [List.flatMap_cons, List.filter_append, ih, withKey_cons isEnabled, filter_violations]
      by_cases same : rule.key = key
      · have unknown : key ∉ seen := same ▸ fresh
        have known : key ∈ own :: seen := same ▸ List.mem_cons_self
        simp only [same, known, unknown, if_true, if_false, reportTogether]
      · have apart : key ∈ own :: seen ↔ key ∈ seen := by
          simp [List.mem_cons, show key ≠ own from Ne.symm same]
        simp only [same, apart, if_false, List.nil_append]
  | case4 seen rule rest isDisabled ih =>
      rw [ih]
      simp [withKey, enabled, isDisabled]

/-- **What is reported under a key** is all that is wrong with the first rule of the key, and that
the later ones repeat it. -/
theorem violations_of_key (catalogs : Catalogs) (rules : List Rule) (key : Scope × String) :
    (violations catalogs rules).filter (fun v => v.key = key) =
      reportTogether catalogs (withKey key rules) := by
  rw [violations, inspect_of_key, if_neg List.not_mem_nil]

theorem withKey_split (isEnabled : rule.metadata.enabled = true) :
    withKey rule.key (before ++ rule :: after) =
      withKey rule.key before ++ rule :: withKey rule.key after := by
  simp [withKey, enabled, isEnabled]

theorem withKey_eq_nil : withKey rule.key before = [] ↔ ¬ Repeats before rule := by
  simp [withKey, Repeats]

/-- What is wrong with a rule that repeats no other is reported. -/
theorem mem_violations_of_first (after : List Rule) (isEnabled : rule.metadata.enabled = true)
    (first : ¬ Repeats before rule) {v : Violation} (member : v ∈ rule.violations catalogs) :
    v ∈ violations catalogs (before ++ rule :: after) := by
  refine List.mem_of_mem_filter (p := fun v => v.key = rule.key) ?_
  rw [violations_of_key, withKey_split isEnabled, withKey_eq_nil.2 first]
  exact List.mem_append_left _ member

/-- That a rule repeats another is reported. -/
theorem duplicate_mem_violations (catalogs : Catalogs) (after : List Rule)
    (isEnabled : rule.metadata.enabled = true) (repeats : Repeats before rule) :
    rule.duplicate ∈ violations catalogs (before ++ rule :: after) := by
  refine List.mem_of_mem_filter (p := fun v => v.key = rule.key) ?_
  rw [violations_of_key, withKey_split isEnabled]
  cases earlier : withKey rule.key before with
  | nil => exact absurd repeats (withKey_eq_nil.1 earlier)
  | cons first more =>
      rw [List.cons_append, reportTogether, List.map_append, List.map_cons]
      exact List.mem_append_right _ (List.mem_append_right _ List.mem_cons_self)

theorem build_of_mem_violations {v : Violation} (found : v ∈ violations catalogs rules) :
    build catalogs rules = .error (violations catalogs rules) :=
  build_eq_error.2 ⟨List.ne_nil_of_mem found, violations_eq_reported catalogs rules⟩

theorem eq_violations_of_build {found : List Violation}
    (refused : build catalogs rules = .error found) : found = violations catalogs rules := by
  rw [violations_eq_reported]
  exact (build_eq_error.1 refused).2

theorem violations_singleton (isEnabled : rule.metadata.enabled = true) :
    violations catalogs [rule] = rule.violations catalogs := by
  simp [violations, inspect, isEnabled]

/-- Nothing is reported of a rule. -/
def Unreported (catalogs : Catalogs) (rules : List Rule) (rule : Rule) : Prop :=
  ∀ all, build catalogs rules = .error all → ∀ v ∈ all, v.key ≠ rule.key

/-- A rule alone is accepted when it fits the catalogs. -/
theorem exists_build_singleton (isEnabled : rule.metadata.enabled = true) :
    (∃ registry, build catalogs [rule] = .ok registry) ↔ rule.spec.Fits catalogs := by
  simp [exists_build_eq_ok, enabled, isEnabled]

/-- A rule of which nothing is reported fits. -/
theorem fits_of_unreported (isEnabled : rule.metadata.enabled = true)
    (unreported : Unreported catalogs (before ++ rule :: after) rule) :
    rule.spec.Fits catalogs := by
  rw [← RuleSpec.flaws_eq_nil, List.eq_nil_iff_forall_not_mem]
  intro finding found
  have member : rule.violation finding ∈ rule.violations catalogs := List.mem_map_of_mem found
  by_cases repeats : Repeats before rule
  · have reported := duplicate_mem_violations catalogs after isEnabled repeats
    exact unreported _ (build_of_mem_violations reported) _ reported rule.key_duplicate
  · have reported := mem_violations_of_first after isEnabled repeats member
    exact unreported _ (build_of_mem_violations reported) _ reported
      (Rule.key_of_mem_violations member)

/-- **What a list reports of its rules.**  What is reported of an enabled rule alone is reported
of it in a list, whatever the other rules are, unless an enabled rule before it has its scope and
id; then it is reported as a duplicate.  Under each scope and id a list reports no more than that.
So a list of distinct rules is accepted in which each rule is accepted alone or was in a list
that reported nothing of it. -/
theorem build_reveals (catalogs : Catalogs) (rules : List Rule) :
    (∀ before rule after, rules = before ++ rule :: after → rule.metadata.enabled = true →
      (∀ alone, build catalogs [rule] = .error alone → ¬ Repeats before rule →
        ∃ all, build catalogs rules = .error all ∧ ∀ v ∈ alone, v ∈ all ∧ v.key = rule.key) ∧
      (Repeats before rule →
        ∃ all, build catalogs rules = .error all ∧ rule.duplicate ∈ all)) ∧
      (∀ all, build catalogs rules = .error all → ∀ key,
        all.filter (fun v => v.key = key) = reportTogether catalogs (withKey key rules)) ∧
      ∀ mended, ((enabled mended).map Rule.key).Nodup →
        (∀ rule ∈ enabled mended, (∃ registry, build catalogs [rule] = .ok registry) ∨
          rule ∈ rules ∧ Unreported catalogs rules rule) →
        ∃ registry, build catalogs mended = .ok registry := by
  refine ⟨?_, ?_, ?_⟩
  · rintro before rule after rfl isEnabled
    refine ⟨fun alone refused first => ?_, fun repeats => ?_⟩
    · have own : alone = rule.violations catalogs :=
        (eq_violations_of_build refused).trans (violations_singleton isEnabled)
      have reported : ∀ v ∈ alone, v ∈ violations catalogs (before ++ rule :: after) :=
        fun v member => mem_violations_of_first after isEnabled first (own ▸ member)
      obtain ⟨some', member⟩ := List.exists_mem_of_ne_nil alone (build_eq_error.1 refused).1
      refine ⟨_, build_of_mem_violations (reported some' member), fun v member => ?_⟩
      exact ⟨reported v member, Rule.key_of_mem_violations (own ▸ member)⟩
    · have reported := duplicate_mem_violations catalogs after isEnabled repeats
      exact ⟨_, build_of_mem_violations reported, reported⟩
  · intro all refused key
    rw [eq_violations_of_build refused, violations_of_key]
  · intro mended distinct each
    refine exists_build_eq_ok.2 ⟨distinct, fun rule member => ?_⟩
    have isEnabled := (mem_enabled member).2
    rcases each rule member with accepted | ⟨known, unreported⟩
    · exact (exists_build_singleton isEnabled).1 accepted
    · obtain ⟨before, after, rfl⟩ := List.append_of_mem known
      exact fits_of_unreported isEnabled unreported

end Registry

namespace Example

/-- A rule on orders that fits. -/
def plain : Rule := rule "cut" true .entity "order" .record "phase"

/-- The same with an interval of less than no days, under a given id. -/
def backwards (id : String) : Rule where
  apiVersion := plain.apiVersion
  kind := plain.kind
  metadata := { plain.metadata with id }
  spec := { plain.spec with intervalDays := some (-1) }

/-- What is wrong with it. -/
def tooShort (id : String) : Violation :=
  ⟨id, .entity, .dayOffsetOutOfRange "interval_days" (-1), none⟩

/-- The interval is reported of the rule alone, but not after a rule of its id; when that is
mended the rule is refused for the interval after all. -/
theorem repeat_unchecked :
    Registry.build catalogs [backwards "cut"] = .error [tooShort "cut"] ∧
      Registry.build catalogs [plain, backwards "cut"] =
        .error [⟨"cut", .entity, .duplicateId .entity, none⟩] ∧
      Registry.build catalogs [plain, backwards "cut2"] = .error [tooShort "cut2"] := by
  refine ⟨?_, ?_, ?_⟩ <;> exact Registry.build_eq_error.2 ⟨by decide, by decide⟩

/-- A repeat after it takes nothing from what is reported of the rule; and once the interval is
mended in both rules the list is accepted. -/
theorem backwards_revealed :
    Registry.build catalogs [backwards "cut"] = .error [tooShort "cut"] ∧
      (∃ all, Registry.build catalogs [backwards "pack", backwards "cut", plain] = .error all ∧
        tooShort "cut" ∈ all) ∧
      ∃ registry, Registry.build catalogs
        [rule "pack" true .entity "order" .record "phase", plain] = .ok registry := by
  have alone : Registry.build catalogs [backwards "cut"] = .error [tooShort "cut"] :=
    Registry.build_eq_error.2 ⟨by decide, by decide⟩
  have first : ¬ Registry.Repeats [backwards "pack"] (backwards "cut") := by
    unfold Registry.Repeats
    decide
  obtain ⟨revealed, -, mended⟩ :=
    Registry.build_reveals catalogs [backwards "pack", backwards "cut", plain]
  obtain ⟨all, refused, reported⟩ :=
    (revealed [backwards "pack"] (backwards "cut") [plain] rfl rfl).1 _ alone first
  refine ⟨alone, ⟨all, refused, (reported _ List.mem_cons_self).1⟩, ?_⟩
  refine mended _ (by decide) fun fitting member => .inl ?_
  rcases List.mem_cons.1 (Registry.mem_enabled member).1 with rfl | member
  · exact ⟨_, Registry.build_eq_ok.2 ⟨by decide, by decide, rfl⟩⟩
  · cases List.mem_singleton.1 member
    exact ⟨_, Registry.build_eq_ok.2 ⟨by decide, by decide, rfl⟩⟩

end Example
end EventRules
