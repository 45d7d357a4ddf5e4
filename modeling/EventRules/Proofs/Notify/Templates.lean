/-
# EventRules.Proofs.Notify.Templates -- what the two message templates put out

The templates of the notify hook are fixed, so they are read once and for all
(`Markup.subject_statements`, `Markup.body_statements`): text, and attributes of named data.
An attribute that is there is put out as it stands (`Markup.runAll_output`), whatever it holds;
it is not read for tags again.

`Renderer.Faithful` is what the hook relies on: the subject is the title of the notice,
verbatim, and a notice whose context says what record it is about has a body.
`Markup.renderer` is faithful (`Markup.faithful_renderer`), with any environment.
-/
import EventRules.Notify.Message
namespace EventRules

set_option autoImplicit false

open Markup (Datum)

/-- A notice says which record it is about: its context has the type and the id as texts. -/
def Notice.HasSource (notice : Notice) : Prop :=
  ∃ fields recordType id, notice.context = .object fields ∧
    Keyed.get? "source" fields = some (.object [("id", .text id), ("type", .text recordType)])

/-- A renderer puts the title of a notice into the subject as it stands, and renders the body of
every notice that says which record it is about. -/
structure Renderer.Faithful (render : Renderer) : Prop where
  subject : ∀ notice : Notice,
    render Notice.subjectTemplate notice.templateContext = .ok notice.title
  body : ∀ notice : Notice, notice.HasSource →
    ∃ body, render Notice.bodyTemplate notice.templateContext = .ok body

namespace Markup

/-! ## The templates, read -/

/-- The parts of the template of subjects. -/
def subjectParts : List Part :=
  [.text [], .output [.name "event", .mark ".", .name "title"], .text []]

/-- The parts of the template of bodies. -/
def bodyParts : List Part :=
  [.text "Rule '".toList, .output [.name "rule", .mark ".", .name "name"],
    .text "' created ".toList, .output [.name "event", .mark ".", .name "event_type"],
    .text " event ".toList, .output [.name "event", .mark ".", .name "id"],
    .text " for ".toList,
    .output [.name "context", .mark ".", .name "source", .mark ".", .name "type"],
    .text " ".toList,
    .output [.name "context", .mark ".", .name "source", .mark ".", .name "id"],
    .text ".".toList]

/-- The statements of the template of subjects. -/
def subjectStatements : List Statement :=
  [.text [], .output (.attr (.name "event") "title"), .text []]

/-- The statements of the template of bodies. -/
def bodyStatements : List Statement :=
  [.text "Rule '".toList, .output (.attr (.name "rule") "name"),
    .text "' created ".toList, .output (.attr (.name "event") "event_type"),
    .text " event ".toList, .output (.attr (.name "event") "id"),
    .text " for ".toList, .output (.attr (.attr (.name "context") "source") "type"),
    .text " ".toList, .output (.attr (.attr (.name "context") "source") "id"),
    .text ".".toList]

/-- A template is read by cutting it into parts and reading these to the end. -/
theorem ofTemplate_eq {template : String} {parts : List Part} {statements : List Statement}
    (cut : (Part.ofTemplate template).toOption = some parts)
    (read : Statement.body (3 * (parts.length + 1)) [] parts = some (statements, [], [])) :
    Statement.ofTemplate template = .ok statements := by
  rw [Statement.ofTemplate]
  cases found : Part.ofTemplate template with
  | error e =>
      rw [found] at cut
      cases cut
  | ok _ =>
      rw [found] at cut
      cases cut
      dsimp only
      rw [read]

theorem subject_statements :
    Statement.ofTemplate Notice.subjectTemplate = .ok subjectStatements := by
  have cut : (Part.ofTemplate Notice.subjectTemplate).toOption = some subjectParts := by
    decide +kernel
  exact ofTemplate_eq cut rfl

theorem body_statements : Statement.ofTemplate Notice.bodyTemplate = .ok bodyStatements := by
  have cut : (Part.ofTemplate Notice.bodyTemplate).toOption = some bodyParts := by
    decide +kernel
  exact ofTemplate_eq cut rfl

/-! ## Running them -/

variable {env : Environment} {context : List (String × Datum)}

theorem eval_name {s : String} {d : Datum} (found : Keyed.get? s context = some d) :
    (Expr.name s).eval env [[], context] = .ok d := by
  have own : Keyed.get? s ([] : List (String × Datum)) = none := rfl
  rw [Expr.eval, Frames.lookup, List.findSome?_cons, own, List.findSome?_cons, found]
  rfl

theorem eval_attr {e : Expr} {frames : Frames} {entries : List (String × Datum)} {key : String}
    {d : Datum} (there : e.eval env frames = .ok (.map entries))
    (found : Keyed.get? key entries = some d) : (Expr.attr e key).eval env frames = .ok d := by
  rw [Expr.eval, there]
  show Datum.attr key (.map entries) = .ok d
  rw [Datum.attr, found, Option.getD_some]

theorem runAll_text (frames : Frames) (out chars : List Char) (rest : List Statement) :
    Statement.runAll env ⟨frames, out⟩ (.text chars :: rest) =
      Statement.runAll env ⟨frames, out ++ chars⟩ rest := by
  rw [Statement.runAll, Statement.run]
  rfl

/-- What an expression comes to is put out as it stands. -/
theorem runAll_output {frames : Frames} {e : Expr} {d : Datum} (value : e.eval env frames = .ok d)
    (out : List Char) (rest : List Statement) :
    Statement.runAll env ⟨frames, out⟩ (.output e :: rest) =
      Statement.runAll env ⟨frames, out ++ d.display⟩ rest := by
  rw [Statement.runAll, Statement.run, value]
  rfl

theorem runAll_nil (p : Progress) : Statement.runAll env p [] = .ok p := by
  rw [Statement.runAll]

/-- An entry of an object is an entry of its datum. -/
theorem get?_ofEntries {key : String} {v : Value} {fields : List (String × Value)}
    (found : Keyed.get? key fields = some v) :
    Keyed.get? key (Datum.ofEntries (Value.toEntries fields)) = some (Datum.ofTree v.toTree) := by
  induction fields with
  | nil => cases found
  | cons field fields ih =>
      obtain ⟨k, w⟩ := field
      rw [Value.toEntries, Datum.ofEntries, Keyed.get?_cons]
      rw [Keyed.get?_cons] at found
      split at found
      · rename_i here
        cases found
        rw [if_pos here]
      · rename_i other
        rw [if_neg other, ih found]

theorem render_of_runAll {template : String} {statements : List Statement} {p : Progress}
    (read : Statement.ofTemplate template = .ok statements)
    (ran : Statement.runAll env ⟨[[], context], []⟩ statements = .ok p) :
    render env template context = .ok (String.ofList p.out) := by
  rw [render, read]
  show (Statement.runAll env ⟨[[], context], []⟩ statements).bind _ = _
  rw [ran]
  rfl

/-! ## The two templates -/

/-- The subject is the title, whatever characters it has. -/
theorem render_subject (env : Environment) (notice : Notice) :
    render env Notice.subjectTemplate notice.templateContext = .ok notice.title := by
  have title : (Expr.attr (.name "event") "title").eval env [[], notice.templateContext] =
      .ok (.text notice.title) := eval_attr (eval_name rfl) rfl
  have ran : Statement.runAll env ⟨[[], notice.templateContext], []⟩ subjectStatements =
      .ok ⟨[[], notice.templateContext], notice.title.toList⟩ := by
    have display : (Datum.text notice.title).display = notice.title.toList := rfl
    rw [subjectStatements, runAll_text, runAll_output title, runAll_text, runAll_nil, display]
    simp
  rw [render_of_runAll subject_statements ran, String.ofList_toList]

/-- The body names the rule, the event and the record. -/
theorem render_body (env : Environment) {notice : Notice} (source : notice.HasSource) :
    ∃ body, render env Notice.bodyTemplate notice.templateContext = .ok body := by
  obtain ⟨fields, recordType, id, object, found⟩ := source
  have rule : (Expr.attr (.name "rule") "name").eval env [[], notice.templateContext] =
      .ok (.text notice.ruleName) := eval_attr (eval_name rfl) rfl
  have eventType : (Expr.attr (.name "event") "event_type").eval env
      [[], notice.templateContext] = .ok (.text notice.eventType) := eval_attr (eval_name rfl) rfl
  have event : (Expr.attr (.name "event") "id").eval env [[], notice.templateContext] =
      .ok (.text notice.eventId) := eval_attr (eval_name rfl) rfl
  have data : Keyed.get? "context" notice.templateContext =
      some (.map (Datum.ofEntries (Value.toEntries fields))) := by
    show some (Datum.ofTree notice.context.toTree) = _
    rw [object]
    rfl
  have record : (Expr.attr (.name "context") "source").eval env [[], notice.templateContext] =
      .ok (.map [("id", .text id), ("type", .text recordType)]) :=
    eval_attr (eval_name data) (get?_ofEntries found)
  have recordType' : (Expr.attr (.attr (.name "context") "source") "type").eval env
      [[], notice.templateContext] = .ok (.text recordType) := eval_attr record rfl
  have recordId : (Expr.attr (.attr (.name "context") "source") "id").eval env
      [[], notice.templateContext] = .ok (.text id) := eval_attr record rfl
  obtain ⟨p, ran⟩ : ∃ p, Statement.runAll env ⟨[[], notice.templateContext], []⟩ bodyStatements =
      .ok p := by
    rw [bodyStatements, runAll_text, runAll_output rule, runAll_text, runAll_output eventType,
      runAll_text, runAll_output event, runAll_text, runAll_output recordType', runAll_text,
      runAll_output recordId, runAll_text, runAll_nil]
    exact ⟨_, rfl⟩
  exact ⟨_, render_of_runAll body_statements ran⟩

/-- **The renderer of message templates is faithful**, with any environment. -/
theorem faithful_renderer (env : Environment) : (renderer env).Faithful where
  subject notice := by
    rw [renderer, render_subject]
  body notice source := by
    obtain ⟨body, rendered⟩ := render_body env source
    refine ⟨body, ?_⟩
    rw [renderer, rendered]

end Markup
end EventRules
