/-
# EventRules.Markup.Render -- the text of a message template

A template is rendered over a context of named data.  Names are looked up in the
frames of bindings, innermost first, and then in the context; a name without a
meaning is something that is not there, which puts out nothing but has no
attributes.  A loop binds `loop` beside its target, and its frame stays for the
whole loop.
-/
import EventRules.Markup.Filter
namespace EventRules.Markup

set_option autoImplicit false

/-- Bindings, innermost frame first; the last frame is the context. -/
abbrev Frames := List (List (String × Datum))

namespace Frames

/-- The datum of a name. -/
def lookup (frames : Frames) (name : String) : Datum :=
  (frames.findSome? fun frame => Keyed.get? name frame).getD .undefined

/-- Bind a name in the innermost frame. -/
def bind (frames : Frames) (name : String) (d : Datum) : Frames :=
  match frames with
  | frame :: rest => Keyed.put name d frame :: rest
  | [] => [[(name, d)]]

mutual
/-- Bind a target: a name to the datum, a list of targets to its items. -/
def bindTarget (frames : Frames) (d : Datum) : Target → Except Fault Frames
  | .name s => .ok (frames.bind s d)
  | .list targets =>
      match d with
      | .list items => bindTargets frames items targets
      | _ => .error .badOperand

/-- Bind targets to items, one to one. -/
def bindTargets (frames : Frames) (items : List Datum) : List Target → Except Fault Frames
  | [] => if items.isEmpty then .ok frames else .error .badOperand
  | t :: targets =>
      match items with
      | [] => .error .badOperand
      | d :: rest =>
          match bindTarget frames d t with
          | .ok frames => bindTargets frames rest targets
          | .error e => .error e
end

end Frames

namespace Expr

/-- The bounds that a loop cycles through, at its place. -/
def cycle (loop : Datum) (args : Arguments) : Except Fault Datum := do
  let args ← args.plain?
  let index ← loop.attr "index0"
  match index.int? with
  | some n =>
      if args.isEmpty then .error .badArgument
      else .ok (args.getD (n.toNat % args.length) .undefined)
  | none => .error .badOperand

mutual
/-- The datum of an expression. -/
def eval (env : Environment) (frames : Frames) : Expr → Except Fault Datum
  | .name s => .ok (frames.lookup s)
  | .const d => .ok d
  | .list items => (evalItems env frames items).map .list
  | .map entries => (evalEntries env frames entries).map fun es => .map (Keyed.gather es)
  | .attr of key => do (← eval env frames of).attr key
  | .item of key => do
      let d ← eval env frames of
      Datum.item (← eval env frames key) d
  | .slice of start stop step => do
      Datum.slice (← eval env frames of) (← eval env frames start) (← eval env frames stop)
        (← eval env frames step)
  | .neg of => do (← eval env frames of).negated
  | .not of => do return .bool !(← eval env frames of).isTrue
  | .binary op left right => do
      let l ← eval env frames left
      match op, l.isTrue with
      | .and, false => .ok l
      | .or, true => .ok l
      | op, _ => Datum.operate op l (← eval env frames right)
  | .choice condition whenTrue whenFalse => do
      if (← eval env frames condition).isTrue then eval env frames whenTrue
      else eval env frames whenFalse
  | .filter of label args => do
      let d ← eval env frames of
      Filter.apply label d (← evalArguments env frames args)
  | .test of label args => do
      let d ← eval env frames of
      Test.apply label d (← evalArguments env frames args)
  | .call (.name s) args => do
      let args ← evalArguments env frames args
      match frames.lookup s with
      | .undefined => Function.apply env s args
      | _ => .error (.unknownFunction s)
  | .call (.attr of label) args => do
      let d ← eval env frames of
      let args ← evalArguments env frames args
      match d with
      | .undefined => .error .undefinedValue
      | d => if label = "cycle" then cycle d args else .error (.unknownFunction label)
  | .call of _ => do
      let _ ← eval env frames of
      .error .badOperand

/-- The data of a list of expressions. -/
def evalItems (env : Environment) (frames : Frames) : List Expr → Except Fault (List Datum)
  | [] => .ok []
  | e :: rest => do
      let d ← eval env frames e
      return d :: (← evalItems env frames rest)

/-- The entries of a map; keys are texts. -/
def evalEntries (env : Environment) (frames : Frames) :
    List (Expr × Expr) → Except Fault (List (String × Datum))
  | [] => .ok []
  | (k, e) :: rest => do
      let key ← eval env frames k
      let d ← eval env frames e
      return (key.toText, d) :: (← evalEntries env frames rest)

/-- The data of arguments, with their names. -/
def evalArguments (env : Environment) (frames : Frames) :
    List (String × Expr) → Except Fault Arguments
  | [] => .ok []
  | (label, e) :: rest => do
      let d ← eval env frames e
      return (label, d) :: (← evalArguments env frames rest)
end

end Expr

/-- What a template has put out, and its bindings. -/
structure Progress where
  frames : Frames
  out : List Char

namespace Statement

/-- Apply filters one after the other. -/
def filtered? (env : Environment) (frames : Frames) :
    List FilterCall → Datum → Except Fault Datum
  | [], d => .ok d
  | f :: rest, d => do
      let args ← Expr.evalArguments env frames f.args
      filtered? env frames rest (← Filter.apply f.name d args)

/-- Whether the condition of a loop lets an item through. -/
def admits (env : Environment) (frames : Frames) (t : Target) (only : Option Expr) (d : Datum) :
    Except Fault Bool :=
  match only with
  | none => .ok true
  | some c => do
      let inner ← Frames.bindTarget ([] :: frames) d t
      return (← c.eval env inner).isTrue

/-- The items of a loop that its condition lets through. -/
def selected (env : Environment) (frames : Frames) (t : Target) (only : Option Expr) :
    List Datum → Except Fault (List Datum)
  | [] => .ok []
  | d :: rest => do
      let keep ← admits env frames t only d
      let more ← selected env frames t only rest
      return if keep then d :: more else more

/-- What a loop knows about its place, at an index among items. -/
def loopDatum (items : List Datum) (index : Nat) : Datum :=
  let number := fun (n : Nat) => Datum.number (.int n)
  .map [("index", number (index + 1)), ("index0", number index),
    ("revindex", number (items.length - index)), ("revindex0", number (items.length - index - 1)),
    ("first", .bool (index == 0)), ("last", .bool (index + 1 == items.length)),
    ("length", number items.length), ("depth", number 1), ("depth0", number 0),
    ("previtem", if index = 0 then .undefined else items.getD (index - 1) .undefined),
    ("nextitem", items.getD (index + 1) .undefined)]

/-- Bind names in a new frame, each seeing those before. -/
def bindAll (env : Environment) : Frames → List (Target × Expr) → Except Fault Frames
  | frames, [] => .ok frames
  | frames, (t, e) :: rest => do
      let d ← e.eval env frames
      bindAll env (← frames.bindTarget d t) rest

mutual
/-- Run one statement. -/
def run (env : Environment) (p : Progress) : Statement → Except Fault Progress
  | .text chars => .ok { p with out := p.out ++ chars }
  | .output e => do return { p with out := p.out ++ (← e.eval env p.frames).display }
  | .choose condition whenTrue whenFalse => do
      if (← condition.eval env p.frames).isTrue then runAll env p whenTrue
      else runAll env p whenFalse
  | .loop t source only body whenNone => do
      match (← source.eval env p.frames).items? with
      | none => .error .badOperand
      | some items => do
          let items ← selected env p.frames t only items
          if items.isEmpty then runAll env p whenNone
          else do
            let inside ← (items.zipIdx).foldlM (fun q e => do
              let frames := q.frames.bind "loop" (loopDatum items e.2)
              runAll env { q with frames := ← frames.bindTarget e.1 t } body)
              { p with frames := [] :: p.frames }
            return { p with out := inside.out }
  | .set t e => do
      let d ← e.eval env p.frames
      return { p with frames := ← p.frames.bindTarget d t }
  | .capture name filters body => do
      let inside ← runAll env ⟨[] :: p.frames, []⟩ body
      let d ← filtered? env p.frames filters (.text (String.ofList inside.out))
      return { p with frames := p.frames.bind name d }
  | .scope bindings body => do
      let frames ← bindAll env ([] :: p.frames) bindings
      let inside ← runAll env { p with frames := frames } body
      return { p with out := inside.out }
  | .filtered filters body => do
      let inside ← runAll env ⟨[] :: p.frames, []⟩ body
      let d ← filtered? env p.frames filters (.text (String.ofList inside.out))
      return { p with out := p.out ++ d.display }
  | .evaluate e => do
      let _ ← e.eval env p.frames
      return p
  | .foreign => .error .missingTemplate

/-- Run statements in order. -/
def runAll (env : Environment) (p : Progress) : List Statement → Except Fault Progress
  | [] => .ok p
  | s :: rest => do runAll env (← run env p s) rest
end

end Statement

/-- The text of a template over a context. -/
def render (env : Environment) (template : String) (context : List (String × Datum)) :
    Except Fault String := do
  let statements ← Statement.ofTemplate template
  let p ← Statement.runAll env ⟨[[], context], []⟩ statements
  return String.ofList p.out

end EventRules.Markup
