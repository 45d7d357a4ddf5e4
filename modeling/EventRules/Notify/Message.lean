/-
# EventRules.Notify.Message -- notices as notifications

Each accepted event is told to the notify hook, which renders a subject and a body
from two fixed templates and sends them through its channels.  The hook fails when
a channel failed, and its error lists these channels.

How templates are rendered is a parameter: a renderer takes a template and named
data.  `Markup.renderer` is the one that the hook uses.
-/
import EventRules.Notify.Channel
import EventRules.Dispatch.Outlet
import EventRules.Markup.Render
namespace EventRules

set_option autoImplicit false

/-- A way to render message templates. -/
abbrev Renderer := String → List (String × Markup.Datum) → Except ChannelError String

/-- The renderer of message templates, with the variables of an environment. -/
def Markup.renderer (env : Environment) : Renderer := fun template context =>
  match Markup.render env template context with
  | .ok s => .ok s
  | .error _ => .error (.template "the template does not render")

namespace Notice

open Markup (Datum)

/-- What a template can read about an event. -/
def templateContext (notice : Notice) : List (String × Datum) :=
  [("rule", .map [("id", .text notice.ruleId), ("name", .text notice.ruleName),
      ("scope", .text notice.scope.name)]),
    ("event", .map [("id", .text notice.eventId), ("event_type", .text notice.eventType),
      ("title", .text notice.title)]),
    ("subject", Datum.ofTree notice.subject.toTree),
    ("context", Datum.ofTree notice.context.toTree)]

/-- The template of subjects. -/
def subjectTemplate : String := "\x7b\x7b event.title \x7d\x7d"

/-- The template of bodies. -/
def bodyTemplate : String :=
  "Rule '\x7b\x7b rule.name \x7d\x7d' created \x7b\x7b event.event_type \x7d\x7d event " ++
    "\x7b\x7b event.id \x7d\x7d for \x7b\x7b context.source.type \x7d\x7d " ++
    "\x7b\x7b context.source.id \x7d\x7d."

/-- The notification about an event. -/
def notification (render : Renderer) (notice : Notice) : Except ChannelError Notification :=
  match render subjectTemplate notice.templateContext with
  | .error e => .error e
  | .ok subject =>
      match render bodyTemplate notice.templateContext with
      | .error e => .error e
      | .ok body =>
          .ok ⟨subject, body,
            [("rule_id", notice.ruleId), ("event_id", notice.eventId),
              ("event_type", notice.eventType), ("scope", notice.scope.name)]⟩

end Notice

/-- What the notify hook remembers: the state of its channels, and every delivery
that it tried, in order. -/
structure NotifyState (κ : Type) where
  channels : κ
  deliveries : List Delivery

namespace NotifyHook

variable {κ : Type}

/-- The error of the channels that failed, if any did. -/
def outcome (deliveries : List Delivery) : Except HookFault Unit :=
  match Delivery.failures deliveries with
  | [] => .ok ()
  | failed =>
      .error (.delivery (String.intercalate "; "
        (failed.map fun f => f.1 ++ ": " ++ f.2.message)))

/-- Render a notice and send it through every channel. -/
def notify (render : Renderer) (channels : List (Channel κ)) (state : NotifyState κ)
    (notice : Notice) : Except HookFault Unit × NotifyState κ :=
  match notice.notification render with
  | .error e => (.error (.config e.message), state)
  | .ok notification =>
      let (deliveries, after) := Channel.fanOut notification channels state.channels
      (outcome deliveries, ⟨after, state.deliveries ++ deliveries⟩)

/-- The hook that notifies channels. -/
def hook (render : Renderer) (channels : List (Channel κ)) : Hook (NotifyState κ) where
  notify := notify render channels

end NotifyHook
end EventRules
