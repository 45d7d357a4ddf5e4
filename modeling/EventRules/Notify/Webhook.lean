/-
# EventRules.Notify.Webhook -- notifications over HTTP

A webhook sends each notification to one address, as JSON or as the text of a body
template.  Its settings are checked when it is built: the method, then the body
template, then the variables in the address.  A failure of the endpoint is an
error with the code and the text that it answered.
-/
import EventRules.Notify.Message
import EventRules.Notify.EnvReference
import EventRules.Notify.Url
import EventRules.Json.Writer
namespace EventRules

set_option autoImplicit false

/-- A request to an endpoint. -/
structure HttpRequest where
  method : String
  url : String
  contentType : String
  body : String
  deriving DecidableEq, Repr

/-- The answer of an endpoint. -/
structure HttpResponse where
  status : Nat
  body : String
  deriving DecidableEq, Repr

/-- An endpoint answers a request, or cannot be reached. -/
abbrev Transport := HttpRequest → Except String HttpResponse

/-- A webhook whose settings are in order. -/
structure Webhook where
  url : String
  method : String
  bodyTemplate : Option String
  deriving DecidableEq, Repr

namespace Notification

/-- A notification as a document. -/
def encode (n : Notification) : Tree :=
  .map [("subject", .text n.subject), ("body", .text n.body),
    ("metadata", .map (Keyed.ofList (n.metadata.map fun e => (e.1, .text e.2))))]

/-- The text of a body template about a notification. -/
def fill (render : Renderer) (template : String) (n : Notification) :
    Except ChannelError String :=
  render template [("notification", Markup.Datum.ofTree n.encode)]

end Notification

namespace Webhook

/-- Whether a character may stand in the name of a method. -/
def inMethod (c : Char) : Bool :=
  c.isAlphanum || "!#$%&'*+-.^_`|~".toList.contains c

/-- The method of a request: the given one in upper case. -/
def method? (given : String) : Option String :=
  let name := Text.upper given
  if name != "" && name.toList.all inMethod then some name else none

/-- Build a webhook from its settings; there is none without an address. -/
def ofSettings (env : Environment) (settings : HookSettings) :
    Except ChannelError (Option Webhook) :=
  match settings.url with
  | none => .ok none
  | some url =>
      let given := settings.method.getD "POST"
      match method? given with
      | none => .error (.config ("invalid HTTP method: " ++ given))
      | some method =>
          if settings.bodyTemplate.all Markup.isWellFormed then
            match EnvReference.expand env url with
            | .ok url => .ok (some ⟨url, method, settings.bodyTemplate⟩)
            | .error fault => .error (.config (fault.message url))
          else .error (.config "invalid body template")

/-- The body of the request about a notification. -/
def body (render : Renderer) (hook : Webhook) (n : Notification) : Except ChannelError String :=
  match hook.bodyTemplate with
  | some template => n.fill render template
  | none => .ok (Json.write n.encode)

/-- The request about a notification. -/
def request (render : Renderer) (hook : Webhook) (n : Notification) :
    Except ChannelError HttpRequest :=
  (hook.body render n).map fun body => ⟨hook.method, hook.url, "application/json", body⟩

/-- Whether a status says that the request was accepted. -/
def isSuccess (status : Nat) : Bool := 200 ≤ status && status < 300

/-- What an answer means. -/
def judge : Except String HttpResponse → Except ChannelError Unit
  | .error reason => .error (.http reason)
  | .ok response =>
      if isSuccess response.status then .ok ()
      else .error (.status response.status response.body)

/-- Send a notification. -/
def send (render : Renderer) (transport : Transport) (hook : Webhook) (n : Notification) :
    Except ChannelError Unit :=
  match hook.request render n with
  | .error e => .error e
  | .ok request => judge (transport request)

/-- The webhook as a channel. -/
def channel (render : Renderer) (transport : Transport) (hook : Webhook) : Channel Unit where
  name := "webhook"
  send _ n := (hook.send render transport n, ())

end Webhook
end EventRules
