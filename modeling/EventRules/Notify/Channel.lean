/-
# EventRules.Notify.Channel -- notifications and channels

A notification is a subject and a body with a few facts about the event.  A
channel delivers it or says why not; what channels remember is a state that they
share.  `Channel.fanOut` tries every channel in order, and a channel that fails
does not stop those after it.
-/
import EventRules.Rule.Basic
import EventRules.Text.Digits
namespace EventRules

set_option autoImplicit false

/-- A message about one event. -/
structure Notification where
  subject : String
  body : String
  /-- The ids and the type of the event and the rule, and the scope. -/
  metadata : List (String × String)
  deriving DecidableEq, Repr

/-- Why a channel did not deliver. -/
inductive ChannelError where
  /-- The endpoint could not be reached. -/
  | http (reason : String)
  /-- The endpoint answered with a failure. -/
  | status (code : Nat) (body : String)
  | template (reason : String)
  | config (reason : String)
  deriving DecidableEq, Repr

/-- The wording. -/
def ChannelError.message : ChannelError → String
  | http reason => "webhook request failed: " ++ reason
  | status code body => "endpoint returned " ++ String.ofList (Text.ofNat code) ++ ": " ++ body
  | template reason => "template error: " ++ reason
  | config reason => "notifier misconfigured: " ++ reason

/-- A channel, over a state. -/
structure Channel (κ : Type) where
  name : String
  send : κ → Notification → Except ChannelError Unit × κ

/-- What came of sending a notification through a channel. -/
structure Delivery where
  channel : String
  notification : Notification
  result : Except ChannelError Unit

namespace Delivery

/-- The channel and its error, if it failed. -/
def failure? (d : Delivery) : Option (String × ChannelError) :=
  match d.result with
  | .ok _ => none
  | .error e => some (d.channel, e)

/-- The channels that failed, in order. -/
def failures (deliveries : List Delivery) : List (String × ChannelError) :=
  deliveries.filterMap failure?

end Delivery

namespace Channel

variable {κ : Type}

/-- Send a notification through every channel, in order. -/
def fanOut (notification : Notification) : List (Channel κ) → κ → List Delivery × κ
  | [], state => ([], state)
  | channel :: rest, state =>
      let (result, state) := channel.send state notification
      let (deliveries, state) := fanOut notification rest state
      (⟨channel.name, notification, result⟩ :: deliveries, state)

end Channel
end EventRules
