/-
# EventRules.Dispatch.Outlet -- where events go

An event store takes each offered event and answers with an id or a refusal; a
hook is told of each accepted event and may fail.  Both may remember what they
were given: they are functions on a state.  An outlet is a store with a hook or
without one.
-/
import EventRules.Event.Basic
namespace EventRules

set_option autoImplicit false

/-- Why a store did not take an event. -/
inductive StoreError where
  | rejected (reason : String)
  | unavailable (reason : String)
  deriving DecidableEq, Repr

/-- The wording. -/
def StoreError.message : StoreError → String
  | rejected reason => "event rejected: " ++ reason
  | unavailable reason => "event store unavailable: " ++ reason

/-- Why a hook failed. -/
inductive HookFault where
  | delivery (reason : String)
  | config (reason : String)
  deriving DecidableEq, Repr

/-- The wording. -/
def HookFault.message : HookFault → String
  | delivery reason => "hook delivery failed: " ++ reason
  | config reason => "hook misconfigured: " ++ reason

/-- What a hook is told about an accepted event. -/
structure Notice where
  scope : Scope
  ruleId : String
  ruleName : String
  eventId : EventId
  eventType : String
  title : String
  subject : Value
  context : Value
  deriving DecidableEq

/-- A store of events, over a state. -/
structure EventStore (σ : Type) where
  create : σ → NewEvent → Except StoreError EventId × σ

/-- A hook, over a state. -/
structure Hook (η : Type) where
  notify : η → Notice → Except HookFault Unit × η

/-- A store and the hook beside it, if there is one. -/
structure Outlet (σ η : Type) where
  store : EventStore σ
  hook : Option (Hook η)

namespace Outlet

variable {σ η : Type}

/-- Tell the hook of an event; without a hook there is no answer. -/
def tell (outlet : Outlet σ η) (state : η) (notice : Notice) :
    Option (Except HookFault Unit) × η :=
  match outlet.hook with
  | some hook =>
      let (answer, state) := hook.notify state notice
      (some answer, state)
  | none => (none, state)

end Outlet
end EventRules
