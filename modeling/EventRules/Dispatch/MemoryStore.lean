/-
# EventRules.Dispatch.MemoryStore -- events kept in memory

The memory store takes every event and numbers them in the order of creation.
`EventStore.refusing` stands before a store and refuses some types of events.
-/
import EventRules.Dispatch.Outlet
import EventRules.Text.Digits
namespace EventRules

set_option autoImplicit false

/-- The events created so far, with their ids, in order. -/
structure MemoryStore where
  events : List (EventId × NewEvent)

namespace MemoryStore

/-- No events. -/
def empty : MemoryStore := ⟨[]⟩

/-- The id of the `n`-th event, counted from zero. -/
def idOf (n : Nat) : EventId := "ev-" ++ String.ofList (Text.ofNat (n + 1))

/-- Keep an event under the next id. -/
def create (memory : MemoryStore) (event : NewEvent) : Except StoreError EventId × MemoryStore :=
  let id := idOf memory.events.length
  (.ok id, ⟨memory.events ++ [(id, event)]⟩)

/-- The memory as an event store. -/
def store : EventStore MemoryStore := ⟨create⟩

end MemoryStore

/-- A store that refuses the event types of a table, each with its error. -/
def EventStore.refusing {σ : Type} (table : List (String × StoreError)) (store : EventStore σ) :
    EventStore σ where
  create state event :=
    match Keyed.get? event.eventType table with
    | some error => (.error error, state)
    | none => store.create state event

end EventRules
