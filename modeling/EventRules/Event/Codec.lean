/-
# EventRules.Event.Codec -- events in documents

A stored event decodes from an open map in which everything may be missing.
Stored and new events are written with their instants as stamps; what a new event
does not have -- a recurrence, a group -- is left out.
-/
import EventRules.Event.Basic
import EventRules.Rule.Codec
namespace EventRules

set_option autoImplicit false

/-- Decode an instant: a text that is a loose stamp. -/
def Instant.decode : Tree → Decoded Instant
  | .text s =>
      match Instant.ofStamp? s with
      | some t => .ok t
      | none => .error .other
  | _ => .error .invalidType

/-- An instant as a document. -/
def Instant.encode (t : Instant) : Tree := .text t.stamp

namespace StoredEvent

/-- The parts of a stored event. -/
def slots (d : Dialect) : Slots StoredEvent :=
  (Slots.none StoredEvent.mk)
    |>.and (Slots.withDefault "" "id" (Decode.text d))
    |>.and (Slots.withDefault .point "time_kind" (TimeKind.decode d))
    |>.and (Slots.optional "start" Instant.decode)
    |>.and (Slots.optional "end" Instant.decode)
    |>.and (Slots.optional "provenance_tag" (Decode.text d))

/-- Decode a stored event. -/
def decode (t : Tree) : Decoded StoredEvent := (slots .direct).decode false .direct t

/-- A stored event as a document. -/
def encode (event : StoredEvent) : Tree :=
  .map [("id", .text event.id), ("time_kind", .text event.timeKind.name),
    ("start", Tree.ofOption Instant.encode event.start),
    ("end", Tree.ofOption Instant.encode event.finish),
    ("provenance_tag", Tree.ofOption Tree.ofText event.provenanceTag)]

end StoredEvent

namespace NewEvent

/-- A group reference as a document. -/
def encodeGroup (group : GroupTag) : Tree :=
  .map [("group_type", .text group.groupType), ("group_id", .text group.groupId)]

/-- A participant as a document. -/
def encodeParticipant (p : Participant) : Tree :=
  .map [("ref_type", .text p.refType), ("ref_id", .text p.refId)]

/-- An entry that is left out when it is unset. -/
def entryOf {α : Type} (key : String) (leaf : α → Tree) : Option α → List (String × Tree)
  | some a => [(key, leaf a)]
  | none => []

/-- A new event as a document. -/
def encode (event : NewEvent) : Tree :=
  .map ([("event_type", .text event.eventType), ("actor_id", .text event.actorId),
    ("payload", (Value.object event.payload).toTree), ("time_kind", .text event.timeKind.name),
    ("start", Tree.ofOption Instant.encode event.start),
    ("end", Tree.ofOption Instant.encode event.finish), ("all_day", .bool event.allDay)]
    ++ entryOf "recurrence" (fun r => .text r.name) event.recurrence
    ++ entryOf "group" encodeGroup event.group
    ++ [("participants", .list (event.participants.map encodeParticipant)),
      ("visibility_default", .text event.visibilityDefault.name),
      ("provenance_tag", .text event.provenanceTag)])

end NewEvent
end EventRules
