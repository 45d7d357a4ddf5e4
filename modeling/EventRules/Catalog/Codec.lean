/-
# EventRules.Catalog.Codec -- catalogs in documents

Catalogs and event types decode from closed maps.  The fields of a catalog are a
map from keys to kinds whose order counts.  `FieldCatalog.outline` is the answer
form of a catalog, where that order shows.
-/
import EventRules.Catalog.Basic
import EventRules.Rule.Codec
namespace EventRules

set_option autoImplicit false

namespace FieldTable

/-- Decode the fields of a catalog. -/
def decode (d : Dialect) (t : Tree) : Decoded FieldTable :=
  (Decode.entries (Decode.choice (Decode.named FieldKind.all FieldKind.name) d) t).map ofList

/-- The fields as a list of pairs. -/
def outline (table : FieldTable) : Tree :=
  .list (table.entries.map fun e => .list [.text e.1, .text e.2.name])

end FieldTable

namespace MemberCatalog

/-- The parts of a member catalog. -/
def slots (d : Dialect) : Slots MemberCatalog :=
  (Slots.none MemberCatalog.mk)
    |>.and (Slots.withDefault "members" "list_field" (Decode.text d))
    |>.and (Slots.withDefault "id" "key_field" (Decode.text d))
    |>.and (Slots.required "fields" (FieldTable.decode d))

/-- Decode a member catalog. -/
def decode (d : Dialect) (t : Tree) : Decoded MemberCatalog := (slots d).decode true d t

/-- The member catalog of a table, with the usual field names. -/
def ofTable (fields : FieldTable) : MemberCatalog := ⟨"members", "id", fields⟩

/-- A member catalog in answers. -/
def outline (members : MemberCatalog) : Tree :=
  .map [("list_field", .text members.listField), ("key_field", .text members.keyField),
    ("fields", members.fields.outline)]

end MemberCatalog

namespace FieldCatalog

/-- The parts of a field catalog. -/
def slots (d : Dialect) : Slots FieldCatalog :=
  (Slots.none FieldCatalog.mk)
    |>.and (Slots.required "record_type" (Decode.text d))
    |>.and (Slots.required "fields" (FieldTable.decode d))
    |>.and (Slots.optional "members" (MemberCatalog.decode d))

/-- Decode a field catalog. -/
def decode (d : Dialect) (t : Tree) : Decoded FieldCatalog := (slots d).decode true d t

/-- A field catalog in answers. -/
def outline (catalog : FieldCatalog) : Tree :=
  .map [("record_type", .text catalog.recordType), ("fields", catalog.fields.outline),
    ("members", Tree.ofOption MemberCatalog.outline catalog.members)]

end FieldCatalog

namespace EventType

/-- The parts of an event type. -/
def slots (d : Dialect) : Slots EventType :=
  (Slots.none EventType.mk)
    |>.and (Slots.required "name" (Decode.text d))
    |>.and (Slots.required "time_kinds" (Decode.list (TimeKind.decode d)))
    |>.and (Slots.withDefault false "all_day" Decode.bool)

/-- Decode an event type. -/
def decode (d : Dialect) (t : Tree) : Decoded EventType := (slots d).decode true d t

/-- An event type as a document. -/
def encode (type : EventType) : Tree :=
  .map [("name", .text type.name),
    ("time_kinds", .list (type.timeKinds.map fun kind => .text kind.name)),
    ("all_day", .bool type.allDay)]

end EventType
end EventRules
