/-
# EventRules.Catalog.Basic -- field catalogs and event types

A field catalog lists the fields of one record type with their kinds.  The order
of the fields counts: writes are examined field by field in catalog order.  A
group type also has a member catalog for the members inside its records.

An event type lists the time kinds that its events may have.  `Catalogs` holds
the catalogs and event types by name, names ascending.
-/
import EventRules.Keyed
namespace EventRules

set_option autoImplicit false

/-- The declared kind of a field. -/
inductive FieldKind where
  | text | number | boolean | date | list | object
  deriving DecidableEq, Repr

/-- The temporal shape of an event. -/
inductive TimeKind where
  | point | interval | deadline | recurringMonthly | recurringYearly
  /-- A kind that is not known here; its events are placed like points. -/
  | unrecognized
  deriving DecidableEq, Repr

namespace FieldKind

/-- Every kind. -/
def all : List FieldKind := [text, number, boolean, date, list, object]

/-- The name in documents. -/
def name : FieldKind → String
  | text => "text"
  | number => "number"
  | boolean => "boolean"
  | date => "date"
  | list => "list"
  | object => "object"

/-- The name in messages. -/
def label : FieldKind → String
  | text => "Text"
  | number => "Number"
  | boolean => "Boolean"
  | date => "Date"
  | list => "List"
  | object => "Object"

end FieldKind

namespace TimeKind

/-- Every kind that a document can name. -/
def known : List TimeKind := [point, interval, deadline, recurringMonthly, recurringYearly]

/-- The name in documents. -/
def name : TimeKind → String
  | point => "point"
  | interval => "interval"
  | deadline => "deadline"
  | recurringMonthly => "recurring_monthly"
  | recurringYearly => "recurring_yearly"
  | unrecognized => "unrecognized"

end TimeKind

/-- The fields of a catalog with their kinds, in order, no key twice. -/
structure FieldTable where
  entries : List (String × FieldKind)
  distinct : (Keyed.keys entries).Nodup

namespace FieldTable

/-- The fields of a list of entries; a repeated key keeps its first place and its
last kind. -/
def ofList (entries : List (String × FieldKind)) : FieldTable :=
  ⟨Keyed.gather entries, Keyed.nodup_gather entries⟩

instance : Inhabited FieldTable := ⟨ofList []⟩

/-- The field keys, in order. -/
def keys (table : FieldTable) : List String := Keyed.keys table.entries

/-- The declared kind of a field. -/
def kind? (table : FieldTable) (key : String) : Option FieldKind :=
  Keyed.get? key table.entries

end FieldTable

/-- The fields of the members inside a group record. -/
structure MemberCatalog where
  /-- The field of the record that holds the members. -/
  listField : String
  /-- The field of a member that holds its key. -/
  keyField : String
  fields : FieldTable

/-- The fields of one record type. -/
structure FieldCatalog where
  recordType : String
  fields : FieldTable
  /-- Present only for group types. -/
  members : Option MemberCatalog

/-- A type of events and the time kinds that it permits. -/
structure EventType where
  name : String
  timeKinds : List TimeKind
  allDay : Bool

/-- Whether an event type permits a time kind. -/
def EventType.permits (type : EventType) (kind : TimeKind) : Bool :=
  type.timeKinds.contains kind

/-- Catalogs and event types by name. -/
structure Catalogs where
  records : List (String × FieldCatalog)
  eventTypes : List (String × EventType)

namespace Catalogs

/-- No catalogs and no event types. -/
def empty : Catalogs := ⟨[], []⟩

/-- Add a catalog; it replaces one of the same record type. -/
def addRecord (set : Catalogs) (catalog : FieldCatalog) : Catalogs :=
  { set with records := Keyed.insert catalog.recordType catalog set.records }

/-- Add an event type; it replaces one of the same name. -/
def addEventType (set : Catalogs) (type : EventType) : Catalogs :=
  { set with eventTypes := Keyed.insert type.name type set.eventTypes }

/-- The catalogs and event types of two lists, later ones replacing earlier ones. -/
def ofLists (records : List FieldCatalog) (eventTypes : List EventType) : Catalogs :=
  eventTypes.foldl addEventType (records.foldl addRecord empty)

/-- The catalog of a record type. -/
def record? (set : Catalogs) (recordType : String) : Option FieldCatalog :=
  Keyed.get? recordType set.records

/-- The event type of a name. -/
def eventType? (set : Catalogs) (name : String) : Option EventType :=
  Keyed.get? name set.eventTypes

/-- The record types, ascending. -/
def recordTypes (set : Catalogs) : List String := Keyed.keys set.records

/-- The names of event types, ascending. -/
def eventTypeNames (set : Catalogs) : List String := Keyed.keys set.eventTypes

end Catalogs

/-- What a record type is called when no catalog has it. -/
def unknownRecordType (name : String) : String := "Unknown record type: " ++ name

end EventRules
