/-
# EventRules.Dispatch.Write -- saved records

A write is a record as it was saved, with the record before it; there is none when
the record is new.  The members of a group are given with the write or stand in a
field of the record.  A member is known by its key: entries that are no objects,
and members without a key, are passed over.
-/
import EventRules.Catalog.Basic
import EventRules.Value.Canonical
namespace EventRules

set_option autoImplicit false

/-- A saved singular record. -/
structure EntityWrite where
  recordType : String
  id : String
  actorId : String
  next : Record
  previous : Option Record

/-- A saved group record. -/
structure GroupWrite where
  recordType : String
  id : String
  actorId : String
  next : Record
  previous : Option Record
  nextMembers : Option (List Record)
  previousMembers : Option (List Record)

/-- A saved record of either sort. -/
inductive SavedWrite where
  | entity (w : EntityWrite)
  | group (w : GroupWrite)

/-- A member with the text of its key. -/
structure KeyedMember where
  key : String
  record : Record
  deriving DecidableEq

/-- The value of a field; null when the record does not have it. -/
def Record.value (record : Record) (field : String) : Value :=
  (Keyed.get? field record).getD .null

namespace MemberCatalog

/-- The member records: those given, else the objects in the list field. -/
def memberRecords (members : MemberCatalog) (given : Option (List Record)) (record : Record) :
    List Record :=
  match given with
  | some records => records
  | none =>
      match Keyed.get? members.listField record with
      | some (.list items) => items.filterMap Value.object?
      | _ => []

/-- The text of the key of a member, if it has one. -/
def keyOf? (members : MemberCatalog) (member : Record) : Option String :=
  match Keyed.get? members.keyField member with
  | some key => if key.isPresent then some key.display else none
  | none => none

/-- The members of a group that have a key, in order. -/
def membersWithKeys (members : MemberCatalog) (given : Option (List Record)) (record : Record) :
    List KeyedMember :=
  (members.memberRecords given record).filterMap fun member =>
    (members.keyOf? member).map fun key => ⟨key, member⟩

end MemberCatalog
end EventRules
