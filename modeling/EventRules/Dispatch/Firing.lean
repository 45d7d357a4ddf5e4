/-
# EventRules.Dispatch.Firing -- which rules a write makes fire

Fields are examined in the order of the catalog and the rules of a field in the
order of definition; for a group the record comes first and then each member in
turn.  Only fields that one of the two states has are examined, and nothing is
when no rule watches the type or no catalog describes it.

The state of a member before the write is that of the last previous member with
the same key, or an empty record.
-/
import EventRules.Dispatch.Attempt
import EventRules.Trigger
namespace EventRules

set_option autoImplicit false

/-- The fields of a catalog that one of two states has, in catalog order. -/
def FieldTable.candidates (fields : FieldTable) (before after : Record) : List String :=
  fields.keys.filter fun key => Keyed.has key before || Keyed.has key after

namespace Source

/-- The attempts on one field: the rules whose trigger fires on its change. -/
def attemptsOn (source : Source) (member : Option MemberChange) (allMembers : List Participant)
    (rules : List RegisteredRule) (field : String) (previous next : Value) : List Attempt :=
  let change := Change.of previous next
  (rules.filter fun r => r.spec.trigger.fires change).map fun r =>
    ⟨r, field, previous, next, source, member, allMembers⟩

/-- The attempts on the fields of the record itself. -/
def recordAttempts (source : Source) (registry : Registry) (scope : Scope) (fields : FieldTable)
    (allMembers : List Participant) : List Attempt :=
  (fields.candidates source.before source.after).flatMap fun field =>
    source.attemptsOn none allMembers (registry.rulesFor scope source.recordType field) field
      (source.before.value field) (source.after.value field)

/-- The attempts on the fields of one member. -/
def memberAttempts (source : Source) (registry : Registry) (fields : FieldTable)
    (allMembers : List Participant) (member : MemberChange) : List Attempt :=
  (fields.candidates member.before member.after).flatMap fun field =>
    source.attemptsOn (some member) allMembers (registry.memberRules source.recordType field)
      field (member.before.value field) (member.after.value field)

end Source

namespace EntityWrite

/-- The written record. -/
def source (w : EntityWrite) : Source :=
  ⟨w.recordType, w.id, w.actorId, w.previous.getD [], w.next⟩

/-- The attempts of a saved singular record. -/
def attempts (w : EntityWrite) (registry : Registry) (catalogs : Catalogs) : List Attempt :=
  if registry.watches .entity w.recordType then
    match catalogs.record? w.recordType with
    | some catalog => w.source.recordAttempts registry .entity catalog.fields []
    | none => []
  else []

end EntityWrite

namespace GroupWrite

/-- The written record. -/
def source (w : GroupWrite) : Source :=
  ⟨w.recordType, w.id, w.actorId, w.previous.getD [], w.next⟩

/-- What the members of the group are called as participants. -/
def memberType (w : GroupWrite) : String := w.recordType ++ ".member"

/-- The current members with their keys. -/
def current (w : GroupWrite) (catalog : FieldCatalog) : List KeyedMember :=
  match catalog.members with
  | some members => members.membersWithKeys w.nextMembers w.next
  | none => []

/-- The previous members with their keys. -/
def former (w : GroupWrite) (catalog : FieldCatalog) : List KeyedMember :=
  match catalog.members with
  | some members => members.membersWithKeys w.previousMembers (w.previous.getD [])
  | none => []

/-- Every current member as a participant. -/
def allMembers (w : GroupWrite) (catalog : FieldCatalog) : List Participant :=
  (w.current catalog).map fun m => ⟨w.memberType, m.key⟩

/-- The record of the last member of a list with a key. -/
def lastWith (key : String) (members : List KeyedMember) : Option Record :=
  Keyed.get? key (Keyed.ofList (members.map fun m => (m.key, m.record)))

/-- A current member with its state before the write. -/
def memberChange (w : GroupWrite) (former : List KeyedMember) (m : KeyedMember) : MemberChange :=
  ⟨m.key, w.memberType, (lastWith m.key former).getD [], m.record⟩

/-- The attempts on the members of the group. -/
def memberAttempts (w : GroupWrite) (registry : Registry) (catalog : FieldCatalog) :
    List Attempt :=
  match catalog.members with
  | some members =>
      if registry.watchesMembers w.recordType then
        let former := w.former catalog
        (w.current catalog).flatMap fun m =>
          w.source.memberAttempts registry members.fields (w.allMembers catalog)
            (w.memberChange former m)
      else []
  | none => []

/-- The attempts of a saved group record: those on the record, then those on its
members. -/
def attempts (w : GroupWrite) (registry : Registry) (catalogs : Catalogs) : List Attempt :=
  if registry.watches .group w.recordType then
    match catalogs.record? w.recordType with
    | some catalog =>
        w.source.recordAttempts registry .group catalog.fields (w.allMembers catalog) ++
          w.memberAttempts registry catalog
    | none => []
  else []

end GroupWrite

/-- The attempts of a saved record. -/
def SavedWrite.attempts (registry : Registry) (catalogs : Catalogs) : SavedWrite → List Attempt
  | entity w => w.attempts registry catalogs
  | group w => w.attempts registry catalogs

end EventRules
