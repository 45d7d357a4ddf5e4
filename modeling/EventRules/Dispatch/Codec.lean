/-
# EventRules.Dispatch.Codec -- writes, reports and notices in documents

Writes decode from open maps.  Reports and notices have answer forms; in a report
the key of a member is left out for what is about the record itself.
-/
import EventRules.Dispatch.Report
import EventRules.Event.Codec
namespace EventRules

set_option autoImplicit false

namespace EntityWrite

/-- The parts of a saved singular record. -/
def slots : Slots EntityWrite :=
  (Slots.none EntityWrite.mk)
    |>.and (Slots.required "record_type" (Decode.text .direct))
    |>.and (Slots.required "id" (Decode.text .direct))
    |>.and (Slots.required "actor_id" (Decode.text .direct))
    |>.and (Slots.required "next" Record.decode)
    |>.and (Slots.optional "prev" Record.decode)

/-- Decode a saved singular record. -/
def decode (t : Tree) : Decoded EntityWrite := slots.decode false .direct t

end EntityWrite

namespace GroupWrite

/-- The parts of a saved group record. -/
def slots : Slots GroupWrite :=
  (Slots.none GroupWrite.mk)
    |>.and (Slots.required "record_type" (Decode.text .direct))
    |>.and (Slots.required "id" (Decode.text .direct))
    |>.and (Slots.required "actor_id" (Decode.text .direct))
    |>.and (Slots.required "next" Record.decode)
    |>.and (Slots.optional "prev" Record.decode)
    |>.and (Slots.optional "next_members" (Decode.list Record.decode))
    |>.and (Slots.optional "prev_members" (Decode.list Record.decode))

/-- Decode a saved group record. -/
def decode (t : Tree) : Decoded GroupWrite := slots.decode false .direct t

end GroupWrite

namespace AttemptId

/-- The entries of a key in a report. -/
def entries (key : AttemptId) : List (String × Tree) :=
  [("rule_id", .text key.ruleId), ("field", .text key.field)] ++
    NewEvent.entryOf "member_key" Tree.text key.memberKey

end AttemptId

namespace Report

/-- The lists of a report in answers. -/
def entries (report : Report) : List (String × Tree) :=
  [("emitted", .list (report.emitted.map fun e => .map (e.1.entries ++ [("event_id", .text e.2)]))),
    ("skipped", .list (report.skipped.map fun e =>
      .map (e.1.entries ++ [("reason", .text e.2.name)]))),
    ("failures", .list (report.failures.map fun e =>
      .map (e.1.entries ++ [("error", .text e.2.message)])))]

/-- A report in answers. -/
def encode (report : Report) : Tree := .map report.entries

end Report

/-- A notice in answers. -/
def Notice.encode (notice : Notice) : Tree :=
  .map [("scope", .text notice.scope.name), ("rule_id", .text notice.ruleId),
    ("rule_name", .text notice.ruleName), ("event_id", .text notice.eventId),
    ("event_type", .text notice.eventType), ("title", .text notice.title),
    ("subject", notice.subject.toTree), ("rendered_context", notice.context.toTree)]

end EventRules
