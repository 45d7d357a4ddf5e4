/-
# EventRules.Rule.Codec -- rules in documents

`Rule.slots` and its parts decode a rule document; every map is closed, so an
entry without a meaning is an objection.  `Rule.encode` writes every part out,
with null for what is unset.
-/
import EventRules.Rule.Basic
import EventRules.Condition.Codec
namespace EventRules

set_option autoImplicit false

/-- Decode a time kind; a name that is not known is `unrecognized`. -/
def TimeKind.decode (d : Dialect) : Tree → Decoded TimeKind :=
  Decode.choice (Decode.namedOr TimeKind.known TimeKind.name .unrecognized) d

/-- Decode a scope. -/
def Scope.decode (d : Dialect) : Tree → Decoded Scope :=
  Decode.choice (Decode.named Scope.everyOne Scope.name) d

/-- Decode a visibility mode; a name that is not known is `unrecognized`. -/
def VisibilityMode.decode (d : Dialect) : Tree → Decoded VisibilityMode :=
  Decode.choice (Decode.namedOr VisibilityMode.known VisibilityMode.name .unrecognized) d

namespace Visibility

/-- The parts of a visibility. -/
def slots (d : Dialect) : Slots Visibility :=
  (Slots.none Visibility.mk)
    |>.and (Slots.withDefault .always "mode" (VisibilityMode.decode d))
    |>.and (Slots.optional "before_days" Decode.int)
    |>.and (Slots.optional "after_days" Decode.int)

/-- Decode a visibility. -/
def decode (d : Dialect) (t : Tree) : Decoded Visibility := (slots d).decode true d t

/-- A visibility as a document. -/
def encode (v : Visibility) : Tree :=
  .map [("mode", .text v.mode.name), ("before_days", Tree.ofOption Tree.ofInt v.beforeDays),
    ("after_days", Tree.ofOption Tree.ofInt v.afterDays)]

end Visibility

namespace Metadata

/-- The parts of the head of a document. -/
def slots (d : Dialect) : Slots Metadata :=
  (Slots.none Metadata.mk)
    |>.and (Slots.required "id" (Decode.text d))
    |>.and (Slots.required "name" (Decode.text d))
    |>.and (Slots.optional "description" (Decode.text d))
    |>.and (Slots.optional "tags" (Decode.list (Decode.text d)))
    |>.and (Slots.withDefault true "enabled" Decode.bool)

/-- Decode the head of a document. -/
def decode (d : Dialect) (t : Tree) : Decoded Metadata := (slots d).decode true d t

/-- The head of a document as a document. -/
def encode (m : Metadata) : Tree :=
  .map [("id", .text m.id), ("name", .text m.name),
    ("description", Tree.ofOption Tree.ofText m.description),
    ("tags", Tree.ofOption (fun tags => .list (tags.map Tree.ofText)) m.tags),
    ("enabled", .bool m.enabled)]

end Metadata

/-- Decode a record: a map. -/
def Record.decode : Tree → Decoded Record
  | .map entries => .ok (Record.ofTree (.map entries))
  | _ => .error .invalidType

/-- A tree kept as it is: its maps sorted, numbers that are not finite null. -/
def Tree.decodeCarried (t : Tree) : Decoded Tree := .ok t.carried

namespace RuleSpec

/-- The parts of the body of a rule. -/
def slots (d : Dialect) : Slots RuleSpec :=
  (Slots.none RuleSpec.mk)
    |>.and (Slots.required "scope" (Scope.decode d))
    |>.and (Slots.required "source_type" (Decode.text d))
    |>.and (Slots.withDefault .record "target"
      (Decode.choice (Decode.named Target.everyOne Target.name) d))
    |>.and (Slots.required "field" (Decode.text d))
    |>.and (Slots.required "trigger"
      (Decode.choice (Decode.namedOr Trigger.known Trigger.name .unrecognized) d))
    |>.and (Slots.required "event_type" (Decode.text d))
    |>.and (Slots.required "time_kind" (TimeKind.decode d))
    |>.and (Slots.required "time_source"
      (Decode.choice (Decode.named TimeSource.everyOne TimeSource.name) d))
    |>.and (Slots.optional "interval_days" Decode.int)
    |>.and (Slots.optional "all_day" Decode.bool)
    |>.and (Slots.withDefault Visibility.default "visibility" (Visibility.decode d))
    |>.and (Slots.required "title" (Decode.text d))
    |>.and (Slots.optional "description" (Decode.text d))
    |>.and (Slots.withDefault [] "prefill" Record.decode)
    |>.and (Slots.withDefault .entity "member_link"
      (Decode.choice (Decode.named MemberLink.everyOne MemberLink.name) d))
    |>.and (Slots.withDefault .none "group_link"
      (Decode.choice (Decode.named GroupLink.everyOne GroupLink.name) d))
    |>.and (Slots.optional "condition" (Condition.decode d))
    |>.and (Slots.optional "ui_hint" Tree.decodeCarried)

/-- Decode the body of a rule. -/
def decode (d : Dialect) (t : Tree) : Decoded RuleSpec := (slots d).decode true d t

/-- The body of a rule as a document. -/
def encode (s : RuleSpec) : Tree :=
  .map [("scope", .text s.scope.name), ("source_type", .text s.sourceType),
    ("target", .text s.target.name), ("field", .text s.field),
    ("trigger", .text s.trigger.name), ("event_type", .text s.eventType),
    ("time_kind", .text s.timeKind.name), ("time_source", .text s.timeSource.name),
    ("interval_days", Tree.ofOption Tree.ofInt s.intervalDays),
    ("all_day", Tree.ofOption Tree.bool s.allDay), ("visibility", s.visibility.encode),
    ("title", .text s.title), ("description", Tree.ofOption Tree.ofText s.description),
    ("prefill", (Value.object s.prefill).toTree), ("member_link", .text s.memberLink.name),
    ("group_link", .text s.groupLink.name),
    ("condition", Tree.ofOption Condition.encode s.condition),
    ("ui_hint", Tree.ofOption (fun hint => hint) s.uiHint)]

end RuleSpec

namespace Rule

/-- The parts of a rule document. -/
def slots (d : Dialect) : Slots Rule :=
  (Slots.none Rule.mk)
    |>.and (Slots.required "apiVersion" (Decode.text d))
    |>.and (Slots.required "kind" (Decode.text d))
    |>.and (Slots.required "metadata" (Metadata.decode d))
    |>.and (Slots.required "spec" (RuleSpec.decode d))

/-- Decode a rule document. -/
def decode (d : Dialect) (t : Tree) : Decoded Rule := (slots d).decode true d t

/-- A rule as a document. -/
def encode (rule : Rule) : Tree :=
  .map [("apiVersion", .text rule.apiVersion), ("kind", .text rule.kind),
    ("metadata", rule.metadata.encode), ("spec", rule.spec.encode)]

end Rule
end EventRules
