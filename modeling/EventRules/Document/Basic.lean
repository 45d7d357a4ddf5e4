/-
# EventRules.Document.Basic -- rule and catalog documents

A document is a rule, the catalog of one record type, or a list of event types;
its kind says which.  All three have the same head and a body of their own.
-/
import EventRules.Catalog.Codec
namespace EventRules

set_option autoImplicit false

/-- The kind of a document. -/
inductive DocumentKind where
  | rule | fieldCatalog | eventTypes
  deriving DecidableEq, Repr

/-- A name that no kind of document has. -/
structure UnknownKind where
  name : String
  deriving DecidableEq, Repr

/-- The wording. -/
def UnknownKind.message (e : UnknownKind) : String := "unknown rule kind: '" ++ e.name ++ "'"

namespace DocumentKind

/-- Every kind. -/
def everyOne : List DocumentKind := [rule, fieldCatalog, eventTypes]

/-- The name in documents. -/
def name : DocumentKind → String
  | rule => "AutoEventRule"
  | fieldCatalog => "FieldCatalog"
  | eventTypes => "EventTypeCatalog"

/-- The kind of a name. -/
def ofName (name : String) : Except UnknownKind DocumentKind :=
  match everyOne.find? fun kind => kind.name = name with
  | some kind => .ok kind
  | none => .error ⟨name⟩

end DocumentKind

/-- A catalog document with a body of a given type. -/
structure CatalogDocument (α : Type) where
  apiVersion : String
  kind : String
  metadata : Metadata
  spec : α

namespace CatalogDocument

/-- The parts of a catalog document. -/
def slots {α : Type} (spec : Tree → Decoded α) (d : Dialect) : Slots (CatalogDocument α) :=
  (Slots.none CatalogDocument.mk)
    |>.and (Slots.required "apiVersion" (Decode.text d))
    |>.and (Slots.required "kind" (Decode.text d))
    |>.and (Slots.required "metadata" (Metadata.decode d))
    |>.and (Slots.required "spec" spec)

/-- Decode a catalog document. -/
def decode {α : Type} (spec : Tree → Decoded α) (d : Dialect) (t : Tree) :
    Decoded (CatalogDocument α) :=
  (slots spec d).decode true d t

/-- A catalog document with its body given as a tree. -/
def encode {α : Type} (spec : α → Tree) (doc : CatalogDocument α) : Tree :=
  .map [("apiVersion", .text doc.apiVersion), ("kind", .text doc.kind),
    ("metadata", doc.metadata.encode), ("spec", spec doc.spec)]

end CatalogDocument

/-- The body of a document of event types: a map with the list of them. -/
def EventType.decodeList (d : Dialect) (t : Tree) : Decoded (List EventType) :=
  ((Slots.none fun (types : List EventType) => types)
    |>.and (Slots.required "event_types" (Decode.list (EventType.decode d)))).decode true d t

/-- A list of event types as the body of a document. -/
def EventType.encodeList (types : List EventType) : Tree :=
  .map [("event_types", .list (types.map EventType.encode))]

/-- A document of any kind. -/
inductive Document where
  | rule (r : Rule)
  | fieldCatalog (doc : CatalogDocument FieldCatalog)
  | eventTypes (doc : CatalogDocument (List EventType))

namespace Document

/-- The head of a document. -/
def metadata : Document → Metadata
  | rule r => r.metadata
  | fieldCatalog doc => doc.metadata
  | eventTypes doc => doc.metadata

/-- The id of a document. -/
def id (doc : Document) : String := doc.metadata.id

/-- The kind of a document. -/
def kind : Document → DocumentKind
  | rule _ => .rule
  | fieldCatalog _ => .fieldCatalog
  | eventTypes _ => .eventTypes

/-- The rule of a document that is one. -/
def rule? : Document → Option Rule
  | rule r => some r
  | _ => none

/-- The catalogs with what a document adds to it. -/
def addTo (set : Catalogs) : Document → Catalogs
  | rule _ => set
  | fieldCatalog doc => set.addRecord doc.spec
  | eventTypes doc => doc.spec.foldl Catalogs.addEventType set

/-- Decode a document of a given kind. -/
def decode (kind : DocumentKind) (d : Dialect) (t : Tree) : Decoded Document :=
  match kind with
  | .rule => (Rule.decode d t).map rule
  | .fieldCatalog => (CatalogDocument.decode (FieldCatalog.decode d) d t).map fieldCatalog
  | .eventTypes => (CatalogDocument.decode (EventType.decodeList d) d t).map eventTypes

/-- A document as a tree, catalogs in their answer form. -/
def encode : Document → Tree
  | rule r => r.encode
  | fieldCatalog doc => doc.encode FieldCatalog.outline
  | eventTypes doc => doc.encode EventType.encodeList

end Document
end EventRules
