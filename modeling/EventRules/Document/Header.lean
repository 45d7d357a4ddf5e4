/-
# EventRules.Document.Header -- the head of a document

The head of a document -- its version, its kind and its metadata -- is read before
its kind is known, straight from the nodes of the text: any scalar is a text, as
it is written, and a part that is left out is empty.  `Header.read` also takes the
rest of the document along, understood but not yet decoded.

What is wrong is reported in the order of the document, and what is missing only
when nothing else is wrong.
-/
import EventRules.Yaml.Content
import EventRules.Document.Basic
namespace EventRules

set_option autoImplicit false

/-- Whether a scalar is plain and holds nothing. -/
def Yaml.Scalar.isEmptyPlain (s : Yaml.Scalar) : Bool := s.style = .plain && s.text.isEmpty

namespace Yaml.Node

/-- The text of a scalar, as it is written. -/
def asText : Node → Decoded String
  | .scalar _ s => .ok s.text
  | .broken => .error .other
  | _ => .error .invalidType

/-- The truth value of a scalar. -/
def asBool : Node → Decoded Bool
  | .scalar tag s =>
      let isWord := s.style = .plain || (s.style = .literal && tag = some "tag:yaml.org,2002:bool")
      match if isWord then Atom.boolWord? s.text else none with
      | some b => .ok b
      | none => .error .invalidType
  | .broken => .error .other
  | _ => .error .invalidType

/-- A part that may be null. -/
def asOptional {α : Type} (part : Node → Decoded α) (node : Node) : Decoded (Option α) :=
  match node with
  | .scalar tag s =>
      if s.style = .plain then
        match tag with
        | none =>
            if s.text.isEmpty || Atom.isNullWord s.text then .ok none else (part node).map some
        | some tag =>
            if tag = "tag:yaml.org,2002:null" then
              if Atom.isNullWord s.text then .ok none else .error .invalidValue
            else (part node).map some
      else (part node).map some
  | node => (part node).map some

/-- The text of each item; the first that has none decides. -/
def eachText : List Node → Decoded (List String)
  | [] => .ok []
  | node :: rest =>
      match node.asText with
      | .error e => .error e
      | .ok s => (eachText rest).map (s :: ·)

/-- A list of texts. -/
def asTexts : Node → Decoded (List String)
  | .list _ items => eachText items
  | .scalar _ s => if s.isEmptyPlain then .ok [] else .error .invalidType
  | .broken => .error .other
  | .map _ _ => .error .invalidType

/-- The entries of a map. -/
def asEntries : Node → Decoded (List (Node × Node))
  | .map _ entries => .ok entries
  | .scalar _ s => if s.isEmptyPlain then .ok [] else .error .invalidType
  | .broken => .error .other
  | .list _ _ => .error .invalidType

end Yaml.Node

/-- A part that may stand once: the part, unless it stood before. -/
def Decode.once {α : Type} (name : String) (before : Option α) (part : Decoded α) :
    Decoded (Option α) :=
  match before with
  | some _ => .error (.duplicateField name)
  | none => part.map some

/-- A part that has to stand. -/
def Decode.present {α : Type} (name : String) (part : Option α) : Decoded α :=
  match part with
  | some a => .ok a
  | none => .error (.missingField name)

namespace Metadata

open Yaml

/-- The metadata as far as they are read. -/
structure Parts where
  id : Option String
  name : Option String
  description : Option (Option String)
  tags : Option (Option (List String))
  enabled : Option Bool

/-- Read one entry. -/
def Parts.add (parts : Parts) (key : String) (node : Node) : Decoded Parts :=
  match key with
  | "id" => (Decode.once key parts.id node.asText).map fun id => { parts with id := id }
  | "name" => (Decode.once key parts.name node.asText).map fun name => { parts with name := name }
  | "description" =>
      (Decode.once key parts.description (node.asOptional Node.asText)).map fun description =>
        { parts with description := description }
  | "tags" =>
      (Decode.once key parts.tags (node.asOptional Node.asTexts)).map fun tags =>
        { parts with tags := tags }
  | "enabled" =>
      (Decode.once key parts.enabled node.asBool).map fun enabled =>
        { parts with enabled := enabled }
  | key => .error (.unknownField key)

/-- Read the entries in order. -/
def Parts.addAll (parts : Parts) : List (Node × Node) → Decoded Parts
  | [] => .ok parts
  | (key, node) :: rest => do
      let parts ← parts.add (← key.asText) node
      parts.addAll rest

/-- The metadata of a node. -/
def ofNode (node : Node) : Decoded Metadata := do
  let parts ← Parts.addAll ⟨none, none, none, none, none⟩ (← node.asEntries)
  let id ← Decode.present "id" parts.id
  let name ← Decode.present "name" parts.name
  pure ⟨id, name, parts.description.getD none, parts.tags.getD none, parts.enabled.getD true⟩

end Metadata

/-- The head of a document, and what else the document holds. -/
structure Header where
  apiVersion : String
  kind : String
  metadata : Metadata
  rest : List (String × Yaml.Content)

namespace Header

open Yaml

/-- How deep the collections of a document may be nested. -/
def depthLimit : Nat := 128

/-- A header as far as it is read. -/
structure Parts where
  apiVersion : Option String
  kind : Option String
  metadata : Option Metadata
  /-- The other entries, the latest first. -/
  rest : List (String × Content)

/-- Read one entry. -/
def Parts.add (parts : Parts) (key : String) (node : Node) : Decoded Parts :=
  match key with
  | "apiVersion" =>
      (Decode.once key parts.apiVersion node.asText).map fun version =>
        { parts with apiVersion := version }
  | "kind" => (Decode.once key parts.kind node.asText).map fun kind => { parts with kind := kind }
  | "metadata" =>
      (Decode.once key parts.metadata (Metadata.ofNode node)).map fun metadata =>
        { parts with metadata := metadata }
  | key =>
      (node.content (depthLimit - 1)).map fun content =>
        { parts with rest := (key, content) :: parts.rest }

/-- Read the entries in order. -/
def Parts.addAll (parts : Parts) : List (Node × Node) → Decoded Parts
  | [] => .ok parts
  | (key, node) :: rest => do
      let parts ← parts.add (← key.asText) node
      parts.addAll rest

/-- Whether no key stands twice, anywhere in the rest. -/
def isUnambiguous (rest : List (String × Content)) : Bool :=
  decide (rest.map Prod.fst).Nodup && rest.all fun e => e.2.isUnambiguous

/-- The header of the document of a text, which has to be its only one. -/
def read (doc : Yaml.Document) : Decoded Header := do
  let entries ← match doc.root with
    | none => .ok []
    | some node => node.asEntries
  let parts ← Parts.addAll ⟨none, none, none, []⟩ entries
  let version ← Decode.present "apiVersion" parts.apiVersion
  let kind ← Decode.present "kind" parts.kind
  let metadata ← Decode.present "metadata" parts.metadata
  let rest := parts.rest.reverse
  if isUnambiguous rest && doc.isSole then pure ⟨version, kind, metadata, rest⟩
  else .error .other

/-- The whole document as a tree. -/
def toTree (header : Header) : Decoded Tree :=
  if header.rest.all fun e => e.2.isWritable then do
    let rest ← header.rest.mapM fun e => (e.2.toTree).map fun t => (e.1, t)
    pure (.map ([("apiVersion", .text header.apiVersion), ("kind", .text header.kind),
      ("metadata", header.metadata.encode)] ++ rest))
  else .error .other

end Header
end EventRules
