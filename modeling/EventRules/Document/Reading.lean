/-
# EventRules.Document.Reading -- documents from texts

`Document.read` is the document of a YAML text.  The head is read first and says
what kind of document it is; then the whole is decoded as one of that kind.
-/
import EventRules.Document.Header
import EventRules.Text.Blank
namespace EventRules

set_option autoImplicit false

/-- Why a text is no document. -/
inductive DocumentError where
  /-- The text is no YAML, or its head does not decode. -/
  | unreadable (error : DecodeError)
  /-- The id is empty or blank. -/
  | emptyId
  | unknownKind (id : String) (error : UnknownKind)
  /-- The document does not decode as one of its kind. -/
  | invalid (id : String) (error : DecodeError)
  deriving DecidableEq, Repr

namespace DocumentError

/-- The wording, without what the decoder objects to. -/
def message : DocumentError → String
  | unreadable _ => "YAML parse error"
  | emptyId => "metadata.id must not be empty"
  | unknownKind id e => "failed to parse '" ++ id ++ "': " ++ e.message
  | invalid id _ => "failed to parse '" ++ id ++ "'"

end DocumentError

namespace Document

/-- Decode the document that a header belongs to. -/
def ofHeader (header : Header) : Except DocumentError Document :=
  if (Text.trimChars header.metadata.id.toList).isEmpty then .error .emptyId
  else
    match DocumentKind.ofName header.kind with
    | .error e => .error (.unknownKind header.metadata.id e)
    | .ok kind =>
        match header.toTree with
        | .error e => .error (.invalid header.metadata.id e)
        | .ok t =>
            match decode kind .plain t with
            | .error e => .error (.invalid header.metadata.id e)
            | .ok doc => .ok doc

/-- The document of a YAML text. -/
def read (text : String) : Except DocumentError Document :=
  match Header.read (Yaml.Document.ofText text) with
  | .error e => .error (.unreadable e)
  | .ok header => ofHeader header

end Document
end EventRules
