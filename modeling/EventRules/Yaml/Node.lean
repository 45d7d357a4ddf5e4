/-
# EventRules.Yaml.Node -- YAML documents as nodes

A document is a node: a scalar, a list or a map, whose keys are nodes as well.
`Document.ofText` reads one.  A text that is no YAML still has a document, in
which the node where it fails is `broken`; whoever decodes the document in order
objects to what stands before that first.

A node may be named by an anchor, and an alias stands for the node that was named
last.
-/
import EventRules.Yaml.Token
import EventRules.Keyed
namespace EventRules.Yaml

set_option autoImplicit false

/-- A node of a document. -/
inductive Node where
  | scalar (tag : Option String) (s : Scalar)
  | list (tag : Option String) (items : List Node)
  | map (tag : Option String) (entries : List (Node × Node))
  /-- The place where the text is no YAML. -/
  | broken
  deriving Inhabited

namespace Node

/-- A plain scalar without text, which stands where nothing is written. -/
def empty : Node := .scalar none ⟨.plain, ""⟩

end Node

/-- What remains of the tokens of a document. -/
structure Source where
  tokens : List Token
  isWhole : Bool
  /-- The nodes that were named. -/
  anchors : List (String × Node)
  /-- What the handles of tags stand for. -/
  handles : List (String × String)

namespace Source

/-- Nothing can be read any more. -/
def fail (s : Source) : Source := { s with tokens := [], isWhole := false }

/-- Whether the text fails here. -/
def isCut (s : Source) : Bool := s.tokens.isEmpty && !s.isWhole

/-- Name a node. -/
def bind (anchor : Option String) (node : Node) (s : Source) : Source :=
  match anchor with
  | some name => { s with anchors := (name, node) :: s.anchors }
  | none => s

/-- The tag that a handle and a suffix stand for. -/
def tag? (handle suffix : String) (s : Source) : Option String :=
  if handle.isEmpty then some suffix
  else (Keyed.get? handle s.handles).map (· ++ suffix)

/-- The handles that every document has. -/
def usualHandles : List (String × String) := [("!", "!"), ("!!", "tag:yaml.org,2002:")]

end Source

/-- What may stand before a node: an anchor and a tag, in either order. -/
structure Properties where
  anchor : Option String
  tag : Option String

/-- Read what stands before a node. -/
def Properties.read (s : Source) : Option (Properties × Source) :=
  match s.tokens with
  | .anchor name :: .tag handle suffix :: rest =>
      (s.tag? handle suffix).map fun tag => (⟨some name, some tag⟩, { s with tokens := rest })
  | .tag handle suffix :: .anchor name :: rest =>
      (s.tag? handle suffix).map fun tag => (⟨some name, some tag⟩, { s with tokens := rest })
  | .anchor name :: rest => some (⟨some name, none⟩, { s with tokens := rest })
  | .tag handle suffix :: rest =>
      (s.tag? handle suffix).map fun tag => (⟨none, some tag⟩, { s with tokens := rest })
  | _ => some (⟨none, none⟩, s)

/-- Where a node stands, which decides what it may be. -/
inductive Place where
  /-- In brackets: no indented collection. -/
  | flow
  /-- An item or a document: any node. -/
  | item
  /-- A key or a value of an indented map, where the dashes of a list need not be
  indented further. -/
  | entry
  deriving DecidableEq

/-- Whether a token shows that an item of an indented list is left out. -/
def Token.endsItem : Token → Bool
  | .dash => true
  | .close => true
  | _ => false

/-- Whether a token shows that a key or a value of an indented map is left out. -/
def Token.endsEntry : Token → Bool
  | .key => true
  | .value => true
  | .close => true
  | _ => false

/-- Whether a token shows that a value in brackets is left out. -/
def Token.endsFlowValue (closer : Token) (token : Token) : Bool :=
  token = .comma || token = closer

/-- Whether a token shows that a key in brackets is left out. -/
def Token.endsFlowKey (closer : Token) (token : Token) : Bool :=
  token = .value || token.endsFlowValue closer

/-- Read a node unless the next token shows that it is left out. -/
def Source.optional (read : Source → Node × Source) (leftOut : Token → Bool) (s : Source) :
    Node × Source :=
  match s.tokens with
  | [] => (.broken, s.fail)
  | token :: _ => if leftOut token then (.empty, s) else read s

/-- Read the value of a key: the mark of a value and the value, either of which may
be left out. -/
def Source.valueOf (read : Source → Node × Source) (leftOut : Token → Bool) (s : Source) :
    Node × Source :=
  match s.tokens with
  | .value :: rest => { s with tokens := rest }.optional read leftOut
  | _ => if s.isCut then (.broken, s.fail) else (.empty, s)

/-- One more item of a list. -/
def Source.consItem (item : Node) (rest : List Node × Source) : List Node × Source :=
  (item :: rest.1, rest.2)

/-- One more entry of a map. -/
def Source.consEntry (key value : Node) (rest : List (Node × Node) × Source) :
    List (Node × Node) × Source :=
  ((key, value) :: rest.1, rest.2)

/-- The place in a list where the text fails. -/
def Source.brokenItems (s : Source) : List Node × Source := ([.broken], s.fail)

/-- The place in a map where the text fails. -/
def Source.brokenEntries (s : Source) : List (Node × Node) × Source :=
  ([(.broken, .broken)], s.fail)

mutual
/-- Read a node.  Every token takes at most four calls, so `fuel` need not be more
than four times their number. -/
def readNode : Nat → Place → Source → Node × Source
  | 0, _, s => (.broken, s.fail)
  | fuel + 1, place, s =>
      match s.tokens with
      | .alias name :: rest =>
          match Keyed.get? name s.anchors with
          | some node => (node, { s with tokens := rest })
          | none => (.broken, s.fail)
      | _ =>
          match Properties.read s with
          | none => (.broken, s.fail)
          | some (properties, s) =>
              let (node, s) := readContent fuel place properties s
              (node, s.bind properties.anchor node)

/-- Read what follows the properties of a node. -/
def readContent : Nat → Place → Properties → Source → Node × Source
  | 0, _, _, s => (.broken, s.fail)
  | fuel + 1, place, properties, s =>
      let tag := properties.tag
      let list := fun (read : List Node × Source) => (Node.list tag read.1, read.2)
      let map := fun (read : List (Node × Node) × Source) => (Node.map tag read.1, read.2)
      let within := fun (rest : List Token) => { s with tokens := rest }
      let other : Node × Source :=
        if (properties.anchor.isSome || tag.isSome) && !s.isCut then
          (.scalar tag ⟨.plain, ""⟩, s)
        else (.broken, s.fail)
      match s.tokens with
      | .scalar text :: rest => (.scalar tag text, within rest)
      | .openFlowList :: rest => list (readFlowItems fuel true (within rest))
      | .openFlowMap :: rest => map (readFlowEntries fuel true (within rest))
      | .dash :: _ => if place = .entry then list (readDashes fuel s) else other
      | .openList :: rest => if place = .flow then other else list (readItems fuel (within rest))
      | .openMap :: rest => if place = .flow then other else map (readEntries fuel (within rest))
      | _ => other

/-- Read the items of an indented list. -/
def readItems : Nat → Source → List Node × Source
  | 0, s => s.brokenItems
  | fuel + 1, s =>
      match s.tokens with
      | .dash :: rest =>
          let (item, s) := { s with tokens := rest }.optional (readNode fuel .item) Token.endsItem
          Source.consItem item (readItems fuel s)
      | .close :: rest => ([], { s with tokens := rest })
      | _ => s.brokenItems

/-- Read the items of a list whose dashes are not indented further than the map
that holds it. -/
def readDashes : Nat → Source → List Node × Source
  | 0, s => s.brokenItems
  | fuel + 1, s =>
      match s.tokens with
      | .dash :: rest =>
          let (item, s) := { s with tokens := rest }.optional (readNode fuel .item)
            fun token => token.endsItem || token.endsEntry
          Source.consItem item (readDashes fuel s)
      | [] => s.brokenItems
      | _ => ([], s)

/-- Read the entries of an indented map. -/
def readEntries : Nat → Source → List (Node × Node) × Source
  | 0, s => s.brokenEntries
  | fuel + 1, s =>
      match s.tokens with
      | .key :: rest =>
          let (key, s) := { s with tokens := rest }.optional (readNode fuel .entry) Token.endsEntry
          let (value, s) := s.valueOf (readNode fuel .entry) Token.endsEntry
          Source.consEntry key value (readEntries fuel s)
      | .close :: rest => ([], { s with tokens := rest })
      | _ => s.brokenEntries

/-- Read the items of a list in brackets; `first` says that no comma is due. -/
def readFlowItems : Nat → Bool → Source → List Node × Source
  | 0, _, s => s.brokenItems
  | fuel + 1, first, s =>
      match s.tokens with
      | .closeFlowList :: rest => ([], { s with tokens := rest })
      | .comma :: rest =>
          if first then s.brokenItems
          else readFlowItem fuel { s with tokens := rest }
      | _ => if first then readFlowItem fuel s else s.brokenItems

/-- Read an item of a list in brackets, which may be a single entry of a map, and
the items after it. -/
def readFlowItem : Nat → Source → List Node × Source
  | 0, s => s.brokenItems
  | fuel + 1, s =>
      match s.tokens with
      | .closeFlowList :: rest => ([], { s with tokens := rest })
      | .key :: rest =>
          let s := { s with tokens := rest }
          let leftOut := match rest with
            | token :: _ => token.endsFlowKey .closeFlowList
            | [] => true
          let (key, s) := if leftOut then (Node.broken, s.fail) else readNode fuel .flow s
          let (value, s) := s.valueOf (readNode fuel .flow) (Token.endsFlowValue .closeFlowList)
          Source.consItem (.map none [(key, value)]) (readFlowItems fuel false s)
      | _ =>
          let (item, s) := readNode fuel .flow s
          Source.consItem item (readFlowItems fuel false s)

/-- Read the entries of a map in brackets; `first` says that no comma is due. -/
def readFlowEntries : Nat → Bool → Source → List (Node × Node) × Source
  | 0, _, s => s.brokenEntries
  | fuel + 1, first, s =>
      match s.tokens with
      | .closeFlowMap :: rest => ([], { s with tokens := rest })
      | .comma :: rest =>
          if first then s.brokenEntries
          else readFlowEntry fuel { s with tokens := rest }
      | _ => if first then readFlowEntry fuel s else s.brokenEntries

/-- Read an entry of a map in brackets and the entries after it. -/
def readFlowEntry : Nat → Source → List (Node × Node) × Source
  | 0, s => s.brokenEntries
  | fuel + 1, s =>
      match s.tokens with
      | .closeFlowMap :: rest => ([], { s with tokens := rest })
      | .key :: rest =>
          let (key, s) := { s with tokens := rest }.optional (readNode fuel .flow)
            (Token.endsFlowKey .closeFlowMap)
          let (value, s) := s.valueOf (readNode fuel .flow) (Token.endsFlowValue .closeFlowMap)
          Source.consEntry key value (readFlowEntries fuel false s)
      | _ =>
          let (key, s) := readNode fuel .flow s
          let value := if s.isCut then Node.broken else .empty
          Source.consEntry key value (readFlowEntries fuel false s)
end

/-- The first document of a text. -/
structure Document where
  /-- The node of the document; a text that holds nothing has none. -/
  root : Option Node
  /-- Whether the text is YAML and holds nothing after the document. -/
  isSole : Bool

namespace Document

/-- Read the directives before a document: the version at most once, no handle
twice.  A document without directives may also start without a marker. -/
def readDirectives (versions : Nat) (named : List String) (s : Source) :
    List Token → Option Source
  | .version :: rest => if versions = 0 then readDirectives 1 named s rest else none
  | .handle name stands :: rest =>
      if named.contains name then none
      else
        readDirectives versions (name :: named)
          { s with handles := (name, stands) :: s.handles } rest
  | .documentStart :: rest => some { s with tokens := rest }
  | _ => none

/-- Whether a token cannot start the node of a document. -/
def isOutside : Token → Bool
  | .version => true
  | .handle _ _ => true
  | .documentStart => true
  | .documentEnd => true
  | _ => false

/-- Whether nothing but markers of an end remains. -/
def endsWith (s : Source) : Bool :=
  s.isWhole && s.tokens.all fun token => token = .documentEnd

/-- Read the node of a document, and whether nothing follows it. -/
def ofSource (s : Source) : Document :=
  let (node, rest) := readNode (4 * s.tokens.length + 4) .item s
  ⟨some node, endsWith rest⟩

/-- The first document of the tokens of a text. -/
def ofLexed (lexed : Lexed) : Document :=
  let source : Source := ⟨lexed.tokens, lexed.isWhole, [], Source.usualHandles⟩
  let broken : Document := ⟨some .broken, false⟩
  match lexed.tokens with
  | [] => if lexed.isWhole then ⟨none, true⟩ else broken
  | first :: _ =>
      if isOutside first then
        match readDirectives 0 [] source lexed.tokens with
        | none => broken
        | some s =>
            match s.tokens with
            | [] => if s.isWhole then ⟨some .empty, true⟩ else broken
            | token :: _ => if isOutside token then ⟨some .empty, endsWith s⟩ else ofSource s
      else ofSource source

/-- The first document of a text. -/
def ofText (text : String) : Document := ofLexed (Lexed.ofText text.toList)

end Document
end EventRules.Yaml
