import ChunkGraph.Data.Yaml.Scalar
import ChunkGraph.Data.Yaml.Token

/-!
# Nodes of YAML

The tokens of a document describe a tree of nodes: scalars, lists and tables,
each with a tag. A node that is named stands for itself wherever its name is
referred to later on; a name is given once, and a node cannot be part of itself.
Nodes inside of too many others are not read.
Where a value is missing, an empty scalar stands in its place.

The reader descends over the tokens with fuel: every call takes a token or
hands over to one that does.

## Main definitions

* `Key`, `Node` — the tree.
* `Reading` — the tokens to come and the names given so far.
* `Node.ofTokens` — the node of a document, if there is one.
-/

namespace ChunkGraph.Data.Yaml

/-- The key of an entry. -/
inductive Key where
  /-- A scalar with its tag. -/
  | scalar (tag : Tag) (text : List Char)
  /-- A list or a table, which cannot be a key. -/
  | collection
  deriving DecidableEq, Repr, Inhabited

/-- A node. -/
inductive Node where
  /-- A scalar. -/
  | scalar (tag : Tag) (text : List Char)
  /-- A list. -/
  | list (tag : Tag) (items : List Node)
  /-- A table; it is broken if something is merged into it that is no table. -/
  | table (tag : Tag) (broken : Bool) (entries : List (Key × Node))
  deriving Repr, Inhabited

/-- The node as a key. -/
def Node.toKey : Node → Key
  | .scalar tag text => .scalar tag text
  | _ => .collection

/-- The empty scalar, which stands for null. -/
def Node.empty : Node := .scalar .null []

/-- What handles in front of tags stand for. -/
abbrev Handles := List (String × String)

/-- The handles that are known in every document. -/
def standardHandles : Handles := [("!", "!"), ("!!", "tag:yaml.org,2002:")]

/-- The names of the tags that are known. -/
def knownTags : List (String × Tag) :=
  [("tag:yaml.org,2002:null", .null), ("tag:yaml.org,2002:bool", .truth),
    ("tag:yaml.org,2002:int", .integer), ("tag:yaml.org,2002:float", .fraction),
    ("tag:yaml.org,2002:str", .text), ("tag:yaml.org,2002:timestamp", .time),
    ("tag:yaml.org,2002:merge", .merge), ("tag:yaml.org,2002:value", .sign),
    ("tag:yaml.org,2002:seq", .list), ("tag:yaml.org,2002:map", .table)]

/-- The tag of a name; without a name, or with an exclamation mark for it, the one that `standard`
gives. -/
def tagNamed (standard : Tag) : Option String → Tag
  | none => standard
  | some name => if name == "!" then standard else (knownTags.lookup name).getD .unknown

/-- The tag of a scalar: without a name, that of its form if it is plain. -/
def scalarTag (plain : Bool) (text : List Char) : Option String → Tag
  | none => if plain then .ofPlain text else .text
  | some name => tagNamed (.ofPlain text) (some name)

/-- Tokens to come, and the nodes that have been named; one without a node is being read. -/
structure Reading where
  /-- The tokens. -/
  tokens : List Token
  /-- The names. -/
  named : List (String × Option Node) := []
  /-- The number of nodes around the one that is read. -/
  around : Nat := 0

/-- What stands in front of a node. -/
structure Properties where
  /-- Its name. -/
  anchor : Option String := none
  /-- The name of its tag. -/
  tag : Option String := none

/-- Where a node stands, which decides what it may be. -/
inductive Position where
  /-- In a flow collection: no blocks. -/
  | flow
  /-- In a block. -/
  | block
  /-- In a table: the dashes of a list may stand as far in as the keys. -/
  | entry
  deriving DecidableEq, Repr

/-- Why tokens are not what is expected. -/
def unexpected : List Token → Failure
  | .fault failure :: _ => failure
  | _ => .malformedYaml

namespace Reading

/-- The reading with other tokens to come. -/
def withTokens (r : Reading) (tokens : List Token) : Reading := { r with tokens }

/-- The name of a tag written with a handle. -/
def tagName (handles : Handles) : Option String → String → Except Failure String
  | none, rest => .ok rest
  | some handle, rest =>
      match handles.lookup handle with
      | some stem => .ok (stem ++ rest)
      | none => .error .malformedYaml

/-- The properties in front of a node: a name and a tag, in either order. -/
def properties (handles : Handles) (r : Reading) : Except Failure (Properties × Reading) :=
  match r.tokens with
  | .anchor name :: .tag handle rest :: tokens
  | .tag handle rest :: .anchor name :: tokens =>
      (tagName handles handle rest).map fun tag => (⟨some name, some tag⟩, r.withTokens tokens)
  | .anchor name :: tokens => .ok (⟨some name, none⟩, r.withTokens tokens)
  | .tag handle rest :: tokens =>
      (tagName handles handle rest).map fun tag => (⟨none, some tag⟩, r.withTokens tokens)
  | _ => .ok ({}, r)

/-- The reading with a node that is being read under a name; a name is given once. -/
def beginNamed (r : Reading) (anchor : Option String) : Except Failure Reading :=
  match anchor with
  | none => .ok r
  | some name =>
      if (r.named.lookup name).isSome then .error .malformedYaml
      else .ok { r with named := (name, none) :: r.named }

/-- The reading after the node of a name has been read. -/
def endNamed (r : Reading) (anchor : Option String) (node : Node) : Reading :=
  match anchor with
  | none => r
  | some name => { r with named := (name, some node) :: r.named }

end Reading

mutual

/-- The node at a place of a given kind. -/
def readNode (handles : Handles) : Nat → Position → Reading → Except Failure (Node × Reading)
  | 0, _, _ => .error .malformedYaml
  | fuel + 1, position, r =>
      match r.tokens with
      | .reference name :: tokens =>
          match r.named.lookup name with
          | some (some node) => .ok (node, r.withTokens tokens)
          | _ => .error .malformedYaml
      | _ => do
          if maxNesting ≤ r.around then throw .nestedTooDeep
          let (properties, r) ← r.properties handles
          let r ← r.beginNamed properties.anchor
          let inside : Reading := { r with around := r.around + 1 }
          let (node, s) ← readContent handles fuel position properties inside
          return (node, { s with around := r.around }.endNamed properties.anchor node)

/-- The node behind its properties. -/
def readContent (handles : Handles) :
    Nat → Position → Properties → Reading → Except Failure (Node × Reading)
  | 0, _, _, _ => .error .malformedYaml
  | fuel + 1, position, properties, r =>
      let tag := properties.tag
      let listed (found : List Node × Reading) : Node × Reading :=
        (.list (tagNamed .list tag) found.1, found.2)
      let tabled (found : List (Key × Node) × Reading) : Node × Reading :=
        (.table (tagNamed .table tag) false found.1, found.2)
      match r.tokens, position with
      | .dash :: _, .entry => (readLooseDashes handles fuel r).map listed
      | .scalar plain text :: tokens, _ =>
          .ok (.scalar (scalarTag plain text tag) text, r.withTokens tokens)
      | .openBracket :: tokens, _ =>
          (readFlowItems handles fuel true (r.withTokens tokens)).map listed
      | .openBrace :: tokens, _ =>
          (readFlowEntries handles fuel true (r.withTokens tokens)).map tabled
      | .openList :: _, .flow => .error .malformedYaml
      | .openList :: tokens, _ => (readDashes handles fuel (r.withTokens tokens)).map listed
      | .openTable :: _, .flow => .error .malformedYaml
      | .openTable :: tokens, _ => (readKeys handles fuel (r.withTokens tokens)).map tabled
      | tokens, _ =>
          if properties.anchor.isSome || tag.isSome then
            .ok (.scalar (scalarTag true [] tag) [], r)
          else .error (unexpected tokens)

/-- The node of an item or a value that may be missing: it is, if one of the tokens that `ends`
tells comes next. -/
def readOptional (handles : Handles) :
    Nat → Position → (Token → Bool) → Reading → Except Failure (Node × Reading)
  | 0, _, _, _ => .error .malformedYaml
  | fuel + 1, position, ends, r =>
      if (r.tokens.head?.map ends) == some true then .ok (.empty, r)
      else readNode handles fuel position r

/-- The items of a block list from the next dash on. -/
def readDashes (handles : Handles) : Nat → Reading → Except Failure (List Node × Reading)
  | 0, _ => .error .malformedYaml
  | fuel + 1, r =>
      match r.tokens with
      | .dash :: tokens => do
          let ends (t : Token) : Bool := t == .dash || t == .closeBlock
          let (item, r) ← readOptional handles fuel .block ends (r.withTokens tokens)
          let (items, r) ← readDashes handles fuel r
          return (item :: items, r)
      | .closeBlock :: tokens => .ok ([], r.withTokens tokens)
      | tokens => .error (unexpected tokens)

/-- The items of a block list that stands as far in as the keys around it. -/
def readLooseDashes (handles : Handles) : Nat → Reading → Except Failure (List Node × Reading)
  | 0, _ => .error .malformedYaml
  | fuel + 1, r =>
      match r.tokens with
      | .dash :: tokens => do
          let ends (t : Token) : Bool :=
            t == .dash || t == .key || t == .colon || t == .closeBlock
          let (item, r) ← readOptional handles fuel .block ends (r.withTokens tokens)
          let (items, r) ← readLooseDashes handles fuel r
          return (item :: items, r)
      | _ => .ok ([], r)

/-- The value of an entry of a block table; it may be missing. -/
def readBlockValue (handles : Handles) : Nat → Reading → Except Failure (Node × Reading)
  | 0, _ => .error .malformedYaml
  | fuel + 1, r =>
      match r.tokens with
      | .colon :: tokens =>
          let ends (t : Token) : Bool := t == .key || t == .colon || t == .closeBlock
          readOptional handles fuel .entry ends (r.withTokens tokens)
      | _ => .ok (.empty, r)

/-- The entries of a block table from the next key on. -/
def readKeys (handles : Handles) : Nat → Reading → Except Failure (List (Key × Node) × Reading)
  | 0, _ => .error .malformedYaml
  | fuel + 1, r =>
      match r.tokens with
      | .key :: tokens => do
          let ends (t : Token) : Bool := t == .key || t == .colon || t == .closeBlock
          let (key, r) ← readOptional handles fuel .entry ends (r.withTokens tokens)
          let (value, r) ← readBlockValue handles fuel r
          let (entries, r) ← readKeys handles fuel r
          return ((key.toKey, value) :: entries, r)
      | .closeBlock :: tokens => .ok ([], r.withTokens tokens)
      | tokens => .error (unexpected tokens)

/-- The value of an entry in brackets that `closing` closes; it may be missing. -/
def readFlowValue (handles : Handles) (closing : Token) :
    Nat → Reading → Except Failure (Node × Reading)
  | 0, _ => .error .malformedYaml
  | fuel + 1, r =>
      match r.tokens with
      | .colon :: tokens =>
          readOptional handles fuel .flow (fun t => t == .comma || t == closing)
            (r.withTokens tokens)
      | _ => .ok (.empty, r)

/-- The entry behind the mark of a key in brackets that `closing` closes. -/
def readFlowEntry (handles : Handles) (closing : Token) :
    Nat → Reading → Except Failure ((Key × Node) × Reading)
  | 0, _ => .error .malformedYaml
  | fuel + 1, r => do
      let ends (t : Token) : Bool := t == .colon || t == .comma || t == closing
      let (key, r) ← readOptional handles fuel .flow ends r
      let (value, r) ← readFlowValue handles closing fuel r
      return ((key.toKey, value), r)

/-- The items between brackets from the next one on. -/
def readFlowItems (handles : Handles) :
    Nat → Bool → Reading → Except Failure (List Node × Reading)
  | 0, _, _ => .error .malformedYaml
  | fuel + 1, first, r =>
      match r.tokens, first with
      | .closeBracket :: tokens, _ => .ok ([], r.withTokens tokens)
      | .comma :: tokens, false => readFlowItem handles fuel (r.withTokens tokens)
      | tokens, false => .error (unexpected tokens)
      | _, true => readFlowItem handles fuel r

/-- An item between brackets with the items behind it; a single pair is a table of one entry. -/
def readFlowItem (handles : Handles) : Nat → Reading → Except Failure (List Node × Reading)
  | 0, _ => .error .malformedYaml
  | fuel + 1, r =>
      match r.tokens with
      | .closeBracket :: tokens => .ok ([], r.withTokens tokens)
      | .key :: tokens => do
          let (entry, r) ← readFlowEntry handles .closeBracket fuel (r.withTokens tokens)
          let (items, r) ← readFlowItems handles fuel false r
          return (.table .table false [entry] :: items, r)
      | _ => do
          let (item, r) ← readNode handles fuel .flow r
          let (items, r) ← readFlowItems handles fuel false r
          return (item :: items, r)

/-- The entries between braces from the next one on. -/
def readFlowEntries (handles : Handles) :
    Nat → Bool → Reading → Except Failure (List (Key × Node) × Reading)
  | 0, _, _ => .error .malformedYaml
  | fuel + 1, first, r =>
      match r.tokens, first with
      | .closeBrace :: tokens, _ => .ok ([], r.withTokens tokens)
      | .comma :: tokens, false => readFlowPair handles fuel (r.withTokens tokens)
      | tokens, false => .error (unexpected tokens)
      | _, true => readFlowPair handles fuel r

/-- An entry between braces with the entries behind it; a node alone is a key without a value. -/
def readFlowPair (handles : Handles) : Nat → Reading → Except Failure (List (Key × Node) × Reading)
  | 0, _ => .error .malformedYaml
  | fuel + 1, r =>
      match r.tokens with
      | .closeBrace :: tokens => .ok ([], r.withTokens tokens)
      | .key :: tokens => do
          let (entry, r) ← readFlowEntry handles .closeBrace fuel (r.withTokens tokens)
          let (entries, r) ← readFlowEntries handles fuel false r
          return (entry :: entries, r)
      | _ => do
          let (key, r) ← readNode handles fuel .flow r
          let (entries, r) ← readFlowEntries handles fuel false r
          return ((key.toKey, .empty) :: entries, r)

end

/-! ## Documents -/

/-- The directives in front of a document: the handles they declare, and what follows them. One
version may be named, of the first kind, and each handle once. -/
def readDirectives : List Token → Bool → Handles → Except Failure (Handles × List Token)
  | .directive (.version major) :: tokens, versioned, handles =>
      if versioned || major != 1 then .error .malformedYaml
      else readDirectives tokens true handles
  | .directive (.handle name stem) :: tokens, versioned, handles =>
      if (handles.lookup name).isSome then .error .malformedYaml
      else readDirectives tokens versioned ((name, stem) :: handles)
  | .directive .other :: tokens, versioned, handles => readDirectives tokens versioned handles
  | tokens, _, handles => .ok (handles, tokens)

/-- The tokens behind the marks of a document's end. -/
def skipEnds (tokens : List Token) : List Token := tokens.dropWhile (· == .documentEnd)

/-- A document begins with this token, and its first node does not. -/
def beginsDocument : Token → Bool
  | .directive _ => true
  | .documentStart => true
  | _ => false

/-- Enough fuel for tokens: no token is passed on by more than six calls. -/
def nodeFuel (tokens : List Token) : Nat := 6 * tokens.length + 6

/-- The node behind the mark of a document's start; it may be missing. -/
def readDocument (handles : Handles) (tokens : List Token) :
    Except Failure (Node × List Token) :=
  match tokens with
  | [] => .ok (.empty, [])
  | token :: _ =>
      if beginsDocument token || token == .documentEnd then .ok (.empty, tokens)
      else (readNode handles (nodeFuel tokens) .block { tokens }).map fun (node, r) =>
        (node, r.tokens)

/-- The first document of a list of tokens, and what follows it. -/
def readFirst (tokens : List Token) : Except Failure (Node × List Token) :=
  if (tokens.head?.map beginsDocument) == some true then
    match readDirectives tokens false [] with
    | .ok (handles, .documentStart :: tokens) => readDocument (handles ++ standardHandles) tokens
    | .ok (_, tokens) => .error (unexpected tokens)
    | .error failure => .error failure
  else
    (readNode standardHandles (nodeFuel tokens) .block { tokens }).map fun (node, r) =>
      (node, r.tokens)

/-- The node of the only document, if there is one. -/
def Node.ofTokens (tokens : List Token) : Except Failure (Option Node) :=
  if tokens.isEmpty then .ok none
  else
    match readFirst tokens with
    | .error failure => .error failure
    | .ok (node, tokens) =>
        match skipEnds tokens with
        | [] => .ok (some node)
        | tokens => .error (unexpected tokens)

end ChunkGraph.Data.Yaml
