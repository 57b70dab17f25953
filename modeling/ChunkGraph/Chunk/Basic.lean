/-!
# Chunks

A chunk is a declaration cut out of a source file: what it is called and
where it stands, what it depends on, which chunk holds it and which ones it
holds, and what its signature says. Lines are counted from one, columns from
zero and in bytes.

## Main definitions

* `ChunkKind` — what is declared.
* `Dependency` — one thing a chunk relies on: an import or a name it refers to.
* `Chunk` — the declaration.
* `Export` — one export of a file.
-/

namespace ChunkGraph

/-- What a chunk declares. -/
inductive ChunkKind where
  | functionDecl
  | classDecl
  | methodDecl
  | interfaceDecl
  | typeAliasDecl
  | enumDecl
  | namespaceDecl
  | moduleDecl
  | exportDecl
  | topLevelDecl
  /-- A kind that no rule of this library produces. -/
  | other (name : String)
  deriving DecidableEq, Repr, Inhabited

/-- The kinds that rules produce, with their names. -/
def ChunkKind.names : List (ChunkKind × String) :=
  [(.functionDecl, "function"), (.classDecl, "class"), (.methodDecl, "method"),
    (.interfaceDecl, "interface"), (.typeAliasDecl, "type-alias"), (.enumDecl, "enum"),
    (.namespaceDecl, "namespace"), (.moduleDecl, "module"), (.exportDecl, "export"),
    (.topLevelDecl, "top-level-declaration")]

/-- The name of a kind. -/
def ChunkKind.name : ChunkKind → String
  | .functionDecl => "function"
  | .classDecl => "class"
  | .methodDecl => "method"
  | .interfaceDecl => "interface"
  | .typeAliasDecl => "type-alias"
  | .enumDecl => "enum"
  | .namespaceDecl => "namespace"
  | .moduleDecl => "module"
  | .exportDecl => "export"
  | .topLevelDecl => "top-level-declaration"
  | .other name => name

/-- The kind of a name. -/
def ChunkKind.ofName (name : String) : ChunkKind :=
  ((names.find? (·.2 == name)).map (·.1)).getD (.other name)

/-- How a chunk relies on something. -/
inductive DependencyKind where
  /-- An import statement. -/
  | imported
  /-- A call that loads a module. -/
  | required
  /-- An import in an expression. -/
  | dynamicImport
  /-- A name that is called, constructed or used as a type. -/
  | reference
  deriving DecidableEq, Repr, Inhabited

/-- The name of a kind of dependency. -/
def DependencyKind.name : DependencyKind → String
  | .imported => "import"
  | .required => "require"
  | .dynamicImport => "dynamic-import"
  | .reference => "reference"

/-- The kind of dependency of a name; other names stand for an import. -/
def DependencyKind.ofName (name : String) : DependencyKind :=
  if name == "require" then .required
  else if name == "dynamic-import" then .dynamicImport
  else if name == "reference" then .reference
  else .imported

/-- One thing a chunk relies on. -/
structure Dependency where
  /-- The imported or referenced name, a star for a whole module. -/
  name : String
  /-- The module's specifier, empty for references. -/
  source : String
  /-- How it is relied on. -/
  kind : DependencyKind := .imported
  /-- It is the default export that is imported. -/
  isDefault : Bool := false
  /-- All exports are imported under one name. -/
  isNamespace : Bool := false
  deriving DecidableEq, Repr, Inhabited

/-- A parameter of a function. -/
structure Parameter where
  /-- Name, or the text of a pattern. -/
  name : String
  /-- Type as written. -/
  type : Option String := none
  /-- It may be left out. -/
  optional : Bool := false
  /-- Default as written. -/
  defaultValue : Option String := none
  deriving DecidableEq, Repr, Inhabited

/-- One export of a file. -/
structure Export where
  /-- Name for importers. -/
  name : String
  /-- Name in the file. -/
  localName : Option String := none
  /-- Specifier of the module it is passed on from. -/
  source : Option String := none
  /-- It is the default export. -/
  isDefault : Bool := false
  deriving DecidableEq, Repr, Inhabited

/-- A position in a file. -/
structure Position where
  /-- Line, counted from one. -/
  line : Int
  /-- Column, counted from zero. -/
  column : Int := 0
  deriving DecidableEq, Repr, Inhabited

/-- A part of a file. -/
structure Range where
  /-- First position. -/
  start : Position
  /-- Last position. -/
  stop : Position
  deriving DecidableEq, Repr, Inhabited

/-- A declaration cut out of a source file. -/
structure Chunk where
  /-- Identity, the same as long as path, kind and qualified name are. -/
  id : String
  /-- What is declared. -/
  kind : ChunkKind
  /-- The declared name. -/
  name : String
  /-- Names from the outermost container inwards, joined by dots. -/
  qualifiedName : String
  /-- The file, as the caller named it. -/
  filePath : String
  /-- The part of the file. -/
  range : Range
  /-- First line. -/
  startLine : Int
  /-- Last line. -/
  endLine : Int
  /-- Fingerprint of path, place and text. -/
  hash : String
  /-- What the chunk relies on. -/
  dependencies : List Dependency := []
  /-- Identity of the chunk that holds this one. -/
  parentId : Option String := none
  /-- Identities of the chunks that this one holds. -/
  childrenIds : List String := []
  /-- Other files can import it. -/
  exported : Bool := false
  /-- The name under which they do. -/
  exportName : Option String := none
  /-- Who may use a method. -/
  visibility : Option String := none
  /-- The declaration is marked as asynchronous. -/
  isAsync : Bool := false
  /-- The declaration is marked as a generator. -/
  isGenerator : Bool := false
  /-- Decorators without their sign. -/
  decorators : List String := []
  /-- Type parameters as written. -/
  typeParameters : List String := []
  /-- Parameters of a function. -/
  parameters : List Parameter := []
  /-- Return type as written. -/
  returnType : Option String := none
  /-- The comment that documents the declaration. -/
  docComment : Option String := none
  /-- Number of tokens of the text. -/
  tokenCount : Option Int := none
  /-- The text, if it is kept. -/
  content : Option String := none
  /-- The role of an option of a component. -/
  optionType : Option String := none
  deriving DecidableEq, Repr, Inhabited

/-- Number of lines from the first to the last. -/
def Chunk.lineCount (chunk : Chunk) : Int := chunk.endLine - chunk.startLine + 1

/-- A range of lines, both ends included; it is empty if `start` is greater than `stop`. -/
structure LineRange where
  /-- First line. -/
  start : Int
  /-- Last line. -/
  stop : Int
  deriving DecidableEq, Repr, Inhabited

/-- Line ranges wanted from one file. -/
structure RangeRequest where
  /-- The file. -/
  filePath : String
  /-- Its ranges. -/
  ranges : List LineRange := []
  deriving DecidableEq, Repr, Inhabited

end ChunkGraph
