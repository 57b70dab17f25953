import ChunkGraph.Chunk.Identity
import ChunkGraph.Chunk.Options
import ChunkGraph.Chunk.Tokens
import ChunkGraph.FrontEnd.Basic
import ChunkGraph.Outline.Markers

/-!
# From declarations to chunks

Each rule cuts one kind of declaration. A declaration is handed to the first
rule of a list that is in use and applies to it, and to no other. Classes,
namespaces and the option blocks of components are containers: their members
become chunks of their own, which point to the container, and the container
lists them.

The order of the rules matters in two places: an object of options has to be
claimed before its properties can be taken for functions, and variables come
before functions so that a function held by a variable covers the whole
statement.

Only namespaces hold namespaces, so the depth of containers is bounded by the
size of the tree; that size is the fuel of `dispatch`.

## Main definitions

* `Rule`, `Rule.applies` — the rules and what they apply to.
* `makeChunk?` — the chunk of a declaration.
* `dispatch` — the chunks of a declaration, by the first rule that applies.
* `outline` — the chunks of a tree.
-/

namespace ChunkGraph

open Syntax

/-- A rule that cuts one kind of declaration. -/
inductive Rule where
  | componentOptions
  | classRule
  | interfaceRule
  | enumRule
  | typeAliasRule
  | namespaceRule
  | variableRule
  | functionRule
  | methodRule
  deriving DecidableEq, Repr, Inhabited

namespace Rule

/-- All rules. -/
def all : List Rule :=
  [.componentOptions, .classRule, .interfaceRule, .enumRule, .typeAliasRule, .namespaceRule,
    .variableRule, .functionRule, .methodRule]

/-- The name of a rule. -/
def name : Rule → String
  | .componentOptions => "vue-options"
  | .classRule => "class"
  | .interfaceRule => "interface"
  | .enumRule => "enum"
  | .typeAliasRule => "type-alias"
  | .namespaceRule => "namespace"
  | .variableRule => "variable"
  | .functionRule => "function"
  | .methodRule => "method"

/-- The rule of a name. -/
def ofName? (name : String) : Option Rule := all.find? (·.name == name)

/-- The rules for declarations at the top level, in the order in which they are tried. -/
def topLevel : List Rule :=
  [.componentOptions, .classRule, .interfaceRule, .enumRule, .typeAliasRule, .namespaceRule,
    .variableRule, .functionRule]

/-- The rules for members of a class. -/
def classMembers : List Rule := [.methodRule, .functionRule]

/-- The rules for members of a namespace. -/
def namespaceMembers : List Rule :=
  [.classRule, .interfaceRule, .enumRule, .typeAliasRule, .namespaceRule, .variableRule,
    .functionRule]

end Rule

namespace Outline

/-! ## One declaration -/

/-- What the rules know about the file that is cut. -/
structure Context where
  /-- The front end in charge. -/
  frontEnd : FrontEnd
  /-- The parsed file. -/
  tree : Tree
  /-- The file, as the caller named it. -/
  filePath : String
  /-- What is kept. -/
  options : Options := {}
  /-- The way of counting tokens. -/
  tokenizer : Tokenizer := .estimate
  /-- The rules in use. -/
  rules : List Rule := Rule.all
  /-- The imports of the file. -/
  imports : List Dependency := []

/-- What only some kinds of chunks have. -/
structure Facets where
  /-- Who may use a method. -/
  visibility : Option String := none
  /-- It is asynchronous. -/
  isAsync : Bool := false
  /-- It is a generator. -/
  isGenerator : Bool := false
  /-- Its parameters. -/
  parameters : List Parameter := []
  /-- Its return type. -/
  returnType : Option String := none
  /-- The role of an option of a component. -/
  optionType : Option String := none

namespace Context

/-- What a declaration relies on by itself: its own imports, and the names it refers to that are
not imported. -/
def ownDependencies (ctx : Context) (item : Item) : List Dependency :=
  let imported := ctx.imports.map (·.name)
  ctx.frontEnd.imports ctx.tree item ++
    (ctx.frontEnd.references ctx.tree item).filter fun d => !imported.contains d.name

/-- What the signature of a function says. -/
def functionFacets (ctx : Context) (item : Item) : Facets :=
  let (isAsync, isGenerator) := functionMarkers (item.text ctx.tree) ctx.tree.language
  { parameters := ctx.frontEnd.parameters ctx.tree item
    returnType := ctx.frontEnd.returnType ctx.tree item
    isAsync, isGenerator }

/-- The name of a chunk inside another one. -/
def qualify (parent : Option Chunk) (name : String) : String :=
  match parent with
  | some container => container.qualifiedName ++ "." ++ name
  | none => name

/-- The chunk of a declaration with a name. -/
def chunkNamed (ctx : Context) (item : Item) (parent : Option Chunk) (kind : ChunkKind)
    (name : String) (facets : Facets) : Chunk :=
  let fe := ctx.frontEnd
  let qualifiedName := qualify parent name
  let range := item.range ctx.tree
  let text := item.text ctx.tree
  let exported := fe.isExported ctx.tree item
  { id := chunkId ctx.filePath qualifiedName kind
    kind, name, qualifiedName, range, exported
    filePath := ctx.filePath
    startLine := range.start.line
    endLine := range.stop.line
    hash := chunkHash text ctx.filePath range.start.line range.stop.line
    dependencies := mergeDependencies (ctx.ownDependencies item) ctx.imports
    parentId := parent.map (·.id)
    exportName := if exported then fe.exportName ctx.tree item else none
    visibility := facets.visibility
    isAsync := facets.isAsync
    isGenerator := facets.isGenerator
    decorators := fe.decorators ctx.tree item
    typeParameters := fe.typeParameters ctx.tree item
    parameters := facets.parameters
    returnType := facets.returnType
    docComment := fe.docComment ctx.tree item
    tokenCount := (ctx.tokenizer.count? text).map Int.ofNat
    content := if ctx.options.includeContent then some text else none
    optionType := facets.optionType }

/-- The chunk of a declaration; one without a name has none. -/
def makeChunk? (ctx : Context) (item : Item) (parent : Option Chunk) (kind : ChunkKind)
    (facets : Facets) : Option Chunk :=
  ((ctx.frontEnd.nameOf ctx.tree item).bind nonEmpty?).map fun name =>
    ctx.chunkNamed item parent kind name facets

end Context

/-! ## Containers -/

/-- A container that lists those of the chunks below it that point to it, followed by them. -/
def withMembers (container : Chunk) (members : List Chunk) : List Chunk :=
  let own := members.filter (·.parentId == some container.id)
  { container with childrenIds := own.map (·.id) } :: members

/-! ## Components -/

/-- The blocks of options with the kind of their entries and their role. -/
def optionBlocks : List (String × ChunkKind × String) :=
  [("methods", .methodDecl, "method"), ("computed", .methodDecl, "computed"),
    ("watch", .methodDecl, "watcher"), ("props", .topLevelDecl, "prop"),
    ("emits", .topLevelDecl, "emit")]

/-- The options that are functions, with their role. -/
def functionOptions : List (String × String) :=
  [("data", "data"), ("setup", "setup")] ++ Script.lifecycleHooks.map (·, "lifecycle-hook")

/-- The chunk of an entry of an option block. -/
def entryChunk? (ctx : Context) (block : Chunk) (kind : ChunkKind) (role : String) (item : Item) :
    Option Chunk :=
  let facets := if kind = .methodDecl then ctx.functionFacets item else {}
  ctx.makeChunk? item (some block) kind { facets with optionType := some role }

/-- The chunks of an option of a component. -/
def optionChunks (ctx : Context) (parent : Option Chunk) (item : Item) : List Chunk :=
  let option := (ctx.frontEnd.nameOf ctx.tree item).getD ""
  match functionOptions.lookup option with
  | some role =>
      let facets := { ctx.functionFacets item with optionType := some role }
      (ctx.makeChunk? item parent .functionDecl facets).toList
  | none =>
      match optionBlocks.lookup option with
      | none => []
      | some (kind, role) =>
          match ctx.makeChunk? item parent .topLevelDecl { optionType := some role } with
          | none => []
          | some block =>
              if ctx.options.includeNested then
                withMembers block
                  ((ctx.frontEnd.optionEntries item).filterMap (entryChunk? ctx block kind role))
              else [block]

/-- The chunks of an object of options, or of one option of it. -/
def componentChunks (ctx : Context) (parent : Option Chunk) (item : Item) : List Chunk :=
  if ctx.frontEnd.isComponentOptions ctx.tree item then
    ((ctx.frontEnd.componentOptions item).filter (ctx.frontEnd.isComponentOption ctx.tree)).flatMap
      (optionChunks ctx parent)
  else optionChunks ctx parent item

/-! ## Variables -/

/-- The chunk of a declarator: a function if it is set to one, an export if it is exported. -/
def variableChunk? (ctx : Context) (parent : Option Chunk) (item : Item) : Option Chunk :=
  if (ctx.frontEnd.initializer? item).any ctx.frontEnd.isFunction then
    ctx.makeChunk? item parent .functionDecl (ctx.functionFacets item)
  else if ctx.frontEnd.isExported ctx.tree item then ctx.makeChunk? item parent .exportDecl {}
  else none

/-! ## Rules at work -/

/-- The rule applies to the declaration. -/
def applies (ctx : Context) (item : Item) : Rule → Bool
  | .componentOptions =>
      ctx.frontEnd.isComponentOptions ctx.tree item || ctx.frontEnd.isComponentOption ctx.tree item
  | .classRule => ctx.frontEnd.isClass item
  | .interfaceRule => ctx.frontEnd.isInterface item
  | .enumRule => ctx.frontEnd.isEnum item
  | .typeAliasRule => ctx.frontEnd.isTypeAlias item
  | .namespaceRule => ctx.frontEnd.isNamespace item
  | .variableRule => ctx.frontEnd.isVariableStatement item
  | .functionRule => ctx.frontEnd.isFunction item
  | .methodRule => ctx.frontEnd.isMethod item

/-- The first rule of a list that is in use and applies. -/
def chooseRule? (ctx : Context) (rules : List Rule) (item : Item) : Option Rule :=
  rules.find? fun rule => ctx.rules.contains rule && applies ctx item rule

/-- The chunks of a container and of its members, which `members` cuts. -/
def containerChunks (ctx : Context) (parent : Option Chunk) (kind : ChunkKind)
    (members : Chunk → Item → List Chunk) (item : Item) : List Chunk :=
  match ctx.makeChunk? item parent kind {} with
  | none => []
  | some container =>
      if ctx.options.includeNested then
        withMembers container ((ctx.frontEnd.members item).flatMap (members container))
      else [container]

/-- The chunks of a declaration, by the first rule that applies. -/
def dispatch (ctx : Context) : Nat → List Rule → Option Chunk → Item → List Chunk
  | 0, _, _, _ => []
  | fuel + 1, rules, parent, item =>
      match chooseRule? ctx rules item with
      | none => []
      | some .componentOptions => componentChunks ctx parent item
      | some .classRule =>
          containerChunks ctx parent .classDecl
            (fun container => dispatch ctx fuel Rule.classMembers (some container)) item
      | some .interfaceRule => (ctx.makeChunk? item parent .interfaceDecl {}).toList
      | some .enumRule => (ctx.makeChunk? item parent .enumDecl {}).toList
      | some .typeAliasRule => (ctx.makeChunk? item parent .typeAliasDecl {}).toList
      | some .namespaceRule =>
          containerChunks ctx parent .namespaceDecl
            (fun container => dispatch ctx fuel Rule.namespaceMembers (some container)) item
      | some .variableRule =>
          (ctx.frontEnd.declarators item).filterMap (variableChunk? ctx parent)
      | some .functionRule =>
          (ctx.makeChunk? item parent .functionDecl (ctx.functionFacets item)).toList
      | some .methodRule =>
          let visibility := (nonEmpty? (ctx.frontEnd.visibility ctx.tree item)).getD "public"
          let facets := { ctx.functionFacets item with visibility := some visibility }
          (ctx.makeChunk? item parent .methodDecl facets).toList

/-- The chunks of a declaration at the top level. -/
def declarationChunks (ctx : Context) (item : Item) : List Chunk :=
  dispatch ctx item.node.node.size Rule.topLevel none item

/-- The chunks below a root, in the order of the declarations. -/
def outline (ctx : Context) (root : Cursor) : List Chunk :=
  (ctx.frontEnd.declarations ctx.tree root).flatMap (declarationChunks ctx)

end Outline

end ChunkGraph
