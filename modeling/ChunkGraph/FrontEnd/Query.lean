import ChunkGraph.FrontEnd.Basic

/-!
# Questions about a node

Everything a front end can be asked about a node, as data. A question may also
be asked about no node, as with the root of a language without a grammar: then
nothing is found, and the answer is of the form that it has for a node.

## Main definitions

* `Query`, `Query.Answer` — questions and answers.
* `FrontEnd.answer` — the answer about a declaration.
* `FrontEnd.ask` — the answer about a declaration that may be missing.
-/

namespace ChunkGraph

open Syntax

/-- A question about a node. -/
inductive Query where
  | isFunction
  | isMethod
  | isClass
  | isInterface
  | isEnum
  | isTypeAlias
  | isNamespace
  | isVariableStatement
  | isComponentOptions
  | isComponentOption
  | isExported
  | name
  | range
  | members
  | declarators
  | initializer
  | componentOptions
  | optionEntries
  | propertyValue
  | declarations
  | exportName
  | exports
  | imports
  | references
  | decorators
  | typeParameters
  | parameters
  | returnType
  | docComment
  | visibility
  | code
  deriving DecidableEq, Repr

/-- The answer to a question. -/
inductive Query.Answer where
  | truth (holds : Bool)
  | text (found : Option String)
  | texts (found : List String)
  | range (found : Option Range)
  | item (found : Option Item)
  | items (found : List Item)
  | exports (found : List Export)
  | dependencies (found : List Dependency)
  | parameters (found : List Parameter)

/-- An answer of the same form that finds nothing. -/
def Query.Answer.blank : Query.Answer → Query.Answer
  | .truth _ => .truth false
  | .text _ => .text none
  | .texts _ => .texts []
  | .range _ => .range none
  | .item _ => .item none
  | .items _ => .items []
  | .exports _ => .exports []
  | .dependencies _ => .dependencies []
  | .parameters _ => .parameters []

namespace FrontEnd

/-- The answer about a declaration. -/
def answer (frontEnd : FrontEnd) (tree : Tree) (item : Item) : Query → Query.Answer
  | .isFunction => .truth (frontEnd.isFunction item)
  | .isMethod => .truth (frontEnd.isMethod item)
  | .isClass => .truth (frontEnd.isClass item)
  | .isInterface => .truth (frontEnd.isInterface item)
  | .isEnum => .truth (frontEnd.isEnum item)
  | .isTypeAlias => .truth (frontEnd.isTypeAlias item)
  | .isNamespace => .truth (frontEnd.isNamespace item)
  | .isVariableStatement => .truth (frontEnd.isVariableStatement item)
  | .isComponentOptions => .truth (frontEnd.isComponentOptions tree item)
  | .isComponentOption => .truth (frontEnd.isComponentOption tree item)
  | .isExported => .truth (frontEnd.isExported tree item)
  | .name => .text (frontEnd.nameOf tree item)
  | .range => .range (some (item.range tree))
  | .members => .items (frontEnd.members item)
  | .declarators => .items (frontEnd.declarators item)
  | .initializer => .item (frontEnd.initializer? item)
  | .componentOptions => .items (frontEnd.componentOptions item)
  | .optionEntries => .items (frontEnd.optionEntries item)
  | .propertyValue => .item (Script.propertyValue? item)
  | .declarations => .items (frontEnd.declarations tree item.node)
  | .exportName => .text (frontEnd.exportName tree item)
  | .exports => .exports ((frontEnd.exports? tree item.node).getD [])
  | .imports => .dependencies (frontEnd.imports tree item)
  | .references => .dependencies (frontEnd.references tree item)
  | .decorators => .texts (frontEnd.decorators tree item)
  | .typeParameters => .texts (frontEnd.typeParameters tree item)
  | .parameters => .parameters (frontEnd.parameters tree item)
  | .returnType => .text (frontEnd.returnType tree item)
  | .docComment => .text (frontEnd.docComment tree item)
  | .visibility => .text (some (frontEnd.visibility tree item))
  | .code => .text (some (item.text tree))

/-- The answer where there is no node. The text of nothing is empty, and the front end for all other
languages takes for public what it knows nothing about. -/
def answerMissing (frontEnd : FrontEnd) : Query → Query.Answer
  | .code => .text (some "")
  | .visibility =>
      match frontEnd with
      | .generic _ => .text (some "public")
      | _ => .text none
  | query => (frontEnd.answer default default query).blank

/-- The answer about a declaration that may be missing. -/
def ask (frontEnd : FrontEnd) (tree : Tree) (item? : Option Item) (query : Query) :
    Query.Answer :=
  match item? with
  | some item => frontEnd.answer tree item query
  | none => frontEnd.answerMissing query

/-- No question gets an answer of one form for a node and of another form for no node. -/
theorem blank_ask_none (frontEnd : FrontEnd) (tree : Tree) (item : Item) (query : Query) :
    (frontEnd.ask tree none query).blank = (frontEnd.ask tree (some item) query).blank := by
  cases query with
  | visibility => cases frontEnd <;> rfl
  | _ => rfl

end FrontEnd

end ChunkGraph
