import ChunkGraph.FrontEnd.Component
import ChunkGraph.FrontEnd.Generic
import ChunkGraph.Language.Registry

/-!
# Front ends

A front end parses the files of some languages and answers questions about
their nodes. There are three: one for scripts, one for components, which read
their script block as a script, and one for all other languages, which is bound
to a single language.

## Main definitions

* `FrontEnd`, `FrontEnd.create` — the front ends and how one is made.
* `FrontEnd.kindFor` — the kind of front end of a language.
* `FrontEnd.parse?`, `FrontEnd.declarations` — from a text to declarations.
* `FrontEnd.isFunction`, `FrontEnd.nameOf`, `FrontEnd.imports`, … — the
  questions, each answered by the front end in charge.
-/

namespace ChunkGraph

open Syntax

/-- What parses a file and answers questions about its nodes. -/
inductive FrontEnd where
  /-- TypeScript and JavaScript. -/
  | script
  /-- Vue components. -/
  | component
  /-- Any other language. -/
  | generic (language : String)
  deriving DecidableEq, Repr, Inhabited

namespace FrontEnd

/-- The kind of the front end for scripts. -/
def scriptKind : String := "typescript"

/-- The kind of the front end for components. -/
def componentKind : String := "vue"

/-- The kind of the front end for all other languages. -/
def genericKind : String := "treesitter"

/-- The kind of front end of a language. -/
def kindFor (language : String) : String :=
  if language == "typescript" || language == "javascript" then scriptKind
  else if language == "vue" then componentKind
  else genericKind

/-- A front end of a kind for a file. -/
def create (kind : String) (path : Option String) : Except Failure FrontEnd :=
  if kind == scriptKind then .ok .script
  else if kind == componentKind then .ok .component
  else if kind == genericKind then
    match path.bind nonEmpty? with
    | some path => .ok (.generic (detectLanguage path))
    | none => .ok (.generic "unknown")
  else .error (.unknownFrontEnd kind)

/-- The kind of a front end. -/
def kind : FrontEnd → String
  | .script => scriptKind
  | .component => componentKind
  | .generic _ => genericKind

/-- The language that a front end is bound to. -/
def language? : FrontEnd → Option String
  | .generic language => some language
  | _ => none

/-- The grammar of a path read as a script. -/
def grammarForPath (path : String) : String :=
  Script.grammarFor (String.ofList (Path.lowerSuffix path))

/-- The tree of a text; none if parsing fails. -/
def parse? (parser : Parser) (frontEnd : FrontEnd) (code path : String) : Option Tree :=
  match frontEnd with
  | .script => Script.parse? parser (grammarForPath path) code 0
  | .component => Component.parse? parser code
  | .generic language => Generic.parse? parser language code

/-- The declarations below a node at the top level. -/
def declarations (frontEnd : FrontEnd) (tree : Tree) (root : Cursor) : List Item :=
  match frontEnd with
  | .script => Script.declarationsIn root
  | .component => Component.declarations tree root
  | .generic language => Generic.collect language root

/-! ## What a node is -/

/-- A function. -/
def isFunction : FrontEnd → Item → Bool
  | .generic language => Generic.isFunction language
  | _ => Script.isFunction

/-- A method. -/
def isMethod : FrontEnd → Item → Bool
  | .generic language => Generic.isMethod language
  | _ => Script.isMethod

/-- A class. -/
def isClass : FrontEnd → Item → Bool
  | .generic language => Generic.isClass language
  | _ => Script.isClass

/-- An interface. -/
def isInterface : FrontEnd → Item → Bool
  | .generic language => Generic.isInterface language
  | _ => Script.isInterface

/-- An enumeration. -/
def isEnum : FrontEnd → Item → Bool
  | .generic language => Generic.isEnum language
  | _ => Script.isEnum

/-- A type alias. -/
def isTypeAlias : FrontEnd → Item → Bool
  | .generic language => Generic.isTypeAlias language
  | _ => Script.isTypeAlias

/-- A namespace. -/
def isNamespace : FrontEnd → Item → Bool
  | .generic language => Generic.isNamespace language
  | _ => Script.isNamespace

/-- A variable statement. -/
def isVariableStatement : FrontEnd → Item → Bool
  | .generic _ => fun _ => false
  | _ => Script.isVariableStatement

/-- The export of an object of options. -/
def isComponentOptions : FrontEnd → Tree → Item → Bool
  | .generic _ => fun _ _ => false
  | _ => Script.isComponentOptions

/-- An option of an exported object. -/
def isComponentOption : FrontEnd → Tree → Item → Bool
  | .generic _ => fun _ _ => false
  | _ => Script.isComponentOption

/-! ## Structure -/

/-- The name of a declaration. -/
def nameOf : FrontEnd → Tree → Item → Option String
  | .generic _ => Generic.nameOf
  | _ => Script.nameOf

/-- The members of a container. -/
def members : FrontEnd → Item → List Item
  | .generic language => Generic.members language
  | _ => Script.members

/-- The declarators of a variable statement. -/
def declarators : FrontEnd → Item → List Item
  | .generic _ => fun _ => []
  | _ => Script.declarators

/-- The initial value of a declarator. -/
def initializer? : FrontEnd → Item → Option Item
  | .generic _ => fun _ => none
  | _ => Script.initializer?

/-- The properties of an exported object of options. -/
def componentOptions : FrontEnd → Item → List Item
  | .generic _ => fun _ => []
  | _ => Script.componentOptions

/-- The entries of an option. -/
def optionEntries : FrontEnd → Item → List Item
  | .generic _ => fun _ => []
  | _ => Script.optionEntries

/-! ## Exports and imports -/

/-- The declaration is exported. -/
def isExported : FrontEnd → Tree → Item → Bool
  | .generic language => Generic.isExported language
  | _ => Script.isExported

/-- The name under which it is exported. -/
def exportName : FrontEnd → Tree → Item → Option String
  | .generic language => Generic.exportName language
  | _ => Script.exportName

/-- The tree after its declarations have been looked at: a script keeps the table of the names it
exports apart from their declarations. -/
def keepTable : FrontEnd → Tree → Tree
  | .generic _ => id
  | _ => Script.keepTable

/-- The exports of a file; none if a statement has no answer. -/
def exports? : FrontEnd → Tree → Cursor → Option (List Export)
  | .generic language => fun tree root => some (Generic.exports language tree root)
  | _ => Script.exports?

/-- The imports of a file at its root, and of a declaration elsewhere. -/
def imports : FrontEnd → Tree → Item → List Dependency
  | .generic language => Generic.imports language
  | _ => Script.imports

/-- The names a declaration relies on. -/
def references : FrontEnd → Tree → Item → List Dependency
  | .generic _ => Generic.references
  | _ => Script.references

/-! ## Signatures -/

/-- Decorators. -/
def decorators : FrontEnd → Tree → Item → List String
  | .generic _ => Generic.decorators
  | _ => Script.decorators

/-- Type parameters. -/
def typeParameters : FrontEnd → Tree → Item → List String
  | .generic _ => Generic.typeParameters
  | _ => Script.typeParameters

/-- Parameters. -/
def parameters : FrontEnd → Tree → Item → List Parameter
  | .generic _ => Generic.parameters
  | _ => Script.parameters

/-- The return type. -/
def returnType : FrontEnd → Tree → Item → Option String
  | .generic language => Generic.returnType language
  | _ => Script.returnType

/-- The comment that documents a declaration. -/
def docComment : FrontEnd → Tree → Item → Option String
  | .generic language => Generic.docComment language
  | _ => Script.docComment

/-- Who may use a member. -/
def visibility : FrontEnd → Tree → Item → String
  | .generic language => Generic.visibility language
  | _ => Script.visibility

end FrontEnd

end ChunkGraph
