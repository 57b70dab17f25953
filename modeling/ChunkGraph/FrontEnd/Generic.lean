import ChunkGraph.FrontEnd.DocComment
import ChunkGraph.FrontEnd.Item
import ChunkGraph.FrontEnd.Script

/-!
# Python, Go, Java, C and C++

These languages are read by tables: which kinds of nodes are functions,
classes, interfaces, enumerations and namespaces. Declarations are collected
below a node, through everything that is not a declaration itself or the body
of one. A language without a table has no declarations.

## Main definitions

* `Generic.collect` — the declarations below a node.
* `Generic.isDeclaration` — what counts as one.
* `Generic.nameOf`, `Generic.isExported` — names and exports.
* `Generic.statementImports` — the imports of a statement.
* `Generic.relativeModule` — a module with leading dots as a relative path.
* `Generic.parameters`, `Generic.returnType`, … — signatures.
-/

namespace ChunkGraph.Generic

open ChunkGraph.Syntax

/-! ## Tables -/

/-- The languages with a grammar, which has the same name. -/
def supported : List String := ["python", "go", "java", "c", "cpp"]

/-- Kinds of functions. -/
def functionKinds (language : String) : List String :=
  match language with
  | "python" => ["function_definition"]
  | "go" => ["function_declaration", "method_declaration"]
  | "java" => ["method_declaration", "constructor_declaration"]
  | "c" => ["function_definition"]
  | "cpp" => ["function_definition"]
  | _ => []

/-- Kinds of classes. -/
def classKinds (language : String) : List String :=
  match language with
  | "python" => ["class_definition"]
  | "java" => ["class_declaration", "record_declaration"]
  | "c" => ["struct_specifier"]
  | "cpp" => ["class_specifier", "struct_specifier"]
  | _ => []

/-- Kinds of interfaces. -/
def interfaceKinds (language : String) : List String :=
  if language == "java" then ["interface_declaration"] else []

/-- Kinds of enumerations. -/
def enumKinds (language : String) : List String :=
  match language with
  | "java" => ["enum_declaration"]
  | "c" => ["enum_specifier"]
  | "cpp" => ["enum_specifier"]
  | _ => []

/-- Kinds of namespaces. -/
def namespaceKinds (language : String) : List String :=
  if language == "cpp" then ["namespace_definition"] else []

/-- Kinds of containers, which are declarations only with a body. -/
def containerKinds (language : String) : List String :=
  classKinds language ++ interfaceKinds language ++ enumKinds language ++ namespaceKinds language

/-- Kinds that a function can be a member of. -/
def ownerKinds (language : String) : List String :=
  classKinds language ++ interfaceKinds language ++ enumKinds language

/-- Statements whose span belongs to the definition inside. -/
def wrapperKinds : List String := ["decorated_definition", "template_declaration"]

/-- Blocks of statements, which are not searched for declarations. -/
def blockKinds : List String := ["compound_statement", "block"]

/-- Kinds of nodes that are names. -/
def nameKinds : List String :=
  ["identifier", "field_identifier", "type_identifier", "destructor_name", "operator_name"]

/-! ## Declarations -/

/-- The node is a declaration. A container without a body is a use, not a definition. -/
def isDeclaration (language : String) (node : Node) : Bool :=
  if (functionKinds language).contains node.kind then true
  else if node.kind == "type_declaration" && language == "go" then true
  else if (containerKinds language).contains node.kind then
    node.children.any (·.field == "body")
  else false

mutual

/-- The declarations below a node, not going into declarations, nor into blocks except directly in
a wrapper. -/
def collectIn (language : String) (above : List Frame) : Node → List Cursor
  | .mk kind named field start stop children =>
      collectAmong language (.mk kind named field start stop children) above [] children

/-- The declarations among and below the children of `parent` that come after `before`. -/
def collectAmong (language : String) (parent : Node) (above : List Frame) :
    List Node → List Node → List Cursor
  | _, [] => []
  | before, child :: rest =>
      let frames := ⟨parent, before⟩ :: above
      let found :=
        if !child.named then []
        else if isDeclaration language child then [⟨child, frames⟩]
        else if !blockKinds.contains child.kind || wrapperKinds.contains parent.kind then
          collectIn language frames child
        else []
      found ++ collectAmong language parent above (child :: before) rest

end

/-- A declaration with the statement that wraps it. -/
def wrap (c : Cursor) : Item :=
  match c.parent? with
  | some parent => if wrapperKinds.contains parent.kind then ⟨c, some parent⟩ else ⟨c, none⟩
  | none => ⟨c, none⟩

/-- The declarations below a node. -/
def collect (language : String) (c : Cursor) : List Item :=
  (collectIn language c.above c.node).map wrap

/-! ## What a node is -/

/-- Going up, an owner of methods comes before a function. -/
def ownedBelow (language : String) : List Frame → Bool
  | [] => false
  | frame :: above =>
      if (ownerKinds language).contains frame.parent.kind then true
      else if (functionKinds language).contains frame.parent.kind then false
      else ownedBelow language above

/-- A function that is a member of something. -/
def isMethod (language : String) (item : Item) : Bool :=
  (functionKinds language).contains item.kind && ownedBelow language item.node.above

/-- A function that is not a member. -/
def isFunction (language : String) (item : Item) : Bool :=
  (functionKinds language).contains item.kind && !isMethod language item

/-- The specification in a Go type declaration. -/
def typeSpec? (c : Cursor) : Option Cursor :=
  c.namedChildren.find? fun child => child.kind == "type_spec" || child.kind == "type_alias"

/-- What a Go type declaration declares: a class, an interface or an alias. -/
def goTypeKind? (language : String) (item : Item) : Option String :=
  if language != "go" || item.kind != "type_declaration" then none
  else
    (typeSpec? item.node).map fun spec =>
      match spec.child? "type" with
      | some type =>
          if type.kind == "struct_type" then "class"
          else if type.kind == "interface_type" then "interface"
          else "type-alias"
      | none => "type-alias"

/-- A class. -/
def isClass (language : String) (item : Item) : Bool :=
  (classKinds language).contains item.kind || goTypeKind? language item == some "class"

/-- An interface. -/
def isInterface (language : String) (item : Item) : Bool :=
  (interfaceKinds language).contains item.kind || goTypeKind? language item == some "interface"

/-- An enumeration. -/
def isEnum (language : String) (item : Item) : Bool := (enumKinds language).contains item.kind

/-- A type alias. -/
def isTypeAlias (language : String) (item : Item) : Bool :=
  goTypeKind? language item == some "type-alias"

/-- A namespace. -/
def isNamespace (language : String) (item : Item) : Bool :=
  (namespaceKinds language).contains item.kind

/-- The members of a class or a namespace. -/
def members (language : String) (item : Item) : List Item :=
  match item.child? "body" with
  | some body =>
      if isClass language item || isNamespace language item then collect language body else []
  | none => []

/-! ## Names -/

/-- The declared name at the end of a chain of declarators. -/
def declaratorName? (tree : Tree) (c : Cursor) : Option String :=
  if nameKinds.contains c.kind then some (tree.textOf c)
  else if c.kind == "qualified_identifier" || c.kind == "scoped_identifier" then
    some (tree.textOf ((c.child? "name").getD c))
  else
    match _h : c.child? "declarator" with
    | some next => declaratorName? tree next
    | none => none
termination_by c.node.size
decreasing_by exact Cursor.size_lt_of_child? _h

/-- The name of a declaration. -/
def nameOf (tree : Tree) (item : Item) : Option String :=
  if item.kind == "type_declaration" then
    ((typeSpec? item.node).bind (·.child? "name")).map tree.textOf
  else
    match item.child? "name" with
    | some name => nonEmpty? (tree.textOf name)
    | none => (item.child? "declarator").bind (declaratorName? tree)

/-! ## Exports and imports -/

/-- The words of the modifiers of a Java declaration. -/
def modifierWords? (tree : Tree) (item : Item) : Option (List String) :=
  (item.node.childOfKind? "modifiers").map fun modifiers =>
    (Text.words (tree.charsOf modifiers)).map String.ofList

/-- The declaration is exported: not underscored in Python, capitalized in Go, public in Java, and
not static in C and C++. -/
def isExported (language : String) (tree : Tree) (item : Item) : Bool :=
  match (nameOf tree item).map (·.toList) with
  | none => false
  | some [] => false
  | some (first :: _) =>
      if language == "python" then first != '_'
      else if language == "go" then Text.isUpper first
      else if language == "java" then
        match modifierWords? tree item with
        | some words => words.contains "public"
        | none => false
      else
        !item.node.children.any fun c =>
          c.kind == "storage_class_specifier" && tree.textOf c == "static"

/-- The name under which a declaration is exported. -/
def exportName (language : String) (tree : Tree) (item : Item) : Option String :=
  if isExported language tree item then nameOf tree item else none

/-- The relative path of a module: one leading dot is the directory itself, each further one goes
up; the other dots divide segments. -/
def relativeModule (module : List Char) : List Char :=
  let dots := (module.takeWhile (· == '.')).length
  let rest := (module.drop dots).map fun c => if c == '.' then '/' else c
  let front := if dots == 1 then ['.', '/'] else (List.replicate (dots - 1) ['.', '.', '/']).flatten
  match Text.dropWhileRight (· == '/') (front ++ rest) with
  | [] => ['.']
  | path => path

/-- The name in an import, without the name that it is given. -/
def unaliased? (c : Cursor) : Option Cursor :=
  if c.kind == "aliased_import" then c.child? "name" else some c

/-- The imports of a Python `import` statement. -/
def pythonImports (tree : Tree) (statement : Cursor) : List Dependency :=
  (statement.namedChildren.filterMap unaliased?).map fun module =>
    let text := tree.charsOf module
    { name := String.ofList (Text.behindLast '.' text)
      source := String.ofList text
      isNamespace := true }

/-- The imports of a Python `from` statement. -/
def fromImports (tree : Tree) (statement : Cursor) : List Dependency :=
  match statement.child? "module_name" with
  | none => []
  | some module =>
      let text := tree.charsOf module
      let source := String.ofList (if text.head? == some '.' then relativeModule text else text)
      match (statement.childrenIn "name").filterMap unaliased? with
      | [] => [{ name := "*", source, isNamespace := true }]
      | names => names.map fun name => { name := tree.textOf name, source }

/-- The imports of a Go import declaration. -/
def goImports (tree : Tree) (statement : Cursor) : List Dependency :=
  (walkAll statement).filterMap fun spec =>
    if spec.kind != "import_spec" then none
    else
      (spec.child? "path").map fun path =>
        let source := unquote (tree.textOf path)
        let name := match spec.child? "name" with
          | some given => tree.textOf given
          | none => String.ofList (Text.behindLast '/' source.toList)
        { name, source, isNamespace := true }

/-- The text without the word `static` and the blanks behind it. -/
def dropStatic (text : List Char) : List Char :=
  match Text.dropFront? "static".toList text with
  | some (c :: rest) => if Text.isBlank c then Text.trimLeft rest else text
  | _ => text

/-- The import of a Java import declaration. -/
def javaImports (tree : Tree) (statement : Cursor) : List Dependency :=
  let text := Text.dropBack [';'] (Text.dropFront "import".toList (tree.charsOf statement))
  let text := dropStatic (Text.trim text)
  [{ name := String.ofList (Text.behindLast '.' text), source := String.ofList text }]

/-- The file that an include directive of C or C++ names. -/
def includeImports (tree : Tree) (statement : Cursor) : List Dependency :=
  match statement.child? "path" with
  | none => []
  | some path =>
      let raw := tree.charsOf path
      let isBracket (c : Char) : Bool := c == '<' || c == '>'
      let source :=
        if path.kind == "string_literal" then '.' :: '/' :: unquoteChars raw
        else Text.dropWhileRight isBracket (raw.dropWhile isBracket)
      [{ name := "*", source := String.ofList source, isNamespace := true }]

/-- The imports of a statement. -/
def statementImports (language : String) (tree : Tree) (statement : Cursor) : List Dependency :=
  match statement.kind, language with
  | "import_statement", "python" => pythonImports tree statement
  | "import_from_statement", _ => fromImports tree statement
  | "import_declaration", "go" => goImports tree statement
  | "import_declaration", "java" => javaImports tree statement
  | "preproc_include", _ => includeImports tree statement
  | _, _ => []

/-- The imports of a file; a declaration has none of its own. -/
def imports (language : String) (tree : Tree) (item : Item) : List Dependency :=
  if item.node.parent?.isSome then []
  else item.node.namedChildren.flatMap (statementImports language tree)

/-- The exports of a file. -/
def exports (language : String) (tree : Tree) (root : Cursor) : List Export :=
  (collect language root).filterMap fun item =>
    if isExported language tree item then
      ((nameOf tree item).bind nonEmpty?).map fun name => ⟨name, some name, none, false⟩
    else none

/-- Kinds of nodes that call something. -/
def callKinds : List String :=
  ["call", "call_expression", "method_invocation", "object_creation_expression"]

/-- The plain name that a node calls. -/
def target? (c : Cursor) : Option Cursor :=
  if !callKinds.contains c.kind then none
  else if c.kind == "method_invocation" && (c.child? "object").isSome then none
  else
    (((c.child? "function").or (c.child? "type")).or (c.child? "name")).filter fun target =>
      target.kind == "identifier" || target.kind == "type_identifier"

/-- The names a declaration calls. -/
def references (tree : Tree) (item : Item) : List Dependency :=
  let ownName := nameOf tree item
  let names := (walkAll item.node).filterMap fun c => (target? c).map tree.textOf
  Script.asReferences
    (Script.distinct (names.filter fun name => !name.isEmpty && some name != ownName))

/-! ## Signatures -/

/-- The decorators of a decorated definition. -/
def decorators (tree : Tree) (item : Item) : List String :=
  match item.outer with
  | some outer =>
      if outer.kind == "decorated_definition" then
        (outer.namedChildrenOfKind "decorator").map fun d => Script.decoratorText (tree.charsOf d)
      else []
  | none => []

/-- The type parameters of a declaration. -/
def typeParameters (tree : Tree) (item : Item) : List String :=
  match item.child? "type_parameters" with
  | some parameters => parameters.namedChildren.map tree.textOf
  | none => []

/-- The parameter list along a chain of declarators. -/
def parametersAlong? (c : Cursor) : Option Cursor :=
  match c.child? "parameters" with
  | some parameters => some parameters
  | none =>
      match _h : c.child? "declarator" with
      | some next => parametersAlong? next
      | none => none
termination_by c.node.size
decreasing_by exact Cursor.size_lt_of_child? _h

/-- One parameter of a parameter list. -/
def parameter? (tree : Tree) (c : Cursor) : Option Parameter :=
  if c.kind == "comment" then none
  else if c.kind == "identifier" then some { name := tree.textOf c }
  else
    let value := c.child? "value"
    let declared := ((c.child? "name").or (c.child? "declarator")).bind (declaratorName? tree)
    let name := declared.getD (tree.textOf ((c.namedChildOfKind? "identifier").getD c))
    some
      { name
        type := (c.child? "type").map tree.textOf
        optional := value.isSome
        defaultValue := value.map tree.textOf }

/-- The parameters of a function. -/
def parameters (tree : Tree) (item : Item) : List Parameter :=
  match parametersAlong? item.node with
  | some list => list.namedChildren.filterMap (parameter? tree)
  | none => []

/-- The return type of a function: behind its parameters or in front of its name. -/
def returnType (language : String) (tree : Tree) (item : Item) : Option String :=
  if !(functionKinds language).contains item.kind then none
  else
    (["return_type", "result", "type"].findSome? item.child?).map tree.textOf

/-- The comment that documents a declaration. -/
def docComment (language : String) (tree : Tree) (item : Item) : Option String :=
  let target := if language == "python" then item.node else item.span
  DocComment.docComment tree language target (nameOf tree item)

/-- Who may use a member: by underscores in Python, by modifiers in Java. -/
def visibility (language : String) (tree : Tree) (item : Item) : String :=
  if language == "python" then
    let name := ((nameOf tree item).getD "").toList
    let dunder := ['_', '_']
    if Text.startsWith dunder name && !Text.endsWith dunder name then "private"
    else if Text.startsWith ['_'] name then "protected"
    else "public"
  else if language == "java" then
    let words := (modifierWords? tree item).getD []
    (["private", "protected", "public"].find? words.contains).getD "public"
  else "public"

/-! ## Parsing -/

/-- A source parsed in its language; one without a root if the language has no grammar. -/
def parse? (parser : Parser) (language code : String) : Option Tree :=
  let source := Text.Utf8.encode code.toList
  if supported.contains language then
    (parser language code).map fun root => { language, source, root := some root }
  else some { language, source }

end ChunkGraph.Generic
