import ChunkGraph.FrontEnd.DocComment
import ChunkGraph.FrontEnd.Item

/-!
# TypeScript and JavaScript

What the nodes of a script mean: which of them are declarations, what they are
called, whether and under which name they are exported, what they import and
refer to, and what their signatures say.

A declaration is exported if it stands in an export statement, or if it stands
at the top level and an export clause or a default export names it.

## Main definitions

* `Script.grammarFor` — the grammar of a path.
* `Script.declarationsIn`, `Script.unwrap` — the declarations of a container.
* `Script.nameOf`, `Script.isExported`, `Script.exportName` — names.
* `Script.exports?`, `Script.imports` — the exports and imports of a file.
* `Script.references` — the names a declaration relies on.
* `Script.parameters`, `Script.returnType`, `Script.decorators`,
  `Script.typeParameters`, `Script.visibility` — signatures.
-/

namespace ChunkGraph.Script

open ChunkGraph.Syntax

/-! ## Kinds of nodes -/

/-- The grammar of each extension. -/
def grammars : List (String × String) :=
  [(".ts", "typescript"), (".mts", "typescript"), (".cts", "typescript"), (".tsx", "tsx"),
    (".js", "javascript"), (".jsx", "javascript"), (".mjs", "javascript"), (".cjs", "javascript")]

/-- Statements that declare something. -/
def declarationKinds : List String :=
  ["function_declaration", "generator_function_declaration", "class_declaration",
    "abstract_class_declaration", "interface_declaration", "enum_declaration",
    "type_alias_declaration", "lexical_declaration", "variable_declaration", "internal_module",
    "module"]

/-- Functions, declared or as expressions. -/
def functionKinds : List String :=
  ["function_declaration", "generator_function_declaration", "function_expression", "function",
    "generator_function", "arrow_function"]

/-- Class declarations. -/
def classKinds : List String := ["class_declaration", "abstract_class_declaration"]

/-- Namespaces. -/
def namespaceKinds : List String := ["internal_module", "module"]

/-- Variable statements. -/
def variableKinds : List String := ["lexical_declaration", "variable_declaration"]

/-- Fields of classes. -/
def fieldKinds : List String := ["public_field_definition", "field_definition"]

/-- Methods of classes. -/
def methodKinds : List String := ["method_definition", "abstract_method_signature"]

/-- Properties of an object that may be options of a component. -/
def propertyKinds : List String := ["pair", "method_definition"]

/-- The hooks that a component may have. -/
def lifecycleHooks : List String :=
  ["beforeCreate", "created", "beforeMount", "mounted", "beforeUpdate", "updated",
    "beforeUnmount", "unmounted", "beforeDestroy", "destroyed", "activated", "deactivated",
    "errorCaptured", "renderTracked", "renderTriggered"]

/-- The options that a component may have. -/
def optionNames : List String :=
  ["data", "methods", "computed", "watch", "props", "emits", "setup"] ++ lifecycleHooks

/-- Names that are called and are no declarations. -/
def builtinCalls : List String := ["require", "import", "super"]

/-! ## Declarations -/

/-- The declaration in a statement, if it holds one. -/
def unwrap (c : Cursor) : Option Item :=
  if c.kind == "export_statement" then
    match _h : c.child? "declaration" with
    | some declaration => (unwrap declaration).map fun inner => ⟨inner.node, some c⟩
    | none => if (c.child? "value").isSome then some ⟨c, none⟩ else none
  else if c.kind == "ambient_declaration" then
    (c.namedChildren.find? (declarationKinds.contains ·.kind)).map fun inner => ⟨inner, some c⟩
  else if c.kind == "expression_statement" then
    -- Some grammars wrap a namespace in an expression statement.
    match c.namedChildren.head? with
    | some inner => if namespaceKinds.contains inner.kind then some ⟨inner, some c⟩ else none
    | none => none
  else if declarationKinds.contains c.kind then some ⟨c, none⟩
  else none
termination_by c.node.size
decreasing_by exact Cursor.size_lt_of_child? _h

/-- The declarations among the named children of a container. -/
def declarationsIn (container : Cursor) : List Item := container.namedChildren.filterMap unwrap

/-- The members of a class or a namespace. -/
def members (item : Item) : List Item :=
  if classKinds.contains item.kind then
    match item.child? "body" with
    | some body =>
        let own := body.namedChildren.filter fun m => m.kind != "comment" && m.kind != "decorator"
        own.map (⟨·, none⟩)
    | none => []
  else if namespaceKinds.contains item.kind then
    match item.child? "body" with
    | some body => declarationsIn body
    | none => []
  else []

/-- The declarators of a variable statement. A single one stands for the whole statement. -/
def declarators (item : Item) : List Item :=
  match item.node.namedChildrenOfKind "variable_declarator" with
  | [only] => [⟨only, some item.span⟩]
  | several => several.map (⟨·, none⟩)

/-- The initial value of a declarator. -/
def initializer? (item : Item) : Option Item := (item.child? "value").map (⟨·, none⟩)

/-! ## What a node is -/

/-- A function. -/
def isFunction (item : Item) : Bool := functionKinds.contains item.kind

/-- A method, or a field that holds a function. -/
def isMethod (item : Item) : Bool :=
  if methodKinds.contains item.kind then true
  else if fieldKinds.contains item.kind then
    match item.child? "value" with
    | some value => functionKinds.contains value.kind
    | none => false
  else false

/-- A class. -/
def isClass (item : Item) : Bool := classKinds.contains item.kind

/-- An interface. -/
def isInterface (item : Item) : Bool := item.kind == "interface_declaration"

/-- An enumeration. -/
def isEnum (item : Item) : Bool := item.kind == "enum_declaration"

/-- A type alias. -/
def isTypeAlias (item : Item) : Bool := item.kind == "type_alias_declaration"

/-- A namespace. -/
def isNamespace (item : Item) : Bool := namespaceKinds.contains item.kind

/-- A variable statement. -/
def isVariableStatement (item : Item) : Bool := variableKinds.contains item.kind

/-! ## Names -/

/-- The name of a declaration. -/
def nameOf (tree : Tree) (item : Item) : Option String :=
  if item.kind == "string" then nonEmpty? (unquote (tree.textOf item.node))
  else if item.kind == "pair" then (item.child? "key").map fun key => unquote (tree.textOf key)
  else if item.kind == "variable_declarator" then
    -- A pattern that takes a value apart has no single name.
    match item.child? "name" with
    | some name => if name.kind == "identifier" then some (tree.textOf name) else none
    | none => none
  else
    match item.child? "name" with
    | some name => nonEmpty? (unquote (tree.textOf name))
    | none => none

/-! ## Options of components -/

/-- The object of options in a default export, bare or as the argument of a call. -/
def optionsObject? (c : Cursor) : Option Cursor :=
  if c.kind != "export_statement" then none
  else
    let value := match c.child? "value" with
      | some value =>
          if value.kind == "call_expression" then
            (value.child? "arguments").bind fun arguments => arguments.namedChildOfKind? "object"
          else some value
      | none => none
    value.filter (·.kind == "object")

/-- The properties of an object that may be options. -/
def optionProperties (object : Cursor) : List Item :=
  (object.namedChildren.filter (propertyKinds.contains ·.kind)).map (⟨·, none⟩)

/-- The name is that of an option. -/
def namesOption (tree : Tree) (item : Item) : Bool :=
  match nameOf tree item with
  | some name => optionNames.contains name
  | none => false

/-- The default export of an object with at least one option. -/
def isComponentOptions (tree : Tree) (item : Item) : Bool :=
  match optionsObject? item.node with
  | some object => (optionProperties object).any (namesOption tree)
  | none => false

/-- The statement that exports the object an option belongs to. -/
def optionHolder? (item : Item) : Option Cursor := do
  let parent ← item.node.parent?
  if parent.kind != "object" then none
  let holder ← parent.parent?
  if holder.kind == "arguments" then (← holder.parent?).parent? else some holder

/-- An option of the exported object. -/
def isComponentOption (tree : Tree) (item : Item) : Bool :=
  propertyKinds.contains item.kind &&
    (match optionHolder? item with
      | some holder => holder.kind == "export_statement"
      | none => false) &&
    namesOption tree item

/-- The properties of the exported object. -/
def componentOptions (item : Item) : List Item :=
  match optionsObject? item.node with
  | some object => optionProperties object
  | none => []

/-- The value of a property. -/
def propertyValue? (item : Item) : Option Item :=
  if item.kind == "pair" then (item.child? "value").map (⟨·, none⟩) else none

/-- The entries of an option: the properties of an object or the strings of an array. -/
def optionEntries (item : Item) : List Item :=
  match propertyValue? item with
  | some value =>
      if value.kind == "object" then optionProperties value.node
      else if value.kind == "array" then (value.node.namedChildrenOfKind "string").map (⟨·, none⟩)
      else []
  | none => []

/-! ## Exports -/

/-- The export statement that a declaration stands in. -/
def exportStatement? (item : Item) : Option Cursor :=
  let parent := item.node.parent?
  let parent := if item.kind == "variable_declarator" then parent.bind (·.parent?) else parent
  let parent := match parent with
    | some p => if p.kind == "ambient_declaration" then p.parent? else some p
    | none => none
  parent.filter (·.kind == "export_statement")

/-- Nothing but variable and export statements stands between here and the program. -/
def topLevelBelow : List Frame → Bool
  | [] => false
  | frame :: above =>
      if frame.parent.kind == "program" then true
      else if ["lexical_declaration", "variable_declaration", "export_statement"].contains
          frame.parent.kind then topLevelBelow above
      else false

/-- The declaration stands at the top level of the program. -/
def isTopLevel (item : Item) : Bool := topLevelBelow item.span.above

/-- The specifiers of a clause: local name and the name behind `as`. -/
def specifiers (tree : Tree) (clause : Cursor) : List (String × Option String) :=
  clause.namedChildren.filterMap fun specifier =>
    (specifier.child? "name").map fun name =>
      (tree.textOf name, (specifier.child? "alias").map tree.textOf)

/-- What an export statement says about names declared elsewhere in the file. -/
def statementExports (tree : Tree) (statement : Cursor) : List (String × String) :=
  if statement.kind != "export_statement" || (statement.child? "source").isSome then []
  else
    let clauses := (statement.namedChildrenOfKind "export_clause").flatMap fun clause =>
      (specifiers tree clause).map fun (name, given) => (name, given.getD name)
    match statement.child? "value" with
    | some value =>
        if value.kind == "identifier" then [(tree.textOf value, "default")] else clauses
    | none => clauses

/-- Names exported apart from their declarations, with the name for importers; of several entries
for a name the last one counts. -/
def localExports (tree : Tree) : List (String × String) :=
  match tree.rootCursor? with
  | some root => root.namedChildren.flatMap (statementExports tree)
  | none => []

/-- The table of those names that the tree has kept, or else what is read off it. -/
def exportTable (tree : Tree) : List (String × String) :=
  tree.exportTable?.getD (localExports tree)

/-- The tree with its table of names kept. -/
def keepTable (tree : Tree) : Tree := { tree with exportTable? := some (exportTable tree) }

/-- The name for importers of a name declared in the file. -/
def localExport? (tree : Tree) (name : String) : Option String :=
  (exportTable tree).reverse.lookup name

/-- The statement has the keyword for a default export. -/
def isDefaultStatement (statement : Cursor) : Bool := (statement.childOfKind? "default").isSome

/-- The declaration is exported. -/
def isExported (tree : Tree) (item : Item) : Bool :=
  (exportStatement? item).isSome ||
    match nameOf tree item with
    | some name => !name.isEmpty && (localExport? tree name).isSome && isTopLevel item
    | none => false

/-- The name under which the declaration is exported. -/
def exportName (tree : Tree) (item : Item) : Option String :=
  match exportStatement? item with
  | some statement => if isDefaultStatement statement then some "default" else nameOf tree item
  | none =>
      match nameOf tree item with
      | some name =>
          if !name.isEmpty && isTopLevel item then localExport? tree name else none
      | none => none

/-- The exports of a declaration in an export statement. -/
def declaredExports (tree : Tree) (isDefault : Bool) (declaration : Cursor) : List Export :=
  match unwrap declaration with
  | none => []
  | some inner =>
      if variableKinds.contains inner.kind then
        ((declarators inner).filterMap fun d => (nameOf tree d).bind nonEmpty?).map fun name =>
          ⟨name, some name, none, false⟩
      else
        match (nameOf tree inner).bind nonEmpty? with
        | some name => [⟨if isDefault then "default" else name, some name, none, isDefault⟩]
        | none => []

/-- The exports of an export statement; none if a statement that exports a module under a name has
no name. -/
def exportsOf? (tree : Tree) (statement : Cursor) : Option (List Export) :=
  let source := (statement.child? "source").map fun s => unquote (tree.textOf s)
  match statement.child? "declaration", statement.child? "value" with
  | some declaration, _ => some (declaredExports tree (isDefaultStatement statement) declaration)
  | none, some value =>
      let localName := if value.kind == "identifier" then some (tree.textOf value) else none
      some [⟨"default", localName, none, true⟩]
  | none, none =>
      match statement.namedChildOfKind? "export_clause" with
      | some clause =>
          some ((specifiers tree clause).map fun (name, given) =>
            let exported := given.getD name
            ⟨exported, some name, source, exported == "default"⟩)
      | none =>
          match statement.namedChildOfKind? "namespace_export" with
          | some exported =>
              exported.namedChildren.getLast?.map fun name =>
                [⟨tree.textOf name, none, source, false⟩]
          | none => some [⟨"*", none, source, false⟩]

/-- The exports of a file; none if one of its statements has no answer. -/
def exports? (tree : Tree) (root : Cursor) : Option (List Export) :=
  ((root.namedChildrenOfKind "export_statement").mapM (exportsOf? tree)).map List.flatten

/-! ## Imports and references -/

/-- What a part of an import clause imports. -/
def clauseImports (tree : Tree) (source : String) (part : Cursor) : List Dependency :=
  if part.kind == "identifier" then [{ name := tree.textOf part, source, isDefault := true }]
  else if part.kind == "namespace_import" then
    match part.namedChildOfKind? "identifier" with
    | some name => [{ name := tree.textOf name, source, isNamespace := true }]
    | none => []
  else if part.kind == "named_imports" then
    (part.namedChildrenOfKind "import_specifier").filterMap fun specifier =>
      (specifier.child? "name").map fun name => { name := unquote (tree.textOf name), source }
  else []

/-- What an import statement imports; a star if it only runs the module. -/
def statementImports (tree : Tree) (statement : Cursor) : List Dependency :=
  match statement.child? "source" with
  | none => []
  | some source =>
      let source := unquote (tree.textOf source)
      match statement.namedChildOfKind? "import_clause" with
      | none => [{ name := "*", source }]
      | some clause => clause.namedChildren.flatMap (clauseImports tree source)

/-- What an export statement imports to pass it on. -/
def passedOnImports (tree : Tree) (statement : Cursor) : List Dependency :=
  match statement.child? "source" with
  | none => []
  | some source =>
      let source := unquote (tree.textOf source)
      match statement.namedChildOfKind? "export_clause" with
      | none => [{ name := "*", source, isNamespace := true }]
      | some clause => (specifiers tree clause).map fun (name, _) => { name, source }

/-- The name bound to a call that loads a module, a star if there is none. -/
def requireBinding (tree : Tree) (call : Cursor) : String :=
  match call.parent? with
  | some parent =>
      if parent.kind == "variable_declarator" then
        match parent.child? "name" with
        | some name => if name.kind == "identifier" then tree.textOf name else "*"
        | none => "*"
      else "*"
  | none => "*"

/-- What a call loads, if it loads a module with a literal specifier. -/
def callImport? (tree : Tree) (call : Cursor) : Option Dependency :=
  if call.kind != "call_expression" then none
  else do
    let function ← call.child? "function"
    let arguments ← call.child? "arguments"
    let literal ← arguments.namedChildOfKind? "string"
    let source := unquote (tree.textOf literal)
    if function.kind == "import" then
      some { name := "*", source, kind := .dynamicImport, isNamespace := true }
    else if function.kind == "identifier" && tree.textOf function == "require" then
      some { name := requireBinding tree call, source, kind := .required }
    else none

/-- The modules loaded by calls below a node. -/
def callImports (tree : Tree) (c : Cursor) : List Dependency :=
  (walkAll c).filterMap (callImport? tree)

/-- The imports of a whole program, or the modules loaded by calls in a declaration. -/
def imports (tree : Tree) (item : Item) : List Dependency :=
  if item.kind == "program" then
    item.node.namedChildren.flatMap fun statement =>
      if statement.kind == "import_statement" then statementImports tree statement
      else if statement.kind == "export_statement" then passedOnImports tree statement
      else if variableKinds.contains statement.kind then callImports tree statement
      else []
  else callImports tree item.span

/-- The type variables declared below a node. -/
def typeVariables (tree : Tree) (c : Cursor) : List String :=
  (walkAll c).filterMap fun current =>
    if current.kind == "type_parameter" || current.kind == "mapped_type_clause" then
      (current.child? "name").map tree.textOf
    else none

/-- The identifier in a field. -/
def identifierIn? (c : Cursor) (field : String) : Option Cursor :=
  (c.child? field).filter (·.kind == "identifier")

/-- The name that a node refers to. -/
def target? (tree : Tree) (declared : List String) (c : Cursor) : Option Cursor :=
  if c.kind == "call_expression" then identifierIn? c "function"
  else if c.kind == "new_expression" then identifierIn? c "constructor"
  else if c.kind == "type_identifier" then
    if declared.contains (tree.textOf c) then none else some c
  else if c.kind == "extends_clause" || c.kind == "class_heritage" then
    c.namedChildOfKind? "identifier"
  else if c.kind == "jsx_opening_element" || c.kind == "jsx_self_closing_element" then
    identifierIn? c "name"
  else none

/-- The elements without later repetitions. -/
def distinct (names : List String) : List String :=
  names.foldl (fun kept name => if kept.contains name then kept else kept ++ [name]) []

/-- References to the given names. -/
def asReferences (names : List String) : List Dependency :=
  names.map fun name => { name, source := "", kind := .reference }

/-- The names a declaration relies on: what it calls, constructs, extends or names as a type. -/
def references (tree : Tree) (item : Item) : List Dependency :=
  let declared := typeVariables tree item.span
  let ownName := nameOf tree item
  let names := (walkAll item.span).filterMap fun c => (target? tree declared c).map tree.textOf
  asReferences (distinct (names.filter fun name =>
    !name.isEmpty && some name != ownName && !builtinCalls.contains name))

/-! ## Signatures -/

/-- The function behind a declaration. -/
def callable? (item : Item) : Option Cursor :=
  if item.kind == "variable_declarator" || item.kind == "pair" || fieldKinds.contains item.kind then
    (item.child? "value").filter (functionKinds.contains ·.kind)
  else some item.node

/-- A decorator without its sign. -/
def decoratorText (text : List Char) : String :=
  String.ofList (Text.trim (text.dropWhile (· == '@')))

/-- The decorators directly before a member of a class, from first to last. -/
def precedingDecorators (c : Cursor) : List Node :=
  match c.parent? with
  | some parent =>
      if parent.kind == "class_body" then
        (c.previousNamed.takeWhile (·.kind == "decorator")).reverse
      else []
  | none => []

/-- The decorators of a declaration. -/
def decorators (tree : Tree) (item : Item) : List String :=
  let within (c : Cursor) : List Node := c.node.children.filter (·.kind == "decorator")
  let outside := (item.outer.map within).getD []
  (precedingDecorators item.node ++ outside ++ within item.node).map fun node =>
    decoratorText (tree.textBetween node.start node.stop)

/-- The type parameters of a declaration. -/
def typeParameters (tree : Tree) (item : Item) : List String :=
  match ((callable? item).getD item.node).child? "type_parameters" with
  | some parameters => (parameters.namedChildrenOfKind "type_parameter").map tree.textOf
  | none => []

/-- The text behind the colon of a type annotation. -/
def stripAnnotation (text : List Char) : String :=
  String.ofList (Text.trim (Text.dropFront [':'] (Text.trimLeft text)))

/-- One parameter of a parameter list. -/
def parameter? (tree : Tree) (c : Cursor) : Option Parameter :=
  if c.kind == "required_parameter" || c.kind == "optional_parameter" then
    (c.child? "pattern").map fun pattern =>
      let value := c.child? "value"
      { name := tree.textOf pattern
        type := (c.child? "type").map fun t => stripAnnotation (tree.charsOf t)
        optional := c.kind == "optional_parameter" || value.isSome
        defaultValue := value.map tree.textOf }
  else if c.kind == "assignment_pattern" then
    some
      { name := tree.textOf ((c.child? "left").getD c)
        optional := true
        defaultValue := (c.child? "right").map tree.textOf }
  else if c.kind == "comment" then none
  else some { name := tree.textOf c }

/-- The parameters of the function behind a declaration. -/
def parameters (tree : Tree) (item : Item) : List Parameter :=
  match callable? item with
  | none => []
  | some target =>
      match target.child? "parameters" with
      | some list => list.namedChildren.filterMap (parameter? tree)
      | none =>
          -- An arrow function may have a single parameter without brackets.
          ((target.child? "parameter").map fun single => { name := tree.textOf single }).toList

/-- The return type of the function behind a declaration. -/
def returnType (tree : Tree) (item : Item) : Option String := do
  let target ← callable? item
  let annotation ← target.child? "return_type"
  return stripAnnotation (tree.charsOf annotation)

/-- The comment that documents a declaration. -/
def docComment (tree : Tree) (item : Item) : Option String :=
  DocComment.docComment tree tree.language item.span (nameOf tree item)

/-- Who may use a member of a class. -/
def visibility (tree : Tree) (item : Item) : String :=
  match item.node.childOfKind? "accessibility_modifier" with
  | some modifier => String.ofList (Text.trim (tree.charsOf modifier))
  | none =>
      match item.child? "name" with
      | some name => if name.kind == "private_property_identifier" then "private" else "public"
      | none => "public"

/-! ## Parsing -/

/-- The grammar of a path. -/
def grammarFor (suffix : String) : String := (grammars.lookup suffix).getD "typescript"

/-- A script parsed with a grammar. -/
def parse? (parser : Parser) (grammar code : String) (lineOffset : Nat) : Option Tree :=
  (parser grammar code).map fun root =>
    { language := if grammar == "javascript" then "javascript" else "typescript"
      source := Text.Utf8.encode code.toList
      root := some root
      lineOffset }

end ChunkGraph.Script
