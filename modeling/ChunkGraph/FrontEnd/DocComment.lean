import ChunkGraph.Syntax.Tree
import ChunkGraph.Text.Letter
import ChunkGraph.Text.Search

/-!
# Documentation comments

The comment that documents a declaration is found by the conventions of its
language. Block comments opened by `/**` belong to the declaration below them
when nothing but modifiers stands in between and no line is left blank. Go
takes the line comments directly above if they begin with the declared name, C
and C++ take line comments opened by `///` or `//!` or else a block directly
above, and Python takes the string that opens the body.

## Main definitions

* `blocks` — the block comments of a text, each with what follows it.
* `score` — how likely a comment documents the declaration below it.
* `blockComment`, `goComment`, `lineOrBlockComment`, `docstring` — the
  conventions.
* `docComment` — the convention of a language.
-/

namespace ChunkGraph.DocComment

open ChunkGraph.Syntax

/-! ## Block comments -/

/-- The text up to and with the first `*/`, last character first, and what follows it. -/
def untilClosed (done : List Char) : List Char → Option (List Char × List Char)
  | [] => none
  | '*' :: '/' :: rest => some ('/' :: '*' :: done, rest)
  | c :: rest => untilClosed (c :: done) rest

/-- The block comment a text begins with, and what follows it. -/
def blockAt? (text : List Char) : Option (List Char × List Char) :=
  match text with
  | '/' :: '*' :: '*' :: rest =>
      (untilClosed ['*', '*', '/'] rest).map fun (comment, behind) => (comment.reverse, behind)
  | _ => none

/-- The block comments of a text from left to right, each as short as it can be, with what follows
it. -/
def blocksWithin : Nat → List Char → List (List Char × List Char)
  | 0, _ => []
  | _, [] => []
  | fuel + 1, c :: rest =>
      match blockAt? (c :: rest) with
      | some (comment, behind) => (comment, behind) :: blocksWithin fuel behind
      | none => blocksWithin fuel rest

/-- The block comments of a text, each with what follows it. -/
def blocks (text : List Char) : List (List Char × List Char) := blocksWithin text.length text

/-! ## Likelihood -/

/-- Lines between a comment and what it documents, at most. -/
def maxDistance : Int := 2

/-- How likely a comment documents the declaration below it, in tenths. A comment that is too far
away, or separated by a blank line, does not. Closeness, the declared name and the sign of a
documentation comment count. -/
def score (comment : List Char) (distance : Int) (name : Option (List Char)) (blank : Bool) : Nat :=
  if distance < 0 || maxDistance < distance || blank then 0
  else
    let near := 7 - (distance - 1).toNat
    let named := match name with
      | some (c :: rest) =>
          if Text.hasPart (Text.lower (c :: rest)) (Text.lower comment) then 2 else 0
      | _ => 0
    let opening := Text.trimLeft comment
    let marked :=
      if Text.startsWith ['/', '*', '*'] opening || Text.startsWith ['/', '/', '/'] opening then 1
      else 0
    min (near + named + marked) 10

/-- The score from which on a comment is taken. -/
def threshold : Nat := 5

/-! ## Conventions -/

/-- The words that may stand between a block comment and the declaration. -/
def modifiers : List String :=
  ["export", "default", "async", "static", "public", "private", "protected", "abstract",
    "readonly", "override", "declare", "const", "let", "var", "function", "class", "interface",
    "type", "enum", "namespace"]

/-- A line is left blank. -/
def hasBlankLine (text : List Char) : Bool :=
  Text.hasPart ['\n', '\n'] text || Text.hasPart ['\n', '\r', '\n'] text

/-- The last block comment of the text before a declaration, if nothing but modifiers separates them
and it is near enough. The distance is from the row on which the comment ends to the row on which
the declaration starts; a comment on the declaration's own row is as near as one directly above. -/
def blockComment (tree : Tree) (c : Cursor) (name : Option (List Char)) : Option (List Char) :=
  let before := tree.textBefore c
  match (blocks before).getLast? with
  | none => none
  | some (comment, between) =>
      if !(Text.words between).all fun word => modifiers.contains (String.ofList word) then none
      else
        let endRow := Text.lineFeeds (before.take (before.length - between.length))
        let distance : Int := max (((tree.pointAt c.node.start).row : Int) - endRow) 1
        if score comment distance name (hasBlankLine between) < threshold then none
        else some comment

/-- The lines before the one that a declaration starts on, the last of them first. -/
def linesAbove (before : List Char) : List (List Char) :=
  (Text.splitOn '\n' before).reverse.drop 1

/-- The lines directly above that begin with one of the marks, trimmed, from top to bottom. -/
def commentLines (marks : List (List Char)) (before : List Char) : List (List Char) :=
  ((linesAbove before).map Text.trim).takeWhile (fun line => marks.any (Text.startsWith · line))
    |>.reverse

/-- The line comments directly above, if the first begins with the declared name. -/
def goComment (before : List Char) (name : Option (List Char)) : Option (List Char) :=
  match commentLines [['/', '/']] before with
  | [] => none
  | first :: rest =>
      let opening :=
        (Text.trim (first.dropWhile (· == '/'))).dropWhile fun c => c == '*' || c == '('
      let wanted := Text.lower (name.getD [])
      if Text.startsWith wanted (Text.lower opening) then some (Text.joinLines (first :: rest))
      else none

/-- Line comments with a documentation mark directly above, or else a block directly above. -/
def lineOrBlockComment (before : List Char) : Option (List Char) :=
  match commentLines [['/', '/', '/'], ['/', '/', '!']] before with
  | first :: rest => some (Text.joinLines (first :: rest))
  | [] =>
      match (blocks before).getLast? with
      | some (comment, between) => if Text.allBlank between then some comment else none
      | none => none

/-- The quotes of a string literal, longest first. -/
def stringQuotes : List (List Char) :=
  [['\"', '\"', '\"'], ['\x27', '\x27', '\x27'], ['\"'], ['\x27']]

/-- The text of a string literal without its quotes and the blanks inside them. -/
def stripQuotes (text : List Char) : List Char :=
  let fits (quote : List Char) : Bool :=
    Text.startsWith quote text && Text.endsWith quote text && 2 * quote.length ≤ text.length
  match stringQuotes.find? fits with
  | some quote =>
      Text.trim ((text.drop quote.length).take (text.length - 2 * quote.length))
  | none => text

/-- The string that opens the body of a definition. -/
def docstring (tree : Tree) (c : Cursor) : Option (List Char) := do
  let body ← c.child? "body"
  let first ← body.namedChildren.head?
  if first.kind != "expression_statement" then none
  let literal ← first.namedChildren.head?
  if literal.kind != "string" then none
  return stripQuotes (tree.charsOf literal)

/-- The documentation comment of a node by the convention of a language. -/
def docComment (tree : Tree) (language : String) (c : Cursor) (name : Option String) :
    Option String :=
  let name := name.map (·.toList)
  let found :=
    if ["typescript", "javascript", "vue", "java"].contains language then
      blockComment tree c name
    else if language == "go" then goComment (tree.textBefore c) name
    else if language == "c" || language == "cpp" then lineOrBlockComment (tree.textBefore c)
    else if language == "python" then docstring tree c
    else none
  found.map String.ofList

end ChunkGraph.DocComment
