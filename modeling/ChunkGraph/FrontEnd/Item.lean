import ChunkGraph.Chunk.Basic
import ChunkGraph.Syntax.Tree
import ChunkGraph.Text.Search

/-!
# Declarations as found in a tree

An `Item` is a declaration node handed to the rules that cut chunks. A
declaration may be wrapped in a statement, such as an export statement or a
decorated definition; then the chunk covers the wrapping statement, and the
questions about the declaration still go to the node inside.

## Main definitions

* `Item`, `Item.span` — a declaration and what its chunk covers.
* `Item.range`, `Item.text` — where and what that is.
* `unquote` — a string literal without its quotes.
-/

namespace ChunkGraph

open Syntax

/-- A declaration in a tree. -/
structure Item where
  /-- The declaration. -/
  node : Cursor
  /-- The statement that wraps it. -/
  outer : Option Cursor := none
  deriving Repr, Inhabited

namespace Item

/-- The declaration's kind. -/
def kind (item : Item) : String := item.node.kind

/-- What the chunk covers. -/
def span (item : Item) : Cursor := item.outer.getD item.node

/-- The first child of the declaration that fills a field. -/
def child? (item : Item) (field : String) : Option Cursor := item.node.child? field

/-- The text that the chunk covers. -/
def text (tree : Tree) (item : Item) : String := tree.textOf item.span

/-- The part of the file that the chunk covers. -/
def range (tree : Tree) (item : Item) : Range :=
  let start := tree.pointAt item.span.node.start
  let stop := tree.pointAt item.span.node.stop
  ⟨⟨start.row + 1 + tree.lineOffset, start.column⟩, ⟨stop.row + 1 + tree.lineOffset, stop.column⟩⟩

end Item

/-- The character is a quote of a string literal. -/
def isQuote (c : Char) : Bool := c == '\x27' || c == '\"' || c == '\x60'

/-- A text without the quotes at its ends, if both are the same. -/
def unquoteChars (text : List Char) : List Char :=
  match text with
  | first :: rest =>
      if isQuote first && !rest.isEmpty && rest.getLast? == some first then rest.dropLast else text
  | [] => []

/-- A string literal without its quotes. -/
def unquote (text : String) : String := String.ofList (unquoteChars text.toList)

/-- The text unless it is empty. -/
def nonEmpty? (text : String) : Option String := if text.isEmpty then none else some text

end ChunkGraph
