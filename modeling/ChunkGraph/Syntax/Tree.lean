import ChunkGraph.Syntax.Walk
import ChunkGraph.Text.Utf8

/-!
# Parsed sources

A `Tree` is a source text in bytes with the syntax tree of those bytes. For a
language without a grammar there is no root. When the source is a block inside
a larger file, `lineOffset` is the number of lines of the file before it. A tree
can keep a table that has been read off it, so that it is read off once.

Parsing itself is not part of this library: a `Parser` is any function from a
grammar and a text to a root. A text that is handed over for parsing may hold
halves of surrogate pairs; it has no bytes, and nothing can be done with it.

## Main definitions

* `SourceText` — a text as it is handed over.
* `Tree`, `Tree.textOf` — a parsed source and the text of a node.
* `Point`, `Tree.pointAt` — row and column of a byte.
* `Parser` — what turns texts into trees.
-/

namespace ChunkGraph.Syntax

/-- A text as it is handed over. -/
inductive SourceText where
  /-- A text of characters. -/
  | chars (text : String)
  /-- A text with halves of surrogate pairs in it, which no bytes stand for. -/
  | illFormed
  deriving DecidableEq, Repr, Inhabited

instance : Coe String SourceText := ⟨.chars⟩

/-- The characters of a text; of one that has no bytes there are none. -/
def SourceText.text : SourceText → String
  | .chars text => text
  | .illFormed => ""

/-- A parsed source. -/
structure Tree where
  /-- The language the source was read as. -/
  language : String
  /-- The bytes that were parsed. -/
  source : List UInt8
  /-- The root, if the language has a grammar. -/
  root : Option Node := none
  /-- Lines of the file before the source. -/
  lineOffset : Nat := 0
  /-- The source is a component written as an object of options. -/
  optionsApi : Bool := false
  /-- The names exported apart from their declarations, with their names for importers, if they have
  been read off the tree and kept. -/
  exportTable? : Option (List (String × String)) := none
  deriving Repr, Inhabited

/-- A row and a column, both counted from zero, the column in bytes. -/
structure Point where
  /-- Line feeds before. -/
  row : Nat
  /-- Bytes since the last line feed. -/
  column : Nat
  deriving DecidableEq, Repr

/-- Turns a text into the root of its tree under a grammar; none if that fails. -/
abbrev Parser := String → String → Option Node

/-- The bytes from `start` up to `stop`. -/
def bytesBetween (source : List UInt8) (start stop : Nat) : List UInt8 :=
  (source.drop start).take (stop - start)

/-- Row and column of a byte of a source. -/
def pointIn (source : List UInt8) (offset : Nat) : Point :=
  let before := source.take offset
  ⟨before.count 10, (before.reverse.takeWhile (· != 10)).length⟩

namespace Tree

/-- The text of the bytes from `start` up to `stop`. -/
def textBetween (tree : Tree) (start stop : Nat) : List Char :=
  Text.Utf8.decode (bytesBetween tree.source start stop)

/-- The text of a node. -/
def charsOf (tree : Tree) (c : Cursor) : List Char := tree.textBetween c.node.start c.node.stop

/-- The text of a node, as a `String`. -/
def textOf (tree : Tree) (c : Cursor) : String := String.ofList (tree.charsOf c)

/-- The text before a node. -/
def textBefore (tree : Tree) (c : Cursor) : List Char := tree.textBetween 0 c.node.start

/-- Row and column of a byte. -/
def pointAt (tree : Tree) (offset : Nat) : Point := pointIn tree.source offset

/-- The place of the root. -/
def rootCursor? (tree : Tree) : Option Cursor := tree.root.map .ofRoot

end Tree

end ChunkGraph.Syntax
