import ChunkGraph.FrontEnd.Script
import ChunkGraph.Text.Word

/-!
# Vue components

A component is a file with blocks of markup, style and script. Its script
block is read as a script of its own: the first block with the word `setup`
among its attributes, or else the last block. Tags may be written in any case.

When the script exports an object of options, the options stand in for
declarations.

## Main definitions

* `Component.scriptBlocks` — the script blocks of a file.
* `Component.scriptBlock?` — the block that counts, with its line offset and
  its grammar.
* `Component.parse?` — the tree of a component.
* `Component.declarations` — its declarations.
-/

namespace ChunkGraph.Component

open ChunkGraph.Syntax

/-! ## Tags -/

/-- The characters that count as a letter of a tag, whatever their case. -/
def sameLetter (letter c : Char) : Bool :=
  c.toNat < 128 && Text.lowerChar c == letter ||
    (letter == 's' && c.toNat == 0x17F) ||
    (letter == 'i' && (c.toNat == 0x130 || c.toNat == 0x131))

/-- What follows the word, in any case, that a text begins with. -/
def dropWord? : List Char → List Char → Option (List Char)
  | [], text => some text
  | _ :: _, [] => none
  | letter :: word, c :: text => if sameLetter letter c then dropWord? word text else none

/-- The opening of a script tag. -/
def opening : List Char := "<script".toList

/-- The closing tag. -/
def closing : List Char := "</script>".toList

/-- A script block: its attributes and text, and what follows it. -/
structure Block where
  /-- What stands in the opening tag behind the word. -/
  attributes : List Char
  /-- The text between the tags. -/
  text : List Char
  /-- Characters of the file before the text. -/
  offset : Nat
  deriving DecidableEq, Repr

/-- The text up to the first closing tag, and what follows the tag. -/
def untilClosing (done : List Char) : List Char → Option (List Char × List Char)
  | [] => none
  | c :: rest =>
      match dropWord? closing (c :: rest) with
      | some behind => some (done.reverse, behind)
      | none => untilClosing (c :: done) rest

/-- The script block that a text begins with: attributes, text, and what follows. -/
def blockAt? (text : List Char) : Option (List Char × List Char × List Char) := do
  let rest ← dropWord? opening text
  if (rest.head?.map Text.isWordChar).getD false then none
  let (attributes, behind) ← Text.cutAtFirst '>' rest
  let (body, behind) ← untilClosing [] behind
  return (attributes, body, behind)

/-- The script blocks of the text from an offset on. -/
def blocksWithin : Nat → Nat → List Char → List Block
  | 0, _, _ => []
  | _, _, [] => []
  | fuel + 1, offset, c :: rest =>
      match blockAt? (c :: rest) with
      | some (attributes, text, behind) =>
          let start := offset + opening.length + attributes.length + 1
          ⟨attributes, text, start⟩ ::
            blocksWithin fuel (start + text.length + closing.length) behind
      | none => blocksWithin fuel (offset + 1) rest

/-- The script blocks of a file. -/
def scriptBlocks (code : List Char) : List Block := blocksWithin code.length 0 code

/-! ## Attributes -/

/-- The character is a quote of an attribute. -/
def isAttributeQuote (c : Char) : Bool := c == '\"' || c == '\x27'

/-- The character is a letter of a language's name, in any case. -/
def isNameLetter (c : Char) : Bool :=
  Text.isAsciiLetter c || [0x130, 0x131, 0x17F, 0x212A].contains c.toNat

/-- The language named by an attribute that the text begins with. -/
def languageAt? (text : List Char) : Option (List Char) := do
  let rest ← dropWord? "lang".toList text
  let rest ← Text.dropFront? ['='] (Text.trimLeft rest)
  match Text.trimLeft rest with
  | quote :: rest =>
      let name := rest.takeWhile isNameLetter
      if isAttributeQuote quote && !name.isEmpty &&
          ((rest.drop name.length).head?.map isAttributeQuote).getD false then some name
      else none
  | [] => none

/-- The language named among the attributes; `before` stands in front. -/
def languageFrom? (before : Option Char) : List Char → Option (List Char)
  | [] => none
  | c :: rest =>
      match languageAt? (c :: rest) with
      | some name =>
          if (before.map Text.isWordChar).getD false then languageFrom? (some c) rest else some name
      | none => languageFrom? (some c) rest

/-- The grammar of a block. -/
def grammarOf (attributes : List Char) : String :=
  match languageFrom? none attributes with
  | some name =>
      if ["tsx", "jsx"].contains (String.ofList (Text.lower name)) then "tsx" else "typescript"
  | none => "typescript"

/-! ## The block that counts -/

/-- The text of the script, the number of lines before it, and its grammar. -/
def scriptBlock? (code : String) : Option (String × Nat × String) :=
  let found := scriptBlocks code.toList
  let setup := found.find? fun block => Text.hasWord "setup".toList block.attributes
  (setup.or found.getLast?).map fun block =>
    (String.ofList block.text, Text.lineFeeds (code.toList.take block.offset),
      grammarOf block.attributes)

/-- The tree of a component; one without a root if there is no script. -/
def parse? (parser : Parser) (code : String) : Option Tree :=
  match scriptBlock? code with
  | none => some { language := "vue", source := [] }
  | some (script, lineOffset, grammar) =>
      if Text.allBlank script.toList then some { language := "vue", source := [] }
      else
        (Script.parse? parser grammar script lineOffset).map fun tree =>
          let tree := { tree with language := "vue" }
          let statements := (tree.rootCursor?.map (·.namedChildren)).getD []
          { tree with
            optionsApi := statements.any fun c => Script.isComponentOptions tree ⟨c, none⟩ }

/-- The declarations of a component; its options if it exports an object of them. -/
def declarations (tree : Tree) (root : Cursor) : List Item :=
  let found := Script.declarationsIn root
  if !tree.optionsApi then found
  else
    found.flatMap fun item =>
      if Script.isComponentOptions tree item then Script.componentOptions item else [item]

end ChunkGraph.Component
