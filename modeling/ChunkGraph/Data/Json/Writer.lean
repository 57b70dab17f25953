import ChunkGraph.Data.Value
import ChunkGraph.Text.Quoted

/-!
# Writing JSON

Documents are written in ASCII: every other character is an escape, those
above `U+FFFF` a pair of them. The indented form puts every item and entry on
a line of its own, two blanks further in than what holds it.

## Main definitions

* `Json.indented` — the form for readers.
* `Json.compact` — everything on one line.
-/

namespace ChunkGraph.Data.Json

open ChunkGraph.Number

/-- The words for numbers without digits. -/
def specialNames : SpecialNames := ⟨"Infinity", "NaN"⟩

/-- The escape of a UTF-16 code unit. -/
def unitEscape (n : Nat) : List Char := '\\' :: 'u' :: Text.hexDigits 4 n

/-- A character inside quotes. -/
def charText (c : Char) : List Char :=
  match c with
  | '\"' => ['\\', '\"']
  | '\\' => ['\\', '\\']
  | '\n' => ['\\', 'n']
  | '\r' => ['\\', 'r']
  | '\t' => ['\\', 't']
  | '\x08' => ['\\', 'b']
  | '\x0c' => ['\\', 'f']
  | c =>
      let n := c.toNat
      if 32 ≤ n && n < 127 then [c]
      else if n < 0x10000 then unitEscape n
      else
        unitEscape (0xD800 + (n - 0x10000) / 0x400) ++
          unitEscape (0xDC00 + (n - 0x10000) % 0x400)

/-- A text between quotes. -/
def quoted (s : String) : String :=
  String.ofList ('\"' :: s.toList.flatMap charText ++ ['\"'])

/-- A scalar. -/
def scalarText : Scalar → String
  | .null => "null"
  | .bool b => if b then "true" else "false"
  | .int n => integerText n
  | .float x => x.shortest specialNames
  | .text s => quoted s

/-- A key: always a text. -/
def keyText : Scalar → String
  | .text s => quoted s
  | s => "\"" ++ scalarText s ++ "\""

/-- A new line indented by `depth` levels. -/
def newLine (depth : Nat) : String := "\n" ++ "".pushn ' ' (2 * depth)

/-- Parts between brackets, each on a line of its own. -/
def bracketed (opening closing : String) (depth : Nat) (parts : List String) : String :=
  if parts.isEmpty then opening ++ closing
  else
    opening ++ newLine (depth + 1) ++ String.intercalate ("," ++ newLine (depth + 1)) parts ++
      newLine depth ++ closing

mutual

/-- The indented form at a depth. -/
def indentedAt (depth : Nat) : Value → String
  | .scalar s => scalarText s
  | .list items => bracketed "[" "]" depth (indentedItems (depth + 1) items)
  | .table entries => bracketed "\x7b" "\x7d" depth (indentedEntries (depth + 1) entries)

/-- The items of a list. -/
def indentedItems (depth : Nat) : List Value → List String
  | [] => []
  | item :: items => indentedAt depth item :: indentedItems depth items

/-- The entries of a table. -/
def indentedEntries (depth : Nat) : List (Scalar × Value) → List String
  | [] => []
  | (key, value) :: entries =>
      (keyText key ++ ": " ++ indentedAt depth value) :: indentedEntries depth entries

end

/-- The form for readers. -/
def indented (value : Value) : String := indentedAt 0 value

mutual

/-- Everything on one line. -/
def compact : Value → String
  | .scalar s => scalarText s
  | .list items => "[" ++ String.intercalate "," (compactItems items) ++ "]"
  | .table entries => "\x7b" ++ String.intercalate "," (compactEntries entries) ++ "\x7d"

/-- The items of a list. -/
def compactItems : List Value → List String
  | [] => []
  | item :: items => compact item :: compactItems items

/-- The entries of a table. -/
def compactEntries : List (Scalar × Value) → List String
  | [] => []
  | (key, value) :: entries => (keyText key ++ ":" ++ compact value) :: compactEntries entries

end

end ChunkGraph.Data.Json
