import ChunkGraph.Data.Value
import ChunkGraph.Text.Quoted

/-!
# Values in running text

Messages and names cite values on one line. A text by itself stands as it is,
and inside a list or a table it stands between quotes.

## Main definitions

* `Value.inline` — a value in running text.
* `Value.typeWord` — the word for its type.
-/

namespace ChunkGraph.Data

/-- The words for numbers without digits in running text. -/
def inlineNames : Number.SpecialNames := ⟨"inf", "nan"⟩

/-- A scalar in running text. -/
def Scalar.inline : Scalar → String
  | .null => "None"
  | .bool b => if b then "True" else "False"
  | .int n => Number.integerText n
  | .float x => x.shortest inlineNames
  | .text s => s

/-- A scalar inside a list or a table. -/
def Scalar.cited : Scalar → String
  | .text s => Text.quote s
  | s => s.inline

namespace Value

mutual

/-- A value inside a list or a table. -/
def cited : Value → String
  | .scalar s => s.cited
  | .list items => "[" ++ String.intercalate ", " (citedItems items) ++ "]"
  | .table entries => "\x7b" ++ String.intercalate ", " (citedEntries entries) ++ "\x7d"

/-- The items of a list. -/
def citedItems : List Value → List String
  | [] => []
  | item :: items => item.cited :: citedItems items

/-- The entries of a table. -/
def citedEntries : List (Scalar × Value) → List String
  | [] => []
  | (key, value) :: entries => (key.cited ++ ": " ++ value.cited) :: citedEntries entries

end

/-- A value in running text. -/
def inline : Value → String
  | .scalar s => s.inline
  | value => value.cited

/-- The word for the type of a value. -/
def typeWord : Value → String
  | .null => "NoneType"
  | .bool _ => "bool"
  | .int _ => "int"
  | .float _ => "float"
  | .text _ => "str"
  | .list _ => "list"
  | .table _ => "dict"

end Value

end ChunkGraph.Data
