import ChunkGraph.Data.Json.Reader
import ChunkGraph.Data.Json.Writer
import ChunkGraph.Data.Yaml.Writer

/-!
# Formats of documents

Structured data are read and written as JSON or as YAML. What reads YAML is given:
any function from texts to data.

## Main definitions

* `Format` — the formats.
* `YamlReader` — what reads YAML.
* `Format.write`, `Format.read` — writing and reading.
* `Format.writeFault?` — why data cannot be written, if they cannot.
-/

namespace ChunkGraph.Data

/-- A format of documents. -/
inductive Format where
  | yaml
  | json
  deriving DecidableEq, Repr

/-- Reads a YAML document: its data, or what is wrong with it. -/
abbrev YamlReader := String → Except Failure Value

/-- A document with the given data; `unicode` keeps letters beyond ASCII in YAML as they are. -/
def Format.write (format : Format) (unicode : Bool) (value : Value) : String :=
  match format with
  | .yaml => Yaml.document unicode value
  | .json => Json.indented value

/-- The data of a document, or what is wrong with it. -/
def Format.read (yaml : YamlReader) (format : Format) (text : String) : Except Failure Value :=
  match format with
  | .yaml => yaml text
  | .json => Json.read text.toList

/-! ## What can be written -/

/-- The scalar has too many digits to be written. -/
def Scalar.isTooLarge : Scalar → Bool
  | .int n => Number.tenTo Number.maxDigits ≤ n.natAbs
  | _ => false

mutual

/-- Something in the value has too many digits to be written. -/
def Value.isTooLarge : Value → Bool
  | .scalar s => s.isTooLarge
  | .list items => anyTooLarge items
  | .table entries => anyEntryTooLarge entries

/-- Something in the values has too many digits to be written. -/
def anyTooLarge : List Value → Bool
  | [] => false
  | item :: items => item.isTooLarge || anyTooLarge items

/-- Something in the entries has too many digits to be written. -/
def anyEntryTooLarge : List (Scalar × Value) → Bool
  | [] => false
  | (key, value) :: entries => key.isTooLarge || value.isTooLarge || anyEntryTooLarge entries

end

mutual

/-- The most lists and tables of a value that stand around each other. -/
def Value.depth : Value → Nat
  | .scalar _ => 0
  | .list items => itemsDepth items + 1
  | .table entries => entriesDepth entries + 1

/-- The depth of the deepest of some values. -/
def itemsDepth : List Value → Nat
  | [] => 0
  | item :: items => max item.depth (itemsDepth items)

/-- The depth of the deepest value of some entries. -/
def entriesDepth : List (Scalar × Value) → Nat
  | [] => 0
  | (_, value) :: entries => max value.depth (entriesDepth entries)

end

/-- The greatest depth of data that a format writes. -/
def Format.maxDepth : Format → Nat
  | .yaml => 327
  | .json => 980

/-- Why data cannot be written, if they cannot: they are too deep, or an integer has too many
digits. -/
def Format.writeFault? (format : Format) (value : Value) : Option Failure :=
  if format.maxDepth < value.depth then some .nestedTooDeep
  else if value.isTooLarge then some .integerTooLarge
  else none

end ChunkGraph.Data
