import ChunkGraph.Data.Inline
import ChunkGraph.Failure

/-!
# What data consist of

Where a list is wanted, other data may have been given: a text stands for its
characters and a table for its keys. Data that consist of nothing are a misuse,
and so are data other than tables where a part with a name is wanted.

## Main definitions

* `Value.members` — the data of which a value consists.
* `Value.part?` — the part of a table under a name.
-/

namespace ChunkGraph.Data.Value

/-- The data of which a value consists: items, the characters of a text, or keys. -/
def members : Value → Except Failure (List Value)
  | .list items => .ok items
  | .text s => .ok (s.toList.map fun c => .text (String.singleton c))
  | .table entries => .ok (entries.map fun (key, _) => .scalar key)
  | value => .error (.misuse (.noItems value.typeWord))

/-- The part of a value under a name, if there is one. -/
def part? (value : Value) (name : String) : Except Failure (Option Value) :=
  match value with
  | .table entries => .ok (Table.lookup? (.text name) entries)
  | value => .error (.misuse (.noPart value.typeWord "get"))

/-- A value that is as good as nothing stands for an empty table. -/
def orEmpty (value : Value) : Value := if value.isFalsy then .table [] else value

end ChunkGraph.Data.Value
