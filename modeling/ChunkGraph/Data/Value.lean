import ChunkGraph.Number.Digits

/-!
# Structured data

The data of settings files, requests and reports: scalars, lists, and tables
whose entries keep the order in which they were written. Keys of a table are
scalars; the documents this library writes have texts as keys, but a settings
file may have others.

## Main definitions

* `Scalar`, `Value` — the data.
* `Value.record` — a table with texts as keys.
* `Value.get?` — the value under a text key.
* `Table.insert` — a repeated key keeps its first place and takes the last
  value.
* `Value.same` — equality of values, where numbers of different formats agree
  if they have the same value.
* `Value.isFalsy` — null, false, zero and everything empty.
-/

namespace ChunkGraph.Data

open ChunkGraph.Number

/-- A single datum. -/
inductive Scalar where
  /-- Nothing. -/
  | null
  /-- A truth value. -/
  | bool (b : Bool)
  /-- An integer of any size. -/
  | int (n : Int)
  /-- A number with a fraction. -/
  | float (x : Binary64)
  /-- A text. -/
  | text (s : String)
  deriving DecidableEq, Repr, Inhabited

/-- Equality of scalars, where truth values count as zero and one and numbers are compared by
value. -/
def Scalar.same : Scalar → Scalar → Bool
  | .bool a, .int n => n == (if a then 1 else 0)
  | .int n, .bool a => n == (if a then 1 else 0)
  | .int n, .float x => x.equalsInt n
  | .float x, .int n => x.equalsInt n
  | .bool a, .float x => x.equalsInt (if a then 1 else 0)
  | .float x, .bool a => x.equalsInt (if a then 1 else 0)
  | .float x, .float y => x.sameValue y
  | s, t => s == t

/-- Structured data. -/
inductive Value where
  /-- A single datum. -/
  | scalar (s : Scalar)
  /-- Values in order. -/
  | list (items : List Value)
  /-- Values under keys, in order. -/
  | table (entries : List (Scalar × Value))
  deriving Repr, Inhabited

/-- Entries in order. -/
abbrev Table := List (Scalar × Value)

namespace Value

/-- Nothing. -/
@[match_pattern] def null : Value := .scalar .null

/-- A truth value. -/
@[match_pattern] def bool (b : Bool) : Value := .scalar (.bool b)

/-- An integer. -/
@[match_pattern] def int (n : Int) : Value := .scalar (.int n)

/-- A number with a fraction. -/
@[match_pattern] def float (x : Binary64) : Value := .scalar (.float x)

/-- A text. -/
@[match_pattern] def text (s : String) : Value := .scalar (.text s)

/-- A natural number. -/
def nat (n : Nat) : Value := .int n

/-- A list of texts. -/
def texts (items : List String) : Value := .list (items.map .text)

/-- A text, or nothing. -/
def optText (s : Option String) : Value := s.elim .null .text

/-- An integer, or nothing. -/
def optInt (n : Option Int) : Value := n.elim .null .int

/-- A table with texts as keys. -/
def record (entries : List (String × Value)) : Value :=
  .table (entries.map fun (key, value) => (.text key, value))

end Value

namespace Table

/-- The value under a key. -/
def lookup? (key : Scalar) : Table → Option Value
  | [] => none
  | (name, value) :: rest => if name == key then some value else lookup? key rest

/-- The value put under a key: in place if the key, or a number equal to it, is there, at the end
otherwise. -/
def insert (key : Scalar) (value : Value) (table : Table) : Table :=
  match table with
  | [] => [(key, value)]
  | (name, old) :: rest =>
      if name.same key then (name, value) :: rest else (name, old) :: insert key value rest

/-- The table of the entries in order; of a repeated key the last value counts. -/
def ofEntries (entries : List (Scalar × Value)) : Table :=
  entries.foldl (fun table (key, value) => table.insert key value) []

end Table

namespace Value

/-- The value under a text key of a table. -/
def get? (value : Value) (key : String) : Option Value :=
  match value with
  | .table entries => Table.lookup? (.text key) entries
  | _ => none

/-- The items of a list; anything else has none. -/
def items : Value → List Value
  | .list items => items
  | _ => []

/-- The texts that a list consists of; those of a text are its characters. -/
def parts : Value → List String
  | .list items => items.filterMap fun
      | .text s => some s
      | _ => none
  | .text s => s.toList.map String.singleton
  | _ => []

/-- The entries of a table that have texts as keys. -/
def fields : Value → List (String × Value)
  | .table entries =>
      entries.filterMap fun
        | (.text key, value) => some (key, value)
        | _ => none
  | _ => []

/-- The text, if it is one. -/
def asText? : Value → Option String
  | .text s => some s
  | _ => none

/-- The integer, if it is one. -/
def asInt? : Value → Option Int
  | .int n => some n
  | _ => none

/-- The truth value, if it is one. -/
def asBool? : Value → Option Bool
  | .bool b => some b
  | _ => none

/-- Null, false, zero, or empty. -/
def isFalsy : Value → Bool
  | .null => true
  | .bool b => !b
  | .int n => n == 0
  | .float x => x.isZero
  | .text s => s.isEmpty
  | .list items => items.isEmpty
  | .table entries => entries.isEmpty

end Value

mutual

/-- Equality of values; the order of a table's entries does not matter. -/
def Value.same : Value → Value → Bool
  | .scalar s, .scalar t => s.same t
  | .list xs, .list ys => sameItems xs ys
  | .table xs, .table ys => xs.length == ys.length && sameEntries xs ys
  | _, _ => false

/-- Equality of lists, item by item. -/
def sameItems : List Value → List Value → Bool
  | [], [] => true
  | x :: xs, y :: ys => x.same y && sameItems xs ys
  | _, _ => false

/-- Every entry is found in the table. -/
def sameEntries : List (Scalar × Value) → List (Scalar × Value) → Bool
  | [], _ => true
  | (key, x) :: xs, ys =>
      (match ys.find? (fun entry => entry.1.same key) with
        | some (_, y) => x.same y
        | none => false) && sameEntries xs ys

end

end ChunkGraph.Data
