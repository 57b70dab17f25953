import ChunkGraph.Data.Value
import ChunkGraph.Number.Decimal
import ChunkGraph.Number.Literal
import ChunkGraph.Text.Utf8
import ChunkGraph.Text.Search

/-!
# Reading request bodies

The fields of a body are read one by one, and every field that is missing or
cannot be read is reported by the way that leads to it. Some values stand for
others: the words for yes and no, zero and one stand for truth values, and texts
and numbers without a fraction stand for integers.

## Main definitions

* `Checked` — a value, or the places at which the body is at fault.
* `Checked.both` — two parts read side by side, the faults of both kept.
* `readText`, `readTruth`, `readInteger`, `readList`, `required`, `optional` —
  the readers.
-/

namespace ChunkGraph.Web

open Data

/-- A value, or the places of the faults. -/
abbrev Checked (α : Type) := Except (List String) α

/-- Reads a value at a place. -/
abbrev BodyReader (α : Type) := String → Value → Checked α

namespace Checked

/-- Two parts read side by side. -/
def both {α β : Type} (first : Checked α) (second : Checked β) : Checked (α × β) :=
  match first, second with
  | .ok a, .ok b => .ok (a, b)
  | .error faults, .ok _ => .error faults
  | .ok _, .error faults => .error faults
  | .error faults, .error more => .error (faults ++ more)

/-- Values read one after the other. -/
def each {α : Type} (read : Nat → Value → Checked α) : Nat → List Value → Checked (List α)
  | _, [] => .ok []
  | i, value :: rest => (both (read i value) (each read (i + 1) rest)).map fun (a, as) => a :: as

end Checked

/-- A place below another one. -/
def placeBelow (place name : String) : String := place ++ "." ++ name

/-- A text. -/
def readText : BodyReader String
  | _, .text s => .ok s
  | place, _ => .error [place]

/-- The words for yes. -/
def yesWords : List String := ["1", "on", "t", "true", "y", "yes"]

/-- The words for no. -/
def noWords : List String := ["0", "off", "f", "false", "n", "no"]

/-- A truth value, or something that stands for one. -/
def readTruth : BodyReader Bool
  | _, .bool b => .ok b
  | place, .int n => if n == 0 then .ok false else if n == 1 then .ok true else .error [place]
  | place, .float x =>
      if x.equalsInt 0 then .ok false else if x.equalsInt 1 then .ok true else .error [place]
  | place, .text s =>
      let word := s.toLower
      if yesWords.contains word then .ok true
      else if noWords.contains word then .ok false
      else .error [place]
  | place, _ => .error [place]

/-- The text without zeros in front, among which underscores may stand; of nothing but those the
last character is left. -/
def withoutLeading (text : List Char) : List Char :=
  match text with
  | '0' :: rest =>
      match rest.dropWhile fun c => c == '0' || c == '_' with
      | [] => [(text.getLast?).getD '0']
      | '.' :: _ => text.drop ((text.takeWhile (· != '.')).length - 1)
      | left => left
  | _ => text

/-- The text without a point and the zeros behind it, of which there is at least one. -/
def withoutZeros (text : List Char) : List Char :=
  match Text.cutAtFirst '.' text with
  | some (whole, '0' :: zeros) => if zeros.all (· == '0') then whole else text
  | _ => text

/-- The text without underscores, if each stands alone and inside of it. -/
def withoutBars (text : List Char) : List Char :=
  if text.head? == some '_' || text.getLast? == some '_' || Text.hasPart ['_', '_'] text then text
  else text.filter (· != '_')

/-- The text without a plus sign in front. -/
def withoutPlus : List Char → List Char
  | '+' :: rest => rest
  | text => text

/-- The integer that a text stands for. Behind a plus sign or none, it has to begin with a digit. -/
def integerOfText? (text : String) : Option Int :=
  let body := Number.withoutMargins text.toList
  if Number.maxDigits < (Text.Utf8.encode text.toList).length then none
  else
    match body with
    | '-' :: _ =>
        match withoutBars (withoutZeros body) with
        | '-' :: digits => (Text.inBase? 10 digits).map fun n => -(n : Int)
        | _ => none
    | body =>
        let digits := withoutBars (withoutZeros (withoutLeading (withoutPlus body)))
        (Text.inBase? 10 digits).map Int.ofNat

/-- Numbers with a fraction stand for integers only between these bounds, which do not count. -/
def integerBound : Int := 9223372036854775808

/-- An integer, or something that stands for one. -/
def readInteger : BodyReader Int
  | _, .int n => .ok n
  | _, .bool b => .ok (if b then 1 else 0)
  | place, .float x =>
      match x.floor? with
      | some n =>
          if x.equalsInt n && -integerBound < n && n < integerBound then .ok n else .error [place]
      | none => .error [place]
  | place, .text s =>
      match integerOfText? s with
      | some n => .ok n
      | none => .error [place]
  | place, _ => .error [place]

/-- A list with at least `least` items. -/
def readList {α : Type} (least : Nat) (read : BodyReader α) : BodyReader (List α)
  | place, .list items =>
      match Checked.each (fun i => read (placeBelow place (Number.integerText i))) 0 items with
      | .ok found => if items.length < least then .error [place] else .ok found
      | .error faults => .error faults
  | place, _ => .error [place]

/-- A field that has to be there. -/
def required {α : Type} (read : BodyReader α) (place key : String) (body : Value) : Checked α :=
  match body.get? key with
  | some value => read (placeBelow place key) value
  | none => .error [placeBelow place key]

/-- A field that may be missing or null. -/
def optional {α : Type} (read : BodyReader α) (place key : String) (body : Value) :
    Checked (Option α) :=
  match body.get? key with
  | some .null => .ok none
  | some value => (read (placeBelow place key) value).map some
  | none => .ok none

/-- A table, read by its fields. -/
def readTable {α : Type} (fields : String → Value → Checked α) : BodyReader α
  | place, .table entries => fields place (.table entries)
  | place, _ => .error [place]

end ChunkGraph.Web
