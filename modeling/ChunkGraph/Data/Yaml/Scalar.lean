import ChunkGraph.Data.Value
import ChunkGraph.Data.Yaml.Time
import ChunkGraph.Data.Yaml.Written

/-!
# Scalars of YAML

A scalar without quotes stands for null, a truth value, an integer or a number
with a fraction if it has the form of one, and for a text otherwise. Integers
may be binary, octal, hexadecimal or sexagesimal, and underscores may stand
among the digits. Three further forms have a meaning of their own: points in
time, and the signs `<<` and `=`, of which the first merges tables and the
second stands for no datum.

What a scalar has the form of is its tag. A tag may also be written in front of
a scalar, and then the scalar need not have the form.

## Main definitions

* `Tag`, `Tag.ofPlain` — the tags, and the one of a plain scalar.
* `Tag.scalar` — the datum that a scalar with a tag stands for.
-/

namespace ChunkGraph.Data.Yaml

open ChunkGraph.Number

/-- What a node stands for. -/
inductive Tag where
  /-- Null. -/
  | null
  /-- A truth value. -/
  | truth
  /-- An integer. -/
  | integer
  /-- A number with a fraction. -/
  | fraction
  /-- A text. -/
  | text
  /-- A point in time. -/
  | time
  /-- The sign that merges tables. -/
  | merge
  /-- The sign that stands for the value of a table. -/
  | sign
  /-- A list. -/
  | list
  /-- A table. -/
  | table
  /-- Nothing that is known. -/
  | unknown
  deriving DecidableEq, Repr, Inhabited

/-- The words for null. -/
def nullWords : List String := ["", "~", "null", "Null", "NULL"]

/-- The words for true. -/
def trueWords : List String :=
  ["yes", "Yes", "YES", "true", "True", "TRUE", "on", "On", "ON"]

/-- The words for false. -/
def falseWords : List String :=
  ["no", "No", "NO", "false", "False", "FALSE", "off", "Off", "OFF"]

/-! ## Forms -/

/-- A digit or an underscore. -/
def isDigitOrBar (c : Char) : Bool := Text.isAsciiDigit c || c == '_'

/-- A digit of a base or an underscore. -/
def isBaseDigitOrBar (base : Nat) (c : Char) : Bool := (Text.baseDigit? base c).isSome || c == '_'

/-- A text that begins with a digit and goes on with digits and underscores. -/
def isNatural (text : List Char) : Bool :=
  (text.head?.map Text.isAsciiDigit) == some true && text.all isDigitOrBar

/-- A sexagesimal place: one digit, or two of which the first is below six. -/
def isSexagesimalPlace : List Char → Bool
  | [a] => Text.isAsciiDigit a
  | [a, b] => (Text.baseDigit? 6 a).isSome && Text.isAsciiDigit b
  | _ => false

/-- A natural number with sexagesimal places behind it. -/
def isSexagesimal (text : List Char) : Bool :=
  match Text.splitOn ':' text with
  | first :: place :: places => isNatural first && (place :: places).all isSexagesimalPlace
  | _ => false

/-- An integer without its sign. -/
def isIntegerBody (text : List Char) : Bool :=
  match text with
  | ['0'] => true
  | '0' :: 'b' :: digits => !digits.isEmpty && digits.all (isBaseDigitOrBar 2)
  | '0' :: 'x' :: digits => !digits.isEmpty && digits.all (isBaseDigitOrBar 16)
  | '0' :: digits => digits.all (isBaseDigitOrBar 8)
  | _ => isNatural text || isSexagesimal text

/-- An exponent part: its mark, a sign that must be there, and digits. -/
def isExponentPart : List Char → Bool
  | [] => true
  | mark :: sign :: digits =>
      isExponentMark mark && (sign == '+' || sign == '-') && !digits.isEmpty &&
        digits.all Text.isAsciiDigit
  | _ => false

/-- A number with a fraction, without its sign; one that begins with the point has none. -/
def isFractionBody (signed : Bool) (text : List Char) : Bool :=
  match Text.cutAtFirst '.' text with
  | none => false
  | some (whole, rest) =>
      let tail := rest.dropWhile isDigitOrBar
      if whole.isEmpty then
        !signed && (rest.head?.map Text.isAsciiDigit) == some true && isExponentPart tail
      else (isNatural whole && isExponentPart tail) || (isSexagesimal whole && tail.isEmpty)

/-- One of the words for numbers without digits, without its sign. -/
def isNumberWord (signed : Bool) (text : List Char) : Bool :=
  let word := String.ofList text
  [".inf", ".Inf", ".INF"].contains word || (!signed && [".nan", ".NaN", ".NAN"].contains word)

/-- The tag of a plain scalar. -/
def Tag.ofPlain (text : List Char) : Tag :=
  let word := String.ofList text
  let (_, body) := takeSign text
  let signed := body.length < text.length
  if nullWords.contains word then .null
  else if trueWords.contains word || falseWords.contains word then .truth
  else if isFractionBody signed body || isNumberWord signed body then .fraction
  else if isIntegerBody body then .integer
  else if word == "<<" then .merge
  else if word == "=" then .sign
  else if (Moment.ofText? text).isSome then .time
  else .text

/-! ## Data -/

/-- The truth value of a word in any case. -/
def truthOf (text : List Char) : Except Failure Bool :=
  let word := String.ofList (Text.lower text)
  if ["yes", "true", "on"].contains word then .ok true
  else if ["no", "false", "off"].contains word then .ok false
  else .error (.notATruth word)

/-- The integer that a text stands for in ten digits. -/
def decimalOf (text : List Char) : Except Failure Int :=
  match readInt text with
  | .ok n => .ok n
  | .error .malformed => .error (.notAnInteger 10 (String.ofList text))
  | .error (.tooLong digits) => .error (.integerTooLong digits)

/-- The integer with the given digits in a base. -/
def integerInBase (base : Nat) (digits : List Char) : Except Failure Int :=
  match Text.inBase? base digits with
  | some n => .ok n
  | none => .error (.notAnInteger base (String.ofList digits))

/-- The integer that a text without underscores stands for. -/
def integerOf (text : List Char) : Except Failure Int := do
  let (negative, body) := takeSign text
  let size ← match body with
    | [] => .error .emptyNumber
    | ['0'] => pure 0
    | '0' :: 'b' :: digits => integerInBase 2 digits
    | '0' :: 'x' :: digits => integerInBase 16 digits
    | '0' :: _ => integerInBase 8 body
    | _ =>
        if body.contains ':' then
          (Text.splitOn ':' body).foldlM (fun total place => do
            return 60 * total + (← decimalOf place)) 0
        else decimalOf body
  return if negative then -size else size

/-- The number with a fraction that a text stands for. -/
def binaryOf (text : List Char) : Except Failure Binary64 :=
  match readFloat? text with
  | some x => .ok x
  | none => .error (.notANumber (String.ofList text))

/-- The payload of the undefined number when it is read from a document. -/
def undefinedPayload : Nat := 1

/-- The sum of places, the last first, each sixty times as much as the one before it. -/
def sumPlaces : Nat → Binary64 → List Binary64 → Binary64
  | _, total, [] => total
  | weight, total, place :: places =>
      sumPlaces (60 * weight) (total.add (place.times weight)) places

/-- The number with a fraction that a text without underscores, in small letters, stands for. -/
def fractionOf (text : List Char) : Except Failure Binary64 := do
  let (negative, body) := takeSign text
  let size ←
    if text.isEmpty then .error .emptyNumber
    else if body == ".inf".toList then pure (.infinite false)
    else if body == ".nan".toList then pure (.nan undefinedPayload)
    else if body.contains ':' then do
      let places ← (Text.splitOn ':' body).mapM binaryOf
      pure (sumPlaces 1 (.ofInt 0) places.reverse)
    else binaryOf body
  return if negative then size.neg else size

/-- The datum that a scalar with a tag stands for. -/
def Tag.scalar (tag : Tag) (text : List Char) : Except Failure Scalar :=
  let bare := text.filter (· != '_')
  match tag with
  | .null => .ok .null
  | .truth => (truthOf text).map .bool
  | .integer => (integerOf bare).map .int
  | .fraction => (fractionOf (Text.lower bare)).map .float
  | .text => .ok (.text (String.ofList text))
  | .time =>
      match Moment.ofText? text with
      | some moment => moment.standard.map fun chars => .text (String.ofList chars)
      | none => .error (.misuse (.noPart "NoneType" "groupdict"))
  | _ => .error .malformedYaml

end ChunkGraph.Data.Yaml
