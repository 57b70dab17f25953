import ChunkGraph.Data.Value
import ChunkGraph.Failure
import ChunkGraph.Number.Literal

/-!
# Reading JSON

Strict JSON with three additions: the words for the infinities and the
undefined number are read as numbers. A table keeps the order of its entries,
and of a repeated key the last value counts at the first place. An integer with
too many digits is a fault of its own, found before anything behind it is read,
and so is a bracket inside of too many others.

The reader consumes a list of characters. Nested values are read with fuel
that the length of the text bounds: every step consumes a character or hands
over to one that does.

## Main definitions

* `Json.read` — the value of a text, or what is wrong with it.
* `Json.parse?` — the value of a text, if it is well formed.
-/

namespace ChunkGraph.Data.Json

open ChunkGraph.Number

/-- White space between tokens. -/
def isSpace (c : Char) : Bool := c == ' ' || c == '\t' || c == '\n' || c == '\r'

/-- The text without white space in front. -/
def skipSpace (text : List Char) : List Char := text.dropWhile isSpace

/-- The value of four hexadecimal digits. -/
def hex4? (a b c d : Char) : Option Nat := Text.inBase? 16 [a, b, c, d]

/-- The character of a single-letter escape. -/
def escape? (c : Char) : Option Char :=
  match c with
  | '\"' => some '\"'
  | '\\' => some '\\'
  | '/' => some '/'
  | 'b' => some '\x08'
  | 'f' => some '\x0c'
  | 'n' => some '\n'
  | 'r' => some '\r'
  | 't' => some '\t'
  | _ => none

/-- A unit of an escaped text: a character, or half of a surrogate pair. -/
inductive Unit16 where
  /-- A whole character. -/
  | char (c : Char)
  /-- A UTF-16 code unit written as an escape. -/
  | code (n : Nat)
  deriving DecidableEq, Repr

/-- The units of a quoted text up to its closing quote, and what follows. -/
def readUnits (done : List Unit16) : List Char → Option (List Unit16 × List Char)
  | [] => none
  | '\"' :: rest => some (done.reverse, rest)
  | '\\' :: 'u' :: a :: b :: c :: d :: rest =>
      match hex4? a b c d with
      | some n => readUnits (.code n :: done) rest
      | none => none
  | '\\' :: c :: rest =>
      match escape? c with
      | some e => readUnits (.char e :: done) rest
      | none => none
  | c :: rest => if c.toNat < 32 then none else readUnits (.char c :: done) rest

/-- The characters of a list of units: surrogate pairs are joined, lone surrogates replaced. -/
def joinUnits : List Unit16 → List Char
  | [] => []
  | .char c :: rest => c :: joinUnits rest
  | .code n :: .code m :: rest =>
      if 0xD800 ≤ n && n < 0xDC00 && 0xDC00 ≤ m && m < 0xE000 then
        Char.ofNat (0x10000 + (n - 0xD800) * 0x400 + (m - 0xDC00)) :: joinUnits rest
      else (if 0xD800 ≤ n && n < 0xE000 then Char.ofNat 0xFFFD else Char.ofNat n) ::
        joinUnits (.code m :: rest)
  | .code n :: rest =>
      (if 0xD800 ≤ n && n < 0xE000 then Char.ofNat 0xFFFD else Char.ofNat n) :: joinUnits rest

/-- The text behind an opening quote, and what follows its closing quote. -/
def readText (text : List Char) : Option (String × List Char) :=
  (readUnits [] text).map fun (units, rest) => (String.ofList (joinUnits units), rest)

/-- The digits in front. -/
def takeDigits (text : List Char) : List Char × List Char := text.span Text.isAsciiDigit

/-- The whole number in front: a zero, or other digits. -/
def takeWhole : List Char → List Char × List Char
  | '0' :: rest => (['0'], rest)
  | text => takeDigits text

/-- The fraction in front, with its point, if there is one. -/
def takeFraction : List Char → List Char × List Char
  | '.' :: rest =>
      let (digits, behind) := takeDigits rest
      if digits.isEmpty then ([], '.' :: rest) else (digits, behind)
  | text => ([], text)

/-- The exponent in front, without its mark, if there is one. -/
def takeExponent : List Char → Option (Bool × List Char) × List Char
  | c :: rest =>
      if isExponentMark c then
        let (negative, body) := takeSign rest
        let (digits, behind) := takeDigits body
        if digits.isEmpty then (none, c :: rest) else (some (negative, digits), behind)
      else (none, c :: rest)
  | [] => (none, [])

/-- The value of ASCII digits. -/
def digitsValue (digits : List Char) : Nat :=
  ofDigits (digits.map fun c => c.toNat - '0'.toNat)

/-- A number without its sign. -/
def readUnsigned (negative : Bool) (text : List Char) : Except Failure (Value × List Char) :=
  let (whole, rest) := takeWhole text
  if whole.isEmpty then .error .malformedJson
  else
    let (fraction, rest) := takeFraction rest
    let (exponent, rest) := takeExponent rest
    match fraction, exponent with
    | [], none =>
        if maxDigits < whole.length then .error (.integerTooLong whole.length)
        else .ok (.int (Binary64.signed negative (digitsValue whole)), rest)
    | _, _ =>
        let power : Int := match exponent with
          | none => 0
          | some (minus, digits) => Binary64.signed minus (digitsValue digits)
        .ok (.float (.ofScientific negative (digitsValue (whole ++ fraction))
          (power - fraction.length)), rest)

/-- The payload of the undefined number when it is read from a document. -/
def undefinedPayload : Nat := 2

/-- The words with a meaning of their own. -/
def words : List (List Char × Value) :=
  [("null".toList, .null), ("true".toList, .bool true), ("false".toList, .bool false),
    ("NaN".toList, .float (.nan undefinedPayload)), ("Infinity".toList, .float (.infinite false)),
    ("-Infinity".toList, .float (.infinite true))]

/-- The first of the words that the text begins with. -/
def readWord (text : List Char) : Option (Value × List Char) :=
  words.findSome? fun (word, value) =>
    if word.isPrefixOf text then some (value, text.drop word.length) else none

/-- A scalar that is not a text. -/
def readAtom (text : List Char) : Except Failure (Value × List Char) :=
  match readWord text, text with
  | some found, _ => .ok found
  | none, '-' :: rest => readUnsigned true rest
  | none, _ => readUnsigned false text

/-- The most brackets that may stand around each other. -/
def maxNesting : Nat := 980

mutual

/-- The value in front of the text, which stands inside of `around` brackets, and what follows
it. -/
def readValue : Nat → Nat → List Char → Except Failure (Value × List Char)
  | 0, _, _ => .error .malformedJson
  | fuel + 1, around, text =>
      match text with
      | '\"' :: rest =>
          match readText rest with
          | some (s, rest) => .ok (.text s, rest)
          | none => .error .malformedJson
      | '[' :: rest =>
          if maxNesting ≤ around then .error .nestedTooDeep
          else
            match skipSpace rest with
            | ']' :: rest => .ok (.list [], rest)
            | rest => readItems fuel (around + 1) [] rest
      | '\x7b' :: rest =>
          if maxNesting ≤ around then .error .nestedTooDeep
          else
            match skipSpace rest with
            | '\x7d' :: rest => .ok (.table [], rest)
            | rest => readEntries fuel (around + 1) [] rest
      | _ => readAtom text

/-- The items of a list from the next one on. -/
def readItems : Nat → Nat → List Value → List Char → Except Failure (Value × List Char)
  | 0, _, _, _ => .error .malformedJson
  | fuel + 1, around, done, text =>
      match readValue fuel around (skipSpace text) with
      | .error failure => .error failure
      | .ok (item, rest) =>
          match skipSpace rest with
          | ',' :: rest => readItems fuel around (item :: done) rest
          | ']' :: rest => .ok (.list (item :: done).reverse, rest)
          | _ => .error .malformedJson

/-- The entries of a table from the next one on. -/
def readEntries :
    Nat → Nat → List (Scalar × Value) → List Char → Except Failure (Value × List Char)
  | 0, _, _, _ => .error .malformedJson
  | fuel + 1, around, done, text =>
      match skipSpace text with
      | '\"' :: rest =>
          match readText rest with
          | none => .error .malformedJson
          | some (key, rest) =>
              match skipSpace rest with
              | ':' :: rest =>
                  match readValue fuel around (skipSpace rest) with
                  | .error failure => .error failure
                  | .ok (value, rest) =>
                      match skipSpace rest with
                      | ',' :: rest => readEntries fuel around ((.text key, value) :: done) rest
                      | '\x7d' :: rest =>
                          .ok (.table (Table.ofEntries ((.text key, value) :: done).reverse), rest)
                      | _ => .error .malformedJson
              | _ => .error .malformedJson
      | _ => .error .malformedJson

end

/-- The value of a text that holds one value and nothing else. -/
def read (text : List Char) : Except Failure Value :=
  match readValue (2 * text.length + 2) 0 (skipSpace text) with
  | .ok (value, rest) => if (skipSpace rest).isEmpty then .ok value else .error .malformedJson
  | .error failure => .error failure

/-- The value of a text, if it is well formed. -/
def parse? (text : List Char) : Option Value := (read text).toOption

end ChunkGraph.Data.Json
