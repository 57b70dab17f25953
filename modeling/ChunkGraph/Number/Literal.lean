import ChunkGraph.Number.Digits
import ChunkGraph.Text.Letter

/-!
# Number literals

Reading numbers out of texts such as environment variables and line ranges.
Blanks around the number, a sign, decimal digits of any script and single
underscores between digits are accepted; an integer may have at most 4300
digits. The digits are counted before anything behind them is looked at.

## Main definitions

* `readInt` — the integer a text stands for, or why it stands for none.
* `readFloat?` — the floating-point number a text stands for.
-/

namespace ChunkGraph.Number

/-- Why a text is no integer. -/
inductive IntegerFault where
  /-- It is not of the form of an integer. -/
  | malformed
  /-- It has the form of an integer with that many digits, more than are read. -/
  | tooLong (digits : Nat)
  deriving DecidableEq, Repr

/-- The most digits an integer may have. -/
def maxDigits : Nat := 4300

/-- The values of the digits of a number whose digits single underscores may separate. -/
def digitValues? : List Char → Option (List Nat)
  | [] => none
  | [c] => (Text.digitValue? c).map ([·])
  | c :: '_' :: rest => do
      let value ← Text.digitValue? c
      let values ← digitValues? rest
      return value :: values
  | c :: rest => do
      let value ← Text.digitValue? c
      let values ← digitValues? rest
      return value :: values

/-- The number with the given decimal digits. -/
def ofDigits (values : List Nat) : Nat := values.foldl (fun n d => 10 * n + d) 0

/-- A sign in front of a text: whether it is a minus, and the rest. -/
def takeSign : List Char → Bool × List Char
  | '-' :: rest => (true, rest)
  | '+' :: rest => (false, rest)
  | text => (false, text)

/-- The character may surround a number: a blank that is no separator of information units. -/
def isMargin (c : Char) : Bool := Text.isBlank c && !(28 ≤ c.toNat && c.toNat ≤ 31)

/-- A text without the blanks that may surround a number. -/
def withoutMargins (text : List Char) : List Char :=
  Text.dropWhileRight isMargin (text.dropWhile isMargin)

/-- The character is a decimal digit or may stand between two of them. -/
def isDigitOrSeparator (c : Char) : Bool := c == '_' || (Text.digitValue? c).isSome

/-- The integer a text stands for. -/
def readInt (text : List Char) : Except IntegerFault Int :=
  let (negative, body) := takeSign (withoutMargins text)
  let run := body.takeWhile isDigitOrSeparator
  match digitValues? run with
  | none => .error .malformed
  | some values =>
      if maxDigits < values.length then .error (.tooLong values.length)
      else if run.length < body.length then .error .malformed
      else .ok (Binary64.signed negative (ofDigits values))

/-- The values of digits, of which there may be none. -/
def digitValuesOrNone? (text : List Char) : Option (List Nat) :=
  if text.isEmpty then some [] else digitValues? text

/-- The value of an exponent part with its mark. -/
def exponentValue? : List Char → Option Int
  | [] => some 0
  | _ :: rest =>
      let (negative, body) := takeSign rest
      (digitValues? body).map fun values =>
        if negative then -(ofDigits values : Int) else ofDigits values

/-- The character introduces an exponent. -/
def isExponentMark (c : Char) : Bool := c == 'e' || c == 'E'

/-- The floating-point number written as digits, a point, digits and an exponent. -/
def readDecimal? (negative : Bool) (body : List Char) : Option Binary64 := do
  let mantissa := body.takeWhile (!isExponentMark ·)
  let exponent ← exponentValue? (body.dropWhile (!isExponentMark ·))
  let whole ← digitValuesOrNone? (mantissa.takeWhile (· != '.'))
  let fraction ← digitValuesOrNone? ((mantissa.dropWhile (· != '.')).drop 1)
  if whole.isEmpty && fraction.isEmpty then none
  else
    return .ofScientific negative (ofDigits (whole ++ fraction)) (exponent - fraction.length)

/-- The floating-point number a text stands for. -/
def readFloat? (text : List Char) : Option Binary64 :=
  let (negative, body) := takeSign (withoutMargins text)
  let word := String.ofList (body.map Text.lowerChar)
  let ascii := body.all (·.toNat < 128)
  if ascii && (word == "inf" || word == "infinity") then some (.infinite negative)
  else if ascii && word == "nan" then some (.nan 0)
  else readDecimal? negative body

end ChunkGraph.Number
