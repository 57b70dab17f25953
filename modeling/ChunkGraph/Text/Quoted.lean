import ChunkGraph.Text.Letter

/-!
# Quoted texts in messages

Messages that cite a piece of input put it between single quotes, or between
double quotes when it holds a single quote and no double quote. Backslashes,
the quote in use and characters that cannot be printed are escaped.

## Main definitions

* `quote` — a text between quotes.
-/

namespace ChunkGraph.Text

/-- The digit for a value below sixteen. -/
def hexDigit (n : Nat) : Char :=
  if n < 10 then Char.ofNat ('0'.toNat + n) else Char.ofNat ('a'.toNat + (n - 10))

/-- The last `width` hexadecimal digits of `n`. -/
def hexDigits : Nat → Nat → List Char
  | 0, _ => []
  | width + 1, n => hexDigits width (n / 16) ++ [hexDigit (n % 16)]

/-- A character inside quotes of the kind `mark`. -/
def quoteChar (mark c : Char) : List Char :=
  if c == mark || c == '\\' then ['\\', c]
  else if c == '\n' then ['\\', 'n']
  else if c == '\r' then ['\\', 'r']
  else if c == '\t' then ['\\', 't']
  else if isPrintable c then [c]
  else if c.toNat < 0x100 then '\\' :: 'x' :: hexDigits 2 c.toNat
  else if c.toNat < 0x10000 then '\\' :: 'u' :: hexDigits 4 c.toNat
  else '\\' :: 'U' :: hexDigits 8 c.toNat

/-- The text between quotes. -/
def quote (text : String) : String :=
  let mark := if text.contains '\x27' && !text.contains '\"' then '\"' else '\x27'
  String.ofList (mark :: text.toList.flatMap (quoteChar mark) ++ [mark])

end ChunkGraph.Text
