import ChunkGraph.Text.Lines
import ChunkGraph.Text.Table.Case
import ChunkGraph.Text.Table.Digit
import ChunkGraph.Text.Table.Printable
import ChunkGraph.Text.Table.Word

/-!
# Letters, digits and letter case

Character classes over all of Unicode. ASCII is decided by comparisons; the
rest is looked up in the tables.

Lower-casing works character by character with two exceptions: the capital I
with a dot above becomes two characters, and a capital sigma that ends a word
takes its final form.

## Main definitions

* `isWordChar` — letters, numbers and the underscore.
* `digitValue?` — the value of a decimal digit of any script.
* `baseDigit?`, `inBase?` — plain digits and numbers in a base up to sixteen.
* `isUpper`, `lower` — letter case.
* `isPrintable` — the character stands for itself in a quoted text.
-/

namespace ChunkGraph.Text

/-- Some range of the list holds `n`. -/
def inRanges (ranges : List (Nat × Nat)) (n : Nat) : Bool :=
  ranges.any fun (first, last) => first ≤ n && n ≤ last

/-- ASCII letter. -/
def isAsciiLetter (c : Char) : Bool := ('a' ≤ c && c ≤ 'z') || ('A' ≤ c && c ≤ 'Z')

/-- ASCII digit. -/
def isAsciiDigit (c : Char) : Bool := '0' ≤ c && c ≤ '9'

/-- A letter, a number or an underscore: the characters that words of code consist of. -/
def isWordChar (c : Char) : Bool :=
  if c.toNat < 128 then isAsciiLetter c || isAsciiDigit c || c == '_'
  else inRanges Table.wordRanges c.toNat

/-- The value of a decimal digit of any script. -/
def digitValue? (c : Char) : Option Nat :=
  if c.toNat < 128 then
    if isAsciiDigit c then some (c.toNat - '0'.toNat) else none
  else
    (Table.digitZeros.find? fun first => first ≤ c.toNat && c.toNat ≤ first + 9).map (c.toNat - ·)

/-- The value of a digit in a base up to sixteen. -/
def baseDigit? (base : Nat) (c : Char) : Option Nat :=
  let value? :=
    if '0' ≤ c && c ≤ '9' then some (c.toNat - '0'.toNat)
    else if 'a' ≤ c && c ≤ 'f' then some (c.toNat - 'a'.toNat + 10)
    else if 'A' ≤ c && c ≤ 'F' then some (c.toNat - 'A'.toNat + 10)
    else none
  value?.filter (· < base)

/-- The number with the given digits in a base; without digits it is none. -/
def inBase? (base : Nat) (digits : List Char) : Option Nat :=
  if digits.isEmpty then none
  else digits.foldlM (fun total c => (baseDigit? base c).map (base * total + ·)) 0

/-- The character is upper case. -/
def isUpper (c : Char) : Bool :=
  if c.toNat < 128 then 'A' ≤ c && c ≤ 'Z'
  else
    Table.upperRuns.any fun (first, last, step) =>
      first ≤ c.toNat && c.toNat ≤ last && (c.toNat - first) % step == 0

/-- The character stands for itself in a quoted text. -/
def isPrintable (c : Char) : Bool :=
  if c.toNat < 128 then 32 ≤ c.toNat && c.toNat < 127
  else inRanges Table.printableRanges c.toNat

/-! ## Lower case -/

/-- The lower-case form of one character by itself. -/
def lowerChar (c : Char) : Char :=
  if c.toNat < 128 then
    if 'A' ≤ c && c ≤ 'Z' then Char.ofNat (c.toNat + 32) else c
  else
    match Table.lowerRuns.find? fun (first, last, step, _) =>
        first ≤ c.toNat && c.toNat ≤ last && (c.toNat - first) % step == 0 with
    | some (_, _, _, distance) => Char.ofNat ((c.toNat : Int) + distance).toNat
    | none => c

/-- The character has case and is not case-ignorable. -/
def isCased (c : Char) : Bool :=
  if c.toNat < 128 then isAsciiLetter c else inRanges Table.casedRanges c.toNat

/-- The character is passed over when looking for a neighbouring letter. -/
def isCaseIgnorable (c : Char) : Bool :=
  if c.toNat < 128 then c == '\x27' || c == '.' || c == ':' || c == '^' || c == '\x60'
  else inRanges Table.ignorableRanges c.toNat

/-- The first character that is not case-ignorable has case. -/
def meetsCased (text : List Char) : Bool :=
  match text.dropWhile isCaseIgnorable with
  | [] => false
  | c :: _ => isCased c

/-- The lower-case form of the text, where `before` stands in front of it, last character first. -/
def lowerFrom (before : List Char) : List Char → List Char
  | [] => []
  | c :: rest =>
      let form :=
        if c.toNat == 0x3A3 then
          [Char.ofNat (if meetsCased before && !meetsCased rest then 0x3C2 else 0x3C3)]
        else if c.toNat == 0x130 then ['i', Char.ofNat 0x307]
        else [lowerChar c]
      form ++ lowerFrom (c :: before) rest

/-- The text in lower case. -/
def lower (text : List Char) : List Char := lowerFrom [] text

@[simp] theorem lower_nil : lower [] = [] := rfl

end ChunkGraph.Text
