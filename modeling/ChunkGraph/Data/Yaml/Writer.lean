import ChunkGraph.Data.Yaml.Scalar
import ChunkGraph.Text.Quoted

/-!
# Writing YAML

Tables and lists are written in block style, the items of a list that a table
holds as far in as the key; empty ones are written as brackets. A text is
written plainly when a reader takes the plain form for that text; otherwise in
single quotes, and in double quotes when it holds characters that need an
escape or blanks next to line ends. Texts longer than eighty columns are
folded at blanks, except in keys. A key that is long, empty or of several lines
has a question mark in front of it and its colon on the next line.

## Main definitions

* `Survey` — what a text holds that decides its style.
* `scalarText` — a scalar in its style.
* `Yaml.document` — a table as a document.
-/

namespace ChunkGraph.Data.Yaml

open ChunkGraph.Number

/-- Columns after which a text is folded. -/
def foldWidth : Nat := 80

/-- The words for numbers without digits. -/
def specialNames : SpecialNames := ⟨".inf", ".nan"⟩

/-! ## Choice of style -/

/-- What a text holds that decides its style. -/
structure Survey where
  /-- Something that a plain scalar may not hold. -/
  indicators : Bool := false
  /-- Line ends. -/
  breaks : Bool := false
  /-- Characters that need an escape. -/
  special : Bool := false
  /-- A blank at the start of a line. -/
  breakSpace : Bool := false
  /-- A blank at the end of a line. -/
  spaceBreak : Bool := false
  deriving DecidableEq, Repr

/-- The character ends a line inside a text to be written. -/
def isWrittenBreak (c : Char) : Bool :=
  c == '\n' || c.toNat == 0x85 || c.toNat == 0x2028 || c.toNat == 0x2029

/-- The character has to be escaped. -/
def isSpecial (unicode : Bool) (c : Char) : Bool :=
  let n := c.toNat
  if c == '\n' || (32 ≤ n && n ≤ 126) then false
  else if n == 0xFEFF then true
  else if n == 0x85 || (0xA0 ≤ n && n ≤ 0xFFFD) || (0x10000 ≤ n && n < 0x10FFFF) then !unicode
  else true

/-- The character, at the start of a text, makes it something else than a plain scalar. -/
def leadsAway (c : Char) (gapBehind : Bool) : Bool :=
  ['#', ',', '[', ']', '\x7b', '\x7d', '&', '*', '!', '|', '>', '\x27', '\"', '%', '@',
    '\x60'].contains c || (gapBehind && (c == '?' || c == ':' || c == '-'))

/-- A gap, the end or a zero character. -/
def isGapOrZero : List Char → Bool
  | [] => true
  | c :: _ => isGap c || c.toNat == 0

/-- What the rest of a text holds; `before` is the character in front of it. -/
def surveyFrom (unicode : Bool) (before : Option Char) : List Char → Survey
  | [] => {}
  | c :: rest =>
      let later := surveyFrom unicode (some c) rest
      let gapBefore := (before.map fun b => isGap b || b.toNat == 0).getD true
      let indicator := match before with
        | none => leadsAway c (isGapOrZero rest)
        | some _ => (c == ':' && isGapOrZero rest) || (c == '#' && gapBefore)
      { indicators := indicator || later.indicators
        breaks := isWrittenBreak c || later.breaks
        special := isSpecial unicode c || later.special
        breakSpace := (c == ' ' && (before.map isWrittenBreak) == some true) || later.breakSpace
        spaceBreak := (isWrittenBreak c && before == some ' ') || later.spaceBreak }

/-- How a text is written. -/
inductive Style where
  /-- Without quotes. -/
  | plain
  /-- In single quotes. -/
  | single
  /-- In double quotes. -/
  | double
  deriving DecidableEq, Repr

/-- The text begins like the mark of a document. -/
def beginsLikeMarker (text : List Char) : Bool :=
  text.take 3 == ['-', '-', '-'] || text.take 3 == ['.', '.', '.']

/-- The character is a blank or a line end. -/
def isEdgeSpace (c : Char) : Bool := c == ' ' || isWrittenBreak c

/-- The style of a text. -/
def styleOf (unicode : Bool) (text : List Char) : Style :=
  let survey := surveyFrom unicode none text
  let spaced := text.head?.any isEdgeSpace || text.getLast?.any isEdgeSpace
  let plain := Tag.ofPlain text == .text && !text.isEmpty && !spaced && !survey.breaks &&
    !survey.special && !survey.indicators && !beginsLikeMarker text
  if plain then .plain
  else if survey.breakSpace || survey.spaceBreak || survey.special then .double
  else .single

/-! ## Scalars -/

/-- A new line indented by `indent` columns. -/
def newLine (indent : Nat) : List Char := '\n' :: List.replicate indent ' '

/-- The maximal runs of characters on which `kind` agrees. -/
def runs (kind : Char → Nat) : List Char → List (List Char)
  | [] => []
  | c :: rest =>
      match runs kind rest with
      | (d :: run) :: more =>
          if kind c == kind d then (c :: d :: run) :: more else [c] :: (d :: run) :: more
      | more => [c] :: more

/-- Blanks, line ends, and the rest. -/
def spacing (c : Char) : Nat := if c == ' ' then 0 else if isWrittenBreak c then 1 else 2

/-- The runs of a plain text from a column on. -/
def plainRuns (fold : Bool) (indent : Nat) : Nat → List (List Char) → List Char
  | _, [] => []
  | column, run :: rest =>
      if run == [' '] && fold && foldWidth < column then
        newLine indent ++ plainRuns fold indent indent rest
      else run ++ plainRuns fold indent (column + run.length) rest

/-- The line ends of a run inside single quotes: the first line feed is written twice. -/
def writtenBreaks (run : List Char) : List Char :=
  (if run.head? == some '\n' then ['\n'] else []) ++ run

/-- The runs of a text inside single quotes from a column on. -/
def singleRuns (fold first : Bool) (indent : Nat) : Nat → List (List Char) → List Char
  | _, [] => []
  | column, run :: rest =>
      if run == [' '] && fold && foldWidth < column && !first && !rest.isEmpty then
        newLine indent ++ singleRuns fold false indent indent rest
      else if (run.head?.map isWrittenBreak) == some true then
        writtenBreaks run ++ List.replicate indent ' ' ++ singleRuns fold false indent indent rest
      else
        let written := Text.substitute '\x27' ['\x27', '\x27'] run
        written ++ singleRuns fold false indent (column + written.length) rest

/-- The letters of one-letter escapes. -/
def escapeLetter? (c : Char) : Option Char :=
  ([(0, '0'), (7, 'a'), (8, 'b'), (9, 't'), (10, 'n'), (11, 'v'), (12, 'f'), (13, 'r'), (27, 'e'),
    (34, '\"'), (92, '\\'), (0x85, 'N'), (0xA0, '_'), (0x2028, 'L'), (0x2029, 'P')] :
    List (Nat × Char)).lookup c.toNat

/-- The last `width` hexadecimal digits of `n`, with capital letters. -/
def capitalHex (width n : Nat) : List Char := (Text.hexDigits width n).map Char.toUpper

/-- The escape of a character. -/
def escaped (c : Char) : List Char :=
  match escapeLetter? c with
  | some letter => ['\\', letter]
  | none =>
      if c.toNat ≤ 0xFF then '\\' :: 'x' :: capitalHex 2 c.toNat
      else if c.toNat ≤ 0xFFFF then '\\' :: 'u' :: capitalHex 4 c.toNat
      else '\\' :: 'U' :: capitalHex 8 c.toNat

/-- The character is escaped inside double quotes. -/
def needsEscape (unicode : Bool) (c : Char) : Bool :=
  let n := c.toNat
  c == '\"' || c == '\\' || n == 0x85 || n == 0x2028 || n == 0x2029 || n == 0xFEFF ||
    !((32 ≤ n && n ≤ 126) || (unicode && 0xA0 ≤ n && n ≤ 0xFFFD))

/-- A text inside double quotes. `done` characters of `size` are behind, of which `pending`, last
one first, are still to be written from `column` on. -/
def doubleFrom (unicode fold : Bool) (indent size : Nat) :
    Nat → List Char → Nat → List Char → List Char
  | _, pending, _, [] => pending.reverse
  | done, pending, column, c :: rest =>
      let inside := fold && 0 < done && done + 1 < size
      if needsEscape unicode c then
        let written := pending.reverse ++ escaped c
        let column := column + written.length
        if inside && foldWidth < column - 1 then
          let mark := if rest.head? == some ' ' then ['\\'] else []
          written ++ '\\' :: newLine indent ++ mark ++
            doubleFrom unicode fold indent size (done + 1) [] (indent + mark.length) rest
        else written ++ doubleFrom unicode fold indent size (done + 1) [] column rest
      else if inside && (c == ' ' || pending.isEmpty) && foldWidth < column + pending.length then
        let mark := if c == ' ' then ['\\'] else []
        pending.reverse ++ '\\' :: newLine indent ++ mark ++
          doubleFrom unicode fold indent size (done + 1) [c] (indent + mark.length) rest
      else doubleFrom unicode fold indent size (done + 1) (c :: pending) column rest

/-- A text in its style, from a column on; `fold` if it may be folded. -/
def textFrom (unicode fold : Bool) (indent column : Nat) (text : List Char) : List Char :=
  match styleOf unicode text with
  | .plain => plainRuns fold indent column (runs spacing text)
  | .single => '\x27' :: singleRuns fold true indent (column + 1) (runs spacing text) ++ ['\x27']
  | .double => '\"' :: doubleFrom unicode fold indent text.length 0 [] (column + 1) text ++ ['\"']

/-- A number with a fraction: an exponent has a fraction in front of it. -/
def floatText (x : Binary64) : String :=
  let written := x.shortest specialNames
  if written.contains '.' || !written.contains 'e' then written
  else String.ofList (Text.substitute 'e' ['.', '0', 'e'] written.toList)

/-- A scalar in its style, from a column on. -/
def scalarFrom (unicode fold : Bool) (indent column : Nat) : Scalar → String
  | .null => "null"
  | .bool b => if b then "true" else "false"
  | .int n => integerText n
  | .float x => floatText x
  | .text s => String.ofList (textFrom unicode fold indent column s.toList)

/-! ## Collections -/

/-- The number of characters charged for the type of a key. -/
def typeLength : Scalar → Nat
  | .null => 6
  | .bool _ => 6
  | .int _ => 5
  | .float _ => 7
  | .text _ => 5

/-- The least length at which a key is long. -/
def longKey : Nat := 128

/-- The key stands in front of its colon; the others have a mark and a line of their own. -/
def isSimpleKey (key : Scalar) : Bool :=
  let written := match key with
    | .text s => s.toList
    | key => (scalarFrom false false 0 0 key).toList
  typeLength key + written.length < longKey && !written.isEmpty && !written.any isWrittenBreak

/-- A new line indented by `indent` columns, as a `String`. -/
def lineBreak (indent : Nat) : String := String.ofList (newLine indent)

mutual

/-- A value behind a dash, inside a list indented by `indent`. -/
def itemText (unicode : Bool) (indent : Nat) : Value → String
  | .scalar s => scalarFrom unicode true (indent + 2) (indent + 2) s
  | .list [] => "[]"
  | .table [] => "\x7b\x7d"
  | .list (item :: items) =>
      String.intercalate (lineBreak (indent + 2)) (itemsText unicode (indent + 2) (item :: items))
  | .table (entry :: entries) =>
      String.intercalate (lineBreak (indent + 2))
        (entriesText unicode (indent + 2) (entry :: entries))

/-- The items of a list. -/
def itemsText (unicode : Bool) (indent : Nat) : List Value → List String
  | [] => []
  | item :: items => ("- " ++ itemText unicode indent item) :: itemsText unicode indent items

/-- A value behind the colon of a key that ends before `column`. -/
def valueText (unicode : Bool) (indent column : Nat) : Value → String
  | .scalar s => " " ++ scalarFrom unicode true (indent + 2) (column + 1) s
  | .list [] => " []"
  | .table [] => " \x7b\x7d"
  | .list (item :: items) =>
      lineBreak indent ++
        String.intercalate (lineBreak indent) (itemsText unicode indent (item :: items))
  | .table (entry :: entries) =>
      lineBreak (indent + 2) ++
        String.intercalate (lineBreak (indent + 2))
          (entriesText unicode (indent + 2) (entry :: entries))

/-- The entries of a table. -/
def entriesText (unicode : Bool) (indent : Nat) : List (Scalar × Value) → List String
  | [] => []
  | (key, value) :: entries =>
      let written :=
        if isSimpleKey key then
          let name := scalarFrom unicode false indent indent key
          name ++ ":" ++ valueText unicode indent (indent + name.length + 1) value
        else
          "? " ++ scalarFrom unicode true (indent + 2) (indent + 2) key ++ lineBreak indent ++
            ": " ++ itemText unicode indent value
      written :: entriesText unicode indent entries

end

/-- A value as a document. With `unicode`, printable characters beyond ASCII are written as they
are. -/
def document (unicode : Bool) (value : Value) : String :=
  match value with
  | .table (entry :: entries) =>
      String.intercalate "\n" (entriesText unicode 0 (entry :: entries)) ++ "\n"
  | .list (item :: items) => String.intercalate "\n" (itemsText unicode 0 (item :: items)) ++ "\n"
  | value => itemText unicode 0 value ++ "\n"

end ChunkGraph.Data.Yaml
