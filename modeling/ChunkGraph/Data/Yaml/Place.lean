import ChunkGraph.Failure

/-!
# Places in a YAML text

A place is what follows it in the text, with the number of characters and of
lines in front of it and the column, which decides how blocks nest. A line ends
at a line feed, a carriage return, both of them in this order, or the next-line
character, all of which stand for a line feed, and at the two separators of
Unicode, which stand for themselves. The byte-order mark takes no column.

## Main definitions

* `Place`, `Place.skip`, `Place.skipWhile` — places and the way on from them.
* `Place.takeBreak?` — the end of a line.
* `Place.atMarker` — the mark between documents.
-/

namespace ChunkGraph.Data.Yaml

/-- The character ends a line. -/
def isBreak (c : Char) : Bool :=
  c == '\n' || c == '\r' || c.toNat == 0x85 || c.toNat == 0x2028 || c.toNat == 0x2029

/-- The character is a blank or ends a line. -/
def isSpaceOrBreak (c : Char) : Bool := c == ' ' || isBreak c

/-- The character is a blank, a tab or ends a line. -/
def isGap (c : Char) : Bool := c == '\t' || isSpaceOrBreak c

/-- Nothing follows, or a character of a kind. -/
def endsOr (kind : Char → Bool) : List Char → Bool
  | [] => true
  | c :: _ => kind c

/-- Nothing follows, or a gap. -/
def atGap (text : List Char) : Bool := endsOr isGap text

/-- The character is an indicator of flow collections. -/
def isFlowIndicator (c : Char) : Bool :=
  c == ',' || c == '[' || c == ']' || c == '\x7b' || c == '\x7d'

/-- A place in a text. -/
structure Place where
  /-- Characters from here on. -/
  rest : List Char
  /-- Number of characters in front. -/
  index : Nat := 0
  /-- Number of lines in front. -/
  line : Nat := 0
  /-- Column of the first of the characters. -/
  column : Nat := 0
  deriving DecidableEq, Repr, Inhabited

namespace Place

/-- The place behind a character, in front of the text `rest`. -/
def behind (p : Place) (c : Char) (rest : List Char) : Place :=
  if isBreak c && !(c == '\r' && rest.head? == some '\n') then
    ⟨rest, p.index + 1, p.line + 1, 0⟩
  else ⟨rest, p.index + 1, p.line, if c.toNat == 0xFEFF then p.column else p.column + 1⟩

/-- The place one character further on. -/
def next (p : Place) : Place :=
  match p.rest with
  | [] => p
  | c :: rest => p.behind c rest

/-- The place `n` characters further on. -/
def skip (p : Place) : Nat → Place
  | 0 => p
  | n + 1 => p.next.skip n

/-- The characters of a kind in front, and the place behind them. -/
def takeWhile (p : Place) (kind : Char → Bool) : List Char × Place :=
  let run := p.rest.takeWhile kind
  (run, p.skip run.length)

/-- The place behind the characters of a kind. -/
def skipWhile (p : Place) (kind : Char → Bool) : Place := (p.takeWhile kind).2

/-- The place behind the blanks. -/
def skipSpaces (p : Place) : Place := p.skipWhile (· == ' ')

/-- The end of a line at the place: what it stands for, and the place behind it. -/
def takeBreak? (p : Place) : Option (Char × Place) :=
  match p.rest with
  | '\r' :: '\n' :: _ => some ('\n', p.skip 2)
  | c :: _ =>
      if c.toNat == 0x2028 || c.toNat == 0x2029 then some (c, p.next)
      else if isBreak c then some ('\n', p.next)
      else none
  | [] => none

/-- The place at the end of the line. -/
def lineEnd (p : Place) : Place := p.skipWhile (!isBreak ·)

/-- Three given characters followed by a gap. -/
def hasMarker (p : Place) (mark : Char) : Bool :=
  p.rest.take 3 == [mark, mark, mark] && atGap (p.rest.drop 3)

/-- A mark between documents, wherever it stands on its line. -/
def atMarker (p : Place) : Bool := p.hasMarker '-' || p.hasMarker '.'

/-- The place behind a line that holds nothing more than blanks and perhaps a comment. -/
def skipEmptyLine (p : Place) : Except Failure Place :=
  let p := p.skipSpaces
  let p := if p.rest.head? == some '#' then p.lineEnd else p
  match p.takeBreak?, p.rest with
  | some (_, behind), _ => .ok behind
  | none, [] => .ok p
  | none, _ => .error .malformedYaml

end Place

end ChunkGraph.Data.Yaml
