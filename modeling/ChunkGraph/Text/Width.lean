import ChunkGraph.Text.Letter
import ChunkGraph.Text.Table.Width

/-!
# The width of texts

A terminal shows texts in columns. Most characters take one, some none, and some
two. A tab goes on to the next stop, which is a multiple of eight.

## Main definitions

* `columns`, `width` — the columns that a character and a text take.
* `expandTabs` — a text with blanks in place of its tabs.
* `cutToWidth` — a text cut down to a width.
-/

namespace ChunkGraph.Text

/-- The columns that a character takes. -/
def columns (c : Char) : Nat :=
  if inRanges Table.widthlessRanges c.toNat then 0
  else if inRanges Table.wideRanges c.toNat then 2
  else 1

/-- The columns that a text takes. -/
def width (text : List Char) : Nat := text.foldl (fun total c => total + columns c) 0

/-! ## Tabs -/

/-- The number of columns between two stops. -/
def tabWidth : Nat := 8

/-- The text with blanks in place of tabs, from a column on. -/
def expandFrom (column : Nat) : List Char → List Char
  | [] => []
  | c :: rest =>
      if c == '\t' then
        let gap := tabWidth - column % tabWidth
        List.replicate gap ' ' ++ expandFrom (column + gap) rest
      else c :: expandFrom (if c == '\n' then 0 else column + columns c) rest

/-- The text with blanks in place of tabs. -/
def expandTabs (text : List Char) : List Char := expandFrom 0 text

/-! ## Cutting -/

/-- The character is known to take one column. -/
def isPlainlyNarrow (c : Char) : Bool :=
  let n := c.toNat
  (0x20 ≤ n && n ≤ 0x6F) || n == 0xA0 || n == 0x2FF || (0x370 ≤ n && n ≤ 0x482)

/-- The front of a text that takes some columns, sought for by halving between two places; a
character that would stick out by one column is left out for a blank. -/
def frontOfWidth (text : List Char) (total : Nat) : Nat → Nat → Nat → List Char
  | 0, _, _ => []
  | n + 1, first, last =>
      let place := (first + last) / 2
      let front := text.take (place + 1)
      let taken := width front
      if taken == total + 1 && front.getLast?.map columns == some 2 then front.dropLast ++ [' ']
      else if taken == total then front
      else if total < taken then frontOfWidth text total n first place
      else frontOfWidth text total n place last

/-- A text that takes more columns cut down to a width. -/
def cutToWidth (total : Nat) (text : List Char) : List Char :=
  if text.all isPlainlyNarrow then text.take total
  else if total == 0 then []
  else frontOfWidth text total (text.length + 1) 0 text.length

end ChunkGraph.Text
