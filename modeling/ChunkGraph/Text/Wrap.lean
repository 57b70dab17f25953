import ChunkGraph.Text.Blank
import ChunkGraph.Text.Width

/-!
# Wrapping texts

A text is wrapped to a width by words, each together with the blanks behind it.
A word that does not fit into what is left of a line begins a new one. One that
fits into no line is cut into several, or stands on a line of its own that is
too long and is cut off with a mark at its end.

## Main definitions

* `spacedWords` — the words of a text with their blanks.
* `Overflow` — what becomes of words that fit into no line.
* `wrapLine` — the lines that a line becomes.
-/

namespace ChunkGraph.Text

/-- What becomes of a word that fits into no line. -/
inductive Overflow where
  /-- It is cut into several. -/
  | fold
  /-- It is cut off. -/
  | mark
  deriving DecidableEq, Repr

/-! ## Words -/

/-- The words still to come, after the characters of `word`, the last one first; `ended` says that
these are a word and blanks. -/
def spacedWordsFrom (word : List Char) (ended : Bool) : List Char → List (List Char)
  | [] => if word.all isBlank then [] else [word.reverse]
  | c :: rest =>
      if isBlank c then spacedWordsFrom (c :: word) (ended || !word.all isBlank) rest
      else if ended then word.reverse :: spacedWordsFrom [c] false rest
      else spacedWordsFrom (c :: word) false rest

/-- The words of a text, each with the blanks behind it, the first also with those before it. -/
def spacedWords (text : List Char) : List (List Char) := spacedWordsFrom [] false text

/-- The pieces of a word that each fit into a width, after the characters of `piece`, the last one
first, which take `taken` columns. -/
def piecesFrom (limit : Nat) (piece : List Char) (taken : Nat) : List Char → List (List Char)
  | [] => [piece.reverse]
  | c :: rest =>
      if limit < taken + columns c then piece.reverse :: piecesFrom limit [c] (columns c) rest
      else piecesFrom limit (c :: piece) (taken + columns c) rest

/-! ## Lines -/

/-- Lines that are being filled: the last one, those before it with the last of them first, and the
columns that count as taken. -/
structure Filling where
  /-- The last line. -/
  line : List Char := []
  /-- The lines before it. -/
  full : List (List Char) := []
  /-- The columns taken in the last line. -/
  taken : Nat := 0

/-- The lines of a filling. -/
def Filling.lines (f : Filling) : List (List Char) := (f.line :: f.full).reverse

/-- A filling with one more line, unless nothing has been filled in yet. -/
def Filling.begin (f : Filling) (line : List Char) : Filling :=
  if f.line.isEmpty && f.full.isEmpty then { line, taken := width line }
  else { line, full := f.line :: f.full, taken := width line }

/-- A filling with one more word. -/
def Filling.add (limit : Nat) (overflow : Overflow) (f : Filling) (word : List Char) : Filling :=
  let needed := width (trimRight word)
  if f.taken + needed ≤ limit then
    { f with line := f.line ++ word, taken := f.taken + width word }
  else if limit < needed && overflow == .fold then
    (piecesFrom limit [] 0 word).foldl Filling.begin f
  else f.begin word

/-- The line without the blanks at its end that stand beyond a number of characters. -/
def trimBeyond (limit : Nat) (line : List Char) : List Char :=
  let blanks := line.length - (trimRight line).length
  line.take (line.length - min blanks (line.length - limit))

/-- A line cut off at a width. -/
def cutLine (limit : Nat) (overflow : Overflow) (line : List Char) : List Char :=
  if width line ≤ limit then line
  else
    match overflow with
    | .fold => cutToWidth limit line
    | .mark => cutToWidth (limit - 1) line ++ ['…']

/-- The lines that a line becomes in a width. -/
def wrapLine (limit : Nat) (overflow : Overflow) (line : List Char) : List (List Char) :=
  let line := expandTabs line
  let lines :=
    match spacedWords line with
    | [] => [line]
    | words => (words.foldl (Filling.add limit overflow) {}).lines
  lines.map fun line => cutLine limit overflow (trimBeyond limit line)

end ChunkGraph.Text
