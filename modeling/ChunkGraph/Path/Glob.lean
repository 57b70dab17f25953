import ChunkGraph.Text.Search

/-!
# Glob patterns

The patterns that say which files of a directory are taken, as lists of parts.
The parts are matched against the characters of a path by plain recursion with
backtracking. A pattern need not reach to the end of a path: what follows its
last part is free, unless that part asks for the end. Of the patterns that match
a path the last one decides.

Directories are passed over only within a line: the parts that stand for any
directories do not match line feeds, and neither does what may follow the end of
a pattern. A single line feed at the end of a path is passed over.

Every part can be written out as a piece of a regular expression, and the faults
of a pattern are located in that form of it.

## Main definitions

* `Glob.Part`, `Glob.Pattern` — what a pattern consists of.
* `Glob.Part.written` — a part as a piece of a regular expression.
* `Glob.matchParts` — a path begins with what a list of parts matches.
* `Glob.selects` — the decision of a list of patterns.
-/

namespace ChunkGraph.Glob

/-- A part of a pattern. -/
inductive Part where
  /-- That character. -/
  | char (c : Char)
  /-- Any character but a slash. -/
  | one
  /-- Any characters but slashes, perhaps none. -/
  | many
  /-- A character of a set, or outside of it; the set as it is written. -/
  | set (negated : Bool) (inside : List Char)
  /-- A whole segment. -/
  | segment
  /-- Any directories in front, perhaps none. -/
  | leading
  /-- Any directories in between, perhaps none. -/
  | inner
  /-- The end, or a slash and everything behind it. -/
  | endOrBelow
  deriving DecidableEq, Repr

/-- What a pattern matches. -/
inductive Form where
  /-- Every path. -/
  | everything
  /-- Every path with a slash in it. -/
  | nested
  /-- The paths that begin with what the parts match. -/
  | sequence (parts : List Part)
  deriving DecidableEq, Repr

/-- A pattern. -/
structure Pattern where
  /-- It takes files in rather than out. -/
  keeps : Bool
  /-- What it matches. -/
  form : Form
  deriving DecidableEq, Repr

/-! ## Sets -/

/-- The ranges of a set, single characters as ranges of one. -/
def ranges : List Char → List (Char × Char)
  | a :: '-' :: b :: rest => (a, b) :: ranges rest
  | a :: rest => (a, a) :: ranges rest
  | [] => []

/-- The character lies in one of the ranges. -/
def inRanges (ranges : List (Char × Char)) (c : Char) : Bool :=
  ranges.any fun (first, last) => first ≤ c && c ≤ last

/-! ## The written form -/

/-- The characters that have a meaning in regular expressions, and blanks. -/
def special : List Char := "()[]\x7b\x7d?*+-|^$\\.&~# \t\n\r\x0b\x0c".toList

/-- A character that stands for itself. -/
def writtenChar (c : Char) : List Char := if special.contains c then ['\\', c] else [c]

/-- The characters of a set. -/
def writtenInside (inside : List Char) : List Char :=
  inside.flatMap fun c => if c == '\\' then ['\\', '\\'] else [c]

/-- What stands in front of the characters of a set. -/
def openingOf (negated : Bool) : List Char := if negated then ['[', '^'] else ['[']

/-- A part as a piece of a regular expression. -/
def Part.written : Part → List Char
  | .char c => writtenChar c
  | .one => "[^/]".toList
  | .many => "[^/]*".toList
  | .set negated inside => openingOf negated ++ writtenInside inside ++ [']']
  | .segment => "[^/]+".toList
  | .leading => "(?:.+/)?".toList
  | .inner => "(?:/.+)?".toList
  | .endOrBelow => "(?:/.*)?$".toList

/-- Parts as a regular expression. -/
def written (parts : List Part) : List Char := '^' :: parts.flatMap Part.written

/-! ## Matching -/

/-- The ends of the text behind a run of characters of a kind, perhaps none. -/
def behindRun (kind : Char → Bool) : List Char → List (List Char)
  | [] => [[]]
  | c :: rest => (c :: rest) :: (if kind c then behindRun kind rest else [])

/-- The character may stand in a line. -/
def inLine (c : Char) : Bool := c != '\n'

/-- The character may stand in a segment. -/
def inSegment (c : Char) : Bool := c != '/'

/-- What follows each slash in the first line of the text that has something in front of it. -/
def behindSlashes : Bool → List Char → List (List Char)
  | _, [] => []
  | started, c :: rest =>
      if !inLine c then []
      else if started && c == '/' then rest :: behindSlashes true rest
      else behindSlashes true rest

/-- The text ends here, apart from a line feed. -/
def atEnd (text : List Char) : Bool := text.isEmpty || text == ['\n']

/-- The ends of the text behind what the part matches in front. -/
def Part.rests : Part → List Char → List (List Char)
  | .char c, d :: rest => if c == d then [rest] else []
  | .one, d :: rest => if inSegment d then [rest] else []
  | .many, text => behindRun inSegment text
  | .set negated inside, d :: rest => if inRanges (ranges inside) d != negated then [rest] else []
  | .segment, d :: rest => if inSegment d then behindRun inSegment rest else []
  | .leading, text => text :: behindSlashes false text
  | .inner, '/' :: d :: rest =>
    ('/' :: d :: rest) :: (if inLine d then behindRun inLine rest else [])
  | .inner, text => [text]
  | .endOrBelow, '/' :: rest => if atEnd (rest.dropWhile inLine) then [[]] else []
  | .endOrBelow, text => if atEnd text then [[]] else []
  | _, [] => []

/-- The text begins with what the parts match. -/
def matchParts : List Part → List Char → Bool
  | [], _ => true
  | part :: parts, text => (part.rests text).any (matchParts parts)

/-- The path is of the form. -/
def Form.matches : Form → List Char → Bool
  | .everything, path => path.any inLine
  | .nested, path => path.contains '/'
  | .sequence parts, path => matchParts parts path

/-- The decision of patterns on a path: that of the last one that matches it. -/
def decide? (patterns : List Pattern) (path : List Char) : Option Bool :=
  (patterns.reverse.find? fun p => p.form.matches path).map (·.keeps)

/-- The patterns take the path in. -/
def selects (patterns : List Pattern) (path : String) : Bool :=
  (decide? patterns path.toList).getD false

end ChunkGraph.Glob
