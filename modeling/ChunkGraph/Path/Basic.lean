import ChunkGraph.Text.Letter
import ChunkGraph.Text.Search

/-!
# Paths

A path is read as its root, one or two slashes or none, and its segments. The
empty segment and the segment `.` say nothing and are dropped on reading.

Chunks are identified by *normalized* paths: backslashes count as slashes, and
a segment `..` takes back the segment before it. At the front of a path that
has no root there is nothing to take back, so it stays; directly below a root
it is dropped.

## Main definitions

* `Path`, `Path.ofText`, `Path.text` — a path as root and segments.
* `Path.name`, `Path.suffix` — the last segment and its extension.
* `Path.append` — a path below another one.
* `collapse` — the segments after taking back.
* `normalize` — the normalized form of a path's text.
* `joinText`, `directory` — the textual operations that specifiers are
  resolved with.
-/

namespace ChunkGraph

/-- A segment of a path. -/
abbrev Segment := List Char

/-- A path as its root and its segments. -/
structure Path where
  /-- Number of slashes that the path begins with: none, one or two. -/
  root : Nat
  /-- The segments that say something. -/
  segments : List Segment
  deriving DecidableEq, Repr, Inhabited

namespace Path

/-- The segment that names the directory itself. -/
def here : Segment := ['.']

/-- The segment that takes back the one before it. -/
def up : Segment := ['.', '.']

/-- The number of slashes of the root: exactly two stay two, any other number is one. -/
def rootOf (text : List Char) : Nat :=
  match (text.takeWhile (· == '/')).length with
  | 0 => 0
  | 2 => 2
  | _ => 1

/-- The segment says something. -/
def isTelling (segment : Segment) : Bool := !segment.isEmpty && segment != here

/-- A text read as a path. -/
def ofChars (text : List Char) : Path :=
  ⟨rootOf text, (Text.splitOn '/' text).filter isTelling⟩

/-- The written form; a path that says nothing is written as a dot. -/
def chars (path : Path) : List Char :=
  match List.replicate path.root '/' ++ Text.join ['/'] path.segments with
  | [] => here
  | written => written

/-- A text read as a path. -/
def ofText (text : String) : Path := ofChars text.toList

/-- The written form as a `String`. -/
def text (path : Path) : String := String.ofList path.chars

/-- The last segment, empty if there is none. -/
def name (path : Path) : Segment := path.segments.getLast?.getD []

/-- The extension of a name: the last dot and what follows it, unless the dot is the first or last
character. -/
def extension (name : Segment) : Segment :=
  match Text.cutAtLast '.' name with
  | some (_ :: _, d :: behind) => '.' :: d :: behind
  | _ => []

/-- The extension of the last segment. -/
def suffix (path : Path) : Segment := extension path.name

/-- The path starts at a root. -/
def isAbsolute (path : Path) : Bool := path.root != 0

/-- The path of the directory in which a path ends. -/
def parent (path : Path) : Path := ⟨path.root, path.segments.dropLast⟩

/-- `below` taken relative to `path`, unless it has a root of its own. -/
def append (path below : Path) : Path :=
  if below.isAbsolute then below else ⟨path.root, path.segments ++ below.segments⟩

/-- The extension of the last segment of a path's text, in lower case. -/
def lowerSuffix (text : String) : List Char := Text.lower (ofText text).suffix

end Path

/-! ## Normalized paths -/

namespace Path

/-- One more segment on top of the segments kept so far, the last of them first. -/
def push (rooted : Bool) (kept : List Segment) (segment : Segment) : List Segment :=
  if segment != up then segment :: kept
  else
    match kept with
    | [] => if rooted then [] else [up]
    | last :: rest => if last == up then up :: kept else rest

/-- The segments after every `..` has taken back what it can. -/
def collapse (rooted : Bool) (segments : List Segment) : List Segment :=
  (segments.foldl (push rooted) []).reverse

/-- The path with its segments collapsed. -/
def collapsed (path : Path) : Path := ⟨path.root, collapse path.isAbsolute path.segments⟩

/-- Backslashes turned into slashes. -/
def forwardSlashes (text : List Char) : List Char :=
  text.map fun c => if c == '\\' then '/' else c

/-- The normalized form of a path's text; the empty text stays empty. -/
def normalizeChars (text : List Char) : List Char :=
  match forwardSlashes text with
  | [] => []
  | forward => (ofChars forward).collapsed.chars

/-- The normalized form of a path's text. -/
def normalize (text : String) : String := String.ofList (normalizeChars text.toList)

@[simp] theorem collapse_nil (rooted : Bool) : collapse rooted [] = [] := rfl

@[simp] theorem normalizeChars_nil : normalizeChars [] = [] := rfl

/-! ## Textual operations -/

/-- A text placed below a directory's text, unless it starts at the root. -/
def joinText (base below : List Char) : List Char :=
  if below.head? == some '/' then below
  else if base.isEmpty || base.getLast? == some '/' then base ++ below
  else base ++ '/' :: below

/-- What stands before the last slash, without slashes at its end unless there is nothing else. -/
def directory (text : List Char) : List Char :=
  match Text.cutAtLast '/' text with
  | none => []
  | some (before, _) =>
      let head := before ++ ['/']
      if head.all (· == '/') then head else Text.dropWhileRight (· == '/') head

end Path

end ChunkGraph
