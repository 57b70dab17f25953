import ChunkGraph.Data.Inline
import ChunkGraph.Failure
import ChunkGraph.Path.Glob

/-!
# Lines of patterns

A pattern is written on a line, by the rules of ignore files: a pattern without
a slash, or with one at its end only, applies at every depth; a slash at the end
asks for a directory; `**` stands for any directories; a pattern also takes
everything below what it matches. Blanks at the end do not count, a line that
begins with `#` is a comment, and `!` in front takes files back out.

A line whose set of characters is not closed matches nothing. A line that is
nothing but a mark, or that ends in an escape, is at fault, and so is a set with
a range that ends before it begins.

## Main definitions

* `Glob.segmentParts` — the parts of one segment.
* `Glob.formOf` — what a line without its mark matches.
* `Glob.compile` — the pattern that a line stands for.
* `Glob.readPatterns` — which paths a list of lines takes in.
-/

namespace ChunkGraph.Glob

open Data

/-- Why a segment cannot be read. -/
inductive Misread where
  /-- It ends in an escape, or there is nothing to be read. -/
  | malformed
  /-- A set of characters is not closed. -/
  | unclosed
  deriving DecidableEq, Repr

/-! ## Segments -/

/-- A set of characters behind its opening bracket, and what follows it, if it is closed. -/
def set? (text : List Char) : Option (Part × List Char) :=
  let (negated, body) := match text with
    | '!' :: rest => (true, rest)
    | '^' :: rest => (true, rest)
    | _ => (false, text)
  let (first, rest) := match body with
    | ']' :: rest => ([']'], rest)
    | _ => ([], body)
  (Text.cutAtFirst ']' rest).map fun (inside, behind) => (.set negated (first ++ inside), behind)

/-- The parts of a segment; the number is at least that of its characters. -/
def partsWithin : Nat → List Char → Except Misread (List Part)
  | 0, _ => .ok []
  | _, [] => .ok []
  | _ + 1, ['\\'] => .error .malformed
  | n + 1, '\\' :: c :: rest => (partsWithin n rest).map (.char c :: ·)
  | n + 1, '*' :: rest => (partsWithin n rest).map (.many :: ·)
  | n + 1, '?' :: rest => (partsWithin n rest).map (.one :: ·)
  | n + 1, '[' :: rest =>
      match set? rest with
      | some (part, behind) => (partsWithin n behind).map (part :: ·)
      | none => .error .unclosed
  | n + 1, c :: rest => (partsWithin n rest).map (.char c :: ·)

/-- The parts of a segment. -/
def segmentParts (segment : List Char) : Except Misread (List Part) :=
  if segment == ['*'] then .ok [.segment] else partsWithin segment.length segment

/-! ## Lists of segments -/

/-- The segment that stands for any directories. -/
def anyDepth : List Char := ['*', '*']

/-- The segments relative to the directory: a pattern with no slash but at its end applies at every
depth. -/
def anchored : List (List Char) → List (List Char)
  | [] :: rest => rest
  | [s] => if s == anyDepth then [s] else [anyDepth, s]
  | [s, []] => if s == anyDepth then [s, []] else [anyDepth, s, []]
  | segments => segments

/-- A slash at the end asks for everything below. -/
def deepened (segments : List (List Char)) : List (List Char) :=
  if segments.getLast? == some [] then segments.dropLast ++ [anyDepth] else segments

/-- Neighbouring `**` segments made one. -/
def mergeAnyDepth : List (List Char) → List (List Char)
  | a :: b :: rest =>
      if a == anyDepth && b == anyDepth then mergeAnyDepth (b :: rest)
      else a :: mergeAnyDepth (b :: rest)
  | segments => segments

/-- The slash before a segment, where there is one. -/
def slashIf (there : Bool) : List Part := if there then [.char '/'] else []

/-- The parts of the segments from one on; `slash` says whether a slash comes before it. -/
def partsFrom : Bool → List (List Char) → Except Misread (List Part)
  | _, [] => .ok []
  | slash, [s] =>
      if s == anyDepth then .ok [.char '/']
      else (segmentParts s).map fun parts => slashIf slash ++ parts ++ [.endOrBelow]
  | slash, s :: rest =>
      if s == anyDepth then (partsFrom true rest).map (.inner :: ·)
      else do
        let parts ← segmentParts s
        return slashIf slash ++ parts ++ (← partsFrom true rest)

/-- What segments match. -/
def formOfSegments (asksDirectory : Bool) (segments : List (List Char)) : Except Misread Form :=
  match segments with
  | [] => .error .malformed
  | first :: rest =>
      if first == anyDepth && rest.isEmpty then .ok (if asksDirectory then .nested else .everything)
      else if first == anyDepth && rest == [['*']] then .ok .everything
      else if first == anyDepth && rest == [['*'], anyDepth] then .ok .nested
      else if first == anyDepth then
        (partsFrom false rest).map fun parts => .sequence (.leading :: parts)
      else (partsFrom false segments).map .sequence

/-- What a line without its mark matches. -/
def formOf (body : List Char) : Except Misread Form :=
  let segments := Text.splitOn '/' body
  formOfSegments (segments.getLast? == some []) (mergeAnyDepth (deepened (anchored segments)))

/-! ## Ranges that end before they begin -/

/-- The first range that ends before it begins, and the length of what is written before it. -/
def emptyRange? : List Char → Option (Char × Char × Nat)
  | a :: '-' :: b :: rest =>
      if b < a then some (a, b, 0)
      else
        (emptyRange? rest).map fun (first, last, n) =>
          (first, last, (writtenInside [a, '-', b]).length + n)
  | a :: rest =>
      (emptyRange? rest).map fun (first, last, n) => (first, last, (writtenInside [a]).length + n)
  | [] => none

/-- A position in a text in words; in a text of several lines with its line and column. -/
def placeText (text : List Char) (position : Nat) : String :=
  let before := text.take position
  Number.integerText position ++
    if text.contains '\n' then
      " (line " ++ Number.integerText (before.count '\n' + 1) ++ ", column " ++
        Number.integerText ((before.reverse.takeWhile (· != '\n')).length + 1) ++ ")"
    else ""

/-- The first range of some parts that ends before it begins, `whole` being written in all and
`position` of it before the parts. -/
def rangeFault? (whole : List Char) : Nat → List Part → Option Failure
  | _, [] => none
  | position, part :: parts =>
      let here := match part with
        | .set negated inside =>
            (emptyRange? inside).map fun (first, last, n) =>
              Failure.emptyCharacterRange first last
                (placeText whole (position + (openingOf negated).length + n))
        | _ => none
      here.or (rangeFault? whole (position + part.written.length) parts)

/-- What is wrong with the sets of a form, if anything is. -/
def Form.fault? : Form → Option Failure
  | .sequence parts => rangeFault? (written parts) 1 parts
  | _ => none

/-! ## Lines -/

/-- The line without blanks at its end, unless the last of them is escaped. -/
def dropTrailing (line : List Char) : List Char :=
  if Text.endsWith ['\\', ' '] line then line else Text.trimRight line

/-- The pattern of a line without its mark, if it matches anything. -/
def compileBody (line : String) (keeps : Bool) (body : List Char) :
    Except Failure (Option Pattern) :=
  match formOf body with
  | .error .malformed => .error (.malformedPattern line)
  | .error .unclosed => .ok none
  | .ok form =>
      match form.fault? with
      | some failure => .error failure
      | none => .ok (some ⟨keeps, form⟩)

/-- The pattern that a line stands for; none for blank lines, comments and lines that match
nothing. -/
def compile (line : String) : Except Failure (Option Pattern) :=
  match dropTrailing line.toList with
  | [] => .ok none
  | '#' :: _ => .ok none
  | ['/'] => .ok none
  | '!' :: body => compileBody line false body
  | body => compileBody line true body

/-! ## Lists of lines -/

/-- The pattern that an item of a list stands for, if it stands for any. -/
def patternOf (item : Value) : Except Failure (Option Pattern) :=
  if item.isFalsy then .ok none
  else
    match item with
    | .text line => compile line
    | item => .error (.misuse (.noPattern item.cited))

/-- The patterns of a list; of a table its keys are the items. -/
def patternsOf (given : Value) : Except Failure (List Pattern) :=
  match given with
  | .list items => items.filterMapM patternOf
  | .table entries => entries.filterMapM fun (key, _) => patternOf (.scalar key)
  | given => .error (.misuse (.noPatterns given.cited))

/-- Which paths a list of lines takes in, or what is wrong with it. -/
def readPatterns (given : Value) : Except Failure (String → Bool) :=
  (patternsOf given).map selects

end ChunkGraph.Glob
