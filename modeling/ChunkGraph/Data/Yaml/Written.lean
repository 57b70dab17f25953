import ChunkGraph.Data.Yaml.Place

/-!
# Texts written in YAML

A text is written plainly, between quotes, or as an indented block. A line end
inside a plain or quoted text, or inside a folded block, stands for a blank;
further line ends behind it stand for themselves. Double quotes admit escapes.

Each reader starts at a place and gives the text and the place behind it. The
readers that walk over several lines are given the length of the text as fuel:
they take at least one character with every step.

## Main definitions

* `readQuoted` — a text between quotes.
* `readBlockText` — an indented block.
* `readPlain` — a plain text.
-/

namespace ChunkGraph.Data.Yaml

/-- What the ends of lines stand for: the first, and those behind it. -/
def folded (first : Char) (more : List Char) : List Char :=
  if first != '\n' then first :: more else if more.isEmpty then [' '] else more

/-! ## Between quotes -/

/-- The escapes of one letter in double quotes. -/
def escapes : List (Char × Nat) :=
  [('0', 0), ('a', 7), ('b', 8), ('t', 9), ('\t', 9), ('n', 10), ('v', 11), ('f', 12), ('r', 13),
    ('e', 27), (' ', 32), ('\"', 34), ('/', 47), ('\\', 92), ('N', 0x85), ('_', 0xA0),
    ('L', 0x2028), ('P', 0x2029)]

/-- The number of hexadecimal digits behind an escape letter. -/
def escapeWidth? (c : Char) : Option Nat :=
  if c == 'x' then some 2 else if c == 'u' then some 4 else if c == 'U' then some 8 else none

/-- The greatest code that a code may be read as. -/
def greatestCode : Nat := 0x7FFFFFFF

/-- The character of an escape code; half of a surrogate pair stands for no character. -/
def charOfCode (code : Nat) : Except Failure Char :=
  if greatestCode < code then .error .codeTooLarge
  else if 0x10FFFF < code then .error .codeOutOfRange
  else .ok (if 0xD800 ≤ code && code < 0xE000 then Char.ofNat 0xFFFD else Char.ofNat code)

/-- The ends of lines from the start of a line on; a document may not end there. -/
def quotedBreaks : Nat → Place → Except Failure (List Char × Place)
  | 0, _ => .error .malformedYaml
  | fuel + 1, p =>
      if p.atMarker then .error .malformedYaml
      else
        let q := p.skipWhile fun c => c == ' ' || c == '\t'
        match q.takeBreak? with
        | none => .ok ([], q)
        | some (c, next) => (quotedBreaks fuel next).map fun (breaks, next) => (c :: breaks, next)

/-- What blanks and ends of lines stand for, and the place behind them. -/
def quotedGap (fuel : Nat) (p : Place) : Except Failure (List Char × Place) :=
  let (blanks, q) := p.takeWhile fun c => c == ' ' || c == '\t'
  match q.takeBreak? with
  | none => .ok (blanks, q)
  | some (c, next) => (quotedBreaks fuel next).map fun (breaks, next) => (folded c breaks, next)

/-- What the escape behind a backslash stands for, and the place behind it. -/
def readEscape (fuel : Nat) (p : Place) : Except Failure (List Char × Place) :=
  match p.rest with
  | [] => .error .malformedYaml
  | c :: digits =>
      match escapes.lookup c, escapeWidth? c, p.takeBreak? with
      | some code, _, _ => .ok ([Char.ofNat code], p.next)
      | none, some width, _ =>
          match Text.inBase? 16 (digits.take width) with
          | some code =>
              if (digits.take width).length == width then
                (charOfCode code).map fun char => ([char], p.skip (1 + width))
              else .error .malformedYaml
          | none => .error .malformedYaml
      | none, none, some (_, next) => quotedBreaks fuel next
      | none, none, none => .error .malformedYaml

/-- A text between quotes, from behind the opening one; `done` is read already, last first. -/
def readQuoted (double : Bool) : Nat → List Char → Place → Except Failure (List Char × Place)
  | 0, _, _ => .error .malformedYaml
  | fuel + 1, done, p =>
      match p.rest with
      | [] => .error .malformedYaml
      | c :: rest =>
          if !double && c == '\x27' then
            if rest.head? == some '\x27' then readQuoted double fuel ('\x27' :: done) (p.skip 2)
            else .ok (done.reverse, p.next)
          else if double && c == '\"' then .ok (done.reverse, p.next)
          else if double && c == '\\' then
            match readEscape (fuel + 1) p.next with
            | .ok (chars, next) => readQuoted double fuel (chars.reverse ++ done) next
            | .error failure => .error failure
          else if isGap c then
            match quotedGap (fuel + 1) p with
            | .ok (chars, next) => readQuoted double fuel (chars.reverse ++ done) next
            | .error failure => .error failure
          else readQuoted double fuel (c :: done) p.next

/-! ## Indented blocks -/

/-- What happens to the ends of lines at the end of a block. -/
inductive Chomping where
  /-- The last line keeps its end. -/
  | clip
  /-- All are dropped. -/
  | strip
  /-- All are kept. -/
  | keep
  deriving DecidableEq, Repr

/-- The chomping that a sign stands for. -/
def chomping? (c : Char) : Option Chomping :=
  if c == '+' then some .keep else if c == '-' then some .strip else none

/-- The number of columns that a digit stands for; none of them is zero. -/
def increment? (c : Char) : Option Nat := (Text.baseDigit? 10 c).filter (0 < ·)

/-- The chomping and the number of columns at the head of a block, in either order, and the place
behind them. -/
def readBlockHead (p : Place) : Except Failure (Chomping × Option Nat × Place) :=
  let digit (q : Place) : Option Nat × Place :=
    match q.rest.head?.bind increment? with
    | some n => (some n, q.next)
    | none => (none, q)
  let sign (q : Place) : Option Chomping × Place :=
    match q.rest.head?.bind chomping? with
    | some chomping => (some chomping, q.next)
    | none => (none, q)
  let (chomping, columns, q) := match sign p with
    | (some chomping, q) =>
        let (columns, q) := digit q
        (chomping, columns, q)
    | (none, _) =>
        match digit p with
        | (some n, q) =>
            let (chomping, q) := sign q
            (chomping.getD .clip, some n, q)
        | (none, q) => (.clip, none, q)
  if endsOr isSpaceOrBreak q.rest then .ok (chomping, columns, q) else .error .malformedYaml

/-- The ends of lines at the start of a block of unknown depth, and the furthest column reached by
blanks among them. -/
def openingBreaks : Nat → Nat → Place → List Char × Nat × Place
  | 0, furthest, p => ([], furthest, p)
  | fuel + 1, furthest, p =>
      match p.takeBreak?, p.rest with
      | some (c, next), _ =>
          let (breaks, furthest, next) := openingBreaks fuel furthest next
          (c :: breaks, furthest, next)
      | none, ' ' :: _ => openingBreaks fuel (max furthest p.next.column) p.next
      | none, _ => ([], furthest, p)

/-- The place behind the blanks that lead to a column. -/
def skipIndent (indent : Nat) (p : Place) : Place :=
  p.skip ((p.rest.take (indent - p.column)).takeWhile (· == ' ')).length

/-- The ends of lines between two lines of a block, and the place behind the indentation. -/
def blockBreaks (indent : Nat) : Nat → Place → List Char × Place
  | 0, p => ([], p)
  | fuel + 1, p =>
      let q := skipIndent indent p
      match q.takeBreak? with
      | some (c, next) =>
          let (breaks, next) := blockBreaks indent fuel next
          (c :: breaks, next)
      | none => ([], q)

/-- What stands between two lines of a block. -/
def blockGap (fold : Bool) (line : List Char) (ending : Char) (next : Place) (breaks : List Char) :
    List Char :=
  let plain (text : List Char) : Bool := !(text.head? == some ' ' || text.head? == some '\t')
  if fold && ending == '\n' && plain line && plain next.rest then
    if breaks.isEmpty then [' '] else []
  else [ending]

/-- What stands at the end of a block. -/
def blockTail (chomping : Chomping) (ending : Option Char) (breaks : List Char) : List Char :=
  match chomping with
  | .strip => []
  | .clip => ending.toList
  | .keep => ending.toList ++ breaks

/-- The lines of a block from a place on, with the ends of lines in front of it. -/
def readLines (fold : Bool) (chomping : Chomping) (indent : Nat) :
    Nat → List Char → Place → List Char × Place
  | 0, _, p => ([], p)
  | fuel + 1, breaks, p =>
      let (line, q) := p.takeWhile (!isBreak ·)
      match q.takeBreak? with
      | none => (breaks ++ line, q)
      | some (ending, next) =>
          let (more, next) := blockBreaks indent (fuel + 1) next
          if next.column == indent && !next.rest.isEmpty then
            let (text, last) := readLines fold chomping indent fuel more next
            (breaks ++ line ++ blockGap fold line ending next more ++ text, last)
          else (breaks ++ line ++ blockTail chomping (some ending) more, next)

/-- The text of a block from behind its indicator, inside a block indented by `parent`. -/
def readBlockText (fold : Bool) (parent : Int) (p : Place) :
    Except Failure (List Char × Place) := do
  let (chomping, columns, p) ← readBlockHead p
  let p ← p.skipEmptyLine
  let least := (max (parent + 1) 1).toNat
  let fuel := p.rest.length + 1
  let (breaks, indent, p) := match columns with
    | some n =>
        let indent := least + n - 1
        let (breaks, p) := blockBreaks indent fuel p
        (breaks, indent, p)
    | none =>
        let (breaks, furthest, p) := openingBreaks fuel 0 p
        (breaks, max least furthest, p)
  if p.column == indent && !p.rest.isEmpty then
    return readLines fold chomping indent fuel breaks p
  else return (blockTail chomping none breaks, p)

/-! ## Plain texts -/

/-- The text of a plain scalar goes on with this character. -/
def inPlain (flow : Bool) (c : Char) (rest : List Char) : Bool :=
  !isGap c && !(flow && (c == '?' || isFlowIndicator c)) &&
    !(c == ':' && (atGap rest || (flow && (rest.head?.map isFlowIndicator) == some true)))

/-- The run of a plain scalar up to the next gap or end. -/
def plainRun (flow : Bool) : List Char → List Char
  | [] => []
  | c :: rest => if inPlain flow c rest then c :: plainRun flow rest else []

/-- The ends of lines behind the first, and the place behind them; none if a document ends. -/
def plainBreaks : Nat → Place → Option (List Char) × Place
  | 0, p => (none, p)
  | fuel + 1, p =>
      if p.atMarker then (none, p)
      else
        let q := p.skipSpaces
        match q.takeBreak? with
        | none => (some [], q)
        | some (c, next) =>
            let (breaks, next) := plainBreaks fuel next
            (breaks.map (c :: ·), next)

/-- A plain text, the place behind it, and whether a line has ended in between. -/
structure PlainText where
  /-- The text. -/
  text : List Char
  /-- The place behind it and the gap that follows it. -/
  place : Place
  /-- A line ends in that gap. -/
  lineEnded : Bool

/-- A plain text from its next run on; `gap` stands between what is read and that run. -/
def readPlain (flow : Bool) (indent : Int) : Nat → List Char → List Char → Place → PlainText
  | 0, done, _, p => ⟨done, p, false⟩
  | fuel + 1, done, gap, p =>
      let run := plainRun flow p.rest
      let done := done ++ gap ++ run
      let p := p.skip run.length
      let (blanks, q) := p.takeWhile (· == ' ')
      let (gap?, next, lineEnded) := match q.takeBreak? with
        | none => (if blanks.isEmpty then none else some blanks, q, false)
        | some (c, next) =>
            let (breaks, next) := plainBreaks (fuel + 1) next
            (breaks.map (folded c), next, true)
      match gap? with
      | none => ⟨done, next, lineEnded⟩
      | some gap =>
          if next.rest.head? == some '#' || (!flow && (next.column : Int) ≤ indent) ||
              (plainRun flow next.rest).isEmpty then ⟨done, next, lineEnded⟩
          else readPlain flow indent fuel done gap next

end ChunkGraph.Data.Yaml
