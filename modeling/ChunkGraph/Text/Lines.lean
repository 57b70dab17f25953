import ChunkGraph.Text.Blank

/-!
# Lines of a text

Two notions of line are in use. Tree positions count rows by the line feed
alone; everything that cuts a file into lines for a reader ends a line at any
of the ten line breaks below, a carriage return followed by a line feed being
one break. A text that ends in a break has no empty line after it.

## Main definitions

* `splitLines` — the lines of a text, without their breaks.
* `joinLines` — lines joined by line feeds.
* `unifyNewlines` — every carriage return, with or without a line feed behind
  it, becomes a line feed.
* `slice` — a part of a list between two bounds, where a negative bound counts
  from the end.
-/

namespace ChunkGraph.Text

/-- The character ends a line. -/
def isLineBreak (c : Char) : Bool :=
  let n := c.toNat
  (10 ≤ n && n ≤ 13) || (28 ≤ n && n ≤ 30) || n == 0x85 || n == 0x2028 || n == 0x2029

/-- The lines still to come, after the characters of `line`, last one first. -/
def splitLinesFrom (line : List Char) : List Char → List (List Char)
  | [] => if line.isEmpty then [] else [line.reverse]
  | '\r' :: '\n' :: rest => line.reverse :: splitLinesFrom [] rest
  | c :: rest =>
      if isLineBreak c then line.reverse :: splitLinesFrom [] rest
      else splitLinesFrom (c :: line) rest

/-- The lines of a text, without the breaks between them. -/
def splitLines (text : List Char) : List (List Char) := splitLinesFrom [] text

/-- The parts of `xs` between the elements equal to `sep`; always at least one part. -/
def splitOn {α : Type} [BEq α] (sep : α) : List α → List (List α)
  | [] => [[]]
  | x :: xs =>
      if x == sep then [] :: splitOn sep xs
      else
        match splitOn sep xs with
        | [] => [[x]]
        | part :: parts => (x :: part) :: parts

/-- The parts joined by `sep`. -/
def join {α : Type} (sep : List α) : List (List α) → List α
  | [] => []
  | [part] => part
  | part :: parts => part ++ sep ++ join sep parts

/-- Lines joined by line feeds. -/
def joinLines (lines : List (List Char)) : List Char := join ['\n'] lines

/-- Every carriage return becomes a line feed, and so does one followed by a line feed. -/
def unifyNewlines : List Char → List Char
  | [] => []
  | '\r' :: '\n' :: rest => '\n' :: unifyNewlines rest
  | c :: rest => (if c == '\r' then '\n' else c) :: unifyNewlines rest

/-- Number of line feeds. -/
def lineFeeds (text : List Char) : Nat := text.count '\n'

/-- A bound of a slice of `size` elements: negative bounds count from the end. -/
def bound (size : Nat) (i : Int) : Nat :=
  if i < 0 then (i + size).toNat else min i.toNat size

/-- The elements from `start` up to, not including, `stop`. -/
def slice {α : Type} (xs : List α) (start stop : Int) : List α :=
  (xs.take (bound xs.length stop)).drop (bound xs.length start)

@[simp] theorem splitLines_nil : splitLines [] = [] := rfl

@[simp] theorem join_nil {α : Type} (sep : List α) : join sep [] = [] := rfl

@[simp] theorem join_singleton {α : Type} (sep part : List α) : join sep [part] = part := rfl

theorem join_cons_cons {α : Type} (sep part next : List α) (parts : List (List α)) :
    join sep (part :: next :: parts) = part ++ sep ++ join sep (next :: parts) := rfl

end ChunkGraph.Text
