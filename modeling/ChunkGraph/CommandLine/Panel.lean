/-!
# Panels

A panel is a frame with a title in its upper edge and rows of two columns in it.
A blank row stands between two rows. The frame is as wide as its content and its
title need.

## Main definitions

* `Panel`, `Panel.render` — panels, and how they are drawn.
* `Panel.cells` — the rows of a panel without its frame.
-/

namespace ChunkGraph.CommandLine

/-- A panel. -/
structure Panel where
  /-- The title. -/
  title : String
  /-- The rows. -/
  rows : List (String × String)
  deriving DecidableEq, Repr

namespace Panel

/-- A text with blanks behind it up to a width. -/
def padTo (width : Nat) (text : String) : String :=
  text ++ String.ofList (List.replicate (width - text.length) ' ')

/-- A line of a character. -/
def line (n : Nat) (c : Char) : String := String.ofList (List.replicate n c)

/-- The greatest length of some texts. -/
def greatest (texts : List String) : Nat := (texts.map String.length).foldl max 0

/-- The width of the first column. -/
def labelWidth (p : Panel) : Nat := greatest (p.rows.map (·.1))

/-- The width inside of the frame, with a blank on both sides. -/
def width (p : Panel) : Nat :=
  max (p.labelWidth + greatest (p.rows.map (·.2)) + 3) (p.title.length + 4)

/-- A row inside of the frame. -/
def drawRow (p : Panel) (label count : String) : String :=
  "│" ++ padTo p.width (" " ++ padTo p.labelWidth label ++ " " ++ count) ++ "│\n"

/-- The rows with blank ones between them. -/
def drawRows (p : Panel) : List (String × String) → List String
  | [] => []
  | [(label, count)] => [p.drawRow label count]
  | (label, count) :: rest => p.drawRow label count :: p.drawRow "" "" :: p.drawRows rest

/-- The panel as text. -/
def render (p : Panel) : String :=
  let left := (p.width - (p.title.length + 2)) / 2
  let right := p.width - (p.title.length + 2) - left
  "╭" ++ line left '─' ++ " " ++ p.title ++ " " ++ line right '─' ++ "╮\n" ++
    String.join (p.drawRows p.rows) ++ "╰" ++ line p.width '─' ++ "╯\n"

/-- The rows without the frame, the title first. -/
def cells (p : Panel) : List (List String) :=
  [p.title] :: p.rows.map fun (label, count) => [label ++ " " ++ count]

end Panel

end ChunkGraph.CommandLine
