import ChunkGraph.Chunk.Merge

/-!
# Putting chunks together

The chunks of a file are put together in the order of their first lines, those
that reach further first. A chunk that lies within what has been put out already
is passed over. The lines between two chunks are kept if there are few of them
and they are not blank. Blank lines separate the parts. A greatest number of
lines that is no number is found out as soon as two chunks have lines between
them.

## Main definitions

* `LineRange.overlaps` — a chunk has lines in a range.
* `assemble` — the text of the chunks of a file.
* `gapFault?` — why they cannot be put together, if they cannot.
-/

namespace ChunkGraph

/-- The chunk has lines in the range; an empty range has none. -/
def LineRange.overlaps (range : LineRange) (chunk : Chunk) : Bool :=
  decide (range.start ≤ range.stop) && decide (range.start ≤ chunk.endLine) &&
    decide (chunk.startLine ≤ range.stop)

/-- The first chunk comes before the second or has the same place. -/
def Chunk.comesFirst (a b : Chunk) : Bool :=
  decide (a.startLine < b.startLine) ||
    (a.startLine == b.startLine && decide (b.endLine ≤ a.endLine))

/-- The greatest number of lines between two chunks that is kept. -/
def standardGap : Bound := 20

/-- The lines from `last`, which are out already, up to a chunk, if they are few and not blank. -/
def gapText? (lines : List (List Char)) (maxGap : Bound) (last : Int) (chunk : Chunk) :
    Option String :=
  let gap := chunk.startLine - last - 1
  let text := Text.joinLines (Text.slice lines last (chunk.startLine - 1))
  if 0 < gap && maxGap.admits (.whole gap) && !Text.allBlank text then some (String.ofList text)
  else none

/-- The parts from the next chunk on, when the lines up to `last` are out already. -/
def parts (lines : List (List Char)) (maxGap : Bound) : Int → List Chunk → List String
  | _, [] => []
  | last, chunk :: rest =>
      if chunk.endLine ≤ last then parts lines maxGap last rest
      else
        (gapText? lines maxGap last chunk).toList ++
          chunk.content.getD (linesText lines chunk.startLine chunk.endLine) ::
            parts lines maxGap (max last chunk.endLine) rest

/-- Some chunk from the next one on has lines in front of it, when the lines up to `last` are out
already. -/
def hasGap : Int → List Chunk → Bool
  | _, [] => false
  | last, chunk :: rest =>
      if chunk.endLine ≤ last then hasGap last rest
      else decide (0 < chunk.startLine - last - 1) || hasGap (max last chunk.endLine) rest

/-- Why the chunks of a file cannot be put together, if they cannot. -/
def gapFault? (chunks : List Chunk) (maxGap : Bound) : Option Failure :=
  if hasGap 0 (chunks.mergeSort Chunk.comesFirst) then maxGap.fault? "<=" Bound.countType else none

/-- The text of the chunks of a file with a given source. -/
def assemble (chunks : List Chunk) (source : String) (maxGap : Bound) : String :=
  String.intercalate "\n\n"
    (parts (Text.splitLines source.toList) maxGap 0 (chunks.mergeSort Chunk.comesFirst))

end ChunkGraph
