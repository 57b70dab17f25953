import ChunkGraph.Chunk.Identity
import ChunkGraph.Chunk.Options
import ChunkGraph.Chunk.Tokens
import ChunkGraph.Text.Lines

/-!
# Merging small chunks

A small chunk of a kind that need not stand on its own is folded into the chunk
before it, as long as both are of such a kind, stand in the same file under the
same parent, and the result does not grow too large. The chunk before keeps its
identity and its name; it takes over the end, the members and the dependencies
of the chunk that is folded into it.

Bounds that are no numbers are found out when two chunks are to be compared with
them. Until then nothing has been merged, so it is enough to look at neighbours.

## Main definitions

* `Chunk.estimatedSize` — the size that merging goes by.
* `Chunk.isMergeable` — the kinds that need not stand on their own.
* `canMerge`, `absorb` — when two neighbours are merged, and what results.
* `mergeSmall` — the chunks of a file after merging.
* `mergeFault?` — why chunks cannot be merged, if they cannot.
-/

namespace ChunkGraph

/-- Tokens charged for a line of a chunk of which nothing else is known. -/
def tokensPerLine : Int := 4

/-- The kinds that always stand on their own. -/
def ChunkKind.structural : List ChunkKind :=
  [.methodDecl, .functionDecl, .classDecl, .interfaceDecl, .enumDecl, .typeAliasDecl,
    .namespaceDecl, .topLevelDecl]

namespace Chunk

/-- The number of tokens if it is known, else an estimate by the text, else one by the lines. -/
def estimatedSize (chunk : Chunk) : Int :=
  match chunk.tokenCount, chunk.content with
  | some n, _ => n
  | none, some text => estimateTokens text
  | none, none => chunk.lineCount * tokensPerLine

/-- The chunk need not stand on its own. -/
def isMergeable (chunk : Chunk) : Bool := !ChunkKind.structural.contains chunk.kind

end Chunk

/-- The chunks are of kinds that may be merged and stand in the same place. -/
def areNeighbours (previous current : Chunk) : Bool :=
  previous.isMergeable && current.isMergeable && previous.filePath == current.filePath &&
    previous.parentId == current.parentId

/-- The chunk is below the size from which on chunks are left alone. -/
def isSmall (options : Options) (chunk : Chunk) : Bool :=
  !options.minChunkSize.reachedBy (.whole chunk.estimatedSize)

/-- Both chunks together are not too large. -/
def fitTogether (options : Options) (previous current : Chunk) : Bool :=
  options.chunkSize.admits (.whole (previous.estimatedSize + current.estimatedSize))

/-- The second chunk is folded into the first. -/
def canMerge (options : Options) (previous current : Chunk) : Bool :=
  areNeighbours previous current && isSmall options current && fitTogether options previous current

/-- Why it cannot be said whether the second chunk is folded into the first, if it cannot. -/
def pairFault? (options : Options) (previous current : Chunk) : Option Failure :=
  if !areNeighbours previous current then none
  else
    match options.minChunkSize.fault? ">=" Bound.countType with
    | some failure => some failure
    | none =>
        if isSmall options current then options.chunkSize.fault? "<=" Bound.countType else none

/-- Why chunks cannot be merged, if they cannot. -/
def mergeFault? (options : Options) : List Chunk → Option Failure
  | previous :: current :: rest =>
      match pairFault? options previous current with
      | some failure => some failure
      | none => mergeFault? options (current :: rest)
  | _ => none

/-- The list followed by those of the other items that it does not have yet. -/
def appendNew {α : Type} [BEq α] (items more : List α) : List α :=
  more.foldl (fun items item => if items.contains item then items else items ++ [item]) items

/-- The text of the lines from `start` to `stop`. -/
def linesText (lines : List (List Char)) (start stop : Int) : String :=
  String.ofList (Text.joinLines (Text.slice lines (start - 1) stop))

/-- The text of two chunks in one, if it can be told: by the lines of the file, or else by the
texts of both. -/
def mergedText? (lines : Option (List (List Char))) (previous current : Chunk) : Option String :=
  match lines, previous.content, current.content with
  | some lines, _, _ => some (linesText lines previous.startLine current.endLine)
  | none, some first, some second => some (first ++ "\n" ++ second)
  | none, _, _ => none

/-- The first chunk after the second has been folded into it. -/
def absorb (lines : Option (List (List Char))) (previous current : Chunk) : Chunk :=
  let text? := mergedText? lines previous current
  { previous with
    endLine := current.endLine
    range := ⟨previous.range.start, current.range.stop⟩
    childrenIds := appendNew previous.childrenIds current.childrenIds
    dependencies := appendNew previous.dependencies current.dependencies
    hash := match text? with
      | some text => chunkHash text previous.filePath previous.startLine current.endLine
      | none => previous.hash
    content := match previous.content, text? with
      | some _, some text => some text
      | content, _ => content
    tokenCount := some (previous.estimatedSize + current.estimatedSize) }

/-- The chunks from `previous` on, into which its successors may still be folded. -/
def mergeFrom (options : Options) (lines : Option (List (List Char))) :
    Chunk → List Chunk → List Chunk
  | previous, [] => [previous]
  | previous, current :: rest =>
      if canMerge options previous current then
        mergeFrom options lines (absorb lines previous current) rest
      else previous :: mergeFrom options lines current rest

/-- The chunks of a file, small neighbours merged; `source` is the text of the file. -/
def mergeSmall (options : Options) (source : Option String) : List Chunk → List Chunk
  | [] => []
  | first :: rest => mergeFrom options (source.map fun s => Text.splitLines s.toList) first rest

end ChunkGraph
