import ChunkGraph.Data.Bound

/-!
# Options of a chunking run

The sizes bound the merging of small chunks, the switches say what is kept, and
the rest sets up the store of parsed trees and the pool of front ends. Sizes are
bounds as they were given: nothing stops a caller from asking for a negative
one, for one with a fraction, or for something that is no number.

## Main definitions

* `Options` — the options, with the values they have by default.
-/

namespace ChunkGraph

/-- Options of a chunking run. -/
structure Options where
  /-- Greatest size of a merged chunk, in tokens. -/
  chunkSize : Bound := 512
  /-- The members of classes, namespaces and option blocks are chunks of their own. -/
  includeNested : Bool := true
  /-- Small neighbours are merged. -/
  mergeSmall : Bool := true
  /-- Chunks below this size are candidates for merging. -/
  minChunkSize : Bound := 50
  /-- Chunks keep their text. -/
  includeContent : Bool := false
  /-- Front ends kept for each key. -/
  poolSize : Bound := 5
  /-- Seconds for which a parsed tree stays valid. -/
  treeLifetime : Bound := 300
  /-- Greatest number of parsed trees kept. -/
  treeCapacity : Bound := 1000
  /-- The way of counting tokens, by name. -/
  tokenizer : String := "estimate"
  deriving Repr, Inhabited

end ChunkGraph
