import ChunkGraph.Chunk.Merge
import ChunkGraph.Outline.Basic
import ChunkGraph.Pool

/-!
# The chunker

A chunker parses a file with the front end of its language, cuts the
declarations into chunks and merges small ones. Parsed trees are kept in a
cache, gated by the hash of the text, and front ends in a pool; neither shows in
the chunks. A script that has been cut keeps the table of the names it exports
apart from their declarations, and so the tree in the cache has it too.

A file that does not parse has no chunks, and neither has one whose chunks
cannot be counted or kept. Both leave the chunker in order: a miss has been
counted, and the front end is back in the pool. A text that is ill formed has no
hash, so the cache is not asked for it. Cutting fails only where a bound of the
pool or of merging is no number.

## Main definitions

* `Chunker`, `Chunker.create` — a chunker and how one is made.
* `Chunker.chunkCode` — the chunks of a text.
* `Chunker.analyze` — its imports and exports.
-/

namespace ChunkGraph

open Syntax

/-- What cuts files into chunks. -/
structure Chunker where
  /-- The options of calls that bring none. -/
  options : Options := {}
  /-- The way of counting that those options name. -/
  tokenizer : Tokenizer := .estimate
  /-- The encoding whose tokens can be counted. -/
  encoding : Encoding := .unavailable
  /-- The languages. -/
  registry : Registry := .standard
  /-- The rules in use. -/
  rules : List Rule := Rule.all
  /-- The parsed trees that are kept. -/
  trees : Cache Tree := {}
  /-- The front ends that are kept. -/
  pool : Pool FrontEnd := {}

/-- The imports and exports of a file. -/
structure Interface where
  /-- Imports. -/
  imports : List Dependency := []
  /-- Exports. -/
  exports : List Export := []
  deriving DecidableEq, Repr

namespace Chunker

/-- A chunker with the given options; its way of counting must be known. -/
def create (encoding : Encoding) (options : Options) (rules : List Rule) :
    Except Failure Chunker := do
  let tokenizer ← Tokenizer.ofName encoding options.tokenizer
  return { options, tokenizer, encoding, rules,
           trees := { capacity := options.treeCapacity, lifetime := options.treeLifetime }
           pool := { capacity := options.poolSize } }

/-! ## Answers without state -/

/-- The way of counting of a call. -/
def tokenizerFor? (c : Chunker) (options : Options) : Option Tokenizer :=
  if options.tokenizer == c.options.tokenizer then some c.tokenizer
  else (Tokenizer.ofName c.encoding options.tokenizer).toOption

/-- The chunks of a tree before merging; none if they cannot be counted. -/
def cut? (c : Chunker) (frontEnd : FrontEnd) (tree : Tree) (path : String) (options : Options) :
    Option (List Chunk) :=
  match tree.rootCursor? with
  | none => some []
  | some root => do
      let tokenizer ← c.tokenizerFor? options
      let imports := frontEnd.imports tree ⟨root, none⟩
      let ctx : Outline.Context :=
        { frontEnd, tree, filePath := path, options, tokenizer, rules := c.rules, imports }
      let chunks := Outline.outline ctx root
      guard (chunks.all (·.tokenCount.isSome))
      return chunks

/-- The chunks after merging, if that is asked for. -/
def finish (options : Options) (code : String) (chunks : List Chunk) :
    Except Failure (List Chunk) :=
  if options.mergeSmall then
    match mergeFault? options chunks with
    | some failure => .error failure
    | none => .ok (mergeSmall options (some code) chunks)
  else .ok chunks

/-- The chunks of a tree that may have failed to parse. -/
def chunksOf (c : Chunker) (frontEnd : FrontEnd) (tree? : Option Tree) (code path : String)
    (options : Options) : Except Failure (List Chunk) :=
  match tree?.bind fun tree => c.cut? frontEnd tree path options with
  | some chunks => finish options code chunks
  | none => .ok []

/-- The imports and exports of a tree that may have failed to parse. -/
def interfaceOf (frontEnd : FrontEnd) (tree? : Option Tree) : Interface :=
  let found : Option Interface := do
    let tree ← tree?
    let root ← tree.rootCursor?
    let exports ← frontEnd.exports? tree root
    return { imports := frontEnd.imports tree ⟨root, none⟩, exports }
  found.getD {}

/-! ## State -/

/-- A new front end of a kind for a file. -/
def newFrontEnd (kind path : String) : FrontEnd :=
  (FrontEnd.create kind (some path)).toOption.getD (.generic "unknown")

/-- The tree of a text, from the cache or else parsed; a tree that was parsed is kept. Where the
text has no hash or the cache cannot be used there is no tree. -/
def parse (parser : Parser) (now : Number.Quantity) (frontEnd : FrontEnd) (source : SourceText)
    (path : String) (trees : Cache Tree) : Option Tree × Cache Tree :=
  match source with
  | .illFormed => (none, trees)
  | .chars code =>
      if (trees.getFault? path).isSome then (none, trees)
      else
        match trees.get now path (contentHash code) with
        | (some tree, trees) => (some tree, trees)
        | (none, trees) =>
            match frontEnd.parse? parser code path with
            | some tree =>
                if (trees.setFault? path).isSome then (none, trees)
                else (some tree, trees.set now path (contentHash code) tree)
            | none => (none, trees)

/-- The cache after the tree that it holds for a file has been used. -/
def afterUse (leave : Tree → Tree) (path : String) (tree? : Option Tree) (trees : Cache Tree) :
    Cache Tree :=
  if tree?.isSome then trees.change path leave else trees

/-- A file parsed with a front end from the pool, to which it goes back. Using the tree leaves it
changed. -/
def withTree {β : Type} (parser : Parser) (now : Number.Quantity) (c : Chunker)
    (source : SourceText) (path : String) (use : FrontEnd → Option Tree → β)
    (leave : FrontEnd → Tree → Tree) : Except Failure β × Chunker :=
  let kind := FrontEnd.kindFor (c.registry.detectPath path)
  let key := poolKey kind (some path)
  let (kept, pool) := c.pool.take key
  let frontEnd := kept.getD (newFrontEnd kind path)
  let (tree?, trees) := parse parser now frontEnd source path c.trees
  let trees := afterUse (leave frontEnd) path tree? trees
  match pool.releaseFault? with
  | some failure => (.error failure, { c with trees, pool := pool.withShelf key })
  | none => (.ok (use frontEnd tree?), { c with trees, pool := pool.release key frontEnd })

/-- The chunks of a text. -/
def chunkCode (parser : Parser) (now : Number.Quantity) (c : Chunker) (source : SourceText)
    (path : String) (options : Option Options) : Except Failure (List Chunk) × Chunker :=
  let cutTree (frontEnd : FrontEnd) (tree? : Option Tree) : Except Failure (List Chunk) :=
    c.chunksOf frontEnd tree? source.text path (options.getD c.options)
  let (found, after) := c.withTree parser now source path cutTree FrontEnd.keepTable
  (found.bind id, after)

/-- The imports and exports of a text. -/
def analyze (parser : Parser) (now : Number.Quantity) (c : Chunker) (source : SourceText)
    (path : String) : Except Failure Interface × Chunker :=
  c.withTree parser now source path interfaceOf fun _ tree => tree

/-- The chunker without the tree of a file. -/
def invalidate (c : Chunker) (path : String) : Chunker :=
  { c with trees := c.trees.invalidate path }

/-- The chunker without trees and front ends. -/
def clearCaches (c : Chunker) : Chunker := { c with trees := c.trees.clear, pool := c.pool.clear }

end Chunker

end ChunkGraph
