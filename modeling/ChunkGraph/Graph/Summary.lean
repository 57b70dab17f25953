import ChunkGraph.Graph.Basic
import ChunkGraph.Number.Binary64

/-!
# Summaries of chunks

For every file, what it exports and what it imports; and for a whole run, how
many files, chunks and tokens there are.

## Main definitions

* `ImportExportMap.ofChunks` — the exports and imports of every file.
* `Stats.ofChunks` — the counts.
-/

namespace ChunkGraph

/-- An exported chunk as its importers see it. -/
structure ExportedSymbol where
  /-- The name to import. -/
  name : String
  /-- What is declared. -/
  kind : ChunkKind
  /-- The identity of the chunk. -/
  chunkId : String
  deriving DecidableEq, Repr

/-- The exports of each file by name and kind, and its imports by module and name. -/
structure ImportExportMap where
  /-- Exports; of those with the same name and kind the last counts. -/
  exports : List (String × List ((String × ChunkKind) × ExportedSymbol)) := []
  /-- Imports; of those with the same module and name the first counts. -/
  imports : List (String × List ((String × String) × Dependency)) := []
  deriving Repr

namespace ImportExportMap

/-- The imports of a file with one more dependency, if it is an import that is not there yet. -/
def addImport (entries : List ((String × String) × Dependency)) (d : Dependency) :
    List ((String × String) × Dependency) :=
  let key := (d.source, d.name)
  if d.kind == .reference || d.source.isEmpty || Keyed.has key entries then entries
  else entries ++ [(key, d)]

/-- The map with one more chunk. -/
def add (m : ImportExportMap) (chunk : Chunk) : ImportExportMap :=
  let path := chunk.filePath
  let exportsThere := (m.exports.lookup path).getD []
  let symbol : ExportedSymbol := ⟨chunk.exportKey, chunk.kind, chunk.id⟩
  let importsThere := (m.imports.lookup path).getD []
  { exports :=
      if chunk.exported then
        Keyed.put path (Keyed.put (symbol.name, symbol.kind) symbol exportsThere) m.exports
      else m.exports
    imports := Keyed.put path (chunk.dependencies.foldl addImport importsThere) m.imports }

/-- The map of a list of chunks. -/
def ofChunks (chunks : List Chunk) : ImportExportMap := chunks.foldl add {}

/-- The exports of a file. -/
def exportsOf (m : ImportExportMap) (path : String) : List ExportedSymbol :=
  ((m.exports.lookup path).getD []).map (·.2)

/-- The imports of a file. -/
def importsOf (m : ImportExportMap) (path : String) : List Dependency :=
  ((m.imports.lookup path).getD []).map (·.2)

end ImportExportMap

/-- Counts over the chunks of a run. -/
structure Stats where
  /-- Number of files. -/
  totalFiles : Int
  /-- Number of chunks. -/
  totalChunks : Nat
  /-- Number of chunks of each kind. -/
  byKind : List (ChunkKind × Nat)
  /-- Tokens for each chunk on average. -/
  averageSize : Number.Binary64
  /-- Number of tokens. -/
  totalTokens : Int
  deriving Repr

namespace Stats

/-- The counts with one more chunk of a kind. -/
def countKind (counts : List (ChunkKind × Nat)) (kind : ChunkKind) : List (ChunkKind × Nat) :=
  Keyed.put kind ((counts.lookup kind).getD 0 + 1) counts

/-- The counts of a list of chunks; without a number of files, the different paths are counted. -/
def ofChunks (chunks : List Chunk) (files : Option Int) : Stats :=
  let tokens := chunks.foldl (fun total c => total + c.tokenCount.getD 0) 0
  { totalFiles := files.getD (chunks.map (·.filePath)).eraseDups.length
    totalChunks := chunks.length
    byKind := (chunks.map (·.kind)).foldl countKind []
    averageSize :=
      Number.Binary64.ofRatio (decide (tokens < 0)) tokens.natAbs (max chunks.length 1)
    totalTokens := tokens }

end Stats

end ChunkGraph
