import ChunkGraph.Excerpt.Basic
import ChunkGraph.Graph.Summary
import ChunkGraph.Report.Record

/-!
# Results as structured data

The form in which graphs, summaries and excerpts are reported.

## Main definitions

* `Graph.record`, `Stats.record`, `ImportExportMap.record`, `Excerpt.record` —
  the tables.
-/

namespace ChunkGraph

open Data

/-- A range of lines as a table. -/
def LineRange.record (r : LineRange) : Value :=
  .record [("start", .int r.start), ("end", .int r.stop)]

/-- A request as a table. -/
def RangeRequest.record (r : RangeRequest) : Value :=
  .record [("file_path", .text r.filePath), ("ranges", .list (r.ranges.map (·.record)))]

/-- A graph as a table. -/
def Graph.record (g : Graph) : Value := .record (g.map fun (id, ids) => (id, .texts ids))

/-- An exported symbol as a table. -/
def ExportedSymbol.record (s : ExportedSymbol) : Value :=
  .record [("name", .text s.name), ("type", .text s.kind.name), ("chunk_id", .text s.chunkId)]

/-- Exports and imports as a table. -/
def ImportExportMap.record (m : ImportExportMap) : Value :=
  .record [
    ("exports", .record (m.exports.map fun (path, entries) =>
      (path, .list (entries.map (·.2.record))))),
    ("imports", .record (m.imports.map fun (path, entries) =>
      (path, .list (entries.map (·.2.record)))))]

/-- Counts as a table. -/
def Stats.record (s : Stats) : Value :=
  .record [("total_files", .int s.totalFiles), ("total_chunks", .nat s.totalChunks),
    ("chunks_by_type", .record (s.byKind.map fun (kind, n) => (kind.name, .nat n))),
    ("average_chunk_size", .float s.averageSize), ("total_tokens", .int s.totalTokens)]

/-- Chunks as a list of tables. -/
def chunkRecords (chunks : List Chunk) : Value := .list (chunks.map (·.record))

/-- An excerpt as a table. -/
def Excerpt.record (e : Excerpt) : Value :=
  .record [("selected_chunks", chunkRecords e.selected),
    ("dependent_chunks", chunkRecords e.dependent), ("all_chunks", chunkRecords e.all),
    ("code_blocks", .record (e.blocks.map fun (path, text) => (path, .text text))),
    ("dependency_graph", e.graph.record)]

end ChunkGraph
