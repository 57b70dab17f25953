import ChunkGraph.Report.Result
import ChunkGraph.Service.Basic

/-!
# Answers of the service as structured data

## Main definitions

* `ChunkingResult.record`, `Service.statsRecord` — the tables.
-/

namespace ChunkGraph

open Data

/-- How chunks hang together, as entries of a table. -/
def ChunkingResult.linkRecords (r : ChunkingResult) : List (String × Value) :=
  [("dependency_graph", r.graph.record), ("import_export_map", r.map.record),
    ("stats", r.stats.record)]

/-- Chunks and how they hang together, as a table. -/
def ChunkingResult.record (r : ChunkingResult) : Value :=
  .record (("chunks", chunkRecords r.chunks) :: r.linkRecords)

/-- The counts of a cache as a table. -/
def Cache.record {α : Type} (c : Cache α) : Value :=
  .record [("hits", .nat c.hits), ("misses", .nat c.misses), ("evictions", .nat c.evictions),
    ("size", .nat c.size), ("max_size", c.capacity.given), ("hit_rate", .float c.hitRate)]

/-- The counts of a pool as a table. -/
def Pool.record {α : Type} (p : Pool α) : Value :=
  .record [("created", .nat p.created), ("reused", .nat p.reused), ("released", .nat p.released),
    ("hit_rate", .float p.hitRate),
    ("pool_sizes", .record (p.shelves.map fun (key, items) => (key, .nat items.length)))]

/-- The counts of a service as a table. -/
def Service.statsRecord (s : Service) : Value :=
  .record [("ast_cache", s.chunker.trees.record), ("parser_pool", s.chunker.pool.record),
    ("file_cache", .record [("size", .nat s.files.length)])]

end ChunkGraph
