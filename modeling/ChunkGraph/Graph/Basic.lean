import ChunkGraph.Chunk.Basic
import ChunkGraph.Data.Keyed
import ChunkGraph.Path.Basic
import ChunkGraph.Resolve.Basic

/-!
# The dependency graph

The graph leads from the identity of each chunk to the identities of the chunks
it depends on. What a dependency means is looked up in three steps, and the
first that finds anything decides: the exports of the file that the specifier
resolves to, then the exported chunks of the chunk's own file, and then the
exported chunks of all files, the last two by name. A reference means the
declarations of that name in the same file, methods excepted, as those are
reached through a receiver and never by their bare name. A nested chunk depends
on its parent.

Files are compared by their normalized paths.

## Main definitions

* `Placed`, `index` — chunks with their normalized paths.
* `Builder.meaningOf` — the chunks that a dependency means.
* `Builder.build` — the graph.
* `Builder.buildFault?` — why it cannot be built, if it cannot.
-/

namespace ChunkGraph

/-- Identities with the identities they lead to, in the order in which they came. -/
abbrev Graph := List (String × List String)

namespace Graph

/-- What an identity leads to. -/
def targets (graph : Graph) (id : String) : List String := (graph.lookup id).getD []

end Graph

/-- The name by which other files import a chunk. -/
def Chunk.exportKey (chunk : Chunk) : String :=
  match chunk.exportName with
  | some name => if name.isEmpty then chunk.name else name
  | none => chunk.name

/-- The chunk is exported under the name, or has it. -/
def Chunk.answersTo (chunk : Chunk) (name : String) : Bool :=
  chunk.exportName == some name || chunk.name == name

/-- A chunk with the normalized path of its file. -/
structure Placed where
  /-- The normalized path. -/
  path : String
  /-- The chunk. -/
  chunk : Chunk
  deriving DecidableEq, Repr

/-- Chunks with their normalized paths. -/
def index (chunks : List Chunk) : List Placed :=
  chunks.map fun chunk => ⟨Path.normalize chunk.filePath, chunk⟩

/-- The chunks of a file. -/
def inFile (placed : List Placed) (path : String) : List Chunk :=
  (placed.filter (·.path == path)).map (·.chunk)

/-- The exported chunks of a file. -/
def exportsOf (placed : List Placed) (path : String) : List Chunk :=
  (inFile placed path).filter (·.exported)

/-- The exported chunks of a file under a name. -/
def exportsNamed (placed : List Placed) (path name : String) : List Chunk :=
  (exportsOf placed path).filter (·.exportKey == name)

/-- Chunks brought together by the name under which they are exported, the names in the order in
which they first occur. -/
def groupedByKey (chunks : List Chunk) : List Chunk :=
  let names := chunks.foldl
    (fun names c => if names.contains c.exportKey then names else names ++ [c.exportKey]) []
  names.flatMap fun name => chunks.filter (·.exportKey == name)

/-- The list with one more identity, unless it has it. -/
def addId (ids : List String) (id : String) : List String :=
  if ids.contains id then ids else ids ++ [id]

/-- Builds graphs: a resolver is all it needs. -/
abbrev Builder := Resolver

namespace Builder

/-- The chunks that a dependency means in the file that its specifier resolves to. -/
def moduleExports (placed : List Placed) (d : Dependency) (path : String) : List Chunk :=
  if d.isNamespace || (d.kind == .required && d.name != "*") then
    groupedByKey (exportsOf placed path)
  else if d.isDefault then
    match exportsNamed placed path "default" with
    | [] => exportsNamed placed path d.name
    | found => found
  else exportsNamed placed path d.name

/-- The chunks that a reference means. -/
def referenced (placed : List Placed) (d : Dependency) (chunk : Chunk) : List Chunk :=
  (inFile placed (Path.normalize chunk.filePath)).filter fun c =>
    c.id != chunk.id && c.kind != .methodDecl && c.name == d.name

/-- The exported chunks that answer to the name of a dependency: of the chunk's own file, or else
of all files. -/
def exportedByName (placed : List Placed) (d : Dependency) (chunk : Chunk) : List Chunk :=
  let own := (exportsOf placed (Path.normalize chunk.filePath)).filter (·.answersTo d.name)
  if own.isEmpty then
    ((placed.map (·.chunk)).filter (·.exported)).filter (·.answersTo d.name)
  else own

/-- The chunks that a dependency of a chunk means. -/
def meaningOf (b : Builder) (placed : List Placed) (d : Dependency) (chunk : Chunk) : List Chunk :=
  if d.kind == .reference then referenced placed d chunk
  else
    let found := match b.resolve? chunk.filePath d.source with
      | some path => moduleExports placed d path
      | none => []
    if found.isEmpty then exportedByName placed d chunk else found

/-- What a chunk depends on, its parent last. -/
def targetsOf (b : Builder) (placed : List Placed) (chunk : Chunk) : List String :=
  let meant := (chunk.dependencies.flatMap fun d => b.meaningOf placed d chunk).map (·.id)
  let found := (meant.filter (· != chunk.id)).foldl addId []
  match chunk.parentId with
  | some parent =>
      if !parent.isEmpty && placed.any (·.chunk.id == parent) then addId found parent else found
  | none => found

/-- The graph of a list of chunks; of several chunks with one identity the last decides. -/
def build (b : Builder) (chunks : List Chunk) : Graph :=
  let placed := index chunks
  chunks.foldl (fun graph chunk => Keyed.put chunk.id (b.targetsOf placed chunk) graph) []

/-- Why the graph of a list of chunks cannot be built, if it cannot: a specifier cannot be
resolved. -/
def buildFault? (b : Builder) (chunks : List Chunk) : Option Failure :=
  chunks.findSome? fun chunk =>
    (chunk.dependencies.filter (·.kind != .reference)).findSome? fun d =>
      b.fault? chunk.filePath d.source

end Builder

end ChunkGraph
