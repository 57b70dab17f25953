import ChunkGraph.Chunker
import ChunkGraph.Excerpt.Basic
import ChunkGraph.Graph.Summary
import ChunkGraph.Resolve.ProjectFile
import ChunkGraph.Service.Selection
import ChunkGraph.Settings.Document

/-!
# The service

The service works on files below a directory. It keeps the chunks of a file as
long as the time of its last change and its size stay the same, and it remembers
the chunks that it has returned, by identity. Both memories are bounded, and
what came first goes first. A memory whose bound is no number fails when it grows,
and so does one whose bound is below zero, which nothing can satisfy.

Every operation is given the disk, the parser and the reader of patterns as they
are at the time, and gives back an answer and the service after it. An operation
that fails may have changed the service before it failed: files that were cut
stay cut.

The service has a clock that goes on a little with every text that is cut.

## Main definitions

* `Service`, `Service.create` — a service and how one is made.
* `Service.remember`, `Service.keepFile` — the two memories.
* `Service.chunkCode`, `Service.chunkFile`, `Service.chunkFiles`,
  `Service.chunkDirectory`, `Service.extract` — cutting.
* `Service.findChunk?`, `Service.contentOf` — looking up.
* `Service.invalidate`, `Service.clearCaches` — forgetting.
-/

namespace ChunkGraph

open Syntax

/-- What a service works on: files, and what reads texts and patterns. -/
structure World where
  /-- The files. -/
  disk : Disk
  /-- What parses texts. -/
  parser : Parser
  /-- What reads patterns of files. -/
  patterns : PatternReader

/-- The chunks of a file as it was. -/
structure CachedFile where
  /-- The time of its last change and its size. -/
  marker : Disk.Marker
  /-- Its chunks. -/
  chunks : List Chunk

/-- What cuts files and remembers chunks. -/
structure Service where
  /-- The settings. -/
  settings : Settings
  /-- What cuts files. -/
  chunker : Chunker
  /-- The directory that paths are relative to. -/
  root : Path := ⟨0, []⟩
  /-- The chunks of files, the oldest first. -/
  files : List (String × CachedFile) := []
  /-- The chunks that were returned, the oldest first. -/
  known : List (String × Chunk) := []
  /-- The greatest number of chunks that are remembered. -/
  maxKnown : Bound := 10000
  /-- Number of texts cut so far. -/
  ticks : Nat := 0

/-- The chunks of several files and how they hang together. -/
structure ChunkingResult where
  /-- The chunks, file by file. -/
  chunks : List Chunk
  /-- What each chunk depends on. -/
  graph : Graph
  /-- The exports and imports of each file. -/
  map : ImportExportMap
  /-- The counts. -/
  stats : Stats

namespace Service

/-- A service with the given settings; their way of counting must be known. -/
def create (encoding : Encoding) (settings : Settings) (root : Path) (maxKnown : Bound) :
    Except Failure Service :=
  (Chunker.create encoding settings.options Rule.all).map fun chunker =>
    { settings, chunker, root, maxKnown }

/-- The path of a file on the disk. -/
def diskPath (s : Service) (path : String) : Path := s.root.append (.ofText path)

/-- The last of a list, at most as many as a bound admits. -/
def lastWithin {α : Type} (bound : Bound) : List α → List α
  | [] => []
  | item :: items =>
      if bound.passedBy (.ofNat (items.length + 1)) then lastWithin bound items else item :: items

/-- Why a memory cannot be kept within a bound, if it cannot. -/
def boundFault? (bound : Bound) : Option Failure :=
  (bound.fault? ">" Bound.countType).or
    (if bound.passedBy (.whole 0) then some .nothingToDrop else none)

/-- The service after chunks have been returned, and what has gone wrong. -/
def remember (s : Service) (chunks : List Chunk) : Option Failure × Service :=
  let known := chunks.foldl (fun known c => Keyed.renew c.id c known) s.known
  (boundFault? s.maxKnown, { s with known := lastWithin s.maxKnown known })

/-- The service after the chunks of a file have been kept, and what has gone wrong. -/
def keepFile (s : Service) (path : String) (file : CachedFile) : Option Failure × Service :=
  let capacity := s.settings.fileCapacity
  (boundFault? capacity, { s with files := lastWithin capacity (Keyed.renew path file s.files) })

/-- The time on the service's clock, in seconds. -/
def now (s : Service) : Number.Quantity := .float (.ofRatio false s.ticks 1000000)

/-- The chunks of a text. -/
def cut (parser : Parser) (options : Option Options) (source : SourceText) (path : String)
    (s : Service) : Except Failure (List Chunk) × Service :=
  let (chunks, chunker) := s.chunker.chunkCode parser s.now source path options
  (chunks, { s with chunker, ticks := s.ticks + 1 })

/-- The service as what cuts the texts of files. -/
def cutText (parser : Parser) (options : Option Options) : Cutter Service :=
  fun code path => cut parser options code path

/-- The answer if all went well, with the service after it. -/
def answer {α : Type} (result : α) : Option Failure × Service → Except Failure α × Service
  | (none, s) => (.ok result, s)
  | (some failure, s) => (.error failure, s)

/-- The chunks of a text that is not read from a file. -/
def chunkCode (w : World) (s : Service) (source : SourceText) (path : String)
    (options : Option Options) : Except Failure (List Chunk) × Service :=
  match s.cut w.parser options source path with
  | (.error failure, s) => (.error failure, s)
  | (.ok chunks, s) => answer chunks (s.remember chunks)

/-- The chunks that are kept for a file, if it has not changed. -/
def keptFor? (s : Service) (path : String) (marker : Disk.Marker) : Option (List Chunk) :=
  ((s.files.lookup path).filter (·.marker == marker)).map (·.chunks)

/-- The chunks of a file that is read. -/
def chunkRead (w : World) (s : Service) (path : String) (options : Option Options)
    (marker : Disk.Marker) : Except Failure (List Chunk) × Service :=
  match w.disk.readText (s.diskPath path) with
  | .error failure => (.error failure, s)
  | .ok code =>
      match s.cut w.parser options code path with
      | (.error failure, s) => (.error failure, s)
      | (.ok chunks, s) =>
          match if options.isNone then s.keepFile path ⟨marker, chunks⟩ else (none, s) with
          | (some failure, s) => (.error failure, s)
          | (none, s) => answer chunks (s.remember chunks)

/-- The chunks of a file. -/
def chunkFile (w : World) (s : Service) (path : String) (options : Option Options) :
    Except Failure (List Chunk) × Service :=
  match w.disk.marker (s.diskPath path) with
  | .error failure => (.error failure, s)
  | .ok marker =>
      match if options.isNone then s.keptFor? path marker else none with
      | some chunks => (.ok chunks, s)
      | none => s.chunkRead w path options marker

/-! ## Several files -/

/-- The aliases that the project file in a directory declares. -/
def projectAliases (disk : Disk) (root : Path) : Except Failure (Option Resolve.Aliases) :=
  match disk.readStrict (root.append (.ofText "tsconfig.json")) with
  | .ok text => Resolve.Aliases.ofProjectText text.toList
  | .error _ => .ok none

/-- What resolves the specifiers of files below the directory. -/
def resolver (w : World) (s : Service) : Except Failure Resolver := do
  let aliases ← projectAliases w.disk s.root
  let extensions ← s.settings.extensions
  let known : Resolver :=
    { fileExists := fun path => w.disk.isFile (s.diskPath path)
      pathFault? := fun path => w.disk.probeFault? (s.diskPath path)
      aliases }
  return known.withExtensions extensions

/-- How the chunks of a number of files hang together. -/
def resultOf (w : World) (s : Service) (chunks : List Chunk) (files : Nat) :
    Except Failure ChunkingResult := do
  let resolver ← s.resolver w
  match Builder.buildFault? resolver chunks with
  | some failure => throw failure
  | none =>
      return { chunks
               graph := Builder.build resolver chunks
               map := .ofChunks chunks
               stats := .ofChunks chunks (some files) }

/-- The chunks of files one after the other, up to the first that cannot be read. -/
def chunkEach (w : World) (options : Option Options) :
    List String → Service → Except Failure (List Chunk) × Service
  | [], s => (.ok [], s)
  | path :: rest, s =>
      match s.chunkFile w path options with
      | (.error failure, s) => (.error failure, s)
      | (.ok chunks, s) =>
          let (more, s) := chunkEach w options rest s
          (more.map (chunks ++ ·), s)

/-- The chunks of several files. -/
def chunkFiles (w : World) (s : Service) (paths : List String) (options : Option Options) :
    Except Failure ChunkingResult × Service :=
  let (chunks, s) := chunkEach w options paths s
  (chunks.bind fun chunks => s.resultOf w chunks paths.length, s)

/-- The chunks of those files of a list that can be read, and how many those are. Only the file
system may fail. -/
def chunkReadable (w : World) (options : Option Options) :
    List String → Service → Except Failure (List Chunk × Nat) × Service
  | [], s => (.ok ([], 0), s)
  | path :: rest, s =>
      match s.chunkFile w path options with
      | (.ok first, s) =>
          let (found, s) := chunkReadable w options rest s
          (found.map fun (chunks, n) => (first ++ chunks, n + 1), s)
      | (.error failure, s) =>
          if failure.concernsFiles then chunkReadable w options rest s else (.error failure, s)

/-- The files below a directory that are cut, as paths that begin with it. -/
def filesOf (w : World) (s : Service) (directory : String) (filter : Filter) : List String :=
  (w.disk.filesBelow (s.diskPath directory)).filterMap fun names =>
    let below : Path := ⟨0, names⟩
    if filter.selects below.text then some ((Path.ofText directory).append below).text else none

/-- The files below a directory that are cut, if it is one. -/
def scan (w : World) (s : Service) (directory : String) (selection : Selection) :
    Except Failure (List String) := do
  let path := s.diskPath directory
  if let some failure := w.disk.probeFault? path then throw failure
  if !w.disk.isDirectory path then throw (.noDirectoryToScan directory)
  return s.filesOf w directory (← selection.filter w.patterns s.settings)

/-- The chunks of the files below a directory; those that cannot be read are passed over. -/
def chunkDirectory (w : World) (s : Service) (directory : String) (selection : Selection)
    (options : Option Options) : Except Failure ChunkingResult × Service :=
  match s.scan w directory selection with
  | .error failure => (.error failure, s)
  | .ok paths =>
      let (found, s) := chunkReadable w options paths s
      (found.bind fun (chunks, n) => s.resultOf w chunks n, s)

/-- The excerpt of a list of requests. -/
def extract (w : World) (s : Service) (requests : List RangeRequest) :
    Except Failure Excerpt × Service :=
  match s.resolver w with
  | .error failure => (.error failure, s)
  | .ok resolver =>
      let read : Reader := fun path => w.disk.readText (s.diskPath path)
      match Excerpt.extract resolver s.settings.limits read (cutText w.parser none) requests s with
      | (.error failure, s) => (.error failure, s)
      | (.ok excerpt, s) => answer excerpt (s.remember excerpt.all)

/-! ## Looking up and forgetting -/

/-- A chunk that was returned earlier. -/
def findChunk? (s : Service) (id : String) : Option Chunk := s.known.lookup id

/-- The text of a chunk, read back from its file unless the chunk has kept it. -/
def contentOf (w : World) (s : Service) (chunk : Chunk) : Except Failure String :=
  match chunk.content with
  | some text => .ok text
  | none =>
      (w.disk.readText (s.diskPath chunk.filePath)).map fun text =>
        linesText (Text.splitLines text.toList) chunk.startLine chunk.endLine

/-- The service after what it knows of one file, or of all, has been forgotten. -/
def invalidate (s : Service) (path : Option String) : Service :=
  match path with
  | some path =>
      { s with chunker := s.chunker.invalidate path, files := Keyed.erase path s.files }
  | none => { s with chunker := { s.chunker with trees := s.chunker.trees.clear }, files := [] }

/-- The service with nothing kept. -/
def clearCaches (s : Service) : Service :=
  { s with chunker := s.chunker.clearCaches, files := [], known := [] }

end Service

end ChunkGraph
