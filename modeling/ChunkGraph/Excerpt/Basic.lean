import ChunkGraph.Excerpt.Assemble
import ChunkGraph.Failure
import ChunkGraph.Graph.Closure

/-!
# Excerpts

An excerpt is what a reader needs to follow some lines: the chunks that have
lines in the requested ranges, the chunks that those depend on, directly or
not, and the text of all of them, file by file.

Dependencies may lead to files that nobody asked for. In rounds, the files that
the imports of the chunks found so far lead to are read and cut, until a round
finds no new file or the rounds run out. A file that cannot be read, or that
would be one too many, is marked as failed and not tried again. A requested file
has to be readable.

How files are read and cut is left open: a `Reader` reads a path, and a `Cutter`
cuts a text into chunks and may keep a state. What was cut before a failure stays
in that state.

## Main definitions

* `Reader`, `Cutter`, `Limits` — what an excerpt is made with.
* `Corpus` — the files read so far with their texts and chunks.
* `Excerpt.select`, `Excerpt.discover` — the requested chunks, and the files
  that imports lead to.
* `Excerpt.rounds` — the rounds of discovery.
* `Excerpt.extract` — the excerpt of a list of requests.
-/

namespace ChunkGraph

/-- Reads the text of a file. -/
abbrev Reader := String → Except Failure String

/-- Cuts the text of a file with a path into chunks, with a state of its own. -/
abbrev Cutter (σ : Type) := String → String → σ → Except Failure (List Chunk) × σ

/-- Bounds of an excerpt. -/
structure Limits where
  /-- Greatest number of lines between two chunks that is kept. -/
  maxGap : Bound := standardGap
  /-- Greatest number of files. -/
  maxFiles : Bound := 500
  /-- Greatest number of rounds. -/
  maxRounds : Bound := 50
  deriving Repr

/-- Files read so far, by normalized path or by the path that an import resolved to. -/
structure Corpus (σ : Type) where
  /-- The chunks of each file. -/
  files : List (String × List Chunk) := []
  /-- The text of each file. -/
  sources : List (String × String) := []
  /-- Files that could not be read or were one too many. -/
  failed : List String := []
  /-- The state of the cutter. -/
  state : σ

/-- The chunks of all files. -/
def Corpus.chunks {σ : Type} (corpus : Corpus σ) : List Chunk := corpus.files.flatMap (·.2)

/-- An excerpt. -/
structure Excerpt where
  /-- The chunks that have lines in a requested range. -/
  selected : List Chunk
  /-- The chunks that those depend on. -/
  dependent : List Chunk
  /-- The text of each file, under the path of the first chunk of it. -/
  blocks : List (String × String)
  /-- The graph that was followed. -/
  graph : Graph
  deriving Repr

namespace Excerpt

/-- Selected and dependent chunks. -/
def all (e : Excerpt) : List Chunk := e.selected ++ e.dependent

variable {σ : Type}

/-- The last chunk with an identity. -/
def byId? (chunks : List Chunk) (id : String) : Option Chunk := chunks.reverse.find? (·.id == id)

/-- What has gone wrong, if anything, and the corpus up to there. -/
abbrev Progress (σ : Type) := Option Failure × Corpus σ

/-- The corpus with a file and its text. -/
def addFile (cut : Cutter σ) (key path source : String) (corpus : Corpus σ) : Progress σ :=
  match cut source path corpus.state with
  | (.error failure, state) => (some failure, { corpus with state })
  | (.ok chunks, state) =>
      (none, { corpus with
        files := Keyed.put key chunks corpus.files
        sources := Keyed.put key source corpus.sources
        state })

/-- The corpus with the requested files, each read once, up to the first that cannot be read or
cut. -/
def requested (read : Reader) (cut : Cutter σ) : List RangeRequest → Corpus σ → Progress σ
  | [], corpus => (none, corpus)
  | request :: rest, corpus =>
      let key := Path.normalize request.filePath
      if Keyed.has key corpus.files then requested read cut rest corpus
      else
        match read request.filePath with
        | .error failure => (some failure, corpus)
        | .ok source =>
            match addFile cut key request.filePath source corpus with
            | (none, corpus) => requested read cut rest corpus
            | failed => failed

/-- The list with one more chunk, unless one with its identity is there. -/
def addChunk (chunks : List Chunk) (chunk : Chunk) : List Chunk :=
  if chunks.any (·.id == chunk.id) then chunks else chunks ++ [chunk]

/-- The chunks that have lines in a requested range, in the order of the requests. -/
def select (files : List (String × List Chunk)) (requests : List RangeRequest) : List Chunk :=
  let found := requests.flatMap fun request =>
    request.ranges.flatMap fun range =>
      ((files.lookup (Path.normalize request.filePath)).getD []).filter range.overlaps
  found.foldl addChunk []

/-- The files that the imports of chunks lead to, as far as they have not been tried. -/
def discover (resolver : Resolver) (tried : List String) (chunks : List Chunk) : List String :=
  let found := chunks.flatMap fun chunk =>
    (chunk.dependencies.filter (·.kind != .reference)).filterMap fun d =>
      resolver.resolve? chunk.filePath d.source
  (found.filter (!tried.contains ·)).foldl addId []

/-- The corpus after a file that an import leads to has been tried. -/
def tryFile (read : Reader) (cut : Cutter σ) (maxFiles : Bound) (path : String)
    (corpus : Corpus σ) : Progress σ :=
  let without : Corpus σ := { corpus with failed := path :: corpus.failed }
  match maxFiles.fault? ">=" Bound.countType with
  | some failure => (some failure, corpus)
  | none =>
      if maxFiles.reachedBy (.ofNat corpus.files.length) then (none, without)
      else
        match read path with
        | .ok source => addFile cut path path source corpus
        | .error _ => (none, without)

/-- The corpus after files have been tried one after the other. -/
def tryFiles (read : Reader) (cut : Cutter σ) (maxFiles : Bound) :
    List String → Corpus σ → Progress σ
  | [], corpus => (none, corpus)
  | path :: rest, corpus =>
      match tryFile read cut maxFiles path corpus with
      | (none, corpus) => tryFiles read cut maxFiles rest corpus
      | failed => failed

/-- A graph and the identities reached from the selected ones. -/
structure Reached where
  /-- The graph. -/
  graph : Graph
  /-- The identities reached. -/
  ids : List String

/-- The graph of a corpus and what is reached in it. -/
def reach (resolver : Resolver) (corpus : Corpus σ) (selectedIds : List String) :
    Except Failure Reached :=
  match Builder.buildFault? resolver corpus.chunks with
  | some failure => .error failure
  | none =>
      let graph := Builder.build resolver corpus.chunks
      .ok ⟨graph, closure graph selectedIds⟩

/-- The files that are found when a number of identities are known. -/
def newFiles (resolver : Resolver) (corpus : Corpus σ) (ids : List String) : List String :=
  let chunks := corpus.chunks
  discover resolver (corpus.files.map (·.1) ++ corpus.failed) (ids.filterMap (byId? chunks))

/-- The rounds of discovery, at most as many as `n`. -/
def rounds (resolver : Resolver) (read : Reader) (cut : Cutter σ) (maxFiles : Bound)
    (selectedIds : List String) : Nat → Corpus σ → Reached → Except Failure Reached × Corpus σ
  | 0, corpus, reached => (.ok reached, corpus)
  | n + 1, corpus, reached =>
      match newFiles resolver corpus (selectedIds ++ reached.ids) with
      | [] => (.ok reached, corpus)
      | found =>
          match tryFiles read cut maxFiles found corpus with
          | (some failure, corpus) => (.error failure, corpus)
          | (none, corpus) =>
              match reach resolver corpus selectedIds with
              | .error failure => (.error failure, corpus)
              | .ok reached => rounds resolver read cut maxFiles selectedIds n corpus reached

/-- Chunks of the same file that a selected chunk depends on and that are not there yet. -/
def sameFile (graph : Graph) (chunks selected dependent : List Chunk) : List Chunk :=
  let there := (selected ++ dependent).map (·.id)
  let found := selected.flatMap fun chunk =>
    ((graph.targets chunk.id).filter (!there.contains ·)).filterMap fun id =>
      (byId? chunks id).filter (·.filePath == chunk.filePath)
  found.foldl addChunk []

/-- The chunks of each file by normalized path, with the path of the first of them. -/
def groupByFile (chunks : List Chunk) : List (String × List Chunk) :=
  chunks.foldl (fun groups c => Keyed.addTo (Path.normalize c.filePath) c groups) []

/-- The text of each file. -/
def assembleFiles (sources : List (String × String)) (maxGap : Bound) (chunks : List Chunk) :
    List (String × String) :=
  (groupByFile chunks).map fun (key, group) =>
    ((group.head?.map (·.filePath)).getD key,
      assemble group ((sources.lookup key).getD "") maxGap)

/-- The first round, before any file has been discovered, and how many rounds there are at most. -/
def begin (resolver : Resolver) (limits : Limits) (corpus : Corpus σ) (selectedIds : List String) :
    Except Failure (Reached × Nat) := do
  let reached ← reach resolver corpus selectedIds
  return (reached, ← limits.maxRounds.count)

/-- What is reached from the selected chunks, and the corpus with all files on the way. -/
def follow (resolver : Resolver) (limits : Limits) (read : Reader) (cut : Cutter σ)
    (selectedIds : List String) (corpus : Corpus σ) : Except Failure Reached × Corpus σ :=
  match begin resolver limits corpus selectedIds with
  | .error failure => (.error failure, corpus)
  | .ok (reached, n) => rounds resolver read cut limits.maxFiles selectedIds n corpus reached

/-- The chunks that the selected ones depend on. -/
def dependents (corpus : Corpus σ) (selected : List Chunk) (reached : Reached) : List Chunk :=
  let chunks := corpus.chunks
  let selectedIds := selected.map (·.id)
  let found := (reached.ids.filter (!selectedIds.contains ·)).filterMap (byId? chunks)
  found ++ sameFile reached.graph chunks selected found

/-- The excerpt of selected chunks and what is reached from them. -/
def collect (limits : Limits) (corpus : Corpus σ) (selected : List Chunk) (reached : Reached) :
    Except Failure Excerpt :=
  let dependent := dependents corpus selected reached
  let chunks := selected ++ dependent
  match (groupByFile chunks).findSome? fun (_, group) => gapFault? group limits.maxGap with
  | some failure => .error failure
  | none =>
      .ok { selected, dependent, graph := reached.graph
            blocks := assembleFiles corpus.sources limits.maxGap chunks }

/-- The excerpt of a corpus of requested files, and the state of the cutter after it. -/
def complete (resolver : Resolver) (limits : Limits) (read : Reader) (cut : Cutter σ)
    (requests : List RangeRequest) (corpus : Corpus σ) : Except Failure Excerpt × σ :=
  let selected := select corpus.files requests
  let (reached, corpus) := follow resolver limits read cut (selected.map (·.id)) corpus
  (reached.bind (collect limits corpus selected), corpus.state)

/-- The excerpt of a list of requests; the state of the cutter also if there is none. -/
def extract (resolver : Resolver) (limits : Limits) (read : Reader) (cut : Cutter σ)
    (requests : List RangeRequest) (state : σ) : Except Failure Excerpt × σ :=
  match requested read cut requests { state } with
  | (some failure, corpus) => (.error failure, corpus.state)
  | (none, corpus) => complete resolver limits read cut requests corpus

end Excerpt

end ChunkGraph
