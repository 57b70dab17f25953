import ChunkGraph.CommandLine.Command
import ChunkGraph.CommandLine.Markup
import ChunkGraph.CommandLine.Panel
import ChunkGraph.CommandLine.Table
import ChunkGraph.Data.Format
import ChunkGraph.Excerpt.Request
import ChunkGraph.Report.Service

/-!
# Running commands

A command makes a service with the settings of its file and of the environment,
lets it work, and prints what comes out: a document, the rows of tables, or
plain text. A command that is not understood ends with the code 2, one that
fails prints why and ends with the code 1. Names of files and chunks may hold
markup, and then printing may fail as well; what has been done and printed before
a failure stays.

## Main definitions

* `Printed`, `Outcome` — what is printed and how the run ends.
* `Progress` — what a command has printed and written, and what has gone wrong.
* `run` — the outcome of a command.
-/

namespace ChunkGraph.CommandLine

open Data

/-- Something that is printed. -/
inductive Printed where
  /-- Plain text. -/
  | text (s : String)
  /-- A document. -/
  | document (format : Format) (value : Value)
  /-- A panel. -/
  | panel (p : Panel)
  /-- The rows of tables, titles included. -/
  | rows (rows : List (List String))

/-- How a run ends. -/
structure Outcome where
  /-- The code. -/
  code : Nat
  /-- What is printed. -/
  printed : List Printed := []
  /-- The disk after the run. -/
  disk : Disk

/-- Where commands run. -/
structure Surroundings where
  /-- Files, and what reads texts and patterns. -/
  world : World
  /-- What reads settings in YAML. -/
  yaml : YamlReader
  /-- The encoding whose tokens can be counted. -/
  encoding : Encoding
  /-- The environment. -/
  environment : Settings.Environment := []

/-- What a command has printed, the disk after it, and what has gone wrong, if anything. -/
structure Progress where
  /-- What is printed. -/
  printed : List Printed := []
  /-- The disk. -/
  disk : Disk
  /-- What has gone wrong. -/
  failure : Option Failure := none

/-- What a command prints that changes nothing. -/
def Progress.ofResult (disk : Disk) : Except Failure (List Printed) → Progress
  | .ok printed => { printed, disk }
  | .error failure => { disk, failure }

/-! ## Tables -/

/-- The head of a table of chunks. -/
def chunkHead : List String := ["Type", "Name", "File", "Lines", "Tokens", "Exported"]

/-- The lines of a text. -/
def textLines (text : String) : List String := (Text.splitOn '\n' text.toList).map String.ofList

/-- The cells of a chunk. -/
def chunkCells (c : Chunk) : Except Failure (List String) := do
  let name ← Markup.render c.qualifiedName
  let file ← Markup.render c.filePath
  return [c.kind.name, name, file,
    Number.integerText c.startLine ++ "-" ++ Number.integerText c.endLine,
    Number.integerText (c.tokenCount.getD 0), if c.exported then "✓" else ""]

/-- A table of chunks. -/
def chunkTable (title : String) (chunks : List Chunk) : Except Failure (List (List String)) := do
  let title ← Markup.render title
  let cells ← chunks.mapM chunkCells
  return Table.rows { title, head := chunkHead, cells }

/-- The mark that may stand at the beginning of a file. -/
def byteOrderMark : Char := '\uFEFF'

/-- The lines of code, each as a row. -/
def codeRows (text : String) : List (List String) :=
  let code := text.toList
  let code := if code.head? == some byteOrderMark then code.drop 1 else code
  (textLines (String.ofList (Markup.withoutHidden code))).map fun line => [line]

/-! ## Commands -/

/-- The formats in which chunks are put out. -/
inductive Output where
  | document (format : Format)
  | table
  deriving DecidableEq, Repr

/-- The output of a name. -/
def Output.ofName (name : String) : Except Failure Output :=
  if name == "json" then .ok (.document .json)
  else if name == "yaml" then .ok (.document .yaml)
  else if name == "table" then .ok .table
  else .error (.unknownFormat name)

/-- A line with blanks in place of its tabs. -/
def withoutTabs (line : String) : String := String.ofList (Text.expandTabs line.toList)

/-- The line that says what has been written where. -/
def writtenLine (count : Nat) (path : Path) : Except Failure String :=
  (Markup.render ("[green]✓[/green] Wrote " ++ Number.integerText count ++ " chunks to " ++
    path.text)).map fun line => withoutTabs line ++ "\n"

/-- Chunks put out to a file. -/
def emitToFile (disk : Disk) (result : ChunkingResult) (format : Format) (path : Path) :
    Progress :=
  match disk.writeText path (format.write true result.record) 0 with
  | .error failure => { disk, failure }
  | .ok disk =>
      .ofResult disk ((writtenLine result.chunks.length path).map fun line => [.text line])

/-- Chunks put out in a format, perhaps to a file. -/
def emit (disk : Disk) (result : ChunkingResult) (output : String) (out : Option String)
    (title : String) : Progress :=
  match Output.ofName output, out with
  | .error failure, _ => { disk, failure }
  | .ok .table, _ => .ofResult disk ((chunkTable title result.chunks).map fun rows => [.rows rows])
  | .ok (.document format), none => { disk, printed := [.document format result.record] }
  | .ok (.document format), some out => emitToFile disk result format (.ofText out)

/-- The settings of a run; the level of the log has to be a text. -/
def settingsOf (sur : Surroundings) (config : Option String) : Except Failure Settings := do
  let settings ←
    Settings.load sur.yaml sur.world.disk sur.environment (config.map Path.ofText)
  match settings.levelFault? with
  | some failure => throw failure
  | none => return settings

/-- A service at a directory. -/
def serviceAt (sur : Surroundings) (settings : Settings) (root : String) : Except Failure Service :=
  Service.create sur.encoding settings (.ofText root) 10000

/-- The result of an operation put out in a format. -/
def emitResult (sur : Surroundings) (result : Except Failure ChunkingResult) (output : String)
    (out : Option String) (title : String) : Progress :=
  match result with
  | .ok result => emit sur.world.disk result output out title
  | .error failure => { disk := sur.world.disk, failure }

/-- The chunks of some files. -/
def runChunk (sur : Surroundings) (config : Option String) (files : List String) (output : String)
    (keepText : Bool) (out : Option String) : Progress :=
  let result : Except Failure ChunkingResult := do
    let settings ← settingsOf sur config
    let settings :=
      if keepText then settings.set "chunking" "include_content" (.bool true) else settings
    let service ← serviceAt sur settings "."
    (service.chunkFiles sur.world (files.map fun f => (Path.ofText f).text) none).1
  emitResult sur result output out "Chunks"

/-- Patterns given on the command line, none if there are none. -/
def given? (patterns : List String) : Option Value :=
  if patterns.isEmpty then none else some (.texts patterns)

/-- The chunks of the files below a directory. -/
def runDirectory (sur : Surroundings) (config : Option String) (directory : String)
    (included excluded : List String) (output : String) (out : Option String) : Progress :=
  let directory := (Path.ofText directory).text
  let result : Except Failure ChunkingResult := do
    let service ← serviceAt sur (← settingsOf sur config) "."
    (service.chunkDirectory sur.world directory ⟨given? included, given? excluded⟩ none).1
  emitResult sur result output out ("Chunks in " ++ directory)

/-- The counts of an excerpt. -/
def excerptPanel (e : Excerpt) : Panel :=
  { title := "Extraction Complete"
    rows := [("Selected Chunks:", Number.integerText e.selected.length),
      ("Dependent Chunks:", Number.integerText e.dependent.length),
      ("Files:", Number.integerText e.blocks.length)] }

/-- The title of a block of code. -/
def blockTitle (path : String) : Except Failure String :=
  (Markup.render ("[cyan]" ++ path ++ "[/cyan]")).map fun title =>
    String.ofList (Text.substitute '\n' [' '] title.toList)

/-- A block of code with its title. -/
def blockRows (path text : String) : Except Failure (List (List String)) :=
  (blockTitle path).map fun title => [title] :: codeRows text

/-- The tables of an excerpt: its chunks, and the code of each file. -/
def excerptRows (e : Excerpt) : Except Failure (List (List String)) := do
  let table ← chunkTable "Chunks" e.all
  let blocks ← e.blocks.mapM fun (path, text) => blockRows path text
  return table ++ blocks.flatten

/-- The code of an excerpt and nothing else. -/
def plainBlocks (e : Excerpt) : String :=
  String.join (e.blocks.map fun (path, text) => "// " ++ path ++ "\n" ++ text ++ "\n\n")

/-- What is printed of an excerpt; the counts are printed first. -/
def printExcerpt (disk : Disk) (e : Excerpt) : Progress :=
  match excerptRows e with
  | .ok rows => { disk, printed := [.panel (excerptPanel e), .rows rows] }
  | .error failure => { disk, failure, printed := [.panel (excerptPanel e)] }

/-- The excerpt of some line ranges. -/
def runExtract (sur : Surroundings) (config : Option String) (ranges : List String) (root : String)
    (codeOnly : Bool) : Progress :=
  let disk := sur.world.disk
  let found : Except Failure Excerpt := do
    let service ← serviceAt sur (← settingsOf sur config) root
    (service.extract sur.world (← RangeSpec.requests ranges)).1
  match found with
  | .error failure => { disk, failure }
  | .ok e => if codeOnly then { disk, printed := [.text (plainBlocks e)] } else printExcerpt disk e

/-- The counts by kind, the kinds in the order of their names. -/
def kindRows (stats : Stats) : List (List String) :=
  let counts := stats.byKind.map fun (kind, n) => (kind.name, n)
  let sorted := counts.mergeSort fun a b => decide (a.1 ≤ b.1)
  if sorted.isEmpty then []
  else
    ["Chunks by Type"] :: ["Type Count"] ::
      sorted.map fun (name, n) => [name ++ " " ++ Number.integerText n]

/-- What is printed of the counts. -/
def statsRows (stats : Stats) (service : Service) : List (List String) :=
  let trees := service.chunker.trees
  let pool := service.chunker.pool
  let asked := max (trees.hits + trees.misses) 1
  let percent := ((Number.Binary64.div trees.hits asked).times 100).fixed 0
  [["Chunk Statistics"], ["Total Files: " ++ Number.integerText stats.totalFiles],
      ["Total Chunks: " ++ Number.integerText stats.totalChunks],
      ["Total Tokens: " ++ Number.integerText stats.totalTokens],
      ["Average Chunk Size: " ++ stats.averageSize.fixed 1]] ++
    kindRows stats ++
    [["Caches"],
      ["AST Cache: " ++ Number.integerText trees.size ++ "/" ++ trees.capacity.given.inline ++
        " (hit rate " ++ percent ++ "%)"],
      ["Parser Pool: " ++ Number.integerText pool.created ++ " created, " ++
        Number.integerText pool.reused ++ " reused"]]

/-- The counts of some files. -/
def runStats (sur : Surroundings) (config : Option String) (files : List String) : Progress :=
  .ofResult sur.world.disk do
    let service ← serviceAt sur (← settingsOf sur config) "."
    let paths := files.map fun f => (Path.ofText f).text
    let (result, service) := service.chunkFiles sur.world paths none
    return [.rows (statsRows (← result).stats service)]

/-- What a command prints, and the disk after it. -/
def runCommand (sur : Surroundings) (config : Option String) : Command → Progress
  | .help => { disk := sur.world.disk }
  | .chunk files output keepText out => runChunk sur config files output keepText out
  | .chunkDirectory directory included excluded output out =>
      runDirectory sur config directory included excluded output out
  | .extract ranges root codeOnly => runExtract sur config ranges root codeOnly
  | .stats files => runStats sur config files

/-- The line that says what has gone wrong; nothing is printed if the line cannot be. -/
def failureLine (failure : Failure) : List Printed :=
  match Markup.render ("[bold red]Error:[/bold red] " ++ failure.message) with
  | .ok line => [.text (withoutTabs line ++ "\n")]
  | .error _ => []

/-- The outcome of a command line. -/
def run (sur : Surroundings) (arguments : List String) : Outcome :=
  match Invocation.ofArguments? arguments with
  | none => { code := 2, disk := sur.world.disk }
  | some invocation =>
      let p := runCommand sur invocation.config invocation.command
      match p.failure with
      | none => { code := 0, printed := p.printed, disk := p.disk }
      | some failure => { code := 1, printed := p.printed ++ failureLine failure, disk := p.disk }

/-- A printed thing as text; rows have bars between their cells. -/
def Printed.render : Printed → String
  | .text s => s
  | .document .json value => Format.json.write true value ++ "\n"
  | .document .yaml value => Format.yaml.write true value ++ "\n"
  | .panel p => p.render
  | .rows table => String.join (table.map fun row => String.intercalate " │ " row ++ "\n")

end ChunkGraph.CommandLine
