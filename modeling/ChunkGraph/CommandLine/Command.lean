import ChunkGraph.CommandLine.Arguments

/-!
# Commands

## Main definitions

* `Command` — the commands with what they need.
* `Invocation`, `Invocation.ofArguments?` — a command and the settings file it
  is run with.
-/

namespace ChunkGraph.CommandLine

/-- A command. -/
inductive Command where
  /-- The chunks of some files. -/
  | chunk (files : List String) (output : String) (keepText : Bool) (out : Option String)
  /-- The chunks of the files below a directory. -/
  | chunkDirectory (directory : String) (included excluded : List String) (output : String)
      (out : Option String)
  /-- The excerpt of some line ranges. -/
  | extract (ranges : List String) (root : String) (codeOnly : Bool)
  /-- The counts of some files. -/
  | stats (files : List String)
  /-- How the program is used. -/
  | help
  deriving DecidableEq, Repr

/-- A command with a settings file. -/
structure Invocation where
  /-- The settings file. -/
  config : Option String := none
  /-- The command. -/
  command : Command
  deriving DecidableEq, Repr

/-- The option that asks how a command is used. -/
def helpFlag : Flag := { key := "help", long := ["--help"], takesValue := false }

/-- The option for a settings file. -/
def configFlag : Flag := { key := "config", long := ["--config"], short := ['c'] }

/-- The option for an output format. -/
def outputFlag : Flag := { key := "output", long := ["--output"], short := ['o'] }

/-- The option for an output file. -/
def outFlag : Flag := { key := "out", long := ["--out"] }

/-- The options of each command. -/
def flagsOf : List (String × List Flag) :=
  [("chunk",
      [helpFlag, outputFlag,
        { key := "content", long := ["--include-content"], takesValue := false }, outFlag]),
    ("chunk-dir",
      [helpFlag, { key := "include", long := ["--include"], short := ['i'] },
        { key := "exclude", long := ["--exclude"], short := ['e'] }, outputFlag, outFlag]),
    ("extract",
      [helpFlag, { key := "root", long := ["--root"], short := ['r'] },
        { key := "code", long := ["--code-only"], takesValue := false }]),
    ("stats", [helpFlag])]

/-- The command of a name with the given arguments; none if something it needs is missing or there
is something it does not take. -/
def commandOf? (name : String) (p : Parsed) : Option Command :=
  let output := (p.value? "output").getD "json"
  if p.has "help" then some .help
  else
    match name, p.operands with
    | _, [] => none
    | "chunk", files => some (.chunk files output (p.has "content") (p.value? "out"))
    | "chunk-dir", [directory] =>
        some (.chunkDirectory directory (p.values "include") (p.values "exclude") output
          (p.value? "out"))
    | "extract", ranges => some (.extract ranges ((p.value? "root").getD ".") (p.has "code"))
    | "stats", files => some (.stats files)
    | _, _ => none

/-- The command that arguments stand for, if they stand for one. -/
def Invocation.ofArguments? (arguments : List String) : Option Invocation := do
  let p ← parse? [helpFlag, configFlag] false arguments
  if p.has "help" then return { command := .help }
  match p.operands with
  | [] => none
  | name :: rest =>
      let flags ← flagsOf.lookup name
      let command ← commandOf? name (← parse? flags true rest)
      return { config := p.value? "config", command }

end ChunkGraph.CommandLine
