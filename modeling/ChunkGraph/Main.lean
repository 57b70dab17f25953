import ChunkGraph.Data.Yaml.Reader
import ChunkGraph.Path.Glob.Line
import ChunkGraph.Snapshot

/-!
# The program

The program reads a snapshot of a workspace from its input, as JSON, and runs
the command of its arguments on it. It brings the reader of patterns and that of
YAML along, and no vocabulary of an encoding.
-/

open ChunkGraph

/-- Runs the command of the arguments on the snapshot of the input. -/
def main (arguments : List String) : IO UInt32 := do
  let input ← IO.getStdin
  let text ← input.getLine
  let snapshot := (Data.Json.parse? text.toList).getD .null
  let yaml : Data.YamlReader := fun text => Data.Yaml.read text.toList
  let surroundings := Snapshot.surroundingsOf Glob.readPatterns yaml .unavailable snapshot
  let outcome := CommandLine.run surroundings arguments
  for printed in outcome.printed do
    IO.print printed.render
  return outcome.code.toUInt32
