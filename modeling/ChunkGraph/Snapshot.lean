import ChunkGraph.CommandLine.Basic
import ChunkGraph.Text.Base64

/-!
# Snapshots of a workspace

A snapshot holds all that a run may look at: files, empty directories, the
environment, and the syntax trees of the texts that can be parsed. It is
described by structured data; what reads patterns and YAML, and what counts
tokens, is not in it. A node is a list of its kind, whether it is named,
its field, its first byte, the byte behind it, and perhaps its children. A file
is its text, or its bytes in base 64.

## Main definitions

* `Syntax.Node.ofValue` — a node.
* `parserOf` — the parser that knows the trees of a snapshot.
* `diskOf`, `environmentOf` — the files and the environment.
* `surroundingsOf` — all of them.
-/

namespace ChunkGraph.Snapshot

open Data Syntax

/-- A value used as a natural number. -/
def naturalOf (value : Value) : Nat := (value.asInt?.getD 0).toNat

/-- A node without its children. -/
def nodeWith (kind named field start stop : Value) (children : List Node) : Node :=
  .mk (kind.asText?.getD "") (naturalOf named != 0) (field.asText?.getD "") (naturalOf start)
    (naturalOf stop) children

mutual

/-- The node that a value describes. -/
def nodeOf : Value → Node
  | .list [kind, named, field, start, stop, .list children] =>
      nodeWith kind named field start stop (nodesOf children)
  | .list [kind, named, field, start, stop] => nodeWith kind named field start stop []
  | _ => default

/-- The nodes that values describe. -/
def nodesOf : List Value → List Node
  | [] => []
  | value :: rest => nodeOf value :: nodesOf rest

end

/-- A text under a key. -/
def textAt (value : Value) (key : String) : String := ((value.get? key).bind (·.asText?)).getD ""

/-- The value under a key, null if there is none. -/
def valueAt (value : Value) (key : String) : Value := (value.get? key).getD .null

/-- A parsed text: grammar, text and root. -/
abbrev ParsedText := String × String × Node

/-- The parsed texts of a snapshot. -/
def parsedTexts (snapshot : Value) : List ParsedText :=
  (valueAt snapshot "trees").items.map fun tree =>
    (textAt tree "grammar", textAt tree "source", nodeOf (valueAt tree "root"))

/-- The parser that knows some texts and no others. -/
def parserOf (texts : List ParsedText) : Parser := fun grammar source =>
  (texts.find? fun (g, s, _) => g == grammar && s == source).map (·.2.2)

/-- The bytes of a file. -/
def bytesOf : Value → List UInt8
  | .text s => Text.Utf8.encode s.toList
  | value => Text.Base64.decode (textAt value "base64")

/-- The names that lead to a path. -/
def namesOf (path : String) : List Segment := (Path.ofText path).segments

/-- The time at which the files of a snapshot were changed, in milliseconds. -/
def changed : Int := 1000000

/-- The files and directories of a snapshot. -/
def diskOf (snapshot : Value) : Disk :=
  let disk := (valueAt snapshot "files").fields.foldl
    (fun disk (path, content) => disk.putFile (namesOf path) (bytesOf content) changed) {}
  ((valueAt snapshot "dirs").items.filterMap (·.asText?)).foldl
    (fun disk path => disk.putDirectory (namesOf path)) disk

/-- The environment of a snapshot. -/
def environmentOf (snapshot : Value) : Settings.Environment :=
  (valueAt snapshot "env").fields.filterMap fun (name, value) => value.asText?.map (name, ·)

/-- Files and parser of a snapshot. -/
def worldOf (patterns : PatternReader) (snapshot : Value) : World :=
  { disk := diskOf snapshot, parser := parserOf (parsedTexts snapshot), patterns }

/-- All of a snapshot. -/
def surroundingsOf (patterns : PatternReader) (yaml : YamlReader) (encoding : Encoding)
    (snapshot : Value) : CommandLine.Surroundings :=
  { world := worldOf patterns snapshot, yaml, encoding, environment := environmentOf snapshot }

end ChunkGraph.Snapshot
