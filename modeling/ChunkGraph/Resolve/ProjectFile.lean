import ChunkGraph.Data.Json.Reader
import ChunkGraph.Data.Members
import ChunkGraph.Resolve.Alias

/-!
# Aliases of a project file

A TypeScript project declares its aliases in `tsconfig.json`. The file is JSON
with two liberties: lines may be comments, and a comma may stand before a
closing bracket. Both are taken out before the text is read as JSON, wherever
they stand.

A file that cannot be read as JSON declares nothing. One that can, but holds data
of other types than it should, is at fault, and so is one that is nested too deep.

## Main definitions

* `dropLineComments`, `dropLooseCommas` — the two liberties taken out.
* `Aliases.ofProjectText` — the aliases that a project file declares.
-/

namespace ChunkGraph.Resolve

open Data

/-- Where one is in a text while comments are taken out. -/
inductive CommentState where
  /-- At the beginning of a line. -/
  | lineStart
  /-- Later in a line. -/
  | inLine
  /-- In the blanks before a comment. -/
  | beforeComment
  /-- In a comment. -/
  | inComment
  deriving DecidableEq, Repr

/-- A comment comes next, perhaps after blanks. -/
def startsComment (text : List Char) : Bool := Text.startsWith ['/', '/'] (Text.trimLeft text)

/-- The text without comments, from a given state on. -/
def withoutComments : CommentState → List Char → List Char
  | _, [] => []
  | .lineStart, c :: rest =>
      if startsComment (c :: rest) then
        withoutComments (if Text.isBlank c then .beforeComment else .inComment) rest
      else c :: withoutComments (if c == '\n' then .lineStart else .inLine) rest
  | .inLine, c :: rest => c :: withoutComments (if c == '\n' then .lineStart else .inLine) rest
  | .beforeComment, c :: rest =>
      withoutComments (if Text.isBlank c then .beforeComment else .inComment) rest
  | .inComment, c :: rest =>
      if c == '\n' then c :: withoutComments .lineStart rest else withoutComments .inComment rest

/-- The text without the lines that are comments, nor the blanks before them. -/
def dropLineComments (text : List Char) : List Char := withoutComments .lineStart text

/-- A closing bracket comes next, perhaps after blanks. -/
def closesNext (text : List Char) : Bool :=
  (Text.trimLeft text).head? == some '\x7d' || (Text.trimLeft text).head? == some ']'

/-- The text without the commas that stand before a closing bracket. -/
def dropLooseCommas : List Char → List Char
  | [] => []
  | c :: rest =>
      if c == ',' && closesNext rest then dropLooseCommas rest else c :: dropLooseCommas rest

/-- The base directory that options give; nothing given is the directory of the file. -/
def baseOf (given : Option Value) : String :=
  match given with
  | none => "."
  | some value => if value.isFalsy then "" else value.inline

/-- The targets of an alias that are texts. -/
def textTargets (targets : List Value) : List String := targets.filterMap (·.asText?)

/-- What is wrong with the first target of an alias that is no text, if there is one. -/
def targetFault? (targets : List Value) : Option Failure :=
  (targets.find? (·.asText?.isNone)).map fun value => .misuse (.noPart value.typeWord "replace")

/-- The aliases of a table of paths below a base directory. -/
def Aliases.ofPaths (base : String) (paths : Value) : Except Failure Aliases :=
  match paths with
  | .table _ => do
      let found ← paths.fields.mapM fun (name, value) => do
        let targets ← value.members
        return (name, targets)
      return { Aliases.ofEntries base (found.map fun (name, targets) => (name, textTargets targets))
        with unusable := found.filterMap fun (name, targets) =>
          (targetFault? targets).map fun failure => (name, failure) }
  | paths => .error (.misuse (.noPart paths.typeWord "items"))

/-- The aliases that the data of a project file declare, if they declare any. -/
def Aliases.ofProjectData (data : Value) : Except Failure (Option Aliases) := do
  let options := ((← data.part? "compilerOptions").getD .null).orEmpty
  let paths := ((← options.part? "paths").getD .null).orEmpty
  if paths.isFalsy then return none
  return some (← Aliases.ofPaths (baseOf (← options.part? "baseUrl")) paths)

/-- The aliases that the text of a project file declares, if it declares any. -/
def Aliases.ofProjectText (text : List Char) : Except Failure (Option Aliases) :=
  match Json.read (dropLooseCommas (dropLineComments text)) with
  | .ok data => Aliases.ofProjectData data
  | .error .nestedTooDeep => .error .nestedTooDeep
  | .error _ => .ok none

end ChunkGraph.Resolve
