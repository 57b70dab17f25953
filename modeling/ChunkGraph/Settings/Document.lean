import ChunkGraph.Data.Format
import ChunkGraph.Disk.Basic
import ChunkGraph.Settings.Environment

/-!
# Settings files

Settings are read from and written to files in YAML or JSON; the extension of
the file says which. What reads YAML is given.

## Main definitions

* `Settings.ofFile` — the settings that a file describes.
* `Settings.load` — the settings of a run: of a file, if one is given, then of
  the environment, checked.
* `Settings.data` — settings as structured data.
* `Settings.document`, `Settings.save` — settings as texts and in files.

Settings that are nested too deep are not handed out, and a document cannot be
written if an integer in it has too many digits.
-/

namespace ChunkGraph.Settings

open Data

/-- The format of settings with an extension. -/
def formatOfExtension (extension : String) : Except Failure Format :=
  if extension == ".yaml" || extension == ".yml" then .ok .yaml
  else if extension == ".json" then .ok .json
  else .error (.unsupportedSettings extension)

/-- The format of a settings file. -/
def formatOf (path : Path) : Except Failure Format :=
  formatOfExtension (String.ofList path.suffix)

/-- The data of a text in a format; an empty document says nothing. -/
def readData (yaml : YamlReader) (format : Format) (text : String) : Except Failure Value :=
  match format with
  | .yaml => (format.read yaml text).map fun value => if value.isFalsy then .table [] else value
  | .json => if Text.allBlank text.toList then .ok (.table []) else format.read yaml text

/-- The settings that a file describes. -/
def ofFile (yaml : YamlReader) (disk : Disk) (path : Path) : Except Failure Settings := do
  if let some failure := disk.probeFault? path then throw failure
  if !disk.pathExists path then throw (.settingsNotFound path.text)
  let text ← disk.readStrict path
  let format ← formatOf path
  let data ← readData yaml format text
  ofValue data

/-- The settings of a run. -/
def load (yaml : YamlReader) (disk : Disk) (env : Environment) (path : Option Path) :
    Except Failure Settings := do
  let s ← match path with
    | some path => ofFile yaml disk path
    | none => pure standard
  let s ← s.override env
  s.check

/-- The greatest depth of settings that are handed out. -/
def maxDepth : Nat := 491

/-- The settings as structured data. -/
def data (s : Settings) : Except Failure Value :=
  if maxDepth < s.toValue.depth then .error .nestedTooDeep else .ok s.toValue

/-- The settings as a document in a format. -/
def document (s : Settings) (format : Format) : Except Failure String := do
  let data ← s.data
  match format.writeFault? data with
  | some failure => throw failure
  | none => return format.write false data

/-- When a file that is written here changes, in milliseconds. -/
def written : Int := 0

/-- The disk after the settings have been written to a file; directories that lead to it are
made. -/
def save (s : Settings) (disk : Disk) (path : Path) : Except Failure Disk := do
  let format ← formatOf path
  let text ← s.document format
  let disk ← disk.makeDirectories path.parent
  disk.writeText path text written

end ChunkGraph.Settings
