import ChunkGraph.Failure
import ChunkGraph.Number.Quantity
import ChunkGraph.Path.Basic

/-!
# Files on a disk

A disk is a directory with files and directories in it, each under the names
that lead to it. Paths are followed segment by segment: every segment but the
last has to lead to a directory, and `..` leads back. Nothing is known of what
lies outside; a path that leads out finds a directory with nothing in it. Names
and paths have greatest lengths, and neither may hold a zero character.

## Main definitions

* `Disk`, `Disk.Entry` — files and directories.
* `Disk.follow`, `Disk.stat` — what a path leads to.
* `Disk.readText`, `Disk.readStrict` — the text of a file, what is no text in
  it replaced or refused.
* `Disk.marker` — what tells whether a file has changed.
* `Disk.filesBelow` — the files below a directory.
-/

namespace ChunkGraph

/-- What a name may stand for. -/
inductive Disk.Entry where
  /-- A file with its bytes and the time of its last change in milliseconds. -/
  | file (bytes : List UInt8) (modified : Int)
  /-- A directory. -/
  | directory
  deriving Repr, Inhabited

/-- Files and directories by the names that lead to them. -/
structure Disk where
  /-- The entries. -/
  entries : List (List Segment × Disk.Entry) := []
  deriving Repr, Inhabited

namespace Disk

/-- A place on the disk by the names that lead to it, or somewhere outside. -/
abbrev Place := Option (List Segment)

/-- What stands at a place. -/
def entryAt (disk : Disk) : Place → Option Entry
  | none => some .directory
  | some [] => some .directory
  | some names => disk.entries.lookup names

/-- There is a directory at the place. -/
def isDirectoryAt (disk : Disk) (place : Place) : Bool :=
  match disk.entryAt place with
  | some .directory => true
  | _ => false

/-- Why a path leads nowhere. -/
inductive Fault where
  /-- A name is not there. -/
  | missing
  /-- A segment before the last is a file. -/
  | notDirectory
  /-- A name is longer than names may be. -/
  | tooLong
  deriving DecidableEq, Repr

/-- A fault in following a path, as a failure. -/
def Fault.failure (path : Path) : Fault → Failure
  | .missing => .fileNotFound path.text
  | .notDirectory => .notDirectory path.text
  | .tooLong => .nameTooLong path.text

/-- The greatest number of bytes of a name. -/
def nameLength : Nat := 255

/-- The greatest number of bytes of a path. -/
def pathLength : Nat := 4095

/-- The place that is one segment further; outside no name is known. -/
def step (disk : Disk) (place : Place) (segment : Segment) : Except Fault Place :=
  if !disk.isDirectoryAt place then .error .notDirectory
  else if nameLength < (Text.Utf8.encode segment).length then .error .tooLong
  else if segment == Path.up then
    .ok (match place with
      | some (first :: rest) => some (first :: rest).dropLast
      | _ => none)
  else
    match place with
    | none => .error .missing
    | some names =>
        if (disk.entryAt (some (names ++ [segment]))).isSome then .ok (some (names ++ [segment]))
        else .error .missing

/-- The place that a path leads to. -/
def follow (disk : Disk) (path : Path) : Except Fault Place :=
  if pathLength < (Text.Utf8.encode path.chars).length then .error .tooLong
  else path.segments.foldlM disk.step (if path.isAbsolute then none else some [])

/-- The path holds a zero character. -/
def holdsZero (path : Path) : Bool := path.segments.any fun name => name.any (·.toNat == 0)

/-- What a path leads to. -/
def stat (disk : Disk) (path : Path) : Except Failure Entry :=
  if holdsZero path then .error .zeroInPath
  else
    match disk.follow path with
    | .error fault => .error (fault.failure path)
    | .ok place =>
        match disk.entryAt place with
        | some entry => .ok entry
        | none => .error (.fileNotFound path.text)

/-- Why it cannot even be said whether a path leads anywhere, if it cannot. -/
def probeFault? (disk : Disk) (path : Path) : Option Failure :=
  match disk.stat path with
  | .error (.nameTooLong text) => some (.nameTooLong text)
  | _ => none

/-- The path leads somewhere. -/
def pathExists (disk : Disk) (path : Path) : Bool := (disk.stat path).isOk

/-- The path leads to a file. -/
def isFile (disk : Disk) (path : Path) : Bool :=
  match disk.stat path with
  | .ok (.file ..) => true
  | _ => false

/-- The path leads to a directory. -/
def isDirectory (disk : Disk) (path : Path) : Bool :=
  match disk.stat path with
  | .ok .directory => true
  | _ => false

/-- The bytes of a file. -/
def readBytes (disk : Disk) (path : Path) : Except Failure (List UInt8) :=
  match disk.stat path with
  | .ok (.file bytes _) => .ok bytes
  | .ok .directory => .error (.isDirectory path.text)
  | .error failure => .error failure

/-- The text of a file. -/
def readText (disk : Disk) (path : Path) : Except Failure String :=
  (disk.readBytes path).map Text.Utf8.readText

/-- The text of a file that holds nothing else than text. -/
def readStrict (disk : Disk) (path : Path) : Except Failure String := do
  let bytes ← disk.readBytes path
  match Text.Utf8.firstFault? bytes with
  | some found => throw (.notText found)
  | none => return Text.Utf8.readText bytes

/-- What tells whether a file has changed: the time of its last change and its size. -/
structure Marker where
  /-- The time in milliseconds. -/
  modified : Int
  /-- The number of bytes. -/
  size : Nat
  deriving DecidableEq, Repr

/-- A number of seconds in milliseconds. Files keep times in nanoseconds, rounded down. -/
def milliseconds : Number.Quantity → Int
  | .whole n => 1000 * n
  | .float x =>
      let seconds := x.truncate?.getD 0
      let part := x.add (Number.Binary64.ofInt seconds).neg
      let nanos := (part.times (Number.tenTo 9)).floor?.getD 0
      let (seconds, nanos) := if nanos < 0 then (seconds - 1, nanos + Number.tenTo 9)
        else (seconds, nanos)
      let nano := Number.Binary64.ofScientific false 1 (-9)
      let kept := (Number.Binary64.ofInt seconds).add (nano.times nanos.toNat)
      (kept.times 1000).truncate?.getD 0

/-- The marker of what a path leads to. -/
def marker (disk : Disk) (path : Path) : Except Failure Marker :=
  (disk.stat path).map fun
    | .file bytes modified => ⟨modified, bytes.length⟩
    | .directory => ⟨0, 0⟩

/-! ## Changes -/

/-- The entries with one entry set. -/
def putEntry (names : List Segment) (entry : Entry) :
    List (List Segment × Entry) → List (List Segment × Entry)
  | [] => [(names, entry)]
  | (other, old) :: rest =>
      if other == names then (names, entry) :: rest else (other, old) :: putEntry names entry rest

/-- The disk with the directories that lead to a place. -/
def withParents (disk : Disk) (names : List Segment) : Disk :=
  ⟨((List.range names.length).drop 1).foldl
    (fun entries n => putEntry (names.take n) .directory entries) disk.entries⟩

/-- The disk with a file at a place, and the directories that lead to it. -/
def putFile (disk : Disk) (names : List Segment) (bytes : List UInt8) (modified : Int) : Disk :=
  ⟨putEntry names (.file bytes modified) (disk.withParents names).entries⟩

/-- The disk with a directory, and the directories that lead to it. -/
def putDirectory (disk : Disk) (names : List Segment) : Disk :=
  ⟨putEntry names .directory (disk.withParents names).entries⟩

/-- The disk without the entry at a place. -/
def remove (disk : Disk) (names : List Segment) : Disk :=
  ⟨disk.entries.filter (·.1 != names)⟩

/-- The disk with a text written to the file that a path leads to; its directory has to be there. -/
def writeText (disk : Disk) (path : Path) (text : String) (modified : Int) : Except Failure Disk :=
  let put (names : List Segment) : Disk :=
    ⟨putEntry names (.file (Text.Utf8.encode text.toList) modified) disk.entries⟩
  if holdsZero path then .error .zeroInPath
  else
    match disk.follow path with
    | .ok place =>
        match place, disk.entryAt place with
        | some names, some (.file ..) => .ok (put names)
        | _, _ => .error (.isDirectory path.text)
    | .error .missing =>
        match disk.follow path.parent with
        | .ok (some names) => .ok (put (names ++ [path.name]))
        | _ => .error (.fileNotFound path.text)
    | .error fault => .error (fault.failure path)

/-- The disk with the directory that a path leads to, and those on the way; `path` is what the
segments so far lead to. -/
def makeDirectory (disk : Disk) (path : Path) (last : Bool) : Except Failure Disk :=
  if holdsZero path then .error .zeroInPath
  else
    match disk.follow path with
    | .ok place =>
        if disk.isDirectoryAt place then .ok disk
        else .error (if last then .fileExists path.text else .notDirectory path.text)
    | .error .missing =>
        match disk.follow path.parent with
        | .ok (some names) => .ok ⟨putEntry (names ++ [path.name]) .directory disk.entries⟩
        | _ => .error (.fileNotFound path.text)
    | .error fault => .error (fault.failure path)

/-- The disk with the directories that lead to a path, those that are there already as they are. -/
def makeDirectories (disk : Disk) (path : Path) : Except Failure Disk :=
  let n := path.segments.length
  ((List.range (n + 1)).drop 1).foldlM
    (fun disk i => disk.makeDirectory ⟨path.root, path.segments.take i⟩ (i == n)) disk

/-! ## Listing -/

/-- The first list of names comes before the second, name by name, or is the same. -/
def namesLe : List Segment → List Segment → Bool
  | [], _ => true
  | _ :: _, [] => false
  | a :: as, b :: bs => if a == b then namesLe as bs else decide (a < b)

/-- The files below a directory, each by the names that lead to it from there, in order. -/
def filesBelow (disk : Disk) (path : Path) : List (List Segment) :=
  match disk.follow path with
  | .ok (some names) =>
      (disk.entries.filterMap fun (other, entry) =>
        match entry with
        | .file .. =>
            if names.isPrefixOf other && other != names then some (other.drop names.length)
            else none
        | .directory => none).mergeSort namesLe
  | _ => []

end Disk

end ChunkGraph
