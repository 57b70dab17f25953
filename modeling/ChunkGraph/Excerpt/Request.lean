import ChunkGraph.Chunk.Basic
import ChunkGraph.Failure
import ChunkGraph.Number.Literal
import ChunkGraph.Text.Search

/-!
# Requests for lines

A request is written as a file, a colon and a range of lines: a first line and,
behind a dash, a last one. Without a last line the range is a single line. The
last colon counts, so that a path may contain some itself.

## Main definitions

* `RangeSpec.parse` — a written request as a file and a range.
* `RangeSpec.requests` — several written requests, grouped by file.
-/

namespace ChunkGraph.RangeSpec

/-- A line number. -/
def lineNumber? (text : List Char) : Option Int := (Number.readInt text).toOption

/-- The first and the last line of a range. -/
def lines? (text : List Char) : Option LineRange := do
  let (first, last) := (Text.cutAtFirst '-' text).getD (text, [])
  let start ← lineNumber? first
  let stop ← if last.isEmpty then some start else lineNumber? last
  return ⟨start, stop⟩

/-- The file and the range of a written request. -/
def parse (spec : String) : Except Failure (String × LineRange) :=
  match Text.cutAtLast ':' spec.toList with
  | none => .error (.malformedRange spec)
  | some (file, range) =>
      if file.isEmpty || range.isEmpty then .error (.malformedRange spec)
      else
        match lines? range with
        | some range => .ok (String.ofList file, range)
        | none => .error (.malformedLines spec)

/-- The requests with one more range for a file. -/
def addRange (file : String) (range : LineRange) : List RangeRequest → List RangeRequest
  | [] => [⟨file, [range]⟩]
  | request :: rest =>
      if request.filePath == file then ⟨file, request.ranges ++ [range]⟩ :: rest
      else request :: addRange file range rest

/-- Written requests grouped by file, the files in the order in which they first occur. -/
def requests (specs : List String) : Except Failure (List RangeRequest) :=
  specs.foldlM
    (fun found spec => do
      let (file, range) ← parse spec
      return addRange file range found)
    []

end ChunkGraph.RangeSpec
