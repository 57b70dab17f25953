import ChunkGraph.Report.Service
import ChunkGraph.Web.Decode

/-!
# The web interface

Each operation of the service has an address. An address that is asked for with
the wrong method is told apart from one that is unknown, and an address that
ends in slashes leads to the one without, which is read once more as if it had
been asked for. Bodies are checked before anything is done. A file that is
missing is not found, a directory that is none and a path or pattern that is
malformed are a bad request, and any other failure is an error of the server.

## Main definitions

* `Web.Request`, `Web.Response` — what comes in and goes out.
* `Web.Endpoint`, `Web.Endpoint.ofPath?` — the addresses.
* `Web.respond` — the answer to a request.
-/

namespace ChunkGraph.Web

open Data

/-- A request. -/
structure Request where
  /-- The method, in any case. -/
  method : String
  /-- The address, perhaps with a query. -/
  target : String
  /-- The body; it may be missing. -/
  body : Option Value := none

/-- A response. -/
inductive Response where
  /-- A status and a body. -/
  | complete (status : Nat) (body : Value)
  /-- The body of the request is at fault at these places. -/
  | invalid (places : List String)

/-- The version of the program. -/
def version : String := "0.1.0"

/-! ## Addresses -/

/-- What an address stands for. -/
inductive Endpoint where
  | health
  | chunk
  | chunkFile
  | chunkDirectory
  | analyze
  | metadata (id : String)
  | extract
  | cacheStats
  | cacheClear
  /-- Descriptions of the interface, which this library does not hold. -/
  | description
  deriving DecidableEq, Repr

/-- The addresses that stand for themselves. -/
def endpoints : List (String × Endpoint) :=
  [("/health", .health), ("/chunk", .chunk), ("/chunk/file", .chunkFile),
    ("/chunk/directory", .chunkDirectory), ("/analyze/dependencies", .analyze),
    ("/extract", .extract), ("/cache/stats", .cacheStats), ("/cache/clear", .cacheClear),
    ("/openapi.json", .description), ("/docs", .description),
    ("/docs/oauth2-redirect", .description), ("/redoc", .description)]

namespace Endpoint

/-- The method with which an address is asked for. -/
def method : Endpoint → String
  | .health | .metadata _ | .cacheStats | .description => "GET"
  | _ => "POST"

/-- The text without a line feed at its end. -/
def withoutFinalFeed (text : List Char) : List Char :=
  if text.getLast? == some '\n' then text.dropLast else text

/-- What an address stands for, taken as it is. -/
def ofPath? (path : List Char) : Option Endpoint :=
  match endpoints.lookup (String.ofList (withoutFinalFeed path)) with
  | some endpoint => some endpoint
  | none =>
      match Text.dropFront? "/metadata/".toList path with
      | some id =>
          if id.isEmpty || id.contains '/' then none else some (.metadata (String.ofList id))
      | none => none

end Endpoint

/-- The bytes of an address, in which a percent sign and two digits stand for one byte. -/
def addressBytes : List Char → List UInt8
  | [] => []
  | '%' :: a :: b :: rest =>
      match Text.baseDigit? 16 a, Text.baseDigit? 16 b with
      | some x, some y => (16 * x + y).toUInt8 :: addressBytes rest
      | _, _ => 37 :: addressBytes (a :: b :: rest)
  | c :: rest => Text.Utf8.encode [c] ++ addressBytes rest

/-- The text that an address stands for. -/
def decodeAddress (text : List Char) : List Char := Text.Utf8.decode (addressBytes text)

/-- The path of a target: it begins with a slash, and names of another host are left out. -/
def pathOf (target : List Char) : List Char :=
  let text := target.takeWhile fun c => c != '?' && c != '#'
  let path := match text with
    | '/' :: '/' :: rest => rest.dropWhile (· != '/')
    | _ => text
  '/' :: path.dropWhile (· == '/')

/-- The segments so far with one more: a dot stands for nothing, and two dots lead back. -/
def addSegment (kept : List (List Char)) (segment : List Char) : List (List Char) :=
  if segment == ['.'] then kept
  else if segment == ['.', '.'] then (if kept == [[]] then kept else kept.dropLast)
  else kept ++ [segment]

/-- A path without dots that stand for segments. -/
def withoutDots (path : List Char) : List Char :=
  Text.join ['/'] ((Text.splitOn '/' path).foldl addSegment [])

/-- The address of a target, without query and fragment; on its way it is decoded twice. -/
def addressOf (target : List Char) : List Char :=
  decodeAddress (decodeAddress (withoutDots (pathOf target)))

/-- What an address stands for, with or without slashes at its end, followed at most so many
times. -/
def Endpoint.followed? : Nat → List Char → Option Endpoint
  | 0, path => ofPath? path
  | n + 1, path =>
      match ofPath? path with
      | some endpoint => some endpoint
      | none =>
          let without := Text.dropWhileRight (· == '/') path
          if without.length < path.length && (ofPath? without).isSome then
            followed? n (addressOf without)
          else none

/-- What an address stands for; every time that slashes are dropped it gets shorter. -/
def Endpoint.find? (path : List Char) : Option Endpoint := followed? path.length path

/-! ## Bodies -/

/-- The body of a request as a value, null if it is missing. -/
def Request.value (request : Request) : Value := request.body.getD .null

/-- The body of a request read by its fields. -/
def Request.read {α : Type} (request : Request) (fields : String → Value → Checked α) : Checked α :=
  readTable fields "body" request.value

/-- A range of lines. -/
def readRange : BodyReader LineRange :=
  readTable fun place body =>
    (Checked.both (required readInteger place "start" body)
      (required readInteger place "end" body)).map fun (start, stop) => ⟨start, stop⟩

/-- Ranges of lines of a file. -/
def readRequest : BodyReader RangeRequest :=
  readTable fun place body =>
    (Checked.both (required readText place "file_path" body)
      (required (readList 0 readRange) place "ranges" body)).map fun (file, ranges) =>
        ⟨file, ranges⟩

/-! ## Answers -/

/-- A status with a message. -/
def detail (status : Nat) (text : String) : Response :=
  .complete status (.record [("detail", .text text)])

/-- The answer to a failure. -/
def ofFailure : Failure → Response
  | .fileNotFound path => detail 404 ("File not found: " ++ path)
  | .notDirectory path => detail 400 (Failure.notDirectory path).message
  | .noDirectoryToScan path => detail 400 (Failure.noDirectoryToScan path).message
  | .zeroInPath => detail 400 Failure.zeroInPath.message
  | .malformedPattern pattern => detail 400 (Failure.malformedPattern pattern).message
  | _ => detail 500 "Internal Server Error"

/-- The answer to an operation that may have failed. -/
def ofResult {α : Type} (body : α → Value) : Except Failure α → Response
  | .ok result => .complete 200 (body result)
  | .error failure => ofFailure failure

/-- Chunks and their number. -/
def chunksBody (chunks : List Chunk) : Value :=
  .record [("chunks", chunkRecords chunks), ("total_chunks", .nat chunks.length)]

/-- The options of a call that says whether chunks keep their text. -/
def callOptions (s : Service) (includeContent : Option Bool) : Option Options :=
  includeContent.map fun b => { s.chunker.options with includeContent := b }

/-- The answer of an operation on a body that has been checked. -/
def withBody {α : Type} (s : Service) (checked : Checked α) (act : α → Response × Service) :
    Response × Service :=
  match checked with
  | .ok body => act body
  | .error places => (.invalid places, s)

/-- The chunks of a text. -/
def answerChunk (w : World) (s : Service) (request : Request) : Response × Service :=
  let body := request.read fun place body =>
    Checked.both (required readText place "code" body)
      (Checked.both (required readText place "file_path" body)
        (optional readTruth place "include_content" body))
  withBody s body fun (code, path, content) =>
    let (chunks, s) := s.chunkCode w code path (callOptions s content)
    (ofResult chunksBody chunks, s)

/-- The chunks of a file. -/
def answerChunkFile (w : World) (s : Service) (request : Request) : Response × Service :=
  let body := request.read fun place body =>
    Checked.both (required readText place "file_path" body)
      (optional readTruth place "include_content" body)
  withBody s body fun (path, content) =>
    let (chunks, s) := s.chunkFile w path (callOptions s content)
    (ofResult chunksBody chunks, s)

/-- The chunks of the files below a directory. -/
def answerChunkDirectory (w : World) (s : Service) (request : Request) : Response × Service :=
  let body := request.read fun place body =>
    Checked.both (required readText place "directory" body)
      (Checked.both (optional (readList 0 readText) place "include" body)
        (optional (readList 0 readText) place "exclude" body))
  withBody s body fun (directory, included, excluded) =>
    let selection : Selection := ⟨included.map .texts, excluded.map .texts⟩
    let (result, s) := s.chunkDirectory w directory selection none
    (ofResult ChunkingResult.record result, s)

/-- How the chunks of several files hang together. -/
def answerAnalyze (w : World) (s : Service) (request : Request) : Response × Service :=
  let body := request.read fun place body => required (readList 1 readText) place "file_paths" body
  withBody s body fun paths =>
    let (result, s) := s.chunkFiles w paths none
    (ofResult (fun r => Value.record r.linkRecords) result, s)

/-- The excerpt of some requests. -/
def answerExtract (w : World) (s : Service) (request : Request) : Response × Service :=
  let body := request.read fun place body => required (readList 1 readRequest) place "requests" body
  withBody s body fun requests =>
    let (result, s) := s.extract w requests
    (ofResult Excerpt.record result, s)

/-- A chunk that was returned earlier. -/
def answerMetadata (s : Service) (id : String) : Response :=
  match s.findChunk? id with
  | some chunk => .complete 200 chunk.record
  | none => detail 404 ("Unknown chunk: " ++ id)

/-- The counts of the service; a bound without digits cannot be sent. -/
def answerStats (s : Service) : Response :=
  match s.chunker.trees.capacity.given with
  | .float x =>
      if x.floor?.isSome then .complete 200 s.statsRecord
      else .complete 500 (.text "Internal Server Error")
  | _ => .complete 200 s.statsRecord

/-- The answer at an address. -/
def answerAt (w : World) (s : Service) (request : Request) : Endpoint → Response × Service
  | .health => (.complete 200 (.record [("status", .text "ok"), ("version", .text version)]), s)
  | .chunk => answerChunk w s request
  | .chunkFile => answerChunkFile w s request
  | .chunkDirectory => answerChunkDirectory w s request
  | .analyze => answerAnalyze w s request
  | .metadata id => (answerMetadata s id, s)
  | .extract => answerExtract w s request
  | .cacheStats => (answerStats s, s)
  | .cacheClear => (.complete 200 (.record [("status", .text "cleared")]), s.clearCaches)
  | .description => (detail 404 "Not Found", s)

/-- The answer to a request. -/
def respond (w : World) (s : Service) (request : Request) : Response × Service :=
  match Endpoint.find? (addressOf request.target.toList) with
  | none => (detail 404 "Not Found", s)
  | some endpoint =>
      if endpoint.method == request.method.toUpper then answerAt w s request endpoint
      else (detail 405 "Method Not Allowed", s)

end ChunkGraph.Web
