import ChunkGraph.Chunk.Options
import ChunkGraph.Data.Keyed
import ChunkGraph.Excerpt.Basic

/-!
# Settings

Settings are values under a section and a key. What a settings file says is kept
as it is, whatever its type: only some ranges are checked, and only when asked.
A setting of a type that cannot be used is a failure where it is first used. The
sections and their keys are fixed.

## Main definitions

* `Settings`, `Settings.standard` — settings, and those that hold by default.
* `Settings.ofValue` — the settings that structured data describes.
* `Settings.check` — the ranges.
* `Settings.options`, `Settings.limits`, … — settings as the library uses them.
-/

namespace ChunkGraph

open Data

/-- Values by section and key. -/
structure Settings where
  /-- The sections with their keys, in a fixed order. -/
  sections : List (String × List (String × Value))
  deriving Repr, Inhabited

namespace Settings

/-- The settings that hold where nothing else is said. -/
def standard : Settings :=
  ⟨[("chunking",
      [("chunk_size", .int 512), ("include_nested", .bool true), ("merge_small_chunks", .bool true),
        ("min_chunk_size", .int 50), ("include_content", .bool false),
        ("tokenizer", .text "estimate"),
        ("include", .texts ["**/*.ts", "**/*.tsx", "**/*.js", "**/*.jsx", "**/*.vue"]),
        ("exclude", .texts ["**/node_modules/**", "**/dist/**", "**/build/**",
          "**/package-lock.json", "**/yarn.lock", "**/pnpm-lock.yaml"])]),
    ("cache",
      [("parser_pool_size", .int 5), ("ast_cache_ttl", .float (.ofInt 300)),
        ("ast_cache_max_size", .int 1000)]),
    ("extraction",
      [("max_gap_lines", .int 20), ("max_dependency_files", .int 500),
        ("max_discovery_rounds", .int 50),
        ("module_extensions", .texts Resolve.standardExtensions)]),
    ("server", [("host", .text "127.0.0.1"), ("port", .int 8000)]),
    ("logging",
      [("level", .text "INFO"),
        ("format", .text "%(asctime)s - %(name)s - %(levelname)s - %(message)s")])]⟩

/-- The value of a key of a section. -/
def get (s : Settings) (name key : String) : Value :=
  ((s.sections.lookup name).bind (·.lookup key)).getD .null

/-- Entries with a value set under a key that they have. -/
def setEntry (key : String) (value : Value) (entries : List (String × Value)) :
    List (String × Value) :=
  entries.map fun (other, old) => (other, if other == key then value else old)

/-- The settings with a value set; a key that its section does not have is passed over. -/
def set (s : Settings) (name key : String) (value : Value) : Settings :=
  ⟨s.sections.map fun (other, entries) =>
    (other, if other == name then setEntry key value entries else entries)⟩

/-- The settings as structured data. -/
def toValue (s : Settings) : Value :=
  .record (s.sections.map fun (name, entries) => (name, .record entries))

/-! ## From structured data -/

/-- The title under which the faults of each section are reported. -/
def titles : List (String × String) :=
  [("chunking", "ChunkingConfig"), ("cache", "CacheConfig"), ("extraction", "ExtractionConfig"),
    ("server", "ServerConfig"), ("logging", "LoggingConfig")]

/-- What is wrong with the key of a section, if anything. -/
def keyFault? (title : String) (known : List String) (key : String) : Option String :=
  if key == "self" then some (title ++ ".__init__() got multiple values for argument 'self'")
  else if known.contains key then none
  else some (title ++ ".__init__() got an unexpected keyword argument '" ++ key ++ "'")

/-- The entries of a section, or what is wrong with them. -/
def sectionEntries (title : String) (known : List String) :
    Value → Except String (List (String × Value))
  | .table entries =>
      if entries.all fun (key, _) => match key with | .text _ => true | _ => false then
        let fields := Value.fields (.table entries)
        match fields.findSome? fun (key, _) => keyFault? title known key with
        | some fault => .error fault
        | none => .ok fields
      else .error "keywords must be strings"
  | value =>
      if value.isFalsy then .ok []
      else
        .error ("depchunk.core.config." ++ title ++
          "() argument after ** must be a mapping, not " ++ value.typeWord)

/-- What structured data has for a section: its data, or why they cannot be had. -/
def sectionData? (name : String) : Value → Option (Except String Value)
  | .table entries => (Table.lookup? (.text name) entries).map .ok
  | .list items =>
      if items.any fun item => item.asText? == some name then
        some (.error "list indices must be integers or slices, not str")
      else none
  | .text s =>
      if Text.hasPart name.toList s.toList then
        some (.error "string indices must be integers, not 'str'")
      else none
  | _ => none

/-- The settings with the entries that structured data has for a section. -/
def readSection (data : Value) (s : Settings) (name : String) : Except Failure Settings :=
  let known := ((s.sections.lookup name).getD []).map (·.1)
  let title := (titles.lookup name).getD name
  match sectionData? name data with
  | none => .ok s
  | some found =>
      match found.bind (sectionEntries title known) with
      | .error reason => .error (.invalidSection name reason)
      | .ok entries => .ok (entries.foldl (fun s (key, value) => s.set name key value) s)

/-- The settings that structured data describes; what they do not say is as by default. Sections
cannot be looked for in a single datum other than a text. -/
def ofValue (data : Value) : Except Failure Settings :=
  match data with
  | .text _ | .list _ | .table _ => (standard.sections.map (·.1)).foldlM (readSection data) standard
  | .scalar _ => .error (.misuse (.noMembers data.typeWord))

/-! ## Ranges -/

/-- A setting as a bound. -/
def bound (s : Settings) (name key : String) : Bound := ⟨s.get name key⟩

/-- What is wrong with a setting that has to be above zero, if anything is. -/
def notPositive? (s : Settings) (name key : String) : Option Failure :=
  let b := s.bound name key
  (b.signFault? "<=").or
    (if b.reachedBy (.whole 0) then
      some (.outOfRange (name ++ "." ++ key ++ " must be positive"))
    else none)

/-- What is wrong with a setting that must not be below zero, if anything is. -/
def negative? (s : Settings) (name key : String) : Option Failure :=
  let b := s.bound name key
  (b.signFault? "<").or
    (if b.passedBy (.whole 0) then
      some (.outOfRange (name ++ "." ++ key ++ " must not be negative"))
    else none)

/-- The ways of counting that may be asked for. -/
def tokenizers : List String := ["estimate", "tiktoken"]

/-- What is wrong with the way of counting, if anything is. -/
def badTokenizer? (s : Settings) : Option Failure :=
  if ((s.get "chunking" "tokenizer").asText?.map tokenizers.contains).getD false then none
  else
    some (.outOfRange ("chunking.tokenizer must be one of " ++ String.intercalate ", " tokenizers))

/-- The checks in their order. -/
def rangeFaults (s : Settings) : List (Option Failure) :=
  [s.notPositive? "chunking" "chunk_size", s.negative? "chunking" "min_chunk_size",
    s.badTokenizer?, s.negative? "cache" "parser_pool_size",
    s.notPositive? "cache" "ast_cache_max_size", s.negative? "cache" "ast_cache_ttl",
    s.notPositive? "extraction" "max_dependency_files"]

/-- The settings if all ranges are kept. -/
def check (s : Settings) : Except Failure Settings :=
  match s.rangeFaults.findSome? id with
  | some failure => .error failure
  | none => .ok s

/-- What is wrong with the level of the log, if anything is: it has to be a text. -/
def levelFault? (s : Settings) : Option Failure :=
  match s.get "logging" "level" with
  | .text _ => none
  | value => some (.misuse (.noPart value.typeWord "upper"))

/-! ## Use -/

/-- A value used as a truth value. -/
def truthOf (value : Value) : Bool := !value.isFalsy

/-- The options of a chunking run, as values in their order. -/
def optionValues (s : Settings) : List (String × Value) :=
  [("chunk_size", s.get "chunking" "chunk_size"),
    ("include_nested", s.get "chunking" "include_nested"),
    ("merge_small_chunks", s.get "chunking" "merge_small_chunks"),
    ("min_chunk_size", s.get "chunking" "min_chunk_size"),
    ("include_content", s.get "chunking" "include_content"),
    ("parser_pool_size", s.get "cache" "parser_pool_size"),
    ("ast_cache_ttl", s.get "cache" "ast_cache_ttl"),
    ("ast_cache_max_size", s.get "cache" "ast_cache_max_size"),
    ("tokenizer", s.get "chunking" "tokenizer")]

/-- The options of a chunking run. -/
def options (s : Settings) : Options :=
  { chunkSize := s.bound "chunking" "chunk_size"
    includeNested := truthOf (s.get "chunking" "include_nested")
    mergeSmall := truthOf (s.get "chunking" "merge_small_chunks")
    minChunkSize := s.bound "chunking" "min_chunk_size"
    includeContent := truthOf (s.get "chunking" "include_content")
    poolSize := s.bound "cache" "parser_pool_size"
    treeLifetime := s.bound "cache" "ast_cache_ttl"
    treeCapacity := s.bound "cache" "ast_cache_max_size"
    tokenizer := (s.get "chunking" "tokenizer").inline }

/-- The greatest number of files whose chunks are kept. -/
def fileCapacity (s : Settings) : Bound := s.bound "cache" "ast_cache_max_size"

/-- The bounds of excerpts. -/
def limits (s : Settings) : Limits :=
  { maxGap := s.bound "extraction" "max_gap_lines"
    maxFiles := s.bound "extraction" "max_dependency_files"
    maxRounds := s.bound "extraction" "max_discovery_rounds" }

/-- The extensions tried for modules. -/
def extensions (s : Settings) : Except Failure (List Value) :=
  (s.get "extraction" "module_extensions").members

/-- The patterns of files to be cut, as they were given. -/
def included (s : Settings) : Value := s.get "chunking" "include"

/-- The patterns of files to be passed over, as they were given. -/
def excluded (s : Settings) : Value := s.get "chunking" "exclude"

end Settings

end ChunkGraph
