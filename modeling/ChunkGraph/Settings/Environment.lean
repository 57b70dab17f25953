import ChunkGraph.Number.Literal
import ChunkGraph.Settings.Basic

/-!
# Settings from the environment

Most settings can be overridden by an environment variable whose name is made of
the section and the key. The text of the variable is read as the type of the
setting.

## Main definitions

* `Settings.Conversion` — how a text is read.
* `Settings.overrides` — the variables with what they set.
* `Settings.override` — settings after the environment has been looked at.
-/

namespace ChunkGraph.Settings

open Data

/-- How the text of a variable is read. -/
inductive Conversion where
  /-- An integer. -/
  | integer
  /-- A number with a fraction. -/
  | number
  /-- One of the words for yes; all else means no. -/
  | truth
  /-- The text as it is. -/
  | text
  /-- Texts with commas between them. -/
  | texts
  deriving DecidableEq, Repr

/-- The text is a word for yes, in any case. -/
def parseTruth (text : String) : Bool :=
  ["true", "1", "yes", "on"].contains (String.ofList (Text.lower text.toList))

/-- The texts between commas, without blanks around them and without empty ones. -/
def parseTexts (text : String) : List String :=
  (((Text.splitOn ',' text.toList).map Text.trim).filter (!·.isEmpty)).map String.ofList

/-- A text read as an integer. -/
def parseInteger (text : String) : Except Failure Int :=
  match Number.readInt text.toList with
  | .ok n => .ok n
  | .error .malformed => .error (.notAnInteger 10 text)
  | .error (.tooLong digits) => .error (.integerTooLong digits)

/-- A text read in a given way. -/
def Conversion.apply (conversion : Conversion) (text : String) : Except Failure Value :=
  match conversion with
  | .integer => (parseInteger text).map .int
  | .number =>
      match Number.readFloat? text.toList with
      | some x => .ok (.float x)
      | none => .error (.notANumber text)
  | .truth => .ok (.bool (parseTruth text))
  | .text => .ok (.text text)
  | .texts => .ok (.texts (parseTexts text))

/-- A variable, the section and the key that it sets, and how it is read. -/
structure Override where
  /-- The variable. -/
  envName : String
  /-- The section. -/
  name : String
  /-- The key. -/
  key : String
  /-- How the text is read. -/
  conversion : Conversion
  deriving DecidableEq, Repr

/-- The variables in the order in which they are looked at. -/
def overrides : List Override :=
  [⟨"DEPCHUNK_CHUNKING_CHUNK_SIZE", "chunking", "chunk_size", .integer⟩,
    ⟨"DEPCHUNK_CHUNKING_INCLUDE_NESTED", "chunking", "include_nested", .truth⟩,
    ⟨"DEPCHUNK_CHUNKING_MERGE_SMALL_CHUNKS", "chunking", "merge_small_chunks", .truth⟩,
    ⟨"DEPCHUNK_CHUNKING_MIN_CHUNK_SIZE", "chunking", "min_chunk_size", .integer⟩,
    ⟨"DEPCHUNK_CHUNKING_INCLUDE_CONTENT", "chunking", "include_content", .truth⟩,
    ⟨"DEPCHUNK_CHUNKING_TOKENIZER", "chunking", "tokenizer", .text⟩,
    ⟨"DEPCHUNK_CHUNKING_INCLUDE", "chunking", "include", .texts⟩,
    ⟨"DEPCHUNK_CHUNKING_EXCLUDE", "chunking", "exclude", .texts⟩,
    ⟨"DEPCHUNK_CACHE_PARSER_POOL_SIZE", "cache", "parser_pool_size", .integer⟩,
    ⟨"DEPCHUNK_CACHE_AST_CACHE_TTL", "cache", "ast_cache_ttl", .number⟩,
    ⟨"DEPCHUNK_CACHE_AST_CACHE_MAX_SIZE", "cache", "ast_cache_max_size", .integer⟩,
    ⟨"DEPCHUNK_EXTRACTION_MAX_GAP_LINES", "extraction", "max_gap_lines", .integer⟩,
    ⟨"DEPCHUNK_EXTRACTION_MAX_DEPENDENCY_FILES", "extraction", "max_dependency_files", .integer⟩,
    ⟨"DEPCHUNK_EXTRACTION_MAX_DISCOVERY_ROUNDS", "extraction", "max_discovery_rounds", .integer⟩,
    ⟨"DEPCHUNK_SERVER_HOST", "server", "host", .text⟩,
    ⟨"DEPCHUNK_SERVER_PORT", "server", "port", .integer⟩,
    ⟨"DEPCHUNK_LOGGING_LEVEL", "logging", "level", .text⟩]

/-- Variables with their texts. -/
abbrev Environment := List (String × String)

/-- The settings after one variable has been looked at. -/
def overrideOne (env : Environment) (s : Settings) (o : Override) : Except Failure Settings :=
  match env.lookup o.envName with
  | none => .ok s
  | some text => (o.conversion.apply text).map (s.set o.name o.key)

/-- The settings after the environment has been looked at, up to the first variable that cannot be
read, and what is wrong with that. -/
def overrideFrom (env : Environment) (s : Settings) : List Override → Settings × Option Failure
  | [] => (s, none)
  | o :: rest =>
      match overrideOne env s o with
      | .ok s => overrideFrom env s rest
      | .error failure => (s, some failure)

/-- The settings after the environment has been looked at. -/
def override (env : Environment) (s : Settings) : Except Failure Settings :=
  match overrideFrom env s overrides with
  | (s, none) => .ok s
  | (_, some failure) => .error failure

end ChunkGraph.Settings
