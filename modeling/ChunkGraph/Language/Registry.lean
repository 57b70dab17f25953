import ChunkGraph.Data.Format
import ChunkGraph.Data.Inline
import ChunkGraph.Data.Keyed
import ChunkGraph.Failure
import ChunkGraph.Path.Basic

/-!
# Languages of files

The language of a file follows from its extension. A registry holds both
directions: the language of each extension, and the extensions given to each
language. Extensions are compared in lower case; one without a language has
the default language of the registry.

## Main definitions

* `Registry`, `Registry.register`, `Registry.unregister` — the two tables.
* `Registry.detect`, `Registry.detectPath` — the language of an extension and
  of a path.
* `Registry.ofDocument` — the registry described by a table of extensions.
* `Registry.standard` — the languages known from the start.
-/

namespace ChunkGraph

open Data

/-- A text in lower case. -/
def lowerText (text : String) : String := String.ofList (Text.lower text.toList)

/-- The languages of extensions. -/
structure Registry where
  /-- The language of each extension. -/
  languageOf : List (String × String) := []
  /-- The extensions given to each language. -/
  extensionsOf : List (String × List String) := []
  /-- The language of all other extensions. -/
  default : String := "typescript"
  deriving DecidableEq, Repr, Inhabited

namespace Registry

/-- The extensions given to a language. -/
def extensions (registry : Registry) (language : String) : List String :=
  (registry.extensionsOf.lookup language).getD []

/-- The registry after one more extension for a language. -/
def registerOne (registry : Registry) (language extension : String) : Registry :=
  let lower := lowerText extension
  let known := registry.extensions language
  let known := if known.contains lower then known else known ++ [lower]
  { registry with
    languageOf := Keyed.put lower language registry.languageOf
    extensionsOf := Keyed.put language known registry.extensionsOf }

/-- The registry after a language has been given extensions. -/
def register (registry : Registry) (language : String) (extensions : List String) : Registry :=
  extensions.foldl (fun r extension => r.registerOne language extension) registry

/-- The registry without a language and the extensions given to it. -/
def unregister (registry : Registry) (language : String) : Registry :=
  let dropped := registry.extensions language
  { registry with
    languageOf := registry.languageOf.filter fun (extension, _) => !dropped.contains extension
    extensionsOf := registry.extensionsOf.filter (·.1 != language) }

/-- The language of an extension. -/
def detect (registry : Registry) (extension : String) : String :=
  (registry.languageOf.lookup (lowerText extension)).getD registry.default

/-- The language of a path. -/
def detectPath (registry : Registry) (path : String) : String :=
  registry.detect (String.ofList (Path.ofText path).suffix)

/-- The extension has been given to some language. -/
def isSupported (registry : Registry) (extension : String) : Bool :=
  (registry.languageOf.lookup (lowerText extension)).isSome

/-- The languages that have been given extensions. -/
def languages (registry : Registry) : List String := registry.extensionsOf.map (·.1)

/-! ## Descriptions -/

/-- The registry after the entries of a description; those that are no lists are passed over. -/
def describe (registry : Registry) (entries : Table) : Registry :=
  entries.foldl
    (fun r (language, extensions) =>
      match extensions with
      | .list items => r.register language.inline (items.map (·.inline))
      | _ => r)
    registry

/-- The registry that a description gives, starting from an empty one. -/
def ofValue (value : Value) : Except Failure Registry :=
  match value with
  | .null => .ok {}
  | .table entries => .ok (describe {} entries)
  | other => .error (.languagesNotATable other.typeWord)

/-- The registry that a document describes. -/
def ofDocument (yaml : YamlReader) (text : String) : Except Failure Registry :=
  match yaml text with
  | .ok value => ofValue value
  | .error .malformedYaml => .error .malformedLanguages
  | .error failure => .error failure

/-- The languages known from the start. -/
def standardLanguages : List (String × List String) :=
  [("typescript", [".ts", ".tsx"]), ("javascript", [".js", ".jsx", ".mjs", ".cjs"]),
    ("vue", [".vue"]), ("python", [".py"]), ("java", [".java"]), ("go", [".go"]), ("rust", [".rs"]),
    ("cpp", [".cpp", ".cc", ".cxx", ".hpp"]), ("c", [".c", ".h"]), ("ruby", [".rb"]),
    ("php", [".php"])]

/-- The registry of the languages known from the start. -/
def standard : Registry :=
  standardLanguages.foldl (fun r (language, extensions) => r.register language extensions) {}

end Registry

/-- The language of a path among those known from the start. -/
def detectLanguage (path : String) : String := Registry.standard.detectPath path

end ChunkGraph
