import ChunkGraph.Settings.Basic

/-!
# Selections of files

A selection says which files of a directory are cut: those that some patterns
take in and others do not. The patterns of a call stand in place of those of the
settings. What reads a list of patterns is given; a list is read when it is
needed, and then it may turn out that it is none.

## Main definitions

* `Selection` — the patterns of a call, as they were given.
* `PatternReader` — what reads lists of patterns.
* `Filter`, `Selection.filter` — the patterns in use.
-/

namespace ChunkGraph

open Data

/-- Which files of a directory are cut. -/
structure Selection where
  /-- Patterns of files to be cut; without any, those of the settings. -/
  included : Option Value := none
  /-- Patterns of files to be passed over; without any, those of the settings. -/
  excluded : Option Value := none
  deriving Repr

/-- Reads a list of patterns as it was given: which paths it takes in, or what is wrong with it. -/
abbrev PatternReader := Value → Except Failure (String → Bool)

/-- The patterns in use. -/
structure Filter where
  /-- The paths taken in by the patterns of files to be cut. -/
  included : String → Bool
  /-- The paths taken in by the patterns of files to be passed over. -/
  excluded : String → Bool

/-- The file is cut. -/
def Filter.selects (filter : Filter) (path : String) : Bool :=
  filter.included path && !filter.excluded path

namespace Selection

/-- The patterns of a selection, with those of the settings where it has none. -/
def filter (patterns : PatternReader) (selection : Selection) (settings : Settings) :
    Except Failure Filter := do
  let included ← patterns (selection.included.getD settings.included)
  let excluded ← patterns (selection.excluded.getD settings.excluded)
  return { included, excluded }

end Selection

end ChunkGraph
