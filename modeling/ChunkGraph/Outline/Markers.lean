import ChunkGraph.Chunk.Basic
import ChunkGraph.Text.Word

/-!
# What the head of a declaration says

Whether a function is asynchronous or a generator is read off its text: after
the lines of decorators, up to the first opening bracket. In Python a function
is a generator if the word `yield` occurs anywhere in it.

The dependencies of a declaration are its own, followed by those imports of the
file that come from other modules than its own dependencies do.

## Main definitions

* `functionMarkers` — asynchronous, and a generator.
* `mergeDependencies` — own dependencies and imports, without repetitions.
-/

namespace ChunkGraph.Outline

/-- The line holds a decorator. -/
def isDecoratorLine (line : List Char) : Bool := (Text.trimLeft line).head? == some '@'

/-- The text behind the lines of decorators, up to the first opening bracket. -/
def signatureHead (text : List Char) : List Char :=
  let lines := (Text.splitLines (Text.trimLeft text)).dropWhile isDecoratorLine
  (Text.joinLines lines).takeWhile (· != '(')

/-- The function with this text is asynchronous, and it is a generator. -/
def functionMarkers (text language : String) : Bool × Bool :=
  let head := signatureHead text.toList
  (Text.hasWord "async".toList head,
    if language == "python" then Text.hasWord "yield".toList text.toList else head.contains '*')

/-- What makes two dependencies the same entry. -/
def entryKey (d : Dependency) : DependencyKind × String × String := (d.kind, d.source, d.name)

/-- The list with one more dependency, unless it has that entry. -/
def addEntry (merged : List Dependency) (d : Dependency) : List Dependency :=
  if merged.any (entryKey · == entryKey d) then merged else merged ++ [d]

/-- The modules that dependencies come from. -/
def sourcesOf (dependencies : List Dependency) : List String :=
  (dependencies.map (·.source)).filter (!·.isEmpty)

/-- A declaration's own dependencies, then the imports from modules it does not depend on itself;
of each entry the first. -/
def mergeDependencies (own imports : List Dependency) : List Dependency :=
  let others := imports.filter fun d => !(sourcesOf own).contains d.source
  (own ++ others).foldl addEntry []

end ChunkGraph.Outline
