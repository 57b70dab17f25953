import ChunkGraph.Data.Members
import ChunkGraph.Resolve.Alias

/-!
# Resolving specifiers

A specifier is the text by which a file names a module. A resolver knows which
files exist, which extensions to try, and perhaps aliases.

Resolving can fail. Of some paths it cannot be said whether they lead to a file,
and an extension may turn out to be no text; both show only when no file has
been found before. `Resolver.resolve?` leaves failures aside, and
`Resolver.fault?` finds them.

## Main definitions

* `Resolver`, `Resolver.resolve?` — from a specifier to a file.
* `Resolver.fault?` — why a specifier cannot be resolved, if it cannot.
-/

namespace ChunkGraph

open Data

/-- What specifiers are resolved with. -/
structure Resolver where
  /-- The files that exist. -/
  fileExists : String → Bool
  /-- The extensions to be tried. -/
  extensions : List String := Resolve.standardExtensions
  /-- The aliases, if there are any. -/
  aliases : Option Resolve.Aliases := none
  /-- Why it cannot be said of a path whether it leads to a file, if it cannot. -/
  pathFault? : String → Option Failure := fun _ => none
  /-- What is wrong with the extension that would be tried next, if anything. -/
  extensionFault? : Option Failure := none

namespace Resolver

/-- The file that a specifier stands for in another file. -/
def resolve? (r : Resolver) (file specifier : String) : Option String :=
  if specifier.isEmpty then none
  else if Resolve.isRelative specifier then
    Resolve.resolveRelative? r.fileExists r.extensions file specifier
  else r.aliases.bind fun aliases => aliases.resolve? r.fileExists r.extensions specifier

/-- The resolver with extensions as they were given: those up to the first that is no text can be
tried. -/
def withExtensions (r : Resolver) (given : List Value) : Resolver :=
  let usable := given.map (·.asText?)
  { r with
    extensions := (usable.takeWhile (·.isSome)).filterMap id
    extensionFault? := (given.find? (·.asText?.isNone)).map fun value =>
      .misuse (.noText value.typeWord) }

/-! ## Failures -/

/-- The paths that are tried for a module path, with what goes wrong between them. -/
def attempts (r : Resolver) (base : String) : List (Except Failure String) :=
  match r.extensionFault? with
  | none => (Resolve.candidatePaths r.extensions base).map .ok
  | some failure => (r.extensions.map fun ext => .ok (base ++ ext)) ++ [.error failure]

/-- What goes wrong before a file is found. -/
def faultAmong (r : Resolver) : List (Except Failure String) → Option Failure
  | [] => none
  | .error failure :: _ => some failure
  | .ok path :: rest =>
      match r.pathFault? path with
      | some failure => some failure
      | none => if r.fileExists path then none else faultAmong r rest

/-- Why a specifier in a file cannot be resolved, if it cannot. -/
def fault? (r : Resolver) (file specifier : String) : Option Failure :=
  if specifier.isEmpty then none
  else if Resolve.isRelative specifier then
    r.faultAmong (r.attempts (Resolve.relativeBase file specifier))
  else
    r.aliases.bind fun aliases =>
      (aliases.fault? specifier).or
        (r.faultAmong ((aliases.candidates specifier).flatMap r.attempts))

end Resolver

end ChunkGraph
