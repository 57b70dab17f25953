import ChunkGraph.Path.Basic

/-!
# Files of modules

A module is named without the extension of its file, and a directory stands for
the index file in it. The extensions are tried in order, first on the path
itself and then on an index file; a package file comes last.

A specifier that begins with a dot is relative to the directory of the file in
which it stands.

## Main definitions

* `candidatePaths`, `probe?` — the files a module path may mean, and the first
  that exists.
* `isRelative`, `relativeBase` — relative specifiers and what they stand for.
* `resolveRelative?` — the file of a relative specifier.
-/

namespace ChunkGraph.Resolve

/-- The extensions that are tried; the empty one is the path as it stands. -/
def standardExtensions : List String := [".ts", ".tsx", ".js", ".jsx", ".vue", ".py", ""]

/-- Files that make a directory a package. -/
def packageFiles : List String := ["__init__.py"]

/-- A text placed below the text of a directory. -/
def below (base name : String) : String := String.ofList (Path.joinText base.toList name.toList)

/-- The files that a module path may mean, in the order in which they are tried. -/
def candidatePaths (extensions : List String) (base : String) : List String :=
  extensions.map (base ++ ·) ++
    (extensions.filter (!·.isEmpty)).map (fun ext => below base ("index" ++ ext)) ++
    packageFiles.map (below base)

/-- The first file that exists among those a module path may mean. -/
def probe? (fileExists : String → Bool) (extensions : List String) (base : String) :
    Option String :=
  (candidatePaths extensions base).find? fileExists

/-- The specifier is relative to the file in which it stands. -/
def isRelative (specifier : String) : Bool := specifier.toList.head? == some '.'

/-- The module path that a relative specifier stands for in a file. -/
def relativeBase (file specifier : String) : String :=
  let directory := Path.directory (Path.normalizeChars file.toList)
  let text := specifier.toList
  String.ofList
    (Path.normalizeChars (if directory.isEmpty then text else Path.joinText directory text))

/-- The file that a relative specifier stands for. -/
def resolveRelative? (fileExists : String → Bool) (extensions : List String)
    (file specifier : String) : Option String :=
  if isRelative specifier then probe? fileExists extensions (relativeBase file specifier) else none

end ChunkGraph.Resolve
