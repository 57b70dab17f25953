import ChunkGraph.Data.Keyed
import ChunkGraph.Failure
import ChunkGraph.Resolve.Probe
import ChunkGraph.Text.Letter

/-!
# Path aliases

An alias stands for one or more target paths. A star in the alias takes any part
of a specifier that has no line feed in it, as long as possible, and the part
that the first star takes is put in place of every star of a target. All other
characters stand for themselves. A line feed at the very end of a specifier is
passed over.

Specifiers are matched with a pattern, a regular expression that is written down
from the alias: characters that could mean something in it are escaped, and each
escaped star becomes a group. Of regular expressions only as much is read as such
patterns have.

Targets are texts. An alias with another target is kept apart, as what is wrong
with it shows only in a specifier of its form.

## Main definitions

* `patternText`, `readPattern?` — the pattern of an alias, and its pieces.
* `matchesParts`, `wildcard?` — whether a specifier is of the form of a pattern,
  and the part that its first star takes.
* `Aliases`, `Aliases.candidates` — the aliases and the module paths that a
  specifier may mean.
* `Aliases.fault?` — what is wrong with the aliases of whose form a specifier
  is, if anything.
-/

namespace ChunkGraph.Resolve

/-- A piece of a pattern. -/
inductive AliasPart where
  /-- A character that stands for itself. -/
  | exactly (c : Char)
  /-- Any text without line feeds. -/
  | anything
  deriving DecidableEq, Repr

/-- The characters that are escaped. -/
def escapedChars : List Char := "()[]\x7b\x7d?*+-|^$\\.&~# \t\n\r\x0b\x0c".toList

/-- The text with a backslash in front of every character that is escaped. -/
def escape (text : List Char) : List Char :=
  text.flatMap fun c => if escapedChars.contains c then ['\\', c] else [c]

/-- The text with a group that takes anything in place of every escaped star. -/
def groupStars : List Char → List Char
  | '\\' :: '*' :: rest => '(' :: '.' :: '*' :: ')' :: groupStars rest
  | c :: rest => c :: groupStars rest
  | [] => []

/-- The pattern of an alias, which has to match from the beginning to the end. -/
def patternText (aliasText : List Char) : List Char :=
  '^' :: (groupStars (escape aliasText) ++ ['$'])

/-- The characters that mean something in a pattern unless they are escaped. -/
def metaChars : List Char := ".\\[\x7b()*+?^$|".toList

/-- The pieces of a pattern behind its beginning; none if there is anything in it but groups that
take anything, escaped characters and those that stand for themselves. -/
def readPieces? : List Char → Option (List AliasPart)
  | [] => none
  | ['$'] => some []
  | '(' :: '.' :: '*' :: ')' :: rest => (readPieces? rest).map (.anything :: ·)
  | '\\' :: c :: rest =>
      if Text.isAsciiLetter c || Text.isAsciiDigit c then none
      else (readPieces? rest).map (.exactly c :: ·)
  | c :: rest =>
      if metaChars.contains c then none else (readPieces? rest).map (.exactly c :: ·)

/-- The pieces of a pattern. -/
def readPattern? : List Char → Option (List AliasPart)
  | '^' :: rest => readPieces? rest
  | _ => none

/-- The text is of the form of the pieces, apart from a line feed at its end. -/
def matchesParts : List AliasPart → List Char → Bool
  | [], text => text.isEmpty || text == ['\n']
  | .exactly c :: parts, d :: text => c == d && matchesParts parts text
  | .exactly _ :: _, [] => false
  | .anything :: parts, [] => matchesParts parts []
  | .anything :: parts, c :: text =>
      matchesParts parts (c :: text) || (c != '\n' && matchesParts (.anything :: parts) text)

/-- The longest part without line feeds from which the rest of the text is of the form of the
pieces. -/
def longestTaken? (parts : List AliasPart) : List Char → Option (List Char)
  | [] => if matchesParts parts [] then some [] else none
  | c :: text =>
      match if c == '\n' then none else longestTaken? parts text with
      | some taken => some (c :: taken)
      | none => if matchesParts parts (c :: text) then some [] else none

/-- What the first star of a pattern takes of a text of its form; nothing if it has no star. -/
def wildcard? : List AliasPart → List Char → Option (List Char)
  | [], text => if matchesParts [] text then some [] else none
  | .exactly c :: parts, d :: text => if c == d then wildcard? parts text else none
  | .exactly _ :: _, [] => none
  | .anything :: parts, text => longestTaken? parts text

/-- What the first star of an alias takes of a specifier, if that is of the form of the alias. -/
def taken? (aliasText specifier : List Char) : Option (List Char) :=
  (readPattern? (patternText aliasText)).bind fun parts => wildcard? parts specifier

/-- Aliases with their targets, and the directory that targets are relative to. -/
structure Aliases where
  /-- The directory of the targets. -/
  base : String := "."
  /-- The targets of each alias, in order. -/
  entries : List (String × List String) := []
  /-- Aliases with a target that is no text, and what is wrong with it. -/
  unusable : List (String × Failure) := []
  deriving DecidableEq, Repr

namespace Aliases

/-- The aliases of a list of entries below a directory; of a repeated alias the last entry
counts. -/
def ofEntries (base : String) (entries : List (String × List String)) : Aliases :=
  { base := if base.isEmpty then "." else Path.normalize base
    entries := entries.foldl (fun found (name, targets) => Keyed.put name targets found) [] }

/-- The module path of a target in which a part takes the place of every star. -/
def expand (aliases : Aliases) (taken : List Char) (target : String) : String :=
  String.ofList (Path.normalizeChars
    (Path.joinText aliases.base.toList (Text.substitute '*' taken target.toList)))

/-- The module paths that a specifier may mean, in the order of the aliases and their targets. -/
def candidates (aliases : Aliases) (specifier : String) : List String :=
  aliases.entries.flatMap fun (name, targets) =>
    match taken? name.toList specifier.toList with
    | some taken => targets.map (aliases.expand taken)
    | none => []

/-- What is wrong with the first alias that cannot be used and of whose form the specifier is. -/
def fault? (aliases : Aliases) (specifier : String) : Option Failure :=
  aliases.unusable.findSome? fun (name, failure) =>
    (taken? name.toList specifier.toList).map fun _ => failure

/-- The file that a specifier stands for: of the first module path that has one. -/
def resolve? (aliases : Aliases) (fileExists : String → Bool) (extensions : List String)
    (specifier : String) : Option String :=
  (aliases.candidates specifier).findSome? (probe? fileExists extensions)

end Aliases

end ChunkGraph.Resolve
