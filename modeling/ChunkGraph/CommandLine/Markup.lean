import ChunkGraph.CommandLine.Markup.Argument
import ChunkGraph.CommandLine.Markup.Picture
import ChunkGraph.CommandLine.Markup.Style

/-!
# Markup in printed texts

Texts that are printed to a console may hold tags in square brackets, which set
the style and are not shown. A tag begins with a small letter, a hash, a slash
or an at sign. A backslash before it makes it plain text, and two backslashes
before it stand for one. A tag with a slash closes the last open tag of the same
style, or of any style if nothing stands behind the slash; a tag that closes
nothing is at fault.

What lies between tags is shown with pictures in place of their names and
without control characters.

## Main definitions

* `Markup.pieces` — a text cut into tags and what lies between them.
* `Markup.render` — what is shown of a text.
-/

namespace ChunkGraph.Markup

/-! ## Pieces -/

/-- A tag. -/
structure Tag where
  /-- The name. -/
  name : List Char
  /-- What stands behind an equals sign. -/
  parameters : Option (List Char) := none
  deriving DecidableEq, Repr

/-- A piece of a text. -/
inductive Piece where
  /-- What lies between tags. -/
  | plain (text : List Char)
  /-- A tag. -/
  | tag (tag : Tag)
  deriving DecidableEq, Repr

/-- The tag with something inside of its brackets. -/
def Tag.ofInside (inside : List Char) : Tag :=
  match Text.cutAtFirst '=' inside with
  | some (name, parameters) => ⟨name, some parameters⟩
  | none => ⟨inside, none⟩

/-- The character may begin a tag. -/
def beginsTag (c : Char) : Bool := ('a' ≤ c && c ≤ 'z') || c == '#' || c == '/' || c == '@'

/-- The inside of the tag whose opening bracket comes right before the text. -/
def tagInside? (text : List Char) : Option (List Char) :=
  let inside := text.takeWhile fun c => c != ']' && c != '['
  match inside with
  | c :: _ =>
      if beginsTag c && (text.drop inside.length).head? == some ']' then some inside else none
  | [] => none

/-- The piece of a text unless that is empty. -/
def plainPiece (text : List Char) : List Piece := if text.isEmpty then [] else [.plain text]

/-- The pieces of a tag behind a number of backslashes. -/
def tagPieces (slashes : Nat) (inside : List Char) : List Piece :=
  plainPiece (List.replicate (slashes / 2) '\\') ++
    if slashes % 2 == 1 then [.plain ('[' :: inside ++ [']'])] else [.tag (.ofInside inside)]

/-- The pieces of a text after `skip` characters that belong to a tag and `slashes` backslashes that
may belong to one; `before` has come right before those, the last character first. -/
def piecesFrom (skip slashes : Nat) (before : List Char) : List Char → List Piece
  | [] => plainPiece (List.replicate slashes '\\' ++ before).reverse
  | c :: rest =>
      let plain := List.replicate slashes '\\' ++ before
      if 0 < skip then piecesFrom (skip - 1) 0 [] rest
      else if c == '\\' then piecesFrom 0 (slashes + 1) before rest
      else if c == '[' then
        match tagInside? rest with
        | some inside =>
            plainPiece before.reverse ++ tagPieces slashes inside ++
              piecesFrom (inside.length + 1) 0 [] rest
        | none => piecesFrom 0 0 (c :: plain) rest
      else piecesFrom 0 0 (c :: plain) rest

/-- The pieces of a text. -/
def pieces (text : List Char) : List Piece := piecesFrom 0 0 [] text

/-! ## What is shown -/

/-- The text with a bracket in place of a backslash and a bracket. -/
def bareBrackets : List Char → List Char
  | '\\' :: '[' :: rest => '[' :: bareBrackets rest
  | c :: rest => c :: bareBrackets rest
  | [] => []

/-- The character is a control character that is not shown. -/
def isHidden (c : Char) : Bool :=
  let n := c.toNat
  n == 7 || n == 8 || n == 11 || n == 12 || n == 13

/-- The text without control characters that are not shown. -/
def withoutHidden (text : List Char) : List Char := text.filter (!isHidden ·)

/-- What is shown of a text between tags. -/
def shown (text : List Char) : List Char := withoutHidden (withPictures (bareBrackets text))

/-- The stack without its first tag of a name, and that tag. -/
def takeTag? (name : List Char) : List Tag → Option (Tag × List Tag)
  | [] => none
  | tag :: tags =>
      if tag.name == name then some (tag, tags)
      else (takeTag? name tags).map fun (found, left) => (found, tag :: left)

/-- The open tags after one has been closed, which has to be readable if it names an action. -/
def closed (tag : Tag) (left : List Tag) : Except Failure (List Tag) :=
  match tag.name, tag.parameters with
  | '@' :: _, some (c :: parameters) =>
      match argumentFault? (c :: parameters) with
      | some failure => .error failure
      | none => .ok left
  | _, _ => .ok left

/-- The tag that a closing tag with a name closes, and those that stay open. -/
def openedBy? (name : List Char) (tags : List Tag) : Except Failure (Option (Tag × List Tag)) :=
  match name, tags with
  | [], [] => .ok none
  | [], tag :: left => .ok (some (tag, left))
  | name, tags => (Style.standardName name).map fun name => takeTag? name tags

/-- The open tags, the last first, after a closing tag. -/
def closeTag (tag : Tag) (name : List Char) (tags : List Tag) : Except Failure (List Tag) := do
  match ← openedBy? name tags with
  | some (opened, left) => closed opened left
  | none => throw (.unmatchedTag (String.ofList tag.name))

/-- The open tags after one more tag. -/
def addTag (tags : List Tag) (tag : Tag) : Except Failure (List Tag) :=
  match tag.name with
  | '/' :: name => closeTag tag (Text.trim name) tags
  | name => (Style.standardName name).map fun name => { tag with name } :: tags

/-- What is shown of pieces, when some tags are open. -/
def renderPieces : List Tag → List Piece → Except Failure (List Char)
  | _, [] => .ok []
  | tags, .plain text :: rest => (renderPieces tags rest).map (shown text ++ ·)
  | tags, .tag tag :: rest =>
      match addTag tags tag with
      | .ok tags => renderPieces tags rest
      | .error failure => .error failure

/-- What is shown of a text. -/
def render (text : String) : Except Failure String :=
  (renderPieces [] (pieces text.toList)).map String.ofList

end ChunkGraph.Markup
