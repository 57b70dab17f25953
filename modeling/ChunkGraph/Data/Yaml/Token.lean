import ChunkGraph.Data.Yaml.Written
import ChunkGraph.Text.Utf8

/-!
# Tokens of YAML

A text is read as a list of tokens. Blocks have no brackets of their own: a
token further in than the block around it opens a block, and one further out
closes those that it leaves. Whether a token is the key of a table shows only
when the colon behind it is met, so a place where a key may begin is kept as a
*candidate* until then; the marks of the key and of the table that it begins
are put in front of it afterwards. A candidate lasts to the end of its line and
for at most 1024 characters.

What cannot be read ends the list with a token that holds the failure, so that
it counts only for a reader that gets so far. Blocks and brackets inside of too
many others are not read.

## Main definitions

* `Token` — the tokens.
* `Lexer` — what has been read of a text and what may follow.
* `Token.ofText` — the tokens of a text.
-/

namespace ChunkGraph.Data.Yaml

/-- A line that tells how the document behind it is to be read. -/
inductive Directive where
  /-- The version of the format. -/
  | version (major : Nat)
  /-- What a handle in front of tags stands for. -/
  | handle (name stem : String)
  /-- Anything else. -/
  | other
  deriving DecidableEq, Repr

/-- A token. -/
inductive Token where
  | directive (d : Directive)
  | documentStart
  | documentEnd
  /-- A block list begins. -/
  | openList
  /-- A block table begins. -/
  | openTable
  /-- A block ends. -/
  | closeBlock
  | openBracket
  | closeBracket
  | openBrace
  | closeBrace
  | comma
  | dash
  /-- A key begins. -/
  | key
  /-- A value begins. -/
  | colon
  /-- The node with that name once more. -/
  | reference (name : String)
  /-- The name of the node that follows. -/
  | anchor (name : String)
  /-- The tag of the node that follows, perhaps with a handle in front. -/
  | tag (handle : Option String) (rest : String)
  | scalar (plain : Bool) (text : List Char)
  /-- Something that cannot be read. -/
  | fault (failure : Failure)
  deriving DecidableEq, Repr

/-! ## Names, tags and directives -/

/-- A letter, digit, dash or underscore. -/
def isNameChar (c : Char) : Bool :=
  Text.isAsciiDigit c || ('A' ≤ c && c ≤ 'Z') || ('a' ≤ c && c ≤ 'z') || c == '-' || c == '_'

/-- The character may stand behind the name of a node. -/
def endsName (c : Char) : Bool :=
  isGap c || ['?', ':', ',', ']', '\x7d', '%', '@', '\x60'].contains c

/-- The name of a node, from behind its sign. -/
def readName (p : Place) : Except Failure (String × Place) :=
  let (name, p) := p.takeWhile isNameChar
  if !name.isEmpty && endsOr endsName p.rest then .ok (String.ofList name, p)
  else .error .malformedYaml

/-- The character may stand in a tag. -/
def isTagChar (c : Char) : Bool :=
  isNameChar c || [';', '/', '?', ':', '@', '&', '=', '+', '$', ',', '.', '!', '~', '*', '\x27',
    '(', ')', '[', ']', '%'].contains c

/-- The bytes of escapes in front, and the place behind them. -/
def readTagEscapes : Nat → Place → Except Failure (List UInt8 × Place)
  | 0, _ => .error .malformedYaml
  | fuel + 1, p =>
      match p.rest with
      | '%' :: a :: b :: _ =>
          match Text.inBase? 16 [a, b] with
          | some byte =>
              (readTagEscapes fuel (p.skip 3)).map fun (bytes, p) => (byte.toUInt8 :: bytes, p)
          | none => .error .malformedYaml
      | '%' :: _ => .error .malformedYaml
      | _ => .ok ([], p)

/-- The characters of a tag from a place on. -/
def readTagChars : Nat → Place → Except Failure (List Char × Place)
  | 0, _ => .error .malformedYaml
  | fuel + 1, p =>
      match p.rest with
      | [] => .ok ([], p)
      | c :: _ =>
          if c == '%' then do
            let (bytes, p) ← readTagEscapes (fuel + 1) p
            if !Text.Utf8.isValid bytes then throw .malformedYaml
            let (more, p) ← readTagChars fuel p
            return (Text.Utf8.decode bytes ++ more, p)
          else if isTagChar c then (readTagChars fuel p.next).map fun (more, p) => (c :: more, p)
          else .ok ([], p)

/-- The characters of a tag; there has to be one. -/
def readTagText (p : Place) : Except Failure (String × Place) := do
  let (text, q) ← readTagChars (p.rest.length + 1) p
  if q.index == p.index then throw .malformedYaml
  return (String.ofList text, q)

/-- A handle: a name between two exclamation marks, or one or two of them alone. -/
def readHandle (p : Place) : Except Failure (String × Place) :=
  match p.rest with
  | '!' :: ' ' :: _ => .ok ("!", p.next)
  | '!' :: rest =>
      let name := rest.takeWhile isNameChar
      if (rest.drop name.length).head? == some '!' then
        .ok (String.ofList ('!' :: name ++ ['!']), p.skip (name.length + 2))
      else .error .malformedYaml
  | _ => .error .malformedYaml

/-- A tag, from its exclamation mark on. -/
def readTag (p : Place) : Except Failure (Token × Place) := do
  let rest := p.rest.drop 1
  let (token, q) ←
    if rest.head? == some '<' then do
      let (text, q) ← readTagText (p.skip 2)
      if q.rest.head? != some '>' then throw .malformedYaml
      pure (Token.tag none text, q.next)
    else if atGap rest then pure (Token.tag none "!", p.next)
    else if (rest.takeWhile (!isSpaceOrBreak ·)).contains '!' then do
      let (handle, q) ← readHandle p
      let (text, q) ← readTagText q
      pure (Token.tag (some handle) text, q)
    else do
      let (text, q) ← readTagText p.next
      pure (Token.tag (some "!") text, q)
  if endsOr isSpaceOrBreak q.rest then return (token, q) else throw .malformedYaml

/-- The digits of a version, as a number. -/
def readVersionPart (p : Place) : Except Failure (Nat × Place) :=
  let (digits, p) := p.takeWhile Text.isAsciiDigit
  if digits.isEmpty then .error .malformedYaml else .ok ((Text.inBase? 10 digits).getD 0, p)

/-- The version that a directive names. -/
def readVersion (p : Place) : Except Failure (Directive × Place) := do
  let (major, p) ← readVersionPart p.skipSpaces
  if p.rest.head? != some '.' then throw .malformedYaml
  let (_, p) ← readVersionPart p.next
  if endsOr isSpaceOrBreak p.rest then return (.version major, p) else throw .malformedYaml

/-- The handle that a directive names. -/
def readHandleDirective (p : Place) : Except Failure (Directive × Place) := do
  let (name, p) ← readHandle p.skipSpaces
  if p.rest.head? != some ' ' then throw .malformedYaml
  let (stem, p) ← readTagText p.skipSpaces
  if endsOr isSpaceOrBreak p.rest then return (.handle name stem, p) else throw .malformedYaml

/-- A directive, from behind its percent sign. -/
def readDirective (p : Place) : Except Failure (Directive × Place) := do
  let (name, p) := p.takeWhile isNameChar
  if name.isEmpty || !endsOr isSpaceOrBreak p.rest then throw .malformedYaml
  let (directive, p) ←
    if name == "YAML".toList then readVersion p
    else if name == "TAG".toList then readHandleDirective p
    else pure (.other, p.lineEnd)
  return (directive, ← p.skipEmptyLine)

/-! ## The lexer -/

/-- A place where a key may begin. -/
structure Candidate where
  /-- Number of tokens in front of it. -/
  position : Nat
  /-- A key has to begin here. -/
  required : Bool
  /-- The place. -/
  place : Place
  deriving Repr

/-- The greatest number of characters from the beginning of a key to its colon. -/
def keyLength : Nat := 1024

/-- The most blocks, brackets or nodes that may stand around each other. -/
def maxNesting : Nat := 487

/-- What has been read of a text, and what may follow. -/
structure Lexer where
  /-- Where the next token is looked for. -/
  place : Place
  /-- The tokens read so far, the last first. -/
  tokens : List Token := []
  /-- Their number. -/
  count : Nat := 0
  /-- Number of open brackets and braces. -/
  flow : Nat := 0
  /-- The columns of the open blocks, the innermost first; all stand further in than `-1`. -/
  indents : List Int := []
  /-- A key may begin at the next token. -/
  keyAllowed : Bool := true
  /-- The places where keys may have begun, by the number of brackets open there. -/
  candidates : List (Nat × Candidate) := []

namespace Lexer

/-- The column of the innermost block, `-1` outside of all blocks. -/
def indent (l : Lexer) : Int := l.indents.headD (-1)

/-- One more token, read up to a place. -/
def push (l : Lexer) (token : Token) (place : Place) : Lexer :=
  { l with tokens := token :: l.tokens, count := l.count + 1, place }

/-- Tokens put in front of the last ones, so that `position` tokens stand before them. -/
def insertAt (l : Lexer) (position : Nat) (tokens : List Token) : Lexer :=
  let behind := l.count - position
  { l with
    tokens := l.tokens.take behind ++ tokens.reverse ++ l.tokens.drop behind
    count := l.count + tokens.length }

/-- The blocks that stand further in than a column closed; brackets keep blocks from closing. -/
def closeTo (l : Lexer) (column : Int) : Lexer :=
  if l.flow != 0 then l
  else
    let closed := l.indents.takeWhile (column < ·)
    { l with
      tokens := closed.map (fun _ => Token.closeBlock) ++ l.tokens
      count := l.count + closed.length
      indents := l.indents.drop closed.length }

/-- The lexer, and whether a block had to be opened at a column. -/
def openAt (l : Lexer) (column : Int) : Bool × Lexer :=
  if l.indent < column then (true, { l with indents := column :: l.indents }) else (false, l)

/-- The candidate at the current number of brackets. -/
def candidate? (l : Lexer) : Option Candidate := l.candidates.lookup l.flow

/-- The lexer without the candidate at the current number of brackets; a key that has to be there
cannot be given up. -/
def dropCandidate (l : Lexer) : Except Failure Lexer :=
  if (l.candidate?.map (·.required)) == some true then .error .malformedYaml
  else .ok { l with candidates := l.candidates.filter (·.1 != l.flow) }

/-- The lexer with the next token as a candidate, if a key may begin here. -/
def addCandidate (l : Lexer) : Except Failure Lexer :=
  if !l.keyAllowed then .ok l
  else do
    let l ← l.dropCandidate
    let required := l.flow == 0 && l.indent == l.place.column
    return { l with candidates := (l.flow, ⟨l.count, required, l.place⟩) :: l.candidates }

/-- The candidate has been left behind. -/
def isStale (l : Lexer) (c : Candidate) : Bool :=
  c.place.line != l.place.line || keyLength < l.place.index - c.place.index

/-- The lexer without the candidates that have been left behind. -/
def dropStale (l : Lexer) : Except Failure Lexer :=
  if l.candidates.any fun (_, c) => l.isStale c && c.required then .error .malformedYaml
  else .ok { l with candidates := l.candidates.filter fun (_, c) => !l.isStale c }

/-- The lexer at the next token, behind blanks, comments and ends of lines. Behind the end of a
line a key may begin, unless a bracket is open. -/
def skipGap : Nat → Lexer → Lexer
  | 0, l => l
  | fuel + 1, l =>
      let p := l.place.skipSpaces
      let p := if p.rest.head? == some '#' then p.lineEnd else p
      match p.takeBreak? with
      | some (_, next) =>
          skipGap fuel { l with place := next, keyAllowed := l.keyAllowed || l.flow == 0 }
      | none => { l with place := p }

/-- The lexer at the next token, with the blocks that end there closed. -/
def settle (l : Lexer) : Except Failure Lexer := do
  let l ← (skipGap (l.place.rest.length + 1) l).dropStale
  return l.closeTo l.place.column

/-! ### Tokens -/

/-- A mark between documents. -/
def readMarker (l : Lexer) (token : Token) : Except Failure Lexer := do
  let l ← (l.closeTo (-1)).dropCandidate
  return { l.push token (l.place.skip 3) with keyAllowed := false }

/-- A directive. -/
def readDirectiveLine (l : Lexer) : Except Failure Lexer := do
  let l ← (l.closeTo (-1)).dropCandidate
  let (directive, p) ← readDirective l.place.next
  return { l.push (.directive directive) p with keyAllowed := false }

/-- An opening bracket or brace. -/
def readOpening (l : Lexer) (token : Token) : Except Failure Lexer := do
  if maxNesting < l.flow then throw .nestedTooDeep
  let l ← l.addCandidate
  return { l.push token l.place.next with flow := l.flow + 1, keyAllowed := true }

/-- A closing bracket or brace. -/
def readClosing (l : Lexer) (token : Token) : Except Failure Lexer := do
  let l ← l.dropCandidate
  return { l.push token l.place.next with flow := l.flow - 1, keyAllowed := false }

/-- A comma. -/
def readComma (l : Lexer) : Except Failure Lexer := do
  let l ← l.dropCandidate
  return { l.push .comma l.place.next with keyAllowed := true }

/-- The lexer after a block of the kind of `opening` has been opened at the current column, if it
has to be; outside of brackets a key has to be allowed here. -/
def openBlock (l : Lexer) (opening : Token) : Except Failure Lexer :=
  if l.flow != 0 then .ok l
  else if !l.keyAllowed then .error .malformedYaml
  else if maxNesting < l.indents.length then .error .nestedTooDeep
  else
    match l.openAt l.place.column with
    | (true, l) => .ok (l.push opening l.place)
    | (false, l) => .ok l

/-- The dash of an item. -/
def readDash (l : Lexer) : Except Failure Lexer := do
  let l ← (← l.openBlock .openList).dropCandidate
  return { l.push .dash l.place.next with keyAllowed := true }

/-- The mark in front of a key. -/
def readKeyMark (l : Lexer) : Except Failure Lexer := do
  let l ← (← l.openBlock .openTable).dropCandidate
  return { l.push .key l.place.next with keyAllowed := l.flow == 0 }

/-- A colon: behind a candidate, which is a key then, or else behind a key with a mark. -/
def readColon (l : Lexer) : Except Failure Lexer :=
  match l.candidate? with
  | some c =>
      let l := { l with candidates := l.candidates.filter (·.1 != l.flow) }
      let (opened, l) := if l.flow == 0 then l.openAt c.place.column else (false, l)
      let l := l.insertAt c.position (if opened then [.openTable, .key] else [.key])
      .ok { l.push .colon l.place.next with keyAllowed := false }
  | none => do
      let l ← (← l.openBlock .openTable).dropCandidate
      return { l.push .colon l.place.next with keyAllowed := l.flow == 0 }

/-- A token in front of which a key may begin, and behind which none may. -/
def readLeaf (l : Lexer) (read : Place → Except Failure (Token × Place)) :
    Except Failure Lexer := do
  let l ← l.addCandidate
  let (token, p) ← read l.place
  return { l.push token p with keyAllowed := false }

/-- An indented block of text. -/
def readBlock (l : Lexer) (fold : Bool) : Except Failure Lexer := do
  let l ← l.dropCandidate
  let (text, p) ← readBlockText fold l.indent l.place.next
  return { l.push (.scalar false text) p with keyAllowed := true }

/-- A plain scalar. -/
def readPlainScalar (l : Lexer) : Except Failure Lexer := do
  let l ← l.addCandidate
  let found := readPlain (l.flow != 0) l.indent (l.place.rest.length + 1) [] [] l.place
  return { l.push (.scalar true found.text) found.place with keyAllowed := found.lineEnded }

/-- The characters that begin something else than a plain scalar. -/
def indicators : List Char :=
  ['-', '?', ':', ',', '[', ']', '\x7b', '\x7d', '#', '&', '*', '!', '|', '>', '\x27', '\"', '%',
    '@', '\x60']

/-- A plain scalar may begin here. -/
def beginsPlain (flow : Bool) (c : Char) (rest : List Char) : Bool :=
  (!isGap c && !indicators.contains c) ||
    (!atGap rest && (c == '-' || (!flow && (c == '?' || c == ':'))))

/-- The name of a node behind its sign, as a token. -/
def readNamed (token : String → Token) (p : Place) : Except Failure (Token × Place) :=
  (readName p.next).map fun (name, p) => (token name, p)

/-- A text between quotes as a token. -/
def readQuotedScalar (double : Bool) (p : Place) : Except Failure (Token × Place) :=
  (readQuoted double (p.rest.length + 1) [] p.next).map fun (text, p) => (.scalar false text, p)

/-- The lexer after one more token, which begins with the character `c`. -/
def readToken (l : Lexer) (c : Char) (rest : List Char) : Except Failure Lexer :=
  let inFlow := l.flow != 0
  let atStart := l.place.column == 0
  if c == '%' && atStart then l.readDirectiveLine
  else if atStart && l.place.hasMarker '-' then l.readMarker .documentStart
  else if atStart && l.place.hasMarker '.' then l.readMarker .documentEnd
  else if c == '[' then l.readOpening .openBracket
  else if c == '\x7b' then l.readOpening .openBrace
  else if c == ']' then l.readClosing .closeBracket
  else if c == '\x7d' then l.readClosing .closeBrace
  else if c == ',' then l.readComma
  else if c == '-' && atGap rest then l.readDash
  else if c == '?' && (inFlow || atGap rest) then l.readKeyMark
  else if c == ':' && (inFlow || atGap rest) then l.readColon
  else if c == '*' then l.readLeaf (readNamed .reference)
  else if c == '&' then l.readLeaf (readNamed .anchor)
  else if c == '!' then l.readLeaf readTag
  else if c == '|' && !inFlow then l.readBlock false
  else if c == '>' && !inFlow then l.readBlock true
  else if c == '\x27' then l.readLeaf (readQuotedScalar false)
  else if c == '\"' then l.readLeaf (readQuotedScalar true)
  else if beginsPlain inFlow c rest then l.readPlainScalar
  else .error .malformedYaml

/-- The tokens read so far, in order, the given failure behind them. -/
def failed (l : Lexer) (failure : Failure) : List Token := (Token.fault failure :: l.tokens).reverse

/-- The tokens of a text that has been read to its end. -/
def finish (l : Lexer) : List Token :=
  let l := l.closeTo (-1)
  match l.dropCandidate with
  | .ok l => l.tokens.reverse
  | .error failure => l.failed failure

/-- All tokens from the current place on; a token takes at least one character. -/
def run : Nat → Lexer → List Token
  | 0, l => l.failed .malformedYaml
  | fuel + 1, l =>
      match l.settle with
      | .error failure => l.failed failure
      | .ok l =>
          match l.place.rest with
          | [] => l.finish
          | c :: rest =>
              match l.readToken c rest with
              | .error failure => l.failed failure
              | .ok l => run fuel l

end Lexer

/-- The tokens of a text. A byte-order mark in front does not count. -/
def Token.ofText (text : List Char) : List Token :=
  let start : Place := ⟨text, 0, 0, 0⟩
  let start := if (text.head?.map Char.toNat) == some 0xFEFF then start.next else start
  Lexer.run (text.length + 1) { place := start }

end ChunkGraph.Data.Yaml
