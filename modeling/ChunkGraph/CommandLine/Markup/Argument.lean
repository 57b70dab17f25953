import ChunkGraph.Failure
import ChunkGraph.Text.Search

/-!
# Arguments of action tags

A tag that begins with an at sign names an action, and behind an equals sign the
action's arguments: a name with or without a list of literals in parentheses, or
literals alone. Literals are numbers, quoted texts, the words for true, false and
nothing, and lists of literals in brackets. The arguments are read when the tag
is closed, and only then is it found out that they cannot be.

## Main definitions

* `Markup.argumentFault?` — what is wrong with arguments, if anything is.
-/

namespace ChunkGraph.Markup

/-- The words that are literals. -/
def literalWords : List (List Char) := ["True".toList, "False".toList, "None".toList]

/-- What brackets open and close. -/
def bracketPairs : List (Char × Char) := [('(', ')'), ('[', ']'), ('\x7b', '\x7d')]

/-- What follows a quoted text, behind its opening quote. -/
def behindQuote? (quote : Char) : List Char → Option (List Char)
  | [] => none
  | '\\' :: _ :: rest => behindQuote? quote rest
  | c :: rest => if c == quote then some rest else behindQuote? quote rest

/-- What follows the digits of a number, its point and its exponent. -/
def behindNumber? (text : List Char) : Option (List Char) :=
  let run := text.takeWhile fun c => Text.isWordChar c || c == '.'
  let inNumber (c : Char) : Bool := Text.isAsciiDigit c || c == '.' || c == '_'
  if run.any Text.isAsciiDigit && run.all inNumber then some (text.drop run.length)
  else none

mutual

/-- What follows a literal. -/
def behindLiteral? : Nat → List Char → Option (List Char)
  | 0, _ => none
  | n + 1, text =>
      match Text.trimLeft text with
      | '-' :: rest => behindLiteral? n rest
      | '+' :: rest => behindLiteral? n rest
      | c :: rest =>
          match bracketPairs.lookup c with
          | some closing => behindList? n closing rest
          | none =>
              if c == '\"' || c == '\x27' then behindQuote? c rest
              else if literalWords.contains ((c :: rest).takeWhile Text.isWordChar) then
                some ((c :: rest).dropWhile Text.isWordChar)
              else behindNumber? (c :: rest)
      | [] => none

/-- What follows a list of literals up to its closing bracket. -/
def behindList? : Nat → Char → List Char → Option (List Char)
  | 0, _, _ => none
  | n + 1, closing, text =>
      match Text.trimLeft text with
      | [] => none
      | c :: rest =>
          if c == closing then some rest
          else
            match (behindLiteral? n (c :: rest)).map Text.trimLeft with
            | some (',' :: behind) => behindList? n closing behind
            | some (':' :: behind) =>
                if closing == '\x7d' then behindList? n closing behind else none
            | some (d :: behind) => if d == closing then some behind else none
            | _ => none

end

/-- The text is a list of literals. -/
def areLiterals (text : List Char) : Bool :=
  !Text.allBlank text && behindList? (2 * text.length + 4) ')' (text ++ [')']) == some []

/-- The bracket that is opened last and not closed, if there is one. -/
def openBracket? (text : List Char) : Option Char :=
  (text.foldl
    (fun stack c =>
      if (bracketPairs.lookup c).isSome then c :: stack
      else if bracketPairs.any (·.2 == c) then stack.drop 1
      else stack) ([] : List Char)).head?

/-- Why literals cannot be read. -/
def literalReason (text : List Char) : String :=
  match openBracket? text with
  | some c => "'" ++ String.singleton c ++ "' was never closed"
  | none => "invalid syntax"

/-- The text is a name, perhaps with a list in parentheses behind it. -/
def isCall (text : List Char) : Bool :=
  let list := text.dropWhile fun c => Text.isWordChar c || c == '.'
  list.isEmpty || (list.head? == some '(' && list.getLast? == some ')')

/-- The literals in the parentheses of a call; without any they are an empty list. -/
def literalsOf (text : List Char) : List Char :=
  let list := text.dropWhile fun c => Text.isWordChar c || c == '.'
  if list.isEmpty then "()".toList else list

/-- What is wrong with arguments, if anything is. -/
def argumentFault? (parameters : List Char) : Option Failure :=
  let text := Text.trim parameters
  let literals := if isCall text then literalsOf text else text
  if areLiterals literals then none
  else
    some (.malformedTag ("error parsing " ++ Text.quote (String.ofList literals) ++ " in " ++
      Text.quote (String.ofList parameters) ++ "; " ++ literalReason literals))

end ChunkGraph.Markup
