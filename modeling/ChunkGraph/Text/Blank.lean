/-!
# Blank characters

White space in texts is the twenty-nine characters that Unicode classes as
white space or as separators of paragraphs, lines and information units: the
five control characters from tab to carriage return, the four separators
`U+001C`–`U+001F`, the space, and the wider spaces of the other scripts.

Texts are handled as lists of characters here; the callers that hold a
`String` convert at the border.

## Main definitions

* `isBlank` — the class itself.
* `trimLeft`, `trimRight`, `trim` — a text without its blank ends.
* `words` — the maximal runs of characters that are not blank.
-/

namespace ChunkGraph.Text

/-- The character is white space. -/
def isBlank (c : Char) : Bool :=
  let n := c.toNat
  (9 ≤ n && n ≤ 13) || (28 ≤ n && n ≤ 32) || n == 0x85 || n == 0xA0 || n == 0x1680 ||
    (0x2000 ≤ n && n ≤ 0x200A) || n == 0x2028 || n == 0x2029 || n == 0x202F || n == 0x205F ||
    n == 0x3000

/-- Without the blanks in front. -/
def trimLeft (text : List Char) : List Char := text.dropWhile isBlank

/-- Without the last elements on which `p` holds. -/
def dropWhileRight {α : Type} (p : α → Bool) (xs : List α) : List α :=
  (xs.reverse.dropWhile p).reverse

/-- Without the blanks at the end. -/
def trimRight (text : List Char) : List Char := dropWhileRight isBlank text

/-- Without the blanks at both ends. -/
def trim (text : List Char) : List Char := trimRight (trimLeft text)

/-- The text holds nothing but white space. -/
def allBlank (text : List Char) : Bool := text.all isBlank

/-- The words still to come, after the characters of `word`, last one first. -/
def wordsFrom (word : List Char) : List Char → List (List Char)
  | [] => if word.isEmpty then [] else [word.reverse]
  | c :: rest =>
      if isBlank c then
        if word.isEmpty then wordsFrom [] rest else word.reverse :: wordsFrom [] rest
      else wordsFrom (c :: word) rest

/-- The maximal runs of characters that are not blank, in order. -/
def words (text : List Char) : List (List Char) := wordsFrom [] text

@[simp] theorem words_nil : words [] = [] := rfl

@[simp] theorem trim_nil : trim [] = [] := rfl

end ChunkGraph.Text
