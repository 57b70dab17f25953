import ChunkGraph.Text.Letter
import ChunkGraph.Text.Search

/-!
# Words in texts

A word stands on its own where no letter, digit or underscore touches it.

## Main definitions

* `hasWord` — the word occurs on its own.
-/

namespace ChunkGraph.Text

/-- The character, if there is one, would make a word longer. -/
def touches (c : Option Char) : Bool := (c.map isWordChar).getD false

/-- The word occurs on its own in a text that follows the character `before`. -/
def hasWordFrom (word : List Char) (before : Option Char) : List Char → Bool
  | [] => false
  | c :: rest =>
      (match dropFront? word (c :: rest) with
        | some behind => !touches before && !touches behind.head?
        | none => false) || hasWordFrom word (some c) rest

/-- The word occurs on its own. -/
def hasWord (word text : List Char) : Bool := hasWordFrom word none text

end ChunkGraph.Text
