import ChunkGraph.Text.Lines

/-!
# Searching in texts

Occurrences of one text in another, from the left: whether there is one, and
where the text may be cut at it. All are plain recursions over the characters.

## Main definitions

* `dropFront?` — the rest behind a given beginning.
* `hasPart` — the text occurs as a contiguous part.
* `cutAtFirst`, `cutAtLast` — the two sides of the first or last occurrence of
  a character.
* `substitute` — a text in place of every occurrence of a character.
-/

namespace ChunkGraph.Text

/-- What follows `front` in a text that begins with it. -/
def dropFront? : List Char → List Char → Option (List Char)
  | [], text => some text
  | _ :: _, [] => none
  | f :: front, c :: text => if f == c then dropFront? front text else none

/-- The text begins with `front`. -/
def startsWith (front text : List Char) : Bool := (dropFront? front text).isSome

/-- The text ends with `back`. -/
def endsWith (back text : List Char) : Bool := startsWith back.reverse text.reverse

/-- The text without `front` if it begins with it, unchanged otherwise. -/
def dropFront (front text : List Char) : List Char := (dropFront? front text).getD text

/-- The text without `back` if it ends with it, unchanged otherwise. -/
def dropBack (back text : List Char) : List Char :=
  ((dropFront? back.reverse text.reverse).map List.reverse).getD text

/-- `part` occurs somewhere in the text. -/
def hasPart (part : List Char) : List Char → Bool
  | [] => part.isEmpty
  | c :: rest => startsWith part (c :: rest) || hasPart part rest

/-- What stands before and behind the first occurrence of `sep`. -/
def cutAtFirst (sep : Char) (text : List Char) : Option (List Char × List Char) :=
  match text.dropWhile (· != sep) with
  | [] => none
  | _ :: behind => some (text.takeWhile (· != sep), behind)

/-- What stands before and behind the last occurrence of `sep`. -/
def cutAtLast (sep : Char) (text : List Char) : Option (List Char × List Char) :=
  (cutAtFirst sep text.reverse).map fun (behind, before) => (before.reverse, behind.reverse)

/-- What stands behind the last occurrence of `sep`, the whole text if there is none. -/
def behindLast (sep : Char) (text : List Char) : List Char :=
  (text.reverse.takeWhile (· != sep)).reverse

/-- Every occurrence of the character replaced by a text. -/
def substitute (old : Char) (new : List Char) (text : List Char) : List Char :=
  text.flatMap fun c => if c == old then new else [c]

@[simp] theorem dropFront?_nil (text : List Char) : dropFront? [] text = some text := by
  cases text <;> rfl

@[simp] theorem substitute_nil (old : Char) (new : List Char) : substitute old new [] = [] := rfl

theorem dropFront?_eq_some_iff {front text rest : List Char} :
    dropFront? front text = some rest ↔ text = front ++ rest := by
  induction front generalizing text with
  | nil => simp [eq_comm]
  | cons f front ih =>
      cases text with
      | nil => simp [dropFront?]
      | cons c text =>
          by_cases h : f = c
          · subst h
            simp [dropFront?, ih]
          · simp [dropFront?, h, Ne.symm h]

end ChunkGraph.Text
