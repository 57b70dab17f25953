import ChunkGraph.Chunk.Merge
import ChunkGraph.Proofs.Text.Parts

/-!
# Rows and lines

The rows of a text are its parts between line feeds; tree positions go by them.
The lines of a text end at every line break, and where the text ends with one
there is no line behind it. Both count the same as far as line feeds are the
only breaks, except for an empty last row.

So a part of a text that stands on whole rows is found again by the numbers of
its rows if no other break stands in front of it or in it, and if it is not an
empty last row that makes the difference. A part with another break in it is
never found again, since what is put together of lines has no such break.

## Main definitions

* `OnlyFeeds` — line feeds are the only line breaks.
* `EndsRow`, `ClosesRow` — a row ends in front of a part, and behind it.

## Main results

* `splitLines_append_lineFeed` — the lines of rows are these rows.
* `onlyFeeds_joinLines_splitLines` — lines hold no other break.
* `linesText_eq_iff` — when a part is found again by the numbers of its rows.
-/

namespace ChunkGraph.Text

/-- Line feeds are the only line breaks of the text. -/
def OnlyFeeds (text : List Char) : Prop := ∀ c ∈ text, isLineBreak c = true → c = '\n'

/-- A row ends with the text: it is empty, or its last character is a line feed. -/
def EndsRow (front : List Char) : Prop := front = [] ∨ ∃ rows, front = rows ++ ['\n']

/-- The text brings nothing more to the row in front of it: it is empty, or its first character is
a line feed. -/
def ClosesRow (back : List Char) : Prop := back = [] ∨ ∃ rest, back = '\n' :: rest

theorem OnlyFeeds.of_append {front back : List Char} (h : OnlyFeeds (front ++ back)) :
    OnlyFeeds front ∧ OnlyFeeds back :=
  ⟨fun c hc => h c (List.mem_append_left back hc), fun c hc => h c (List.mem_append_right front hc)⟩

theorem lineFeeds_append (s t : List Char) : lineFeeds (s ++ t) = lineFeeds s + lineFeeds t :=
  List.count_append

/-! ## Rows -/

/-- Rows are put together again. -/
theorem joinLines_splitOn (text : List Char) : joinLines (splitOn '\n' text) = text :=
  join_splitOn text

/-- There is one more row than there are line feeds. -/
theorem length_splitOn (text : List Char) : (splitOn '\n' text).length = lineFeeds text + 1 := by
  induction text with
  | nil => rfl
  | cons c text ih =>
      unfold lineFeeds at ih ⊢
      rw [splitOn, List.count_cons]
      split
      · rw [List.length_cons, ih]
      · cases hrows : splitOn '\n' text with
        | nil => exact absurd hrows (splitOn_ne_nil text)
        | cons row rows =>
            rw [hrows] at ih
            exact ih

/-! ## Lines -/

section Lines

variable {c : Char} {line rest : List Char}

theorem splitLinesFrom_lineFeed :
    splitLinesFrom line ('\n' :: rest) = line.reverse :: splitLines rest := by
  rw [splitLinesFrom, if_pos (by decide)]
  · rfl
  · exact fun _ hreturn => absurd hreturn (by decide)

theorem splitLinesFrom_of_noBreak (h : isLineBreak c = false) :
    splitLinesFrom line (c :: rest) = splitLinesFrom (c :: line) rest := by
  rw [splitLinesFrom, if_neg (by rw [h]; decide)]
  rintro _ rfl
  exact absurd h (by decide)

theorem splitLinesFrom_append {row : List Char} (h : ∀ c ∈ row, isLineBreak c = false)
    (line rest : List Char) :
    splitLinesFrom line (row ++ rest) = splitLinesFrom (row.reverse ++ line) rest := by
  induction row generalizing line with
  | nil => rfl
  | cons c row ih =>
      rw [List.cons_append, splitLinesFrom_of_noBreak (h c List.mem_cons_self),
        ih fun d hd => h d (List.mem_cons_of_mem c hd), List.reverse_cons, List.append_assoc]
      rfl

/-- A row with its line feed is a line. -/
theorem splitLines_row {row : List Char} (h : ∀ c ∈ row, isLineBreak c = false)
    (rest : List Char) : splitLines (row ++ '\n' :: rest) = row :: splitLines rest := by
  unfold splitLines
  rw [splitLinesFrom_append h, splitLinesFrom_lineFeed, List.append_nil, List.reverse_reverse]
  rfl

/-- The last row is a line unless it is empty. -/
theorem splitLines_lastRow {row : List Char} (h : ∀ c ∈ row, isLineBreak c = false) :
    splitLines row = if row = [] then [] else [row] := by
  have hrow := splitLinesFrom_append h [] []
  rw [List.append_nil, List.append_nil] at hrow
  unfold splitLines
  rw [hrow, splitLinesFrom, List.isEmpty_reverse, List.reverse_reverse]
  simp only [List.isEmpty_iff]

end Lines

/-- The rows of a text whose only breaks are line feeds have no breaks. -/
theorem OnlyFeeds.noBreak_of_mem_splitOn {text : List Char} (h : OnlyFeeds text) :
    ∀ row ∈ splitOn '\n' text, ∀ c ∈ row, isLineBreak c = false := by
  intro row hrow c hc
  obtain ⟨hfeed, hmem⟩ := mem_splitOn hrow
  rw [Bool.eq_false_iff]
  intro hbreak
  rw [h c (hmem c hc) hbreak] at hc
  exact hfeed hc

theorem splitLines_joinLines_append {rows : List (List Char)} (hne : rows ≠ [])
    (h : ∀ row ∈ rows, ∀ c ∈ row, isLineBreak c = false) (rest : List Char) :
    splitLines (joinLines rows ++ '\n' :: rest) = rows ++ splitLines rest := by
  unfold joinLines
  induction rows with
  | nil => exact absurd rfl hne
  | cons row rows ih =>
      have hrow := h row List.mem_cons_self
      cases rows with
      | nil => exact splitLines_row hrow rest
      | cons next rows =>
          rw [join_cons_cons, List.append_assoc, List.append_assoc, List.singleton_append,
            splitLines_row hrow, ih (List.cons_ne_nil next rows)
              fun other hother => h other (List.mem_cons_of_mem row hother)]
          rfl

/-- The lines of a text with a line feed behind it are its rows, if line feeds are its only
breaks. -/
theorem splitLines_append_lineFeed {text : List Char} (h : OnlyFeeds text) (rest : List Char) :
    splitLines (text ++ '\n' :: rest) = splitOn '\n' text ++ splitLines rest := by
  have hlines := splitLines_joinLines_append (splitOn_ne_nil text) h.noBreak_of_mem_splitOn rest
  rw [joinLines_splitOn] at hlines
  exact hlines

/-- The lines of rows are these rows, without the last one if it is empty. -/
theorem splitLines_joinLines {rows : List (List Char)} (hne : rows ≠ [])
    (h : ∀ row ∈ rows, ∀ c ∈ row, isLineBreak c = false) :
    splitLines (joinLines rows) = if rows.getLast hne = [] then rows.dropLast else rows := by
  unfold joinLines
  induction rows with
  | nil => exact absurd rfl hne
  | cons row rows ih =>
      have hrow := h row List.mem_cons_self
      cases rows with
      | nil => exact splitLines_lastRow hrow
      | cons next rows =>
          have hrest := ih (List.cons_ne_nil next rows)
            fun other hother => h other (List.mem_cons_of_mem row hother)
          rw [join_cons_cons, List.append_assoc, List.singleton_append, splitLines_row hrow, hrest,
            List.getLast_cons (List.cons_ne_nil next rows), List.dropLast_cons_cons]
          split
          · rfl
          · rfl

theorem endsRow_append {back : List Char} (front : List Char) (h : EndsRow back) :
    EndsRow (front ++ '\n' :: back) := by
  rcases h with rfl | ⟨rows, rfl⟩
  · exact Or.inr ⟨front, rfl⟩
  · exact Or.inr ⟨front ++ '\n' :: rows, by rw [List.append_assoc, List.cons_append]⟩

/-- A row ends with a text whose last row is empty. -/
theorem endsRow_joinLines (rows : List (List Char)) : EndsRow (joinLines (rows ++ [[]])) := by
  unfold joinLines
  induction rows with
  | nil => exact Or.inl rfl
  | cons row rows ih =>
      cases rows with
      | nil => exact Or.inr ⟨row, List.append_nil _⟩
      | cons next rows =>
          rw [List.cons_append, List.cons_append, join_cons_cons, List.append_assoc,
            List.singleton_append]
          exact endsRow_append row ih

/-- The lines of a text are its rows if line feeds are its only breaks and no row ends with it. -/
theorem splitLines_of_not_endsRow {text : List Char} (h : OnlyFeeds text) (hends : ¬ EndsRow text) :
    splitLines text = splitOn '\n' text := by
  have hlast : (splitOn '\n' text).getLast (splitOn_ne_nil text) ≠ [] := by
    intro hlast
    refine hends ?_
    have hrows := List.dropLast_concat_getLast (l := splitOn '\n' text) (splitOn_ne_nil text)
    rw [hlast] at hrows
    rw [← joinLines_splitOn text, ← hrows]
    exact endsRow_joinLines _
  have hlines := splitLines_joinLines (splitOn_ne_nil text) h.noBreak_of_mem_splitOn
  rw [joinLines_splitOn, if_neg hlast] at hlines
  exact hlines

/-- Complete rows in front of a text are as many lines in front of its lines as they have line
feeds. -/
theorem exists_splitLines_append {front : List Char} (h : OnlyFeeds front) (hends : EndsRow front) :
    ∃ rows, rows.length = lineFeeds front ∧
      ∀ rest, splitLines (front ++ rest) = rows ++ splitLines rest := by
  rcases hends with rfl | ⟨text, rfl⟩
  · exact ⟨[], rfl, fun _ => rfl⟩
  · refine ⟨splitOn '\n' text, ?_, fun rest => ?_⟩
    · rw [length_splitOn, lineFeeds_append]
      rfl
    · rw [List.append_assoc, List.singleton_append, splitLines_append_lineFeed h.of_append.1]

/-! ## Breaks -/

/-- No line holds a break, if none stands in the characters read so far. -/
theorem noBreak_of_mem_splitLinesFrom (line text : List Char)
    (hline : ∀ c ∈ line, isLineBreak c = false) :
    ∀ found ∈ splitLinesFrom line text, ∀ c ∈ found, isLineBreak c = false := by
  have hreverse {line : List Char} (hline : ∀ c ∈ line, isLineBreak c = false) :
      ∀ c ∈ line.reverse, isLineBreak c = false :=
    fun c hc => hline c (List.mem_reverse.mp hc)
  fun_induction splitLinesFrom line text with
  | case1 line hempty => exact fun _ hfound => absurd hfound List.not_mem_nil
  | case2 line hempty =>
      intro found hfound
      rw [List.mem_singleton.mp hfound]
      exact hreverse hline
  | case3 line rest ih =>
      intro found hfound
      rcases List.mem_cons.mp hfound with rfl | hfound
      · exact hreverse hline
      · exact ih (fun _ hc => absurd hc List.not_mem_nil) found hfound
  | case4 line c rest _ hbreak ih =>
      intro found hfound
      rcases List.mem_cons.mp hfound with rfl | hfound
      · exact hreverse hline
      · exact ih (fun _ hc => absurd hc List.not_mem_nil) found hfound
  | case5 line c rest _ hbreak ih =>
      refine ih fun d hd => ?_
      rcases List.mem_cons.mp hd with rfl | hd
      · exact Bool.eq_false_iff.mpr hbreak
      · exact hline d hd

theorem onlyFeeds_joinLines {lines : List (List Char)}
    (h : ∀ line ∈ lines, ∀ c ∈ line, isLineBreak c = false) : OnlyFeeds (joinLines lines) := by
  unfold joinLines
  induction lines with
  | nil => exact fun _ hc => absurd hc List.not_mem_nil
  | cons line lines ih =>
      have hline : OnlyFeeds line := fun c hc hbreak =>
        absurd hbreak (Bool.eq_false_iff.mp (h line List.mem_cons_self c hc))
      have hrest := ih fun other hother => h other (List.mem_cons_of_mem line hother)
      cases lines with
      | nil => exact hline
      | cons next lines =>
          intro c hc hbreak
          rw [join_cons_cons, List.mem_append, List.mem_append, List.mem_singleton] at hc
          rcases hc with (hc | hc) | hc
          · exact hline c hc hbreak
          · exact hc
          · exact hrest c hc hbreak

/-- What is put together of lines of a text has no breaks but line feeds. -/
theorem onlyFeeds_joinLines_splitLines {text : List Char} {lines : List (List Char)}
    (h : ∀ line ∈ lines, line ∈ splitLines text) : OnlyFeeds (joinLines lines) :=
  onlyFeeds_joinLines fun line hline =>
    noBreak_of_mem_splitLinesFrom [] text (fun _ hc => absurd hc List.not_mem_nil) line
      (h line hline)

/-! ## Finding a part again -/

/-- A slice between bounds that are not negative. -/
theorem slice_natCast {α : Type} (items : List α) (start stop : Nat) :
    slice items start stop = (items.take stop).drop start := by
  have hbound (n : Nat) : bound items.length (n : Int) = min n items.length := by
    unfold bound
    rw [if_neg (by omega), Int.toNat_natCast]
  unfold slice
  rw [hbound, hbound]
  rcases Nat.le_total start items.length with hstart | hstart
  · rw [Nat.min_eq_left hstart, ← List.take_eq_take_min]
  · have hshort : (items.take stop).length ≤ items.length := List.length_take_le' stop items
    rw [Nat.min_eq_right hstart, ← List.take_eq_take_min, List.drop_eq_nil_of_le hshort,
      List.drop_eq_nil_of_le (Nat.le_trans hshort hstart)]

/-- A part that stands on whole rows, behind line feeds as the only breaks, is found again by the
numbers of its rows exactly if line feeds are its only breaks too and it does not end with one at
the end of the text. -/
theorem linesText_eq_iff {front part back : List Char} (hfront : OnlyFeeds front)
    (hends : EndsRow front) (hcloses : ClosesRow back) :
    linesText (splitLines (front ++ part ++ back)) (lineFeeds front + 1)
        (lineFeeds (front ++ part) + 1) = String.ofList part ↔
      OnlyFeeds part ∧ ¬ (back = [] ∧ ∃ rows, part = rows ++ ['\n']) := by
  obtain ⟨rows, hlength, hrows⟩ := exists_splitLines_append hfront hends
  have hfound : linesText (splitLines (front ++ part ++ back)) (lineFeeds front + 1)
      (lineFeeds (front ++ part) + 1) =
        String.ofList (joinLines ((splitLines (part ++ back)).take (lineFeeds part + 1))) := by
    have hstart : ((lineFeeds front : Int) + 1 - 1) = (lineFeeds front : Nat) := by omega
    have hstop : ((lineFeeds (front ++ part) : Int) + 1) =
        (rows.length + (lineFeeds part + 1) : Nat) := by
      rw [lineFeeds_append, hlength]
      omega
    unfold linesText
    rw [hstart, hstop, slice_natCast, List.append_assoc, hrows, ← hlength,
      List.take_length_add_append, List.drop_left]
  rw [hfound, String.ofList_inj]
  constructor
  · intro h
    have hpart : OnlyFeeds part := by
      rw [← h]
      exact onlyFeeds_joinLines_splitLines fun line hline => List.mem_of_mem_take hline
    refine ⟨hpart, ?_⟩
    -- The empty row behind the last line feed is no line.
    rintro ⟨rfl, text, rfl⟩
    have hcount : (splitOn '\n' text).length ≤ lineFeeds (text ++ ['\n']) + 1 := by
      rw [length_splitOn, lineFeeds_append]
      omega
    rw [List.append_nil, splitLines_append_lineFeed hpart.of_append.1, splitLines_nil,
      List.append_nil, List.take_of_length_le hcount, joinLines_splitOn] at h
    exact absurd (congrArg List.length h) (by simp)
  · rintro ⟨hpart, hlast⟩
    have hcount : (splitOn '\n' part).length = lineFeeds part + 1 := length_splitOn part
    rcases hcloses with rfl | ⟨rest, rfl⟩
    · rw [List.append_nil]
      by_cases hpartEnds : EndsRow part
      · rcases hpartEnds with rfl | hfeed
        · rfl
        · exact absurd ⟨rfl, hfeed⟩ hlast
      · rw [splitLines_of_not_endsRow hpart hpartEnds, ← hcount, List.take_length,
          joinLines_splitOn]
    · rw [splitLines_append_lineFeed hpart, ← hcount, List.take_left, joinLines_splitOn]

end ChunkGraph.Text
