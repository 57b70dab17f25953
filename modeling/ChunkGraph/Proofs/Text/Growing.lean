import ChunkGraph.Proofs.Text.Lines
import ChunkGraph.Text.Word
import Mathlib.Data.List.TakeWhile

/-!
# Texts that go on

When a text goes on, the lines that it has already stay as they are, except that
the last one may grow; if it goes on behind a line feed, none of them grows. A
word in it may grow as well, but not across a character that touches no word.

## Main definitions

* `Extends` — the lines of a text that goes on.

## Main results

* `extends_splitLines`, `exists_splitLines_lineFeed` — the lines of a text that
  goes on, anywhere and behind a line feed.
* `mem_joinLines_splitLines` — the characters of the lines of a text.
* `hasWord_append` — words on both sides of what touches no word.
-/

namespace ChunkGraph.Text

/-! ## Lines -/

/-- Lines of a longer text: the last line may have grown, and others may follow. -/
def Extends (lines longer : List (List Char)) : Prop :=
  lines = [] ∨ ∃ front last grown more,
    lines = front ++ [last] ∧ longer = front ++ (last ++ grown) :: more

theorem Extends.cons {lines longer : List (List Char)} (h : Extends lines longer)
    (line : List Char) : Extends (line :: lines) (line :: longer) := by
  rcases h with rfl | ⟨front, last, grown, more, rfl, rfl⟩
  · exact Or.inr ⟨[], line, [], longer, rfl, by rw [List.append_nil]; rfl⟩
  · exact Or.inr ⟨line :: front, last, grown, more, rfl, rfl⟩

section Growing

/-- The characters read so far are the beginning of the next line. -/
theorem exists_splitLinesFrom {line : List Char} (hline : line ≠ []) (text : List Char) :
    ∃ grown more, splitLinesFrom line text = (line.reverse ++ grown) :: more := by
  fun_induction splitLinesFrom line text with
  | case1 line hempty => exact absurd (List.isEmpty_iff.mp hempty) hline
  | case2 line hempty => exact ⟨[], [], by rw [List.append_nil]⟩
  | case3 line rest ih => exact ⟨[], _, by rw [List.append_nil]⟩
  | case4 line c rest _ hbreak ih => exact ⟨[], _, by rw [List.append_nil]⟩
  | case5 line c rest _ hbreak ih =>
      obtain ⟨grown, more, hlines⟩ := ih (List.cons_ne_nil c line)
      refine ⟨c :: grown, more, ?_⟩
      rw [hlines, List.reverse_cons, List.append_assoc]
      rfl

theorem splitLinesFrom_of_break {c : Char} {rest : List Char} (h : isLineBreak c = true)
    (hreturn : ∀ later, c = '\r' → rest ≠ '\n' :: later) (line : List Char) :
    splitLinesFrom line (c :: rest) = line.reverse :: splitLinesFrom [] rest := by
  rw [splitLinesFrom, if_pos h]
  exact hreturn

/-- A break ends the line, together with the line feed behind a carriage return. -/
theorem exists_splitLinesFrom_of_break {c : Char} (h : isLineBreak c = true)
    (line rest : List Char) :
    ∃ more, splitLinesFrom line (c :: rest) = line.reverse :: more := by
  by_cases hreturn : ∃ later, c = '\r' ∧ rest = '\n' :: later
  · obtain ⟨later, rfl, rfl⟩ := hreturn
    exact ⟨splitLinesFrom [] later, by rw [splitLinesFrom]⟩
  · exact ⟨_, splitLinesFrom_of_break h (fun later hc hrest => hreturn ⟨later, hc, hrest⟩) line⟩

/-- When a text goes on, its last line may grow and others may follow. -/
theorem extends_splitLines (line text rest : List Char) :
    Extends (splitLinesFrom line text) (splitLinesFrom line (text ++ rest)) := by
  fun_induction splitLinesFrom line text with
  | case1 line hempty => exact Or.inl rfl
  | case2 line hempty =>
      have hline : line ≠ [] := fun h => hempty (List.isEmpty_iff.mpr h)
      obtain ⟨grown, more, hlines⟩ := exists_splitLinesFrom hline rest
      exact Or.inr ⟨[], line.reverse, grown, more, rfl, hlines⟩
  | case3 line text ih =>
      rw [List.cons_append, List.cons_append, splitLinesFrom]
      exact ih.cons line.reverse
  | case4 line c text hreturn hbreak ih =>
      cases text with
      | nil =>
          -- A line feed behind a carriage return belongs to the same break.
          obtain ⟨more, hlines⟩ := exists_splitLinesFrom_of_break hbreak line rest
          rw [List.singleton_append, hlines]
          exact Extends.cons (Or.inl rfl) line.reverse
      | cons d text =>
          have hlater : ∀ later, c = '\r' → d :: text ++ rest ≠ '\n' :: later := by
            rintro later hc htext
            exact hreturn text hc (by rw [(List.cons.inj htext).1])
          rw [List.cons_append, splitLinesFrom_of_break hbreak hlater]
          exact ih.cons line.reverse
  | case5 line c text _ hbreak ih =>
      rw [List.cons_append, splitLinesFrom_of_noBreak (Bool.eq_false_iff.mpr hbreak)]
      exact ih

/-- The lines of a text, then those behind a line feed; an empty line may stand between them. -/
theorem exists_splitLines_lineFeed (line text rest : List Char) :
    ∃ empty, (empty = [] ∨ empty = [[]]) ∧
      splitLinesFrom line (text ++ '\n' :: rest) =
        splitLinesFrom line text ++ empty ++ splitLines rest := by
  fun_induction splitLinesFrom line text with
  | case1 line hempty =>
      obtain rfl := List.isEmpty_iff.mp hempty
      exact ⟨[[]], Or.inr rfl, splitLinesFrom_lineFeed⟩
  | case2 line hempty => exact ⟨[], Or.inl rfl, splitLinesFrom_lineFeed⟩
  | case3 line text ih =>
      obtain ⟨empty, hempty, hlines⟩ := ih
      refine ⟨empty, hempty, ?_⟩
      rw [List.cons_append, List.cons_append, splitLinesFrom, hlines]
      rfl
  | case4 line c text hreturn hbreak ih =>
      by_cases hlater : ∃ later, c = '\r' ∧ text ++ '\n' :: rest = '\n' :: later
      · -- The line feed belongs to the break in front of it.
        obtain ⟨later, rfl, htext⟩ := hlater
        cases text with
        | nil =>
            refine ⟨[], Or.inl rfl, ?_⟩
            rw [List.singleton_append, splitLinesFrom]
            rfl
        | cons d text => exact absurd (hreturn text rfl (by rw [(List.cons.inj htext).1])) id
      · obtain ⟨empty, hempty, hlines⟩ := ih
        refine ⟨empty, hempty, ?_⟩
        rw [List.cons_append, splitLinesFrom_of_break hbreak
          (fun later hc htext => hlater ⟨later, hc, htext⟩), hlines]
        rfl
  | case5 line c text _ hbreak ih =>
      rw [List.cons_append, splitLinesFrom_of_noBreak (Bool.eq_false_iff.mpr hbreak)]
      exact ih

/-- Breaks apart, the lines of a text have its characters. -/
theorem mem_flatten_splitLinesFrom {d : Char} (hd : isLineBreak d = false) (line text : List Char) :
    d ∈ (splitLinesFrom line text).flatten ↔ d ∈ line ∨ d ∈ text := by
  have hne {c : Char} (hc : isLineBreak c = true) : d ≠ c := by
    rintro rfl
    rw [hd] at hc
    exact Bool.false_ne_true hc
  fun_induction splitLinesFrom line text with
  | case1 line hempty => simp [List.isEmpty_iff.mp hempty]
  | case2 line hempty => simp
  | case3 line text ih =>
      have hreturn : d ≠ '\r' := hne (by decide)
      have hfeed : d ≠ '\n' := hne (by decide)
      rw [List.flatten_cons, List.mem_append]
      refine (or_congr Iff.rfl ih).trans ?_
      simp [hreturn, hfeed]
  | case4 line c text _ hbreak ih =>
      rw [List.flatten_cons, List.mem_append]
      refine (or_congr Iff.rfl ih).trans ?_
      simp [hne hbreak]
  | case5 line c text _ hbreak ih =>
      refine ih.trans ?_
      rw [List.mem_cons, List.mem_cons, or_comm (a := d = c), or_assoc]

end Growing

/-- Line feeds apart, joined lines have the characters of the lines. -/
theorem mem_joinLines {d : Char} (hd : d ≠ '\n') (lines : List (List Char)) :
    d ∈ joinLines lines ↔ d ∈ lines.flatten := by
  unfold joinLines
  induction lines with
  | nil => exact Iff.rfl
  | cons line lines ih =>
      cases lines with
      | nil => simp
      | cons next lines =>
          rw [join_cons_cons, List.flatten_cons, List.mem_append, List.mem_append, List.mem_append,
            ih, List.mem_singleton, or_iff_left hd]

/-- Lines are joined one list after the other. -/
theorem joinLines_append {lines more : List (List Char)} (hlines : lines ≠ []) (hmore : more ≠ []) :
    joinLines (lines ++ more) = joinLines lines ++ '\n' :: joinLines more := by
  unfold joinLines
  induction lines with
  | nil => exact absurd rfl hlines
  | cons line lines ih =>
      cases lines with
      | nil =>
          obtain ⟨next, later, rfl⟩ := List.exists_cons_of_ne_nil hmore
          rw [List.singleton_append, join_cons_cons, join_singleton, List.append_assoc]
          rfl
      | cons next lines =>
          rw [List.cons_append, List.cons_append, join_cons_cons, ← List.cons_append,
            ih (List.cons_ne_nil next lines), join_cons_cons]
          simp only [List.append_assoc]

/-- The lines of a longer text, joined, begin like those of the text. -/
theorem exists_joinLines_grown (front : List (List Char)) (last grown : List Char)
    (more : List (List Char)) :
    ∃ behind, joinLines (front ++ (last ++ grown) :: more) =
      joinLines (front ++ [last]) ++ behind := by
  have hlast : ∃ behind, joinLines ((last ++ grown) :: more) = last ++ behind := by
    cases more with
    | nil => exact ⟨grown, rfl⟩
    | cons next more =>
        refine ⟨grown ++ (['\n'] ++ joinLines (next :: more)), ?_⟩
        unfold joinLines
        rw [join_cons_cons]
        simp only [List.append_assoc]
  obtain ⟨behind, hbehind⟩ := hlast
  cases front with
  | nil => exact ⟨behind, hbehind⟩
  | cons first front =>
      refine ⟨behind, ?_⟩
      rw [joinLines_append (List.cons_ne_nil first front) (List.cons_ne_nil _ more),
        joinLines_append (List.cons_ne_nil first front) (List.cons_ne_nil last []), hbehind,
        List.append_assoc]
      rfl

/-- Breaks apart, a text put together of its lines has its characters. -/
theorem mem_joinLines_splitLines {d : Char} (hd : isLineBreak d = false) (text : List Char) :
    d ∈ joinLines (splitLines text) ↔ d ∈ text := by
  have hfeed : d ≠ '\n' := by
    rintro rfl
    exact absurd hd (by decide)
  refine (mem_joinLines hfeed _).trans ((mem_flatten_splitLinesFrom hd [] text).trans ?_)
  exact or_iff_right List.not_mem_nil

/-! ## Blanks in front -/

/-- Behind a character that is no blank, a text may go on. -/
theorem trimLeft_append {text : List Char} (h : trimLeft text ≠ []) (rest : List Char) :
    trimLeft (text ++ rest) = trimLeft text ++ rest := by
  unfold trimLeft at h ⊢
  rw [List.dropWhile_append, if_neg]
  rwa [List.isEmpty_iff]

theorem trimLeft_ne_nil {c : Char} {text : List Char} (hc : c ∈ text) (hblank : isBlank c = false) :
    trimLeft text ≠ [] := by
  intro hnil
  have hall := List.dropWhile_eq_nil_iff.mp hnil c hc
  rw [hblank] at hall
  exact Bool.false_ne_true hall

/-! ## Words -/

section Words

variable {word : List Char} {c : Char} (hc : c ∉ word)
include hc

theorem dropFront?_append (text rest : List Char) :
    dropFront? word (text ++ c :: rest) = (dropFront? word text).map (· ++ c :: rest) := by
  induction word generalizing text with
  | nil => rw [dropFront?_nil, dropFront?_nil, Option.map_some]
  | cons f word ih =>
      obtain ⟨hne, hlater⟩ := not_or.mp (mt List.mem_cons.mpr hc)
      cases text with
      | nil =>
          have hbeq : ¬ (f == c) = true := by simpa using Ne.symm hne
          show (if f == c then dropFront? word rest else none) = none
          exact if_neg hbeq
      | cons d text =>
          rw [List.cons_append, dropFront?, dropFront?]
          split
          · exact ih hlater text
          · rfl

variable (hword : word ≠ []) (hsep : isWordChar c = false)
include hword hsep

theorem hasWordFrom_append (before : Option Char) (text rest : List Char) :
    hasWordFrom word before (text ++ c :: rest) =
      (hasWordFrom word before text || hasWordFrom word (some c) rest) := by
  have hnone : dropFront? word [] = none := by
    obtain ⟨f, later, rfl⟩ := List.exists_cons_of_ne_nil hword
    rfl
  induction text generalizing before with
  | nil =>
      have hfront := dropFront?_append hc [] rest
      rw [hnone] at hfront
      rw [List.nil_append, hasWordFrom, hasWordFrom]
      simp only [List.nil_append] at hfront
      rw [hfront]
      rfl
  | cons d text ih =>
      have hfront := dropFront?_append hc (d :: text) rest
      rw [List.cons_append] at hfront ⊢
      rw [hasWordFrom, hasWordFrom, hfront, ih]
      cases dropFront? word (d :: text) with
      | none => rfl
      | some behind =>
          have htouches : touches (behind ++ c :: rest).head? = touches behind.head? := by
            cases behind with
            | nil => exact hsep
            | cons e behind => rfl
          rw [Option.map_some]
          simp only [htouches]
          rw [Bool.or_assoc]

/-- A word stands on one side of a character that touches no word, or on the other. -/
theorem hasWord_append (text rest : List Char) :
    hasWord word (text ++ c :: rest) = (hasWord word text || hasWord word rest) := by
  have hsame : hasWordFrom word (some c) rest = hasWordFrom word none rest := by
    cases rest with
    | nil => rfl
    | cons d rest =>
        have htouches : touches (some c) = touches none := hsep
        rw [hasWordFrom, hasWordFrom, htouches]
  exact (hasWordFrom_append hc hword hsep none text rest).trans (by rw [hsame]; rfl)

end Words

end ChunkGraph.Text
