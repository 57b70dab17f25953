import ChunkGraph.Text.Search
import Mathlib.Data.List.Infix
import Mathlib.Data.List.TakeWhile

/-!
# What a text has in it

A search answers whether a text begins with another one or has it as a part, and
where it may be cut at a character. The words of a text are its longest runs of
characters that are not blank: each of them ends at a blank, or where the text
does, on both sides.

## Main definitions

* `IsWord` — a run without blanks that cannot be made longer.

## Main results

* `startsWith_iff`, `hasPart_iff` — the searches, as relations of texts.
* `cutAtFirst_eq_some_iff`, `cutAtLast_eq_some_iff` — the two sides of a cut.
* `mem_words_iff` — the words of a text are these runs.
-/

namespace ChunkGraph.Text

variable {text : List Char}

theorem startsWith_iff {front : List Char} : startsWith front text = true ↔ front <+: text := by
  unfold startsWith
  rw [Option.isSome_iff_exists]
  constructor
  · rintro ⟨rest, hrest⟩
    exact ⟨rest, (dropFront?_eq_some_iff.mp hrest).symm⟩
  · rintro ⟨rest, hrest⟩
    exact ⟨rest, dropFront?_eq_some_iff.mpr hrest.symm⟩

theorem hasPart_iff {part : List Char} : hasPart part text = true ↔ part <:+: text := by
  induction text with
  | nil => simp [hasPart]
  | cons c rest ih => rw [hasPart, Bool.or_eq_true, startsWith_iff, ih, List.infix_cons_iff]

/-! ## Cuts -/

section Cuts

variable {sep : Char} {before behind : List Char}

/-- A text is cut at the first occurrence of a character: there is none before it. -/
theorem cutAtFirst_eq_some_iff : cutAtFirst sep text = some (before, behind) ↔
    text = before ++ sep :: behind ∧ sep ∉ before := by
  unfold cutAtFirst
  constructor
  · intro h
    split at h
    · exact absurd h (by simp)
    · rename_i c rest hdrop
      obtain ⟨rfl, rfl⟩ := Prod.mk.inj (Option.some.inj h)
      have hne : text.dropWhile (· != sep) ≠ [] := by simp [hdrop]
      have hhead := List.head_dropWhile_not (· != sep) hne
      obtain rfl : c = sep := by simpa [hdrop] using hhead
      rw [← hdrop]
      refine ⟨List.takeWhile_append_dropWhile.symm, fun hmem => ?_⟩
      have hother := List.mem_takeWhile_imp hmem
      simp at hother
  · rintro ⟨rfl, hmem⟩
    have hbefore : ∀ c ∈ before, (c != sep) = true := by
      intro c hc
      rw [bne_iff_ne]
      rintro rfl
      exact hmem hc
    rw [List.dropWhile_append_of_pos hbefore, List.takeWhile_append_of_pos hbefore]
    simp

theorem cutAtFirst_eq_none_iff : cutAtFirst sep text = none ↔ sep ∉ text := by
  constructor
  · intro h hmem
    obtain ⟨front, back, rfl, hfront⟩ := List.eq_append_cons_of_mem hmem
    rw [cutAtFirst_eq_some_iff.mpr ⟨rfl, hfront⟩] at h
    exact absurd h (by simp)
  · intro h
    cases hcut : cutAtFirst sep text with
    | none => rfl
    | some sides =>
        rw [(cutAtFirst_eq_some_iff.mp hcut).1] at h
        exact absurd (List.mem_append_right _ List.mem_cons_self) h

/-- A text is cut at the last occurrence of a character: there is none behind it. -/
theorem cutAtLast_eq_some_iff : cutAtLast sep text = some (before, behind) ↔
    text = before ++ sep :: behind ∧ sep ∉ behind := by
  have hreverse : cutAtLast sep text = some (before, behind) ↔
      cutAtFirst sep text.reverse = some (behind.reverse, before.reverse) := by
    unfold cutAtLast
    rw [Option.map_eq_some_iff]
    constructor
    · rintro ⟨⟨back, front⟩, hcut, hpair⟩
      obtain ⟨rfl, rfl⟩ := Prod.mk.inj hpair
      rw [hcut, List.reverse_reverse, List.reverse_reverse]
    · intro hcut
      refine ⟨_, hcut, ?_⟩
      dsimp only
      rw [List.reverse_reverse, List.reverse_reverse]
  rw [hreverse, cutAtFirst_eq_some_iff, List.mem_reverse, List.reverse_eq_iff]
  simp

theorem cutAtLast_eq_none_iff : cutAtLast sep text = none ↔ sep ∉ text := by
  unfold cutAtLast
  rw [Option.map_eq_none_iff, cutAtFirst_eq_none_iff, List.mem_reverse]

end Cuts

/-! ## Words -/

/-- A run of characters that are not blank, with a blank or nothing on each side of it. -/
structure IsWord (word text : List Char) : Prop where
  /-- It is not empty. -/
  ne_nil : word ≠ []
  /-- It has no blank in it. -/
  not_blank : ∀ c ∈ word, isBlank c = false
  /-- It cannot be made longer. -/
  apart : ∃ front back, text = front ++ word ++ back ∧
    (∀ c ∈ front.getLast?, isBlank c = true) ∧ ∀ c ∈ back.head?, isBlank c = true

variable {word : List Char}

section Run

variable {run : List Char} (hrun : ∀ c ∈ run, isBlank c = false)

include hrun

/-- Nothing of a run without blanks is in front of a word. -/
theorem eq_nil_of_getLast?_blank {front rest : List Char} (hsplit : run = front ++ rest)
    (hfront : ∀ c ∈ front.getLast?, isBlank c = true) : front = [] := by
  by_contra hne
  have hlast := List.getLast?_eq_some_getLast hne
  have hmem : front.getLast hne ∈ run := by
    rw [hsplit]
    exact List.mem_append_left rest (List.getLast_mem hne)
  have hblank := hfront _ hlast
  rw [hrun _ hmem] at hblank
  exact absurd hblank Bool.false_ne_true

/-- Nothing of a run without blanks is behind a word. -/
theorem eq_nil_of_head?_blank {rest back more : List Char} (hsplit : run = rest ++ back)
    (hback : ∀ c ∈ (back ++ more).head?, isBlank c = true) : back = [] := by
  cases back with
  | nil => rfl
  | cons c back =>
      have hmem : c ∈ run := by
        rw [hsplit]
        exact List.mem_append_right rest List.mem_cons_self
      have hblank := hback c rfl
      rw [hrun c hmem] at hblank
      exact absurd hblank Bool.false_ne_true

/-- A run at the end of the text is its only word. -/
theorem isWord_run_iff : IsWord word run ↔ run ≠ [] ∧ word = run := by
  constructor
  · rintro ⟨hne, -, front, back, htext, hfront, hback⟩
    have hnone : front = [] :=
      eq_nil_of_getLast?_blank hrun (htext.trans (List.append_assoc ..)) hfront
    have hend : back = [] := by
      rw [← List.append_nil back] at hback
      exact eq_nil_of_head?_blank hrun htext hback
    rw [hnone, hend, List.nil_append, List.append_nil] at htext
    exact ⟨htext ▸ hne, htext.symm⟩
  · rintro ⟨hne, rfl⟩
    exact ⟨hne, hrun, [], [], by simp, by simp, by simp⟩

/-- The words of a run, a blank and what follows it are the run and the words behind the blank. -/
theorem isWord_append_cons_iff {c : Char} (hc : isBlank c = true) {rest : List Char} :
    IsWord word (run ++ c :: rest) ↔ run ≠ [] ∧ word = run ∨ IsWord word rest := by
  constructor
  · rintro ⟨hne, hword, front, back, htext, hfront, hback⟩
    have hnotMem : c ∉ word := by
      intro hmem
      rw [hword c hmem] at hc
      exact absurd hc Bool.false_ne_true
    rw [List.append_assoc] at htext
    rcases List.append_eq_append_iff.mp htext with ⟨inner, hinner, hrest⟩ | ⟨inner, hinner, hrest⟩
    · -- The word begins behind the run.
      cases inner with
      | nil =>
          obtain ⟨d, tail, rfl⟩ := List.exists_cons_of_ne_nil hne
          obtain rfl := (List.cons.inj hrest).1
          exact absurd List.mem_cons_self hnotMem
      | cons d inner =>
          obtain ⟨rfl, hbehind⟩ := List.cons.inj hrest
          refine Or.inr ⟨hne, hword, inner, back, hbehind.trans (List.append_assoc ..).symm, ?_,
            hback⟩
          intro e he
          refine hfront e ?_
          rw [hinner]
          cases inner with
          | nil => exact absurd he (by simp)
          | cons f inner => simpa [List.getLast?_append] using he
    · -- The word begins within the run, and so with it.
      obtain rfl : front = [] := eq_nil_of_getLast?_blank hrun hinner hfront
      rw [List.nil_append] at hinner
      subst hinner
      left
      rcases List.append_eq_append_iff.mp hrest with ⟨more, hmore, hblank⟩ | ⟨more, hmore, hblank⟩
      · obtain rfl : more = [] := eq_nil_of_head?_blank hrun hmore (hblank ▸ hback)
        rw [List.append_nil] at hmore
        exact ⟨hmore ▸ hne, hmore.symm⟩
      · cases more with
        | nil =>
            rw [List.append_nil] at hmore
            exact ⟨hmore ▸ hne, hmore⟩
        | cons d more =>
            obtain rfl := (List.cons.inj hblank).1
            refine absurd ?_ hnotMem
            rw [hmore]
            exact List.mem_append_right run List.mem_cons_self
  · rintro (⟨hne, rfl⟩ | ⟨hne, hword, front, back, htext, hfront, hback⟩)
    · refine ⟨hne, hrun, [], c :: rest, by simp, by simp, ?_⟩
      intro d hd
      obtain rfl : c = d := by simpa using hd
      exact hc
    · refine ⟨hne, hword, run ++ c :: front, back, by simp [htext], ?_, hback⟩
      intro d hd
      cases hlast : front.getLast? with
      | none =>
          obtain rfl := List.getLast?_eq_none_iff.mp hlast
          obtain rfl : c = d := by simpa using hd
          exact hc
      | some e =>
          obtain rfl : e = d := by
            simpa [List.getLast?_append, List.getLast?_cons, hlast] using hd
          exact hfront e hlast

end Run

/-- The words still to come, with the run before them. -/
theorem mem_wordsFrom_iff {run : List Char} (hrun : ∀ c ∈ run, isBlank c = false) :
    word ∈ wordsFrom run text ↔ IsWord word (run.reverse ++ text) := by
  induction text generalizing run with
  | nil =>
      have hback : ∀ c ∈ run.reverse, isBlank c = false :=
        fun c hc => hrun c (List.mem_reverse.mp hc)
      rw [List.append_nil, isWord_run_iff hback, wordsFrom]
      by_cases hempty : run = []
      · simp [hempty]
      · simp [hempty]
  | cons c rest ih =>
      have hback : ∀ c ∈ run.reverse, isBlank c = false :=
        fun c hc => hrun c (List.mem_reverse.mp hc)
      have hnone : word ∈ wordsFrom [] rest ↔ IsWord word rest :=
        ih fun _ hc => absurd hc List.not_mem_nil
      rw [wordsFrom]
      by_cases hc : isBlank c = true
      · rw [if_pos hc, isWord_append_cons_iff hback hc, ← hnone]
        by_cases hempty : run = []
        · simp [hempty]
        · simp [hempty]
      · have hlonger : ∀ d ∈ c :: run, isBlank d = false :=
          List.forall_mem_cons.mpr ⟨Bool.eq_false_iff.mpr hc, hrun⟩
        rw [if_neg hc, ih hlonger, List.reverse_cons, List.append_assoc, List.singleton_append]

/-- The words of a text are its longest runs without blanks. -/
theorem mem_words_iff : word ∈ words text ↔ IsWord word text :=
  mem_wordsFrom_iff (fun _ hc => absurd hc List.not_mem_nil)

end ChunkGraph.Text
