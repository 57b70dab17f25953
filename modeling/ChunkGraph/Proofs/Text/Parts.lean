import ChunkGraph.Text.Lines

/-!
# Parts of a text

A text is cut at every separator: the rows of a source are its parts between
line feeds, and the segments of a path those between slashes. Joining the parts
puts the text together again, and parts without separators are found again in
the text that they are joined to.

## Main results

* `join_splitOn` — the parts of a text, joined, are the text.
* `splitOn_join` — joined parts are found again.
* `splitOn_replicate_append` — separators in front make empty parts.
-/

namespace ChunkGraph.Text

/-- There is always a part. -/
theorem splitOn_ne_nil {α : Type} [BEq α] {sep : α} (xs : List α) : splitOn sep xs ≠ [] := by
  cases xs with
  | nil => exact List.cons_ne_nil _ _
  | cons x xs =>
      rw [splitOn]
      split
      · exact List.cons_ne_nil _ _
      · split
        · exact List.cons_ne_nil _ _
        · exact List.cons_ne_nil _ _

variable {α : Type} [BEq α] [LawfulBEq α] {sep : α}

theorem splitOn_cons_self (xs : List α) : splitOn sep (sep :: xs) = [] :: splitOn sep xs := by
  rw [splitOn, if_pos (beq_self_eq_true sep)]

/-- A text without separators is a single part. -/
theorem splitOn_of_not_mem {xs : List α} (h : sep ∉ xs) : splitOn sep xs = [xs] := by
  induction xs with
  | nil => rfl
  | cons x xs ih =>
      have hx : ¬ (x == sep) = true := by
        rw [beq_iff_eq]
        rintro rfl
        exact h List.mem_cons_self
      rw [splitOn, if_neg hx, ih fun hmem => h (List.mem_cons_of_mem x hmem)]

/-- What stands before the first separator is the first part. -/
theorem splitOn_append_cons {xs rest : List α} (h : sep ∉ xs) :
    splitOn sep (xs ++ sep :: rest) = xs :: splitOn sep rest := by
  induction xs with
  | nil => exact splitOn_cons_self rest
  | cons x xs ih =>
      have hx : ¬ (x == sep) = true := by
        rw [beq_iff_eq]
        rintro rfl
        exact h List.mem_cons_self
      rw [List.cons_append, splitOn, if_neg hx, ih fun hmem => h (List.mem_cons_of_mem x hmem)]

/-- Joined parts are found again. -/
theorem splitOn_join {parts : List (List α)} (hne : parts ≠ []) (h : ∀ part ∈ parts, sep ∉ part) :
    splitOn sep (join [sep] parts) = parts := by
  induction parts with
  | nil => exact absurd rfl hne
  | cons part parts ih =>
      have hpart := h part List.mem_cons_self
      cases parts with
      | nil => exact splitOn_of_not_mem hpart
      | cons next parts =>
          rw [join_cons_cons, List.append_assoc, List.singleton_append, splitOn_append_cons hpart,
            ih (by simp) fun other hother => h other (List.mem_cons_of_mem part hother)]

/-- A part has no separator, and its elements are those of the text. -/
theorem mem_splitOn {xs part : List α} (h : part ∈ splitOn sep xs) :
    sep ∉ part ∧ ∀ x ∈ part, x ∈ xs := by
  induction xs generalizing part with
  | nil =>
      rw [splitOn, List.mem_singleton] at h
      rw [h]
      exact ⟨List.not_mem_nil, fun _ hx => hx⟩
  | cons x xs ih =>
      rw [splitOn] at h
      split at h
      · rcases List.mem_cons.mp h with rfl | h
        · exact ⟨List.not_mem_nil, fun _ hx => absurd hx List.not_mem_nil⟩
        · exact ⟨(ih h).1, fun y hy => List.mem_cons_of_mem x ((ih h).2 y hy)⟩
      · rename_i hx
        have hne : sep ≠ x := fun hsep => hx (beq_iff_eq.mpr hsep.symm)
        split at h
        · rw [List.mem_singleton] at h
          rw [h]
          refine ⟨?_, fun y hy => ?_⟩
          · rw [List.mem_singleton]
            exact hne
          · rw [List.mem_singleton.mp hy]
            exact List.mem_cons_self
        · rename_i first parts hparts
          rw [hparts] at ih
          rcases List.mem_cons.mp h with rfl | h
          · obtain ⟨hsep, hall⟩ := ih List.mem_cons_self
            refine ⟨?_, fun y hy => ?_⟩
            · rw [List.mem_cons, not_or]
              exact ⟨hne, hsep⟩
            · rcases List.mem_cons.mp hy with rfl | hy
              · exact List.mem_cons_self
              · exact List.mem_cons_of_mem x (hall y hy)
          · obtain ⟨hsep, hall⟩ := ih (List.mem_cons_of_mem first h)
            exact ⟨hsep, fun y hy => List.mem_cons_of_mem x (hall y hy)⟩

/-- The parts are put together again. -/
theorem join_splitOn (xs : List α) : join [sep] (splitOn sep xs) = xs := by
  induction xs with
  | nil => rfl
  | cons x xs ih =>
      rw [splitOn]
      cases hparts : splitOn sep xs with
      | nil => exact absurd hparts (splitOn_ne_nil xs)
      | cons part parts =>
          rw [hparts] at ih
          split
          · rename_i hx
            rw [beq_iff_eq.mp hx, join_cons_cons, ih]
            rfl
          · cases parts with
            | nil => exact congrArg (x :: ·) ih
            | cons next parts =>
                show x :: join [sep] (part :: next :: parts) = x :: xs
                rw [ih]

/-- Separators in front make empty parts. -/
theorem splitOn_replicate_append (n : Nat) (xs : List α) :
    splitOn sep (List.replicate n sep ++ xs) = List.replicate n [] ++ splitOn sep xs := by
  induction n with
  | zero => rfl
  | succ n ih =>
      rw [List.replicate_succ, List.cons_append, splitOn_cons_self, ih]
      rfl

end ChunkGraph.Text
