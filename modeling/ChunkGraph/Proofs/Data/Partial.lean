import Mathlib.Data.List.Basic

/-!
# Computations that may fail

What is known of a computation that succeeded, or that cannot: its steps
succeeded, or there is a failure. A list of questions has answers exactly if
each question has one.

## Main results

* `ok_of_map_eq_ok`, `ok_of_bind_eq_ok`, `ok_of_toOption_eq_some` — the steps of
  a success.
* `exists_error_of_forall_ne_ok` — what does not succeed fails.
* `exists_mapM_eq_some`, `exists_eq_some_of_mapM` — when a list has answers.
* `mem_iff_of_mapM_eq_some` — what they are.
-/

namespace ChunkGraph

section Results

variable {ε α β : Type}

/-- A result that comes out of a function was put into it. -/
theorem ok_of_map_eq_ok {found : Except ε α} {f : α → β} {result : β}
    (h : found.map f = .ok result) : ∃ value, found = .ok value ∧ f value = result := by
  cases found with
  | error failure => exact absurd h (by simp [Except.map])
  | ok value => exact ⟨value, rfl, Except.ok.inj h⟩

/-- A result that comes out of two steps comes out of the second. -/
theorem ok_of_bind_eq_ok {found : Except ε α} {f : α → Except ε β} {result : β}
    (h : found.bind f = .ok result) : ∃ value, found = .ok value ∧ f value = .ok result := by
  cases found with
  | error failure => exact absurd h (by simp [Except.bind])
  | ok value => exact ⟨value, rfl, h⟩

/-- A result whose failure is forgotten was a success. -/
theorem ok_of_toOption_eq_some {found : Except ε α} {value : α} (h : found.toOption = some value) :
    found = .ok value := by
  cases found with
  | error failure => exact absurd h (by simp [Except.toOption])
  | ok other => exact congrArg Except.ok (Option.some.inj h)

/-- What has no result has a failure. -/
theorem exists_error_of_forall_ne_ok {found : Except ε α} (h : ∀ value, found ≠ .ok value) :
    ∃ failure, found = .error failure := by
  cases found with
  | error failure => exact ⟨failure, rfl⟩
  | ok value => exact absurd rfl (h value)

end Results

section Answers

variable {α β : Type} {answer : α → Option β} {items : List α} {answers : List β}

/-- A list in which everything has an answer has a list of answers. -/
theorem exists_mapM_eq_some (h : ∀ a ∈ items, ∃ b, answer a = some b) :
    ∃ answers, items.mapM answer = some answers := by
  induction items with
  | nil => exact ⟨[], List.mapM_nil⟩
  | cons a items ih =>
      obtain ⟨first, hfirst⟩ := h a List.mem_cons_self
      obtain ⟨rest, hrest⟩ := ih fun other hother => h other (List.mem_cons_of_mem a hother)
      refine ⟨first :: rest, ?_⟩
      rw [List.mapM_cons, hfirst, hrest]
      rfl

/-- If a list has answers, everything in it has one. -/
theorem exists_eq_some_of_mapM (h : items.mapM answer = some answers) :
    ∀ a ∈ items, ∃ b, answer a = some b := by
  induction items generalizing answers with
  | nil => exact fun _ ha => absurd ha List.not_mem_nil
  | cons first items ih =>
      rw [List.mapM_cons] at h
      obtain ⟨b, hfirst, h⟩ := Option.bind_eq_some_iff.mp h
      obtain ⟨_, hrest, _⟩ := Option.bind_eq_some_iff.mp h
      intro a ha
      rcases List.mem_cons.mp ha with rfl | ha
      · exact ⟨b, hfirst⟩
      · exact ih hrest a ha

/-- If everything in a list has an answer, the answers are those of its elements. -/
theorem mem_iff_of_mapM_eq_some (h : items.mapM answer = some answers) (b : β) :
    b ∈ answers ↔ ∃ a ∈ items, answer a = some b := by
  induction items generalizing answers with
  | nil =>
      rw [List.mapM_nil] at h
      rw [← Option.some.inj h]
      simp
  | cons a items ih =>
      rw [List.mapM_cons] at h
      obtain ⟨first, hfirst, h⟩ := Option.bind_eq_some_iff.mp h
      obtain ⟨rest, hrest, h⟩ := Option.bind_eq_some_iff.mp h
      rw [← Option.some.inj h, List.mem_cons, ih hrest, List.exists_mem_cons_iff, hfirst,
        Option.some_inj, eq_comm]

end Answers

end ChunkGraph
