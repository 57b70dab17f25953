import Mathlib.Data.List.Forall2

/-!
# Lists and options of related things

Two runs of a program on inputs that differ where it does not matter come to
lists whose elements are related one by one, and to options that are both empty
or hold a related pair. The lemmas below carry a relation through what is done
to such lists and options, in the manner of `List.rel_map` and
`List.rel_filterMap`.

## Main results

* `rel_find?`, `rel_filter`, `rel_any` — properties that both of a pair have or
  have not.
* `filterMap_eq`, `flatMap_eq` — what is the same for both of a pair.
* `rel_cases` — the two cases of related options.
-/

namespace ChunkGraph

variable {α β γ δ : Type} {R : α → β → Prop} {S : γ → δ → Prop}

/-! ## Lists -/

/-- An element of the first list has a partner in the second. -/
theorem rel_mem {xs : List α} {ys : List β} (h : List.Forall₂ R xs ys) {x : α} (hx : x ∈ xs) :
    ∃ y ∈ ys, R x y := by
  induction h with
  | nil => exact absurd hx List.not_mem_nil
  | @cons a b xs ys hab _ ih =>
      rcases List.mem_cons.mp hx with rfl | hx
      · exact ⟨b, List.mem_cons_self, hab⟩
      · obtain ⟨y, hy, hxy⟩ := ih hx
        exact ⟨y, List.mem_cons_of_mem b hy, hxy⟩

/-- The first elements with a property that both of a pair have or have not. -/
theorem rel_find? {xs : List α} {ys : List β} (h : List.Forall₂ R xs ys) {p : α → Bool}
    {q : β → Bool} (hpq : ∀ a b, R a b → p a = q b) : Option.Rel R (xs.find? p) (ys.find? q) := by
  induction h with
  | nil => exact .none
  | @cons a b xs ys hab _ ih =>
      have hsame := hpq a b hab
      cases hb : q b with
      | true =>
          rw [List.find?_cons_of_pos (hsame.trans hb), List.find?_cons_of_pos hb]
          exact .some hab
      | false =>
          rw [List.find?_cons_of_neg (by simp [hsame, hb]), List.find?_cons_of_neg (by simp [hb])]
          exact ih

/-- The elements with a property that both of a pair have or have not. -/
theorem rel_filter {xs : List α} {ys : List β} (h : List.Forall₂ R xs ys) {p : α → Bool}
    {q : β → Bool} (hpq : ∀ a b, R a b → p a = q b) :
    List.Forall₂ R (xs.filter p) (ys.filter q) := by
  refine List.rel_filter ?_ h
  intro a b hab
  show p a = true ↔ q b = true
  rw [hpq a b hab]

theorem rel_head? {xs : List α} {ys : List β} (h : List.Forall₂ R xs ys) :
    Option.Rel R xs.head? ys.head? := by
  cases h with
  | nil => exact .none
  | cons hab _ => exact .some hab

/-- What is the same for both of each pair is found in both lists. -/
theorem filterMap_eq {xs : List α} {ys : List β} (h : List.Forall₂ R xs ys)
    {f : α → Option γ} {g : β → Option γ} (hfg : ∀ a b, R a b → f a = g b) :
    xs.filterMap f = ys.filterMap g := by
  induction h with
  | nil => rfl
  | @cons a b xs ys hab _ ih => rw [List.filterMap_cons, List.filterMap_cons, hfg a b hab, ih]

theorem flatMap_eq {xs : List α} {ys : List β} (h : List.Forall₂ R xs ys)
    {f : α → List γ} {g : β → List γ} (hfg : ∀ a b, R a b → f a = g b) :
    xs.flatMap f = ys.flatMap g := by
  induction h with
  | nil => rfl
  | @cons a b xs ys hab _ ih => rw [List.flatMap_cons, List.flatMap_cons, hfg a b hab, ih]

theorem rel_any {xs : List α} {ys : List β} (h : List.Forall₂ R xs ys) {p : α → Bool}
    {q : β → Bool} (hpq : ∀ a b, R a b → p a = q b) : xs.any p = ys.any q := by
  induction h with
  | nil => rfl
  | @cons a b xs ys hab _ ih => rw [List.any_cons, List.any_cons, hpq a b hab, ih]

/-! ## Options -/

theorem rel_option_bind {x : Option α} {y : Option β} (h : Option.Rel R x y)
    {f : α → Option γ} {g : β → Option δ} (hfg : ∀ a b, R a b → Option.Rel S (f a) (g b)) :
    Option.Rel S (x.bind f) (y.bind g) := by
  cases h with
  | none => exact .none
  | some hab => exact hfg _ _ hab

theorem rel_option_map {x : Option α} {y : Option β} (h : Option.Rel R x y) {f : α → γ}
    {g : β → δ} (hfg : ∀ a b, R a b → S (f a) (g b)) : Option.Rel S (x.map f) (y.map g) := by
  cases h with
  | none => exact .none
  | some hab => exact .some (hfg _ _ hab)

theorem rel_option_filter {x : Option α} {y : Option β} (h : Option.Rel R x y) {p : α → Bool}
    {q : β → Bool} (hpq : ∀ a b, R a b → p a = q b) :
    Option.Rel R (x.filter p) (y.filter q) := by
  cases h with
  | none => exact .none
  | @some a b hab =>
      rw [Option.filter_some, Option.filter_some, hpq a b hab]
      split
      · exact .some hab
      · exact .none

theorem rel_toList {x : Option α} {y : Option β} (h : Option.Rel R x y) :
    List.Forall₂ R x.toList y.toList := by
  cases h with
  | none => exact .nil
  | some hab => exact .cons hab .nil

/-- What is the same for both of a pair is found for both or for none. -/
theorem rel_option_map_eq {x : Option α} {y : Option β} (h : Option.Rel R x y) {f : α → γ}
    {g : β → γ} (hfg : ∀ a b, R a b → f a = g b) : x.map f = y.map g := by
  cases h with
  | none => rfl
  | some hab => exact congrArg some (hfg _ _ hab)

/-- Related options are both empty, or hold a related pair. -/
theorem rel_cases {x : Option α} {y : Option β} (h : Option.Rel R x y) :
    (x = none ∧ y = none) ∨ ∃ a b, x = some a ∧ y = some b ∧ R a b := by
  cases h with
  | none => exact Or.inl ⟨rfl, rfl⟩
  | @some a b hab => exact Or.inr ⟨a, b, rfl, rfl, hab⟩

theorem rel_getD {x : Option α} {y : Option β} (h : Option.Rel R x y) {a : α} {b : β}
    (hab : R a b) : R (x.getD a) (y.getD b) := by
  cases h with
  | none => exact hab
  | some hfound => exact hfound

theorem rel_isSome {x : Option α} {y : Option β} (h : Option.Rel R x y) :
    x.isSome = y.isSome := by
  cases h with
  | none => rfl
  | some _ => rfl

end ChunkGraph
