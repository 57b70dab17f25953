import ChunkGraph.Proofs.Data.Keyed
import ChunkGraph.Proofs.Text.Case

/-!
# The two tables of a registry

A registry is changed by giving extensions to a language and by taking a language
out. The language of an extension is the one it was given to last, and that
language lists the extension. The other way round it is not so: when an extension
is given to one language while another has it, the other goes on listing it, and
the extension is lost when the other is taken out.

That is the only way in which the tables come apart. As long as no extension is
given to a language while another has it, each language lists exactly the
extensions that are its own, and taking a language out takes nothing from the
others.

## Main definitions

* `Registry.Step`, `Registry.after` — changes to a registry.
* `Registry.Takes` — an extension is given to a language while another has it.
* `Registry.Agrees`, `Registry.Inverse` — the tables say the same of an extension.

## Main results

* `Registry.agrees_run_iff` — what one change does to an extension of which the
  tables say the same.
* `Registry.agrees_after_iff` — and what a sequence of changes does.
* `Registry.tables_inverse_iff` — when the tables say the same of an extension.
-/

namespace ChunkGraph.Registry

/-! ## Changes -/

/-- A change to a registry. -/
inductive Step where
  /-- A language is given extensions. -/
  | register (language : String) (extensions : List String)
  /-- A language is taken out. -/
  | unregister (language : String)

/-- The registry after a change. -/
def run (r : Registry) : Step → Registry
  | .register language extensions => r.register language extensions
  | .unregister language => r.unregister language

/-- The registry after a sequence of changes. -/
def after (r : Registry) (steps : List Step) : Registry := steps.foldl run r

@[simp] theorem after_nil (r : Registry) : r.after [] = r := rfl

@[simp] theorem after_cons (r : Registry) (step : Step) (steps : List Step) :
    r.after (step :: steps) = (r.run step).after steps := rfl

/-- The language of a form, which is an extension in lower case. -/
def owner? (r : Registry) (form : String) : Option String := r.languageOf.lookup form

/-- An extension is supported and detected as a language if that is the language of its form. -/
theorem owner?_eq_some_iff {r : Registry} {extension language : String} :
    r.owner? (lowerText extension) = some language ↔
      r.isSupported extension = true ∧ r.detect extension = language := by
  unfold isSupported detect owner?
  cases r.languageOf.lookup (lowerText extension) with
  | none => simp
  | some owner => simp

theorem register_with_default (r : Registry) (default language : String) (given : List String) :
    register { r with default } language given =
      { r.register language given with default } := by
  induction given generalizing r with
  | nil => rfl
  | cons extension given ih => exact ih (r.registerOne language extension)

/-- A registry that knows languages from the start has been given their extensions one language
after the other. -/
theorem standard_eq_after (default : String) : { standard with default } =
    after { default }
      (standardLanguages.map fun (language, given) => .register language given) := by
  have hknown : ∀ (known : List (String × List String)) (r : Registry),
      after { r with default } (known.map fun (language, given) => .register language given) =
        { known.foldl (fun r (language, given) => r.register language given) r with default } := by
    intro known
    induction known with
    | nil => exact fun _ => rfl
    | cons entry known ih =>
        intro r
        rw [List.map_cons, after_cons, List.foldl_cons]
        show after (register { r with default } entry.1 entry.2) _ = _
        rw [register_with_default]
        exact ih _
  exact (hknown standardLanguages {}).symm

/-! ## What a change does to the tables -/

section Changes

variable (r : Registry) (language form : String)

theorem owner?_registerOne (extension : String) :
    (r.registerOne language extension).owner? form =
      if form = lowerText extension then some language else r.owner? form := by
  have hput := Keyed.lookup_put (lowerText extension) form language r.languageOf
  simp only [beq_iff_eq] at hput
  exact hput

theorem extensions_registerOne (extension other : String) :
    (r.registerOne language extension).extensions other =
      if other = language then
        if (r.extensions language).contains (lowerText extension) then r.extensions language
        else r.extensions language ++ [lowerText extension]
      else r.extensions other := by
  unfold registerOne extensions
  rw [Keyed.lookup_put]
  simp only [beq_iff_eq]
  split
  · rfl
  · rfl

theorem mem_extensions_registerOne (extension other : String) :
    form ∈ (r.registerOne language extension).extensions other ↔
      form = lowerText extension ∧ other = language ∨ form ∈ r.extensions other := by
  rw [extensions_registerOne]
  by_cases hother : other = language
  · subst hother
    rw [if_pos rfl]
    by_cases hknown : lowerText extension ∈ r.extensions other
    · rw [if_pos (List.contains_iff_mem.mpr hknown)]
      exact (or_iff_right_of_imp fun hnew => hnew.1 ▸ hknown).symm
    · rw [if_neg fun h => hknown (List.contains_iff_mem.mp h), List.mem_append,
        List.mem_singleton, or_comm]
      simp only [and_true]
  · rw [if_neg hother]
    simp only [hother, and_false, false_or]

/-- The language of a form is the one that it has been given to. -/
theorem owner?_register (extensions : List String) :
    (r.register language extensions).owner? form =
      if form ∈ extensions.map lowerText then some language else r.owner? form := by
  induction extensions generalizing r with
  | nil => rfl
  | cons extension extensions ih =>
      have hstep : r.register language (extension :: extensions) =
          (r.registerOne language extension).register language extensions := rfl
      rw [hstep, ih, owner?_registerOne, List.map_cons]
      by_cases hrest : form ∈ extensions.map lowerText
      · rw [if_pos hrest, if_pos (List.mem_cons_of_mem _ hrest)]
      · simp only [hrest, if_false, List.mem_cons, or_false]

/-- What a language is given is added to what it lists. -/
theorem mem_extensions_register (given : List String) (other : String) :
    form ∈ (r.register language given).extensions other ↔
      form ∈ given.map lowerText ∧ other = language ∨ form ∈ r.extensions other := by
  induction given generalizing r with
  | nil => simp [register]
  | cons extension given ih =>
      have hstep : r.register language (extension :: given) =
          (r.registerOne language extension).register language given := rfl
      rw [hstep, ih, mem_extensions_registerOne, List.map_cons, List.mem_cons, or_and_right,
        or_left_comm, or_assoc]

/-- A form has no language any more if the language that is taken out lists it. -/
theorem owner?_unregister :
    (r.unregister language).owner? form =
      if form ∈ r.extensions language then none else r.owner? form := by
  have hfilter : (r.unregister language).owner? form =
      if !(r.extensions language).contains form then r.owner? form else none :=
    Keyed.lookup_filter (fun form => !(r.extensions language).contains form) form r.languageOf
  rw [hfilter]
  by_cases hlisted : form ∈ r.extensions language
  · rw [if_pos hlisted, List.contains_iff_mem.mpr hlisted]
    rfl
  · rw [if_neg hlisted, if_pos (by simpa using hlisted)]

/-- A language that is taken out lists nothing any more. -/
theorem mem_extensions_unregister (other : String) :
    form ∈ (r.unregister language).extensions other ↔
      other ≠ language ∧ form ∈ r.extensions other := by
  have herase : (r.unregister language).extensionsOf = Keyed.erase language r.extensionsOf := rfl
  rw [extensions, herase, Keyed.lookup_erase]
  by_cases hother : other = language
  · simp [hother]
  · simp [hother, extensions]

end Changes

/-! ## What always holds -/

/-- What holds of the tables of a registry however it has been changed. -/
structure Sound (r : Registry) : Prop where
  /-- The language of a form lists it. -/
  listed : ∀ form language, r.owner? form = some language → form ∈ r.extensions language
  /-- What a language lists is in lower case. -/
  lower : ∀ language, ∀ form ∈ r.extensions language, lowerText form = form

theorem sound_empty (default : String) : Sound { default } where
  listed _ _ h := absurd h (by simp [owner?])
  lower _ _ h := absurd h (by simp [extensions])

/-- Every change keeps the tables sound. -/
theorem Sound.run {r : Registry} (h : Sound r) (step : Step) : Sound (r.run step) := by
  cases step with
  | register language given =>
      refine ⟨fun form owner howner => ?_, fun other form hlisted => ?_⟩
      · rw [Registry.run, owner?_register] at howner
        rw [Registry.run, mem_extensions_register]
        split at howner
        · rename_i hgiven
          exact Or.inl ⟨hgiven, (Option.some.inj howner).symm⟩
        · exact Or.inr (h.listed form owner howner)
      · rw [Registry.run, mem_extensions_register] at hlisted
        rcases hlisted with ⟨hgiven, _⟩ | hlisted
        · obtain ⟨extension, _, rfl⟩ := List.mem_map.mp hgiven
          exact lowerText_lowerText extension
        · exact h.lower other form hlisted
  | unregister language =>
      refine ⟨fun form owner howner => ?_, fun other form hlisted => ?_⟩
      · rw [Registry.run, owner?_unregister] at howner
        rw [Registry.run, mem_extensions_unregister]
        split at howner
        · exact absurd howner (by simp)
        · rename_i hunlisted
          have hlisted := h.listed form owner howner
          exact ⟨fun heq => hunlisted (heq ▸ hlisted), hlisted⟩
      · rw [Registry.run, mem_extensions_unregister] at hlisted
        exact h.lower other form hlisted.2

theorem Sound.after {r : Registry} (h : Sound r) (steps : List Step) : Sound (r.after steps) := by
  induction steps generalizing r with
  | nil => exact h
  | cons step steps ih => exact ih (h.run step)

/-! ## When the tables say the same -/

/-- The language of a form is the only one that lists it. -/
def Agrees (r : Registry) (form : String) : Prop :=
  ∀ language, form ∈ r.extensions language ↔ r.owner? form = some language

/-- The change gives a form to a language while another lists it. -/
def Takes (r : Registry) (form : String) : Step → Prop
  | .register language given =>
      form ∈ given.map lowerText ∧ ∃ other, other ≠ language ∧ form ∈ r.extensions other
  | .unregister _ => False

/-- If the tables say the same of a form, they do so after a change that does not take it. -/
theorem agrees_run_iff {r : Registry} {form : String} (h : r.Agrees form) (step : Step) :
    (r.run step).Agrees form ↔ ¬ r.Takes form step := by
  cases step with
  | register language given =>
      simp only [Agrees, run, owner?_register, mem_extensions_register, Takes]
      by_cases hgiven : form ∈ given.map lowerText
      · simp only [hgiven, true_and, if_true, Option.some.injEq, not_exists, not_and]
        constructor
        · intro hagrees other hother hlisted
          exact hother ((hagrees other).mp (Or.inr hlisted)).symm
        · intro halone other
          constructor
          · rintro (hother | hlisted)
            · exact hother.symm
            · exact (Decidable.byContradiction fun hother => halone other hother hlisted).symm
          · exact fun hother => Or.inl hother.symm
      · simp only [hgiven, false_and, false_or, if_false, not_false_eq_true, iff_true]
        exact h
  | unregister language =>
      simp only [Agrees, run, owner?_unregister, mem_extensions_unregister, Takes,
        not_false_eq_true, iff_true]
      intro other
      by_cases hlisted : form ∈ r.extensions language
      · -- Then `language` is the only one that listed the form, and it is gone.
        rw [if_pos hlisted]
        constructor
        · rintro ⟨hother, hstill⟩
          have hsame := ((h other).mp hstill).symm.trans ((h language).mp hlisted)
          exact absurd (Option.some.inj hsame) hother
        · exact fun hnone => absurd hnone (by simp)
      · rw [if_neg hlisted, h other]
        constructor
        · exact And.right
        · intro howner
          refine ⟨?_, howner⟩
          rintro rfl
          exact hlisted ((h other).mpr howner)

/-- The tables say the same of a form at all times exactly if no change takes it. -/
theorem agrees_after_iff {r : Registry} {form : String} (h : r.Agrees form) (steps : List Step) :
    (∀ before rest, steps = before ++ rest → (r.after before).Agrees form) ↔
      ∀ before step rest, steps = before ++ step :: rest → ¬ (r.after before).Takes form step := by
  induction steps generalizing r with
  | nil =>
      constructor
      · intro _ before step rest heq
        exact absurd heq (by simp)
      · intro _ before rest heq
        obtain ⟨rfl, _⟩ := List.nil_eq_append_iff.mp heq
        exact h
  | cons step steps ih =>
      constructor
      · intro hagrees
        have hnext : (r.run step).Agrees form := hagrees [step] steps rfl
        have hlater := (ih hnext).mp fun before rest heq =>
          hagrees (step :: before) rest (congrArg (step :: ·) heq)
        intro before next rest heq
        cases before with
        | nil =>
            obtain ⟨rfl, _⟩ := List.cons.inj heq
            exact (agrees_run_iff h step).mp hnext
        | cons first before =>
            obtain ⟨rfl, htail⟩ := List.cons.inj heq
            exact hlater before next rest htail
      · intro hkept
        have hnext : (r.run step).Agrees form :=
          (agrees_run_iff h step).mpr (hkept [] step steps rfl)
        have hlater := (ih hnext).mpr fun before next rest heq =>
          hkept (step :: before) next rest (congrArg (step :: ·) heq)
        intro before rest heq
        cases before with
        | nil => exact h
        | cons first before =>
            obtain ⟨rfl, htail⟩ := List.cons.inj heq
            exact hlater before rest htail

/-! ## Extensions -/

/-- The two tables say the same of an extension. -/
structure Inverse (r : Registry) (extension : String) : Prop where
  /-- It is listed by the language as which it is detected, if it is supported, and by no other. -/
  listed_iff : ∀ language, lowerText extension ∈ r.extensions language ↔
    r.isSupported extension = true ∧ r.detect extension = language
  /-- Taking out another language does not change how it is detected. -/
  kept : ∀ language, r.isSupported extension = true → r.detect extension ≠ language →
    (r.unregister language).isSupported extension = true ∧
      (r.unregister language).detect extension = r.detect extension

theorem inverse_iff_agrees (r : Registry) (extension : String) :
    r.Inverse extension ↔ r.Agrees (lowerText extension) := by
  constructor
  · intro h language
    rw [h.listed_iff, owner?_eq_some_iff]
  · intro h
    refine ⟨fun language => (h language).trans owner?_eq_some_iff,
      fun language hsupported hother => owner?_eq_some_iff.mp ?_⟩
    have howner := owner?_eq_some_iff.mpr ⟨hsupported, rfl⟩
    have hunlisted : lowerText extension ∉ r.extensions language := fun hlisted =>
      hother (Option.some.inj (howner.symm.trans ((h language).mp hlisted)))
    rw [owner?_unregister, if_neg hunlisted]
    exact howner

/-- The language of an extension lists it, and what is listed is in lower case. The tables say the
same of an extension at all times exactly if it is never given to a language while another lists
it. -/
theorem tables_inverse_iff (default : String) (steps : List Step) :
    (∀ extension, (after { default } steps).isSupported extension = true →
      lowerText extension ∈
        (after { default } steps).extensions ((after { default } steps).detect extension)) ∧
    (∀ language, ∀ form ∈ (after { default } steps).extensions language,
      lowerText form = form) ∧
    ∀ extension,
      (∀ before rest, steps = before ++ rest → (after { default } before).Inverse extension) ↔
        ∀ before language given rest, steps = before ++ .register language given :: rest →
          lowerText extension ∈ given.map lowerText →
            ∀ other, lowerText extension ∈ (after { default } before).extensions other →
              other = language := by
  have hsound : Sound (after { default } steps) := (sound_empty default).after steps
  refine ⟨fun extension hsupported => hsound.listed _ _ (owner?_eq_some_iff.mpr ⟨hsupported, rfl⟩),
    hsound.lower, fun extension => ?_⟩
  have hempty : Agrees { default } (lowerText extension) := fun language => by
    simp [extensions, owner?]
  simp only [inverse_iff_agrees]
  rw [agrees_after_iff hempty]
  constructor
  · intro hkept before language given rest heq hgiven other hlisted
    refine Decidable.byContradiction fun hother => ?_
    exact hkept before _ rest heq ⟨hgiven, other, hother, hlisted⟩
  · intro halone before step rest heq htakes
    cases step with
    | register language given =>
        obtain ⟨hgiven, other, hother, hlisted⟩ := htakes
        exact hother (halone before language given rest heq hgiven other hlisted)
    | unregister language => exact htakes

/-- An extension that moves to another language is still listed by the first, and is lost when the
first is taken out. -/
theorem moved_extension_is_lost :
    ".x" ∈ (after { default := "unknown" }
      [.register "a" [".x"], .register "b" [".x"]]).extensions "a" ∧
    (after { default := "unknown" } [.register "a" [".x"], .register "b" [".x"]]).detect ".x" =
      "b" ∧
    (after { default := "unknown" }
      [.register "a" [".x"], .register "b" [".x"], .unregister "a"]).detect ".x" = "unknown" := by
  decide

end ChunkGraph.Registry
