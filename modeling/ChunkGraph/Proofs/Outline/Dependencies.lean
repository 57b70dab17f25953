import ChunkGraph.Outline.Basic
import Mathlib.Data.List.Induction

/-!
# The dependencies of a declaration

What a declaration depends on are the modules that it loads, the names that it
refers to, and the imports of the file. Of the entries with one kind, module and
name the first is kept, and of the imports only those from modules that the
declaration does not depend on by itself.

Below the top level of a file, kind, module and name say all about an entry, so
none of the own entries of a declaration is lost to another.

## Main definitions

* `IsFirst` — the first entry of a list with its kind, module and name.
* `Dependency.Plain` — an entry that these three say all about.

## Main results

* `mem_mergeDependencies` — the entries that are kept.
* `plain_of_mem_ownDependencies` — what a declaration depends on by itself.
* `mem_mergeDependencies_of_own` — all of that is kept.
-/

namespace ChunkGraph

open Syntax

namespace Outline

/-! ## Entries that are kept -/

/-- The entry is the first one of the list with its kind, module and name. -/
def IsFirst (d : Dependency) (entries : List Dependency) : Prop :=
  entries.find? (entryKey · == entryKey d) = some d

instance (d : Dependency) (entries : List Dependency) : Decidable (IsFirst d entries) :=
  inferInstanceAs (Decidable (_ = _))

variable {d e : Dependency} {entries own imports : List Dependency}

theorem IsFirst.mem (h : IsFirst d entries) : d ∈ entries := List.mem_of_find?_eq_some h

/-- Every key of a list has a first entry. -/
theorem exists_isFirst (he : e ∈ entries) : ∃ d, IsFirst d entries ∧ entryKey d = entryKey e := by
  have hfound : (entries.find? (entryKey · == entryKey e)).isSome :=
    List.find?_isSome.mpr ⟨e, he, beq_self_eq_true _⟩
  obtain ⟨d, hd⟩ := Option.isSome_iff_exists.mp hfound
  have hkey : entryKey d = entryKey e := by simpa using List.find?_some hd
  refine ⟨d, ?_, hkey⟩
  unfold IsFirst
  rw [hkey]
  exact hd

/-- The first entry is in front, or nothing in front has its key. -/
theorem isFirst_append {front back : List Dependency} :
    IsFirst d (front ++ back) ↔
      IsFirst d front ∨ (∀ e ∈ front, entryKey e ≠ entryKey d) ∧ IsFirst d back := by
  unfold IsFirst
  rw [List.find?_append, Option.or_eq_some_iff, List.find?_eq_none]
  simp only [beq_iff_eq]

theorem isFirst_singleton : IsFirst d [e] ↔ e = d := by
  unfold IsFirst
  rw [List.find?_singleton]
  split
  · exact Option.some_inj
  · rename_i hother
    exact ⟨fun h => absurd h (by simp), fun h => absurd (beq_iff_eq.mpr (congrArg _ h)) hother⟩

/-- Of the entries of a list those are added that are the first of their kind, module and name. -/
theorem mem_foldl_addEntry : d ∈ entries.foldl addEntry [] ↔ IsFirst d entries := by
  induction entries using List.reverseRecOn generalizing d with
  | nil => exact ⟨fun h => absurd h List.not_mem_nil, fun h => absurd h.mem List.not_mem_nil⟩
  | append_singleton entries a ih =>
      rw [List.foldl_append, List.foldl_cons, List.foldl_nil, isFirst_append, isFirst_singleton,
        ← ih]
      unfold addEntry
      split
      · rename_i hknown
        obtain ⟨e, he, hkey⟩ := List.any_eq_true.mp hknown
        refine ⟨Or.inl, fun h => h.elim id ?_⟩
        rintro ⟨hnew, rfl⟩
        exact absurd (eq_of_beq hkey) (hnew e (ih.mp he).mem)
      · rename_i hnew
        rw [List.mem_append, List.mem_singleton]
        refine or_congr Iff.rfl ⟨?_, fun h => h.2.symm⟩
        rintro rfl
        refine ⟨fun e he hkey => hnew (List.any_eq_true.mpr ?_), rfl⟩
        obtain ⟨first, hfirst, hsame⟩ := exists_isFirst he
        exact ⟨first, ih.mpr hfirst, beq_iff_eq.mpr (hsame.trans hkey)⟩

/-- Leaving out other modules does not change which entry is the first. -/
theorem isFirst_filter {sources : List String} :
    IsFirst d (imports.filter fun e => !sources.contains e.source) ↔
      IsFirst d imports ∧ d.source ∉ sources := by
  by_cases hsource : d.source ∈ sources
  · refine ⟨fun h => ?_, fun h => absurd hsource h.2⟩
    have hkept := (List.mem_filter.mp h.mem).2
    rw [List.contains_iff_mem.mpr hsource] at hkept
    exact absurd hkept (by decide)
  · have hsame : imports.find? (fun e => !sources.contains e.source && entryKey e == entryKey d) =
        imports.find? (entryKey · == entryKey d) := by
      refine congrArg (List.find? · imports) (funext fun e => ?_)
      by_cases hkey : entryKey e = entryKey d
      · have hkept : (!sources.contains e.source) = true := by
          rw [show e.source = d.source from congrArg (·.2.1) hkey]
          simpa using hsource
        rw [hkept, Bool.true_and]
      · rw [beq_eq_false_iff_ne.mpr hkey, Bool.and_false]
    unfold IsFirst
    rw [List.find?_filter]
    simp only [Bool.decide_and, Bool.decide_eq_true, hsame]
    exact ⟨fun h => ⟨h, hsource⟩, And.left⟩

/-- Kept are, of the own entries and then the imports, those that are the first of their kind,
module and name, unless they are imports from a module of an own entry. -/
theorem mem_mergeDependencies :
    d ∈ mergeDependencies own imports ↔
      IsFirst d (own ++ imports) ∧ (d ∈ own ∨ d.source ∉ sourcesOf own) := by
  unfold mergeDependencies
  rw [mem_foldl_addEntry, isFirst_append, isFirst_append, isFirst_filter]
  constructor
  · rintro (hown | ⟨hnew, hfirst, hsource⟩)
    · exact ⟨Or.inl hown, Or.inl hown.mem⟩
    · exact ⟨Or.inr ⟨hnew, hfirst⟩, Or.inr hsource⟩
  · rintro ⟨hown | ⟨hnew, hfirst⟩, hkept⟩
    · exact Or.inl hown
    · exact Or.inr ⟨hnew, hfirst, hkept.resolve_left fun hmem => hnew d hmem rfl⟩

end Outline

/-! ## Own entries -/

/-- Kind, module and name say all about the dependency: it is no default import, and takes all
exports of a module exactly if it is an import in an expression. -/
structure Dependency.Plain (d : Dependency) : Prop where
  isDefault_eq : d.isDefault = false
  isNamespace_eq : d.isNamespace = (d.kind == .dynamicImport)

theorem Dependency.Plain.eq_of_entryKey_eq {d e : Dependency} (hd : d.Plain) (he : e.Plain)
    (h : Outline.entryKey d = Outline.entryKey e) : d = e := by
  obtain ⟨name, source, kind, isDefault, isNamespace⟩ := d
  obtain ⟨name', source', kind', isDefault', isNamespace'⟩ := e
  simp only [Outline.entryKey, Prod.mk.injEq] at h
  obtain ⟨rfl, rfl, rfl⟩ := h
  obtain rfl : isDefault = isDefault' := hd.isDefault_eq.trans he.isDefault_eq.symm
  obtain rfl : isNamespace = isNamespace' := hd.isNamespace_eq.trans he.isNamespace_eq.symm
  rfl

namespace Script

/-- The reference to a name. -/
def reference (name : String) : Dependency := { name, source := "", kind := .reference }

theorem plain_reference (name : String) : (reference name).Plain := ⟨rfl, rfl⟩

theorem mem_asReferences {d : Dependency} {names : List String} :
    d ∈ asReferences names ↔ ∃ name ∈ names, d = reference name := by
  unfold asReferences
  rw [List.mem_map]
  exact exists_congr fun _ => and_congr Iff.rfl eq_comm

/-- What a call loads: the whole of a module that an expression imports, or a name bound to one that
is required. -/
theorem callImport?_cases {tree : Tree} {call : Cursor} {d : Dependency}
    (h : callImport? tree call = some d) :
    ∃ source, d = { name := "*", source, kind := .dynamicImport, isNamespace := true } ∨
      d = { name := requireBinding tree call, source, kind := .required } := by
  unfold callImport? at h
  split at h
  · exact absurd h (by simp)
  obtain ⟨function, _, h⟩ := Option.bind_eq_some_iff.mp h
  obtain ⟨arguments, _, h⟩ := Option.bind_eq_some_iff.mp h
  obtain ⟨literal, _, h⟩ := Option.bind_eq_some_iff.mp h
  simp only at h
  split at h
  · exact ⟨_, Or.inl (Option.some.inj h).symm⟩
  · split at h
    · exact ⟨_, Or.inr (Option.some.inj h).symm⟩
    · exact absurd h (by simp)

/-- What a call loads is a module. -/
theorem plain_of_callImport? {tree : Tree} {call : Cursor} {d : Dependency}
    (h : callImport? tree call = some d) : d.Plain ∧ d.kind ≠ .reference := by
  obtain ⟨source, rfl | rfl⟩ := callImport?_cases h
  · exact ⟨⟨rfl, rfl⟩, DependencyKind.noConfusion⟩
  · exact ⟨⟨rfl, rfl⟩, DependencyKind.noConfusion⟩

/-- What a declaration loads are modules. -/
theorem plain_of_mem_imports {tree : Tree} {item : Item} {d : Dependency}
    (hkind : item.kind ≠ "program") (h : d ∈ imports tree item) :
    d.Plain ∧ d.kind ≠ .reference := by
  unfold imports at h
  rw [if_neg (by simpa using hkind)] at h
  obtain ⟨call, _, hcall⟩ := List.mem_filterMap.mp h
  exact plain_of_callImport? hcall

end Script

namespace Outline

/-- What a declaration below the top of a file depends on by itself. -/
theorem plain_of_mem_ownDependencies {ctx : Context} {item : Item} {d : Dependency}
    (hbelow : item.node.parent? ≠ none) (hkind : item.kind ≠ "program")
    (h : d ∈ ctx.ownDependencies item) : d.Plain := by
  rcases List.mem_append.mp h with himports | hreferences
  · cases hfrontEnd : ctx.frontEnd with
    | script | component =>
        rw [hfrontEnd] at himports
        exact (Script.plain_of_mem_imports hkind himports).1
    | generic language =>
        rw [hfrontEnd] at himports
        have hnone : (FrontEnd.generic language).imports ctx.tree item = [] :=
          if_pos (Option.isSome_iff_ne_none.mpr hbelow)
        rw [hnone] at himports
        exact absurd himports List.not_mem_nil
  · have hreferences := (List.mem_filter.mp hreferences).1
    cases hfrontEnd : ctx.frontEnd with
    | script | component | generic _ =>
        rw [hfrontEnd] at hreferences
        obtain ⟨name, _, rfl⟩ := Script.mem_asReferences.mp hreferences
        exact Script.plain_reference name

/-- All that a declaration below the top of a file depends on by itself is kept. -/
theorem mem_mergeDependencies_of_own {ctx : Context} {item : Item} {d : Dependency}
    (hbelow : item.node.parent? ≠ none) (hkind : item.kind ≠ "program")
    (h : d ∈ ctx.ownDependencies item) (imports : List Dependency) :
    d ∈ mergeDependencies (ctx.ownDependencies item) imports := by
  obtain ⟨first, hfirst, hkey⟩ := exists_isFirst h
  have hsame : first = d :=
    (plain_of_mem_ownDependencies hbelow hkind hfirst.mem).eq_of_entryKey_eq
      (plain_of_mem_ownDependencies hbelow hkind h) hkey
  exact mem_mergeDependencies.mpr ⟨isFirst_append.mpr (Or.inl (hsame ▸ hfirst)), Or.inl h⟩

end Outline

end ChunkGraph
