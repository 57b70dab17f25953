import ChunkGraph.Proofs.Graph.Targets

/-!
# Which lookup decides what a dependency means

The exports of the module that a specifier resolves to come first, then those of
the chunk's own file, then those of all files. The first of the three that offers
anything decides alone: chunks that a later lookup would find, however well they
are named, do not count. The last lookup is reached also by a specifier that
resolves to a module without a fitting export.

In a module a dependency is looked for by one key. A default import has two: the
key of default exports where the module has one, and the imported name otherwise.

## Main definitions

* `exportedIn` — the exported chunks of a file.
* `Dependency.CanMean` — what a dependency can mean among the exports of a module.

## Main results

* `Builder.moduleExports_perm` — the first lookup.
* `Builder.meaningOf_precedence` — which of the lookups decides, and what it
  finds.
-/

namespace ChunkGraph

/-- The exported chunks of the files with a normalized path. -/
def exportedIn (chunks : List Chunk) (path : String) : List Chunk :=
  chunks.filter fun chunk => chunk.exported && Path.normalize chunk.filePath == path

namespace Dependency

/-- The dependency takes all that a module exports: it imports the exports under one name, or binds
the module that it requires. -/
def TakesAll (d : Dependency) : Prop := d.isNamespace = true ∨ d.kind = .required ∧ d.name ≠ "*"

/-- The key under which the dependency is looked for among the exports of a module. -/
def soughtKey (d : Dependency) (exports : List Chunk) : String :=
  if d.isDefault = true ∧ ∃ chunk ∈ exports, chunk.exportKey = "default" then "default" else d.name

/-- Among the exports of a module, the dependency can mean the chunk. -/
def CanMean (d : Dependency) (exports : List Chunk) (chunk : Chunk) : Prop :=
  d.TakesAll ∨ chunk.exportKey = d.soughtKey exports

instance (d : Dependency) : Decidable d.TakesAll := inferInstanceAs (Decidable (_ ∨ _))

instance (d : Dependency) (exports : List Chunk) (chunk : Chunk) :
    Decidable (d.CanMean exports chunk) := inferInstanceAs (Decidable (_ ∨ _))

/-- What the dependency can mean among the exports of a module. -/
def meantAmong (d : Dependency) (exports : List Chunk) : List Chunk :=
  exports.filter fun chunk => decide (d.CanMean exports chunk)

theorem meantAmong_of_takesAll {d : Dependency} (h : d.TakesAll) (exports : List Chunk) :
    d.meantAmong exports = exports :=
  List.filter_eq_self.mpr fun _ _ => decide_eq_true (Or.inl h)

theorem meantAmong_of_not_takesAll {d : Dependency} (h : ¬ d.TakesAll) (exports : List Chunk) :
    d.meantAmong exports = exports.filter (·.exportKey == d.soughtKey exports) := by
  refine List.filter_congr fun chunk _ => ?_
  rw [Bool.eq_iff_iff, decide_eq_true_iff, beq_iff_eq]
  exact or_iff_right h

end Dependency

theorem exportsOf_index (chunks : List Chunk) (path : String) :
    exportsOf (index chunks) path = exportedIn chunks path := by
  have hfile : inFile (index chunks) path =
      chunks.filter fun chunk => Path.normalize chunk.filePath == path := by
    rw [inFile, index, List.filter_map, List.map_map]
    exact List.map_id' _
  rw [exportsOf, hfile, List.filter_filter, exportedIn]

namespace Builder

variable {d : Dependency}

theorem takesAll_iff : (d.isNamespace || (d.kind == .required && d.name != "*")) = true ↔
    d.TakesAll := by
  simp [Dependency.TakesAll]

/-- In a module a dependency means what it can mean among the exports, in some order. -/
theorem moduleExports_perm (chunks : List Chunk) (d : Dependency) (path : String) :
    (moduleExports (index chunks) d path).Perm (d.meantAmong (exportedIn chunks path)) := by
  have hnamed (name : String) : exportsNamed (index chunks) path name =
      (exportedIn chunks path).filter (·.exportKey == name) := by
    rw [exportsNamed, exportsOf_index]
  unfold moduleExports
  by_cases hall : d.TakesAll
  · rw [if_pos (takesAll_iff.mpr hall), exportsOf_index, Dependency.meantAmong_of_takesAll hall]
    exact groupedByKey_perm _
  · rw [if_neg fun h => hall (takesAll_iff.mp h), Dependency.meantAmong_of_not_takesAll hall,
      hnamed, hnamed, Dependency.soughtKey]
    by_cases hdefault : d.isDefault = true
    · rw [if_pos hdefault]
      split
      · rename_i hnone
        rw [if_neg]
        rintro ⟨_, chunk, hchunk, hkey⟩
        have hmem : chunk ∈ (exportedIn chunks path).filter (·.exportKey == "default") :=
          List.mem_filter.mpr ⟨hchunk, beq_iff_eq.mpr hkey⟩
        rw [hnone] at hmem
        exact List.not_mem_nil hmem
      · rename_i found hsome
        obtain ⟨chunk, hchunk⟩ := List.exists_mem_of_ne_nil _ hsome
        obtain ⟨hin, hkey⟩ := List.mem_filter.mp hchunk
        rw [if_pos ⟨hdefault, chunk, hin, beq_iff_eq.mp hkey⟩]
    · rw [if_neg hdefault, if_neg fun h => hdefault h.1]

/-- The exported chunks that answer to the name: those of the chunk's own file, or else all. -/
theorem exportedByName_index (chunks : List Chunk) (d : Dependency) (chunk : Chunk) :
    exportedByName (index chunks) d chunk =
      if (exportedIn chunks (Path.normalize chunk.filePath)).filter (·.answersTo d.name) = [] then
        (chunks.filter (·.exported)).filter (·.answersTo d.name)
      else (exportedIn chunks (Path.normalize chunk.filePath)).filter (·.answersTo d.name) := by
  have hall : (index chunks).map (·.chunk) = chunks := by
    rw [index, List.map_map]
    exact List.map_id' _
  unfold exportedByName
  simp only [exportsOf_index, hall, List.isEmpty_iff]

/-- The first lookup sees the exports of the module only. -/
theorem moduleExports_congr {chunks others : List Chunk} {path : String}
    (h : exportedIn others path = exportedIn chunks path) (d : Dependency) :
    moduleExports (index others) d path = moduleExports (index chunks) d path := by
  have hnamed (name : String) :
      exportsNamed (index others) path name = exportsNamed (index chunks) path name := by
    rw [exportsNamed, exportsNamed, exportsOf_index, exportsOf_index, h]
  unfold moduleExports
  rw [hnamed, hnamed, exportsOf_index, exportsOf_index, h]

section Import

variable {b : Builder} {chunks : List Chunk} {chunk : Chunk} (hkind : d.kind ≠ .reference)

include hkind

/-- What the first lookup offers is what an import means. -/
theorem meaningOf_of_moduleExports {path : String}
    (hresolve : b.resolve? chunk.filePath d.source = some path)
    (hfound : moduleExports (index chunks) d path ≠ []) :
    b.meaningOf (index chunks) d chunk = moduleExports (index chunks) d path := by
  unfold meaningOf
  rw [if_neg (by simpa using hkind), hresolve]
  exact if_neg (by simpa using hfound)

/-- Where the first lookup offers nothing, an import means what the others find. -/
theorem meaningOf_of_no_moduleExports
    (hnone : ∀ path, b.resolve? chunk.filePath d.source = some path →
      moduleExports (index chunks) d path = []) :
    b.meaningOf (index chunks) d chunk = exportedByName (index chunks) d chunk := by
  unfold meaningOf
  rw [if_neg (by simpa using hkind)]
  cases hresolve : b.resolve? chunk.filePath d.source with
  | none => rfl
  | some path =>
      dsimp only
      rw [hnone path hresolve]
      rfl

end Import

/-- Of an import, the module that its specifier resolves to decides if it exports anything that
it can mean, whatever else is exported anywhere. Otherwise the exports of the chunk's own file
decide that answer to the name, and where there are none those of all files. -/
theorem meaningOf_precedence (b : Builder) (chunks : List Chunk) (chunk : Chunk) (d : Dependency)
    (hkind : d.kind ≠ .reference) :
    (∀ path, b.resolve? chunk.filePath d.source = some path →
        d.meantAmong (exportedIn chunks path) ≠ [] →
          (b.meaningOf (index chunks) d chunk).Perm (d.meantAmong (exportedIn chunks path)) ∧
            ∀ others, exportedIn others path = exportedIn chunks path →
              b.meaningOf (index others) d chunk = b.meaningOf (index chunks) d chunk) ∧
      ((∀ path, b.resolve? chunk.filePath d.source = some path →
          d.meantAmong (exportedIn chunks path) = []) →
        b.meaningOf (index chunks) d chunk =
          if (exportedIn chunks (Path.normalize chunk.filePath)).filter (·.answersTo d.name) = []
          then (chunks.filter (·.exported)).filter (·.answersTo d.name)
          else (exportedIn chunks (Path.normalize chunk.filePath)).filter
            (·.answersTo d.name)) := by
  constructor
  · intro path hresolve hmeant
    have hfound : moduleExports (index chunks) d path ≠ [] := fun hnone =>
      hmeant (hnone ▸ moduleExports_perm chunks d path).nil_eq.symm
    have hmeaning := meaningOf_of_moduleExports hkind hresolve hfound
    refine ⟨hmeaning ▸ moduleExports_perm chunks d path, fun others hothers => ?_⟩
    have hsame := moduleExports_congr hothers d
    rw [hmeaning, meaningOf_of_moduleExports hkind hresolve (hsame ▸ hfound), hsame]
  · intro hnone
    rw [meaningOf_of_no_moduleExports hkind, exportedByName_index]
    intro path hresolve
    exact (hnone path hresolve ▸ moduleExports_perm chunks d path).eq_nil

/-- An exported constant, of the same name in every file. -/
def constantIn (path : String) : Chunk :=
  { id := path, kind := .exportDecl, name := "A", qualifiedName := "A", filePath := path
    range := ⟨⟨1, 0⟩, ⟨1, 0⟩⟩, startLine := 1, endLine := 1, hash := "", exported := true }

/-- Three files export the constant. -/
def constants : List Chunk := [constantIn "far.ts", constantIn "main.ts", constantIn "consts.ts"]

/-- Imports of one of them. -/
def constsResolver : Builder := { fileExists := (· == "consts.ts") }

/-- An import from a file with the constant means that one alone, and an import from nowhere the one
of its own file. -/
theorem meaningOf_precedence_constants :
    DependencyKind.imported ≠ .reference ∧
      (constsResolver.meaningOf (index constants) { name := "A", source := "./consts" }
        (constantIn "main.ts")).Perm [constantIn "consts.ts"] ∧
      constsResolver.meaningOf (index constants) { name := "A", source := "./gone" }
        (constantIn "main.ts") = [constantIn "main.ts"] := by
  have hkind : DependencyKind.imported ≠ .reference := by decide
  have hconsts : exportedIn constants "consts.ts" = [constantIn "consts.ts"] := by decide
  have hown : (exportedIn constants (Path.normalize (constantIn "main.ts").filePath)).filter
      (·.answersTo "A") = [constantIn "main.ts"] := by decide
  have hmeant : ({ name := "A", source := "./consts" } : Dependency).meantAmong
      [constantIn "consts.ts"] = [constantIn "consts.ts"] := by decide
  have hresolve : constsResolver.resolve? "main.ts" "./consts" = some "consts.ts" := by
    decide +kernel
  have hgone : constsResolver.resolve? "main.ts" "./gone" = none := by decide
  obtain ⟨hnear, _⟩ := (meaningOf_precedence constsResolver constants (constantIn "main.ts")
    { name := "A", source := "./consts" } hkind).1 "consts.ts" hresolve
      (by rw [hconsts, hmeant]; exact List.cons_ne_nil _ _)
  have hfar := (meaningOf_precedence constsResolver constants (constantIn "main.ts")
    { name := "A", source := "./gone" } hkind).2 fun path hpath =>
      absurd (hgone.symm.trans hpath) (by simp)
  rw [hconsts, hmeant] at hnear
  rw [hown, if_neg (List.cons_ne_nil _ _)] at hfar
  exact ⟨hkind, hnear, hfar⟩

end Builder

end ChunkGraph
