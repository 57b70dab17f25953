import ChunkGraph.Graph.Basic
import ChunkGraph.Proofs.Graph.Reachability
import Mathlib.Data.List.Perm.Basic

/-!
# What the edges of a graph are

The graph is filled chunk by chunk, and of several chunks with one identity the
last decides. Every lookup on the way to its targets filters the chunks it was
given, so the membership lemmas below say of each lookup which chunks pass, and
an edge can only lead to the identity of a chunk of the same list.

## Main results

* `groupedByKey_perm` — bringing chunks together by name changes their order
  only.
* `targets_build` — the targets of an identity are those of the last chunk
  that has it.
* `mem_targetsOf` — what a chunk depends on: what its dependencies mean, and
  its parent.
* `exported_or_referenced` — a dependency means exported chunks, and a reference
  declarations of the same file.
* `exists_chunk_of_leads` — an edge leads to the identity of a chunk.
-/

namespace ChunkGraph

/-! ## Lookups -/

section Lookups

variable {chunks : List Chunk} {path name : String} {chunk : Chunk}

theorem mem_inFile :
    chunk ∈ inFile (index chunks) path ↔
      chunk ∈ chunks ∧ Path.normalize chunk.filePath = path := by
  simp only [inFile, index, List.mem_map, List.mem_filter, beq_iff_eq]
  constructor
  · rintro ⟨_, ⟨⟨c, hc, rfl⟩, hpath⟩, rfl⟩
    exact ⟨hc, hpath⟩
  · rintro ⟨hc, hpath⟩
    exact ⟨⟨_, chunk⟩, ⟨⟨chunk, hc, rfl⟩, hpath⟩, rfl⟩

theorem mem_exportsOf :
    chunk ∈ exportsOf (index chunks) path ↔
      chunk ∈ chunks ∧ Path.normalize chunk.filePath = path ∧ chunk.exported = true := by
  rw [exportsOf, List.mem_filter, mem_inFile, and_assoc]

theorem mem_exportsNamed :
    chunk ∈ exportsNamed (index chunks) path name ↔
      chunk ∈ exportsOf (index chunks) path ∧ chunk.exportKey = name := by
  rw [exportsNamed, List.mem_filter, beq_iff_eq]

theorem mem_of_mem_exportsNamed (h : chunk ∈ exportsNamed (index chunks) path name) :
    chunk ∈ chunks := (mem_exportsOf.mp (mem_exportsNamed.mp h).1).1

/-- A list brought together by different keys, of which each item has one, is the same list in
another order. -/
theorem flatMap_filter_perm {α : Type} (key : α → String) {keys : List String} {items : List α}
    (hnodup : keys.Nodup) (hkeys : ∀ item ∈ items, key item ∈ keys) :
    (keys.flatMap fun k => items.filter (key · == k)).Perm items := by
  induction keys generalizing items with
  | nil =>
      rw [List.eq_nil_iff_forall_not_mem.mpr fun item hitem => List.not_mem_nil (hkeys item hitem)]
      exact List.Perm.nil
  | cons first keys ih =>
      obtain ⟨hnew, hnodup⟩ := List.nodup_cons.mp hnodup
      -- the keys that follow see only what the first one leaves
      have hrest : (keys.flatMap fun k => items.filter (key · == k)) =
          keys.flatMap fun k =>
            (items.filter fun item => !(key item == first)).filter (key · == k) := by
        refine List.flatMap_congr fun k hk => ?_
        rw [List.filter_filter]
        refine List.filter_congr fun item _ => ?_
        by_cases hkey : key item = k
        · have hne : k ≠ first := fun heq => hnew (heq ▸ hk)
          simp [hkey, hne]
        · simp [hkey]
      rw [List.flatMap_cons, hrest]
      refine ((ih hnodup ?_).append_left _).trans (List.filter_append_perm _ items)
      intro item hitem
      obtain ⟨hmem, hne⟩ := List.mem_filter.mp hitem
      exact (List.mem_cons.mp (hkeys item hmem)).resolve_left (by simpa using hne)

/-- Bringing chunks together by name changes their order only. -/
theorem groupedByKey_perm (chunks : List Chunk) : (groupedByKey chunks).Perm chunks := by
  have hkeys : chunks.foldl
      (fun names c => if names.contains c.exportKey then names else names ++ [c.exportKey]) [] =
      (chunks.map (·.exportKey)).foldl addId [] := by
    rw [List.foldl_map]
    rfl
  unfold groupedByKey
  rw [hkeys]
  refine flatMap_filter_perm Chunk.exportKey (nodup_foldl_addId _ _ List.nodup_nil) ?_
  intro chunk hchunk
  exact (mem_foldl_addId _ _ _).mpr (Or.inr (List.mem_map_of_mem hchunk))

/-- Bringing chunks together by name loses none and makes none up. -/
theorem mem_groupedByKey : chunk ∈ groupedByKey chunks ↔ chunk ∈ chunks :=
  (groupedByKey_perm chunks).mem_iff

end Lookups

/-- The list with a second one in its place if it is empty. -/
theorem mem_if_isEmpty {α : Type} (first second : List α) (item : α) :
    item ∈ (if first.isEmpty then second else first) ↔
      item ∈ first ∨ (∀ other, other ∉ first) ∧ item ∈ second := by
  cases first with
  | nil => simp
  | cons head tail =>
      simp only [List.isEmpty_cons, Bool.false_eq_true, if_false]
      constructor
      · exact fun h => Or.inl h
      · rintro (h | ⟨h, _⟩)
        · exact h
        · exact absurd List.mem_cons_self (h head)

namespace Builder

section Meaning

variable {chunks : List Chunk} {d : Dependency} {path : String} {chunk found : Chunk}

theorem mem_moduleExports :
    found ∈ moduleExports (index chunks) d path ↔
      if d.isNamespace || (d.kind == .required && d.name != "*") then
        found ∈ exportsOf (index chunks) path
      else if d.isDefault then
        found ∈ exportsNamed (index chunks) path "default" ∨
          (∀ other, other ∉ exportsNamed (index chunks) path "default") ∧
            found ∈ exportsNamed (index chunks) path d.name
      else found ∈ exportsNamed (index chunks) path d.name := by
  unfold moduleExports
  split
  · exact mem_groupedByKey
  · split
    · split
      · rename_i hnone
        simp [hnone]
      · rename_i hsome
        rw [← mem_if_isEmpty]
        cases hlist : exportsNamed (index chunks) path "default" with
        | nil => exact absurd hlist hsome
        | cons head tail => simp
    · exact Iff.rfl

/-- In a module a dependency means exports of it only. -/
theorem mem_exportsOf_of_mem_moduleExports (h : found ∈ moduleExports (index chunks) d path) :
    found ∈ exportsOf (index chunks) path := by
  rw [mem_moduleExports] at h
  split at h
  · exact h
  · split at h
    · rcases h with h | ⟨_, h⟩
      · exact (mem_exportsNamed.mp h).1
      · exact (mem_exportsNamed.mp h).1
    · exact (mem_exportsNamed.mp h).1

theorem mem_referenced :
    found ∈ referenced (index chunks) d chunk ↔
      found ∈ inFile (index chunks) (Path.normalize chunk.filePath) ∧
        found.id ≠ chunk.id ∧ found.kind ≠ .methodDecl ∧ found.name = d.name := by
  simp [referenced, List.mem_filter, and_assoc]

theorem mem_exportedByName :
    found ∈ exportedByName (index chunks) d chunk ↔
      (found ∈ exportsOf (index chunks) (Path.normalize chunk.filePath) ∧
          found.answersTo d.name = true) ∨
        (∀ other ∈ exportsOf (index chunks) (Path.normalize chunk.filePath),
            other.answersTo d.name = false) ∧
          found ∈ chunks ∧ found.exported = true ∧ found.answersTo d.name = true := by
  have hall : (index chunks).map (·.chunk) = chunks := by simp [index, Function.comp_def]
  simp only [exportedByName, mem_if_isEmpty, List.mem_filter, hall, not_and, Bool.not_eq_true,
    and_assoc]

theorem mem_meaningOf (b : Builder) :
    found ∈ b.meaningOf (index chunks) d chunk ↔
      if d.kind = .reference then found ∈ referenced (index chunks) d chunk
      else
        (∃ path, b.resolve? chunk.filePath d.source = some path ∧
            found ∈ moduleExports (index chunks) d path) ∨
          (∀ path, b.resolve? chunk.filePath d.source = some path →
              ∀ other, other ∉ moduleExports (index chunks) d path) ∧
            found ∈ exportedByName (index chunks) d chunk := by
  unfold meaningOf
  by_cases hkind : d.kind = .reference
  · simp [hkind]
  · have hkind' : (d.kind == .reference) = false := by simpa using hkind
    simp only [hkind', hkind, if_false, Bool.false_eq_true, mem_if_isEmpty]
    cases b.resolve? chunk.filePath d.source with
    | none => simp
    | some path => simp

/-- A reference means declarations of the same file that are no methods, and any other dependency
means exported chunks. -/
theorem exported_or_referenced (b : Builder) (h : found ∈ b.meaningOf (index chunks) d chunk) :
    (d.kind = .reference ∧ found ∈ chunks ∧
        Path.normalize found.filePath = Path.normalize chunk.filePath ∧
        found.kind ≠ .methodDecl ∧ found.name = d.name) ∨
      found ∈ chunks ∧ found.exported = true := by
  rw [mem_meaningOf] at h
  split at h
  · rename_i hkind
    obtain ⟨hfile, _, hmethod, hname⟩ := mem_referenced.mp h
    obtain ⟨hin, hpath⟩ := mem_inFile.mp hfile
    exact Or.inl ⟨hkind, hin, hpath, hmethod, hname⟩
  · right
    rcases h with ⟨path, _, h⟩ | ⟨_, h⟩
    · obtain ⟨hin, _, hexported⟩ := mem_exportsOf.mp (mem_exportsOf_of_mem_moduleExports h)
      exact ⟨hin, hexported⟩
    · rcases mem_exportedByName.mp h with ⟨hown, _⟩ | ⟨_, hin, hexported, _⟩
      · obtain ⟨hin, _, hexported⟩ := mem_exportsOf.mp hown
        exact ⟨hin, hexported⟩
      · exact ⟨hin, hexported⟩

/-- A dependency means chunks of the list only. -/
theorem mem_of_mem_meaningOf (b : Builder)
    (h : found ∈ b.meaningOf (index chunks) d chunk) : found ∈ chunks := by
  rcases exported_or_referenced b h with ⟨_, hin, _⟩ | ⟨hin, _⟩
  · exact hin
  · exact hin

end Meaning

/-! ## Edges -/

/-- What a chunk depends on: what its dependencies mean, itself apart, and its parent. -/
theorem mem_targetsOf (b : Builder) (chunks : List Chunk) (chunk : Chunk) (target : String) :
    target ∈ b.targetsOf (index chunks) chunk ↔
      (∃ d ∈ chunk.dependencies, ∃ found ∈ b.meaningOf (index chunks) d chunk,
          found.id = target ∧ target ≠ chunk.id) ∨
        (chunk.parentId = some target ∧ target ≠ "" ∧ ∃ c ∈ chunks, c.id = target) := by
  have hany : ∀ id, (index chunks).any (·.chunk.id == id) = true ↔ ∃ c ∈ chunks, c.id = id := by
    intro id
    simp [index, Function.comp_def]
  have hmeant : target ∈
      ((chunk.dependencies.flatMap fun d => b.meaningOf (index chunks) d chunk).map
        (·.id)).filter (· != chunk.id) ↔
      ∃ d ∈ chunk.dependencies, ∃ found ∈ b.meaningOf (index chunks) d chunk,
        found.id = target ∧ target ≠ chunk.id := by
    simp only [List.mem_filter, List.mem_map, List.mem_flatMap, bne_iff_ne]
    constructor
    · rintro ⟨⟨found, ⟨d, hd, hfound⟩, rfl⟩, hne⟩
      exact ⟨d, hd, found, hfound, rfl, hne⟩
    · rintro ⟨d, hd, found, hfound, rfl, hne⟩
      exact ⟨⟨found, ⟨d, hd, hfound⟩, rfl⟩, hne⟩
  unfold targetsOf
  cases hparent : chunk.parentId with
  | none =>
      simp only [mem_foldl_addId, List.not_mem_nil, false_or, hmeant]
      simp
  | some parent =>
      simp only
      split
      · rename_i hadd
        rw [Bool.and_eq_true, hany] at hadd
        obtain ⟨hne, hin⟩ := hadd
        rw [mem_addId, mem_foldl_addId, hmeant]
        simp only [List.not_mem_nil, false_or, Option.some.injEq]
        constructor
        · rintro (h | rfl)
          · exact Or.inl h
          · exact Or.inr ⟨rfl, by simpa using hne, hin⟩
        · rintro (h | ⟨rfl, _⟩)
          · exact Or.inl h
          · exact Or.inr rfl
      · rename_i hadd
        rw [Bool.and_eq_true, hany] at hadd
        rw [mem_foldl_addId, hmeant]
        simp only [List.not_mem_nil, false_or, Option.some.injEq]
        constructor
        · exact fun h => Or.inl h
        · rintro (h | ⟨rfl, hne, hin⟩)
          · exact h
          · exact absurd ⟨by simpa using hne, hin⟩ hadd

/-- The targets of an identity are those of the last chunk that has it. -/
theorem targets_build (b : Builder) (chunks : List Chunk) (id : String) :
    (b.build chunks).targets id =
      ((chunks.reverse.find? (·.id == id)).map (b.targetsOf (index chunks))).getD [] := by
  rw [Graph.targets, build, Keyed.lookup_foldl_put]
  simp

/-- An edge leaves the last chunk with the identity it starts at. -/
theorem leads_build_iff (b : Builder) (chunks : List Chunk) (source target : String) :
    (b.build chunks).Leads source target ↔
      ∃ chunk, chunks.reverse.find? (·.id == source) = some chunk ∧
        target ∈ b.targetsOf (index chunks) chunk := by
  rw [Graph.Leads, targets_build]
  cases chunks.reverse.find? (·.id == source) with
  | none => simp
  | some chunk => simp

/-- An edge leads to the identity of a chunk. -/
theorem exists_chunk_of_leads (b : Builder) (chunks : List Chunk) {source target : String}
    (h : (b.build chunks).Leads source target) : ∃ c ∈ chunks, c.id = target := by
  obtain ⟨chunk, _, htarget⟩ := (leads_build_iff b chunks source target).mp h
  rcases (mem_targetsOf b chunks chunk target).mp htarget with
    ⟨d, _, found, hfound, hid, _⟩ | ⟨_, _, hin⟩
  · exact ⟨found, mem_of_mem_meaningOf b hfound, hid⟩
  · exact hin

end Builder

end ChunkGraph
