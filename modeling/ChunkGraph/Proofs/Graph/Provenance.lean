import ChunkGraph.Proofs.Data.Keyed
import ChunkGraph.Proofs.Graph.Targets
import Mathlib.Data.List.Nodup

/-!
# What the edges of a graph rest on

Three lookups, one rule for references and one for parents feed the list of an
identity. Whichever of them finds a chunk, it finds an exported one, unless it is
the rule for references, which stays inside the file. So an edge that leaves a
file leads to an export or to a parent, however the specifiers were resolved and
however many chunks share an identity.

## Main definitions

* `Grounded` — what an edge from a chunk rests on.

## Main results

* `Builder.keys_build`, `Builder.mem_build_iff` — the entries of a graph.
* `Builder.grounded_of_mem_targetsOf` — every target is grounded.
* `Builder.graph_closed_and_grounded` — the shape of a graph and the grounds of
  its edges.
-/

namespace ChunkGraph

/-- What an edge from a chunk to an identity rests on. -/
inductive Grounded (chunks : List Chunk) (chunk : Chunk) (target : String) : Prop where
  /-- The chunk names its parent. -/
  | parent (h : chunk.parentId = some target)
  /-- The chunk refers to the name of a declaration of its file that is no method. -/
  | reference (found : Chunk) (mem : found ∈ chunks) (id_eq : found.id = target)
      (path_eq : Path.normalize found.filePath = Path.normalize chunk.filePath)
      (kind_ne : found.kind ≠ .methodDecl)
      (named : ∃ d ∈ chunk.dependencies, d.kind = .reference ∧ d.name = found.name)
  /-- An exported chunk has the identity. -/
  | exported (found : Chunk) (mem : found ∈ chunks) (id_eq : found.id = target)
      (isExported : found.exported = true)

namespace Builder

/-! ## Entries -/

/-- The identities of a graph, in the order in which the chunks bring them. -/
theorem keys_build (b : Builder) (chunks : List Chunk) :
    (b.build chunks).map (·.1) = (chunks.map (·.id)).foldl addId [] := by
  have hkeys (more : List Chunk) (graph : Graph) :
      (more.foldl (fun graph chunk =>
        Keyed.put chunk.id (b.targetsOf (index chunks) chunk) graph) graph).map (·.1) =
        (more.map (·.id)).foldl addId (graph.map (·.1)) := by
    induction more generalizing graph with
    | nil => rfl
    | cons chunk more ih =>
        have hadd : (Keyed.put chunk.id (b.targetsOf (index chunks) chunk) graph).map (·.1) =
            addId (graph.map (·.1)) chunk.id := by
          rw [Keyed.keys_put, addId]
          by_cases hhas : Keyed.has chunk.id graph = true
          · have hmem := (Keyed.has_iff_mem_keys chunk.id graph).mp hhas
            rw [if_pos hhas, if_pos (List.contains_iff_mem.mpr hmem)]
          · have hnot := fun hmem => hhas ((Keyed.has_iff_mem_keys chunk.id graph).mpr hmem)
            rw [if_neg hhas, if_neg fun hmem => hnot (List.contains_iff_mem.mp hmem)]
        rw [List.foldl_cons, ih, hadd]
        rfl
  exact hkeys chunks []

theorem mem_keys_build (b : Builder) (chunks : List Chunk) (id : String) :
    id ∈ (b.build chunks).map (·.1) ↔ ∃ chunk ∈ chunks, chunk.id = id := by
  rw [keys_build, mem_foldl_addId, List.mem_map]
  simp

theorem nodup_keys_build (b : Builder) (chunks : List Chunk) :
    ((b.build chunks).map (·.1)).Nodup := by
  rw [keys_build]
  exact nodup_foldl_addId _ _ List.nodup_nil

/-- An identity has the targets of the last chunk that has it. -/
theorem mem_build_iff (b : Builder) (chunks : List Chunk) (id : String) (targets : List String) :
    (id, targets) ∈ b.build chunks ↔
      ∃ chunk, chunks.reverse.find? (·.id == id) = some chunk ∧
        b.targetsOf (index chunks) chunk = targets := by
  rw [Keyed.mem_iff_lookup (nodup_keys_build b chunks), build, Keyed.lookup_foldl_put]
  simp [Option.map_eq_some_iff]

/-- No identity is listed twice. -/
theorem nodup_targetsOf (b : Builder) (placed : List Placed) (chunk : Chunk) :
    (b.targetsOf placed chunk).Nodup := by
  have hfound (ids : List String) : (ids.foldl addId []).Nodup :=
    nodup_foldl_addId ids [] List.nodup_nil
  unfold targetsOf
  cases chunk.parentId with
  | none => exact hfound _
  | some parent =>
      dsimp only
      split
      · exact nodup_addId _ _ (hfound _)
      · exact hfound _

/-! ## Grounds -/

theorem grounded_of_mem_targetsOf (b : Builder) {chunks : List Chunk} {chunk : Chunk}
    {target : String} (h : target ∈ b.targetsOf (index chunks) chunk) :
    Grounded chunks chunk target := by
  rcases (mem_targetsOf b chunks chunk target).mp h with
    ⟨d, hd, found, hfound, hid, _⟩ | ⟨hparent, _, _⟩
  · rcases exported_or_referenced b hfound with
      ⟨hkind, hin, hpath, hmethod, hname⟩ | ⟨hin, hexported⟩
    · exact .reference found hin hid hpath hmethod ⟨d, hd, hkind, hname.symm⟩
    · exact .exported found hin hid hexported
  · exact .parent hparent

end Builder

/-- Outside the file of a chunk, an edge that does not lead to its parent leads to an export. -/
theorem Grounded.exists_exported {chunks : List Chunk} {chunk : Chunk} {target : String}
    (h : Grounded chunks chunk target) (hparent : chunk.parentId ≠ some target)
    (houtside : ∀ found ∈ chunks, found.id = target →
      Path.normalize found.filePath ≠ Path.normalize chunk.filePath) :
    ∃ found ∈ chunks, found.id = target ∧ found.exported = true := by
  cases h with
  | parent h => exact absurd h hparent
  | reference found mem id_eq path_eq => exact absurd path_eq (houtside found mem id_eq)
  | exported found mem id_eq isExported => exact ⟨found, mem, id_eq, isExported⟩

namespace Builder

/-- The identities of a graph are those of the chunks, each once. Its lists repeat nothing, lead to
identities of the graph, and to the identity itself only if a chunk names itself as its parent.
Every edge leaves the last chunk of its identity and is grounded there, so between files it leads to
a parent or to an exported chunk. -/
theorem graph_closed_and_grounded (b : Builder) (chunks : List Chunk) :
    ((b.build chunks).map (·.1)).Nodup ∧
      (∀ id, id ∈ (b.build chunks).map (·.1) ↔ ∃ chunk ∈ chunks, chunk.id = id) ∧
      ∀ id targets, (id, targets) ∈ b.build chunks →
        targets.Nodup ∧ (∀ target ∈ targets, target ∈ (b.build chunks).map (·.1)) ∧
          (id ∈ targets → ∃ chunk ∈ chunks, chunk.id = id ∧ chunk.parentId = some id) ∧
          ∃ chunk, chunks.reverse.find? (·.id == id) = some chunk ∧
            ∀ target ∈ targets, Grounded chunks chunk target ∧
              (chunk.parentId ≠ some target →
                (∀ found ∈ chunks, found.id = target →
                  Path.normalize found.filePath ≠ Path.normalize chunk.filePath) →
                ∃ found ∈ chunks, found.id = target ∧ found.exported = true) := by
  refine ⟨nodup_keys_build b chunks, mem_keys_build b chunks, fun id targets hentry => ?_⟩
  obtain ⟨chunk, hlast, rfl⟩ := (mem_build_iff b chunks id targets).mp hentry
  have hchunk : chunk ∈ chunks := List.mem_reverse.mp (List.mem_of_find?_eq_some hlast)
  have hid : chunk.id = id := by simpa using List.find?_some hlast
  refine ⟨nodup_targetsOf b _ chunk, ?_, ?_, chunk, hlast, ?_⟩
  · intro target htarget
    rw [mem_keys_build]
    rcases (mem_targetsOf b chunks chunk target).mp htarget with
      ⟨d, _, found, hfound, hfoundId, _⟩ | ⟨_, _, hin⟩
    · exact ⟨found, mem_of_mem_meaningOf b hfound, hfoundId⟩
    · exact hin
  · intro hself
    rcases (mem_targetsOf b chunks chunk id).mp hself with ⟨_, _, _, _, _, hne⟩ | ⟨hparent, _, _⟩
    · exact absurd hid.symm hne
    · exact ⟨chunk, hchunk, hid, hparent⟩
  · intro target htarget
    have hgrounded := grounded_of_mem_targetsOf b htarget
    exact ⟨hgrounded, hgrounded.exists_exported⟩

/-- A declaration that is named by its identity. -/
def declarationIn (path id : String) (kind : ChunkKind) : Chunk :=
  { id, kind, name := id, qualifiedName := id, filePath := path
    range := ⟨⟨1, 0⟩, ⟨1, 0⟩⟩, startLine := 1, endLine := 1, hash := "" }

/-- A method that calls a function of its file and an imported one. -/
def methodAndCallees : List Chunk :=
  [declarationIn "main.ts" "C" .classDecl,
    { declarationIn "main.ts" "C.run" .methodDecl with
      parentId := some "C"
      dependencies := [{ name := "near", source := "", kind := .reference },
        { name := "far", source := "./lib" }] },
    declarationIn "main.ts" "near" .functionDecl,
    { declarationIn "lib.ts" "far" .functionDecl with exported := true }]

/-- The method leads to both functions and to its class; the function in the other file is exported,
as the edge to it crosses files. -/
theorem graph_closed_and_grounded_method :
    ("C.run", ["near", "far", "C"]) ∈
        build { fileExists := (· == "lib.ts") } methodAndCallees ∧
      ["near", "far", "C"].Nodup ∧
      ∃ found ∈ methodAndCallees, found.id = "far" ∧ found.exported = true := by
  have hentry : ("C.run", ["near", "far", "C"]) ∈
      build { fileExists := (· == "lib.ts") } methodAndCallees := by decide
  obtain ⟨_, _, hentries⟩ :=
    graph_closed_and_grounded { fileExists := (· == "lib.ts") } methodAndCallees
  obtain ⟨hnodup, _, _, chunk, hlast, hgrounded⟩ := hentries _ _ hentry
  obtain rfl := Option.some.inj hlast
  refine ⟨hentry, hnodup, (hgrounded "far" (by decide)).2 (by decide) ?_⟩
  decide

end Builder

end ChunkGraph
