import ChunkGraph.Proofs.Graph.Precedence
import ChunkGraph.Proofs.Graph.Provenance
import ChunkGraph.Proofs.Resolve.Normal

/-!
# The order of files does not show in a graph

Chunks are looked up one after the other, and of several with one identity the
last decides. But every lookup keeps or drops a chunk for what the chunk itself
says, and asks of the others at most whether there are any. So what is found
depends, as a set, on the chunks as a set. The order decides only among chunks
that share an identity, and when these are of one file, it is the order within
that file.

A lookup sees the normalized path of a chunk only, so all of this holds also if
some files are listed under several spellings of their paths.

## Main definitions

* `Chunk.unspelled` — a chunk without the spelling of its path.
* `AlikeChunks` — two lists have the same chunks, apart from spelling.
* `Graph.Alike` — two graphs have the same edges.

## Main results

* `AlikeChunks.meaningOf` — what a dependency means depends on the chunks as a
  set.
* `Builder.alike_build` — so do the edges, given the last chunk of each identity.
* `lastOf_flatten_perm` — the order of files does not change which one that is.
* `Builder.alike_build_of_perm` — graphs of files in any order have the same edges.
-/

namespace ChunkGraph

/-! ## The spelling of paths -/

/-- The chunk without the spelling of its path, and without the fingerprint that is made of it. -/
def Chunk.unspelled (chunk : Chunk) : Chunk :=
  { chunk with filePath := Path.normalize chunk.filePath, hash := "" }

section Unspelled

variable {chunk other : Chunk}

/-- A question whose answer the spelling does not change is answered alike for two chunks that
differ in it. -/
theorem Chunk.eq_of_unspelled_eq {α : Type} (f : Chunk → α) (hf : ∀ c, f c.unspelled = f c)
    (h : chunk.unspelled = other.unspelled) : f chunk = f other := by
  rw [← hf chunk, h, hf other]

theorem Chunk.normalize_unspelled (chunk : Chunk) :
    Path.normalize chunk.unspelled.filePath = Path.normalize chunk.filePath :=
  Path.normalize_normalize chunk.filePath

theorem Chunk.normalize_eq_of_unspelled_eq (h : chunk.unspelled = other.unspelled) :
    Path.normalize chunk.filePath = Path.normalize other.filePath :=
  eq_of_unspelled_eq (fun c => Path.normalize c.filePath) normalize_unspelled h

end Unspelled

/-! ## The same chunks -/

/-- Both lists have the same chunks, apart from the spelling of paths. -/
def AlikeChunks (chunks others : List Chunk) : Prop :=
  ∀ c, c ∈ chunks.map Chunk.unspelled ↔ c ∈ others.map Chunk.unspelled

namespace AlikeChunks

variable {chunks others : List Chunk}

theorem of_perm (h : chunks.Perm others) : AlikeChunks chunks others :=
  fun _ => (h.map Chunk.unspelled).mem_iff

theorem symm (h : AlikeChunks chunks others) : AlikeChunks others chunks := fun c => (h c).symm

theorem trans {more : List Chunk} (h : AlikeChunks chunks others)
    (hmore : AlikeChunks others more) : AlikeChunks chunks more :=
  fun c => (h c).trans (hmore c)

/-- Both have a chunk that something holds of, if the spelling does not change it. -/
theorem exists_iff (h : AlikeChunks chunks others) {p q : Chunk → Prop}
    (hpq : ∀ c other, c.unspelled = other.unspelled → (p c ↔ q other)) :
    (∃ c ∈ chunks, p c) ↔ ∃ c ∈ others, q c := by
  constructor
  · rintro ⟨c, hc, hp⟩
    obtain ⟨other, hother, hsame⟩ :=
      List.mem_map.mp ((h c.unspelled).mp (List.mem_map_of_mem hc))
    exact ⟨other, hother, (hpq c other hsame.symm).mp hp⟩
  · rintro ⟨other, hother, hq⟩
    obtain ⟨c, hc, hsame⟩ :=
      List.mem_map.mp ((h other.unspelled).mpr (List.mem_map_of_mem hother))
    exact ⟨c, hc, (hpq c other hsame).mpr hq⟩

/-- Both have the same identities. -/
theorem exists_id_iff (h : AlikeChunks chunks others) (id : String) :
    (∃ c ∈ chunks, c.id = id) ↔ ∃ c ∈ others, c.id = id :=
  h.exists_iff fun c other hsame => by
    rw [Chunk.eq_of_unspelled_eq (·.id) (fun _ => rfl) hsame]

/-- Neither has chunks if the other has none. -/
theorem eq_nil_iff (h : AlikeChunks chunks others) : chunks = [] ↔ others = [] := by
  have hsome : (∃ c ∈ chunks, True) ↔ ∃ c ∈ others, True :=
    h.exists_iff fun _ _ _ => Iff.rfl
  rw [List.eq_nil_iff_forall_not_mem, List.eq_nil_iff_forall_not_mem]
  simpa using not_congr hsome

/-- What is kept for something that the spelling does not change is the same. -/
theorem filter (h : AlikeChunks chunks others) {p q : Chunk → Bool}
    (hpq : ∀ c other, c.unspelled = other.unspelled → p c = q other) :
    AlikeChunks (chunks.filter p) (others.filter q) := by
  intro c
  simp only [List.mem_map, List.mem_filter, and_assoc]
  refine h.exists_iff fun found other hsame => ?_
  rw [hpq found other hsame, hsame]

/-- Where a second list stands in for an empty one, it does so for both. -/
theorem if_nil {first first' second second' : List Chunk} (h : AlikeChunks first first')
    (hsecond : AlikeChunks second second') :
    AlikeChunks (if first = [] then second else first)
      (if first' = [] then second' else first') := by
  by_cases hnil : first = []
  · rw [if_pos hnil, if_pos (h.eq_nil_iff.mp hnil)]
    exact hsecond
  · rw [if_neg hnil, if_neg fun hnil' => hnil (h.eq_nil_iff.mpr hnil')]
    exact h

/-! ## The same lookups -/

/-- The same files export the same chunks. -/
theorem exportedIn (h : AlikeChunks chunks others) (path : String) :
    AlikeChunks (exportedIn chunks path) (exportedIn others path) := by
  refine h.filter fun c other hsame => ?_
  rw [Chunk.normalize_eq_of_unspelled_eq hsame,
    Chunk.eq_of_unspelled_eq (·.exported) (fun _ => rfl) hsame]

/-- A dependency can mean the same among the same exports. -/
theorem meantAmong (h : AlikeChunks chunks others) (d : Dependency) :
    AlikeChunks (d.meantAmong chunks) (d.meantAmong others) := by
  have hkey (c : Chunk) : c.unspelled.exportKey = c.exportKey := rfl
  have hdefault : (∃ c ∈ chunks, c.exportKey = "default") ↔
      ∃ c ∈ others, c.exportKey = "default" :=
    h.exists_iff fun c other hsame => by rw [Chunk.eq_of_unspelled_eq _ hkey hsame]
  have hsought : d.soughtKey chunks = d.soughtKey others := by
    simp only [Dependency.soughtKey, hdefault]
  refine h.filter fun c other hsame => ?_
  rw [decide_eq_decide, Dependency.CanMean, Dependency.CanMean, hsought,
    Chunk.eq_of_unspelled_eq _ hkey hsame]

/-- A dependency means the same in a module. -/
theorem moduleExports (h : AlikeChunks chunks others) (d : Dependency) (path : String) :
    AlikeChunks (Builder.moduleExports (index chunks) d path)
      (Builder.moduleExports (index others) d path) :=
  ((of_perm (Builder.moduleExports_perm chunks d path)).trans
    ((h.exportedIn path).meantAmong d)).trans
      (of_perm (Builder.moduleExports_perm others d path)).symm

section Lookup

variable {chunk other : Chunk} (h : AlikeChunks chunks others)
  (hsame : chunk.unspelled = other.unspelled) (d : Dependency)
include h hsame

theorem exportedByName :
    AlikeChunks (Builder.exportedByName (index chunks) d chunk)
      (Builder.exportedByName (index others) d other) := by
  have hnamed {c c' : Chunk} (hc : c.unspelled = c'.unspelled) :
      c.answersTo d.name = c'.answersTo d.name :=
    Chunk.eq_of_unspelled_eq (·.answersTo d.name) (fun _ => rfl) hc
  rw [Builder.exportedByName_index, Builder.exportedByName_index,
    Chunk.normalize_eq_of_unspelled_eq hsame]
  refine if_nil ((h.exportedIn _).filter fun _ _ => hnamed) ?_
  refine (h.filter fun c c' hc => ?_).filter fun _ _ => hnamed
  exact Chunk.eq_of_unspelled_eq (·.exported) (fun _ => rfl) hc

theorem referenced :
    AlikeChunks (Builder.referenced (index chunks) d chunk)
      (Builder.referenced (index others) d other) := by
  have hfile (chunks : List Chunk) (path : String) : inFile (index chunks) path =
      chunks.filter fun c => Path.normalize c.filePath == path := by
    rw [inFile, index, List.filter_map, List.map_map]
    exact List.map_id' _
  unfold Builder.referenced
  rw [hfile, hfile, Chunk.normalize_eq_of_unspelled_eq hsame,
    Chunk.eq_of_unspelled_eq (·.id) (fun _ => rfl) hsame]
  refine (h.filter fun c c' hc => ?_).filter fun c c' hc => ?_
  · rw [Chunk.normalize_eq_of_unspelled_eq hc]
  · exact Chunk.eq_of_unspelled_eq
      (fun c => c.id != other.id && c.kind != .methodDecl && c.name == d.name) (fun _ => rfl) hc

/-- A dependency means the same. -/
theorem meaningOf (b : Builder) :
    AlikeChunks (b.meaningOf (index chunks) d chunk) (b.meaningOf (index others) d other) := by
  by_cases hkind : d.kind = .reference
  · have hreference : (d.kind == .reference) = true := beq_iff_eq.mpr hkind
    unfold Builder.meaningOf
    rw [if_pos hreference, if_pos hreference]
    exact h.referenced hsame d
  · have hresolve := b.resolve?_congr (Chunk.normalize_eq_of_unspelled_eq hsame) d.source
    by_cases hfound : ∃ path, b.resolve? chunk.filePath d.source = some path ∧
        Builder.moduleExports (index chunks) d path ≠ []
    · obtain ⟨path, hpath, hne⟩ := hfound
      have hne' : Builder.moduleExports (index others) d path ≠ [] := fun hnil =>
        hne ((h.moduleExports d path).eq_nil_iff.mpr hnil)
      rw [Builder.meaningOf_of_moduleExports hkind hpath hne,
        Builder.meaningOf_of_moduleExports hkind (hresolve.symm.trans hpath) hne']
      exact h.moduleExports d path
    · have hnone : ∀ path, b.resolve? chunk.filePath d.source = some path →
          Builder.moduleExports (index chunks) d path = [] := fun path hpath => by
        by_contra hne
        exact hfound ⟨path, hpath, hne⟩
      rw [Builder.meaningOf_of_no_moduleExports hkind hnone,
        Builder.meaningOf_of_no_moduleExports hkind fun path hpath =>
          (h.moduleExports d path).eq_nil_iff.mp (hnone path (hresolve.trans hpath))]
      exact h.exportedByName hsame d

/-- A chunk depends on the same. -/
theorem mem_targetsOf_iff (b : Builder) (target : String) :
    target ∈ b.targetsOf (index chunks) chunk ↔ target ∈ b.targetsOf (index others) other := by
  have hid : chunk.id = other.id := Chunk.eq_of_unspelled_eq (·.id) (fun _ => rfl) hsame
  have hparent : chunk.parentId = other.parentId :=
    Chunk.eq_of_unspelled_eq (·.parentId) (fun _ => rfl) hsame
  have hdependencies : chunk.dependencies = other.dependencies :=
    Chunk.eq_of_unspelled_eq (·.dependencies) (fun _ => rfl) hsame
  have hmeant (d : Dependency) :
      (∃ found ∈ b.meaningOf (index chunks) d chunk, found.id = target ∧ target ≠ chunk.id) ↔
        ∃ found ∈ b.meaningOf (index others) d other, found.id = target ∧ target ≠ other.id :=
    (h.meaningOf hsame d b).exists_iff fun found found' hfound => by
      rw [Chunk.eq_of_unspelled_eq (·.id) (fun _ => rfl) hfound, hid]
  rw [Builder.mem_targetsOf, Builder.mem_targetsOf, hparent, hdependencies,
    h.exists_id_iff target]
  simp only [hmeant]

end Lookup

end AlikeChunks

/-! ## The same graph -/

/-- Both graphs have the same identities, and each of them leads to the same ones, whatever the
order. -/
structure Graph.Alike (graph other : Graph) : Prop where
  /-- The identities. -/
  keys : (graph.map (·.1)).Perm (other.map (·.1))
  /-- What they lead to. -/
  targets : ∀ id, (graph.targets id).Perm (other.targets id)

/-- The last chunk with an identity, without the spelling of its path. -/
def lastOf (chunks : List Chunk) (id : String) : Option Chunk :=
  (chunks.reverse.find? (·.id == id)).map Chunk.unspelled

theorem lastOf_append (chunks more : List Chunk) (id : String) :
    lastOf (chunks ++ more) id = (lastOf more id).or (lastOf chunks id) := by
  unfold lastOf
  rw [List.reverse_append, List.find?_append]
  cases more.reverse.find? (·.id == id) with
  | none => rfl
  | some chunk => rfl

namespace Builder

theorem nodup_targets_build (b : Builder) (chunks : List Chunk) (id : String) :
    ((b.build chunks).targets id).Nodup := by
  rw [targets_build]
  cases chunks.reverse.find? (·.id == id) with
  | none => exact List.nodup_nil
  | some chunk => exact nodup_targetsOf b _ chunk

/-- Chunks that are the same, with the same last chunk of each identity, have the same graph. -/
theorem alike_build (b : Builder) {chunks others : List Chunk} (h : AlikeChunks chunks others)
    (hlast : ∀ id, lastOf chunks id = lastOf others id) :
    (b.build chunks).Alike (b.build others) where
  keys := by
    rw [List.perm_ext_iff_of_nodup (nodup_keys_build b chunks) (nodup_keys_build b others)]
    intro id
    rw [mem_keys_build, mem_keys_build]
    exact h.exists_id_iff id
  targets id := by
    rw [List.perm_ext_iff_of_nodup (nodup_targets_build b chunks id)
      (nodup_targets_build b others id)]
    intro target
    have hsame := hlast id
    unfold lastOf at hsame
    rw [targets_build, targets_build]
    cases hchunk : chunks.reverse.find? (·.id == id) with
    | none =>
        rw [hchunk] at hsame
        rw [Option.map_eq_none_iff.mp hsame.symm]
        exact Iff.rfl
    | some chunk =>
        rw [hchunk] at hsame
        obtain ⟨other, hother, hspelling⟩ := Option.map_eq_some_iff.mp hsame.symm
        rw [hother]
        exact h.mem_targetsOf_iff hspelling.symm b target

end Builder

/-! ## The order of files -/

/-- Chunks of one file and of another that share an identity are there because both are the same
file under two spellings. -/
def ApartUnlessAlike (file other : List Chunk) : Prop :=
  ∀ x ∈ file, ∀ y ∈ other, x.id = y.id →
    file.map Chunk.unspelled = other.map Chunk.unspelled

theorem ApartUnlessAlike.symm {file other : List Chunk} (h : ApartUnlessAlike file other) :
    ApartUnlessAlike other file :=
  fun x hx y hy hid => (h y hy x hx hid.symm).symm

theorem lastOf_congr {file other : List Chunk}
    (h : file.map Chunk.unspelled = other.map Chunk.unspelled) (id : String) :
    lastOf file id = lastOf other id := by
  have hmap (chunks : List Chunk) :
      lastOf chunks id = (chunks.map Chunk.unspelled).reverse.find? (·.id == id) := by
    unfold lastOf
    rw [← List.map_reverse, List.find?_map]
    rfl
  rw [hmap, hmap, h]

theorem exists_mem_of_lastOf {chunks : List Chunk} {id : String} {last : Chunk}
    (h : lastOf chunks id = some last) : ∃ chunk ∈ chunks, chunk.id = id := by
  obtain ⟨chunk, hchunk, -⟩ := Option.map_eq_some_iff.mp h
  exact ⟨chunk, List.mem_reverse.mp (List.mem_of_find?_eq_some hchunk), by
    simpa using List.find?_some hchunk⟩

/-- Of two files that share identities only if they are the same, either may come last. -/
theorem ApartUnlessAlike.or_lastOf {file other : List Chunk} (h : ApartUnlessAlike file other)
    (id : String) :
    (lastOf file id).or (lastOf other id) = (lastOf other id).or (lastOf file id) := by
  cases hfile : lastOf file id with
  | none => simp
  | some last =>
      cases hother : lastOf other id with
      | none => rfl
      | some last' =>
          obtain ⟨x, hx, hxid⟩ := exists_mem_of_lastOf hfile
          obtain ⟨y, hy, hyid⟩ := exists_mem_of_lastOf hother
          have hsame := lastOf_congr (h x hx y hy (hxid.trans hyid.symm)) id
          rw [hfile, hother] at hsame
          rw [Option.some_or, Option.some_or, hsame]

/-- The order of files does not change the last chunk of an identity. -/
theorem lastOf_flatten_perm {files others : List (List Chunk)} (h : files.Perm others)
    (hapart : files.Pairwise ApartUnlessAlike) (id : String) :
    lastOf files.flatten id = lastOf others.flatten id := by
  induction h with
  | nil => rfl
  | cons file _ ih =>
      rw [List.flatten_cons, List.flatten_cons, lastOf_append, lastOf_append,
        ih (List.pairwise_cons.mp hapart).2]
  | swap file other rest =>
      have hpair : ApartUnlessAlike other file :=
        (List.pairwise_cons.mp hapart).1 file List.mem_cons_self
      simp only [List.flatten_cons, lastOf_append]
      rw [Option.or_assoc, Option.or_assoc, hpair.symm.or_lastOf id]
  | trans hfirst _ ihfirst ihsecond =>
      exact (ihfirst hapart).trans
        (ihsecond (hapart.perm hfirst fun hpair => hpair.symm))

namespace Builder

/-- Files in any order have the same graph, if those that share identities are the same file. -/
theorem alike_build_of_perm (b : Builder) {files others : List (List Chunk)}
    (h : files.Perm others) (hapart : files.Pairwise ApartUnlessAlike) :
    (b.build files.flatten).Alike (b.build others.flatten) :=
  b.alike_build (AlikeChunks.of_perm h.flatten) (lastOf_flatten_perm h hapart)

/-- The graph of files whose chunks have different identities does not depend on the order of the
files: it has the same identities, and each leads to the same ones. Within a file identities may be
shared, and the paths of the chunks may be any. -/
theorem build_perm_files (b : Builder) (files others : List (List Chunk))
    (h : files.Perm others)
    (hids : files.Pairwise fun file other => ∀ x ∈ file, ∀ y ∈ other, x.id ≠ y.id) :
    (b.build files.flatten).Alike (b.build others.flatten) :=
  b.alike_build_of_perm h <| hids.imp fun hne x hx y hy hid => absurd hid (hne x hx y hy)

/-- Two accessors with one identity: the first imports a function, the second calls one next to
it. -/
def accessorsFile : List Chunk :=
  [{ declarationIn "main.ts" "C.v" .methodDecl with
      dependencies := [{ name := "far", source := "./lib" }] },
    { declarationIn "main.ts" "C.v" .methodDecl with
      dependencies := [{ name := "near", source := "", kind := .reference }] },
    { declarationIn "main.ts" "near" .functionDecl with
      dependencies := [{ name := "far", source := "./lib" }] }]

/-- The file of the function that they import, which imports one of its own name from nowhere. -/
def libraryFile : List Chunk :=
  [{ declarationIn "lib.ts" "far" .functionDecl with
    exported := true
    dependencies := [{ name := "near", source := "./gone" }] }]

/-- Whichever file comes first, the second accessor decides what both lead to. -/
theorem build_perm_files_accessors :
    [accessorsFile, libraryFile].Perm [libraryFile, accessorsFile] ∧
      [accessorsFile, libraryFile].Pairwise
        (fun file other => ∀ x ∈ file, ∀ y ∈ other, x.id ≠ y.id) ∧
      (build { fileExists := (· == "lib.ts") } [accessorsFile, libraryFile].flatten).Alike
        (build { fileExists := (· == "lib.ts") } [libraryFile, accessorsFile].flatten) ∧
      (build { fileExists := (· == "lib.ts") } [libraryFile, accessorsFile].flatten).targets
        "C.v" = ["near"] := by
  have hperm : [accessorsFile, libraryFile].Perm [libraryFile, accessorsFile] :=
    List.Perm.swap _ _ _
  have hids : [accessorsFile, libraryFile].Pairwise
      (fun file other => ∀ x ∈ file, ∀ y ∈ other, x.id ≠ y.id) := by decide
  exact ⟨hperm, hids, build_perm_files { fileExists := (· == "lib.ts") } _ _ hperm hids,
    by decide⟩

end Builder

end ChunkGraph
