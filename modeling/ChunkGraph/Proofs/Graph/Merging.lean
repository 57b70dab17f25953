import ChunkGraph.Proofs.Chunk.Groups
import ChunkGraph.Proofs.Graph.Targets

/-!
# The graph of merged chunks

A lookup sees the identity, the kind, the names, the file and the parent of a
chunk. Merging leaves all of these as they are in the first chunk of a group,
and drops those of the others. So the graph of merged chunks is that of the
first chunks, each with the dependencies of its whole group.

Fewer chunks to look among cannot hide a chunk that is still there: a step of
the lookup that found nothing finds nothing again. Hence an edge is kept if the
chunk that it leads to has not been absorbed. An edge to a chunk that has been
absorbed is kept only if the first chunk of that group is found instead of it.

## Main definitions

* `Chunk.face` — what lookups see of a chunk.
* `Group.LeadsTo` — a group depends on an identity when only first chunks are
  looked up.

## Main results

* `Builder.meaningOf_map_face` — lookups see no more than faces.
* `Builder.mem_meaningOf_of_subset` — fewer chunks hide none that is there.
* `Builder.leads_merged_iff` — the edges of merged chunks.
* `merging_keeps_edge_iff` — exactly the edges that survive merging.
-/

namespace ChunkGraph

/-! ## What lookups see -/

/-- A chunk without what absorbing others changes. -/
def Chunk.face (chunk : Chunk) : Chunk :=
  { chunk with
    range := ⟨⟨0, 0⟩, ⟨0, 0⟩⟩
    endLine := 0
    hash := ""
    dependencies := []
    childrenIds := []
    tokenCount := none
    content := none }

@[simp] theorem Group.face_merged (g : Group) : g.merged.face = g.head.face :=
  g.merged_eq_head Chunk.face fun _ _ => rfl

section Faces

variable (chunks : List Chunk) (path name : String)

theorem inFile_map_face :
    inFile (index (chunks.map Chunk.face)) path = (inFile (index chunks) path).map Chunk.face := by
  simp only [inFile, index, List.map_map, List.filter_map]
  rfl

theorem exportsOf_map_face :
    exportsOf (index (chunks.map Chunk.face)) path =
      (exportsOf (index chunks) path).map Chunk.face := by
  rw [exportsOf, inFile_map_face, List.filter_map]
  rfl

theorem exportsNamed_map_face :
    exportsNamed (index (chunks.map Chunk.face)) path name =
      (exportsNamed (index chunks) path name).map Chunk.face := by
  rw [exportsNamed, exportsOf_map_face, List.filter_map]
  rfl

theorem groupedByKey_map_face :
    groupedByKey (chunks.map Chunk.face) = (groupedByKey chunks).map Chunk.face := by
  simp only [groupedByKey, List.foldl_map, List.map_flatMap, List.filter_map]
  rfl

namespace Builder

variable (d : Dependency) (chunk : Chunk)

theorem moduleExports_map_face :
    moduleExports (index (chunks.map Chunk.face)) d path =
      (moduleExports (index chunks) d path).map Chunk.face := by
  unfold moduleExports
  rw [exportsOf_map_face, groupedByKey_map_face, exportsNamed_map_face, exportsNamed_map_face]
  split
  · rfl
  · split
    · cases exportsNamed (index chunks) path "default" with
      | nil => rfl
      | cons first rest => rfl
    · rfl

theorem referenced_map_face :
    referenced (index (chunks.map Chunk.face)) d chunk.face =
      (referenced (index chunks) d chunk).map Chunk.face := by
  rw [referenced]
  show (inFile (index (chunks.map Chunk.face)) (Path.normalize chunk.filePath)).filter _ = _
  rw [inFile_map_face, List.filter_map]
  rfl

theorem exportedByName_map_face :
    exportedByName (index (chunks.map Chunk.face)) d chunk.face =
      (exportedByName (index chunks) d chunk).map Chunk.face := by
  have hown : (exportsOf (index (chunks.map Chunk.face))
      (Path.normalize chunk.face.filePath)).filter (·.answersTo d.name) =
      ((exportsOf (index chunks) (Path.normalize chunk.filePath)).filter
        (·.answersTo d.name)).map Chunk.face := by
    show (exportsOf (index (chunks.map Chunk.face)) (Path.normalize chunk.filePath)).filter _ = _
    rw [exportsOf_map_face, List.filter_map]
    rfl
  have hall : (((index (chunks.map Chunk.face)).map (·.chunk)).filter (·.exported)).filter
      (·.answersTo d.name) =
      ((((index chunks).map (·.chunk)).filter (·.exported)).filter
        (·.answersTo d.name)).map Chunk.face := by
    simp only [index, List.map_map, List.filter_map]
    rfl
  simp only [exportedByName]
  rw [hown, hall, List.isEmpty_map]
  split
  · rfl
  · rfl

/-- What a dependency means is found by faces. -/
theorem meaningOf_map_face (b : Builder) :
    b.meaningOf (index (chunks.map Chunk.face)) d chunk.face =
      (b.meaningOf (index chunks) d chunk).map Chunk.face := by
  have hpath : b.resolve? chunk.face.filePath d.source = b.resolve? chunk.filePath d.source := rfl
  simp only [meaningOf, referenced_map_face, exportedByName_map_face, hpath]
  cases b.resolve? chunk.filePath d.source with
  | none =>
      split
      · rfl
      · rfl
  | some path =>
      simp only [moduleExports_map_face, List.isEmpty_map]
      split
      · rfl
      · split
        · rfl
        · rfl

end Builder

end Faces

/-! ## Fewer chunks to look among -/

namespace Builder

variable {few many : List Chunk} {d : Dependency} {found : Chunk}

section Among

variable {path name : String}

/-- Whether a chunk is an export of a file is seen by the chunk alone. -/
theorem mem_exportsOf_of_mem (hfew : found ∈ few) (h : found ∈ exportsOf (index many) path) :
    found ∈ exportsOf (index few) path :=
  mem_exportsOf.mpr ⟨hfew, (mem_exportsOf.mp h).2⟩

theorem mem_exportsNamed_of_mem (hfew : found ∈ few)
    (h : found ∈ exportsNamed (index many) path name) :
    found ∈ exportsNamed (index few) path name := by
  obtain ⟨hin, hkey⟩ := mem_exportsNamed.mp h
  exact mem_exportsNamed.mpr ⟨mem_exportsOf_of_mem hfew hin, hkey⟩

end Among

theorem mem_moduleExports_of_subset {path : String} (hsub : ∀ c ∈ few, c ∈ many)
    (hfew : found ∈ few) (h : found ∈ moduleExports (index many) d path) :
    found ∈ moduleExports (index few) d path := by
  rw [mem_moduleExports] at h ⊢
  split
  · rename_i hall
    rw [if_pos hall] at h
    exact mem_exportsOf_of_mem hfew h
  · rename_i hsome
    rw [if_neg hsome] at h
    split
    · rename_i hdefault
      rw [if_pos hdefault] at h
      rcases h with h | ⟨hnone, h⟩
      · exact Or.inl (mem_exportsNamed_of_mem hfew h)
      · refine Or.inr ⟨?_, mem_exportsNamed_of_mem hfew h⟩
        intro other hother
        have hmany : other ∈ many := hsub other (mem_of_mem_exportsNamed hother)
        exact hnone other (mem_exportsNamed_of_mem hmany hother)
    · rename_i hdefault
      rw [if_neg hdefault] at h
      exact mem_exportsNamed_of_mem hfew h

theorem moduleExports_subset_of_none {path : String} (hsub : ∀ c ∈ few, c ∈ many)
    (hnone : ∀ other, other ∉ moduleExports (index many) d path) :
    ∀ other, other ∉ moduleExports (index few) d path := by
  have hnamed : ∀ name other, other ∈ exportsNamed (index few) path name →
      other ∈ exportsNamed (index many) path name := by
    intro name other hother
    exact mem_exportsNamed_of_mem (hsub other (mem_of_mem_exportsNamed hother)) hother
  intro other hother
  rw [mem_moduleExports] at hother
  have hmany := hnone other
  rw [mem_moduleExports] at hmany
  split at hother
  · rename_i hall
    rw [if_pos hall] at hmany
    exact hmany (mem_exportsOf_of_mem (hsub other (mem_exportsOf.mp hother).1) hother)
  · rename_i hsome
    rw [if_neg hsome] at hmany
    split at hother
    · rename_i hdefault
      rw [if_pos hdefault] at hmany
      rcases hother with hother | ⟨_, hother⟩
      · exact hmany (Or.inl (hnamed _ other hother))
      · -- nothing is called by the name that is asked for, nor is anything the default
        refine hmany (Or.inr ⟨?_, hnamed _ other hother⟩)
        intro first hfirst
        refine hnone first (mem_moduleExports.mpr ?_)
        rw [if_neg hsome, if_pos hdefault]
        exact Or.inl hfirst
    · rename_i hdefault
      rw [if_neg hdefault] at hmany
      exact hmany (hnamed _ other hother)

/-- A chunk that a dependency means among many chunks is also meant among fewer, as long as it is
one of them, whoever asks from the same file. -/
theorem mem_meaningOf_of_subset (b : Builder) {asker other : Chunk}
    (hsub : ∀ c ∈ few, c ∈ many) (hfew : found ∈ few) (hpath : other.filePath = asker.filePath)
    (hid : found.id ≠ other.id) (h : found ∈ b.meaningOf (index many) d asker) :
    found ∈ b.meaningOf (index few) d other := by
  rw [mem_meaningOf] at h ⊢
  rw [hpath]
  split
  · rename_i hkind
    rw [if_pos hkind] at h
    obtain ⟨hin, _, hmethod, hname⟩ := mem_referenced.mp h
    refine mem_referenced.mpr ⟨mem_inFile.mpr ⟨hfew, ?_⟩, hid, hmethod, hname⟩
    rw [hpath]
    exact (mem_inFile.mp hin).2
  · rename_i hkind
    rw [if_neg hkind] at h
    rcases h with ⟨path, hresolve, h⟩ | ⟨hnone, h⟩
    · exact Or.inl ⟨path, hresolve, mem_moduleExports_of_subset hsub hfew h⟩
    · refine Or.inr ⟨?_, ?_⟩
      · intro path hresolve
        exact moduleExports_subset_of_none hsub (hnone path hresolve)
      · rw [mem_exportedByName] at h ⊢
        rw [hpath]
        rcases h with ⟨hown, hname⟩ | ⟨hnoOwn, _, hexported, hname⟩
        · exact Or.inl ⟨mem_exportsOf_of_mem hfew hown, hname⟩
        · refine Or.inr ⟨?_, hfew, hexported, hname⟩
          intro first hfirst
          have hmany : first ∈ many := hsub first (mem_exportsOf.mp hfirst).1
          exact hnoOwn first (mem_exportsOf_of_mem hmany hfirst)

end Builder

/-! ## Edges -/

/-- A group depends on an identity when only the first chunks of groups are looked up. -/
def Group.LeadsTo (b : Builder) (gs : List Group) (g : Group) (target : String) : Prop :=
  (∃ chunk ∈ g.members, ∃ d ∈ chunk.dependencies,
      ∃ found ∈ b.meaningOf (index (gs.map (·.head))) d g.head,
        found.id = target ∧ target ≠ g.head.id) ∨
    (g.head.parentId = some target ∧ target ≠ "" ∧ ∃ other ∈ gs, other.head.id = target)

namespace Builder

variable (b : Builder) (gs : List Group)

/-- Among merged chunks a dependency means what it means among the first chunks of groups. -/
theorem map_id_meaningOf_merged (d : Dependency) (g : Group) :
    (b.meaningOf (index (gs.map Group.merged)) d g.merged).map (·.id) =
      (b.meaningOf (index (gs.map (·.head))) d g.head).map (·.id) := by
  have hids : ∀ chunks : List Chunk, (chunks.map Chunk.face).map (·.id) = chunks.map (·.id) := by
    intro chunks
    rw [List.map_map]
    rfl
  have hfaces : (gs.map Group.merged).map Chunk.face = (gs.map (·.head)).map Chunk.face := by
    rw [List.map_map, List.map_map]
    exact List.map_congr_left fun g _ => g.face_merged
  calc (b.meaningOf (index (gs.map Group.merged)) d g.merged).map (·.id)
      = ((b.meaningOf (index (gs.map Group.merged)) d g.merged).map Chunk.face).map (·.id) :=
        (hids _).symm
    _ = (b.meaningOf (index ((gs.map Group.merged).map Chunk.face)) d g.merged.face).map
          (·.id) := by
        rw [meaningOf_map_face]
    _ = (b.meaningOf (index ((gs.map (·.head)).map Chunk.face)) d g.head.face).map (·.id) := by
        rw [hfaces, Group.face_merged]
    _ = ((b.meaningOf (index (gs.map (·.head))) d g.head).map Chunk.face).map (·.id) := by
        rw [meaningOf_map_face]
    _ = (b.meaningOf (index (gs.map (·.head))) d g.head).map (·.id) := hids _

theorem mem_targetsOf_merged (g : Group) (target : String) :
    target ∈ b.targetsOf (index (gs.map Group.merged)) g.merged ↔ g.LeadsTo b gs target := by
  have hmeant : ∀ d, (∃ found ∈ b.meaningOf (index (gs.map Group.merged)) d g.merged,
      found.id = target ∧ target ≠ g.head.id) ↔
      ∃ found ∈ b.meaningOf (index (gs.map (·.head))) d g.head,
        found.id = target ∧ target ≠ g.head.id := by
    intro d
    have hmem := congrArg (target ∈ ·) (map_id_meaningOf_merged b gs d g)
    simp only [List.mem_map, eq_iff_iff] at hmem
    constructor
    · rintro ⟨found, hfound, hid, hne⟩
      obtain ⟨other, hother, hotherId⟩ := hmem.mp ⟨found, hfound, hid⟩
      exact ⟨other, hother, hotherId, hne⟩
    · rintro ⟨found, hfound, hid, hne⟩
      obtain ⟨other, hother, hotherId⟩ := hmem.mpr ⟨found, hfound, hid⟩
      exact ⟨other, hother, hotherId, hne⟩
  have hthere : (∃ c ∈ gs.map Group.merged, c.id = target) ↔
      ∃ other ∈ gs, other.head.id = target := by
    constructor
    · rintro ⟨c, hc, hid⟩
      obtain ⟨other, hother, rfl⟩ := List.mem_map.mp hc
      exact ⟨other, hother, other.id_merged ▸ hid⟩
    · rintro ⟨other, hother, hid⟩
      exact ⟨other.merged, List.mem_map.mpr ⟨other, hother, rfl⟩, other.id_merged.trans hid⟩
  rw [mem_targetsOf, Group.LeadsTo, Group.parentId_merged, Group.id_merged, hthere]
  simp only [hmeant, Group.mem_dependencies_merged]
  constructor
  · rintro (⟨d, ⟨chunk, hchunk, hd⟩, hfound⟩ | hparent)
    · exact Or.inl ⟨chunk, hchunk, d, hd, hfound⟩
    · exact Or.inr hparent
  · rintro (⟨chunk, hchunk, d, hd, hfound⟩ | hparent)
    · exact Or.inl ⟨d, ⟨chunk, hchunk, hd⟩, hfound⟩
    · exact Or.inr hparent

/-- The edges of merged chunks: they leave the last group whose first chunk has the identity. -/
theorem leads_merged_iff (source target : String) :
    (b.build (gs.map Group.merged)).Leads source target ↔
      ∃ g, gs.reverse.find? (·.head.id == source) = some g ∧ g.LeadsTo b gs target := by
  have hlast : (gs.map Group.merged).reverse.find? (·.id == source) =
      (gs.reverse.find? (·.head.id == source)).map Group.merged := by
    rw [← List.map_reverse, List.find?_map]
    congr 1
    apply congrArg (gs.reverse.find? ·)
    funext g
    rw [Function.comp_apply, Group.id_merged]
  rw [leads_build_iff, hlast]
  constructor
  · rintro ⟨chunk, hchunk, htarget⟩
    obtain ⟨g, hg, rfl⟩ := Option.map_eq_some_iff.mp hchunk
    exact ⟨g, hg, (mem_targetsOf_merged b gs g target).mp htarget⟩
  · rintro ⟨g, hg, htarget⟩
    refine ⟨g.merged, ?_, (mem_targetsOf_merged b gs g target).mpr htarget⟩
    rw [hg]
    rfl

end Builder

/-! ## Chunks with different identities -/

section Nodup

variable {b : Builder} {gs : List Group} {g k : Group} {c t : Chunk}

/-- The last group of an identity is the only one. -/
theorem Group.find?_reverse_eq (hnodup : ((gs.flatMap Group.members).map (·.id)).Nodup)
    (hg : g ∈ gs) : gs.reverse.find? (·.head.id == g.head.id) = some g := by
  cases hfind : gs.reverse.find? (·.head.id == g.head.id) with
  | none =>
      have hno := List.find?_eq_none.mp hfind g (List.mem_reverse.mpr hg)
      exact absurd (beq_self_eq_true g.head.id) hno
  | some other =>
      have hother : other ∈ gs := List.mem_reverse.mp (List.mem_of_find?_eq_some hfind)
      have hid : other.head.id = g.head.id := by simpa using List.find?_some hfind
      rw [Group.eq_of_id_head_eq hnodup hother hg hid]

/-- An edge to the first chunk of another group is found among first chunks. -/
theorem Group.leadsTo_of_leads (hnodup : ((gs.flatMap Group.members).map (·.id)).Nodup)
    (hg : g ∈ gs) (hk : k ∈ gs) (hc : c ∈ g.members) (hne : g ≠ k)
    (h : (b.build (gs.flatMap Group.members)).Leads c.id k.head.id) :
    g.LeadsTo b gs k.head.id := by
  have hcmem : c ∈ gs.flatMap Group.members := List.mem_flatMap.mpr ⟨g, hg, hc⟩
  have hkmem : k.head ∈ gs.flatMap Group.members :=
    List.mem_flatMap.mpr ⟨k, hk, k.head_mem_members⟩
  obtain ⟨asker, hasker, htarget⟩ := (Builder.leads_build_iff b _ _ _).mp h
  obtain rfl : asker = c := by
    have hmem := List.mem_reverse.mp (List.mem_of_find?_eq_some hasker)
    have hid : asker.id = c.id := by simpa using List.find?_some hasker
    exact List.inj_on_of_nodup_map hnodup hmem hcmem hid
  rcases (Builder.mem_targetsOf b _ asker _).mp htarget with
    ⟨d, hd, found, hfound, hid, _⟩ | ⟨hparent, hnonempty, _⟩
  · have hfoundMem := Builder.mem_of_mem_meaningOf b hfound
    obtain rfl : found = k.head := List.inj_on_of_nodup_map hnodup hfoundMem hkmem hid
    have hdifferent : k.head.id ≠ g.head.id := fun heq =>
      hne (Group.eq_of_id_head_eq hnodup hg hk heq.symm)
    refine Or.inl ⟨asker, hc, d, hd, k.head, ?_, rfl, hdifferent⟩
    apply Builder.mem_meaningOf_of_subset b _ _ (Group.filePath_of_mem hc).symm hdifferent hfound
    · intro chunk hchunk
      obtain ⟨other, hother, rfl⟩ := List.mem_map.mp hchunk
      exact List.mem_flatMap.mpr ⟨other, hother, other.head_mem_members⟩
    · exact List.mem_map.mpr ⟨k, hk, rfl⟩
  · rw [Group.parentId_of_mem hc] at hparent
    exact Or.inr ⟨hparent, hnonempty, k, hk, rfl⟩

end Nodup

/-! ## Several files -/

/-- The chunks of files as they were cut, each list with the text that merging may use. -/
abbrev CutFiles := List (Option String × List Chunk)

namespace CutFiles

/-- The chunks of all files. -/
def chunks (files : CutFiles) : List Chunk := files.flatMap (·.2)

/-- The chunks of all files after merging in each file. -/
def mergedChunks (options : Options) (files : CutFiles) : List Chunk :=
  files.flatMap fun (source, chunks) => mergeSmall options source chunks

/-- The groups of all files. -/
def groups (options : Options) (files : CutFiles) : List Group :=
  files.flatMap fun (source, chunks) => ChunkGraph.groups options source chunks

theorem flatMap_members_groups (options : Options) (files : CutFiles) :
    (files.groups options).flatMap Group.members = files.chunks := by
  rw [groups, List.flatMap_assoc, chunks]
  exact List.flatMap_congr fun file _ => ChunkGraph.flatMap_members_groups options file.1 file.2

theorem map_merged_groups (options : Options) (files : CutFiles) :
    (files.groups options).map Group.merged = files.mergedChunks options := by
  rw [groups, List.map_flatMap, mergedChunks]
  exact List.flatMap_congr fun file _ => ChunkGraph.map_merged_groups options file.1 file.2

end CutFiles

/-- An edge from a chunk of one group to a chunk of another survives merging exactly if the last
group with that identity leads to the identity of the other group. If no two chunks share an
identity, that is so exactly if the chunk has not been absorbed, or the first chunk of its group is
found as well. -/
theorem merging_keeps_edge_iff (b : Builder) (options : Options) (files : CutFiles) (g k : Group)
    (c t : Chunk) (hg : g ∈ files.groups options) (hk : k ∈ files.groups options)
    (hc : c ∈ g.members) (ht : t ∈ k.members) (hne : g.merged ≠ k.merged)
    (hedge : (b.build files.chunks).Leads c.id t.id) :
    ((b.build (files.mergedChunks options)).Leads g.merged.id k.merged.id ↔
        ∃ last, (files.groups options).reverse.find? (·.head.id == g.head.id) = some last ∧
          last.LeadsTo b (files.groups options) k.head.id) ∧
      ((files.chunks.map (·.id)).Nodup →
        ((b.build (files.mergedChunks options)).Leads g.merged.id k.merged.id ↔
          t = k.head ∨ g.LeadsTo b (files.groups options) k.head.id)) := by
  have hleads : (b.build (files.mergedChunks options)).Leads g.merged.id k.merged.id ↔
      ∃ last, (files.groups options).reverse.find? (·.head.id == g.head.id) = some last ∧
        last.LeadsTo b (files.groups options) k.head.id := by
    rw [← CutFiles.map_merged_groups, Builder.leads_merged_iff, Group.id_merged, Group.id_merged]
  refine ⟨hleads, ?_⟩
  intro hnodup
  rw [← CutFiles.flatMap_members_groups options] at hnodup hedge
  rw [hleads, Group.find?_reverse_eq hnodup hg]
  constructor
  · rintro ⟨last, hlast, hlead⟩
    obtain rfl := Option.some.inj hlast
    exact Or.inr hlead
  · rintro (rfl | hlead)
    · exact ⟨g, rfl, Group.leadsTo_of_leads hnodup hg hk hc (fun heq => hne (heq ▸ rfl)) hedge⟩
    · exact ⟨g, rfl, hlead⟩

/-! ## A constant that is absorbed -/

/-- An exported declaration on one line. -/
def exportedLine (kind : ChunkKind) (name path : String) (line : Int)
    (dependencies : List Dependency) : Chunk :=
  { id := name, kind, name, qualifiedName := name, filePath := path
    range := ⟨⟨line, 0⟩, ⟨line, 0⟩⟩, startLine := line, endLine := line, hash := ""
    dependencies, exported := true, exportName := some name }

/-- `A` and `B` are constants of one file, and `f` imports one of them from another. -/
def twoConstants (imported : String) : CutFiles :=
  [(none, [exportedLine .exportDecl "A" "consts.ts" 1 [],
      exportedLine .exportDecl "B" "consts.ts" 2 []]),
    (none, [exportedLine .functionDecl "f" "main.ts" 1
      [{ name := imported, source := "./consts" }]])]

/-- Imports of the file with the constants. -/
def constantsResolver : Resolver := { fileExists := (· == "consts.ts") }

/-- The constants become one chunk with the identity of the first, and the importer stays. -/
theorem groups_twoConstants {imported : String} (himported : imported = "A" ∨ imported = "B") :
    ∃ g ∈ (twoConstants imported).groups {}, ∃ k ∈ (twoConstants imported).groups {},
      g.head.id = "f" ∧ k.head.id = "A" ∧ k.members.map (·.id) = ["A", "B"] ∧
        g.merged ≠ k.merged := by
  have hids : ((twoConstants imported).groups {}).map (fun g => g.members.map (·.id)) =
      [["A", "B"], ["f"]] := by
    rcases himported with rfl | rfl
    · decide +kernel
    · decide +kernel
  have hlength : ((twoConstants imported).groups {}).length = 2 := by
    rw [← List.length_map (fun g : Group => g.members.map (·.id)), hids]
    rfl
  obtain ⟨k, g, hgroups⟩ := List.length_eq_two.mp hlength
  rw [hgroups, List.map_cons, List.map_cons, List.cons.injEq, List.cons.injEq] at hids
  obtain ⟨hk, hg, _⟩ := hids
  have hghead : g.head.id = "f" := (List.cons.inj hg).1
  have hkhead : k.head.id = "A" := (List.cons.inj hk).1
  refine ⟨g, by simp [hgroups], k, by simp [hgroups], hghead, hkhead, hk, ?_⟩
  intro heq
  have hid : g.merged.id = k.merged.id := by rw [heq]
  rw [Group.id_merged, Group.id_merged, hghead, hkhead] at hid
  exact absurd hid (by decide)

/-- An import of the constant that keeps its name still leads to the merged chunk. -/
theorem merging_keeps_edge_first_constant :
    ∃ g ∈ (twoConstants "A").groups {}, ∃ k ∈ (twoConstants "A").groups {},
      g.merged ≠ k.merged ∧
        (Builder.build constantsResolver (twoConstants "A").chunks).Leads g.head.id k.head.id ∧
        ((twoConstants "A").chunks.map (·.id)).Nodup ∧
        (Builder.build constantsResolver ((twoConstants "A").mergedChunks {})).Leads g.merged.id
          k.merged.id := by
  obtain ⟨g, hg, k, hk, hghead, hkhead, _, hne⟩ := groups_twoConstants (Or.inl rfl)
  have htargets : (Builder.build constantsResolver (twoConstants "A").chunks).targets "f" =
      ["A"] := by decide +kernel
  have hedge : (Builder.build constantsResolver (twoConstants "A").chunks).Leads g.head.id
      k.head.id := by
    rw [hghead, hkhead, Graph.Leads, htargets]
    exact List.mem_singleton.mpr rfl
  have hnodup : ((twoConstants "A").chunks.map (·.id)).Nodup := by decide
  have hkept := (merging_keeps_edge_iff constantsResolver {} (twoConstants "A") g k g.head k.head
    hg hk g.head_mem_members k.head_mem_members hne hedge).2 hnodup
  exact ⟨g, hg, k, hk, hne, hedge, hnodup, hkept.mpr (Or.inl rfl)⟩

/-- An import of the constant that is absorbed leads nowhere after merging. -/
theorem merging_loses_edge :
    ¬ ∀ (b : Builder) (options : Options) (files : CutFiles) (g k : Group) (c t : Chunk),
      g ∈ files.groups options → k ∈ files.groups options → c ∈ g.members → t ∈ k.members →
      g.merged ≠ k.merged → (b.build files.chunks).Leads c.id t.id →
        (b.build (files.mergedChunks options)).Leads g.merged.id k.merged.id := by
  intro hkeeps
  obtain ⟨g, hg, k, hk, hghead, _, hids, hne⟩ := groups_twoConstants (Or.inr rfl)
  obtain ⟨t, ht, htid⟩ : ∃ t ∈ k.members, t.id = "B" := by
    apply List.mem_map.mp
    rw [hids]
    simp
  have htargets : (Builder.build constantsResolver (twoConstants "B").chunks).targets "f" =
      ["B"] := by decide +kernel
  have hedge : (Builder.build constantsResolver (twoConstants "B").chunks).Leads g.head.id
      t.id := by
    rw [hghead, htid, Graph.Leads, htargets]
    exact List.mem_singleton.mpr rfl
  have hlost : (Builder.build constantsResolver ((twoConstants "B").mergedChunks {})).targets "f" =
      [] := by decide +kernel
  have hlead := hkeeps constantsResolver {} (twoConstants "B") g k g.head t hg hk
    g.head_mem_members ht hne hedge
  rw [Group.id_merged, hghead, Graph.Leads, hlost] at hlead
  exact List.not_mem_nil hlead

end ChunkGraph
