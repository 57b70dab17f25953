import ChunkGraph.Chunk.Merge
import Mathlib.Data.List.Nodup
import Mathlib.Data.List.Pairwise

/-!
# Groups of merged chunks

Merging divides the chunks of a file into groups of neighbours: the first chunk
of a group absorbs the others one after the other. What results keeps the
identity, the names and the place of the first chunk. Of the others it takes
over the end, the members and the dependencies, and nothing else.

## Main definitions

* `Group` — chunks that become one, all in the same file under the same parent.
* `Group.merged` — what they become.
* `groups` — the groups of a file.

## Main results

* `appendNew_eq` — of the other list the new items are added, each where it
  occurs first.
* `canMerge_iff` — when two neighbours are merged.
* `map_merged_groups` — merging replaces each group by what it becomes.
* `flatMap_members_groups` — every chunk is in a group, in the order of the file.
* `Group.mem_dependencies_merged` — no dependency is lost, and none made up.
* `mergeSmall_of_structural` — chunks that all stand on their own stay as they
  are.
-/

namespace ChunkGraph

/-! ## Lists without repetition -/

/-- The new items of another list are added, each where it occurs first. -/
theorem appendNew_eq {α : Type} [BEq α] [LawfulBEq α] (items more : List α) :
    appendNew items more = items ++ (more.removeAll items).eraseDups := by
  induction more generalizing items with
  | nil => simp [appendNew, List.removeAll]
  | cons next more ih =>
      have hstep : appendNew items (next :: more) =
          appendNew (if items.contains next then items else items ++ [next]) more := rfl
      rw [hstep, ih]
      by_cases hold : next ∈ items
      · have hdrop : (next :: more).removeAll items = more.removeAll items := by
          simp [List.removeAll, hold]
        rw [if_pos (List.contains_iff_mem.mpr hold), hdrop]
      · have hkeep : (next :: more).removeAll items = next :: more.removeAll items := by
          simp [List.removeAll, hold]
        have hboth : more.removeAll (items ++ [next]) =
            (more.removeAll items).filter fun item => !item == next := by
          rw [List.removeAll, List.removeAll, List.filter_filter]
          refine List.filter_congr fun item _ => ?_
          rw [List.elem_eq_contains, List.elem_eq_contains, List.contains_append, Bool.not_or,
            Bool.and_comm, List.contains_cons, List.contains_nil, Bool.or_false]
        rw [if_neg fun hnew => hold (List.contains_iff_mem.mp hnew), hkeep, List.eraseDups_cons,
          hboth, List.append_assoc]
        rfl

/-- Adding two lists one after the other adds both of them. -/
theorem appendNew_appendNew {α : Type} [BEq α] (items more others : List α) :
    appendNew (appendNew items more) others = appendNew items (more ++ others) :=
  List.foldl_append.symm

/-- The list with the new items of another holds the items of both. -/
theorem mem_appendNew {α : Type} [BEq α] [LawfulBEq α] (items more : List α) (item : α) :
    item ∈ appendNew items more ↔ item ∈ items ∨ item ∈ more := by
  rw [appendNew_eq, List.mem_append, List.mem_eraseDups, List.removeAll, List.mem_filter]
  by_cases hold : item ∈ items
  · simp only [hold, true_or]
  · simp [hold]

/-! ## What decides whether chunks are merged -/

/-- A chunk is small if it does not reach the size from which on chunks are left alone. -/
theorem isSmall_iff {options : Options} {chunk : Chunk} :
    isSmall options chunk = true ↔
      options.minChunkSize.reachedBy (.whole chunk.estimatedSize) = false := by
  simp [isSmall]

/-- Two neighbours are merged if neither stands on its own, both stand in the same place, the
second is small, and both fit together. -/
theorem canMerge_iff {options : Options} {previous current : Chunk} :
    canMerge options previous current = true ↔
      previous.isMergeable = true ∧ current.isMergeable = true ∧
        current.filePath = previous.filePath ∧ current.parentId = previous.parentId ∧
        isSmall options current = true ∧ fitTogether options previous current = true := by
  simp only [canMerge, areNeighbours, Bool.and_eq_true, beq_iff_eq, and_assoc,
    eq_comm (a := current.filePath), eq_comm (a := current.parentId)]

/-- Bounds that are numbers are compared without failure. -/
theorem mergeFault?_eq_none {options : Options} (hmin : options.minChunkSize.isNumber = true)
    (hmax : options.chunkSize.isNumber = true) (chunks : List Chunk) :
    mergeFault? options chunks = none := by
  have hpair (previous current : Chunk) : pairFault? options previous current = none := by
    unfold pairFault?
    rw [Bound.fault?_of_isNumber hmin, Bound.fault?_of_isNumber hmax]
    simp only [ite_self]
  induction chunks with
  | nil => rfl
  | cons previous chunks ih =>
      cases chunks with
      | nil => rfl
      | cons current chunks =>
          rw [mergeFault?, hpair]
          exact ih

/-! ## Groups -/

/-- Chunks that become one: a first one and those that it absorbs, in the same place. -/
structure Group where
  /-- The lines of the file, if they are known. -/
  lines : Option (List (List Char))
  /-- The chunk that absorbs the others. -/
  head : Chunk
  /-- The chunks that it absorbs, in order. -/
  tail : List Chunk
  /-- All of them stand in the same file under the same parent. -/
  same_place : ∀ chunk ∈ tail, chunk.filePath = head.filePath ∧ chunk.parentId = head.parentId

namespace Group

/-- The chunks of a group. -/
def members (g : Group) : List Chunk := g.head :: g.tail

/-- What the chunks of a group become. -/
def merged (g : Group) : Chunk := g.tail.foldl (absorb g.lines) g.head

/-- A chunk on its own. -/
def single (lines : Option (List (List Char))) (chunk : Chunk) : Group :=
  ⟨lines, chunk, [], fun _ h => absurd h List.not_mem_nil⟩

/-- The group with one more chunk from the same place. -/
def add (g : Group) (chunk : Chunk)
    (h : chunk.filePath = g.head.filePath ∧ chunk.parentId = g.head.parentId) : Group :=
  { g with
    tail := g.tail ++ [chunk]
    same_place := by
      intro other hother
      rcases List.mem_append.mp hother with hold | hnew
      · exact g.same_place other hold
      · rw [List.mem_singleton.mp hnew]
        exact h }

@[simp] theorem head_single (lines : Option (List (List Char))) (chunk : Chunk) :
    (single lines chunk).head = chunk := rfl

@[simp] theorem merged_single (lines : Option (List (List Char))) (chunk : Chunk) :
    (single lines chunk).merged = chunk := rfl

@[simp] theorem members_single (lines : Option (List (List Char))) (chunk : Chunk) :
    (single lines chunk).members = [chunk] := rfl

@[simp] theorem members_add (g : Group) (chunk : Chunk)
    (h : chunk.filePath = g.head.filePath ∧ chunk.parentId = g.head.parentId) :
    (g.add chunk h).members = g.members ++ [chunk] := rfl

@[simp] theorem merged_add (g : Group) (chunk : Chunk)
    (h : chunk.filePath = g.head.filePath ∧ chunk.parentId = g.head.parentId) :
    (g.add chunk h).merged = absorb g.lines g.merged chunk := by
  show (g.tail ++ [chunk]).foldl (absorb g.lines) g.head = _
  rw [List.foldl_append]
  rfl

theorem head_mem_members (g : Group) : g.head ∈ g.members := List.mem_cons_self

/-- What absorbing leaves as it is stays as it is in the whole group. -/
theorem merged_eq_head {α : Type} (g : Group) (look : Chunk → α)
    (hlook : ∀ previous current, look (absorb g.lines previous current) = look previous) :
    look g.merged = look g.head := by
  have hfold : ∀ (rest : List Chunk) (previous : Chunk),
      look (rest.foldl (absorb g.lines) previous) = look previous := by
    intro rest
    induction rest with
    | nil => exact fun _ => rfl
    | cons current rest ih =>
        intro previous
        rw [List.foldl_cons, ih, hlook]
  exact hfold g.tail g.head

@[simp] theorem id_merged (g : Group) : g.merged.id = g.head.id :=
  g.merged_eq_head (·.id) fun _ _ => rfl

@[simp] theorem filePath_merged (g : Group) : g.merged.filePath = g.head.filePath :=
  g.merged_eq_head (·.filePath) fun _ _ => rfl

@[simp] theorem parentId_merged (g : Group) : g.merged.parentId = g.head.parentId :=
  g.merged_eq_head (·.parentId) fun _ _ => rfl

theorem filePath_of_mem {g : Group} {chunk : Chunk} (h : chunk ∈ g.members) :
    chunk.filePath = g.head.filePath := by
  rcases List.mem_cons.mp h with rfl | h
  · rfl
  · exact (g.same_place chunk h).1

theorem parentId_of_mem {g : Group} {chunk : Chunk} (h : chunk ∈ g.members) :
    chunk.parentId = g.head.parentId := by
  rcases List.mem_cons.mp h with rfl | h
  · rfl
  · exact (g.same_place chunk h).2

/-- Of what each absorbed chunk adds to a list, the whole group adds all. -/
theorem list_merged {β : Type} [BEq β] (g : Group) (look : Chunk → List β)
    (hlook : ∀ previous current,
      look (absorb g.lines previous current) = appendNew (look previous) (look current)) :
    look g.merged = appendNew (look g.head) (g.tail.flatMap look) := by
  have hfold : ∀ (rest : List Chunk) (previous : Chunk),
      look (rest.foldl (absorb g.lines) previous) =
        appendNew (look previous) (rest.flatMap look) := by
    intro rest
    induction rest with
    | nil => exact fun _ => rfl
    | cons current rest ih =>
        intro previous
        rw [List.foldl_cons, ih, hlook, appendNew_appendNew, List.flatMap_cons]
  exact hfold g.tail g.head

theorem childrenIds_merged (g : Group) :
    g.merged.childrenIds = appendNew g.head.childrenIds (g.tail.flatMap (·.childrenIds)) :=
  g.list_merged (·.childrenIds) fun _ _ => rfl

theorem dependencies_merged (g : Group) :
    g.merged.dependencies = appendNew g.head.dependencies (g.tail.flatMap (·.dependencies)) :=
  g.list_merged (·.dependencies) fun _ _ => rfl

/-- A merged chunk has the dependencies of all chunks of its group. -/
theorem mem_dependencies_merged (g : Group) (d : Dependency) :
    d ∈ g.merged.dependencies ↔ ∃ chunk ∈ g.members, d ∈ chunk.dependencies := by
  rw [dependencies_merged, mem_appendNew, List.mem_flatMap, members]
  simp only [List.mem_cons, exists_eq_or_imp]

end Group

/-! ## The groups of a file -/

/-- Chunks are merged in the same place only. -/
theorem same_place_of_canMerge {options : Options} {g : Group} {chunk : Chunk}
    (h : canMerge options g.merged chunk = true) :
    chunk.filePath = g.head.filePath ∧ chunk.parentId = g.head.parentId := by
  obtain ⟨_, _, hpath, hparent, _, _⟩ := canMerge_iff.mp h
  exact ⟨hpath.trans g.filePath_merged, hparent.trans g.parentId_merged⟩

/-- The groups from `g` on, which may still grow. -/
def groupsFrom (options : Options) : Group → List Chunk → List Group
  | g, [] => [g]
  | g, chunk :: rest =>
      if h : canMerge options g.merged chunk = true then
        groupsFrom options (g.add chunk (same_place_of_canMerge h)) rest
      else g :: groupsFrom options (.single g.lines chunk) rest

/-- The groups of the chunks of a file; `source` is the text of the file. -/
def groups (options : Options) (source : Option String) : List Chunk → List Group
  | [] => []
  | first :: rest =>
      groupsFrom options (.single (source.map fun s => Text.splitLines s.toList) first) rest

theorem map_merged_groupsFrom (options : Options) (g : Group) (rest : List Chunk) :
    (groupsFrom options g rest).map Group.merged = mergeFrom options g.lines g.merged rest := by
  induction rest generalizing g with
  | nil => rfl
  | cons chunk rest ih =>
      rw [groupsFrom, mergeFrom]
      by_cases h : canMerge options g.merged chunk = true
      · rw [dif_pos h, if_pos h, ih, Group.merged_add]
        rfl
      · rw [dif_neg h, if_neg h, List.map_cons, ih]
        rfl

theorem flatMap_members_groupsFrom (options : Options) (g : Group) (rest : List Chunk) :
    (groupsFrom options g rest).flatMap Group.members = g.members ++ rest := by
  induction rest generalizing g with
  | nil => simp [groupsFrom]
  | cons chunk rest ih =>
      rw [groupsFrom]
      by_cases h : canMerge options g.merged chunk = true
      · rw [dif_pos h, ih, Group.members_add, List.append_assoc]
        rfl
      · rw [dif_neg h, List.flatMap_cons, ih]
        rfl

/-- Merging puts what a group becomes in the place of the group. -/
theorem map_merged_groups (options : Options) (source : Option String) (chunks : List Chunk) :
    (groups options source chunks).map Group.merged = mergeSmall options source chunks := by
  cases chunks with
  | nil => rfl
  | cons first rest => exact map_merged_groupsFrom options (.single _ first) rest

/-- The groups hold the chunks of the file in their order. -/
theorem flatMap_members_groups (options : Options) (source : Option String)
    (chunks : List Chunk) : (groups options source chunks).flatMap Group.members = chunks := by
  cases chunks with
  | nil => rfl
  | cons first rest => exact flatMap_members_groupsFrom options (.single _ first) rest

/-- The chunks of a file are those of its groups. -/
theorem mem_iff_exists_group (options : Options) (source : Option String) {chunks : List Chunk}
    {c : Chunk} : c ∈ chunks ↔ ∃ g ∈ groups options source chunks, c ∈ g.members := by
  rw [← List.mem_flatMap, flatMap_members_groups]

theorem head_mem_of_mem_groups {options : Options} {source : Option String} {chunks : List Chunk}
    {g : Group} (h : g ∈ groups options source chunks) : g.head ∈ chunks :=
  (mem_iff_exists_group options source).mpr ⟨g, h, g.head_mem_members⟩

/-- The chunks after merging are what the groups have become. -/
theorem mem_mergeSmall_iff {options : Options} {source : Option String} {chunks : List Chunk}
    {c : Chunk} : c ∈ mergeSmall options source chunks ↔
      ∃ g ∈ groups options source chunks, g.merged = c := by
  rw [← map_merged_groups, List.mem_map]

theorem lines_of_mem_groupsFrom {options : Options} {g found : Group} {rest : List Chunk}
    (h : found ∈ groupsFrom options g rest) : found.lines = g.lines := by
  induction rest generalizing g with
  | nil => rw [List.mem_singleton.mp h]
  | cons chunk rest ih =>
      rw [groupsFrom] at h
      split at h
      · exact (ih h).trans rfl
      · rcases List.mem_cons.mp h with rfl | h
        · rfl
        · exact (ih h).trans rfl

/-- All groups of a file know its lines. -/
theorem lines_of_mem_groups {options : Options} {source : Option String} {chunks : List Chunk}
    {g : Group} (h : g ∈ groups options source chunks) :
    g.lines = source.map fun s => Text.splitLines s.toList := by
  cases chunks with
  | nil => exact absurd h List.not_mem_nil
  | cons first rest => exact lines_of_mem_groupsFrom h

/-! ## Chunks with different identities -/

namespace Group

variable {gs : List Group} {g k : Group} {c : Chunk}

/-- A chunk is in one group only. -/
theorem eq_of_mem_members (hnodup : ((gs.flatMap members).map (·.id)).Nodup)
    (hg : g ∈ gs) (hk : k ∈ gs) (hcg : c ∈ g.members) (hck : c ∈ k.members) : g = k := by
  have hsymm : Std.Symm (Function.onFun List.Disjoint members) :=
    ⟨fun _ _ h _ hfirst hsecond => h hsecond hfirst⟩
  by_contra hne
  exact (List.nodup_flatMap.mp hnodup.of_map).2.forall hg hk hne hcg hck

/-- Among different identities the first chunk of a group is found by its own. -/
theorem eq_of_id_head_eq (hnodup : ((gs.flatMap members).map (·.id)).Nodup)
    (hg : g ∈ gs) (hk : k ∈ gs) (hid : g.head.id = k.head.id) : g = k := by
  have hgmem : g.head ∈ gs.flatMap members := List.mem_flatMap.mpr ⟨g, hg, g.head_mem_members⟩
  have hkmem : k.head ∈ gs.flatMap members := List.mem_flatMap.mpr ⟨k, hk, k.head_mem_members⟩
  have hhead : g.head = k.head := List.inj_on_of_nodup_map hnodup hgmem hkmem hid
  exact eq_of_mem_members hnodup hg hk g.head_mem_members (hhead ▸ k.head_mem_members)

/-- Among different identities that of an absorbed chunk is gone. -/
theorem id_head_ne_of_mem_tail (hnodup : ((gs.flatMap members).map (·.id)).Nodup)
    (hg : g ∈ gs) (hk : k ∈ gs) (hc : c ∈ g.tail) : k.head.id ≠ c.id := by
  intro hid
  have hcmem : c ∈ gs.flatMap members :=
    List.mem_flatMap.mpr ⟨g, hg, List.mem_cons_of_mem g.head hc⟩
  have hkmem : k.head ∈ gs.flatMap members := List.mem_flatMap.mpr ⟨k, hk, k.head_mem_members⟩
  have hhead : k.head = c := List.inj_on_of_nodup_map hnodup hkmem hcmem hid
  obtain rfl : k = g := eq_of_mem_members hnodup hk hg k.head_mem_members
    (hhead ▸ List.mem_cons_of_mem g.head hc)
  have hmembers : (k.head :: k.tail).Nodup := (List.nodup_flatMap.mp hnodup.of_map).1 k hk
  exact (List.nodup_cons.mp hmembers).1 (hhead ▸ hc)

end Group

theorem mergeFrom_of_structural (options : Options) (lines : Option (List (List Char)))
    {chunks : List Chunk} (h : ∀ chunk ∈ chunks, chunk.isMergeable = false) (previous : Chunk) :
    mergeFrom options lines previous chunks = previous :: chunks := by
  induction chunks generalizing previous with
  | nil => rfl
  | cons current rest ih =>
      obtain ⟨hcurrent, hrest⟩ := List.forall_mem_cons.mp h
      have hcannot : canMerge options previous current = false := by
        simp [canMerge, areNeighbours, hcurrent]
      rw [mergeFrom, hcannot, ih hrest current]
      rfl

/-- Chunks of kinds that stand on their own stay as they are. -/
theorem mergeSmall_of_structural (options : Options) (source : Option String)
    {chunks : List Chunk} (h : ∀ chunk ∈ chunks, chunk.isMergeable = false) :
    mergeSmall options source chunks = chunks := by
  cases chunks with
  | nil => rfl
  | cons first rest =>
      exact mergeFrom_of_structural options _ (List.forall_mem_cons.mp h).2 first

end ChunkGraph
