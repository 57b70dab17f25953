import ChunkGraph.Proofs.Chunk.Groups
import Mathlib.Data.List.Forall2

/-!
# Merging as a grouping of neighbours

Merging divides the chunks of a file into runs of neighbours, and of each run one
chunk remains. A chunk on its own remains as it is. A longer run has only chunks
that need not stand on their own, in the same place, and all but the first are
small; what remains is the first chunk, stretched to the end of the last one,
with the dependencies and members of all of them and the sum of their sizes.

Merging what has been merged changes nothing. A chunk that was not folded into
the one before it may have grown since, but it has not become smaller, and the
same holds of the one before it. This takes sizes that are not negative: an
estimate by the lines is, for a chunk that ends far before it begins.

## Main definitions

* `Joined`, `Becomes` — what a run of chunks becomes.
* `Group.Fits` — what the chunks of a group have in common.
* `Grown` — a chunk into which others have been folded, as far as its neighbours
  can tell.
* `Grouping` — what merging does to the chunks of a file.

## Main results

* `fits_of_mem_groups` — the groups of a file fit.
* `Group.becomes` — what a group that fits becomes.
* `isChain_mergeFrom`, `mergeFrom_of_isChain` — no neighbours are left that could
  be merged, and then merging changes nothing.
* `grouping_of_mergeSmall` — merging is a grouping.
-/

namespace ChunkGraph

/-! ## What a run becomes -/

/-- The sum of the sizes of chunks. -/
def totalSize : List Chunk → Int
  | [] => 0
  | chunk :: chunks => chunk.estimatedSize + totalSize chunks

@[simp] theorem totalSize_cons (chunk : Chunk) (chunks : List Chunk) :
    totalSize (chunk :: chunks) = chunk.estimatedSize + totalSize chunks := rfl

@[simp] theorem totalSize_singleton (chunk : Chunk) :
    totalSize [chunk] = chunk.estimatedSize := Int.add_zero _

@[simp] theorem totalSize_append (chunks more : List Chunk) :
    totalSize (chunks ++ more) = totalSize chunks + totalSize more := by
  induction chunks with
  | nil => exact (Int.zero_add _).symm
  | cons chunk chunks ih =>
      rw [List.cons_append, totalSize_cons, totalSize_cons, ih, Int.add_assoc]

/-- What a run of two or more chunks becomes: its first chunk, stretched to the end of the last. -/
structure Joined (options : Options) (first : Chunk) (middle : List Chunk) (last result : Chunk) :
    Prop where
  /-- None of the chunks stands on its own. -/
  mergeable : ∀ chunk ∈ first :: (middle ++ [last]), chunk.isMergeable = true
  /-- They stand in one place. -/
  same_place : ∀ chunk ∈ middle ++ [last],
    chunk.filePath = first.filePath ∧ chunk.parentId = first.parentId
  /-- All but the first do not reach the size from which on chunks are left alone. -/
  small : ∀ chunk ∈ middle ++ [last],
    options.minChunkSize.reachedBy (.whole chunk.estimatedSize) = false
  /-- The whole is not too large. -/
  fits : options.chunkSize.admits (.whole (totalSize (first :: (middle ++ [last])))) = true
  /-- The result takes over the end of the last chunk, the members and dependencies of all of
  them, and their sizes. A fingerprint and a text of its own apart, it is the first chunk. -/
  result_eq : result = { first with
    endLine := last.endLine
    range := ⟨first.range.start, last.range.stop⟩
    childrenIds := first.childrenIds ++ (((middle ++ [last]).flatMap (·.childrenIds)).removeAll
      first.childrenIds).eraseDups
    dependencies := first.dependencies ++ (((middle ++ [last]).flatMap (·.dependencies)).removeAll
      first.dependencies).eraseDups
    hash := result.hash
    content := result.content
    tokenCount := some (totalSize (first :: (middle ++ [last]))) }

namespace Joined

variable {options : Options} {first last result : Chunk} {middle : List Chunk} {bound : Int}

/-- All but the first chunk are smaller than an integer from which on chunks are left alone. -/
theorem estimatedSize_lt (h : Joined options first middle last result)
    (hbound : options.minChunkSize = .whole bound) :
    ∀ chunk ∈ middle ++ [last], chunk.estimatedSize < bound := by
  intro chunk hchunk
  have hsmall := h.small chunk hchunk
  rw [hbound, Bound.reachedBy_whole] at hsmall
  exact Int.not_le.mp (of_decide_eq_false hsmall)

/-- The whole is at most an integer that bounds it. -/
theorem totalSize_le (h : Joined options first middle last result)
    (hbound : options.chunkSize = .whole bound) :
    totalSize (first :: (middle ++ [last])) ≤ bound := by
  have hfits := h.fits
  rw [hbound, Bound.admits_whole] at hfits
  exact of_decide_eq_true hfits

end Joined

/-- What a run of chunks becomes. -/
inductive Becomes (options : Options) : List Chunk → Chunk → Prop where
  /-- A chunk on its own stays as it is. -/
  | alone (chunk : Chunk) : Becomes options [chunk] chunk
  /-- Several chunks become one. -/
  | joined {first last result : Chunk} {middle : List Chunk}
      (h : Joined options first middle last result) :
      Becomes options (first :: (middle ++ [last])) result

namespace Becomes

variable {options : Options} {run : List Chunk} {result : Chunk}

/-- The size of the result is that of the run. -/
theorem estimatedSize_eq (h : Becomes options run result) :
    result.estimatedSize = totalSize run := by
  cases h with
  | alone => rw [totalSize_singleton]
  | joined h =>
      rw [h.result_eq]
      rfl

/-- Runs together are as large as what they become. -/
theorem totalSize_eq {runs : List (List Chunk)} {results : List Chunk}
    (h : List.Forall₂ (Becomes options) runs results) :
    totalSize results = totalSize runs.flatten := by
  induction h with
  | nil => rfl
  | cons hfirst _ ih =>
      rw [totalSize_cons, List.flatten_cons, totalSize_append, ih, hfirst.estimatedSize_eq]

end Becomes

/-! ## Groups as runs -/

/-- The size of what absorbs another chunk is the sum of both. -/
@[simp] theorem estimatedSize_absorb (lines : Option (List (List Char)))
    (previous current : Chunk) :
    (absorb lines previous current).estimatedSize =
      previous.estimatedSize + current.estimatedSize := rfl

namespace Group

variable {options : Options} {g : Group}

/-- The size of what a group becomes is the sum of the sizes of its chunks. -/
theorem estimatedSize_merged (g : Group) : g.merged.estimatedSize = totalSize g.members := by
  have hfold : ∀ (rest : List Chunk) (previous : Chunk),
      (rest.foldl (absorb g.lines) previous).estimatedSize = totalSize (previous :: rest) := by
    intro rest
    induction rest with
    | nil => exact fun previous => (totalSize_singleton previous).symm
    | cons current rest ih =>
        intro previous
        rw [List.foldl_cons, ih, totalSize_cons, estimatedSize_absorb, totalSize_cons,
          totalSize_cons, Int.add_assoc]
  exact hfold g.tail g.head

@[simp] theorem isMergeable_merged (g : Group) : g.merged.isMergeable = g.head.isMergeable :=
  g.merged_eq_head Chunk.isMergeable fun _ _ => rfl

/-- What the chunks of a group have in common besides their place, if there are several. -/
structure Fits (options : Options) (g : Group) : Prop where
  /-- The first chunk need not stand on its own. -/
  head : g.tail ≠ [] → g.head.isMergeable = true
  /-- Nor need the others, and they are small. -/
  tail : ∀ chunk ∈ g.tail, chunk.isMergeable = true ∧ isSmall options chunk = true
  /-- The whole is not too large. -/
  whole : g.tail ≠ [] → options.chunkSize.admits (.whole (totalSize g.members)) = true

theorem fits_single (lines : Option (List (List Char))) (chunk : Chunk) :
    (single lines chunk).Fits options where
  head h := absurd rfl h
  tail _ h := absurd h List.not_mem_nil
  whole h := absurd rfl h

/-- A group fits with one more chunk that may be folded into what it becomes. -/
theorem Fits.add {chunk : Chunk} (hg : g.Fits options)
    (h : canMerge options g.merged chunk = true) :
    (g.add chunk (same_place_of_canMerge h)).Fits options := by
  obtain ⟨hhead, hchunk, _, _, hsmall, hwhole⟩ := canMerge_iff.mp h
  refine ⟨fun _ => g.isMergeable_merged ▸ hhead, fun other hother => ?_, fun _ => ?_⟩
  · rcases List.mem_append.mp hother with hold | hnew
    · exact hg.tail other hold
    · rw [List.mem_singleton.mp hnew]
      exact ⟨hchunk, hsmall⟩
  · rw [members_add, totalSize_append, totalSize_singleton, ← g.estimatedSize_merged]
    exact hwhole

/-- A group is its first chunk as far as absorbing others does not change it. -/
theorem merged_eq (g : Group) : g.merged = { g.head with
    endLine := g.merged.endLine
    range := g.merged.range
    childrenIds := g.merged.childrenIds
    dependencies := g.merged.dependencies
    hash := g.merged.hash
    content := g.merged.content
    tokenCount := g.merged.tokenCount } :=
  g.merged_eq_head (fun chunk => { chunk with
    endLine := g.merged.endLine
    range := g.merged.range
    childrenIds := g.merged.childrenIds
    dependencies := g.merged.dependencies
    hash := g.merged.hash
    content := g.merged.content
    tokenCount := g.merged.tokenCount }) fun _ _ => rfl

/-- A group of several chunks joins them. -/
theorem joined {middle : List Chunk} {last : Chunk} (hg : g.Fits options)
    (htail : g.tail = middle ++ [last]) : Joined options g.head middle last g.merged := by
  have hmany : g.tail ≠ [] := by
    rw [htail]
    exact List.concat_ne_nil _ _
  have hmembers : g.members = g.head :: (middle ++ [last]) := congrArg (g.head :: ·) htail
  -- The chunk that is absorbed last decides where the result ends.
  have hlast : g.merged = absorb g.lines (middle.foldl (absorb g.lines) g.head) last := by
    rw [merged, htail, List.foldl_concat]
  have hend : g.merged.endLine = last.endLine := by rw [hlast]; rfl
  have hstop : g.merged.range.stop = last.range.stop := by rw [hlast]; rfl
  have hstart : g.merged.range.start = g.head.range.start :=
    g.merged_eq_head (·.range.start) fun _ _ => rfl
  have hcount : g.merged.tokenCount = some g.merged.estimatedSize := by rw [hlast]; rfl
  have hrange : g.merged.range = ⟨g.head.range.start, last.range.stop⟩ := by
    rw [← hstart, ← hstop]
  refine ⟨?_, ?_, ?_, ?_, ?_⟩
  · rw [← hmembers]
    intro chunk hchunk
    rcases List.mem_cons.mp hchunk with rfl | hrest
    · exact hg.head hmany
    · exact (hg.tail chunk hrest).1
  · rw [← htail]
    exact g.same_place
  · rw [← htail]
    intro chunk hchunk
    exact isSmall_iff.mp (hg.tail chunk hchunk).2
  · rw [← hmembers]
    exact hg.whole hmany
  · rw [← hmembers, ← htail, ← appendNew_eq, ← appendNew_eq, ← childrenIds_merged,
      ← dependencies_merged, ← estimatedSize_merged, ← hcount, ← hend, ← hrange]
    exact g.merged_eq

/-- What a group becomes is what its chunks become as a run. -/
theorem becomes (hg : g.Fits options) : Becomes options g.members g.merged := by
  rcases List.eq_nil_or_concat' g.tail with htail | ⟨middle, last, htail⟩
  · have hmembers : g.members = [g.head] := congrArg (g.head :: ·) htail
    have hmerged : g.merged = g.head := by rw [merged, htail, List.foldl_nil]
    rw [hmembers, hmerged]
    exact .alone g.head
  · have hmembers : g.members = g.head :: (middle ++ [last]) := congrArg (g.head :: ·) htail
    rw [hmembers]
    exact .joined (joined hg htail)

end Group

theorem fits_of_mem_groupsFrom {options : Options} {g : Group} {rest : List Chunk}
    (hg : g.Fits options) : ∀ found ∈ groupsFrom options g rest, found.Fits options := by
  induction rest generalizing g with
  | nil =>
      intro found hfound
      rw [List.mem_singleton.mp hfound]
      exact hg
  | cons chunk rest ih =>
      rw [groupsFrom]
      by_cases h : canMerge options g.merged chunk = true
      · rw [dif_pos h]
        exact ih (hg.add h)
      · rw [dif_neg h]
        exact List.forall_mem_cons.mpr ⟨hg, ih (Group.fits_single _ _)⟩

/-- The groups of a file fit. -/
theorem fits_of_mem_groups (options : Options) (source : Option String) (chunks : List Chunk) :
    ∀ g ∈ groups options source chunks, g.Fits options := by
  cases chunks with
  | nil => exact fun _ h => absurd h List.not_mem_nil
  | cons first rest => exact fits_of_mem_groupsFrom (Group.fits_single _ _)

/-! ## Merging again -/

/-- What a chunk may have become by absorbing others, as far as its neighbours can tell. -/
structure Grown (chunk grown : Chunk) : Prop where
  /-- Its kind does not change. -/
  kind : grown.kind = chunk.kind
  /-- Nor does its file. -/
  filePath : grown.filePath = chunk.filePath
  /-- Nor does its parent. -/
  parentId : grown.parentId = chunk.parentId
  /-- It does not become smaller. -/
  size_le : chunk.estimatedSize ≤ grown.estimatedSize

namespace Grown

variable {options : Options} {chunk grown previous before : Chunk}

theorem refl (chunk : Chunk) : Grown chunk chunk := ⟨rfl, rfl, rfl, Int.le_refl _⟩

theorem trans {larger : Chunk} (h : Grown chunk grown) (h' : Grown grown larger) :
    Grown chunk larger :=
  ⟨h'.kind.trans h.kind, h'.filePath.trans h.filePath, h'.parentId.trans h.parentId,
    Int.le_trans h.size_le h'.size_le⟩

/-- Absorbing a chunk whose size is not negative is growth. -/
theorem of_absorb (lines : Option (List (List Char))) (previous : Chunk)
    (hsize : 0 ≤ chunk.estimatedSize) : Grown previous (absorb lines previous chunk) :=
  ⟨rfl, rfl, rfl, Int.le_add_of_nonneg_right hsize⟩

theorem isMergeable_eq (h : Grown chunk grown) : grown.isMergeable = chunk.isMergeable := by
  rw [Chunk.isMergeable, Chunk.isMergeable, h.kind]

/-- What has become of a chunk is small only if the chunk was. -/
theorem isSmall_of_grown (h : Grown chunk grown) (hsmall : isSmall options grown = true) :
    isSmall options chunk = true := by
  refine isSmall_iff.mpr (Bool.eq_false_iff.mpr fun hreached => ?_)
  have hgrown := Bound.reachedBy_mono h.size_le hreached
  rw [isSmall_iff.mp hsmall] at hgrown
  exact Bool.false_ne_true hgrown

/-- Two chunks that can be merged now could be merged before either of them grew. -/
theorem canMerge_of_grown (hbefore : Grown before previous) (h : Grown chunk grown)
    (hmerge : canMerge options previous grown = true) : canMerge options before chunk = true := by
  obtain ⟨hprevious, hgrown, hpath, hparent, hsmall, hfit⟩ := canMerge_iff.mp hmerge
  refine canMerge_iff.mpr ⟨?_, ?_, ?_, ?_, h.isSmall_of_grown hsmall, ?_⟩
  · rw [← hbefore.isMergeable_eq]
    exact hprevious
  · rw [← h.isMergeable_eq]
    exact hgrown
  · rw [← h.filePath, ← hbefore.filePath, hpath]
  · rw [← h.parentId, ← hbefore.parentId, hparent]
  · exact Bound.admits_mono (Int.add_le_add hbefore.size_le h.size_le) hfit

end Grown

/-- No neighbours are left that could be merged. The first chunk may have grown. -/
theorem isChain_mergeFrom (options : Options) (lines : Option (List (List Char)))
    {rest : List Chunk} (hsizes : ∀ chunk ∈ rest, 0 ≤ chunk.estimatedSize) (previous : Chunk) :
    ∃ first more, mergeFrom options lines previous rest = first :: more ∧ Grown previous first ∧
      (first :: more).IsChain fun before after => canMerge options before after = false := by
  induction rest generalizing previous with
  | nil => exact ⟨previous, [], rfl, .refl previous, .singleton previous⟩
  | cons chunk rest ih =>
      obtain ⟨hsize, hrest⟩ := List.forall_mem_cons.mp hsizes
      rw [mergeFrom]
      by_cases h : canMerge options previous chunk = true
      · rw [if_pos h]
        obtain ⟨first, more, hmerged, hgrown, hchain⟩ := ih hrest (absorb lines previous chunk)
        exact ⟨first, more, hmerged, (Grown.of_absorb lines previous hsize).trans hgrown, hchain⟩
      · rw [if_neg h]
        obtain ⟨first, more, hmerged, hgrown, hchain⟩ := ih hrest chunk
        -- `chunk` was not folded into `previous`, so what has become of it is not either.
        have happart : canMerge options previous first = false :=
          Bool.eq_false_iff.mpr fun hmerge =>
            h (Grown.canMerge_of_grown (.refl previous) hgrown hmerge)
        rw [hmerged]
        exact ⟨previous, first :: more, rfl, .refl previous, .cons_cons happart hchain⟩

/-- Where no neighbours can be merged, merging changes nothing. -/
theorem mergeFrom_of_isChain {options : Options} (lines : Option (List (List Char)))
    {rest : List Chunk} {previous : Chunk}
    (h : (previous :: rest).IsChain fun before after => canMerge options before after = false) :
    mergeFrom options lines previous rest = previous :: rest := by
  induction rest generalizing previous with
  | nil => rfl
  | cons chunk rest ih =>
      obtain ⟨happart, hrest⟩ := List.isChain_cons_cons.mp h
      rw [mergeFrom, happart, ih hrest]
      rfl

/-- Merging again changes nothing, whatever text is given for the file. -/
theorem mergeSmall_mergeSmall (options : Options) (source again : Option String)
    {chunks : List Chunk} (hsizes : ∀ chunk ∈ chunks, 0 ≤ chunk.estimatedSize) :
    mergeSmall options again (mergeSmall options source chunks) =
      mergeSmall options source chunks := by
  cases chunks with
  | nil => rfl
  | cons chunk rest =>
      obtain ⟨first, more, hmerged, _, hchain⟩ := isChain_mergeFrom options
        (source.map fun s => Text.splitLines s.toList) (List.forall_mem_cons.mp hsizes).2 chunk
      rw [mergeSmall, hmerged]
      exact mergeFrom_of_isChain _ hchain

/-! ## Merging as a whole -/

/-- What merging does to the chunks of a file. -/
structure Grouping (options : Options) (source : Option String) (chunks : List Chunk) : Prop where
  /-- If the sizes it goes by are numbers, the chunks can be merged, and merged again. -/
  possible : options.minChunkSize.isNumber = true → options.chunkSize.isNumber = true →
    mergeFault? options chunks = none ∧
      mergeFault? options (mergeSmall options source chunks) = none
  /-- Each chunk that results is what has become of a run of neighbours, in their order. -/
  runs : ∃ runs : List (List Chunk), runs.flatten = chunks ∧ (∀ run ∈ runs, run ≠ []) ∧
    List.Forall₂ (Becomes options) runs (mergeSmall options source chunks)
  /-- The sizes are the same in sum. -/
  total : totalSize (mergeSmall options source chunks) = totalSize chunks
  /-- Merging the result again changes nothing, whatever text is given for the file. -/
  idempotent : ∀ again, mergeSmall options again (mergeSmall options source chunks) =
    mergeSmall options source chunks

/-- Each chunk that merging leaves is what has become of a run of neighbours. -/
theorem forall₂_becomes_groups (options : Options) (source : Option String)
    (chunks : List Chunk) :
    List.Forall₂ (Becomes options) ((groups options source chunks).map Group.members)
      (mergeSmall options source chunks) := by
  rw [← map_merged_groups, List.forall₂_map_left_iff, List.forall₂_map_right_iff,
    List.forall₂_same]
  exact fun g hg => Group.becomes (fits_of_mem_groups options source chunks g hg)

/-- Merging is a grouping of neighbours if no size is negative. -/
theorem grouping_of_mergeSmall (options : Options) (source : Option String) (chunks : List Chunk)
    (hsizes : ∀ chunk ∈ chunks, 0 ≤ chunk.estimatedSize) : Grouping options source chunks := by
  have hbecomes := forall₂_becomes_groups options source chunks
  have hflatten : ((groups options source chunks).map Group.members).flatten = chunks := by
    rw [← List.flatMap_def]
    exact flatMap_members_groups options source chunks
  refine ⟨fun hmin hmax => ?_, ⟨_, hflatten, ?_, hbecomes⟩, ?_,
    fun again => mergeSmall_mergeSmall options source again hsizes⟩
  · exact ⟨mergeFault?_eq_none hmin hmax _, mergeFault?_eq_none hmin hmax _⟩
  · intro run hrun
    obtain ⟨g, _, rfl⟩ := List.mem_map.mp hrun
    exact List.cons_ne_nil _ _
  · rw [Becomes.totalSize_eq hbecomes, hflatten]

/-- A constant on a line of its own. -/
def constantAt (line : Int) (name : String) : Chunk where
  id := name
  kind := .exportDecl
  name := name
  qualifiedName := name
  filePath := "a.ts"
  range := ⟨⟨line, 0⟩, ⟨line, 9⟩⟩
  startLine := line
  endLine := line
  hash := ""

/-- Two constants, each charged for a line, become one chunk. -/
theorem grouping_of_constants :
    (∀ chunk ∈ [constantAt 1 "a", constantAt 2 "b"], 0 ≤ chunk.estimatedSize) ∧
      (mergeSmall {} none [constantAt 1 "a", constantAt 2 "b"]).map (·.estimatedSize) = [8] ∧
      Grouping {} none [constantAt 1 "a", constantAt 2 "b"] :=
  ⟨by decide, by decide, grouping_of_mergeSmall {} none _ (by decide)⟩

end ChunkGraph
