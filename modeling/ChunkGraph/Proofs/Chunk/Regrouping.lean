import ChunkGraph.Proofs.Chunk.Groups
import ChunkGraph.Proofs.Data.Related

/-!
# What an insertion does to groups

Merging goes through the chunks of a file with one chunk open, into which the
next ones may be folded. What happens to a chunk depends on what is open before
it. When chunks are inserted, something else is open behind them, and chunks
that used to begin a group may be folded into the one before, or the other way
round.

The two runs differ only up to the first chunk that begins a group in both: from
there on the same chunk is open in both. So every chunk up to there is folded in
one of the runs, which makes it small and of a kind that need not stand on its
own; and all of them stand under the same parent.

## Main definitions

* `joins`, `openAfter`, `heads` — what is folded, what is open, and the chunks
  that begin a group.
* `Foldable` — a chunk that may be folded.
* `Chunk.MergesLike` — chunks that are the same for merging.

## Main results

* `map_id_mergeSmall` — the chunks that begin a group are those that stay.
* `mem_heads_or_joins` — the beginnings of groups from one open chunk, compared
  with those from another.
* `stays_or_folded` — what an insertion does to the chunks of a file.
-/

namespace ChunkGraph

section Merging

variable (options : Options) (lines : Option (List (List Char)))

/-! ## The beginnings of groups -/

/-- The chunk is folded into what is open before it. -/
def joins (before : Option Chunk) (chunk : Chunk) : Bool := before.any (canMerge options · chunk)

/-- What is open after a chunk. -/
def follow (before : Option Chunk) (chunk : Chunk) : Chunk :=
  if joins options before chunk then (before.map (absorb lines · chunk)).getD chunk else chunk

/-- What is open after a list of chunks. -/
def openAfter (before : Option Chunk) (chunks : List Chunk) : Option Chunk :=
  chunks.foldl (fun before chunk => some (follow options lines before chunk)) before

/-- The chunks that begin a group. -/
def heads : Option Chunk → List Chunk → List Chunk
  | _, [] => []
  | before, chunk :: rest =>
      if joins options before chunk then heads (some (follow options lines before chunk)) rest
      else chunk :: heads (some (follow options lines before chunk)) rest

@[simp] theorem joins_some (previous chunk : Chunk) :
    joins options (some previous) chunk = canMerge options previous chunk := rfl

@[simp] theorem openAfter_cons (before : Option Chunk) (chunk : Chunk) (rest : List Chunk) :
    openAfter options lines before (chunk :: rest) =
      openAfter options lines (some (follow options lines before chunk)) rest := rfl

variable {options} {lines}

theorem follow_of_not_joins {before : Option Chunk} {chunk : Chunk}
    (h : joins options before chunk = false) : follow options lines before chunk = chunk := by
  unfold follow
  rw [h]
  rfl

theorem follow_of_joins {previous chunk : Chunk}
    (h : joins options (some previous) chunk = true) :
    follow options lines (some previous) chunk = absorb lines previous chunk := by
  unfold follow
  rw [h]
  rfl

/-- A chunk that may be folded: it is small, of a kind that need not stand on its own, and stands
under the given parent. -/
structure Foldable (options : Options) (parentId : Option String) (chunk : Chunk) : Prop where
  /-- It need not stand on its own. -/
  mergeable : chunk.isMergeable = true
  /-- It is small. -/
  small : isSmall options chunk = true
  /-- It stands under the parent. -/
  parent : chunk.parentId = parentId

/-- A chunk that is folded into another may be folded, and stands under the parent of that one. -/
theorem foldable_of_joins {before : Option Chunk} {chunk : Chunk}
    (h : joins options before chunk = true) :
    ∃ previous, before = some previous ∧ Foldable options previous.parentId chunk := by
  obtain ⟨previous, hbefore, hmerge⟩ := (Option.any_eq_true _ _).mp h
  obtain ⟨_, hkind, _, hparent, hsmall, _⟩ := canMerge_iff.mp hmerge
  exact ⟨previous, hbefore, hkind, hsmall, hparent⟩

/-- What is open after a chunk stands under the parent of the chunk. -/
theorem parentId_follow (before : Option Chunk) (chunk : Chunk) :
    (follow options lines before chunk).parentId = chunk.parentId := by
  cases h : joins options before chunk with
  | false => rw [follow_of_not_joins h]
  | true =>
      obtain ⟨previous, rfl, hfoldable⟩ := foldable_of_joins h
      rw [follow_of_joins h]
      exact hfoldable.parent.symm

theorem heads_append (before : Option Chunk) (chunks more : List Chunk) :
    heads options lines before (chunks ++ more) =
      heads options lines before chunks ++
        heads options lines (openAfter options lines before chunks) more := by
  induction chunks generalizing before with
  | nil => rfl
  | cons chunk chunks ih =>
      rw [List.cons_append, heads, heads, openAfter_cons]
      cases joins options before chunk with
      | true => exact ih _
      | false => exact congrArg (chunk :: ·) (ih _)

theorem openAfter_append (before : Option Chunk) (chunks more : List Chunk) :
    openAfter options lines before (chunks ++ more) =
      openAfter options lines (openAfter options lines before chunks) more :=
  List.foldl_append

/-- A chunk that begins a group has something open before it into which it is not folded. -/
theorem exists_of_mem_heads {before : Option Chunk} {chunks : List Chunk} {chunk : Chunk}
    (h : chunk ∈ heads options lines before chunks) :
    ∃ run rest, chunks = run ++ chunk :: rest ∧
      joins options (openAfter options lines before run) chunk = false := by
  induction chunks generalizing before with
  | nil => exact absurd h List.not_mem_nil
  | cons next chunks ih =>
      have hrest : chunk ∈ heads options lines (some (follow options lines before next)) chunks →
          ∃ run rest, next :: chunks = run ++ chunk :: rest ∧
            joins options (openAfter options lines before run) chunk = false := by
        intro hlater
        obtain ⟨run, rest, rfl, hjoins⟩ := ih hlater
        exact ⟨next :: run, rest, rfl, hjoins⟩
      rw [heads] at h
      cases hnext : joins options before next with
      | true =>
          rw [hnext] at h
          exact hrest h
      | false =>
          rw [hnext] at h
          rcases List.mem_cons.mp h with rfl | hlater
          · exact ⟨[], chunks, rfl, hnext⟩
          · exact hrest hlater

theorem mem_heads_of_not_joins {before : Option Chunk} {run rest : List Chunk} {chunk : Chunk}
    (h : joins options (openAfter options lines before run) chunk = false) :
    chunk ∈ heads options lines before (run ++ chunk :: rest) := by
  rw [heads_append, heads, h]
  exact List.mem_append_right _ List.mem_cons_self

theorem map_id_mergeFrom (previous : Chunk) (chunks : List Chunk) :
    (mergeFrom options lines previous chunks).map (·.id) =
      previous.id :: (heads options lines (some previous) chunks).map (·.id) := by
  induction chunks generalizing previous with
  | nil => rfl
  | cons chunk chunks ih =>
      rw [mergeFrom, heads, ← joins_some]
      cases h : joins options (some previous) chunk with
      | true =>
          rw [if_pos rfl, if_pos rfl, ih, follow_of_joins h]
          rfl
      | false =>
          rw [if_neg Bool.false_ne_true, if_neg Bool.false_ne_true, List.map_cons, ih,
            follow_of_not_joins h]
          rfl

/-- The chunks that stay after merging are those that begin a group. -/
theorem map_id_mergeSmall (source : Option String) (chunks : List Chunk) :
    (mergeSmall options source chunks).map (·.id) =
      (heads options (source.map fun s => Text.splitLines s.toList) none chunks).map (·.id) := by
  cases chunks with
  | nil => rfl
  | cons first rest => exact map_id_mergeFrom first rest

/-! ## Two chunks open before the same list -/

/-- As long as the two runs differ on a chunk behind, the next one is folded in one of them. -/
theorem joins_head_of_ne {first second : Option Chunk} {run : List Chunk} {chunk : Chunk}
    (h : joins options (openAfter options lines first run) chunk ≠
      joins options (openAfter options lines second run) chunk) :
    ∀ next ∈ (run ++ [chunk]).head?, joins options first next = true ∨
      joins options second next = true := by
  intro next hnext
  by_contra hnone
  rw [not_or, Bool.not_eq_true, Bool.not_eq_true] at hnone
  obtain ⟨hfirst, hsecond⟩ := hnone
  cases run with
  | nil =>
      obtain rfl : chunk = next := Option.some.inj hnext
      exact h (hfirst.trans hsecond.symm)
  | cons other run =>
      obtain rfl : other = next := Option.some.inj hnext
      -- Both runs begin a group here, so the same chunk is open in both from here on.
      rw [openAfter_cons, openAfter_cons, follow_of_not_joins hfirst,
        follow_of_not_joins hsecond] at h
      exact h rfl

/-- The chunks up to one on which two runs differ can be folded, and so can that one. -/
theorem foldable_of_ne {first second : Option Chunk} {run : List Chunk} {chunk : Chunk}
    {parentId : Option String}
    (hparent : ∀ next ∈ (run ++ [chunk]).head?, next.parentId = parentId)
    (h : joins options (openAfter options lines first run) chunk ≠
      joins options (openAfter options lines second run) chunk) :
    ∀ other ∈ run ++ [chunk], Foldable options parentId other := by
  have hjoined : ∀ {before : Option Chunk} {next : Chunk}, next.parentId = parentId →
      joins options before next = true → Foldable options parentId next := by
    intro before next hsame hjoins
    obtain ⟨_, _, hfoldable⟩ := foldable_of_joins hjoins
    exact ⟨hfoldable.mergeable, hfoldable.small, hsame⟩
  induction run generalizing first second with
  | nil =>
      intro other hother
      rw [List.mem_singleton.mp hother]
      rcases joins_head_of_ne h chunk rfl with hjoins | hjoins
      · exact hjoined (hparent chunk rfl) hjoins
      · exact hjoined (hparent chunk rfl) hjoins
  | cons next run ih =>
      have hnext : Foldable options parentId next := by
        rcases joins_head_of_ne h next rfl with hjoins | hjoins
        · exact hjoined (hparent next rfl) hjoins
        · exact hjoined (hparent next rfl) hjoins
      rw [openAfter_cons, openAfter_cons] at h
      -- What is open after the first chunk stands under its parent, in both runs.
      have hbehind : ∀ {before : Option Chunk} {later : Chunk},
          joins options (some (follow options lines before next)) later = true →
            later.parentId = parentId := by
        intro before later hjoins
        obtain ⟨_, hopen, hfoldable⟩ := foldable_of_joins hjoins
        rw [hfoldable.parent, ← Option.some.inj hopen, parentId_follow, hnext.parent]
      have hrest : ∀ later ∈ (run ++ [chunk]).head?, later.parentId = parentId := by
        intro later hlater
        rcases joins_head_of_ne h later hlater with hjoins | hjoins
        · exact hbehind hjoins
        · exact hbehind hjoins
      intro other hother
      rcases List.mem_cons.mp hother with rfl | hother
      · exact hnext
      · exact ih hrest h other hother

/-- A chunk that begins a group behind one open chunk does so behind another as well, or it is
folded there, at the end of a run of chunks that can be folded. -/
theorem mem_heads_or_joins {first : Option Chunk} (second : Option Chunk) {later : List Chunk}
    {chunk : Chunk} {parentId : Option String}
    (hparent : ∀ next ∈ later.head?, next.parentId = parentId)
    (h : chunk ∈ heads options lines first later) :
    chunk ∈ heads options lines second later ∨
      ∃ run rest, later = run ++ chunk :: rest ∧
        (∀ other ∈ run ++ [chunk], Foldable options parentId other) ∧
          joins options (openAfter options lines second run) chunk = true := by
  obtain ⟨run, rest, rfl, hfirst⟩ := exists_of_mem_heads h
  cases hsecond : joins options (openAfter options lines second run) chunk with
  | false => exact Or.inl (mem_heads_of_not_joins hsecond)
  | true =>
      refine Or.inr ⟨run, rest, rfl, ?_, hsecond⟩
      have hne : joins options (openAfter options lines first run) chunk ≠
          joins options (openAfter options lines second run) chunk := by
        rw [hfirst, hsecond]
        exact Bool.false_ne_true
      refine foldable_of_ne (fun next hnext => hparent next ?_) hne
      cases run with
      | nil => exact hnext
      | cons other run => exact hnext

/-! ## Folded chunks and groups -/

variable (options) in
/-- What is in the tail of a group stays there when the group grows. -/
theorem exists_group_of_mem_tail (g : Group) (rest : List Chunk) :
    ∃ grown ∈ groupsFrom options g rest, ∀ chunk ∈ g.tail, chunk ∈ grown.tail := by
  induction rest generalizing g with
  | nil => exact ⟨g, List.mem_singleton_self g, fun _ h => h⟩
  | cons next rest ih =>
      rw [groupsFrom]
      by_cases h : canMerge options g.merged next = true
      · rw [dif_pos h]
        obtain ⟨grown, hgrown, htail⟩ := ih (g.add next (same_place_of_canMerge h))
        exact ⟨grown, hgrown, fun chunk hchunk => htail chunk (List.mem_append_left _ hchunk)⟩
      · rw [dif_neg h]
        exact ⟨g, List.mem_cons_self, fun _ h => h⟩

/-- A chunk that is folded is in the tail of a group. -/
theorem exists_groupsFrom_of_joins (g : Group) {run rest : List Chunk} {chunk : Chunk}
    (h : joins options (openAfter options g.lines (some g.merged) run) chunk = true) :
    ∃ holder ∈ groupsFrom options g (run ++ chunk :: rest), chunk ∈ holder.tail := by
  induction run generalizing g with
  | nil =>
      have hmerge : canMerge options g.merged chunk = true := h
      rw [List.nil_append, groupsFrom, dif_pos hmerge]
      obtain ⟨holder, hholder, htail⟩ := exists_group_of_mem_tail options
        (g.add chunk (same_place_of_canMerge hmerge)) rest
      exact ⟨holder, hholder, htail chunk (List.mem_append_right _ List.mem_cons_self)⟩
  | cons next run ih =>
      rw [List.cons_append, groupsFrom]
      rw [openAfter_cons] at h
      by_cases hmerge : canMerge options g.merged next = true
      · rw [dif_pos hmerge]
        rw [follow_of_joins hmerge, ← Group.merged_add g next (same_place_of_canMerge hmerge)] at h
        exact ih _ h
      · rw [dif_neg hmerge]
        rw [follow_of_not_joins (by simpa using hmerge)] at h
        obtain ⟨holder, hholder, htail⟩ := ih (.single g.lines next) h
        exact ⟨holder, List.mem_cons_of_mem g hholder, htail⟩

theorem exists_group_of_joins {source : Option String} {run rest : List Chunk} {chunk : Chunk}
    (h : joins options (openAfter options (source.map fun s => Text.splitLines s.toList) none run)
      chunk = true) :
    ∃ holder ∈ groups options source (run ++ chunk :: rest), chunk ∈ holder.tail := by
  cases run with
  | nil => exact absurd h Bool.false_ne_true
  | cons first run => exact exists_groupsFrom_of_joins (.single _ first) h

/-! ## Chunks that are the same for merging -/

/-- The chunks have the same identity and are the same for merging. -/
structure Chunk.MergesLike (c c' : Chunk) : Prop where
  /-- Their identity. -/
  id_eq : c.id = c'.id
  /-- Their kind. -/
  kind_eq : c.kind = c'.kind
  /-- Their file. -/
  filePath_eq : c.filePath = c'.filePath
  /-- What holds them. -/
  parentId_eq : c.parentId = c'.parentId
  /-- Their size. -/
  size_eq : c.estimatedSize = c'.estimatedSize

namespace Chunk.MergesLike

variable {previous previous' c c' : Chunk}

theorem isMergeable_eq (h : MergesLike c c') : c.isMergeable = c'.isMergeable := by
  unfold Chunk.isMergeable
  rw [h.kind_eq]

theorem isSmall_eq (h : MergesLike c c') : isSmall options c = isSmall options c' := by
  unfold isSmall
  rw [h.size_eq]

theorem canMerge_eq (hprevious : MergesLike previous previous') (h : MergesLike c c') :
    canMerge options previous c = canMerge options previous' c' := by
  unfold canMerge areNeighbours fitTogether
  rw [hprevious.isMergeable_eq, h.isMergeable_eq, hprevious.filePath_eq, h.filePath_eq,
    hprevious.parentId_eq, h.parentId_eq, h.isSmall_eq, hprevious.size_eq, h.size_eq]

/-- What absorbs is the same afterwards, with both sizes. -/
theorem absorb (hprevious : MergesLike previous previous') (h : MergesLike c c')
    (lines lines' : Option (List (List Char))) :
    MergesLike (ChunkGraph.absorb lines previous c) (ChunkGraph.absorb lines' previous' c') where
  id_eq := hprevious.id_eq
  kind_eq := hprevious.kind_eq
  filePath_eq := hprevious.filePath_eq
  parentId_eq := hprevious.parentId_eq
  size_eq := by
    show previous.estimatedSize + c.estimatedSize = previous'.estimatedSize + c'.estimatedSize
    rw [hprevious.size_eq, h.size_eq]

end Chunk.MergesLike

variable {before before' : Option Chunk} {lines' : Option (List (List Char))}

variable (options) in
theorem joins_eq (hbefore : Option.Rel Chunk.MergesLike before before') {c c' : Chunk}
    (h : Chunk.MergesLike c c') : joins options before c = joins options before' c' := by
  cases hbefore with
  | none => rfl
  | some hopen => exact hopen.canMerge_eq h

variable (options lines lines') in
theorem follow_mergesLike (hbefore : Option.Rel Chunk.MergesLike before before') {c c' : Chunk}
    (h : Chunk.MergesLike c c') :
    Chunk.MergesLike (follow options lines before c) (follow options lines' before' c') := by
  have hjoins := joins_eq options hbefore h
  cases hc : joins options before c with
  | false => rwa [follow_of_not_joins hc, follow_of_not_joins (hjoins.symm.trans hc)]
  | true =>
      cases hbefore with
      | none => exact absurd hc Bool.false_ne_true
      | some hopen =>
          rw [follow_of_joins hc, follow_of_joins (hjoins.symm.trans hc)]
          exact hopen.absorb h lines lines'

/-- Groups begin at the same chunks. -/
theorem rel_heads (hbefore : Option.Rel Chunk.MergesLike before before')
    {chunks chunks' : List Chunk} (h : List.Forall₂ Chunk.MergesLike chunks chunks') :
    List.Forall₂ Chunk.MergesLike (heads options lines before chunks)
      (heads options lines' before' chunks') := by
  induction h generalizing before before' with
  | nil => exact .nil
  | @cons c c' _ _ hc _ ih =>
      rw [heads, heads, joins_eq options hbefore hc]
      have hrest := ih (.some (follow_mergesLike options lines lines' hbefore hc))
      split
      · exact hrest
      · exact .cons hc hrest

variable (options lines lines') in
theorem rel_openAfter (hbefore : Option.Rel Chunk.MergesLike before before')
    {chunks chunks' : List Chunk} (h : List.Forall₂ Chunk.MergesLike chunks chunks') :
    Option.Rel Chunk.MergesLike (openAfter options lines before chunks)
      (openAfter options lines' before' chunks') := by
  induction h generalizing before before' with
  | nil => exact hbefore
  | cons hc _ ih => exact ih (.some (follow_mergesLike options lines lines' hbefore hc))

end Merging

/-! ## An insertion -/

/-- The chunks that stay have the identities of those that begin a group. -/
theorem exists_head_of_mem {options : Options} {source : Option String} {chunks : List Chunk}
    {c : Chunk} (h : c ∈ mergeSmall options source chunks) :
    ∃ first ∈ heads options (source.map fun s => Text.splitLines s.toList) none chunks,
      first.id = c.id := by
  have hid : c.id ∈ (mergeSmall options source chunks).map (·.id) := List.mem_map_of_mem h
  rw [map_id_mergeSmall] at hid
  exact List.mem_map.mp hid

theorem exists_of_mem_head {options : Options} {source : Option String} {chunks : List Chunk}
    {first : Chunk}
    (h : first ∈ heads options (source.map fun s => Text.splitLines s.toList) none chunks) :
    ∃ c ∈ mergeSmall options source chunks, c.id = first.id := by
  have hid := List.mem_map_of_mem (f := fun c : Chunk => c.id) h
  rw [← map_id_mergeSmall] at hid
  exact List.mem_map.mp hid

/-- A chunk of a file is still there after an insertion; or it is folded into another one, and then
it ends a run of chunks that can be folded, which begins behind the insertion. -/
theorem stays_or_folded {options : Options} {source : Option String} (source' : Option String)
    {earlier earlier' : List Chunk} (added : List Chunk) {later later' : List Chunk}
    {parentId : Option String}
    (hearlier : List.Forall₂ Chunk.MergesLike earlier earlier')
    (hlater : List.Forall₂ Chunk.MergesLike later later')
    (hparent : ∀ next ∈ later'.head?, next.parentId = parentId) {c : Chunk}
    (hc : c ∈ mergeSmall options source (earlier ++ later)) :
    (∃ c' ∈ mergeSmall options source' (earlier' ++ added ++ later'), c'.id = c.id) ∨
      ∃ run folded rest, later' = run ++ folded :: rest ∧ folded.id = c.id ∧
        (∀ other ∈ run ++ [folded], Foldable options parentId other) ∧
        ∃ holder ∈ groups options source' (earlier' ++ added ++ later'), folded ∈ holder.tail := by
  obtain ⟨first, hfirst, hid⟩ := exists_head_of_mem hc
  rw [heads_append] at hfirst
  rcases List.mem_append.mp hfirst with hfirst | hfirst
  · obtain ⟨first', hfirst', hlike⟩ := rel_mem (rel_heads .none hearlier) hfirst
    have hmem : first' ∈ heads options (source'.map fun s => Text.splitLines s.toList) none
        (earlier' ++ added ++ later') := by
      rw [heads_append, heads_append]
      exact List.mem_append_left _ (List.mem_append_left _ hfirst')
    obtain ⟨c', hc', hid'⟩ := exists_of_mem_head hmem
    exact Or.inl ⟨c', hc', hid'.trans (hlike.id_eq.symm.trans hid)⟩
  · have hopen := rel_openAfter options (source.map fun s => Text.splitLines s.toList)
      (source'.map fun s => Text.splitLines s.toList) .none hearlier
    obtain ⟨first', hfirst', hlike⟩ := rel_mem (rel_heads hopen hlater) hfirst
    rcases mem_heads_or_joins (openAfter options
        (source'.map fun s => Text.splitLines s.toList) none (earlier' ++ added)) hparent hfirst'
      with hstays | ⟨run, rest, hsplit, hfoldable, hjoins⟩
    · have hmem : first' ∈ heads options (source'.map fun s => Text.splitLines s.toList) none
          (earlier' ++ added ++ later') := by
        rw [heads_append]
        exact List.mem_append_right _ hstays
      obtain ⟨c', hc', hid'⟩ := exists_of_mem_head hmem
      exact Or.inl ⟨c', hc', hid'.trans (hlike.id_eq.symm.trans hid)⟩
    · refine Or.inr ⟨run, first', rest, hsplit, hlike.id_eq.symm.trans hid, hfoldable, ?_⟩
      rw [← openAfter_append] at hjoins
      rw [hsplit, ← List.append_assoc]
      exact exists_group_of_joins hjoins

end ChunkGraph
