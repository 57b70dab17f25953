import ChunkGraph.Proofs.Excerpt.Rounds
import ChunkGraph.Proofs.Graph.Targets

/-!
# An excerpt is the selection and what it reaches

The graph of an excerpt is that of the corpus with which discovery has ended,
and the identities that were reached are those of its closure. Every edge leads
to the identity of a chunk of that corpus, so no reached identity is lost when
identities are turned into chunks. The targets of a selected chunk are reached
as well, hence nothing is left for the completion within the file.

## Main definitions

* `ComesTo`, `end?` — the end of discovery, and how it is computed.

## Main results

* `nodup_select`, `mem_select_iff` — the selection, by identities.
* `ids_closureChunks` — the closure has a chunk for each of its identities.
* `sameFile_closureChunks` — the completion within the file adds nothing.
* `exists_comesTo` — every excerpt is collected from an end of discovery.
* `holds_of_reach` — what is collected from a corpus holds what it has to.
* `extract_is_selection_and_reachable` — the excerpt is exactly the selection
  and what one or more edges lead to from it.
-/

namespace ChunkGraph.Excerpt

open Relation

variable {σ : Type}

/-! ## Adding chunks -/

theorem mem_ids_addChunk (chunks : List Chunk) (chunk : Chunk) (id : String) :
    id ∈ (addChunk chunks chunk).map (·.id) ↔ id ∈ chunks.map (·.id) ∨ id = chunk.id := by
  unfold addChunk
  split
  · rename_i h
    have hmem : chunk.id ∈ chunks.map (·.id) := by simpa [List.any_eq_true] using h
    constructor
    · exact fun h => Or.inl h
    · rintro (h | rfl)
      · exact h
      · exact hmem
  · simp

theorem nodup_addChunk (chunks : List Chunk) (chunk : Chunk) (h : (chunks.map (·.id)).Nodup) :
    ((addChunk chunks chunk).map (·.id)).Nodup := by
  unfold addChunk
  split
  · exact h
  · rename_i hnew
    have hmem : chunk.id ∉ chunks.map (·.id) := by simpa [List.any_eq_true] using hnew
    rw [List.map_append, List.nodup_append]
    refine ⟨h, by simp, ?_⟩
    intro a ha b hb hab
    rw [List.map_singleton, List.mem_singleton] at hb
    exact hmem (hb ▸ hab ▸ ha)

theorem mem_ids_foldl_addChunk (more chunks : List Chunk) (id : String) :
    id ∈ (more.foldl addChunk chunks).map (·.id) ↔
      id ∈ chunks.map (·.id) ∨ id ∈ more.map (·.id) := by
  induction more generalizing chunks with
  | nil => simp
  | cons chunk more ih =>
      rw [List.foldl_cons, ih, mem_ids_addChunk, List.map_cons, List.mem_cons, or_assoc]

theorem nodup_foldl_addChunk (more chunks : List Chunk) (h : (chunks.map (·.id)).Nodup) :
    ((more.foldl addChunk chunks).map (·.id)).Nodup := by
  induction more generalizing chunks with
  | nil => exact h
  | cons chunk more ih => exact ih (addChunk chunks chunk) (nodup_addChunk chunks chunk h)

/-! ## The selection -/

theorem overlaps_eq_true_iff (range : LineRange) (chunk : Chunk) :
    range.overlaps chunk = true ↔
      range.start ≤ range.stop ∧ range.start ≤ chunk.endLine ∧ chunk.startLine ≤ range.stop := by
  simp [LineRange.overlaps, and_assoc]

/-- No two selected chunks share an identity. -/
theorem nodup_select (files : List (String × List Chunk)) (requests : List RangeRequest) :
    ((select files requests).map (·.id)).Nodup :=
  nodup_foldl_addChunk _ [] List.nodup_nil

/-- Selected are the identities of the chunks that have lines in a range requested for their
file. -/
theorem mem_select_iff (files : List (String × List Chunk)) (requests : List RangeRequest)
    (id : String) :
    id ∈ (select files requests).map (·.id) ↔
      ∃ request ∈ requests, ∃ range ∈ request.ranges, ∃ chunks,
        files.lookup (Path.normalize request.filePath) = some chunks ∧
          ∃ chunk ∈ chunks, chunk.id = id ∧ range.start ≤ range.stop ∧
            range.start ≤ chunk.endLine ∧ chunk.startLine ≤ range.stop := by
  rw [select, mem_ids_foldl_addChunk]
  simp only [List.map_nil, List.not_mem_nil, false_or, List.mem_map, List.mem_flatMap,
    List.mem_filter, overlaps_eq_true_iff]
  constructor
  · rintro ⟨chunk, ⟨request, hrequest, range, hrange, hchunk, hlines⟩, rfl⟩
    refine ⟨request, hrequest, range, hrange, ?_⟩
    cases hfile : files.lookup (Path.normalize request.filePath) with
    | none =>
        rw [hfile] at hchunk
        exact absurd hchunk List.not_mem_nil
    | some chunks =>
        rw [hfile] at hchunk
        exact ⟨chunks, rfl, chunk, hchunk, rfl, hlines⟩
  · rintro ⟨request, hrequest, range, hrange, chunks, hfile, chunk, hchunk, rfl, hlines⟩
    refine ⟨chunk, ⟨request, hrequest, range, hrange, ?_, hlines⟩, rfl⟩
    rw [hfile]
    exact hchunk

/-! ## What is reached -/

/-- The chunks that the closure in a graph adds to the selected ones. -/
def closureChunks (graph : Graph) (chunks selected : List Chunk) : List Chunk :=
  ((closure graph (selected.map (·.id))).filter (!(selected.map (·.id)).contains ·)).filterMap
    (byId? chunks)

theorem byId?_eq_some_of_mem {chunks : List Chunk} {id : String}
    (h : ∃ chunk ∈ chunks, chunk.id = id) :
    ∃ chunk, byId? chunks id = some chunk ∧ chunk.id = id := by
  cases hfind : byId? chunks id with
  | none =>
      obtain ⟨chunk, hmem, hid⟩ := h
      have hno := List.find?_eq_none.mp hfind chunk (List.mem_reverse.mpr hmem)
      exact absurd hid (by simpa using hno)
  | some chunk => exact ⟨chunk, rfl, by simpa using List.find?_some hfind⟩

theorem map_id_filterMap_byId? {chunks : List Chunk} {ids : List String}
    (h : ∀ id ∈ ids, ∃ chunk ∈ chunks, chunk.id = id) :
    (ids.filterMap (byId? chunks)).map (·.id) = ids := by
  induction ids with
  | nil => rfl
  | cons id ids ih =>
      obtain ⟨chunk, hfind, hid⟩ := byId?_eq_some_of_mem (h id List.mem_cons_self)
      have hrest := ih fun other hother => h other (List.mem_cons_of_mem id hother)
      rw [List.filterMap_cons_some hfind, List.map_cons, hid, hrest]

/-- Every identity that the closure adds has a chunk. -/
theorem ids_closureChunks (resolver : Resolver) (chunks selected : List Chunk) :
    (closureChunks (Builder.build resolver chunks) chunks selected).map (·.id) =
      (closure (Builder.build resolver chunks) (selected.map (·.id))).filter
        (!(selected.map (·.id)).contains ·) := by
  apply map_id_filterMap_byId?
  intro id hid
  obtain ⟨root, _, hpath⟩ := (mem_closure_iff _ _ id).mp (List.mem_filter.mp hid).1
  obtain ⟨last, _, hlead⟩ := TransGen.tail'_iff.mp hpath
  exact Builder.exists_chunk_of_leads resolver chunks hlead

theorem mem_closureChunks_iff (resolver : Resolver) (chunks selected : List Chunk) (id : String) :
    id ∈ (closureChunks (Builder.build resolver chunks) chunks selected).map (·.id) ↔
      (∃ chunk ∈ selected, TransGen (Builder.build resolver chunks).Leads chunk.id id) ∧
        id ∉ selected.map (·.id) := by
  have hroots : (∃ root ∈ selected.map (·.id),
      TransGen (Builder.build resolver chunks).Leads root id) ↔
      ∃ chunk ∈ selected, TransGen (Builder.build resolver chunks).Leads chunk.id id := by
    simp only [List.mem_map]
    constructor
    · rintro ⟨_, ⟨chunk, hchunk, rfl⟩, hpath⟩
      exact ⟨chunk, hchunk, hpath⟩
    · rintro ⟨chunk, hchunk, hpath⟩
      exact ⟨chunk.id, ⟨chunk, hchunk, rfl⟩, hpath⟩
  have hcontains : (!(selected.map (·.id)).contains id) = true ↔ id ∉ selected.map (·.id) := by
    rw [Bool.not_eq_true', ← Bool.not_eq_true, List.contains_iff_mem]
  rw [ids_closureChunks, List.mem_filter, mem_closure_iff, hroots, hcontains]

/-- When everything that the selected chunks depend on is there, the completion within the file
finds nothing. -/
theorem sameFile_eq_nil {graph : Graph} {chunks selected dependent : List Chunk}
    (h : ∀ chunk ∈ selected, ∀ id, graph.Leads chunk.id id →
      id ∈ (selected ++ dependent).map (·.id)) :
    sameFile graph chunks selected dependent = [] := by
  have hnone : ∀ chunk ∈ selected, (graph.targets chunk.id).filter
      (!((selected ++ dependent).map (·.id)).contains ·) = [] := by
    intro chunk hchunk
    rw [List.filter_eq_nil_iff]
    intro id hid
    have hthere := List.contains_iff_mem.mpr (h chunk hchunk id hid)
    rw [hthere]
    decide
  have hfound : (selected.flatMap fun chunk =>
      ((graph.targets chunk.id).filter
        (!((selected ++ dependent).map (·.id)).contains ·)).filterMap fun id =>
          (byId? chunks id).filter (·.filePath == chunk.filePath)) = [] := by
    rw [List.flatMap_eq_nil_iff]
    intro chunk hchunk
    rw [hnone chunk hchunk]
    rfl
  simp only [sameFile]
  rw [hfound]
  rfl

/-- What a selected chunk depends on has been selected or reached already. -/
theorem sameFile_closureChunks (resolver : Resolver) (chunks selected : List Chunk) :
    sameFile (Builder.build resolver chunks) chunks selected
      (closureChunks (Builder.build resolver chunks) chunks selected) = [] := by
  apply sameFile_eq_nil
  intro chunk hchunk id hlead
  rw [List.map_append, List.mem_append]
  by_cases hsel : id ∈ selected.map (·.id)
  · exact Or.inl hsel
  · exact Or.inr ((mem_closureChunks_iff resolver chunks selected id).mpr
      ⟨⟨chunk, hchunk, TransGen.single hlead⟩, hsel⟩)

/-- The chunks that the selected ones depend on are those that the closure adds. -/
theorem dependents_eq_closureChunks {resolver : Resolver} {corpus : Corpus σ}
    {selected : List Chunk} {reached : Reached}
    (h : reach resolver corpus (selected.map (·.id)) = .ok reached) :
    dependents corpus selected reached =
      closureChunks (Builder.build resolver corpus.chunks) corpus.chunks selected := by
  obtain ⟨_, hgraph, hids⟩ := Discovery.reach_eq_ok_iff.mp h
  have hfound : (reached.ids.filter (!(selected.map (·.id)).contains ·)).filterMap
      (byId? corpus.chunks) =
      closureChunks (Builder.build resolver corpus.chunks) corpus.chunks selected := by
    rw [hids, hgraph]
    rfl
  unfold dependents
  simp only
  rw [hfound, hgraph, sameFile_closureChunks, List.append_nil]

/-! ## The excerpt -/

/-- What `e` has to hold when the requested files are those of `start` and the files at the end of
discovery are those of `final`. -/
structure HoldsSelectionAndReachable (resolver : Resolver) (requests : List RangeRequest)
    (start final : Corpus σ) (e : Excerpt) : Prop where
  /-- No two selected chunks share an identity. -/
  selected_nodup : (e.selected.map (·.id)).Nodup
  /-- Selected are the chunks of requested files that have lines in a range requested for a path
  of the same normal form. -/
  mem_selected : ∀ id, id ∈ e.selected.map (·.id) ↔
    ∃ request ∈ requests, ∃ range ∈ request.ranges, ∃ chunks,
      start.files.lookup (Path.normalize request.filePath) = some chunks ∧
        ∃ chunk ∈ chunks, chunk.id = id ∧ range.start ≤ range.stop ∧
          range.start ≤ chunk.endLine ∧ chunk.startLine ≤ range.stop
  /-- The graph is that of all files at the end. -/
  graph_eq : e.graph = Builder.build resolver final.chunks
  /-- Dependent is what one or more edges lead to from a selected chunk and what is not selected. -/
  mem_dependent : ∀ id, id ∈ e.dependent.map (·.id) ↔
    (∃ chunk ∈ e.selected, TransGen e.graph.Leads chunk.id id) ∧ id ∉ e.selected.map (·.id)
  /-- The selected chunks come first, then the dependent ones. -/
  all_eq : e.all = e.selected ++ e.dependent
  /-- No two chunks share an identity. -/
  all_nodup : (e.all.map (·.id)).Nodup
  /-- The dependent chunks are those of the closure. -/
  dependent_eq : e.dependent = closureChunks e.graph final.chunks e.selected
  /-- The completion within the file adds nothing to the closure. -/
  sameFile_eq_nil :
    sameFile e.graph final.chunks e.selected (closureChunks e.graph final.chunks e.selected) = []

/-- What an excerpt holds that was collected without a failure. -/
theorem collect_eq_ok {limits : Limits} {corpus : Corpus σ} {selected : List Chunk}
    {reached : Reached} {e : Excerpt} (h : collect limits corpus selected reached = .ok e) :
    e.selected = selected ∧ e.dependent = dependents corpus selected reached ∧
      e.graph = reached.graph ∧
      e.blocks = assembleFiles corpus.sources limits.maxGap e.all := by
  unfold collect at h
  simp only at h
  split at h
  · exact absurd h (by simp)
  · obtain rfl := Except.ok.inj h
    exact ⟨rfl, rfl, rfl, rfl⟩

/-- Where the gap can be compared with, an excerpt is collected from whatever has been reached. -/
theorem exists_collect {limits : Limits} (hgap : limits.maxGap.isNumber = true)
    (corpus : Corpus σ) (selected : List Chunk) (reached : Reached) :
    ∃ e, collect limits corpus selected reached = .ok e := by
  have hfault (chunks : List Chunk) : gapFault? chunks limits.maxGap = none := by
    unfold gapFault?
    split
    · exact Bound.fault?_of_isNumber hgap _ _
    · rfl
  unfold collect
  simp only [hfault]
  split
  · rename_i failure hfound
    rw [List.findSome?_eq_none_iff.mpr fun _ _ => rfl] at hfound
    exact absurd hfound (by simp)
  · exact ⟨_, rfl⟩

/-! ## The end of discovery -/

section End

variable (resolver : Resolver) (limits : Limits) (read : Reader) (cut : Cutter σ)
  (requests : List RangeRequest) (state : σ)

/-- A run comes to the end of discovery: with the corpus of requested files, the corpus at the end,
and what is reached in it. -/
structure ComesTo (start final : Corpus σ) (reached : Reached) : Prop where
  /-- The requested files have been read and cut. -/
  requested : requested read cut requests { state } = (none, start)
  /-- What is reached from the selected chunks has been followed. -/
  followed : follow resolver limits read cut ((select start.files requests).map (·.id)) start =
    (.ok reached, final)

/-- The end of discovery, if the run comes to it. -/
def end? : Option (Corpus σ × Corpus σ × Reached) :=
  match Excerpt.requested read cut requests { state } with
  | (some _, _) => none
  | (none, start) =>
      match follow resolver limits read cut ((select start.files requests).map (·.id)) start with
      | (.error _, _) => none
      | (.ok reached, final) => some (start, final, reached)

variable {resolver limits read cut requests state} {start final : Corpus σ} {reached : Reached}
  {e : Excerpt} {after : σ}

/-- An excerpt is collected from what the run has come to. -/
theorem exists_comesTo (h : extract resolver limits read cut requests state = (.ok e, after)) :
    ∃ start final reached, ComesTo resolver limits read cut requests state start final reached ∧
      collect limits final (select start.files requests) reached = .ok e := by
  unfold extract at h
  split at h
  · exact absurd (Prod.mk.inj h).1 (by simp)
  · rename_i start hstart
    unfold complete at h
    cases hfollow : follow resolver limits read cut ((select start.files requests).map (·.id))
        start with
    | mk result final =>
        simp only [hfollow, Prod.mk.injEq] at h
        cases result with
        | error failure => exact absurd h.1 (by simp [Except.bind])
        | ok reached => exact ⟨start, final, reached, ⟨hstart, hfollow⟩, h.1⟩

theorem ComesTo.extract_eq
    (h : ComesTo resolver limits read cut requests state start final reached) :
    extract resolver limits read cut requests state =
      (collect limits final (select start.files requests) reached, final.state) := by
  simp only [extract, h.requested, complete, h.followed]
  rfl

theorem comesTo_of_end?
    (h : end? resolver limits read cut requests state = some (start, final, reached)) :
    ComesTo resolver limits read cut requests state start final reached := by
  unfold end? at h
  split at h
  · exact absurd h (by simp)
  · rename_i hrequested
    split at h
    · exact absurd h (by simp)
    · rename_i hfollow
      obtain ⟨rfl, rfl, rfl⟩ := Prod.mk.inj (Option.some.inj h)
      exact ⟨hrequested, hfollow⟩

/-- A run that comes to the end of discovery gives an excerpt, if the gap can be compared with. -/
theorem exists_extract_of_end? (hgap : limits.maxGap.isNumber = true)
    (h : end? resolver limits read cut requests state = some (start, final, reached)) :
    ∃ e, extract resolver limits read cut requests state = (.ok e, final.state) ∧
      collect limits final (select start.files requests) reached = .ok e := by
  obtain ⟨e, he⟩ := exists_collect hgap final (select start.files requests) reached
  exact ⟨e, (comesTo_of_end? h).extract_eq.trans (congrArg (·, final.state) he), he⟩

end End

/-- An excerpt that was collected from what is reached holds the selection and what it reaches. -/
theorem holds_of_reach {resolver : Resolver} {requests : List RangeRequest}
    {start final : Corpus σ} {reached : Reached} {e : Excerpt}
    (hselected : e.selected = select start.files requests)
    (hdependent : e.dependent = dependents final e.selected reached)
    (hgraph : e.graph = reached.graph)
    (hreach : reach resolver final (e.selected.map (·.id)) = .ok reached) :
    HoldsSelectionAndReachable resolver requests start final e := by
  have hbuild : e.graph = Builder.build resolver final.chunks :=
    hgraph.trans (Discovery.reach_eq_ok_iff.mp hreach).2.1
  have hclosure : e.dependent = closureChunks e.graph final.chunks e.selected := by
    rw [hbuild, hdependent]
    exact dependents_eq_closureChunks hreach
  have hmem : ∀ id, id ∈ e.dependent.map (·.id) ↔
      (∃ chunk ∈ e.selected, TransGen e.graph.Leads chunk.id id) ∧
        id ∉ e.selected.map (·.id) := by
    intro id
    rw [hclosure, hbuild]
    exact mem_closureChunks_iff resolver final.chunks e.selected id
  have hnodup : (e.selected.map (·.id)).Nodup := by
    rw [hselected]
    exact nodup_select start.files requests
  have hdependentNodup : (e.dependent.map (·.id)).Nodup := by
    rw [hclosure, hbuild, ids_closureChunks]
    exact (nodup_closure _ _).filter _
  exact
    { selected_nodup := hnodup
      mem_selected := by
        rw [hselected]
        exact mem_select_iff start.files requests
      graph_eq := hbuild
      mem_dependent := hmem
      all_eq := rfl
      all_nodup := by
        rw [all, List.map_append, List.nodup_append]
        refine ⟨hnodup, hdependentNodup, ?_⟩
        intro a ha b hb hab
        exact ((hmem b).mp hb).2 (hab ▸ ha)
      dependent_eq := hclosure
      sameFile_eq_nil := by
        rw [hbuild]
        exact sameFile_closureChunks resolver final.chunks e.selected }

/-- Whatever the files, the cutter and the limits, an excerpt holds exactly the chunks of requested
files with lines in a requested range and what edges lead to from them, each identity once. -/
theorem extract_is_selection_and_reachable (resolver : Resolver) (limits : Limits) (read : Reader)
    (cut : Cutter σ) (requests : List RangeRequest) (state after : σ) (e : Excerpt)
    (h : extract resolver limits read cut requests state = (.ok e, after)) :
    ∃ start final : Corpus σ,
      requested read cut requests { state } = (none, start) ∧
        (∀ request ∈ requests, ∃ chunks,
          start.files.lookup (Path.normalize request.filePath) = some chunks ∧
            ∃ first ∈ requests,
              Path.normalize first.filePath = Path.normalize request.filePath ∧
                CutFrom read cut first.filePath chunks) ∧
        HoldsSelectionAndReachable resolver requests start final e := by
  obtain ⟨start, final, reached, hcomes, hcollect⟩ := exists_comesTo h
  obtain ⟨hselected, hdependent, hgraph, _⟩ := collect_eq_ok hcollect
  obtain ⟨first, n, k, hfirst, _, hruns, _⟩ := Discovery.follow_eq_ok
    (w := discovery resolver limits read cut requests start) rfl hcomes.followed
  refine ⟨start, final, hcomes.requested, ?_, ?_⟩
  · intro request hrequest
    obtain ⟨chunks, hchunks⟩ := lookup_of_requested hcomes.requested hrequest
    exact ⟨chunks, hchunks, cutFrom_of_requested hcomes.requested hchunks⟩
  · refine holds_of_reach hselected (hselected ▸ hdependent) hgraph ?_
    rw [hselected]
    exact hruns.reach hfirst

/-! ## Two files that import each other -/

/-- A chunk on one line. -/
def lineChunk (id path : String) (line : Int) (dependencies : List Dependency) : Chunk :=
  { id, kind := .functionDecl, name := id, qualifiedName := id, filePath := path
    range := ⟨⟨line, 0⟩, ⟨line, 0⟩⟩, startLine := line, endLine := line, hash := ""
    dependencies, exported := true }

/-- `f` imports `g` from another file, `g` refers to `h` next to it, and `h` imports `f`. -/
def cutCircle : Cutter Unit := fun _ path _ =>
  if path == "b.ts" then
    (.ok [lineChunk "g" path 1 [{ name := "h", source := "", kind := .reference }],
      lineChunk "h" path 2 [{ name := "f", source := "./a" }]], ())
  else (.ok [lineChunk "f" path 1 [{ name := "g", source := "./b" }]], ())

/-- Imports among the two files. -/
def circleResolver : Resolver :=
  { fileExists := fun path => path == "a.ts" || path == "b.ts" }

/-- One file under two paths of the same normal form. -/
def circleRequests : List RangeRequest := [⟨"./a.ts", [⟨1, 3⟩]⟩, ⟨"a.ts", [⟨1, 1⟩]⟩]

theorem extract_is_selection_and_reachable_circle :
    ∃ e after, extract circleResolver {} (fun _ => .ok "") cutCircle circleRequests () =
        (.ok e, after) ∧ e.selected.map (·.id) = ["f"] ∧ e.dependent.map (·.id) = ["g", "h"] ∧
      ∃ start final : Corpus Unit,
        requested (fun _ => .ok "") cutCircle circleRequests { state := () } = (none, start) ∧
          (∀ request ∈ circleRequests, ∃ chunks,
            start.files.lookup (Path.normalize request.filePath) = some chunks ∧
              ∃ first ∈ circleRequests,
                Path.normalize first.filePath = Path.normalize request.filePath ∧
                  CutFrom (fun _ => .ok "") cutCircle first.filePath chunks) ∧
          HoldsSelectionAndReachable circleResolver circleRequests start final e := by
  have hids : (end? circleResolver {} (fun _ => .ok "") cutCircle circleRequests ()).map
      (fun (start, final, reached) =>
        let selected := select start.files circleRequests
        (selected.map (·.id), (dependents final selected reached).map (·.id))) =
      some (["f"], ["g", "h"]) := by decide +kernel
  obtain ⟨⟨start, final, reached⟩, hend, hids⟩ := Option.map_eq_some_iff.mp hids
  obtain ⟨hselected, hdependent⟩ := Prod.mk.inj hids
  obtain ⟨e, hrun, he⟩ := exists_extract_of_end? rfl hend
  obtain ⟨hselects, hdepends, _, _⟩ := collect_eq_ok he
  exact ⟨e, (), hrun, by rw [hselects, hselected], by rw [hdepends, hdependent],
    extract_is_selection_and_reachable circleResolver {} (fun _ => .ok "") cutCircle
      circleRequests () () e hrun⟩

end ChunkGraph.Excerpt
