import ChunkGraph.Proofs.Chunker.Session
import ChunkGraph.Proofs.Excerpt.Settled
import ChunkGraph.Proofs.Graph.FileOrder
import ChunkGraph.Service.Basic
import Mathlib.Data.List.Pairwise

/-!
# The order of requests does not show in an excerpt

Two runs that are asked for the same lines read the same files in different
orders. The corpora that they build up differ in the order of their files, in
the spelling under which a file is listed first, and in what the cutter has kept
meanwhile. Stage by stage they have tried the same paths, and that decides the
rest: their graphs have the same edges, the same identities are reached, and the
next round tries the same files.

What could tell the runs apart are the limits, because they cut off what comes
last. So a run is taken to be free of them: what it has marked as failed cannot
be read, and at its end there are no new files. Nothing is assumed of a run that
fails.

## Main definitions

* `Reordered` — the same requests in another order, with their ranges in another
  order.
* `Unlimited` — no limit has been hit.
* `FilesApart` — chunks of different files have different identities.
* `Excerpt.Alike` — two excerpts with the same chunks and edges.

## Main results

* `Paired.round` — one round from stages that have tried the same.
* `Paired.runs` — any number of them.
* `ComesTo.exists_alike` — if one run comes to an end, so does the other, with
  the same files.
* `exists_alike_excerpt` — if one run makes an excerpt, the other makes one that
  is alike.
* `extract_reordered` — two runs of services on reordered requests.
-/

namespace ChunkGraph

open Relation

variable {σ : Type} {read : Reader} {cut : Cutter σ}
  {answer : String → String → Except Failure (List Chunk)} {kept : σ → Prop}

/-! ## Graphs of settled corpora -/

namespace Graph.Alike

variable {graph other : Graph}

/-- An edge of one graph is an edge of the other. -/
theorem leads_eq (h : graph.Alike other) : graph.Leads = other.Leads := by
  funext source target
  exact propext (h.targets source).mem_iff

/-- The same identities are reached from the same roots. -/
theorem mem_closure_iff (h : graph.Alike other) {roots others : List String}
    (hroots : ∀ id, id ∈ roots ↔ id ∈ others) (id : String) :
    id ∈ closure graph roots ↔ id ∈ closure other others := by
  rw [ChunkGraph.mem_closure_iff, ChunkGraph.mem_closure_iff, h.leads_eq]
  simp only [hroots]

end Graph.Alike

/-- A graph can be built of the same chunks in any order, or not. -/
theorem Builder.buildFault?_eq_none_iff (b : Builder) (chunks : List Chunk) :
    b.buildFault? chunks = none ↔ ∀ chunk ∈ chunks, ∀ d ∈ chunk.dependencies,
      d.kind ≠ .reference → b.fault? chunk.filePath d.source = none := by
  unfold buildFault?
  simp only [List.findSome?_eq_none_iff, List.mem_filter, and_imp, bne_iff_ne]

namespace Corpus

/-- Of the files of a corpus, those that share identities are the same file. -/
def Apart (corpus : Corpus σ) : Prop :=
  ∀ file ∈ corpus.files, ∀ other ∈ corpus.files, ApartUnlessAlike file.2 other.2

section SameFiles

variable {corpus other : Corpus σ} (h : corpus.files.Perm other.files)
include h

theorem chunks_perm : corpus.chunks.Perm other.chunks := h.flatMap_right _

theorem alike_build (hapart : corpus.Apart) (b : Builder) :
    (b.build corpus.chunks).Alike (b.build other.chunks) := by
  have hpairs : (corpus.files.map (·.2)).Pairwise ApartUnlessAlike :=
    List.pairwise_map.mpr (List.pairwise_of_forall_mem_list hapart)
  exact b.alike_build_of_perm (h.map (·.2)) hpairs

theorem lastOf_eq (hapart : corpus.Apart) (id : String) :
    lastOf corpus.chunks id = lastOf other.chunks id := by
  have hpairs : (corpus.files.map (·.2)).Pairwise ApartUnlessAlike :=
    List.pairwise_map.mpr (List.pairwise_of_forall_mem_list hapart)
  exact lastOf_flatten_perm (h.map (·.2)) hpairs id

/-- An identity has the same chunk in both, apart from the spelling of its path. -/
theorem exists_byId? (hapart : corpus.Apart) {id : String} {chunk : Chunk}
    (hchunk : Excerpt.byId? corpus.chunks id = some chunk) :
    ∃ found, Excerpt.byId? other.chunks id = some found ∧ found.unspelled = chunk.unspelled := by
  have hlast : (Excerpt.byId? corpus.chunks id).map Chunk.unspelled =
      (Excerpt.byId? other.chunks id).map Chunk.unspelled := lastOf_eq h hapart id
  rw [hchunk] at hlast
  exact Option.map_eq_some_iff.mp hlast.symm

end SameFiles

end Corpus

namespace Excerpt

/-! ## Stages that have tried the same -/

/-- Two stages of different runs: both corpora are settled and have tried the same paths, and the
same identities are reached. -/
structure Paired (read : Reader) (answer : String → String → Except Failure (List Chunk))
    (kept : σ → Prop) (s t : Stage σ) : Prop where
  /-- The corpus of the first run is settled. -/
  settled : s.corpus.Settled read answer kept
  /-- So is the other one. -/
  settled_other : t.corpus.Settled read answer kept
  /-- The same paths have been tried. -/
  tried : ∀ path, path ∈ s.corpus.tried ↔ path ∈ t.corpus.tried
  /-- The same identities are reached. -/
  reached : ∀ id, id ∈ s.reached.ids ↔ id ∈ t.reached.ids

/-- What is reached from the same roots in corpora with the same files. -/
theorem exists_reach {resolver : Resolver} {corpus other : Corpus σ} {ids others : List String}
    {reached : Reached} (hfiles : corpus.files.Perm other.files) (hapart : corpus.Apart)
    (hids : ∀ id, id ∈ ids ↔ id ∈ others) (h : reach resolver corpus ids = .ok reached) :
    ∃ found, reach resolver other others = .ok found ∧
      ∀ id, id ∈ reached.ids ↔ id ∈ found.ids := by
  obtain ⟨hfault, hgraph, hreached⟩ := Discovery.reach_eq_ok_iff.mp h
  have hfault' : Builder.buildFault? resolver other.chunks = none := by
    rw [Builder.buildFault?_eq_none_iff] at hfault ⊢
    exact fun chunk hchunk => hfault chunk ((Corpus.chunks_perm hfiles).mem_iff.mpr hchunk)
  let graph := Builder.build resolver other.chunks
  refine ⟨⟨graph, closure graph others⟩, Discovery.reach_eq_ok_iff.mpr ⟨hfault', rfl, rfl⟩, ?_⟩
  intro id
  rw [hreached, hgraph]
  exact (Corpus.alike_build hfiles hapart resolver).mem_closure_iff hids id

namespace Discovery

variable {w : Discovery σ}

theorem nodup_found (w : Discovery σ) (s : Stage σ) : (w.found s).Nodup :=
  nodup_foldl_addId _ [] List.nodup_nil

theorem not_mem_tried_of_mem_found (w : Discovery σ) (s : Stage σ) :
    ∀ path ∈ w.found s, path ∉ s.corpus.tried :=
  fun path hpath => ((mem_found_iff s path).mp hpath).1

/-- A corpus stays settled in a round that gives up nothing that could be read. -/
theorem Round.settled (hsteady : Steady w.read w.cut answer kept) {s t : Stage σ}
    (h : w.Round s t) (hs : s.corpus.Settled w.read answer kept)
    (hfailed : ∀ path ∈ t.corpus.failed, ∃ failure, w.read path = .error failure) :
    t.corpus.Settled w.read answer kept :=
  settled_tryFiles hsteady hs (w.nodup_found s) (w.not_mem_tried_of_mem_found s) h.tried hfailed

/-- So it does in any number of rounds. -/
theorem Runs.settled (hsteady : Steady w.read w.cut answer kept) {k : Nat} {s t : Stage σ}
    (h : w.Runs k s t) (hs : s.corpus.Settled w.read answer kept)
    (hfailed : ∀ path ∈ t.corpus.failed, ∃ failure, w.read path = .error failure) :
    t.corpus.Settled w.read answer kept := by
  induction h with
  | none s => exact hs
  | round hruns hround ih =>
      have hgrown := partOf_tryFiles hround.tried
      exact hround.settled hsteady (ih hs fun path hpath =>
        hfailed path (hgrown.failed path hpath)) hfailed

/-- The corpus with which a run has ended is settled, its files are apart, and from `low` files on
there was room for all of them. -/
structure Ended (w : Discovery σ) (answer : String → String → Except Failure (List Chunk))
    (kept : σ → Prop) (low : Nat) (final : Corpus σ) : Prop where
  /-- The corpus is settled. -/
  settled : final.Settled w.read answer kept
  /-- Its files are apart. -/
  apart : final.Apart
  /-- The limit was not reached. -/
  room : ∀ m, low ≤ m → m < final.keys.length → w.maxFiles.reachedBy (.ofNat m) = false

/-- The files of a settled corpus that is a part of it are apart. -/
theorem Ended.apart_of_partOf {low : Nat} {final corpus : Corpus σ}
    (h : w.Ended answer kept low final) (hc : corpus.Settled w.read answer kept)
    (hpart : corpus.PartOf final) : corpus.Apart := by
  have hfiles : ∀ file ∈ corpus.files, file ∈ final.files := by
    rintro ⟨key, chunks⟩ hfile
    have hkey : key ∈ final.keys := hpart.keys key (Corpus.mem_keys_iff.mpr ⟨chunks, hfile⟩)
    exact (h.settled.mem_files_iff key chunks).mpr
      ⟨List.mem_append_left _ hkey, hc.yields _ hfile⟩
  exact fun file hfile other hother =>
    h.apart file (hfiles file hfile) other (hfiles other hother)

/-- The loop does the rounds that lead to a stage, and goes on from there. -/
theorem Runs.rounds_eq {k : Nat} {s t : Stage σ} (h : w.Runs k s t) (more : Nat) :
    rounds w.resolver w.read w.cut w.maxFiles w.selectedIds (k + more) s.corpus s.reached =
      rounds w.resolver w.read w.cut w.maxFiles w.selectedIds more t.corpus t.reached := by
  induction h generalizing more with
  | none s => rw [Nat.zero_add]
  | @round k s t u _ hround ih =>
      calc rounds w.resolver w.read w.cut w.maxFiles w.selectedIds (k + 1 + more) s.corpus s.reached
        _ = rounds w.resolver w.read w.cut w.maxFiles w.selectedIds (k + (more + 1)) s.corpus
              s.reached := by rw [Nat.add_right_comm, Nat.add_assoc]
        _ = rounds w.resolver w.read w.cut w.maxFiles w.selectedIds (more + 1) t.corpus
              t.reached := ih (more + 1)
        _ = rounds w.resolver w.read w.cut w.maxFiles w.selectedIds more u.corpus u.reached :=
              rounds_of_round more hround

/-- A stage without new files that is reached before the rounds run out is where the loop ends. -/
theorem Runs.rounds_eq_ok {k n : Nat} {s t : Stage σ} (h : w.Runs k s t) (hk : k ≤ n)
    (hfound : w.found t = []) :
    rounds w.resolver w.read w.cut w.maxFiles w.selectedIds n s.corpus s.reached =
      (.ok t.reached, t.corpus) := by
  obtain ⟨more, rfl⟩ := Nat.exists_eq_add_of_le hk
  rw [h.rounds_eq more]
  cases more with
  | zero => rfl
  | succ more => exact rounds_of_found_eq_nil more hfound

end Discovery

namespace Paired

variable {w : Discovery σ} {others : List String} {s t : Stage σ}

theorem files_perm (h : Paired read answer kept s t) : s.corpus.files.Perm t.corpus.files :=
  h.settled.files_perm h.settled_other h.tried

theorem symm (h : Paired read answer kept s t) : Paired read answer kept t s :=
  ⟨h.settled_other, h.settled, fun path => (h.tried path).symm, fun id => (h.reached id).symm⟩

theorem apart (h : Paired read answer kept s t) (hapart : s.corpus.Apart) : t.corpus.Apart := by
  intro file hfile other hother
  exact hapart file (h.files_perm.mem_iff.mpr hfile) other (h.files_perm.mem_iff.mpr hother)

/-- A file that the next round tries in one run is tried in the other. -/
theorem mem_found (h : Paired read answer kept s t) (hapart : s.corpus.Apart)
    {ids others : List String} (hids : ∀ id ∈ ids, id ∈ others) {path : String}
    (hpath : path ∈ { w with selectedIds := ids }.found s) :
    path ∈ { w with selectedIds := others }.found t := by
  rw [Discovery.mem_found_iff] at hpath ⊢
  obtain ⟨hnew, id, hid, chunk, hchunk, d, hd, hkind, hresolve⟩ := hpath
  obtain ⟨found, hfound, hsame⟩ := Corpus.exists_byId? h.files_perm hapart hchunk
  have hknown : id ∈ others ++ t.reached.ids := by
    rcases List.mem_append.mp hid with hselected | hreached
    · exact List.mem_append_left _ (hids id hselected)
    · exact List.mem_append_right _ ((h.reached id).mp hreached)
  have hdependencies : found.dependencies = chunk.dependencies :=
    Chunk.eq_of_unspelled_eq (·.dependencies) (fun _ => rfl) hsame
  have hpath : w.resolver.resolve? found.filePath d.source = some path := by
    rw [w.resolver.resolve?_congr (Chunk.normalize_eq_of_unspelled_eq hsame) d.source]
    exact hresolve
  exact ⟨fun htried => hnew ((h.tried path).mpr htried), id, hknown, found, hfound, d,
    hdependencies ▸ hd, hkind, hpath⟩

/-- The next round tries the same files in both runs. -/
theorem mem_found_iff (h : Paired read answer kept s t) (hapart : s.corpus.Apart)
    (hids : ∀ id, id ∈ w.selectedIds ↔ id ∈ others) (path : String) :
    path ∈ w.found s ↔ path ∈ { w with selectedIds := others }.found t :=
  ⟨fun hpath => h.mem_found hapart (fun id => (hids id).mp) hpath,
    fun hpath => h.symm.mem_found (h.apart hapart) (fun id => (hids id).mpr) hpath⟩

/-- A round of one run, from a stage that the other run has a partner of, has a partner too. -/
theorem round (hsteady : Steady w.read w.cut answer kept) {low : Nat} {final : Corpus σ}
    (hended : w.Ended answer kept low final) (h : Paired w.read answer kept s t)
    (hids : ∀ id, id ∈ w.selectedIds ↔ id ∈ others) (hlow : low ≤ s.corpus.files.length)
    {next : Stage σ} (hround : w.Round s next) (hpart : next.corpus.PartOf final) :
    ∃ after, { w with selectedIds := others }.Round t after ∧
      Paired w.read answer kept next after := by
  have hgrown : s.corpus.PartOf next.corpus := partOf_tryFiles hround.tried
  have hnext : next.corpus.Settled w.read answer kept :=
    hround.settled hsteady h.settled fun path hpath =>
      hended.settled.unreadable path (hpart.failed path hpath)
  have hfound := h.mem_found_iff (w := w) (hended.apart_of_partOf h.settled (hgrown.trans hpart))
    hids
  -- What the other run tries has been tried by this one, with the same outcome.
  have hpaths : ∀ path ∈ { w with selectedIds := others }.found t,
      (∃ failure, w.read path = .error failure) ∨
        path ∈ final.keys ∧ ∃ chunks, Yields w.read answer path chunks := by
    intro path hpath
    have htried : path ∈ next.corpus.tried :=
      (hround.mem_tried_iff path).mpr (Or.inr ((hfound path).mpr hpath))
    rcases List.mem_append.mp htried with hkey | hfailed
    · obtain ⟨chunks, hfile⟩ := Corpus.mem_keys_iff.mp hkey
      exact Or.inr ⟨hpart.keys path hkey, chunks, hnext.yields _ hfile⟩
    · exact Or.inl (hnext.unreadable path hfailed)
  have hfits : t.corpus.Fits low final.keys := by
    have hkeys := h.files_perm.map (·.1)
    refine ⟨?_, fun key hkey => hpart.keys key (hgrown.keys key (hkeys.mem_iff.mpr hkey))⟩
    rw [← h.files_perm.length_eq]
    exact hlow
  obtain ⟨corpus, htry, hcorpus⟩ := exists_tryFiles hsteady
    (fault?_of_tryFiles hround.found_ne_nil hround.tried) hended.room (Discovery.nodup_found _ t)
    hpaths h.settled_other hfits (Discovery.not_mem_tried_of_mem_found _ t)
  have htried (path : String) : path ∈ next.corpus.tried ↔ path ∈ corpus.tried := by
    rw [hround.mem_tried_iff, mem_tried_tryFiles htry, h.tried, hfound]
  have hfiles : next.corpus.files.Perm corpus.files := hnext.files_perm hcorpus htried
  obtain ⟨reached, hreach, hreached⟩ := exists_reach hfiles
    (hended.apart_of_partOf hnext hpart) hids hround.reach
  have hne : { w with selectedIds := others }.found t ≠ [] := by
    obtain ⟨path, hpath⟩ := List.exists_mem_of_ne_nil _ hround.found_ne_nil
    exact List.ne_nil_of_mem ((hfound path).mp hpath)
  exact ⟨⟨corpus, reached⟩, ⟨hne, htry, hreach⟩, hnext, hcorpus, htried, hreached⟩

/-- Every stage of one run has a partner in the other. -/
theorem runs (hsteady : Steady w.read w.cut answer kept) {low : Nat} {final : Corpus σ}
    (hended : w.Ended answer kept low final) (h : Paired w.read answer kept s t)
    (hids : ∀ id, id ∈ w.selectedIds ↔ id ∈ others) (hlow : low ≤ s.corpus.files.length)
    {k : Nat} {last : Stage σ} (hruns : w.Runs k s last) (hpart : last.corpus.PartOf final) :
    ∃ after, { w with selectedIds := others }.Runs k t after ∧
      Paired w.read answer kept last after := by
  induction hruns with
  | none s => exact ⟨t, .none t, h⟩
  | @round k s before last hruns hround ih =>
      have hgrown : before.corpus.PartOf last.corpus := partOf_tryFiles hround.tried
      obtain ⟨between, hrunsBetween, hbetween⟩ := ih h hlow (hgrown.trans hpart)
      have hlowBetween : low ≤ before.corpus.files.length :=
        hlow.trans (hruns.partOf.length_files_le h.settled.nodup)
      obtain ⟨after, hafter, hpaired⟩ := hbetween.round hsteady hended hids hlowBetween hround hpart
      exact ⟨after, hrunsBetween.round hafter, hpaired⟩

end Paired

/-! ## What is asked for -/

/-- The same requests in another order, and the ranges of each in another order. -/
def Reordered (requests others : List RangeRequest) : Prop :=
  ∃ between,
    List.Forall₂ (fun r o => r.filePath = o.filePath ∧ r.ranges.Perm o.ranges) requests between ∧
      between.Perm others

/-- The same files are asked for, and the same ranges of each. -/
structure AskAlike (requests others : List RangeRequest) : Prop where
  /-- The same files. -/
  paths : ∀ path, (∃ r ∈ requests, r.filePath = path) ↔ ∃ r ∈ others, r.filePath = path
  /-- The same ranges. -/
  ranges : ∀ path range, (∃ r ∈ requests, r.filePath = path ∧ range ∈ r.ranges) ↔
    ∃ r ∈ others, r.filePath = path ∧ range ∈ r.ranges

theorem AskAlike.symm {requests others : List RangeRequest} (h : AskAlike requests others) :
    AskAlike others requests :=
  ⟨fun path => (h.paths path).symm, fun path range => (h.ranges path range).symm⟩

theorem AskAlike.normal {requests others : List RangeRequest} (h : AskAlike requests others)
    (hnormal : ∀ r ∈ requests, Path.normalize r.filePath = r.filePath) :
    ∀ o ∈ others, Path.normalize o.filePath = o.filePath := by
  intro o ho
  obtain ⟨r, hr, hpath⟩ := (h.paths o.filePath).mpr ⟨o, ho, rfl⟩
  rw [← hpath]
  exact hnormal r hr

theorem Reordered.askAlike {requests others : List RangeRequest} (h : Reordered requests others) :
    AskAlike requests others := by
  obtain ⟨between, hranges, horder⟩ := h
  have hexists (p : RangeRequest → Prop) (hp : ∀ r o : RangeRequest,
      r.filePath = o.filePath → r.ranges.Perm o.ranges → (p r ↔ p o)) :
      (∃ r ∈ requests, p r) ↔ ∃ r ∈ others, p r := by
    have hbetween : (∃ r ∈ requests, p r) ↔ ∃ r ∈ between, p r := by
      clear horder
      induction hranges with
      | nil => exact Iff.rfl
      | cons hsame _ ih =>
          simp only [List.mem_cons, exists_eq_or_imp, ih, hp _ _ hsame.1 hsame.2]
    simp only [hbetween, horder.mem_iff]
  refine ⟨fun path => hexists _ fun r o hpath _ => by rw [hpath], fun path range => ?_⟩
  exact hexists _ fun r o hpath hperm => by rw [hpath, hperm.mem_iff]

/-- In corpora with the same files the same identities are selected. -/
theorem AskAlike.mem_select {requests others : List RangeRequest} (h : AskAlike requests others)
    (hnormal : ∀ r ∈ requests, Path.normalize r.filePath = r.filePath)
    (hother : ∀ r ∈ others, Path.normalize r.filePath = r.filePath)
    {files found : List (String × List Chunk)} (hfiles : ∀ key, files.lookup key = found.lookup key)
    {id : String} (hid : id ∈ (select files requests).map (·.id)) :
    id ∈ (select found others).map (·.id) := by
  rw [mem_select_iff] at hid ⊢
  obtain ⟨r, hr, range, hrange, chunks, hchunks, hlines⟩ := hid
  obtain ⟨o, ho, hpath, hrange'⟩ := (h.ranges r.filePath range).mp ⟨r, hr, rfl, hrange⟩
  refine ⟨o, ho, range, hrange', chunks, ?_, hlines⟩
  rw [hother o ho, hpath, ← hfiles, ← hnormal r hr]
  exact hchunks

/-! ## Two runs -/

/-- Two excerpts with the same chunks, by identity, and the same edges. -/
structure Alike (e other : Excerpt) : Prop where
  /-- The same chunks are selected. -/
  selected : (e.selected.map (·.id)).Perm (other.selected.map (·.id))
  /-- The same chunks are dependent. -/
  dependent : (e.dependent.map (·.id)).Perm (other.dependent.map (·.id))
  /-- The graphs have the same edges. -/
  graph : e.graph.Alike other.graph

/-- Excerpts that select the same and have the same edges are alike. -/
theorem HoldsSelectionAndReachable.alike {resolver : Resolver}
    {requests others : List RangeRequest} {start final start' final' : Corpus σ}
    {e other : Excerpt} (he : HoldsSelectionAndReachable resolver requests start final e)
    (hother : HoldsSelectionAndReachable resolver others start' final' other)
    (hselected : ∀ id, id ∈ e.selected.map (·.id) ↔ id ∈ other.selected.map (·.id))
    (hgraph : e.graph.Alike other.graph) : e.Alike other := by
  have hdependentNodup {resolver : Resolver} {requests : List RangeRequest}
      {start final : Corpus σ} {e : Excerpt}
      (h : HoldsSelectionAndReachable resolver requests start final e) :
      (e.dependent.map (·.id)).Nodup := by
    have hall := h.all_nodup
    rw [h.all_eq, List.map_append] at hall
    exact hall.of_append_right
  refine ⟨?_, ?_, hgraph⟩
  · rw [List.perm_ext_iff_of_nodup he.selected_nodup hother.selected_nodup]
    exact hselected
  · rw [List.perm_ext_iff_of_nodup (hdependentNodup he) (hdependentNodup hother)]
    intro id
    have hroots (e : Excerpt) (graph : Graph) :
        (∃ chunk ∈ e.selected, TransGen graph.Leads chunk.id id) ↔
          ∃ root ∈ e.selected.map (·.id), TransGen graph.Leads root id := by
      simp only [List.mem_map, exists_exists_and_eq_and]
    rw [he.mem_dependent, hother.mem_dependent, hselected, hroots, hroots, hgraph.leads_eq]
    simp only [hselected]

section Runs

variable (resolver : Resolver) (limits : Limits) (read : Reader) (cut : Cutter σ)
  (requests : List RangeRequest) (state : σ)

/-- No limit has been hit when a run comes to the end of discovery: what it has given up cannot be
read, and the rounds have ended because there are no new files. -/
structure Unlimited : Prop where
  /-- No file was one too many. -/
  unreadable : ∀ start final reached,
    ComesTo resolver limits read cut requests state start final reached →
      ∀ path ∈ final.failed, ∃ failure, read path = .error failure
  /-- No round is missing. -/
  complete : ∀ start final reached,
    ComesTo resolver limits read cut requests state start final reached →
      newFiles resolver final ((select start.files requests).map (·.id) ++ reached.ids) = []

/-- When a run comes to the end of discovery, chunks of different files have different identities,
unless both are the same file under two spellings. -/
def FilesApart : Prop :=
  ∀ start final reached, ComesTo resolver limits read cut requests state start final reached →
    final.Apart

variable {resolver limits read cut requests state} {start final : Corpus σ} {reached : Reached}

/-- The end of discovery is a stage that some rounds lead to from the requested files. -/
theorem ComesTo.exists_runs
    (h : ComesTo resolver limits read cut requests state start final reached) :
    ∃ first n k,
      reach resolver start ((select start.files requests).map (·.id)) = .ok first ∧
        limits.maxRounds.count = .ok n ∧ k ≤ n ∧
        (discovery resolver limits read cut requests start).Runs k ⟨start, first⟩
          ⟨final, reached⟩ := by
  obtain ⟨first, n, k, hfirst, hn, hruns, hend⟩ := Discovery.follow_eq_ok
    (w := discovery resolver limits read cut requests start) rfl h.followed
  refine ⟨first, n, k, hfirst, hn, ?_, hruns⟩
  rcases hend with ⟨hlt, -⟩ | rfl
  · exact Nat.le_of_lt hlt
  · exact Nat.le_refl k

/-- A stage without new files that some rounds lead to is the end of discovery. -/
theorem comesTo_of_runs (hstart : requested read cut requests { state } = (none, start))
    {first : Reached} {n k : Nat}
    (hfirst : reach resolver start ((select start.files requests).map (·.id)) = .ok first)
    (hn : limits.maxRounds.count = .ok n) (hk : k ≤ n)
    (hruns : (discovery resolver limits read cut requests start).Runs k ⟨start, first⟩
      ⟨final, reached⟩)
    (hfound : (discovery resolver limits read cut requests start).found ⟨final, reached⟩ = []) :
    ComesTo resolver limits read cut requests state start final reached := by
  refine ⟨hstart, ?_⟩
  rw [follow, Discovery.begin_eq_ok_iff.mpr ⟨hfirst, hn⟩]
  exact hruns.rounds_eq_ok hk hfound

/-- What an excerpt holds that was collected at the end of discovery. -/
theorem ComesTo.holds (h : ComesTo resolver limits read cut requests state start final reached)
    {e : Excerpt} (he : collect limits final (select start.files requests) reached = .ok e) :
    HoldsSelectionAndReachable resolver requests start final e := by
  obtain ⟨hselected, hdependent, hgraph, -⟩ := collect_eq_ok he
  obtain ⟨first, n, k, hfirst, -, -, hruns⟩ := h.exists_runs
  refine holds_of_reach hselected (hselected ▸ hdependent) hgraph ?_
  rw [hselected]
  exact hruns.reach hfirst

end Runs

section TwoRuns

variable {resolver : Resolver} {limits : Limits} {requests others : List RangeRequest}
  {state state' : σ}
  (hnormal : ∀ r ∈ requests, Path.normalize r.filePath = r.filePath)
  (hask : AskAlike requests others)
include hnormal hask

/-- If the files of some requests can be read and cut, so can those of the others, and they are the
same files. -/
theorem exists_requested_alike (hsteady : Steady read cut answer kept) (hkept : kept state)
    (hkept' : kept state') {start : Corpus σ}
    (h : requested read cut requests { state } = (none, start)) :
    ∃ found, requested read cut others { state := state' } = (none, found) ∧
      start.Settled read answer kept ∧ found.Settled read answer kept ∧
        ∀ path, path ∈ start.tried ↔ path ∈ found.tried := by
  have hother := hask.normal hnormal
  have hstart := settled_requested hsteady hnormal (.empty hkept) h
  have hyields : ∀ o ∈ others, ∃ chunks, Yields read answer o.filePath chunks := by
    intro o ho
    obtain ⟨r, hr, hpath⟩ := (hask.paths o.filePath).mpr ⟨o, ho, rfl⟩
    obtain ⟨chunks, hchunks⟩ := lookup_of_requested h hr
    rw [hnormal r hr, hpath] at hchunks
    exact ⟨chunks, hstart.yields _ (Keyed.mem_of_lookup hchunks)⟩
  obtain ⟨found, hfound⟩ := exists_requested hsteady hother hyields (.empty hkept')
  refine ⟨found, hfound, hstart, settled_requested hsteady hother (.empty hkept') hfound, ?_⟩
  intro path
  rw [mem_tried_requested hnormal h, mem_tried_requested hother hfound]
  exact hask.paths path

/-- The same identities are selected. -/
theorem mem_ids_select_iff {start found : Corpus σ} (hfiles : start.files.Perm found.files)
    (hstart : start.Settled read answer kept) (hfound : found.Settled read answer kept)
    (id : String) :
    id ∈ (select start.files requests).map (·.id) ↔
      id ∈ (select found.files others).map (·.id) := by
  have hother := hask.normal hnormal
  have hlookup (key : String) : start.files.lookup key = found.files.lookup key := by
    ext chunks
    rw [← Keyed.mem_iff_lookup hstart.nodup, ← Keyed.mem_iff_lookup hfound.nodup]
    exact hfiles.mem_iff
  exact ⟨hask.mem_select hnormal hother hlookup,
    hask.symm.mem_select hother hnormal fun key => (hlookup key).symm⟩

/-- If a run comes to an end without hitting a limit, then a run that is asked for the same comes to
an end with the same files. -/
theorem ComesTo.exists_alike (hsteady : Steady read cut answer kept) (hkept : kept state)
    (hkept' : kept state') {start final : Corpus σ} {reached : Reached}
    (h : ComesTo resolver limits read cut requests state start final reached)
    (hunlimited : Unlimited resolver limits read cut requests state) (hapart : final.Apart) :
    ∃ start' final' reached',
      ComesTo resolver limits read cut others state' start' final' reached' ∧
        final.files.Perm final'.files ∧
        ∀ id, id ∈ (select start.files requests).map (·.id) ↔
          id ∈ (select start'.files others).map (·.id) := by
  let w := discovery resolver limits read cut requests start
  obtain ⟨first, n, k, hfirst, hn, hk, hruns⟩ := h.exists_runs
  obtain ⟨start', hstart', hsettled, hsettled', htried⟩ :=
    exists_requested_alike hnormal hask hsteady hkept hkept' h.requested
  have hended : w.Ended answer kept start.files.length final := by
    refine ⟨hruns.settled hsteady hsettled (hunlimited.unreadable start final reached h), hapart,
      fun m hlow hm => ?_⟩
    rw [Corpus.keys, List.length_map] at hm
    exact hruns.room m hlow hm
  have hfiles : start.files.Perm start'.files := hsettled.files_perm hsettled' htried
  have hids := mem_ids_select_iff hnormal hask hfiles hsettled hsettled'
  obtain ⟨first', hfirst', hreached⟩ := exists_reach hfiles
    (hended.apart_of_partOf hsettled hruns.partOf) hids hfirst
  have hpairedStart : Paired read answer kept ⟨start, first⟩ ⟨start', first'⟩ :=
    ⟨hsettled, hsettled', htried, hreached⟩
  obtain ⟨⟨final', reached'⟩, hruns', hpaired⟩ :=
    hpairedStart.runs (w := w) hsteady hended hids (Nat.le_refl _) hruns (.refl final)
  -- The other run has nothing left to discover either.
  have hfound : (discovery resolver limits read cut others start').found ⟨final', reached'⟩ =
      [] := by
    rw [List.eq_nil_iff_forall_not_mem]
    intro path hpath
    have hmem : path ∈ w.found ⟨final, reached⟩ :=
      (hpaired.mem_found_iff (w := w) hapart hids path).mpr hpath
    have hnone : w.found ⟨final, reached⟩ = [] := hunlimited.complete start final reached h
    rw [hnone] at hmem
    exact List.not_mem_nil hmem
  exact ⟨start', final', reached', comesTo_of_runs hstart' hfirst' hn hk hruns' hfound,
    hpaired.files_perm, hids⟩

/-- If a run that hits no limit makes an excerpt, then a run that is asked for the same makes one
that is alike. -/
theorem exists_alike_excerpt (hsteady : Steady read cut answer kept) (hkept : kept state)
    (hkept' : kept state') (hgap : limits.maxGap.isNumber = true)
    (hunlimited : Unlimited resolver limits read cut requests state)
    (hapart : FilesApart resolver limits read cut requests state) {e : Excerpt} {after : σ}
    (h : extract resolver limits read cut requests state = (.ok e, after)) :
    ∃ other after', extract resolver limits read cut others state' = (.ok other, after') ∧
      e.Alike other := by
  obtain ⟨start, final, reached, hcomes, hcollect⟩ := exists_comesTo h
  have hfinal : final.Apart := hapart start final reached hcomes
  obtain ⟨start', final', reached', hcomes', hfiles, hids⟩ :=
    hcomes.exists_alike hnormal hask hsteady hkept hkept' hunlimited hfinal
  obtain ⟨other, hother⟩ := exists_collect hgap final' (select start'.files others) reached'
  have he := hcomes.holds hcollect
  have ho := hcomes'.holds hother
  have hextract : extract resolver limits read cut others state' = (.ok other, final'.state) := by
    rw [hcomes'.extract_eq, hother]
  refine ⟨other, final'.state, hextract, he.alike ho ?_ ?_⟩
  · rw [(collect_eq_ok hcollect).1, (collect_eq_ok hother).1]
    exact hids
  · rw [he.graph_eq, ho.graph_eq]
    exact Corpus.alike_build hfiles hfinal resolver

end TwoRuns

/-! ## Excerpts that a service makes -/

/-- A service whose chunker differs from a new one in what it keeps only is a steady cutter. -/
theorem steady_cut (parser : Syntax.Parser) (new : Chunker) {used : String → String → Prop}
    (hlifetime : new.trees.lifetime.isNumber = true)
    (hhash : ∀ path a b, used path a → used path b → contentHash a = contentHash b → a = b)
    (hread : ∀ path source, read path = .ok source → used path source) :
    Steady read (Service.cutText parser none)
      (fun source path => match new.pool.releaseFault? with
        | some failure => .error failure
        | none => new.chunksOf (new.frontEndOf path) (new.treeOf parser source path) source path
            new.options)
      fun s => Chunker.Like parser used new s.chunker := by
  have huses {path source : String} (hsource : read path = .ok source) (usedPath code : String)
      (h : (Chunker.Call.chunk source path none).Uses usedPath code) : used usedPath code := by
    obtain ⟨rfl, hcode⟩ := h
    obtain rfl := Syntax.SourceText.chars.inj hcode
    exact hread _ _ hsource
  have hcall {path source : String} {s : Service} (hsource : read path = .ok source)
      (hs : Chunker.Like parser used new s.chunker) :=
    Chunker.Call.run_sound hs hlifetime hhash s.now (.chunk source path none) (huses hsource)
  exact ⟨fun path source s hsource hs => Chunker.Answer.chunks.inj (hcall hsource hs).1,
    fun path source s hsource hs => (hcall hsource hs).2⟩

/-- Two runs that are asked for the same files and ranges in different orders, and hit no limit,
both fail, or both make an excerpt, and these select the same chunks, depend on the same chunks and
have the same edges. The services that cut the files may have been used before in different ways:
each has a chunker that differs from a new one in what it keeps only. -/
theorem extract_reordered (parser : Syntax.Parser) (resolver : Resolver) (limits : Limits)
    (read : Reader) (requests others : List RangeRequest) (new : Chunker) (s t : Service)
    (used : String → String → Prop) (hgap : limits.maxGap.isNumber = true)
    (hlifetime : new.trees.lifetime.isNumber = true)
    (hhash : ∀ path a b, used path a → used path b → contentHash a = contentHash b → a = b)
    (hread : ∀ path source, read path = .ok source → used path source)
    (hs : Chunker.Like parser used new s.chunker) (ht : Chunker.Like parser used new t.chunker)
    (hnormal : ∀ r ∈ requests, Path.normalize r.filePath = r.filePath)
    (horder : Reordered requests others)
    (hfirst : Unlimited resolver limits read (Service.cutText parser none) requests s)
    (hsecond : Unlimited resolver limits read (Service.cutText parser none) others t)
    (hapart : FilesApart resolver limits read (Service.cutText parser none) requests s)
    (hapart' : FilesApart resolver limits read (Service.cutText parser none) others t) :
    (∃ failure failure',
        (extract resolver limits read (Service.cutText parser none) requests s).1 = .error failure ∧
        (extract resolver limits read (Service.cutText parser none) others t).1 = .error failure') ∨
      ∃ e other,
        (extract resolver limits read (Service.cutText parser none) requests s).1 = .ok e ∧
        (extract resolver limits read (Service.cutText parser none) others t).1 = .ok other ∧
        e.Alike other := by
  have hsteady := steady_cut parser new hlifetime hhash hread
  have hask := horder.askAlike
  have hother := hask.normal hnormal
  cases hrun : extract resolver limits read (Service.cutText parser none) requests s with
  | mk result after =>
      cases hrun' : extract resolver limits read (Service.cutText parser none) others t with
      | mk result' after' =>
          cases result with
          | ok e =>
              obtain ⟨other, last, heq, halike⟩ := exists_alike_excerpt hnormal hask
                hsteady hs ht hgap hfirst hapart hrun
              exact Or.inr ⟨e, other, rfl, congrArg Prod.fst (hrun'.symm.trans heq), halike⟩
          | error failure =>
              cases result' with
              | error failure' => exact Or.inl ⟨failure, failure', rfl, rfl⟩
              | ok other =>
                  obtain ⟨e, last, heq, -⟩ := exists_alike_excerpt hother hask.symm
                    hsteady ht hs hgap hsecond hapart' hrun'
                  exact absurd (congrArg Prod.fst (hrun.symm.trans heq)) (by simp)

/-! ## Three modules -/

/-- Two modules that import the third, and the third imports the first. -/
def readModules : Reader := fun path =>
  if path == "a.ts" then .ok "import h from './c';export function f() {}"
  else if path == "b.ts" then .ok "import h from './c';export function g() {}"
  else if path == "c.ts" then .ok "import f from './a';export function h() {}"
  else .error (.fileNotFound path)

/-- The parser finds an import and an exported function in each of them. -/
def importAndFunction : Syntax.Parser := fun _ text =>
  some (.mk "program" true "" 0 text.utf8ByteSize
    [.mk "import_statement" true "" 0 20
      [.mk "import_clause" true "" 7 8 [.mk "identifier" true "" 7 8 []],
        .mk "string" true "source" 14 19 []],
    .mk "export_statement" true "" 20 text.utf8ByteSize
      [.mk "function_declaration" true "declaration" 27 text.utf8ByteSize
        [.mk "identifier" true "name" 36 37 []]]])

/-- Specifiers lead to the modules. -/
def moduleResolver : Resolver := { fileExists := fun path => (readModules path).toOption.isSome }

/-- Lines of two of the modules. -/
def moduleRequests : List RangeRequest := [⟨"a.ts", [⟨1, 1⟩, ⟨2, 3⟩]⟩, ⟨"b.ts", [⟨1, 1⟩]⟩]

/-- The same lines, asked for the other way round. -/
def reversedRequests : List RangeRequest := [⟨"b.ts", [⟨1, 1⟩]⟩, ⟨"a.ts", [⟨2, 3⟩, ⟨1, 1⟩]⟩]

/-- A service with nothing kept. -/
def newService : Service := { settings := .standard, chunker := {} }

/-- The service after it has cut the third module. -/
def usedService : Service :=
  (Service.cutText importAndFunction none "import f from './a';export function h() {}" "c.ts"
    newService).2

/-- How discovery ends among the modules: what has failed, the identities of each file, and the
files that are new. -/
def moduleEnd (requests : List RangeRequest) (s : Service) :
    List String × List (List String) × List String :=
  let cut : Cutter Service := Service.cutText importAndFunction none
  let start := (requested readModules cut requests { state := s }).2
  let ids := (select start.files requests).map (·.id)
  match follow moduleResolver {} readModules cut ids start with
  | (.ok reached, final) =>
      (final.failed, final.files.map fun file => file.2.map (·.id),
        newFiles moduleResolver final (ids ++ reached.ids))
  | (.error _, final) => (final.failed, [], [])

/-- Where nothing has failed, no file is new and all identities differ, no limit has been hit. -/
theorem unlimited_of_moduleEnd {requests : List RangeRequest} {s : Service}
    (hfailed : (moduleEnd requests s).1 = []) (hids : (moduleEnd requests s).2.1.flatten.Nodup)
    (hfound : (moduleEnd requests s).2.2 = []) :
    Unlimited moduleResolver {} readModules (Service.cutText importAndFunction none) requests s ∧
      FilesApart moduleResolver {} readModules (Service.cutText importAndFunction none) requests
        s := by
  have hend {start final : Corpus Service} {reached : Reached}
      (h : ComesTo moduleResolver {} readModules (Service.cutText importAndFunction none) requests s
        start final reached) : moduleEnd requests s =
          (final.failed, final.files.map fun file => file.2.map (·.id),
            newFiles moduleResolver final
              ((select start.files requests).map (·.id) ++ reached.ids)) := by
    simp only [moduleEnd, h.requested, h.followed]
  refine ⟨⟨?_, ?_⟩, ?_⟩
  · intro start final reached h path hpath
    rw [hend h] at hfailed
    rw [show final.failed = [] from hfailed] at hpath
    exact absurd hpath List.not_mem_nil
  · intro start final reached h
    rw [hend h] at hfound
    exact hfound
  · intro start final reached h
    rw [hend h, List.nodup_flatten] at hids
    have hpairs : final.files.Pairwise fun file other => ApartUnlessAlike file.2 other.2 := by
      refine (List.pairwise_map.mp hids.2).imp fun hdisjoint x hx y hy hid => ?_
      exact (hdisjoint (List.mem_map_of_mem hx) (hid ▸ List.mem_map_of_mem hy)).elim
    have hsymm : Std.Symm fun file other : String × List Chunk =>
        ApartUnlessAlike file.2 other.2 := ⟨fun _ _ h => h.symm⟩
    intro file hfile other hother
    exact hpairs.forall_of_forall (fun _ _ _ _ _ _ _ => rfl) hfile hother

theorem like_newService :
    Chunker.Like importAndFunction (readModules · = .ok ·) {} newService.chunker :=
  Chunker.like_self_of_empty rfl rfl

/-- Having cut a file does not show. -/
theorem like_usedService :
    Chunker.Like importAndFunction (readModules · = .ok ·) {} usedService.chunker := by
  have hsteady : Steady readModules (Service.cutText importAndFunction none) _ _ :=
    steady_cut importAndFunction {} rfl
      (fun _ _ _ ha hb _ => Except.ok.inj (ha.symm.trans hb)) fun _ _ h => h
  have hread : readModules "c.ts" = .ok "import f from './a';export function h() {}" := by
    simp [readModules]
  exact hsteady.keeps "c.ts" _ newService hread like_newService

/-- The names of the chunks in the excerpt of some requests. -/
def moduleNames (requests : List RangeRequest) (s : Service) : Option (List String × List String) :=
  (extract moduleResolver {} readModules (Service.cutText importAndFunction none) requests
    s).1.toOption.map fun e => (e.selected.map (·.name), e.dependent.map (·.name))

theorem moduleEnd_moduleRequests : (moduleEnd moduleRequests newService).1 = [] ∧
    (moduleEnd moduleRequests newService).2.1.flatten.Nodup ∧
    (moduleEnd moduleRequests newService).2.2 = [] := by
  decide +kernel

theorem moduleEnd_reversedRequests : (moduleEnd reversedRequests usedService).1 = [] ∧
    (moduleEnd reversedRequests usedService).2.1.flatten.Nodup ∧
    (moduleEnd reversedRequests usedService).2.2 = [] := by
  decide +kernel

theorem moduleNames_moduleRequests :
    moduleNames moduleRequests newService = some (["f", "g"], ["h"]) := by
  decide +kernel

theorem extract_reordered_modules :
    Reordered moduleRequests reversedRequests ∧
      ∃ e other,
        (extract moduleResolver {} readModules (Service.cutText importAndFunction none)
          moduleRequests newService).1 = .ok e ∧
        (extract moduleResolver {} readModules (Service.cutText importAndFunction none)
          reversedRequests usedService).1 = .ok other ∧
        e.Alike other ∧
        e.selected.map (·.name) = ["f", "g"] ∧ e.dependent.map (·.name) = ["h"] := by
  have horder : Reordered moduleRequests reversedRequests :=
    ⟨[⟨"a.ts", [⟨2, 3⟩, ⟨1, 1⟩]⟩, ⟨"b.ts", [⟨1, 1⟩]⟩],
      .cons ⟨rfl, .swap _ _ _⟩ (.cons ⟨rfl, .refl _⟩ .nil), .swap _ _ _⟩
  have hnormal : ∀ r ∈ moduleRequests, Path.normalize r.filePath = r.filePath := by
    decide
  have hend := moduleEnd_moduleRequests
  have hend' := moduleEnd_reversedRequests
  have hnames := moduleNames_moduleRequests
  obtain ⟨hfirst, hapart⟩ := unlimited_of_moduleEnd hend.1 hend.2.1 hend.2.2
  obtain ⟨hsecond, hapart'⟩ := unlimited_of_moduleEnd hend'.1 hend'.2.1 hend'.2.2
  have halike := extract_reordered importAndFunction moduleResolver {} readModules moduleRequests
    reversedRequests {} newService usedService (readModules · = .ok ·) rfl rfl
    (fun _ _ _ ha hb _ => Except.ok.inj (ha.symm.trans hb)) (fun _ _ h => h) like_newService
    like_usedService hnormal horder hfirst hsecond hapart hapart'
  rcases halike with ⟨failure, failure', herror, -⟩ | ⟨e, other, he, hother, halike⟩
  · rw [moduleNames, herror] at hnames
    exact absurd hnames (by simp [Except.toOption])
  · rw [moduleNames, he] at hnames
    obtain ⟨hselected, hdependent⟩ := Prod.mk.inj (Option.some.inj hnames)
    exact ⟨horder, e, other, he, hother, halike, hselected, hdependent⟩

end Excerpt

end ChunkGraph
