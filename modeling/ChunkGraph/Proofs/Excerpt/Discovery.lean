import ChunkGraph.Proofs.Excerpt.Selection
import Mathlib.Data.Finset.Card

/-!
# Discovery reaches a fixpoint

The closure is not monotone: one more file can turn an edge away from a chunk
that was reached before. What grows is the set of paths that have been tried.
A round has files to try only if some of them have not been tried, and all of
them exist, so there are no more rounds than files.

The number of files is bounded at every moment, and not only at the end: a file
that an import leads to is kept only as long as the limit is not reached, and
before that every file has the key of some request.

## Main definitions

* `Moment` — the corpora that occur on the way, in the middle of a round too.
* `Corpus.AccountsForFailed` — why paths have been marked as failed.

## Main results

* `mem_discover`, `Discovery.mem_found_iff` — the files that a round tries.
* `Discovery.Round.tried_ssubset` — a round enlarges what has been tried.
* `Discovery.Runs.add_card_le` — there are no more rounds than existing files.
* `Moment.length_files_le` — the bound on the number of files.
* `discovery_reaches_fixpoint` — progress, the end of the loop, what holds there,
  and the bound.
-/

namespace ChunkGraph

variable {σ : Type}

/-! ## The files that imports lead to -/

/-- A specifier leads to files that exist only. -/
theorem Resolver.fileExists_of_resolve? {r : Resolver} {file specifier path : String}
    (h : r.resolve? file specifier = some path) : r.fileExists path = true := by
  have hprobe : ∀ base, Resolve.probe? r.fileExists r.extensions base = some path →
      r.fileExists path = true := by
    intro base hbase
    exact List.find?_some hbase
  unfold resolve? at h
  split at h
  · exact absurd h (by simp)
  · split at h
    · rename_i hrelative
      rw [Resolve.resolveRelative?, if_pos hrelative] at h
      exact hprobe _ h
    · obtain ⟨aliases, _, haliases⟩ := Option.bind_eq_some_iff.mp h
      obtain ⟨base, _, hbase⟩ := List.exists_of_findSome?_eq_some haliases
      exact hprobe base hbase

/-- Every path that has been marked as failed cannot be read, or the limit is reached. -/
def Corpus.AccountsForFailed (corpus : Corpus σ) (read : Reader) (maxFiles : Bound) : Prop :=
  ∀ path ∈ corpus.failed, (∃ failure, read path = .error failure) ∨
    maxFiles.reachedBy (.ofNat corpus.files.length) = true

/-- There are no more files than any integer that reaches the limit, or than `count`. An integer
limit reaches itself. -/
def Corpus.Within (corpus : Corpus σ) (maxFiles : Bound) (count : Nat) : Prop :=
  ∀ m : Int, maxFiles.reachedBy (.whole m) = true → (corpus.files.length : Int) ≤ max m count

/-- A file that is kept adds at most one to the number of files. -/
theorem Corpus.length_files_keep (corpus : Corpus σ) (key source : String) (chunks : List Chunk)
    (state : σ) :
    corpus.files.length ≤ (corpus.keep key source chunks state).files.length ∧
      (corpus.keep key source chunks state).files.length ≤ corpus.files.length + 1 := by
  have hlength : ∀ c : Corpus σ, c.files.length = c.keys.length := fun c => by
    rw [keys, List.length_map]
  rw [hlength, hlength]
  by_cases h : key ∈ corpus.keys
  · rw [keys_keep_of_mem corpus key source chunks state h]
    omega
  · rw [keys_keep_of_not_mem corpus key source chunks state h, List.length_append,
      List.length_singleton]
    omega

namespace Excerpt

/-- The different keys of requested files. -/
def requestedKeys (requests : List RangeRequest) : Finset String :=
  (requests.map fun request => Path.normalize request.filePath).toFinset

/-- A corpus that occurs on the way: after some of the requests, or in the middle of a round after
some of the files that it tries. -/
inductive Moment (resolver : Resolver) (limits : Limits) (read : Reader) (cut : Cutter σ)
    (requests : List RangeRequest) (state : σ) : Corpus σ → Prop
  | requesting {done : List RangeRequest} {outcome : Option Failure} {corpus : Corpus σ}
      (hdone : done <+: requests)
      (hcorpus : requested read cut done { state } = (outcome, corpus)) :
      Moment resolver limits read cut requests state corpus
  | trying {start : Corpus σ} {first : Reached} {k : Nat} {s : Stage σ} {paths : List String}
      {outcome : Option Failure} {corpus : Corpus σ}
      (hstart : requested read cut requests { state } = (none, start))
      (hruns : (discovery resolver limits read cut requests start).Runs k ⟨start, first⟩ s)
      (hpaths : paths <+: (discovery resolver limits read cut requests start).found s)
      (hcorpus : tryFiles read cut limits.maxFiles paths s.corpus = (outcome, corpus)) :
      Moment resolver limits read cut requests state corpus

theorem mem_discover (resolver : Resolver) (tried : List String) (chunks : List Chunk)
    (path : String) :
    path ∈ discover resolver tried chunks ↔
      path ∉ tried ∧ ∃ chunk ∈ chunks, ∃ d ∈ chunk.dependencies, d.kind ≠ .reference ∧
        resolver.resolve? chunk.filePath d.source = some path := by
  simp only [discover, mem_foldl_addId, List.not_mem_nil, false_or, List.mem_filter,
    List.mem_flatMap, List.mem_filterMap]
  constructor
  · rintro ⟨⟨chunk, hchunk, d, ⟨hd, hkind⟩, hpath⟩, hnew⟩
    refine ⟨by simpa using hnew, chunk, hchunk, d, hd, by simpa using hkind, hpath⟩
  · rintro ⟨hnew, chunk, hchunk, d, hd, hkind, hpath⟩
    exact ⟨⟨chunk, hchunk, d, ⟨hd, by simpa using hkind⟩, hpath⟩, by simpa using hnew⟩

namespace Discovery

variable {w : Discovery σ}

/-- A round tries the files that have not been tried and that an import of the chunk of a known
identity leads to. -/
theorem mem_found_iff (s : Stage σ) (path : String) :
    path ∈ w.found s ↔ path ∉ s.corpus.tried ∧
      ∃ id ∈ w.selectedIds ++ s.reached.ids, ∃ chunk, byId? s.corpus.chunks id = some chunk ∧
        ∃ d ∈ chunk.dependencies, d.kind ≠ .reference ∧
          w.resolver.resolve? chunk.filePath d.source = some path := by
  unfold found newFiles
  rw [mem_discover]
  constructor
  · rintro ⟨hnew, chunk, hchunk, hd⟩
    obtain ⟨id, hid, hbyId⟩ := List.mem_filterMap.mp hchunk
    exact ⟨hnew, id, hid, chunk, hbyId, hd⟩
  · rintro ⟨hnew, id, hid, chunk, hbyId, hd⟩
    exact ⟨hnew, chunk, List.mem_filterMap.mpr ⟨id, hid, hbyId⟩, hd⟩

/-! ## Progress -/

theorem Round.mem_tried_iff {s t : Stage σ} (h : w.Round s t) (path : String) :
    path ∈ t.corpus.tried ↔ path ∈ s.corpus.tried ∨ path ∈ w.found s :=
  mem_tried_tryFiles h.tried path

/-- A round has a file that exists and that has not been tried before. -/
theorem Round.exists_new {s t : Stage σ} (h : w.Round s t) :
    ∃ path, w.resolver.fileExists path = true ∧ path ∉ s.corpus.tried ∧
      path ∈ t.corpus.tried := by
  obtain ⟨path, hpath⟩ := List.exists_mem_of_ne_nil _ h.found_ne_nil
  obtain ⟨hnew, _, _, _, _, _, _, _, hresolve⟩ := (mem_found_iff s path).mp hpath
  exact ⟨path, Resolver.fileExists_of_resolve? hresolve, hnew,
    (h.mem_tried_iff path).mpr (Or.inr hpath)⟩

/-- A round enlarges what has been tried. -/
theorem Round.tried_ssubset {s t : Stage σ} (h : w.Round s t) :
    s.corpus.tried.toFinset ⊂ t.corpus.tried.toFinset := by
  obtain ⟨path, _, hnew, hold⟩ := h.exists_new
  rw [Finset.ssubset_iff_of_subset]
  · exact ⟨path, List.mem_toFinset.mpr hold, fun hmem => hnew (List.mem_toFinset.mp hmem)⟩
  · intro other hother
    rw [List.mem_toFinset] at hother ⊢
    exact (h.mem_tried_iff other).mpr (Or.inl hother)

/-- Every round tries at least one more of the files that exist. -/
theorem Runs.add_card_le {existing : Finset String}
    (hexisting : ∀ path, w.resolver.fileExists path = true → path ∈ existing) {k : Nat}
    {s t : Stage σ} (h : w.Runs k s t) :
    k + (existing.filter (· ∈ s.corpus.tried)).card ≤
      (existing.filter (· ∈ t.corpus.tried)).card := by
  induction h with
  | none s => omega
  | @round k s t u _ hround ih =>
      have hgrows : existing.filter (· ∈ t.corpus.tried) ⊂
          existing.filter (· ∈ u.corpus.tried) := by
        obtain ⟨path, hexists, hnew, hold⟩ := hround.exists_new
        rw [Finset.ssubset_iff_of_subset]
        · refine ⟨path, Finset.mem_filter.mpr ⟨hexisting path hexists, hold⟩, ?_⟩
          intro hmem
          exact hnew (Finset.mem_filter.mp hmem).2
        · intro other hother
          obtain ⟨hother, htried⟩ := Finset.mem_filter.mp hother
          exact Finset.mem_filter.mpr ⟨hother, (hround.mem_tried_iff other).mpr (Or.inl htried)⟩
      have hcard := Finset.card_lt_card hgrows
      omega

/-- There are no more rounds than files that exist. -/
theorem Runs.le_card {existing : Finset String}
    (hexisting : ∀ path, w.resolver.fileExists path = true → path ∈ existing) {k : Nat}
    {s t : Stage σ} (h : w.Runs k s t) : k ≤ existing.card := by
  have hrun := h.add_card_le hexisting
  have hall : (existing.filter (· ∈ t.corpus.tried)).card ≤ existing.card :=
    Finset.card_filter_le existing _
  omega

/-! ## The end of the loop -/

/-- With more rounds than files that exist, the loop ends at a stage without new files or with a
failure in the middle of a round. -/
theorem rounds_of_card_lt {existing : Finset String}
    (hexisting : ∀ path, w.resolver.fileExists path = true → path ∈ existing) {n : Nat}
    (hn : existing.card < n) (s : Stage σ) :
    (∃ k t, k < n ∧ w.Runs k s t ∧ w.found t = [] ∧
        rounds w.resolver w.read w.cut w.maxFiles w.selectedIds n s.corpus s.reached =
          (.ok t.reached, t.corpus)) ∨
      (∃ k t failure corpus, k < n ∧ w.Runs k s t ∧ w.Interrupted t failure corpus ∧
        rounds w.resolver w.read w.cut w.maxFiles w.selectedIds n s.corpus s.reached =
          (.error failure, corpus)) := by
  rcases w.rounds_cases n s with hbreak | ⟨t, hruns, _⟩ | hinterrupted
  · exact Or.inl hbreak
  · have hle := hruns.le_card hexisting
    omega
  · exact Or.inr hinterrupted

/-- What holds at a stage and survives that one file is tried holds after any number of rounds. -/
theorem Runs.corpus_induction (motive : Corpus σ → Prop) {k : Nat} {s t : Stage σ}
    (h : w.Runs k s t) (hstart : motive s.corpus)
    (hstep : ∀ corpus path outcome after, motive corpus →
      tryFile w.read w.cut w.maxFiles path corpus = (outcome, after) → motive after) :
    motive t.corpus := by
  induction h with
  | none s => exact hstart
  | round _ hround ih => exact tryFiles_induction motive hround.tried (ih hstart) hstep

end Discovery

/-! ## Failed paths -/

variable {read : Reader} {cut : Cutter σ}

/-- No path fails while requested files are read. -/
theorem failed_requested {requests : List RangeRequest} {state : σ} {after : Corpus σ}
    {outcome : Option Failure} (h : requested read cut requests { state } = (outcome, after)) :
    after.failed = [] := by
  refine requested_induction (fun c => c.failed = []) h rfl ?_ ?_
  · intro c state hc
    exact hc
  · intro c request _ source chunks state hc _ _ _
    exact hc

theorem accountsForFailed_tryFile {maxFiles : Bound} {path : String} {corpus after : Corpus σ}
    {outcome : Option Failure} (hc : corpus.AccountsForFailed read maxFiles)
    (h : tryFile read cut maxFiles path corpus = (outcome, after)) :
    after.AccountsForFailed read maxFiles := by
  rcases tryFile_cases h with
    ⟨failure, _, hfiles, hfailed⟩ | ⟨_, rfl, hwhy⟩ |
      ⟨_, _, source, chunks, state, _, _, rfl⟩
  · intro other hother
    rw [hfailed] at hother
    rw [hfiles]
    exact hc other hother
  · intro other hother
    rw [Corpus.failed_giveUp, List.mem_cons] at hother
    rw [Corpus.files_giveUp]
    rcases hother with rfl | hother
    · exact hwhy.symm
    · exact hc other hother
  · intro other hother
    rcases hc other hother with hread | hfull
    · exact Or.inl hread
    · have hle := (corpus.length_files_keep path source chunks state).1
      exact Or.inr (Bound.reachedBy_mono (Int.ofNat_le.mpr hle) hfull)

/-! ## The number of files -/

theorem within_tryFile {maxFiles : Bound} {count : Nat} {path : String} {corpus after : Corpus σ}
    {outcome : Option Failure} (hc : corpus.Within maxFiles count)
    (h : tryFile read cut maxFiles path corpus = (outcome, after)) :
    after.Within maxFiles count := by
  rcases tryFile_cases h with
    ⟨failure, _, hfiles, _⟩ | ⟨_, rfl, _⟩ | ⟨_, hroom, source, chunks, state, _, _, rfl⟩
  · intro m hm
    rw [hfiles]
    exact hc m hm
  · exact hc
  · intro m hm
    have hlt : (corpus.files.length : Int) < m := by
      by_contra hle
      have hfull := Bound.reachedBy_mono (Int.not_lt.mp hle) hm
      exact absurd (hfull.symm.trans hroom) (by decide)
    have hle := (corpus.length_files_keep path source chunks state).2
    have hmax : m ≤ max m count := le_max_left m count
    omega

/-- Each requested file has the key of a request, so there are no more of them than keys. -/
theorem length_files_requested_le {requests : List RangeRequest} {state : σ} {after : Corpus σ}
    {outcome : Option Failure} (h : requested read cut requests { state } = (outcome, after)) :
    after.files.length ≤ (requestedKeys requests).card := by
  have hkeys : after.keys.Nodup ∧ ∀ key ∈ after.keys, key ∈ requestedKeys requests := by
    refine requested_induction
      (fun c => c.keys.Nodup ∧ ∀ key ∈ c.keys, key ∈ requestedKeys requests) h ?_ ?_ ?_
    · exact ⟨List.nodup_nil, fun key hkey => absurd hkey List.not_mem_nil⟩
    · intro c state hc
      exact hc
    · intro c request hrequest source chunks state hc hnew _ _
      constructor
      · rw [Corpus.keys_keep_of_not_mem c _ source chunks state hnew, List.nodup_append]
        refine ⟨hc.1, by simp, ?_⟩
        intro a ha b hb hab
        rw [List.mem_singleton] at hb
        exact hnew (hb ▸ hab ▸ ha)
      · intro key hkey
        rcases (Corpus.mem_keys_keep c _ source chunks state key).mp hkey with hold | rfl
        · exact hc.2 key hold
        · exact List.mem_toFinset.mpr (List.mem_map.mpr ⟨request, hrequest, rfl⟩)
  have hsub : after.keys.toFinset ⊆ requestedKeys requests := by
    intro key hkey
    exact hkeys.2 key (List.mem_toFinset.mp hkey)
  have hcard := Finset.card_le_card hsub
  rw [List.toFinset_card_of_nodup hkeys.1, Corpus.keys, List.length_map] at hcard
  exact hcard

/-- Keys of a part of the requests are keys of all of them. -/
theorem card_requestedKeys_le {done requests : List RangeRequest} (h : done <+: requests) :
    (requestedKeys done).card ≤ (requestedKeys requests).card := by
  apply Finset.card_le_card
  intro key hkey
  obtain ⟨request, hrequest, rfl⟩ := List.mem_map.mp (List.mem_toFinset.mp hkey)
  exact List.mem_toFinset.mpr (List.mem_map.mpr ⟨request, h.subset hrequest, rfl⟩)

/-- At every moment there are at most as many files as the limit or the requests say. -/
theorem Moment.within {resolver : Resolver} {limits : Limits} {requests : List RangeRequest}
    {state : σ} {corpus : Corpus σ} (h : Moment resolver limits read cut requests state corpus) :
    corpus.Within limits.maxFiles (requestedKeys requests).card := by
  have hrequested : ∀ {done : List RangeRequest} {outcome : Option Failure} {corpus : Corpus σ},
      done <+: requests → requested read cut done { state } = (outcome, corpus) →
        corpus.Within limits.maxFiles (requestedKeys requests).card := by
    intro done outcome corpus hdone hcorpus m _
    have hle := length_files_requested_le hcorpus
    have hkeys := card_requestedKeys_le hdone
    have hmax := le_max_right m ((requestedKeys requests).card : Int)
    omega
  cases h with
  | requesting hdone hcorpus => exact hrequested hdone hcorpus
  | trying hstart hruns _ hcorpus =>
      refine tryFiles_induction _ hcorpus ?_ fun _ _ _ _ hc h => within_tryFile hc h
      exact hruns.corpus_induction _ (hrequested List.prefix_rfl hstart)
        fun _ _ _ _ hc h => within_tryFile hc h

/-! ## The fixpoint -/

/-- What the rounds `w` of an excerpt have to do from the first stage on. -/
structure ReachesFixpoint (w : Discovery σ) (limits : Limits) (requests : List RangeRequest)
    (state : σ) (first : Stage σ) : Prop where
  /-- Each round adds to the files that have been cut and the paths that have failed. -/
  progress : ∀ k s t, w.Runs k first s → w.Round s t →
    s.corpus.tried.toFinset ⊂ t.corpus.tried.toFinset
  /-- If there are more rounds than files that exist, the rounds do not run out: the excerpt is
  made at a stage without new files, or something fails in the middle of a round. -/
  leaves : ∀ n (existing : Finset String), limits.maxRounds.count = .ok n →
    (∀ path, w.resolver.fileExists path = true → path ∈ existing) → existing.card < n →
    (∃ k t, k < n ∧ w.Runs k first t ∧ w.found t = [] ∧
        extract w.resolver limits w.read w.cut requests state =
          (collect limits t.corpus (select first.corpus.files requests) t.reached,
            t.corpus.state)) ∨
      (∃ k t failure corpus, k < n ∧ w.Runs k first t ∧ w.Interrupted t failure corpus ∧
        extract w.resolver limits w.read w.cut requests state = (.error failure, corpus.state))
  /-- At a stage without new files, an import of the chunk of a selected or reached identity leads
  to a file that has been cut, or to a path that has failed because it cannot be read or because
  the limit is reached. -/
  closed : ∀ k s, w.Runs k first s → w.found s = [] →
    ∀ id ∈ w.selectedIds ++ s.reached.ids, ∀ chunk, byId? s.corpus.chunks id = some chunk →
    ∀ d ∈ chunk.dependencies, d.kind ≠ .reference →
    ∀ path, w.resolver.resolve? chunk.filePath d.source = some path →
      path ∈ s.corpus.keys ∨ path ∈ s.corpus.failed ∧
        ((∃ failure, w.read path = .error failure) ∨
          w.maxFiles.reachedBy (.ofNat s.corpus.files.length) = true)

/-- An excerpt is made of what the loop ends with. -/
theorem extract_eq_of_rounds {resolver : Resolver} {limits : Limits}
    {requests : List RangeRequest} {state : σ} {start : Corpus σ} {first : Reached} {n : Nat}
    (hstart : requested read cut requests { state } = (none, start))
    (hfirst : reach resolver start ((select start.files requests).map (·.id)) = .ok first)
    (hn : limits.maxRounds.count = .ok n) {result : Except Failure Reached} {final : Corpus σ}
    (hrounds : rounds resolver read cut limits.maxFiles ((select start.files requests).map (·.id))
      n start first = (result, final)) :
    extract resolver limits read cut requests state =
      (result.bind (collect limits final (select start.files requests)), final.state) := by
  have hbegin := Discovery.begin_eq_ok_iff.mpr ⟨hfirst, hn⟩
  have hfollow : follow resolver limits read cut ((select start.files requests).map (·.id))
      start = (result, final) := by
    rw [follow, hbegin]
    exact hrounds
  rw [extract, hstart]
  show complete resolver limits read cut requests start = _
  rw [complete, hfollow]

/-- At every moment of an excerpt the number of files is bounded, and once the graph of the
requested files is built, the rounds of discovery make progress, end at a fixpoint if they do not
run out, and leave no import there unaccounted for. -/
theorem discovery_reaches_fixpoint (resolver : Resolver) (limits : Limits) (read : Reader)
    (cut : Cutter σ) (requests : List RangeRequest) (state : σ) :
    (∀ corpus, Moment resolver limits read cut requests state corpus →
        corpus.Within limits.maxFiles (requestedKeys requests).card) ∧
      ∀ start first, requested read cut requests { state } = (none, start) →
        reach resolver start ((select start.files requests).map (·.id)) = .ok first →
        ReachesFixpoint (discovery resolver limits read cut requests start) limits requests state
          ⟨start, first⟩ := by
  refine ⟨fun corpus h => h.within, ?_⟩
  intro start first hstart hfirst
  constructor
  case progress =>
    intro k s t _ hround
    exact hround.tried_ssubset
  case leaves =>
    intro n existing hn hexisting hcard
    rcases Discovery.rounds_of_card_lt hexisting hcard ⟨start, first⟩ with
      ⟨k, t, hk, hruns, hfound, hrounds⟩ | ⟨k, t, failure, corpus, hk, hruns, hint, hrounds⟩
    · exact Or.inl ⟨k, t, hk, hruns, hfound, extract_eq_of_rounds hstart hfirst hn hrounds⟩
    · exact Or.inr ⟨k, t, failure, corpus, hk, hruns, hint,
        extract_eq_of_rounds hstart hfirst hn hrounds⟩
  case closed =>
    intro k s hruns hfound id hid chunk hchunk d hd hkind path hpath
    have htried : path ∈ s.corpus.tried := by
      by_contra hnew
      have hmem := (Discovery.mem_found_iff s path).mpr
        ⟨hnew, id, hid, chunk, hchunk, d, hd, hkind, hpath⟩
      rw [hfound] at hmem
      exact List.not_mem_nil hmem
    have haccounts : s.corpus.AccountsForFailed read limits.maxFiles := by
      refine hruns.corpus_induction _ ?_ fun _ _ _ _ hc h => accountsForFailed_tryFile hc h
      show start.AccountsForFailed read limits.maxFiles
      intro other hother
      rw [failed_requested hstart] at hother
      exact absurd hother List.not_mem_nil
    rcases List.mem_append.mp htried with hkey | hfailed
    · exact Or.inl hkey
    · exact Or.inr ⟨hfailed, haccounts path hfailed⟩

/-- Two files that import each other: fifty rounds are more than there are files, and nothing
fails, so the loop ends at a fixpoint. -/
theorem discovery_reaches_fixpoint_circle :
    ∃ start first,
      requested (fun _ => .ok "") cutCircle circleRequests { state := () } = (none, start) ∧
        reach circleResolver start ((select start.files circleRequests).map (·.id)) = .ok first ∧
        start.Within 500 (requestedKeys circleRequests).card ∧
        ∃ k t, k < 50 ∧
          (discovery circleResolver {} (fun _ => .ok "") cutCircle circleRequests start).Runs k
            ⟨start, first⟩ t ∧
          (discovery circleResolver {} (fun _ => .ok "") cutCircle circleRequests start).found t =
            [] ∧
          extract circleResolver {} (fun _ => .ok "") cutCircle circleRequests () =
            (collect {} t.corpus (select start.files circleRequests) t.reached,
              t.corpus.state) := by
  have hrequested :
      (requested (fun _ => .ok "") cutCircle circleRequests { state := () }).1 = none := by
    decide +kernel
  have hbuilt : Builder.buildFault? circleResolver
      (requested (fun _ => .ok "") cutCircle circleRequests { state := () }).2.chunks = none := by
    decide +kernel
  have hend : (end? circleResolver {} (fun _ => .ok "") cutCircle circleRequests ()).isSome := by
    decide +kernel
  obtain ⟨_, hend⟩ := Option.isSome_iff_exists.mp hend
  obtain ⟨e, hrun, _⟩ := exists_extract_of_end? rfl hend
  have hexisting : ∀ path, circleResolver.fileExists path = true →
      path ∈ ({"a.ts", "b.ts"} : Finset String) := by
    intro path hpath
    simpa [circleResolver] using hpath
  obtain ⟨hwithin, hreaches⟩ := discovery_reaches_fixpoint circleResolver {} (fun _ => .ok "")
    cutCircle circleRequests ()
  cases hstart : requested (fun _ => .ok "") cutCircle circleRequests { state := () } with
  | mk outcome start =>
      rw [hstart] at hrequested hbuilt
      obtain rfl : outcome = none := hrequested
      have hfirst : reach circleResolver start
          ((select start.files circleRequests).map (·.id)) =
          .ok ⟨Builder.build circleResolver start.chunks,
            closure (Builder.build circleResolver start.chunks)
              ((select start.files circleRequests).map (·.id))⟩ :=
        Discovery.reach_eq_ok_iff.mpr ⟨hbuilt, rfl, rfl⟩
      have hleaves := (hreaches start _ hstart hfirst).leaves 50 {"a.ts", "b.ts"} rfl hexisting
        (by decide)
      refine ⟨start, _, rfl, hfirst, hwithin start (.requesting List.prefix_rfl hstart), ?_⟩
      rcases hleaves with hbreak | ⟨k, t, failure, corpus, _, _, _, hfailed⟩
      · exact hbreak
      · have herror : extract circleResolver {} (fun _ => .ok "") cutCircle circleRequests () =
            (.error failure, corpus.state) := hfailed
        rw [herror] at hrun
        exact absurd (Prod.mk.inj hrun).1 (by simp)

end Excerpt

end ChunkGraph
