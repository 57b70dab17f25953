import ChunkGraph.Proofs.Excerpt.Reading

/-!
# What has been tried decides a corpus

A cutter has a state, but where its answers do not show it, a path that can be
read yields the same chunks whenever it is tried. Then a corpus in which every
failed path cannot be read is settled: which files it has, and with which
chunks, depends on the paths that have been tried and on nothing else.

Whether a settled corpus can be made is also a question about paths alone.
Requested files have to be readable, and there has to be room for the files that
imports lead to. How much room there is can be read off a run that has ended:
where a run has kept a file, the limit was not reached.

## Main definitions

* `Steady` — the state of a cutter does not show in its answers.
* `Yields` — the chunks that a path leads to.
* `Corpus.Settled` — every file is what its path yields, and what failed cannot
  be read.
* `Corpus.PartOf` — a corpus has grown into another.

## Main results

* `Corpus.Settled.files_perm` — settled corpora that have tried the same have the
  same files.
* `settled_requested`, `exists_requested` — the corpus of requested files.
* `settled_tryFiles`, `exists_tryFiles` — the corpus after a round.
* `Discovery.Runs.room` — how much room a run has left.
-/

namespace ChunkGraph

variable {σ : Type} {read : Reader} {cut : Cutter σ}
  {answer : String → String → Except Failure (List Chunk)} {kept : σ → Prop}

/-! ## Settled corpora -/

/-- As long as texts that were read are cut, the state is one that is kept, and it does not show in
the answers. -/
structure Steady (read : Reader) (cut : Cutter σ)
    (answer : String → String → Except Failure (List Chunk)) (kept : σ → Prop) : Prop where
  /-- The answers depend on the text and its path only. -/
  answers : ∀ path source state, read path = .ok source → kept state →
    (cut source path state).1 = answer source path
  /-- The state is kept. -/
  keeps : ∀ path source state, read path = .ok source → kept state →
    kept (cut source path state).2

/-- The path can be read, and its text is cut into these chunks. -/
def Yields (read : Reader) (answer : String → String → Except Failure (List Chunk))
    (path : String) (chunks : List Chunk) : Prop :=
  ∃ source, read path = .ok source ∧ answer source path = .ok chunks

theorem Yields.unique {path : String} {chunks others : List Chunk}
    (h : Yields read answer path chunks) (hothers : Yields read answer path others) :
    chunks = others := by
  obtain ⟨source, hread, hanswer⟩ := h
  obtain ⟨source', hread', hanswer'⟩ := hothers
  obtain rfl := Except.ok.inj (hread.symm.trans hread')
  exact Except.ok.inj (hanswer.symm.trans hanswer')

theorem Yields.not_unreadable {path : String} {chunks : List Chunk}
    (h : Yields read answer path chunks) : ¬ ∃ failure, read path = .error failure := by
  rintro ⟨failure, hfailure⟩
  obtain ⟨source, hread, -⟩ := h
  exact absurd (hread.symm.trans hfailure) (by simp)

/-- What a steady cutter makes of a text that was read is what its path yields. -/
theorem Steady.yields (h : Steady read cut answer kept) {path source : String} {state after : σ}
    {chunks : List Chunk} (hread : read path = .ok source) (hstate : kept state)
    (hcut : cut source path state = (.ok chunks, after)) :
    Yields read answer path chunks ∧ kept after := by
  have hanswer := h.answers path source state hread hstate
  have hkept := h.keeps path source state hread hstate
  rw [hcut] at hanswer hkept
  exact ⟨⟨source, hread, hanswer.symm⟩, hkept⟩

/-- A path that yields chunks is cut into them in every state that is kept. -/
theorem Steady.exists_cut (h : Steady read cut answer kept) {path : String} {state : σ}
    {chunks : List Chunk} (hyields : Yields read answer path chunks) (hstate : kept state) :
    ∃ source after, read path = .ok source ∧ cut source path state = (.ok chunks, after) := by
  obtain ⟨source, hread, hanswer⟩ := hyields
  have hcut := (h.answers path source state hread hstate).trans hanswer
  exact ⟨source, (cut source path state).2, hread, Prod.ext hcut rfl⟩

namespace Corpus

/-- Every file is what its key yields when it is read as a path, and every failed path cannot be
read. -/
structure Settled (read : Reader) (answer : String → String → Except Failure (List Chunk))
    (kept : σ → Prop) (corpus : Corpus σ) : Prop where
  /-- No key is given twice. -/
  nodup : corpus.keys.Nodup
  /-- Files are what their keys yield. -/
  yields : ∀ file ∈ corpus.files, Yields read answer file.1 file.2
  /-- What has failed cannot be read. -/
  unreadable : ∀ path ∈ corpus.failed, ∃ failure, read path = .error failure
  /-- The state is kept. -/
  state : kept corpus.state

namespace Settled

variable {corpus other : Corpus σ}

theorem empty {state : σ} (hstate : kept state) :
    ({ state } : Corpus σ).Settled read answer kept :=
  ⟨List.nodup_nil, by simp, by simp, hstate⟩

/-- A file of a settled corpus is one that has been tried and yields its chunks. -/
theorem mem_files_iff (h : corpus.Settled read answer kept) (key : String)
    (chunks : List Chunk) :
    (key, chunks) ∈ corpus.files ↔ key ∈ corpus.tried ∧ Yields read answer key chunks := by
  constructor
  · intro hfile
    exact ⟨List.mem_append_left _ (mem_keys_iff.mpr ⟨chunks, hfile⟩), h.yields _ hfile⟩
  · rintro ⟨htried, hyields⟩
    rcases List.mem_append.mp htried with hkey | hfailed
    · obtain ⟨found, hfile⟩ := mem_keys_iff.mp hkey
      rwa [hyields.unique (h.yields _ hfile)]
    · exact absurd (h.unreadable key hfailed) hyields.not_unreadable

/-- Settled corpora that have tried the same have the same files. -/
theorem files_perm (h : corpus.Settled read answer kept) (hother : other.Settled read answer kept)
    (htried : ∀ path, path ∈ corpus.tried ↔ path ∈ other.tried) :
    corpus.files.Perm other.files := by
  rw [List.perm_ext_iff_of_nodup h.nodup.of_map hother.nodup.of_map]
  rintro ⟨key, chunks⟩
  rw [h.mem_files_iff, hother.mem_files_iff, htried]

/-- One more file that is what its key yields. -/
theorem keep (h : corpus.Settled read answer kept) {key source : String} {chunks : List Chunk}
    {state : σ} (hnew : key ∉ corpus.keys) (hyields : Yields read answer key chunks)
    (hstate : kept state) : (corpus.keep key source chunks state).Settled read answer kept := by
  refine ⟨?_, ?_, h.unreadable, hstate⟩
  · rw [keys_keep_of_not_mem corpus key source chunks state hnew, List.nodup_append]
    refine ⟨h.nodup, by simp, ?_⟩
    intro a ha b hb hab
    rw [List.mem_singleton] at hb
    exact hnew (hb ▸ hab ▸ ha)
  · intro file hfile
    rw [files_keep, Keyed.put_of_not_mem chunks hnew, List.mem_append, List.mem_singleton] at hfile
    rcases hfile with hold | rfl
    · exact h.yields file hold
    · exact hyields

/-- One more path that cannot be read. -/
theorem giveUp (h : corpus.Settled read answer kept) {path : String}
    (hpath : ∃ failure, read path = .error failure) :
    (corpus.giveUp path).Settled read answer kept := by
  refine ⟨h.nodup, h.yields, ?_, h.state⟩
  intro other hother
  rw [failed_giveUp, List.mem_cons] at hother
  rcases hother with rfl | hother
  · exact hpath
  · exact h.unreadable other hother

end Settled

/-! ## Growing -/

/-- A corpus has grown into another: its files are there still, and what has failed has failed. -/
structure PartOf (corpus grown : Corpus σ) : Prop where
  /-- Files are kept. -/
  keys : ∀ key ∈ corpus.keys, key ∈ grown.keys
  /-- Failed paths are not tried again. -/
  failed : ∀ path ∈ corpus.failed, path ∈ grown.failed

theorem PartOf.refl (corpus : Corpus σ) : corpus.PartOf corpus :=
  ⟨fun _ h => h, fun _ h => h⟩

theorem PartOf.trans {corpus grown last : Corpus σ} (h : corpus.PartOf grown)
    (hlast : grown.PartOf last) : corpus.PartOf last :=
  ⟨fun key hkey => hlast.keys key (h.keys key hkey),
    fun path hpath => hlast.failed path (h.failed path hpath)⟩

/-- There are no fewer files then. -/
theorem PartOf.length_files_le {corpus grown : Corpus σ} (h : corpus.PartOf grown)
    (hnodup : corpus.keys.Nodup) : corpus.files.length ≤ grown.files.length := by
  have hle := (List.subperm_of_subset hnodup h.keys).length_le
  rw [Corpus.keys, Corpus.keys, List.length_map, List.length_map] at hle
  exact hle

/-- There are some files at least, and only allowed ones. -/
structure Fits (corpus : Corpus σ) (low : Nat) (allowed : List String) : Prop where
  /-- No less than so many. -/
  enough : low ≤ corpus.files.length
  /-- All of them are allowed. -/
  allowed : ∀ key ∈ corpus.keys, key ∈ allowed

theorem Fits.keep {corpus : Corpus σ} {low : Nat} {allowed : List String}
    (h : corpus.Fits low allowed) {key source : String} {chunks : List Chunk} {state : σ}
    (hkey : key ∈ allowed) : (corpus.keep key source chunks state).Fits low allowed := by
  refine ⟨h.enough.trans (corpus.length_files_keep key source chunks state).1, ?_⟩
  intro other hother
  rcases (mem_keys_keep corpus key source chunks state other).mp hother with hold | rfl
  · exact h.allowed other hold
  · exact hkey

/-- As long as an allowed file is missing, there are fewer files than are allowed. -/
theorem length_files_lt (corpus : Corpus σ) (hnodup : corpus.keys.Nodup) {key : String}
    {allowed : List String} (hnew : key ∉ corpus.keys)
    (hallowed : ∀ other ∈ corpus.keys, other ∈ allowed) (hkey : key ∈ allowed) :
    corpus.files.length < allowed.length := by
  have hsub : key :: corpus.keys ⊆ allowed := List.cons_subset.mpr ⟨hkey, hallowed⟩
  have hle := (List.subperm_of_subset (List.nodup_cons.mpr ⟨hnew, hnodup⟩) hsub).length_le
  rw [List.length_cons, keys, List.length_map] at hle
  exact hle

end Corpus

namespace Excerpt

theorem partOf_tryFile {maxFiles : Bound} {path : String} {corpus after : Corpus σ}
    {outcome : Option Failure} (h : tryFile read cut maxFiles path corpus = (outcome, after)) :
    corpus.PartOf after := by
  rcases tryFile_cases h with
    ⟨failure, _, hfiles, hfailed⟩ | ⟨_, rfl, _⟩ | ⟨_, _, source, chunks, state, _, _, rfl⟩
  · exact ⟨fun key hkey => by rwa [Corpus.keys, hfiles], fun path hpath => by rwa [hfailed]⟩
  · exact ⟨fun _ hkey => hkey, fun _ hpath => List.mem_cons_of_mem path hpath⟩
  · refine ⟨fun key hkey => ?_, fun _ hpath => hpath⟩
    rw [Corpus.mem_keys_keep]
    exact Or.inl hkey

theorem partOf_tryFiles {maxFiles : Bound} {paths : List String} {corpus after : Corpus σ}
    {outcome : Option Failure} (h : tryFiles read cut maxFiles paths corpus = (outcome, after)) :
    corpus.PartOf after :=
  tryFiles_induction (fun c => corpus.PartOf c) h (.refl corpus)
    fun _ _ _ _ hc hone => hc.trans (partOf_tryFile hone)

theorem Discovery.Runs.partOf {w : Discovery σ} {k : Nat} {s t : Stage σ} (h : w.Runs k s t) :
    s.corpus.PartOf t.corpus :=
  h.corpus_induction (fun c => s.corpus.PartOf c) (.refl s.corpus)
    fun _ _ _ _ hc hone => hc.trans (partOf_tryFile hone)

/-! ## Requested files -/

section Requested

variable (hsteady : Steady read cut answer kept)
include hsteady

/-- A file that is added under its own path keeps a corpus settled. -/
theorem settled_addFile {path source : String} {corpus after : Corpus σ}
    (hc : corpus.Settled read answer kept) (hnew : path ∉ corpus.keys)
    (hread : read path = .ok source)
    (h : addFile cut path path source corpus = (none, after)) :
    after.Settled read answer kept := by
  rcases addFile_cases h with ⟨failure, _, _, hnone, _⟩ | ⟨chunks, state, hcut, _, rfl⟩
  · exact absurd hnone (by simp)
  · obtain ⟨hyields, hstate⟩ := hsteady.yields hread hc.state hcut
    exact hc.keep hnew hyields hstate

/-- A path that yields chunks can be added. -/
theorem exists_addFile {path : String} {corpus : Corpus σ} {chunks : List Chunk}
    (hc : corpus.Settled read answer kept) (hyields : Yields read answer path chunks) :
    ∃ source state, read path = .ok source ∧
      addFile cut path path source corpus = (none, corpus.keep path source chunks state) := by
  obtain ⟨source, state, hread, hcut⟩ := hsteady.exists_cut hyields hc.state
  refine ⟨source, state, hread, ?_⟩
  rw [addFile, hcut]
  rfl

/-- The corpus of requested files is settled. -/
theorem settled_requested {requests : List RangeRequest}
    (hnormal : ∀ request ∈ requests, Path.normalize request.filePath = request.filePath)
    {corpus start : Corpus σ} (hc : corpus.Settled read answer kept)
    (h : requested read cut requests corpus = (none, start)) :
    start.Settled read answer kept := by
  induction requests generalizing corpus with
  | nil =>
      obtain ⟨-, rfl⟩ := Prod.mk.inj h
      exact hc
  | cons request rest ih =>
      have hrest := fun other hother => hnormal other (List.mem_cons_of_mem request hother)
      simp only [requested, hnormal request List.mem_cons_self] at h
      split at h
      · exact ih hrest hc h
      · rename_i hhas
        have hnew : request.filePath ∉ corpus.keys := fun hkey =>
          hhas ((Keyed.has_iff_mem_keys _ _).mpr hkey)
        split at h
        · exact absurd (Prod.mk.inj h).1 (by simp)
        · rename_i source hread
          split at h
          · rename_i between hadd
            exact ih hrest (settled_addFile hsteady hc hnew hread hadd) h
          · rename_i hfailed
            exact absurd h (hfailed start)

/-- Requested files that yield chunks can all be added. -/
theorem exists_requested {requests : List RangeRequest}
    (hnormal : ∀ request ∈ requests, Path.normalize request.filePath = request.filePath)
    (hyields : ∀ request ∈ requests, ∃ chunks, Yields read answer request.filePath chunks)
    {corpus : Corpus σ} (hc : corpus.Settled read answer kept) :
    ∃ start, requested read cut requests corpus = (none, start) := by
  induction requests generalizing corpus with
  | nil => exact ⟨corpus, rfl⟩
  | cons request rest ih =>
      have hrest {corpus : Corpus σ} (hc : corpus.Settled read answer kept) :
          ∃ start, requested read cut rest corpus = (none, start) :=
        ih (fun other hother => hnormal other (List.mem_cons_of_mem request hother))
          (fun other hother => hyields other (List.mem_cons_of_mem request hother)) hc
      simp only [requested, hnormal request List.mem_cons_self]
      split
      · exact hrest hc
      · rename_i hhas
        have hnew : request.filePath ∉ corpus.keys := fun hkey =>
          hhas ((Keyed.has_iff_mem_keys _ _).mpr hkey)
        obtain ⟨chunks, hchunks⟩ := hyields request List.mem_cons_self
        obtain ⟨source, state, hread, hadd⟩ := exists_addFile hsteady hc hchunks
        rw [hread]
        simp only [hadd]
        exact hrest (settled_addFile hsteady hc hnew hread hadd)

end Requested

/-- What has been tried for requested files are their paths. -/
theorem mem_tried_requested {requests : List RangeRequest}
    (hnormal : ∀ request ∈ requests, Path.normalize request.filePath = request.filePath)
    {state : σ} {start : Corpus σ} (h : requested read cut requests { state } = (none, start))
    (path : String) : path ∈ start.tried ↔ ∃ request ∈ requests, request.filePath = path := by
  rw [Corpus.tried, failed_requested h, List.append_nil]
  constructor
  · intro hkey
    obtain ⟨chunks, hfile⟩ := Corpus.mem_keys_iff.mp hkey
    refine requested_induction (fun c => ∀ key ∈ c.keys, ∃ request ∈ requests,
      request.filePath = key) h ?_ ?_ ?_ path hkey
    · exact fun key hnone => absurd hnone List.not_mem_nil
    · exact fun c state hc => hc
    · intro c request hrequest source chunks state hc _ _ _ key hkey
      rcases (Corpus.mem_keys_keep c _ source chunks state key).mp hkey with hold | rfl
      · exact hc key hold
      · exact ⟨request, hrequest, (hnormal request hrequest).symm⟩
  · rintro ⟨request, hrequest, rfl⟩
    obtain ⟨chunks, hchunks⟩ := lookup_of_requested h hrequest
    rw [hnormal request hrequest] at hchunks
    exact Corpus.mem_keys_iff.mpr ⟨chunks, Keyed.mem_of_lookup hchunks⟩

/-! ## Files that imports lead to -/

/-- A path that has not been tried has not been tried either after another one has. -/
theorem not_mem_tried_of_tryFile {maxFiles : Bound} {path : String} {rest : List String}
    {corpus after : Corpus σ} (h : tryFile read cut maxFiles path corpus = (none, after))
    (hpath : path ∉ rest) (hrest : ∀ other ∈ rest, other ∉ corpus.tried) :
    ∀ other ∈ rest, other ∉ after.tried := by
  have htried : tryFiles read cut maxFiles [path] corpus = (none, after) := by
    simp only [tryFiles, h]
  intro other hother hmem
  rcases (mem_tried_tryFiles htried other).mp hmem with hold | hsame
  · exact hrest other hother hold
  · exact hpath (List.mem_singleton.mp hsame ▸ hother)

section Tried

variable (hsteady : Steady read cut answer kept)
include hsteady

theorem settled_tryFile {maxFiles : Bound} {path : String} {corpus after : Corpus σ}
    (hc : corpus.Settled read answer kept) (hnew : path ∉ corpus.tried)
    (h : tryFile read cut maxFiles path corpus = (none, after))
    (hfailed : ∀ path ∈ after.failed, ∃ failure, read path = .error failure) :
    after.Settled read answer kept := by
  rcases tryFile_cases h with
    ⟨failure, hnone, _⟩ | ⟨_, rfl, _⟩ | ⟨_, _, source, chunks, state, hread, hcut, rfl⟩
  · exact absurd hnone (by simp)
  · exact hc.giveUp (hfailed path List.mem_cons_self)
  · obtain ⟨hyields, hstate⟩ := hsteady.yields hread hc.state hcut
    exact hc.keep (fun hkey => hnew (List.mem_append_left _ hkey)) hyields hstate

/-- A corpus stays settled as long as nothing is given up that could be read. -/
theorem settled_tryFiles {maxFiles : Bound} {paths : List String} {corpus after : Corpus σ}
    (hc : corpus.Settled read answer kept) (hnodup : paths.Nodup)
    (hnew : ∀ path ∈ paths, path ∉ corpus.tried)
    (h : tryFiles read cut maxFiles paths corpus = (none, after))
    (hfailed : ∀ path ∈ after.failed, ∃ failure, read path = .error failure) :
    after.Settled read answer kept := by
  induction paths generalizing corpus with
  | nil =>
      obtain ⟨-, rfl⟩ := Prod.mk.inj h
      exact hc
  | cons path rest ih =>
      obtain ⟨hpath, hrest⟩ := List.nodup_cons.mp hnodup
      simp only [tryFiles] at h
      split at h
      · rename_i between hone
        have hgrown := partOf_tryFiles h
        have hbetween := settled_tryFile hsteady hc (hnew path List.mem_cons_self) hone
          fun other hother => hfailed other (hgrown.failed other hother)
        exact ih hbetween hrest (not_mem_tried_of_tryFile hone hpath
          fun other hother => hnew other (List.mem_cons_of_mem path hother)) h
      · rename_i hstopped
        exact absurd h (hstopped after)

/-- A path that cannot be read, or that yields chunks and is one of the files there is room for,
can be tried. -/
theorem exists_tryFile {maxFiles : Bound} {low : Nat} {allowed : List String}
    (hfault : maxFiles.fault? ">=" Bound.countType = none)
    (hroom : ∀ m, low ≤ m → m < allowed.length → maxFiles.reachedBy (.ofNat m) = false)
    {path : String} {corpus : Corpus σ} (hc : corpus.Settled read answer kept)
    (hfits : corpus.Fits low allowed) (hnew : path ∉ corpus.tried)
    (hpath : (∃ failure, read path = .error failure) ∨
      path ∈ allowed ∧ ∃ chunks, Yields read answer path chunks) :
    ∃ after, tryFile read cut maxFiles path corpus = (none, after) ∧
      after.Settled read answer kept ∧ after.Fits low allowed := by
  rcases hpath with ⟨failure, hfailure⟩ | ⟨hpath, chunks, hchunks⟩
  · refine ⟨corpus.giveUp path, ?_, hc.giveUp ⟨failure, hfailure⟩, hfits.enough, hfits.allowed⟩
    simp only [tryFile, hfault, hfailure]
    split
    · rfl
    · rfl
  · have hkey : path ∉ corpus.keys := fun hkey => hnew (List.mem_append_left _ hkey)
    have hbelow : corpus.files.length < allowed.length :=
      corpus.length_files_lt hc.nodup hkey hfits.allowed hpath
    obtain ⟨source, state, hread, hadd⟩ := exists_addFile hsteady hc hchunks
    refine ⟨corpus.keep path source chunks state, ?_,
      settled_addFile hsteady hc hkey hread hadd, hfits.keep hpath⟩
    rw [tryFile, hfault, hread]
    simp only [hroom _ hfits.enough hbelow, Bool.false_eq_true, if_false, hadd]

/-- Different paths that have not been tried can be tried one after the other. -/
theorem exists_tryFiles {maxFiles : Bound} {low : Nat} {allowed : List String}
    (hfault : maxFiles.fault? ">=" Bound.countType = none)
    (hroom : ∀ m, low ≤ m → m < allowed.length → maxFiles.reachedBy (.ofNat m) = false)
    {paths : List String} (hnodup : paths.Nodup)
    (hpaths : ∀ path ∈ paths, (∃ failure, read path = .error failure) ∨
      path ∈ allowed ∧ ∃ chunks, Yields read answer path chunks)
    {corpus : Corpus σ} (hc : corpus.Settled read answer kept)
    (hfits : corpus.Fits low allowed) (hnew : ∀ path ∈ paths, path ∉ corpus.tried) :
    ∃ after, tryFiles read cut maxFiles paths corpus = (none, after) ∧
      after.Settled read answer kept := by
  induction paths generalizing corpus with
  | nil => exact ⟨corpus, rfl, hc⟩
  | cons path rest ih =>
      obtain ⟨hpath, hrest⟩ := List.nodup_cons.mp hnodup
      obtain ⟨between, hone, hbetween, hfitsBetween⟩ := exists_tryFile hsteady hfault hroom hc
        hfits (hnew path List.mem_cons_self) (hpaths path List.mem_cons_self)
      simp only [tryFiles, hone]
      exact ih hrest (fun other hother => hpaths other (List.mem_cons_of_mem path hother))
        hbetween hfitsBetween (not_mem_tried_of_tryFile hone hpath
          fun other hother => hnew other (List.mem_cons_of_mem path hother))

end Tried

/-- As long as a run keeps files, the limit is not reached. -/
theorem Discovery.Runs.room {w : Discovery σ} {k : Nat} {s t : Stage σ} (h : w.Runs k s t)
    (m : Nat) (hlow : s.corpus.files.length ≤ m) (hm : m < t.corpus.files.length) :
    w.maxFiles.reachedBy (.ofNat m) = false := by
  refine h.corpus_induction (fun c => ∀ m, s.corpus.files.length ≤ m → m < c.files.length →
    w.maxFiles.reachedBy (.ofNat m) = false) ?_ ?_ m hlow hm
  · intro m hlow hm
    omega
  · intro c path outcome after hc hone m hlow hm
    rcases tryFile_cases hone with
      ⟨failure, _, hfiles, _⟩ | ⟨_, rfl, _⟩ | ⟨_, hroom, source, chunks, state, _, _, rfl⟩
    · exact hc m hlow (hfiles ▸ hm)
    · exact hc m hlow hm
    · have hle := (c.length_files_keep path source chunks state).2
      rcases Nat.lt_or_ge m c.files.length with hlt | hge
      · exact hc m hlow hlt
      · obtain rfl : m = c.files.length := by omega
        exact hroom

/-- A run that has tried a file has a limit that can be compared with. -/
theorem fault?_of_tryFiles {maxFiles : Bound} {paths : List String} {corpus after : Corpus σ}
    (hpaths : paths ≠ []) (h : tryFiles read cut maxFiles paths corpus = (none, after)) :
    maxFiles.fault? ">=" Bound.countType = none := by
  cases paths with
  | nil => exact absurd rfl hpaths
  | cons path rest =>
      simp only [tryFiles, tryFile] at h
      cases hfault : maxFiles.fault? ">=" Bound.countType with
      | none => rfl
      | some failure =>
          rw [hfault] at h
          exact absurd (Prod.mk.inj h).1 (by simp)

end Excerpt

end ChunkGraph
