import ChunkGraph.Proofs.Data.Keyed
import ChunkGraph.Proofs.Excerpt.Asking
import ChunkGraph.Proofs.Excerpt.Discovery

/-!
# The log of a run

A run writes down, in effect, a log: each path that it reads together with the
key under which the text is kept. For a requested file the key is the normal
form of its path, for a file that an import leads to it is the path itself. No
key occurs twice in the log, and every file of the corpus has an entry.

## Main definitions

* `Corpus.ReadFrom` — a corpus comes from a log.

## Main results

* `Corpus.ReadFrom.keep`, `Corpus.ReadFrom.giveUp_unreadable` — one more entry.
* `Excerpt.readFrom_requested` — the entries of requested files.
* `Excerpt.readFrom_follow` — the entries of files that imports lead to.
-/

namespace ChunkGraph

/-! ## The log -/

variable {σ : Type}

/-- A corpus comes from a log: the paths that have been read, with the keys of their texts. -/
structure Corpus.ReadFrom (read : Reader) (cut : Cutter σ) (log : List (String × String))
    (corpus : Corpus σ) : Prop where
  /-- No key is used twice. -/
  nodup : (log.map (·.2)).Nodup
  /-- A key that has been used is not tried again. -/
  mem_tried : ∀ entry ∈ log, entry.2 ∈ corpus.tried
  /-- Texts and chunks have the same keys. -/
  keys_sources : corpus.sources.map (·.1) = corpus.keys
  /-- The chunks of a file were cut from its text, and that was read under a path of its key. -/
  cut_from : ∀ file ∈ corpus.files, ∃ path source before after, (path, file.1) ∈ log ∧
    read path = .ok source ∧ corpus.sources.lookup file.1 = some source ∧
    cut source path before = (.ok file.2, after)
  /-- What has been read in vain could not be read. -/
  unreadable : ∀ entry ∈ log, entry.2 ∉ corpus.keys → ∃ failure, read entry.1 = .error failure

theorem Corpus.mem_keys_iff {corpus : Corpus σ} {key : String} :
    key ∈ corpus.keys ↔ ∃ chunks, (key, chunks) ∈ corpus.files := by
  unfold Corpus.keys
  rw [List.mem_map]
  constructor
  · rintro ⟨⟨_, chunks⟩, hfile, rfl⟩
    exact ⟨chunks, hfile⟩
  · rintro ⟨chunks, hfile⟩
    exact ⟨(key, chunks), hfile, rfl⟩

namespace Corpus.ReadFrom

variable {read : Reader} {cut : Cutter σ} {log : List (String × String)} {corpus : Corpus σ}

/-- Nothing has been read for a corpus without files. -/
theorem empty (read : Reader) (cut : Cutter σ) (state : σ) :
    ({ state } : Corpus σ).ReadFrom read cut [] :=
  ⟨List.nodup_nil, by simp, rfl, by simp, by simp⟩

/-- One more entry with a key that has not been tried. -/
theorem nodup_append (h : corpus.ReadFrom read cut log) {path key : String}
    (hnew : key ∉ corpus.tried) : ((log ++ [(path, key)]).map (·.2)).Nodup := by
  rw [List.map_append, List.nodup_append]
  refine ⟨h.nodup, by simp, ?_⟩
  intro a ha b hb hab
  obtain ⟨entry, hentry, rfl⟩ := List.mem_map.mp ha
  have hkey : b = key := by simpa using hb
  exact hnew (hkey ▸ hab ▸ h.mem_tried entry hentry)

/-- A file that is read, cut and kept under a new key is one more entry. -/
theorem keep (h : corpus.ReadFrom read cut log) {path key source : String} {chunks : List Chunk}
    {state : σ} (hnew : key ∉ corpus.tried) (hread : read path = .ok source)
    (hcut : cut source path corpus.state = (.ok chunks, state)) :
    (corpus.keep key source chunks state).ReadFrom read cut (log ++ [(path, key)]) := by
  have hkey : key ∉ corpus.keys := fun hmem => hnew (List.mem_append_left _ hmem)
  have hfiles : (corpus.keep key source chunks state).files = corpus.files ++ [(key, chunks)] :=
    Keyed.put_of_not_mem chunks hkey
  have hsources : (corpus.keep key source chunks state).sources =
      corpus.sources ++ [(key, source)] :=
    Keyed.put_of_not_mem source (h.keys_sources.symm ▸ hkey)
  have hlookup (other : String) : (corpus.keep key source chunks state).sources.lookup other =
      if other == key then some source else corpus.sources.lookup other :=
    Keyed.lookup_put key other source corpus.sources
  refine ⟨h.nodup_append hnew, ?_, ?_, ?_, ?_⟩
  · intro entry hentry
    rw [mem_tried_keep]
    rcases List.mem_append.mp hentry with hold | hlast
    · exact Or.inl (h.mem_tried entry hold)
    · rw [List.mem_singleton.mp hlast]
      exact Or.inr rfl
  · rw [keys_keep_of_not_mem corpus key source chunks state hkey, hsources, List.map_append,
      h.keys_sources]
    rfl
  · intro file hfile
    rw [hlookup]
    rw [hfiles] at hfile
    rcases List.mem_append.mp hfile with hold | hlast
    · obtain ⟨from', text, before, after, hentry, hfrom, htext, hfile'⟩ := h.cut_from file hold
      have hother : ¬ (file.1 == key) = true := by
        rw [beq_iff_eq]
        rintro rfl
        exact hkey (mem_keys_iff.mpr ⟨file.2, hold⟩)
      rw [if_neg hother]
      exact ⟨from', text, before, after, List.mem_append_left _ hentry, hfrom, htext, hfile'⟩
    · rw [List.mem_singleton.mp hlast, if_pos (beq_self_eq_true key)]
      exact ⟨path, source, corpus.state, state, by simp, hread, rfl, hcut⟩
  · intro entry hentry hmissing
    rw [mem_keys_keep, not_or] at hmissing
    rcases List.mem_append.mp hentry with hold | hlast
    · exact h.unreadable entry hold hmissing.1
    · rw [List.mem_singleton.mp hlast] at hmissing
      exact absurd rfl hmissing.2

/-- A path that is given up without having been read is no entry. -/
theorem giveUp (h : corpus.ReadFrom read cut log) (path : String) :
    (corpus.giveUp path).ReadFrom read cut log := by
  refine ⟨h.nodup, ?_, h.keys_sources, h.cut_from, h.unreadable⟩
  intro entry hentry
  rw [mem_tried_giveUp]
  exact Or.inl (h.mem_tried entry hentry)

/-- A path that is given up because it cannot be read is one more entry. -/
theorem giveUp_unreadable (h : corpus.ReadFrom read cut log) {path : String} {failure : Failure}
    (hnew : path ∉ corpus.tried) (hread : read path = .error failure) :
    (corpus.giveUp path).ReadFrom read cut (log ++ [(path, path)]) := by
  refine ⟨h.nodup_append hnew, ?_, h.keys_sources, ?_, ?_⟩
  · intro entry hentry
    rw [mem_tried_giveUp]
    rcases List.mem_append.mp hentry with hold | hlast
    · exact Or.inl (h.mem_tried entry hold)
    · rw [List.mem_singleton.mp hlast]
      exact Or.inr rfl
  · intro file hfile
    obtain ⟨from', text, before, after, hentry, hrest⟩ := h.cut_from file hfile
    exact ⟨from', text, before, after, List.mem_append_left _ hentry, hrest⟩
  · intro entry hentry hmissing
    rcases List.mem_append.mp hentry with hold | hlast
    · exact h.unreadable entry hold hmissing
    · rw [List.mem_singleton.mp hlast]
      exact ⟨failure, hread⟩

/-- The key of an entry that could be read has the text that was read. -/
theorem lookup_sources (h : corpus.ReadFrom read cut log) {path key source : String}
    (hentry : (path, key) ∈ log) (hread : read path = .ok source) :
    corpus.sources.lookup key = some source := by
  by_cases hkey : key ∈ corpus.keys
  · obtain ⟨chunks, hfile⟩ := mem_keys_iff.mp hkey
    obtain ⟨from', text, _, _, hother, hfrom, htext, _⟩ := h.cut_from _ hfile
    have hsame : ((from', key) : String × String) = (path, key) :=
      List.inj_on_of_nodup_map h.nodup hother hentry rfl
    rw [(Prod.mk.inj hsame).1, hread] at hfrom
    rw [htext, Except.ok.inj hfrom]
  · obtain ⟨failure, hfailure⟩ := h.unreadable _ hentry hkey
    rw [hread] at hfailure
    exact absurd hfailure (by simp)

/-- A key without chunks has no text. -/
theorem lookup_sources_eq_none (h : corpus.ReadFrom read cut log) {key : String}
    (hkey : key ∉ corpus.keys) : corpus.sources.lookup key = none :=
  Keyed.lookup_eq_none_of_not_mem (h.keys_sources.symm ▸ hkey)

end Corpus.ReadFrom

namespace Excerpt

variable {read : Reader} {cut : Cutter σ}

/-! ## Requested files -/

/-- A request whose key is there reads nothing. -/
theorem reads_requesting_of_has {request : RangeRequest} {rest : List RangeRequest}
    {corpus : Corpus σ} (h : Keyed.has (Path.normalize request.filePath) corpus.files = true) :
    (requesting cut (request :: rest) corpus).reads read =
      (requesting cut rest corpus).reads read := by
  unfold requesting
  simp only
  rw [if_pos h]
  cases rest with
  | nil => rfl
  | cons next rest => rfl

/-- Otherwise its path is read, and if that goes well the other requests follow. -/
theorem reads_requesting_of_read {request : RangeRequest} {rest : List RangeRequest}
    {corpus between : Corpus σ} {source : String}
    (h : ¬ Keyed.has (Path.normalize request.filePath) corpus.files = true)
    (hread : read request.filePath = .ok source)
    (hadd : addFile cut (Path.normalize request.filePath) request.filePath source corpus =
      (none, between)) :
    (requesting cut (request :: rest) corpus).reads read =
      request.filePath :: (requesting cut rest between).reads read := by
  conv => lhs; unfold requesting
  simp only
  rw [if_neg h]
  rw [Asking.reads_ask, hread]
  simp only [hadd]

/-- The requested files make a log: each path that is read, with its normal form as the key. -/
theorem readFrom_requested {requests : List RangeRequest} {corpus after : Corpus σ}
    {log : List (String × String)} (hlog : corpus.ReadFrom read cut log)
    (hfailed : corpus.failed = [])
    (h : requested read cut requests corpus = (none, after)) :
    after.ReadFrom read cut (log ++ ((requesting cut requests corpus).reads read).map
        fun path => (path, Path.normalize path)) ∧
      ∀ path ∈ (requesting cut requests corpus).reads read,
        (∃ request ∈ requests, request.filePath = path) ∧ ∃ source, read path = .ok source := by
  induction requests generalizing corpus log with
  | nil =>
      obtain ⟨-, rfl⟩ := Prod.mk.inj h
      refine ⟨?_, fun path hpath => absurd hpath List.not_mem_nil⟩
      show corpus.ReadFrom read cut (log ++ [])
      rw [List.append_nil]
      exact hlog
  | cons request rest ih =>
      have hlater {path : String} (hrest : (∃ other ∈ rest, other.filePath = path) ∧
          ∃ source, read path = .ok source) :
          (∃ other ∈ request :: rest, other.filePath = path) ∧
            ∃ source, read path = .ok source := by
        obtain ⟨⟨other, hother, hsame⟩, hread⟩ := hrest
        exact ⟨⟨other, List.mem_cons_of_mem request hother, hsame⟩, hread⟩
      simp only [requested] at h
      split at h
      · rename_i hhas
        obtain ⟨hread, hpaths⟩ := ih hlog hfailed h
        rw [reads_requesting_of_has hhas]
        exact ⟨hread, fun path hpath => hlater (hpaths path hpath)⟩
      · rename_i hhas
        split at h
        · exact absurd (Prod.mk.inj h).1 (by simp)
        · rename_i source hread
          cases hadd : addFile cut (Path.normalize request.filePath) request.filePath source
              corpus with
          | mk outcome between =>
              rcases addFile_cases hadd with
                ⟨failure, state, _, rfl, rfl⟩ | ⟨chunks, state, hcut, rfl, rfl⟩
              · rw [hadd] at h
                exact absurd (Prod.mk.inj h).1 (by simp)
              · have hnew : Path.normalize request.filePath ∉ corpus.tried := by
                  unfold Corpus.tried
                  rw [hfailed, List.append_nil]
                  exact fun hmem => hhas ((Keyed.has_iff_mem_keys _ _).mpr hmem)
                rw [hadd] at h
                obtain ⟨hafter, hpaths⟩ := ih (hlog.keep hnew hread hcut) hfailed h
                rw [reads_requesting_of_read hhas hread hadd]
                refine ⟨?_, ?_⟩
                · rw [List.append_assoc] at hafter
                  exact hafter
                · intro path hpath
                  rcases List.mem_cons.mp hpath with rfl | hpath
                  · exact ⟨⟨request, List.mem_cons_self, rfl⟩, source, hread⟩
                  · exact hlater (hpaths path hpath)

/-! ## Files that imports lead to -/

/-- A file that is tried is one more entry with its own path as the key, or is not read at all. -/
theorem readFrom_tryFile {maxFiles : Bound} {path : String} {corpus after : Corpus σ}
    {log : List (String × String)} (hlog : corpus.ReadFrom read cut log)
    (hnew : path ∉ corpus.tried) (h : tryFile read cut maxFiles path corpus = (none, after)) :
    after.ReadFrom read cut (log ++ ((tryingFile cut maxFiles path corpus).reads read).map
        fun path => (path, path)) ∧
      ∀ other ∈ (tryingFile cut maxFiles path corpus).reads read, other = path := by
  unfold tryFile at h
  unfold tryingFile
  cases hfault : maxFiles.fault? ">=" Bound.countType with
  | some failure =>
      simp only [hfault] at h
      exact absurd (Prod.mk.inj h).1 (by simp)
  | none =>
      simp only [hfault] at h ⊢
      by_cases hfull : maxFiles.reachedBy (.ofNat corpus.files.length) = true
      · rw [if_pos hfull] at h ⊢
        obtain ⟨-, rfl⟩ := Prod.mk.inj h
        refine ⟨?_, fun other hother => absurd hother List.not_mem_nil⟩
        show (corpus.giveUp path).ReadFrom read cut (log ++ [])
        rw [List.append_nil]
        exact hlog.giveUp path
      · rw [if_neg hfull] at h ⊢
        rw [Asking.reads_ask]
        cases hread : read path with
        | error failure =>
            rw [hread] at h
            obtain ⟨-, rfl⟩ := Prod.mk.inj h
            exact ⟨hlog.giveUp_unreadable hnew hread,
              fun other hother => List.mem_singleton.mp hother⟩
        | ok source =>
            rw [hread] at h
            rcases addFile_cases h with
              ⟨failure, _, _, hnone, _⟩ | ⟨chunks, state, hcut, _, rfl⟩
            · exact absurd hnone (by simp)
            · exact ⟨hlog.keep hnew hread hcut, fun other hother => List.mem_singleton.mp hother⟩

/-- Different files that have not been tried make a log. -/
theorem readFrom_tryFiles {maxFiles : Bound} {paths : List String} {corpus after : Corpus σ}
    {log : List (String × String)} (hlog : corpus.ReadFrom read cut log) (hnodup : paths.Nodup)
    (hnew : ∀ path ∈ paths, path ∉ corpus.tried)
    (h : tryFiles read cut maxFiles paths corpus = (none, after)) :
    after.ReadFrom read cut (log ++ ((tryingFiles cut maxFiles paths corpus).reads read).map
        fun path => (path, path)) ∧
      ∀ path ∈ (tryingFiles cut maxFiles paths corpus).reads read, path ∈ paths := by
  induction paths generalizing corpus log with
  | nil =>
      obtain ⟨-, rfl⟩ := Prod.mk.inj h
      refine ⟨?_, fun path hpath => absurd hpath List.not_mem_nil⟩
      show corpus.ReadFrom read cut (log ++ [])
      rw [List.append_nil]
      exact hlog
  | cons path rest ih =>
      simp only [tryFiles] at h
      cases hone : tryFile read cut maxFiles path corpus with
      | mk outcome between =>
          rw [hone] at h
          cases outcome with
          | some failure => exact absurd (Prod.mk.inj h).1 (by simp)
          | none =>
              obtain ⟨hbetween, hfirst⟩ := readFrom_tryFile hlog (hnew path List.mem_cons_self) hone
              obtain ⟨hpath, hrest⟩ := List.nodup_cons.mp hnodup
              have htried : tryFiles read cut maxFiles [path] corpus = (none, between) := by
                simp only [tryFiles, hone]
              have hopen : ∀ other ∈ rest, other ∉ between.tried := by
                intro other hother hmem
                rcases (mem_tried_tryFiles htried other).mp hmem with hold | hsame
                · exact hnew other (List.mem_cons_of_mem path hother) hold
                · exact hpath (List.mem_singleton.mp hsame ▸ hother)
              obtain ⟨hafter, hlater⟩ := ih hbetween hrest hopen h
              have hreads : (tryingFiles cut maxFiles (path :: rest) corpus).reads read =
                  (tryingFile cut maxFiles path corpus).reads read ++
                    (tryingFiles cut maxFiles rest between).reads read := by
                conv => lhs; unfold tryingFiles
                rw [Asking.reads_bind, run_tryingFile, hone]
              rw [hreads]
              refine ⟨?_, ?_⟩
              · rw [List.map_append, ← List.append_assoc]
                exact hafter
              · intro other hother
                rcases List.mem_append.mp hother with hother | hother
                · rw [hfirst other hother]
                  exact List.mem_cons_self
                · exact List.mem_cons_of_mem path (hlater other hother)

/-- The rounds of discovery make a log of paths that some specifier leads to. -/
theorem readFrom_rounds {resolver : Resolver} {maxFiles : Bound} {selectedIds : List String}
    {n : Nat} {corpus after : Corpus σ} {reached last : Reached} {log : List (String × String)}
    (hlog : corpus.ReadFrom read cut log)
    (h : rounds resolver read cut maxFiles selectedIds n corpus reached = (.ok last, after)) :
    after.ReadFrom read cut (log ++
        ((discovering resolver cut maxFiles selectedIds n corpus reached).reads read).map
          fun path => (path, path)) ∧
      ∀ path ∈ (discovering resolver cut maxFiles selectedIds n corpus reached).reads read,
        ∃ file specifier, resolver.resolve? file specifier = some path := by
  have hnone {corpus : Corpus σ} {log : List (String × String)}
      (hlog : corpus.ReadFrom read cut log) :
      corpus.ReadFrom read cut (log ++ ([] : List String).map fun path => (path, path)) := by
    rw [List.map_nil, List.append_nil]
    exact hlog
  induction n generalizing corpus reached log with
  | zero =>
      obtain ⟨-, rfl⟩ := Prod.mk.inj h
      exact ⟨hnone hlog, fun path hpath => absurd hpath List.not_mem_nil⟩
  | succ n ih =>
      have hmem (path : String)
          (hpath : path ∈ newFiles resolver corpus (selectedIds ++ reached.ids)) :
          path ∉ corpus.tried ∧ ∃ file specifier, resolver.resolve? file specifier = some path := by
        obtain ⟨hnew, chunk, _, d, _, _, hresolve⟩ := (mem_discover _ _ _ path).mp hpath
        exact ⟨hnew, chunk.filePath, d.source, hresolve⟩
      have hnodup : (newFiles resolver corpus (selectedIds ++ reached.ids)).Nodup :=
        nodup_foldl_addId _ [] List.nodup_nil
      unfold rounds at h
      unfold discovering
      cases hfound : newFiles resolver corpus (selectedIds ++ reached.ids) with
      | nil =>
          rw [hfound] at h
          obtain ⟨-, rfl⟩ := Prod.mk.inj h
          exact ⟨hnone hlog, fun path hpath => absurd hpath List.not_mem_nil⟩
      | cons first rest =>
          rw [hfound] at h hmem hnodup
          simp only at h ⊢
          cases htry : tryFiles read cut maxFiles (first :: rest) corpus with
          | mk outcome between =>
              rw [htry] at h
              cases outcome with
              | some failure => exact absurd (Prod.mk.inj h).1 (by simp)
              | none =>
                  simp only at h
                  obtain ⟨hbetween, hpaths⟩ := readFrom_tryFiles hlog hnodup
                    (fun path hpath => (hmem path hpath).1) htry
                  rw [Asking.reads_bind, run_tryingFiles, htry]
                  simp only
                  cases hreach : reach resolver between selectedIds with
                  | error failure =>
                      rw [hreach] at h
                      exact absurd (Prod.mk.inj h).1 (by simp)
                  | ok next =>
                      rw [hreach] at h
                      obtain ⟨hafter, hlater⟩ := ih hbetween h
                      refine ⟨?_, ?_⟩
                      · rw [List.map_append, ← List.append_assoc]
                        exact hafter
                      · intro path hpath
                        rcases List.mem_append.mp hpath with hpath | hpath
                        · exact (hmem path (hpaths path hpath)).2
                        · exact hlater path hpath

/-- What is followed from the requested files makes a log as well. -/
theorem readFrom_follow {resolver : Resolver} {limits : Limits} {selectedIds : List String}
    {corpus after : Corpus σ} {last : Reached} {log : List (String × String)}
    (hlog : corpus.ReadFrom read cut log)
    (h : follow resolver limits read cut selectedIds corpus = (.ok last, after)) :
    after.ReadFrom read cut (log ++
        ((following resolver limits cut selectedIds corpus).reads read).map
          fun path => (path, path)) ∧
      ∀ path ∈ (following resolver limits cut selectedIds corpus).reads read,
        ∃ file specifier, resolver.resolve? file specifier = some path := by
  unfold follow at h
  unfold following
  cases hbegin : begin resolver limits corpus selectedIds with
  | error failure =>
      rw [hbegin] at h
      exact absurd (Prod.mk.inj h).1 (by simp)
  | ok first =>
      rw [hbegin] at h
      exact readFrom_rounds hlog h

end Excerpt

end ChunkGraph
