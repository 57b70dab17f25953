import ChunkGraph.Excerpt.Basic

/-!
# How a corpus grows

A corpus changes in two ways only: a file is cut and kept under a key, or a
path is marked as failed. The theorems below say once what each operation can
do to a corpus, failures included, and everything that is said about whole runs
is derived from them.

A key is never given twice: a requested file is passed over when its key is
there, and the files that a round tries are new to the corpus and differ among
themselves.

## Main results

* `addFile_cases`, `tryFile_cases` — what one operation can do.
* `requested_induction` — what holds of a corpus after every request holds of
  the corpus of all requests.
* `lookup_of_requested`, `cutFrom_of_requested` — every requested file is there,
  with what the cutter made of its text.
* `tryFiles_induction` — the same for files that imports lead to.
* `mem_tried_tryFiles` — what has been tried after a list of files.
-/

namespace ChunkGraph

/-- The keys of the files. -/
def Corpus.keys {σ : Type} (corpus : Corpus σ) : List String := corpus.files.map (·.1)

/-- The paths that are not tried again: the keys of the files and the failed paths. -/
def Corpus.tried {σ : Type} (corpus : Corpus σ) : List String := corpus.keys ++ corpus.failed

/-- The corpus with a file that has been cut, and the state of the cutter after it. -/
def Corpus.keep {σ : Type} (corpus : Corpus σ) (key source : String) (chunks : List Chunk)
    (state : σ) : Corpus σ :=
  { corpus with
    files := Keyed.put key chunks corpus.files
    sources := Keyed.put key source corpus.sources
    state }

/-- The corpus with a path marked as failed. -/
def Corpus.giveUp {σ : Type} (corpus : Corpus σ) (path : String) : Corpus σ :=
  { corpus with failed := path :: corpus.failed }

/-- The chunks are what the cutter made of the text that was read under the path. -/
def CutFrom {σ : Type} (read : Reader) (cut : Cutter σ) (path : String) (chunks : List Chunk) :
    Prop :=
  ∃ source before after, read path = .ok source ∧ cut source path before = (.ok chunks, after)

namespace Corpus

variable {σ : Type} (corpus : Corpus σ) (key path source : String) (chunks : List Chunk)
  (state : σ)

@[simp] theorem failed_keep : (corpus.keep key source chunks state).failed = corpus.failed := rfl

@[simp] theorem files_keep :
    (corpus.keep key source chunks state).files = Keyed.put key chunks corpus.files := rfl

@[simp] theorem files_giveUp : (corpus.giveUp path).files = corpus.files := rfl

@[simp] theorem keys_giveUp : (corpus.giveUp path).keys = corpus.keys := rfl

@[simp] theorem failed_giveUp : (corpus.giveUp path).failed = path :: corpus.failed := rfl

theorem keys_keep_of_mem (h : key ∈ corpus.keys) :
    (corpus.keep key source chunks state).keys = corpus.keys := by
  have hhas : Keyed.has key corpus.files = true := (Keyed.has_iff_mem_keys key _).mpr h
  rw [keys, files_keep, Keyed.keys_put, if_pos hhas, keys]

theorem keys_keep_of_not_mem (h : key ∉ corpus.keys) :
    (corpus.keep key source chunks state).keys = corpus.keys ++ [key] := by
  have hhas : Keyed.has key corpus.files ≠ true := fun hhas =>
    h ((Keyed.has_iff_mem_keys key _).mp hhas)
  rw [keys, files_keep, Keyed.keys_put, if_neg hhas, keys]

theorem mem_keys_keep (other : String) :
    other ∈ (corpus.keep key source chunks state).keys ↔ other ∈ corpus.keys ∨ other = key := by
  by_cases h : key ∈ corpus.keys
  · rw [keys_keep_of_mem corpus key source chunks state h]
    constructor
    · exact fun hmem => Or.inl hmem
    · rintro (hmem | rfl)
      · exact hmem
      · exact h
  · rw [keys_keep_of_not_mem corpus key source chunks state h]
    simp

theorem mem_tried_keep (other : String) :
    other ∈ (corpus.keep key source chunks state).tried ↔ other ∈ corpus.tried ∨ other = key := by
  simp only [tried, List.mem_append, mem_keys_keep, failed_keep]
  constructor
  · rintro ((h | h) | h)
    · exact Or.inl (Or.inl h)
    · exact Or.inr h
    · exact Or.inl (Or.inr h)
  · rintro ((h | h) | h)
    · exact Or.inl (Or.inl h)
    · exact Or.inr h
    · exact Or.inl (Or.inr h)

theorem mem_tried_giveUp (other : String) :
    other ∈ (corpus.giveUp path).tried ↔ other ∈ corpus.tried ∨ other = path := by
  simp only [tried, List.mem_append, keys_giveUp, failed_giveUp, List.mem_cons]
  constructor
  · rintro (h | h | h)
    · exact Or.inl (Or.inl h)
    · exact Or.inr h
    · exact Or.inl (Or.inr h)
  · rintro ((h | h) | h)
    · exact Or.inl h
    · exact Or.inr (Or.inr h)
    · exact Or.inr (Or.inl h)

end Corpus

namespace Excerpt

variable {σ : Type} {read : Reader} {cut : Cutter σ}

/-! ## One operation -/

/-- A file is cut and kept, or cutting fails and only the cutter's state is new. -/
theorem addFile_cases {key path source : String} {corpus after : Corpus σ}
    {outcome : Option Failure} (h : addFile cut key path source corpus = (outcome, after)) :
    (∃ failure state, cut source path corpus.state = (.error failure, state) ∧
        outcome = some failure ∧ after = { corpus with state }) ∨
      (∃ chunks state, cut source path corpus.state = (.ok chunks, state) ∧
        outcome = none ∧ after = corpus.keep key source chunks state) := by
  unfold addFile at h
  split at h
  · rename_i failure state hcut
    obtain ⟨rfl, rfl⟩ := Prod.mk.inj h
    exact Or.inl ⟨failure, state, hcut, rfl, rfl⟩
  · rename_i chunks state hcut
    obtain ⟨rfl, rfl⟩ := Prod.mk.inj h
    exact Or.inr ⟨chunks, state, hcut, rfl, rfl⟩

/-- A file that an import leads to is interrupted with the files as they were, given up because
the limit is reached or the file cannot be read, or kept below the limit. -/
theorem tryFile_cases {maxFiles : Bound} {path : String} {corpus after : Corpus σ}
    {outcome : Option Failure} (h : tryFile read cut maxFiles path corpus = (outcome, after)) :
    (∃ failure, outcome = some failure ∧ after.files = corpus.files ∧
        after.failed = corpus.failed) ∨
      (outcome = none ∧ after = corpus.giveUp path ∧
        (maxFiles.reachedBy (.ofNat corpus.files.length) = true ∨
          ∃ failure, read path = .error failure)) ∨
      (outcome = none ∧ maxFiles.reachedBy (.ofNat corpus.files.length) = false ∧
        ∃ source chunks state, read path = .ok source ∧
          cut source path corpus.state = (.ok chunks, state) ∧
          after = corpus.keep path source chunks state) := by
  unfold tryFile at h
  split at h
  · rename_i failure _
    obtain ⟨rfl, rfl⟩ := Prod.mk.inj h
    exact Or.inl ⟨failure, rfl, rfl, rfl⟩
  · split at h
    · rename_i hfull
      obtain ⟨rfl, rfl⟩ := Prod.mk.inj h
      exact Or.inr (Or.inl ⟨rfl, rfl, Or.inl hfull⟩)
    · rename_i hroom
      have hroom' : maxFiles.reachedBy (.ofNat corpus.files.length) = false := by simpa using hroom
      split at h
      · rename_i source hread
        rcases addFile_cases h with
          ⟨failure, state, _, rfl, rfl⟩ | ⟨chunks, state, hcut, rfl, rfl⟩
        · exact Or.inl ⟨failure, rfl, rfl, rfl⟩
        · exact Or.inr (Or.inr ⟨rfl, hroom', source, chunks, state, hread, hcut, rfl⟩)
      · rename_i failure hread
        obtain ⟨rfl, rfl⟩ := Prod.mk.inj h
        exact Or.inr (Or.inl ⟨rfl, rfl, Or.inr ⟨failure, hread⟩⟩)

/-! ## Requested files -/

/-- What holds at first, survives an interruption, and survives a requested file that was not
there, holds after any list of requests. -/
theorem requested_induction (motive : Corpus σ → Prop) {requests : List RangeRequest}
    {corpus after : Corpus σ} {outcome : Option Failure}
    (h : requested read cut requests corpus = (outcome, after)) (hstart : motive corpus)
    (hstop : ∀ (corpus : Corpus σ) state, motive corpus → motive { corpus with state })
    (hkeep : ∀ (corpus : Corpus σ), ∀ request ∈ requests, ∀ source chunks state,
      motive corpus → Path.normalize request.filePath ∉ corpus.keys →
      read request.filePath = .ok source →
      cut source request.filePath corpus.state = (.ok chunks, state) →
      motive (corpus.keep (Path.normalize request.filePath) source chunks state)) :
    motive after := by
  induction requests generalizing corpus with
  | nil =>
      obtain ⟨-, rfl⟩ := Prod.mk.inj h
      exact hstart
  | cons request rest ih =>
      have hrest : ∀ (corpus : Corpus σ), ∀ request ∈ rest, ∀ source chunks state,
          motive corpus → Path.normalize request.filePath ∉ corpus.keys →
          read request.filePath = .ok source →
          cut source request.filePath corpus.state = (.ok chunks, state) →
          motive (corpus.keep (Path.normalize request.filePath) source chunks state) :=
        fun corpus other hother => hkeep corpus other (List.mem_cons_of_mem request hother)
      simp only [requested] at h
      split at h
      · exact ih h hstart hrest
      · rename_i hnew
        have hnew' : Path.normalize request.filePath ∉ corpus.keys := fun hmem =>
          hnew ((Keyed.has_iff_mem_keys _ _).mpr hmem)
        split at h
        · obtain ⟨-, rfl⟩ := Prod.mk.inj h
          exact hstart
        · rename_i source hread
          cases hadd : addFile cut (Path.normalize request.filePath) request.filePath source
              corpus with
          | mk outcome' after' =>
              rcases addFile_cases hadd with
                ⟨failure, state, _, rfl, rfl⟩ | ⟨chunks, state, hcut, rfl, rfl⟩
              · rw [hadd] at h
                obtain ⟨-, rfl⟩ := Prod.mk.inj h
                exact hstop corpus state hstart
              · rw [hadd] at h
                exact ih h (hkeep corpus request List.mem_cons_self source chunks state hstart
                  hnew' hread hcut) hrest

/-- A file that is there stays as it is while requested files are added. -/
theorem lookup_requested {requests : List RangeRequest} {corpus after : Corpus σ}
    {outcome : Option Failure} (h : requested read cut requests corpus = (outcome, after))
    {key : String} {chunks : List Chunk} (hkey : corpus.files.lookup key = some chunks) :
    after.files.lookup key = some chunks := by
  refine requested_induction (fun c => c.files.lookup key = some chunks) h hkey ?_ ?_
  · intro c state hc
    exact hc
  · intro c request _ source found state hc hnew _ _
    have hne : (key == Path.normalize request.filePath) = false := by
      rw [beq_eq_false_iff_ne]
      rintro rfl
      apply hnew
      exact (Keyed.has_iff_mem_keys _ _).mp
        ((Keyed.has_iff_exists_lookup _ c.files).mpr ⟨chunks, hc⟩)
    rw [Corpus.files_keep, Keyed.lookup_put, hne]
    exact hc

/-- When all requests have gone through, every requested file is there. -/
theorem lookup_of_requested {requests : List RangeRequest} {corpus after : Corpus σ}
    (h : requested read cut requests corpus = (none, after)) {request : RangeRequest}
    (hmem : request ∈ requests) :
    ∃ chunks, after.files.lookup (Path.normalize request.filePath) = some chunks := by
  induction requests generalizing corpus with
  | nil => exact absurd hmem List.not_mem_nil
  | cons first rest ih =>
      simp only [requested] at h
      split at h
      · rename_i hhas
        rcases List.mem_cons.mp hmem with rfl | hmem
        · obtain ⟨chunks, hchunks⟩ := (Keyed.has_iff_exists_lookup _ _).mp hhas
          exact ⟨chunks, lookup_requested h hchunks⟩
        · exact ih h hmem
      · split at h
        · exact absurd (Prod.mk.inj h).1 (by simp)
        · rename_i source hread
          cases hadd : addFile cut (Path.normalize first.filePath) first.filePath source
              corpus with
          | mk outcome' after' =>
              rcases addFile_cases hadd with
                ⟨failure, state, _, rfl, rfl⟩ | ⟨chunks, state, hcut, rfl, rfl⟩
              · rw [hadd] at h
                exact absurd (Prod.mk.inj h).1 (by simp)
              · rw [hadd] at h
                rcases List.mem_cons.mp hmem with rfl | hmem
                · refine ⟨chunks, lookup_requested h ?_⟩
                  rw [Corpus.files_keep, Keyed.lookup_put]
                  simp
                · exact ih h hmem

/-- A file of the corpus of requests was cut from the text read for a request of that key. -/
theorem cutFrom_of_requested {requests : List RangeRequest} {state : σ} {after : Corpus σ}
    {outcome : Option Failure} (h : requested read cut requests { state } = (outcome, after))
    {key : String} {chunks : List Chunk} (hkey : after.files.lookup key = some chunks) :
    ∃ request ∈ requests, Path.normalize request.filePath = key ∧
      CutFrom read cut request.filePath chunks := by
  have hall : ∀ key chunks, after.files.lookup key = some chunks →
      ∃ request ∈ requests, Path.normalize request.filePath = key ∧
        CutFrom read cut request.filePath chunks := by
    refine requested_induction (fun c => ∀ key chunks, c.files.lookup key = some chunks →
      ∃ request ∈ requests, Path.normalize request.filePath = key ∧
        CutFrom read cut request.filePath chunks) h ?_ ?_ ?_
    · intro key chunks hnone
      exact absurd hnone (by simp)
    · intro c state hc
      exact hc
    · intro c request hrequest source found after hc _ hread hcut key chunks hlookup
      rw [Corpus.files_keep, Keyed.lookup_put] at hlookup
      split at hlookup
      · rename_i hsame
        obtain rfl := Option.some.inj hlookup
        exact ⟨request, hrequest, (eq_of_beq hsame).symm, source, c.state, after, hread, hcut⟩
      · exact hc key chunks hlookup
  exact hall key chunks hkey

/-! ## Files that imports lead to -/

/-- What holds at first and survives that one file is tried holds after any list of files. -/
theorem tryFiles_induction (motive : Corpus σ → Prop) {maxFiles : Bound} {paths : List String}
    {corpus after : Corpus σ} {outcome : Option Failure}
    (h : tryFiles read cut maxFiles paths corpus = (outcome, after)) (hstart : motive corpus)
    (hstep : ∀ corpus path outcome after, motive corpus →
      tryFile read cut maxFiles path corpus = (outcome, after) → motive after) :
    motive after := by
  induction paths generalizing corpus with
  | nil =>
      obtain ⟨-, rfl⟩ := Prod.mk.inj h
      exact hstart
  | cons path rest ih =>
      simp only [tryFiles] at h
      cases hone : tryFile read cut maxFiles path corpus with
      | mk outcome' between =>
          have hbetween : motive between := hstep corpus path outcome' between hstart hone
          rw [hone] at h
          cases outcome' with
          | none => exact ih h hbetween
          | some failure =>
              obtain ⟨-, rfl⟩ := Prod.mk.inj h
              exact hbetween

/-- After files have been tried without interruption, they are all that has been tried anew. -/
theorem mem_tried_tryFiles {maxFiles : Bound} {paths : List String} {corpus after : Corpus σ}
    (h : tryFiles read cut maxFiles paths corpus = (none, after)) (other : String) :
    other ∈ after.tried ↔ other ∈ corpus.tried ∨ other ∈ paths := by
  induction paths generalizing corpus with
  | nil =>
      obtain ⟨-, rfl⟩ := Prod.mk.inj h
      simp
  | cons path rest ih =>
      simp only [tryFiles] at h
      cases hone : tryFile read cut maxFiles path corpus with
      | mk outcome between =>
          have hstep : outcome = none ∧
              (other ∈ between.tried ↔ other ∈ corpus.tried ∨ other = path) := by
            rcases tryFile_cases hone with
              ⟨failure, rfl, _, _⟩ | ⟨rfl, rfl, _⟩ |
                ⟨rfl, _, source, chunks, state, _, _, rfl⟩
            · rw [hone] at h
              exact absurd (Prod.mk.inj h).1 (by simp)
            · exact ⟨rfl, Corpus.mem_tried_giveUp corpus path other⟩
            · exact ⟨rfl, Corpus.mem_tried_keep corpus path source chunks state other⟩
          obtain ⟨rfl, hbetween⟩ := hstep
          rw [hone] at h
          rw [ih h, hbetween, List.mem_cons, or_assoc]

end Excerpt

end ChunkGraph
