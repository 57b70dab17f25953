import ChunkGraph.Proofs.Excerpt.Corpus

/-!
# Rounds of discovery

What the rounds of discovery do is a relation between stages: a stage is a
corpus with what is reached in its graph, and a round leads from a stage that
has new files to the stage after they have been tried. The loop that runs the
rounds can end in three ways, and `rounds_cases` says for each of them which
rounds have been run: at a stage without new files, after the last round that
is allowed, or in the middle of a round because something has failed.

## Main definitions

* `Discovery`, `Stage` — what rounds are run with, and what they change.
* `discovery` — the rounds of an excerpt.
* `Discovery.Round`, `Discovery.Runs` — one round, and any number of them.
* `Discovery.Interrupted` — a round in which something fails.

## Main results

* `Discovery.found_eq_nil_or_round_or_interrupted` — what can happen at a stage.
* `Discovery.rounds_cases` — the three ends of the loop.
* `Discovery.follow_eq_ok` — the same from a corpus of requested files on.
* `Discovery.Runs.reach` — at every stage the graph is that of its corpus.
-/

namespace ChunkGraph.Excerpt

variable {σ : Type}

/-- What rounds of discovery are run with. -/
structure Discovery (σ : Type) where
  /-- Resolves the specifiers of imports. -/
  resolver : Resolver
  /-- Reads files. -/
  read : Reader
  /-- Cuts them. -/
  cut : Cutter σ
  /-- Greatest number of files. -/
  maxFiles : Bound
  /-- The identities of the selected chunks. -/
  selectedIds : List String

/-- The rounds of an excerpt whose requested files are those of a corpus. -/
def discovery (resolver : Resolver) (limits : Limits) (read : Reader) (cut : Cutter σ)
    (requests : List RangeRequest) (start : Corpus σ) : Discovery σ :=
  { resolver, read, cut, maxFiles := limits.maxFiles
    selectedIds := (select start.files requests).map (·.id) }

/-- A moment between two rounds. -/
structure Stage (σ : Type) where
  /-- The files so far. -/
  corpus : Corpus σ
  /-- Their graph, and what is reached in it. -/
  reached : Reached

namespace Discovery

variable (w : Discovery σ)

/-- The files that the chunks known at a stage lead to and that have not been tried. -/
def found (s : Stage σ) : List String :=
  newFiles w.resolver s.corpus (w.selectedIds ++ s.reached.ids)

/-- A round that has files to try and goes through. -/
structure Round (before after : Stage σ) : Prop where
  found_ne_nil : w.found before ≠ []
  tried : tryFiles w.read w.cut w.maxFiles (w.found before) before.corpus = (none, after.corpus)
  reach : reach w.resolver after.corpus w.selectedIds = .ok after.reached

/-- A number of rounds, one after the other. -/
inductive Runs : Nat → Stage σ → Stage σ → Prop
  | none (s : Stage σ) : Runs 0 s s
  | round {k : Nat} {s t u : Stage σ} (h : Runs k s t) (hround : w.Round t u) : Runs (k + 1) s u

/-- A round in which something fails: a file cannot be cut or counted, or afterwards the graph
cannot be built. -/
inductive Interrupted (s : Stage σ) : Failure → Corpus σ → Prop
  | trying {failure : Failure} {corpus : Corpus σ}
      (h : tryFiles w.read w.cut w.maxFiles (w.found s) s.corpus = (some failure, corpus)) :
      Interrupted s failure corpus
  | building {failure : Failure} {corpus : Corpus σ}
      (htried : tryFiles w.read w.cut w.maxFiles (w.found s) s.corpus = (Option.none, corpus))
      (h : Builder.buildFault? w.resolver corpus.chunks = some failure) :
      Interrupted s failure corpus

variable {w}

/-- A round put in front of others. -/
theorem Runs.head {k : Nat} {s t u : Stage σ} (hround : w.Round s t) (h : w.Runs k t u) :
    w.Runs (k + 1) s u := by
  induction h with
  | none t => exact (Runs.none s).round hround
  | round _ hlast ih => exact (ih hround).round hlast

/-! ## What is reached -/

/-- A graph is built unless a specifier cannot be resolved, and the closure is that of the graph. -/
theorem reach_eq_ok_iff {resolver : Resolver} {corpus : Corpus σ} {ids : List String}
    {reached : Reached} :
    reach resolver corpus ids = .ok reached ↔
      Builder.buildFault? resolver corpus.chunks = .none ∧
        reached.graph = Builder.build resolver corpus.chunks ∧
        reached.ids = closure reached.graph ids := by
  unfold Excerpt.reach
  cases Builder.buildFault? resolver corpus.chunks with
  | some failure => simp
  | none =>
      obtain ⟨graph, reachedIds⟩ := reached
      simp only [Except.ok.injEq, Reached.mk.injEq, true_and]
      constructor
      · rintro ⟨rfl, rfl⟩
        exact ⟨rfl, rfl⟩
      · rintro ⟨rfl, rfl⟩
        exact ⟨rfl, rfl⟩

theorem reach_eq_error_iff {resolver : Resolver} {corpus : Corpus σ} {ids : List String}
    {failure : Failure} :
    reach resolver corpus ids = .error failure ↔
      Builder.buildFault? resolver corpus.chunks = some failure := by
  unfold Excerpt.reach
  cases Builder.buildFault? resolver corpus.chunks with
  | some other => simp
  | none => simp

/-- At every stage the graph is that of the corpus. -/
theorem Runs.reach {k : Nat} {s t : Stage σ} (h : w.Runs k s t)
    (hs : reach w.resolver s.corpus w.selectedIds = .ok s.reached) :
    Excerpt.reach w.resolver t.corpus w.selectedIds = .ok t.reached := by
  cases h with
  | none => exact hs
  | round _ hround => exact hround.reach

/-! ## The loop -/

/-- Without new files the loop ends. -/
theorem rounds_of_found_eq_nil {s : Stage σ} (n : Nat) (h : w.found s = []) :
    rounds w.resolver w.read w.cut w.maxFiles w.selectedIds (n + 1) s.corpus s.reached =
      (.ok s.reached, s.corpus) := by
  rw [found] at h
  simp only [rounds, h]

/-- A failure while new files are tried ends the loop. -/
theorem rounds_of_trying {s : Stage σ} (n : Nat) {failure : Failure} {corpus : Corpus σ}
    (hfound : w.found s ≠ [])
    (htried : tryFiles w.read w.cut w.maxFiles (w.found s) s.corpus = (some failure, corpus)) :
    rounds w.resolver w.read w.cut w.maxFiles w.selectedIds (n + 1) s.corpus s.reached =
      (.error failure, corpus) := by
  unfold found at hfound htried
  rw [rounds]
  split
  · rename_i hnil
    exact absurd hnil hfound
  · rw [htried]

/-- So does a graph that cannot be built. -/
theorem rounds_of_building {s : Stage σ} (n : Nat) {failure : Failure} {corpus : Corpus σ}
    (hfound : w.found s ≠ [])
    (htried : tryFiles w.read w.cut w.maxFiles (w.found s) s.corpus = (.none, corpus))
    (hreach : Excerpt.reach w.resolver corpus w.selectedIds = .error failure) :
    rounds w.resolver w.read w.cut w.maxFiles w.selectedIds (n + 1) s.corpus s.reached =
      (.error failure, corpus) := by
  unfold found at hfound htried
  rw [rounds]
  split
  · rename_i hnil
    exact absurd hnil hfound
  · rw [htried]
    simp only [hreach]

/-- Otherwise the loop goes on from the stage after the round. -/
theorem rounds_of_round {s t : Stage σ} (n : Nat) (h : w.Round s t) :
    rounds w.resolver w.read w.cut w.maxFiles w.selectedIds (n + 1) s.corpus s.reached =
      rounds w.resolver w.read w.cut w.maxFiles w.selectedIds n t.corpus t.reached := by
  obtain ⟨hfound, htried, hreach⟩ := h
  unfold found at hfound htried
  rw [rounds]
  split
  · rename_i hnil
    exact absurd hnil hfound
  · rw [htried]
    simp only [hreach]

/-- A stage has no new files, or a round leads on from it, or something fails in it. -/
theorem found_eq_nil_or_round_or_interrupted (s : Stage σ) :
    w.found s = [] ∨ (∃ t, w.Round s t) ∨
      ∃ failure corpus, w.Interrupted s failure corpus ∧ ∀ n,
        rounds w.resolver w.read w.cut w.maxFiles w.selectedIds (n + 1) s.corpus s.reached =
          (.error failure, corpus) := by
  by_cases hfound : w.found s = []
  · exact Or.inl hfound
  · cases htried : tryFiles w.read w.cut w.maxFiles (w.found s) s.corpus with
    | mk outcome corpus =>
        cases outcome with
        | some failure =>
            exact Or.inr (Or.inr ⟨failure, corpus, .trying htried,
              fun n => rounds_of_trying n hfound htried⟩)
        | none =>
            cases hreach : Excerpt.reach w.resolver corpus w.selectedIds with
            | error failure =>
                exact Or.inr (Or.inr ⟨failure, corpus,
                  .building htried (reach_eq_error_iff.mp hreach),
                  fun n => rounds_of_building n hfound htried hreach⟩)
            | ok reached =>
                exact Or.inr (Or.inl ⟨⟨corpus, reached⟩, hfound, htried, hreach⟩)

/-- The three ends of the loop: at a stage without new files before the rounds have run out, at
the stage where they have, or with a failure in the middle of a round. -/
theorem rounds_cases (n : Nat) (s : Stage σ) :
    (∃ k t, k < n ∧ w.Runs k s t ∧ w.found t = [] ∧
        rounds w.resolver w.read w.cut w.maxFiles w.selectedIds n s.corpus s.reached =
          (.ok t.reached, t.corpus)) ∨
      (∃ t, w.Runs n s t ∧
        rounds w.resolver w.read w.cut w.maxFiles w.selectedIds n s.corpus s.reached =
          (.ok t.reached, t.corpus)) ∨
      (∃ k t failure corpus, k < n ∧ w.Runs k s t ∧ w.Interrupted t failure corpus ∧
        rounds w.resolver w.read w.cut w.maxFiles w.selectedIds n s.corpus s.reached =
          (.error failure, corpus)) := by
  induction n generalizing s with
  | zero => exact Or.inr (Or.inl ⟨s, Runs.none s, rfl⟩)
  | succ n ih =>
      rcases found_eq_nil_or_round_or_interrupted (w := w) s with
        hfound | ⟨next, hround⟩ | ⟨failure, corpus, hint, heq⟩
      · exact Or.inl ⟨0, s, Nat.succ_pos n, Runs.none s, hfound, rounds_of_found_eq_nil n hfound⟩
      · rw [rounds_of_round n hround]
        rcases ih next with
          ⟨k, t, hk, hruns, hnil, heq⟩ | ⟨t, hruns, heq⟩ |
            ⟨k, t, failure, last, hk, hruns, hint, heq⟩
        · exact Or.inl ⟨k + 1, t, Nat.succ_lt_succ hk, hruns.head hround, hnil, heq⟩
        · exact Or.inr (Or.inl ⟨t, hruns.head hround, heq⟩)
        · exact Or.inr (Or.inr ⟨k + 1, t, failure, last, Nat.succ_lt_succ hk, hruns.head hround,
            hint, heq⟩)
      · exact Or.inr (Or.inr ⟨0, s, failure, corpus, Nat.succ_pos n, Runs.none s, hint, heq n⟩)

/-- The loop is entered when the graph of the requested files is built and the greatest number of
rounds says how often something is done. -/
theorem begin_eq_ok_iff {resolver : Resolver} {limits : Limits} {corpus : Corpus σ}
    {ids : List String} {reached : Reached} {n : Nat} :
    Excerpt.begin resolver limits corpus ids = .ok (reached, n) ↔
      Excerpt.reach resolver corpus ids = .ok reached ∧ limits.maxRounds.count = .ok n := by
  unfold Excerpt.begin
  cases Excerpt.reach resolver corpus ids with
  | error failure => simp [bind, Except.bind]
  | ok found =>
      cases limits.maxRounds.count with
      | error failure => simp [bind, Except.bind]
      | ok m => simp [bind, Except.bind, pure, Except.pure]

/-- What comes out of the loop without a failure is a stage that some rounds lead to from the
first one, and there are no new files unless the rounds have run out. -/
theorem follow_eq_ok {limits : Limits} (hmax : w.maxFiles = limits.maxFiles) {start : Corpus σ}
    {reached : Reached} {corpus : Corpus σ}
    (h : follow w.resolver limits w.read w.cut w.selectedIds start = (.ok reached, corpus)) :
    ∃ first n k, Excerpt.reach w.resolver start w.selectedIds = .ok first ∧
      limits.maxRounds.count = .ok n ∧ w.Runs k ⟨start, first⟩ ⟨corpus, reached⟩ ∧
      (k < n ∧ w.found ⟨corpus, reached⟩ = [] ∨ k = n) := by
  unfold follow at h
  split at h
  · exact absurd (Prod.mk.inj h).1 (by simp)
  · rename_i first n hbegin
    obtain ⟨hfirst, hn⟩ := begin_eq_ok_iff.mp hbegin
    rw [← hmax] at h
    rcases w.rounds_cases n ⟨start, first⟩ with
      ⟨k, t, hk, hruns, hnil, heq⟩ | ⟨t, hruns, heq⟩ | ⟨k, t, failure, last, _, _, _, heq⟩
    · rw [heq] at h
      obtain ⟨hreached, hcorpus⟩ := Prod.mk.inj h
      obtain rfl := Except.ok.inj hreached
      subst hcorpus
      exact ⟨first, n, k, hfirst, hn, hruns, Or.inl ⟨hk, hnil⟩⟩
    · rw [heq] at h
      obtain ⟨hreached, hcorpus⟩ := Prod.mk.inj h
      obtain rfl := Except.ok.inj hreached
      subst hcorpus
      exact ⟨first, n, n, hfirst, hn, hruns, Or.inr rfl⟩
    · rw [heq] at h
      exact absurd (Prod.mk.inj h).1 (by simp)

end Discovery

end ChunkGraph.Excerpt
