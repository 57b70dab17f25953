import ChunkGraph.Excerpt.Basic

/-!
# The state of the cutter

An excerpt hands the state of the cutter on from file to file, and gives it back
also when something fails on the way. Between two cuts nothing touches it. So
what holds of the state at first, and is kept when a text that was read is cut,
holds of the state that is given back.

## Main results

* `Excerpt.addFile_state`, `Excerpt.tryFile_state` — one file.
* `Excerpt.requested_state`, `Excerpt.rounds_state` — files one after the other.
* `Excerpt.extract_state` — a whole excerpt.
-/

namespace ChunkGraph.Excerpt

variable {σ : Type} {read : Reader} {cut : Cutter σ} {motive : σ → Prop}

/-- A file is added: its text is cut once. -/
theorem addFile_state (key : String) {path source : String} {corpus : Corpus σ}
    (hcut : motive corpus.state → motive (cut source path corpus.state).2)
    (hstart : motive corpus.state) : motive (addFile cut key path source corpus).2.state := by
  have hafter := hcut hstart
  unfold addFile
  cases hfound : cut source path corpus.state with
  | mk found state =>
      rw [hfound] at hafter
      cases found with
      | error failure => exact hafter
      | ok chunks => exact hafter

section Keeping

variable (hcut : ∀ path source state, read path = .ok source → motive state →
  motive (cut source path state).2)
include hcut

/-- Requested files are added one after the other. -/
theorem requested_state (requests : List RangeRequest) (corpus : Corpus σ)
    (hstart : motive corpus.state) : motive (requested read cut requests corpus).2.state := by
  induction requests generalizing corpus with
  | nil => exact hstart
  | cons request rest ih =>
      simp only [requested]
      split
      · exact ih corpus hstart
      · split
        · exact hstart
        · rename_i source hread
          have hafter := addFile_state (Path.normalize request.filePath)
            (hcut request.filePath source corpus.state hread) hstart
          split
          · rename_i after hadd
            rw [hadd] at hafter
            exact ih after hafter
          · exact hafter

/-- A file that an import leads to is read and added, or is given up. -/
theorem tryFile_state (maxFiles : Bound) (path : String) {corpus : Corpus σ}
    (hstart : motive corpus.state) : motive (tryFile read cut maxFiles path corpus).2.state := by
  simp only [tryFile]
  split
  · exact hstart
  · split
    · exact hstart
    · split
      · rename_i source hread
        exact addFile_state _ (hcut path source corpus.state hread) hstart
      · exact hstart

/-- So are files one after the other. -/
theorem tryFiles_state (maxFiles : Bound) (paths : List String) {corpus : Corpus σ}
    (hstart : motive corpus.state) : motive (tryFiles read cut maxFiles paths corpus).2.state := by
  induction paths generalizing corpus with
  | nil => exact hstart
  | cons path rest ih =>
      have hafter := tryFile_state hcut maxFiles path hstart
      simp only [tryFiles]
      split
      · rename_i after htry
        rw [htry] at hafter
        exact ih hafter
      · exact hafter

/-- Rounds of discovery try files one round after the other. -/
theorem rounds_state {resolver : Resolver} {maxFiles : Bound} {ids : List String} {n : Nat}
    {corpus : Corpus σ} {reached : Reached} (hstart : motive corpus.state) :
    motive (rounds resolver read cut maxFiles ids n corpus reached).2.state := by
  induction n generalizing corpus reached with
  | zero => exact hstart
  | succ n ih =>
      simp only [rounds]
      split
      · exact hstart
      · have hafter := tryFiles_state hcut maxFiles
          (newFiles resolver corpus (ids ++ reached.ids)) hstart
        split
        · rename_i failure after htry
          rw [htry] at hafter
          exact hafter
        · rename_i after htry
          rw [htry] at hafter
          split
          · exact hafter
          · exact ih hafter

/-- An excerpt cuts texts that were read, and nothing else changes the state. -/
theorem extract_state (resolver : Resolver) (limits : Limits) (requests : List RangeRequest)
    {state : σ} (hstart : motive state) :
    motive (extract resolver limits read cut requests state).2 := by
  have hrequested := requested_state hcut requests { state } hstart
  simp only [extract]
  split
  · rename_i failure corpus hfound
    rw [hfound] at hrequested
    exact hrequested
  · rename_i corpus hfound
    rw [hfound] at hrequested
    simp only [complete, follow]
    split
    · exact hrequested
    · exact rounds_state hcut hrequested

end Keeping

end ChunkGraph.Excerpt
