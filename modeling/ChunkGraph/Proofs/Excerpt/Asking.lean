import ChunkGraph.Proofs.Excerpt.Corpus

/-!
# Which files a run reads

An excerpt is made with a function that gives the text of every path, so its
result does not show which texts were looked at. Here the same run is written
without that function: whenever it needs a text it stops, names the path and
goes on with the answer. Such a computation has no other way to the texts, so
the paths that it names are the files that it reads, in the order in which it
reads them. With a reader that answers, it is the run that makes the excerpt.

## Main definitions

* `Asking` — a computation that asks for texts.
* `Asking.run`, `Asking.reads` — its result with a reader, and the paths that it
  asks for.
* `Excerpt.extracting` — the run that makes an excerpt.

## Main results

* `Excerpt.run_extracting` — it has the result of `Excerpt.extract`.
-/

namespace ChunkGraph

/-- A computation that gets the texts of files only by asking for them. -/
inductive Asking (α : Type) where
  /-- It has ended. -/
  | done (result : α)
  /-- It needs the text of a path and goes on with it. -/
  | ask (path : String) (next : Except Failure String → Asking α)

namespace Asking

variable {α β : Type}

/-- One computation after the other. -/
def bind : Asking α → (α → Asking β) → Asking β
  | done result, next => next result
  | ask path after, next => ask path fun answer => (after answer).bind next

/-- The result when a reader answers. -/
def run (read : Reader) : Asking α → α
  | done result => result
  | ask path next => (next (read path)).run read

/-- The paths that are asked for when a reader answers, in order. -/
def reads (read : Reader) : Asking α → List String
  | done _ => []
  | ask path next => path :: (next (read path)).reads read

@[simp] theorem reads_done (read : Reader) (result : α) : (done result).reads read = [] := rfl

@[simp] theorem reads_ask (read : Reader) (path : String)
    (next : Except Failure String → Asking α) :
    (ask path next).reads read = path :: (next (read path)).reads read := rfl

@[simp] theorem run_ask (read : Reader) (path : String)
    (next : Except Failure String → Asking α) :
    (ask path next).run read = (next (read path)).run read := rfl

@[simp] theorem run_bind (read : Reader) (computation : Asking α) (next : α → Asking β) :
    (computation.bind next).run read = (next (computation.run read)).run read := by
  induction computation with
  | done result => rfl
  | ask path after ih => exact ih (read path)

@[simp] theorem reads_bind (read : Reader) (computation : Asking α) (next : α → Asking β) :
    (computation.bind next).reads read =
      computation.reads read ++ (next (computation.run read)).reads read := by
  induction computation with
  | done result => rfl
  | ask path after ih =>
      show (ask path fun answer => (after answer).bind next).reads read = _
      rw [reads_ask, reads_ask, ih (read path), run_ask, List.cons_append]

end Asking

namespace Excerpt

variable {σ : Type}

/-! ## The run -/

/-- The requested files are read and cut, each of them once. -/
def requesting (cut : Cutter σ) : List RangeRequest → Corpus σ → Asking (Progress σ)
  | [], corpus => .done (none, corpus)
  | request :: rest, corpus =>
      let key := Path.normalize request.filePath
      if Keyed.has key corpus.files then requesting cut rest corpus
      else
        .ask request.filePath fun
          | .error failure => .done (some failure, corpus)
          | .ok source =>
              match addFile cut key request.filePath source corpus with
              | (none, corpus) => requesting cut rest corpus
              | failed => .done failed

/-- A file that an import leads to is tried. -/
def tryingFile (cut : Cutter σ) (maxFiles : Bound) (path : String) (corpus : Corpus σ) :
    Asking (Progress σ) :=
  match maxFiles.fault? ">=" Bound.countType with
  | some failure => .done (some failure, corpus)
  | none =>
      if maxFiles.reachedBy (.ofNat corpus.files.length) then .done (none, corpus.giveUp path)
      else
        .ask path fun
          | .ok source => .done (addFile cut path path source corpus)
          | .error _ => .done (none, corpus.giveUp path)

/-- Files are tried one after the other. -/
def tryingFiles (cut : Cutter σ) (maxFiles : Bound) :
    List String → Corpus σ → Asking (Progress σ)
  | [], corpus => .done (none, corpus)
  | path :: rest, corpus =>
      (tryingFile cut maxFiles path corpus).bind fun
        | (none, corpus) => tryingFiles cut maxFiles rest corpus
        | failed => .done failed

/-- The rounds of discovery, at most as many as `n`. -/
def discovering (resolver : Resolver) (cut : Cutter σ) (maxFiles : Bound)
    (selectedIds : List String) :
    Nat → Corpus σ → Reached → Asking (Except Failure Reached × Corpus σ)
  | 0, corpus, reached => .done (.ok reached, corpus)
  | n + 1, corpus, reached =>
      match newFiles resolver corpus (selectedIds ++ reached.ids) with
      | [] => .done (.ok reached, corpus)
      | found =>
          (tryingFiles cut maxFiles found corpus).bind fun
            | (some failure, corpus) => .done (.error failure, corpus)
            | (none, corpus) =>
                match reach resolver corpus selectedIds with
                | .error failure => .done (.error failure, corpus)
                | .ok reached =>
                    discovering resolver cut maxFiles selectedIds n corpus reached

/-- What is reached from the selected chunks is followed. -/
def following (resolver : Resolver) (limits : Limits) (cut : Cutter σ)
    (selectedIds : List String) (corpus : Corpus σ) :
    Asking (Except Failure Reached × Corpus σ) :=
  match begin resolver limits corpus selectedIds with
  | .error failure => .done (.error failure, corpus)
  | .ok (reached, n) => discovering resolver cut limits.maxFiles selectedIds n corpus reached

/-- The excerpt of a corpus of requested files is made. -/
def completing (resolver : Resolver) (limits : Limits) (cut : Cutter σ)
    (requests : List RangeRequest) (corpus : Corpus σ) : Asking (Except Failure Excerpt × σ) :=
  let selected := select corpus.files requests
  (following resolver limits cut (selected.map (·.id)) corpus).bind fun (reached, corpus) =>
    .done (reached.bind (collect limits corpus selected), corpus.state)

/-- The excerpt of a list of requests is made. -/
def extracting (resolver : Resolver) (limits : Limits) (cut : Cutter σ)
    (requests : List RangeRequest) (state : σ) : Asking (Except Failure Excerpt × σ) :=
  (requesting cut requests { state }).bind fun
    | (some failure, corpus) => .done (.error failure, corpus.state)
    | (none, corpus) => completing resolver limits cut requests corpus

/-! ## With a reader that answers -/

variable (read : Reader) (cut : Cutter σ)

theorem run_requesting (requests : List RangeRequest) (corpus : Corpus σ) :
    (requesting cut requests corpus).run read = requested read cut requests corpus := by
  induction requests generalizing corpus with
  | nil => rfl
  | cons request rest ih =>
      unfold requesting requested
      simp only
      split
      · exact ih corpus
      · unfold Asking.run
        cases read request.filePath with
        | error failure => rfl
        | ok source =>
            simp only
            cases addFile cut (Path.normalize request.filePath) request.filePath source corpus with
            | mk outcome after =>
                cases outcome with
                | none => exact ih after
                | some failure => rfl

theorem run_tryingFile (maxFiles : Bound) (path : String) (corpus : Corpus σ) :
    (tryingFile cut maxFiles path corpus).run read = tryFile read cut maxFiles path corpus := by
  unfold tryingFile tryFile
  cases maxFiles.fault? ">=" Bound.countType with
  | some failure => rfl
  | none =>
      simp only
      split
      · rfl
      · unfold Asking.run
        cases read path with
        | error failure => rfl
        | ok source => rfl

theorem run_tryingFiles (maxFiles : Bound) (paths : List String) (corpus : Corpus σ) :
    (tryingFiles cut maxFiles paths corpus).run read = tryFiles read cut maxFiles paths corpus := by
  induction paths generalizing corpus with
  | nil => rfl
  | cons path rest ih =>
      unfold tryingFiles tryFiles
      rw [Asking.run_bind, run_tryingFile]
      cases tryFile read cut maxFiles path corpus with
      | mk outcome after =>
          cases outcome with
          | none => exact ih after
          | some failure => rfl

theorem run_discovering (resolver : Resolver) (maxFiles : Bound) (selectedIds : List String)
    (n : Nat) (corpus : Corpus σ) (reached : Reached) :
    (discovering resolver cut maxFiles selectedIds n corpus reached).run read =
      rounds resolver read cut maxFiles selectedIds n corpus reached := by
  induction n generalizing corpus reached with
  | zero => rfl
  | succ n ih =>
      unfold discovering rounds
      cases newFiles resolver corpus (selectedIds ++ reached.ids) with
      | nil => rfl
      | cons path rest =>
          simp only
          rw [Asking.run_bind, run_tryingFiles]
          cases tryFiles read cut maxFiles (path :: rest) corpus with
          | mk outcome after =>
              cases outcome with
              | some failure => rfl
              | none =>
                  simp only
                  cases reach resolver after selectedIds with
                  | error failure => rfl
                  | ok next => exact ih after next

theorem run_following (resolver : Resolver) (limits : Limits) (selectedIds : List String)
    (corpus : Corpus σ) :
    (following resolver limits cut selectedIds corpus).run read =
      follow resolver limits read cut selectedIds corpus := by
  unfold following follow
  cases begin resolver limits corpus selectedIds with
  | error failure => rfl
  | ok first =>
      obtain ⟨reached, n⟩ := first
      exact run_discovering read cut resolver limits.maxFiles selectedIds n corpus reached

/-- With a reader that answers, the run makes the excerpt. -/
theorem run_extracting (resolver : Resolver) (limits : Limits) (requests : List RangeRequest)
    (state : σ) :
    (extracting resolver limits cut requests state).run read =
      extract resolver limits read cut requests state := by
  unfold extracting extract
  rw [Asking.run_bind, run_requesting]
  cases requested read cut requests { state } with
  | mk outcome corpus =>
      cases outcome with
      | some failure => rfl
      | none =>
          simp only
          unfold completing complete
          simp only
          rw [Asking.run_bind, run_following]
          rfl

end Excerpt

end ChunkGraph
