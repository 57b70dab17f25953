import ChunkGraph.Proofs.Data.Keyed
import ChunkGraph.Proofs.Excerpt.State
import ChunkGraph.Service.Basic

/-!
# Histories of a service

Between two calls files may change in any way, and time goes by. So an event of
a history is a call with the disk as it is then, and with how long the service
has been left alone before. What parses texts stays the same.

Whatever a call does to a service it does by a few operations: a text that was
given or read is cut, the chunks of a file are asked for, chunks are remembered,
and something is forgotten. What each of them keeps, every call keeps.

## Main definitions

* `Service.Call`, `Service.Call.run` — what is asked of a service, and the chunks
  in its answer.
* `Service.Event`, `Service.after` — a history, and the service after it.
* `Service.Call.Gives` — a text that is given in a call.
* `Service.Asked` — everything that asking for the chunks of a file can do.

## Main results

* `Service.boundFault?_whole` — bounds that can be kept.
* `Service.asked_chunkFile` — what asking for the chunks of a file does.
* `Service.Call.run_induction` — what the operations of a call keep, it keeps.
* `Service.after_induction` — what every event keeps, a history keeps.
-/

namespace ChunkGraph.Service

open Syntax

/-! ## Calls -/

/-- A call to a service. -/
inductive Call where
  /-- The chunks of a text are asked for. -/
  | code (source : SourceText) (path : String) (options : Option Options)
  /-- The chunks of a file are asked for. -/
  | file (path : String) (options : Option Options)
  /-- The chunks of several files are asked for. -/
  | files (paths : List String) (options : Option Options)
  /-- The chunks of the files below a directory are asked for. -/
  | directory (path : String) (selection : Selection) (options : Option Options)
  /-- An excerpt is asked for. -/
  | extract (requests : List RangeRequest)
  /-- What is kept for one file, or for all, is dropped. -/
  | invalidate (path : Option String)
  /-- Everything that is kept is dropped. -/
  | clear

namespace Call

/-- The chunks in the answer to a call, or why there is no answer, and the service after it. -/
def run (w : World) (s : Service) : Call → Except Failure (List Chunk) × Service
  | code source path options => s.chunkCode w source path options
  | file path options => s.chunkFile w path options
  | files paths options =>
      ((s.chunkFiles w paths options).1.map (·.chunks), (s.chunkFiles w paths options).2)
  | directory path selection options =>
      ((s.chunkDirectory w path selection options).1.map (·.chunks),
        (s.chunkDirectory w path selection options).2)
  | extract requests => ((s.extract w requests).1.map (·.all), (s.extract w requests).2)
  | invalidate path => (.ok [], s.invalidate path)
  | clear => (.ok [], s.clearCaches)

/-- The text is given in the call, for a path. -/
def Gives : Call → String → String → Prop
  | code source path _, givenPath, given => path = givenPath ∧ source = .chars given
  | _, _, _ => False

end Call

/-- A call, with the disk as it is at the time and how long the service has been left alone. -/
structure Event where
  /-- The files. -/
  disk : Disk
  /-- How far the clock has gone on since the call before. -/
  pause : Nat := 0
  /-- What is asked. -/
  call : Call

/-- The service after it has been left alone. -/
def wait (s : Service) (pause : Nat) : Service := { s with ticks := s.ticks + pause }

/-- The service after an event. -/
def Event.after (parser : Parser) (patterns : PatternReader) (s : Service) (e : Event) : Service :=
  (e.call.run ⟨e.disk, parser, patterns⟩ (s.wait e.pause)).2

/-- The service after a history. -/
def after (parser : Parser) (patterns : PatternReader) (history : List Event) (s : Service) :
    Service :=
  history.foldl (Event.after parser patterns) s

/-- What every event of a history keeps, the history keeps. -/
theorem after_induction {parser : Parser} {patterns : PatternReader} {motive : Service → Prop}
    {history : List Event} {s : Service} (hstart : motive s)
    (hevent : ∀ e ∈ history, ∀ s, motive s → motive (e.after parser patterns s)) :
    motive (after parser patterns history s) := by
  induction history generalizing s with
  | nil => exact hstart
  | cons e rest ih =>
      have hfirst : motive (e.after parser patterns s) := hevent e List.mem_cons_self s hstart
      exact ih hfirst fun other hother => hevent other (List.mem_cons_of_mem e hother)

/-! ## Bounded memories -/

/-- What a bounded memory keeps is the end of what it was to keep. -/
theorem lastWithin_suffix {α : Type} (bound : Bound) (items : List α) :
    lastWithin bound items <:+ items := by
  induction items with
  | nil => exact List.suffix_refl []
  | cons item items ih =>
      unfold lastWithin
      split
      · exact ih.trans (List.suffix_cons item items)
      · exact List.suffix_refl (item :: items)

/-- A number that is not negative can bound a memory. -/
theorem boundFault?_whole {n : Int} (h : 0 ≤ n) : boundFault? (.whole n) = none := by
  unfold boundFault?
  rw [Bound.fault?_whole, Bound.passedBy_whole, decide_eq_false (Int.not_lt.mpr h)]
  rfl

/-! ## One operation -/

/-- The chunks that are given for a file without cutting it; a call that brings options gets none
so. -/
def keptNow? (s : Service) (path : String) (options : Option Options) (marker : Disk.Marker) :
    Option (List Chunk) :=
  if options.isNone then s.keptFor? path marker else none

/-- The service after the chunks of a file have been kept, which a call that brings options does
not do. -/
def keepPlain (s : Service) (options : Option Options) (path : String) (file : CachedFile) :
    Service :=
  if options.isNone then (s.keepFile path file).2 else s

section ChunkFile

variable {w : World} {s : Service} {path : String} {options : Option Options}

/-- Cutting changes the clock and what cuts files, and nothing else. -/
@[simp] theorem settings_cut (source : SourceText) :
    (s.cut w.parser options source path).2.settings = s.settings := rfl

@[simp] theorem root_cut (source : SourceText) :
    (s.cut w.parser options source path).2.root = s.root := rfl

@[simp] theorem files_cut (source : SourceText) :
    (s.cut w.parser options source path).2.files = s.files := rfl

@[simp] theorem known_cut (source : SourceText) :
    (s.cut w.parser options source path).2.known = s.known := rfl

@[simp] theorem maxKnown_cut (source : SourceText) :
    (s.cut w.parser options source path).2.maxKnown = s.maxKnown := rfl

/-- Chunks that are given without cutting were kept with the marker that the file has. -/
theorem keptNow?_eq_some {marker : Disk.Marker} {chunks : List Chunk}
    (h : s.keptNow? path options marker = some chunks) :
    options = none ∧ (path, ⟨marker, chunks⟩) ∈ s.files := by
  cases options with
  | some given => exact absurd h (by simp [keptNow?])
  | none =>
      obtain ⟨file, hfile, rfl⟩ := Option.map_eq_some_iff.mp h
      obtain ⟨hlookup, hsame⟩ := Option.filter_eq_some_iff.mp hfile
      obtain rfl := eq_of_beq hsame
      exact ⟨rfl, Keyed.mem_of_lookup hlookup⟩

/-- When a memory has been asked to keep something, all went well or its bound is at fault. -/
theorem answer_eq {α : Type} (result : α) (after : Option Failure × Service) :
    answer result after =
      (match after.1 with
        | some failure => .error failure
        | none => .ok result, after.2) := by
  obtain ⟨fault, s⟩ := after
  cases fault with
  | some failure => rfl
  | none => rfl

/-- Everything that asking for the chunks of a file can do. -/
inductive Asked (w : World) (s : Service) (path : String) (options : Option Options) :
    Except Failure (List Chunk) × Service → Prop
  /-- The file cannot be looked at. -/
  | unseen {failure : Failure} (hmarker : w.disk.marker (s.diskPath path) = .error failure) :
      Asked w s path options (.error failure, s)
  /-- What is kept is given. -/
  | kept {marker : Disk.Marker} {chunks : List Chunk}
      (hmarker : w.disk.marker (s.diskPath path) = .ok marker)
      (hkept : s.keptNow? path options marker = some chunks) :
      Asked w s path options (.ok chunks, s)
  /-- The file cannot be read. -/
  | unread {marker : Disk.Marker} {failure : Failure}
      (hmarker : w.disk.marker (s.diskPath path) = .ok marker)
      (hnew : s.keptNow? path options marker = none)
      (hread : w.disk.readText (s.diskPath path) = .error failure) :
      Asked w s path options (.error failure, s)
  /-- Its text cannot be cut. -/
  | uncut {marker : Disk.Marker} {code : String} {failure : Failure}
      (hmarker : w.disk.marker (s.diskPath path) = .ok marker)
      (hnew : s.keptNow? path options marker = none)
      (hread : w.disk.readText (s.diskPath path) = .ok code)
      (hcut : (s.cut w.parser options code path).1 = .error failure) :
      Asked w s path options (.error failure, (s.cut w.parser options code path).2)
  /-- Its chunks cannot be kept. -/
  | unkept {marker : Disk.Marker} {code : String} {chunks : List Chunk} {failure : Failure}
      (hmarker : w.disk.marker (s.diskPath path) = .ok marker)
      (hnew : s.keptNow? path options marker = none)
      (hread : w.disk.readText (s.diskPath path) = .ok code)
      (hcut : (s.cut w.parser options code path).1 = .ok chunks)
      (hplain : options = none) (hfault : boundFault? s.settings.fileCapacity = some failure) :
      Asked w s path options (.error failure,
        ((s.cut w.parser options code path).2.keepFile path ⟨marker, chunks⟩).2)
  /-- Its chunks are kept, unless the call brings options, and remembered. -/
  | remembered {marker : Disk.Marker} {code : String} {chunks : List Chunk}
      (hmarker : w.disk.marker (s.diskPath path) = .ok marker)
      (hnew : s.keptNow? path options marker = none)
      (hread : w.disk.readText (s.diskPath path) = .ok code)
      (hcut : (s.cut w.parser options code path).1 = .ok chunks) :
      Asked w s path options
        (answer chunks (((s.cut w.parser options code path).2.keepPlain options path
          ⟨marker, chunks⟩).remember chunks))

/-- Asking for the chunks of a file does one of these. -/
theorem asked_chunkFile (w : World) (s : Service) (path : String) (options : Option Options) :
    Asked w s path options (s.chunkFile w path options) := by
  unfold chunkFile
  cases hmarker : w.disk.marker (s.diskPath path) with
  | error failure => exact .unseen hmarker
  | ok marker =>
      simp only
      rw [show (if options.isNone then s.keptFor? path marker else none) =
        s.keptNow? path options marker from rfl]
      cases hnew : s.keptNow? path options marker with
      | some chunks => exact .kept hmarker hnew
      | none =>
          simp only
          unfold chunkRead
          cases hread : w.disk.readText (s.diskPath path) with
          | error failure => exact .unread hmarker hnew hread
          | ok code =>
              simp only
              have hafter : s.cut w.parser options code path =
                ((s.cut w.parser options code path).1, (s.cut w.parser options code path).2) := rfl
              rw [hafter]
              cases hcut : (s.cut w.parser options code path).1 with
              | error failure => exact .uncut hmarker hnew hread hcut
              | ok chunks =>
                  cases options with
                  | some given => exact .remembered hmarker hnew hread hcut
                  | none =>
                      simp only [Option.isNone_none, if_true, keepFile, settings_cut]
                      cases hfault : boundFault? s.settings.fileCapacity with
                      | some failure => exact .unkept hmarker hnew hread hcut rfl hfault
                      | none => exact .remembered hmarker hnew hread hcut

end ChunkFile

/-! ## Several files -/

section Several

variable {w : World} {options : Option Options} {motive : Service → Prop}

/-- What holds when the chunks of each file have been asked for holds at the end. -/
theorem chunkEach_induction {paths : List String} {s : Service} (hstart : motive s)
    (hfile : ∀ s, ∀ path ∈ paths, motive s → motive (s.chunkFile w path options).2) :
    motive (chunkEach w options paths s).2 := by
  induction paths generalizing s with
  | nil => exact hstart
  | cons path rest ih =>
      have hfirst := hfile s path List.mem_cons_self hstart
      simp only [chunkEach]
      split
      · rename_i failure after hone
        rw [hone] at hfirst
        exact hfirst
      · rename_i chunks after hone
        rw [hone] at hfirst
        exact ih hfirst fun s other hother => hfile s other (List.mem_cons_of_mem path hother)

/-- So it does when files that cannot be read are passed over. -/
theorem chunkReadable_induction {paths : List String} {s : Service} (hstart : motive s)
    (hfile : ∀ s, ∀ path ∈ paths, motive s → motive (s.chunkFile w path options).2) :
    motive (chunkReadable w options paths s).2 := by
  induction paths generalizing s with
  | nil => exact hstart
  | cons path rest ih =>
      have hfirst := hfile s path List.mem_cons_self hstart
      have hrest : ∀ s, ∀ path ∈ rest, motive s → motive (s.chunkFile w path options).2 :=
        fun s other hother => hfile s other (List.mem_cons_of_mem path hother)
      simp only [chunkReadable]
      split
      · rename_i chunks after hone
        rw [hone] at hfirst
        exact ih hfirst hrest
      · rename_i failure after hone
        rw [hone] at hfirst
        split
        · exact ih hfirst hrest
        · exact hfirst

end Several

/-! ## One call -/

/-- What every operation of a call keeps, the call keeps. -/
theorem Call.run_induction {w : World} {motive : Service → Prop} {s : Service} (call : Call)
    (hstart : motive s)
    (hcut : ∀ t source path options,
      (∀ code, source = .chars code →
        call.Gives path code ∨ w.disk.readText (s.diskPath path) = .ok code) →
      motive t → motive (t.cut w.parser options source path).2)
    (hremember : ∀ t chunks, motive t → motive (t.remember chunks).2)
    (hfile : ∀ t path options, motive t → motive (t.chunkFile w path options).2)
    (hinvalidate : ∀ t path, motive t → motive (t.invalidate path))
    (hclear : ∀ t, motive t → motive t.clearCaches) : motive (call.run w s).2 := by
  cases call with
  | code source path options =>
      have hafter := hcut s source path options (fun code hcode => Or.inl ⟨rfl, hcode⟩) hstart
      show motive (s.chunkCode w source path options).2
      unfold chunkCode
      split
      · rename_i failure after hfound
        rw [hfound] at hafter
        exact hafter
      · rename_i chunks after hfound
        rw [hfound] at hafter
        rw [answer_eq]
        exact hremember after chunks hafter
  | file path options => exact hfile s path options hstart
  | files paths options =>
      exact chunkEach_induction hstart fun t path _ ht => hfile t path options ht
  | directory path selection options =>
      show motive (s.chunkDirectory w path selection options).2
      unfold chunkDirectory
      split
      · exact hstart
      · exact chunkReadable_induction hstart fun t path _ ht => hfile t path options ht
  | extract requests =>
      show motive (s.extract w requests).2
      unfold Service.extract
      split
      · exact hstart
      · rename_i resolver _
        have hafter : motive (Excerpt.extract resolver s.settings.limits
            (fun path => w.disk.readText (s.diskPath path)) (cutText w.parser none) requests s).2 :=
          Excerpt.extract_state (fun path code t hread ht => hcut t code path none
              (fun other hother => Or.inr (SourceText.chars.inj hother ▸ hread)) ht)
            resolver s.settings.limits requests hstart
        simp only
        split
        · rename_i failure after hfound
          rw [hfound] at hafter
          exact hafter
        · rename_i excerpt after hfound
          rw [hfound] at hafter
          rw [answer_eq]
          exact hremember after excerpt.all hafter
  | invalidate path => exact hinvalidate s path hstart
  | clear => exact hclear s hstart

end ChunkGraph.Service
