import ChunkGraph.Proofs.Chunker.Session
import ChunkGraph.Proofs.Data.Keyed
import ChunkGraph.Proofs.Service.History

/-!
# Chunks of files are never stale

A service keeps the chunks of a file with the marker that the file had, and its
chunker keeps trees with the hash of their text. Neither shows in an answer:
whatever has been asked before and however the files have changed since, the
chunks of a file are those that a service made at this moment would give.

Two things are assumed of the history. While the marker of a file stays, so does
what is read from it; and of the texts that are used for one path no two have
the same hash. The texts that are used are those given in a call and those that
could have been read at one of the events.

The invariant is that everything that is kept can be made anew: the chunks kept
for a file are what the text read at some event cuts to, and its marker was the
one that is kept with them.

## Main definitions

* `Service.Uses`, `Service.HashesDiffer`, `Service.MarkersTell` — the texts of a
  history, and what is assumed of them.
* `Service.Sound` — what is kept can be made anew.
* `Service.newAnswer` — the chunks of a file where nothing is kept.

## Main results

* `Service.Sound.cut`, `Service.Sound.chunkFile`, `Service.Sound.run` — what
  cutting a text, asking for a file, and any call leave sound.
* `Service.Sound.chunkFile_answer` — the answer where what is kept is sound.
* `Service.chunkFile_after_eq_new` — the answer after any history.
-/

namespace ChunkGraph.Service

open Syntax

/-! ## The texts of a history -/

/-- A text is used for a path at an event: it is given in the call, or it could be read then. -/
def Event.Uses (root : Path) (e : Event) (path code : String) : Prop :=
  e.call.Gives path code ∨ e.disk.readText (root.append (.ofText path)) = .ok code

/-- A text is used for a path at some event of a history. -/
def Uses (root : Path) (history : List Event) (path code : String) : Prop :=
  ∃ e ∈ history, e.Uses root path code

/-- Of the texts that are used for one path no two have the same hash. -/
def HashesDiffer (root : Path) (history : List Event) : Prop :=
  ∀ path a b, Uses root history path a → Uses root history path b →
    contentHash a = contentHash b → a = b

/-- While the marker of a file stays, so does what is read from it. -/
def MarkersTell (root : Path) (history : List Event) : Prop :=
  ∀ e₁ ∈ history, ∀ e₂ ∈ history, ∀ path marker,
    e₁.disk.marker (root.append (.ofText path)) = .ok marker →
      e₂.disk.marker (root.append (.ofText path)) = .ok marker →
        e₁.disk.readText (root.append (.ofText path)) =
          e₂.disk.readText (root.append (.ofText path))

/-! ## What is kept -/

/-- A service differs from a new one in what it keeps only, and what it keeps can be made anew. -/
structure Sound (parser : Parser) (history : List Event) (new s : Service) : Prop where
  /-- Both have the same settings. -/
  settings_eq : s.settings = new.settings
  /-- Both work below the same directory. -/
  root_eq : s.root = new.root
  /-- Both remember as many chunks. -/
  maxKnown_eq : s.maxKnown = new.maxKnown
  /-- Trees and front ends can be made anew. -/
  chunker_like : Chunker.Like parser (Uses new.root history) new.chunker s.chunker
  /-- So can the chunks of files, as the files were at some event. -/
  files_sound : ∀ path file, (path, file) ∈ s.files →
    ∃ e ∈ history, e.disk.marker (new.diskPath path) = .ok file.marker ∧
      ∃ code, e.disk.readText (new.diskPath path) = .ok code ∧
        (new.cut parser none code path).1 = .ok file.chunks

/-- The chunks of a file where nothing is kept. -/
def newAnswer (w : World) (new : Service) (path : String) (options : Option Options) :
    Except Failure (List Chunk) :=
  match w.disk.marker (new.diskPath path) with
  | .error failure => .error failure
  | .ok _ =>
      match w.disk.readText (new.diskPath path) with
      | .error failure => .error failure
      | .ok code => (new.cut w.parser options code path).1

section Sound

variable {parser : Parser} {history : List Event} {new s : Service}

/-- A service that keeps nothing is sound, as one that has just been made. -/
theorem sound_self (htrees : new.chunker.trees.entries = [])
    (hshelves : new.chunker.pool.shelves = []) (hfiles : new.files = []) :
    Sound parser history new new := by
  refine ⟨rfl, rfl, rfl, Chunker.like_self_of_empty htrees hshelves, ?_⟩
  intro path file hmem
  rw [hfiles] at hmem
  exact absurd hmem List.not_mem_nil

namespace Sound

/-- Paths lead to the same places. -/
theorem diskPath_eq (hs : Sound parser history new s) (path : String) :
    s.diskPath path = new.diskPath path := by
  unfold diskPath
  rw [hs.root_eq]

/-- What is remembered is no part of it, and nor is the clock. -/
theorem of_eq (hs : Sound parser history new s) {after : Service}
    (hsettings : after.settings = s.settings) (hroot : after.root = s.root)
    (hmaxKnown : after.maxKnown = s.maxKnown)
    (hchunker : Chunker.Like parser (Uses new.root history) new.chunker after.chunker)
    (hfiles : ∀ entry ∈ after.files, entry ∈ s.files) : Sound parser history new after where
  settings_eq := hsettings.trans hs.settings_eq
  root_eq := hroot.trans hs.root_eq
  maxKnown_eq := hmaxKnown.trans hs.maxKnown_eq
  chunker_like := hchunker
  files_sound path file hmem := hs.files_sound path file (hfiles (path, file) hmem)

theorem remember (hs : Sound parser history new s) (chunks : List Chunk) :
    Sound parser history new (s.remember chunks).2 :=
  hs.of_eq rfl rfl rfl hs.chunker_like fun _ hmem => hmem

theorem wait (hs : Sound parser history new s) (pause : Nat) :
    Sound parser history new (s.wait pause) :=
  hs.of_eq rfl rfl rfl hs.chunker_like fun _ hmem => hmem

/-- The chunks of a file can be kept if they can be made anew. -/
theorem keepFile (hs : Sound parser history new s) {path : String} {file : CachedFile}
    {e : Event} (he : e ∈ history) (hmarker : e.disk.marker (new.diskPath path) = .ok file.marker)
    {code : String} (hread : e.disk.readText (new.diskPath path) = .ok code)
    (hcut : (new.cut parser none code path).1 = .ok file.chunks) :
    Sound parser history new (s.keepFile path file).2 where
  settings_eq := hs.settings_eq
  root_eq := hs.root_eq
  maxKnown_eq := hs.maxKnown_eq
  chunker_like := hs.chunker_like
  files_sound other kept hmem := by
    have hrenewed : (other, kept) ∈ Keyed.renew path file s.files :=
      (lastWithin_suffix _ _).subset hmem
    rcases List.mem_append.mp hrenewed with hold | hlast
    · exact hs.files_sound other kept (List.mem_of_mem_filter hold)
    · obtain ⟨rfl, rfl⟩ := Prod.mk.inj (List.mem_singleton.mp hlast)
      exact ⟨e, he, hmarker, code, hread, hcut⟩

/-! ## Cutting a text -/

section Cutting

variable (hlifetime : new.chunker.trees.lifetime.isNumber = true)
  (hhash : HashesDiffer new.root history)
include hlifetime hhash

/-- A used text is cut as the chunker of a new service would cut it, and the service stays sound. -/
theorem cut_answerOf (hs : Sound parser history new s) {source : SourceText} {path : String}
    (hused : ∀ code, source = .chars code → Uses new.root history path code)
    (options : Option Options) :
    Chunker.Answer.chunks (s.cut parser options source path).1 =
        (Chunker.Call.chunk source path options).answerOf parser new.chunker ∧
      Sound parser history new (s.cut parser options source path).2 := by
  have hcall : ∀ usedPath usedCode,
      (Chunker.Call.chunk source path options).Uses usedPath usedCode →
        Uses new.root history usedPath usedCode := by
    rintro _ usedCode ⟨rfl, hcode⟩
    exact hused usedCode hcode
  obtain ⟨hanswer, hlike⟩ := Chunker.Call.run_sound hs.chunker_like hlifetime hhash s.now
    (.chunk source path options) hcall
  refine ⟨hanswer, ?_⟩
  exact ⟨hs.settings_eq, hs.root_eq, hs.maxKnown_eq, hlike, hs.files_sound⟩

/-- A used text is cut as by a new service, and the service stays sound. -/
theorem cut (hs : Sound parser history new s) (hnew : Sound parser history new new)
    {source : SourceText} {path : String}
    (hused : ∀ code, source = .chars code → Uses new.root history path code)
    (options : Option Options) :
    (s.cut parser options source path).1 = (new.cut parser options source path).1 ∧
      Sound parser history new (s.cut parser options source path).2 := by
  obtain ⟨hanswer, hafter⟩ := hs.cut_answerOf hlifetime hhash hused options
  obtain ⟨hnewAnswer, -⟩ := hnew.cut_answerOf hlifetime hhash hused options
  exact ⟨Chunker.Answer.chunks.inj (hanswer.trans hnewAnswer.symm), hafter⟩

/-- Dropping what is kept for one file, or for all, leaves the service sound. -/
theorem invalidate (hs : Sound parser history new s) (path : Option String) :
    Sound parser history new (s.invalidate path) := by
  cases path with
  | some path =>
      have hlike := (Chunker.Call.run_sound hs.chunker_like hlifetime hhash s.now
        (.invalidate path) fun _ _ hnone => hnone.elim).2
      exact hs.of_eq rfl rfl rfl hlike fun _ hmem => List.mem_of_mem_filter hmem
  | none =>
      refine hs.of_eq rfl rfl rfl ?_ fun _ hmem => absurd hmem List.not_mem_nil
      refine ⟨hs.chunker_like.clear_eq, ?_, hs.chunker_like.shelves_sound⟩
      intro path entry hentry
      exact absurd hentry (by simp [Service.invalidate, Cache.clear])

/-- So does dropping everything. -/
theorem clearCaches (hs : Sound parser history new s) :
    Sound parser history new s.clearCaches := by
  have hlike := (Chunker.Call.run_sound hs.chunker_like hlifetime hhash s.now
    .clear fun _ _ hnone => hnone.elim).2
  exact hs.of_eq rfl rfl rfl hlike fun _ hmem => absurd hmem List.not_mem_nil

end Cutting

/-! ## Asking for a file -/

/-- A text that can be read at an event is used. -/
theorem uses_of_readText {root : Path} {e : Event} (he : e ∈ history) {path code : String}
    (hread : e.disk.readText (root.append (.ofText path)) = .ok code) :
    ∀ other, SourceText.chars code = .chars other → Uses root history path other := by
  intro other hother
  obtain rfl := SourceText.chars.inj hother
  exact ⟨e, he, Or.inr hread⟩

section Asking

variable (patterns : PatternReader) (hlifetime : new.chunker.trees.lifetime.isNumber = true)
  (hhash : HashesDiffer new.root history) (hs : Sound parser history new s)
  (hnew : Sound parser history new new) {e : Event} (he : e ∈ history)
include hlifetime hhash hs hnew he

/-- Asking for the chunks of a file leaves the service sound. -/
theorem chunkFile (path : String) (options : Option Options) :
    Sound parser history new (s.chunkFile ⟨e.disk, parser, patterns⟩ path options).2 := by
  have hasked := asked_chunkFile ⟨e.disk, parser, patterns⟩ s path options
  generalize s.chunkFile ⟨e.disk, parser, patterns⟩ path options = result at hasked ⊢
  cases hasked with
  | unseen => exact hs
  | kept => exact hs
  | unread => exact hs
  | uncut _ _ hread _ =>
      rw [hs.diskPath_eq] at hread
      exact (hs.cut hlifetime hhash hnew (uses_of_readText he hread) options).2
  | unkept hmarker _ hread hcut hplain _ =>
      subst hplain
      rw [hs.diskPath_eq] at hmarker hread
      obtain ⟨hsame, hafter⟩ := hs.cut hlifetime hhash hnew (uses_of_readText he hread) none
      exact hafter.keepFile he hmarker hread (hsame.symm.trans hcut)
  | @remembered marker code chunks hmarker _ hread hcut =>
      rw [hs.diskPath_eq] at hmarker hread
      obtain ⟨hsame, hafter⟩ := hs.cut hlifetime hhash hnew (uses_of_readText he hread) options
      have hkept : Sound parser history new ((s.cut parser options code path).2.keepPlain options
          path ⟨marker, chunks⟩) := by
        cases options with
        | some given => exact hafter
        | none => exact hafter.keepFile he hmarker hread (hsame.symm.trans hcut)
      rw [answer_eq]
      exact hkept.remember chunks

/-- The chunks of a file are those where nothing is kept, unless they cannot be remembered. -/
theorem chunkFile_answer (hmarkers : MarkersTell new.root history)
    (hcapacity : boundFault? new.settings.fileCapacity = none) (path : String)
    (options : Option Options) :
    (s.chunkFile ⟨e.disk, parser, patterns⟩ path options).1 =
        newAnswer ⟨e.disk, parser, patterns⟩ new path options ∨
      ∃ failure, boundFault? new.maxKnown = some failure ∧
        (s.chunkFile ⟨e.disk, parser, patterns⟩ path options).1 = .error failure := by
  have hasked := asked_chunkFile ⟨e.disk, parser, patterns⟩ s path options
  generalize s.chunkFile ⟨e.disk, parser, patterns⟩ path options = result at hasked ⊢
  unfold newAnswer
  cases hasked with
  | unseen hmarker =>
      rw [hs.diskPath_eq] at hmarker
      left
      rw [hmarker]
  | @kept marker chunks hmarker hkept =>
      -- The file may have changed and changed back since its chunks were kept: what counts is
      -- that it had the same marker then.
      rw [hs.diskPath_eq] at hmarker
      obtain ⟨rfl, hmem⟩ := keptNow?_eq_some hkept
      obtain ⟨earlier, hearlier, hmarkerThen, code, hreadThen, hcutThen⟩ :=
        hs.files_sound path _ hmem
      have hreadNow : e.disk.readText (new.diskPath path) = .ok code :=
        (hmarkers e he earlier hearlier path marker hmarker hmarkerThen).trans hreadThen
      left
      rw [hmarker]
      simp only [hreadNow, hcutThen]
  | unread hmarker _ hread =>
      rw [hs.diskPath_eq] at hmarker hread
      left
      rw [hmarker]
      simp only [hread]
  | uncut hmarker _ hread hcut =>
      rw [hs.diskPath_eq] at hmarker hread
      obtain ⟨hsame, -⟩ := hs.cut hlifetime hhash hnew (uses_of_readText he hread) options
      left
      rw [hmarker]
      simp only [hread]
      exact hcut.symm.trans hsame
  | unkept _ _ _ _ _ hfault =>
      rw [hs.settings_eq, hcapacity] at hfault
      exact absurd hfault (by simp)
  | @remembered marker code chunks hmarker _ hread hcut =>
      rw [hs.diskPath_eq] at hmarker hread
      obtain ⟨hsame, -⟩ := hs.cut hlifetime hhash hnew (uses_of_readText he hread) options
      have hbound : ((s.cut parser options code path).2.keepPlain options path
          ⟨marker, chunks⟩).maxKnown = new.maxKnown := by
        rw [← hs.maxKnown_eq]
        cases options with
        | some given => rfl
        | none => rfl
      rw [hmarker, answer_eq]
      simp only [hread, Service.remember, hbound]
      cases hfault : boundFault? new.maxKnown with
      | none => exact Or.inl (hcut.symm.trans hsame)
      | some failure => exact Or.inr ⟨failure, rfl, rfl⟩

omit hlifetime hhash hnew he in
/-- When asking for the chunks of a file fails and both memories can be kept within their bounds,
nothing has been kept or remembered. -/
theorem chunkFile_error (hcapacity : boundFault? new.settings.fileCapacity = none)
    (hknown : boundFault? new.maxKnown = none) {w : World} {path : String}
    {options : Option Options} {failure : Failure}
    (herror : (s.chunkFile w path options).1 = .error failure) :
    (s.chunkFile w path options).2.files = s.files ∧
      (s.chunkFile w path options).2.known = s.known := by
  have hasked := asked_chunkFile w s path options
  generalize s.chunkFile w path options = result at hasked herror ⊢
  cases hasked with
  | unseen => exact ⟨rfl, rfl⟩
  | kept => exact absurd herror (by simp)
  | unread => exact ⟨rfl, rfl⟩
  | uncut => exact ⟨rfl, rfl⟩
  | unkept _ _ _ _ _ hfault =>
      rw [hs.settings_eq, hcapacity] at hfault
      exact absurd hfault (by simp)
  | @remembered marker code chunks _ _ _ _ =>
      have hbound : ((s.cut w.parser options code path).2.keepPlain options path
          ⟨marker, chunks⟩).maxKnown = new.maxKnown := by
        rw [← hs.maxKnown_eq]
        cases options with
        | some given => rfl
        | none => rfl
      rw [answer_eq] at herror
      simp only [Service.remember, hbound, hknown] at herror
      exact absurd herror (by simp)

/-- Every call at an event leaves the service sound. -/
theorem run : Sound parser history new (e.call.run ⟨e.disk, parser, patterns⟩ s).2 := by
  have hused : ∀ path code, e.call.Gives path code ∨
      e.disk.readText (s.diskPath path) = .ok code → Uses new.root history path code := by
    intro path code h
    rw [hs.diskPath_eq] at h
    exact ⟨e, he, h⟩
  apply Call.run_induction e.call hs
  · intro t source path options hgiven ht
    exact (ht.cut hlifetime hhash hnew (fun code hcode => hused path code (hgiven code hcode))
      options).2
  · intro t chunks ht
    exact ht.remember chunks
  · intro t path options ht
    exact ht.chunkFile patterns hlifetime hhash hnew he path options
  · intro t path ht
    exact ht.invalidate hlifetime hhash path
  · intro t ht
    exact ht.clearCaches hlifetime hhash

end Asking

end Sound

end Sound

/-! ## A whole history -/

/-- A service that has been made has a new chunker and keeps nothing. -/
theorem create_eq_ok {encoding : Encoding} {settings : Settings} {root : Path} {maxKnown : Bound}
    {made : Service} (h : create encoding settings root maxKnown = .ok made) :
    ∃ chunker, Chunker.create encoding settings.options Rule.all = .ok chunker ∧
      made = { settings, chunker, root, maxKnown } := by
  unfold create at h
  cases hchunker : Chunker.create encoding settings.options Rule.all with
  | error failure =>
      rw [hchunker] at h
      exact absurd h (by simp [Except.map])
  | ok chunker =>
      rw [hchunker] at h
      exact ⟨chunker, rfl, (Except.ok.inj h).symm⟩

/-- A service that has been made is sound. -/
theorem sound_of_create {parser : Parser} {history : List Event} {encoding : Encoding}
    {settings : Settings} {root : Path} {maxKnown : Bound} {made : Service}
    (h : create encoding settings root maxKnown = .ok made) : Sound parser history made made := by
  obtain ⟨chunker, hchunker, rfl⟩ := create_eq_ok h
  obtain ⟨htrees, hpool⟩ := Chunker.create_eq_ok hchunker
  apply sound_self
  · show chunker.trees.entries = []
    rw [htrees]
  · show chunker.pool.shelves = []
    rw [hpool]
  · rfl

/-- After any part of a history, a service that keeps nothing at first is sound. -/
theorem sound_after {parser : Parser} {patterns : PatternReader} {history part : List Event}
    {new : Service} (hlifetime : new.chunker.trees.lifetime.isNumber = true)
    (hhash : HashesDiffer new.root history) (hnew : Sound parser history new new)
    (hpart : ∀ e ∈ part, e ∈ history) :
    Sound parser history new (after parser patterns part new) := by
  apply after_induction hnew
  intro e he s hs
  exact (hs.wait e.pause).run patterns hlifetime hhash hnew (hpart e he)

/-- After any history, the chunks of a file are those that a new service gives for it as it is now,
with options and without. Chunks that are given are never stale, whatever the bound of the chunks
that are remembered; if that bound can be kept, every answer is the same, and a call that fails
leaves what is kept for files and what is remembered as they were. -/
theorem chunkFile_after_eq_new (parser : Parser) (patterns : PatternReader) (encoding : Encoding)
    (settings : Settings) (root : Path) (maxKnown : Bound) (made : Service)
    (history : List Event) (disk : Disk) (pause : Nat) (path : String) (options : Option Options)
    (hmade : create encoding settings root maxKnown = .ok made)
    (hlifetime : settings.options.treeLifetime.isNumber = true)
    (hcapacity : boundFault? settings.fileCapacity = none)
    (hhash : HashesDiffer root (history ++ [⟨disk, pause, .file path options⟩]))
    (hmarkers : MarkersTell root (history ++ [⟨disk, pause, .file path options⟩])) :
    let asked := (after parser patterns history made).wait pause
    (∀ chunks, (asked.chunkFile ⟨disk, parser, patterns⟩ path options).1 = .ok chunks →
        ∀ bound, boundFault? bound = none →
          ({ made with maxKnown := bound }.chunkFile ⟨disk, parser, patterns⟩ path options).1 =
            .ok chunks) ∧
      (boundFault? maxKnown = none →
        (asked.chunkFile ⟨disk, parser, patterns⟩ path options).1 =
            (made.chunkFile ⟨disk, parser, patterns⟩ path options).1 ∧
          ∀ failure, (asked.chunkFile ⟨disk, parser, patterns⟩ path options).1 = .error failure →
            (asked.chunkFile ⟨disk, parser, patterns⟩ path options).2.files =
                (after parser patterns history made).files ∧
              (asked.chunkFile ⟨disk, parser, patterns⟩ path options).2.known =
                (after parser patterns history made).known) := by
  intro asked
  obtain ⟨chunker, hchunker, hmade'⟩ := create_eq_ok hmade
  have hroot : made.root = root := by rw [hmade']
  have hsettings : made.settings = settings := by rw [hmade']
  have hmaxKnown : made.maxKnown = maxKnown := by rw [hmade']
  have hlifetime' : made.chunker.trees.lifetime.isNumber = true := by
    rw [hmade', (Chunker.create_eq_ok hchunker).1]
    exact hlifetime
  rw [← hroot] at hhash hmarkers
  rw [← hsettings] at hcapacity
  obtain ⟨events, hevents⟩ :
      ∃ events, events = history ++ [⟨disk, pause, .file path options⟩] := ⟨_, rfl⟩
  rw [← hevents] at hhash hmarkers
  have hnow : (⟨disk, pause, .file path options⟩ : Event) ∈ events := by
    rw [hevents]
    exact List.mem_append_right history List.mem_cons_self
  have hnew : Sound parser events made made := sound_of_create hmade
  have hafter : Sound parser events made (after parser patterns history made) := by
    apply sound_after hlifetime' hhash hnew
    intro e he
    rw [hevents]
    exact List.mem_append_left _ he
  have hasked : Sound parser events made asked := hafter.wait pause
  have hanswer := hasked.chunkFile_answer patterns hlifetime' hhash hnew hnow hmarkers hcapacity
    path options
  constructor
  · intro chunks hchunks bound hbound
    have hfound : newAnswer ⟨disk, parser, patterns⟩ made path options = .ok chunks := by
      rcases hanswer with heq | ⟨failure, _, heq⟩
      · exact heq.symm.trans hchunks
      · exact absurd (heq.symm.trans hchunks) (by simp)
    -- What is cut does not depend on how many chunks are remembered.
    have hcreated : create encoding settings root bound = .ok { made with maxKnown := bound } := by
      unfold create
      rw [hchunker, hmade']
      rfl
    have hother : Sound parser events { made with maxKnown := bound }
        { made with maxKnown := bound } := sound_of_create hcreated
    rcases @Sound.chunkFile_answer parser events { made with maxKnown := bound }
      { made with maxKnown := bound } patterns hlifetime' hhash hother hother _ hnow hmarkers
      hcapacity path options with heq | ⟨failure, hfault, _⟩
    · exact heq.trans hfound
    · exact absurd (hbound.symm.trans hfault) (by simp)
  · intro hknown
    rw [← hmaxKnown] at hknown
    constructor
    · have hanswerNew := hnew.chunkFile_answer patterns hlifetime' hhash hnew hnow hmarkers
        hcapacity path options
      rcases hanswer with heq | ⟨failure, hfault, _⟩
      · rcases hanswerNew with heqNew | ⟨failure, hfault, _⟩
        · exact heq.trans heqNew.symm
        · exact absurd (hknown.symm.trans hfault) (by simp)
      · exact absurd (hknown.symm.trans hfault) (by simp)
    · intro failure hfailure
      exact hasked.chunkFile_error hcapacity hknown hfailure

/-! ## Files that are told apart -/

/-- A path that can be looked at leads to a directory or to a file of the disk. -/
theorem entry_of_stat {disk : Disk} {path : Path} {entry : Disk.Entry}
    (h : disk.stat path = .ok entry) :
    entry = .directory ∨ ∃ names, (names, entry) ∈ disk.entries := by
  have hplace : ∀ place : Disk.Place, disk.entryAt place = some entry →
      entry = .directory ∨ ∃ names, (names, entry) ∈ disk.entries := by
    intro place hplace
    match place with
    | none => exact Or.inl (Option.some.inj hplace).symm
    | some [] => exact Or.inl (Option.some.inj hplace).symm
    | some (name :: names) => exact Or.inr ⟨name :: names, Keyed.mem_of_lookup hplace⟩
  unfold Disk.stat at h
  split at h
  · exact absurd h (by simp)
  · split at h
    · exact absurd h (by simp)
    · rename_i place _
      split at h
      · rename_i found hfound
        obtain rfl := Except.ok.inj h
        exact hplace place hfound
      · exact absurd h (by simp)

/-- The text that is read is that of a file of the disk. -/
theorem file_of_readText {disk : Disk} {path : Path} {code : String}
    (h : disk.readText path = .ok code) :
    ∃ names bytes modified, (names, .file bytes modified) ∈ disk.entries ∧
      code = Text.Utf8.readText bytes := by
  unfold Disk.readText Disk.readBytes at h
  split at h
  · rename_i bytes modified hstat
    rcases entry_of_stat hstat with hdirectory | ⟨names, hmem⟩
    · exact absurd hdirectory (by simp)
    · exact ⟨names, bytes, modified, hmem, (Except.ok.inj h).symm⟩
  · exact absurd h (by simp [Except.map])
  · exact absurd h (by simp [Except.map])

/-- A path with a marker leads to a directory, which cannot be read, or to a file of the disk. -/
theorem found_of_marker {disk : Disk} {path : Path} {marker : Disk.Marker}
    (h : disk.marker path = .ok marker) :
    (marker = ⟨0, 0⟩ ∧ disk.readText path = .error (.isDirectory path.text)) ∨
      ∃ names bytes modified, (names, .file bytes modified) ∈ disk.entries ∧
        marker = ⟨modified, bytes.length⟩ ∧
          disk.readText path = .ok (Text.Utf8.readText bytes) := by
  unfold Disk.marker at h
  unfold Disk.readText Disk.readBytes
  cases hstat : disk.stat path with
  | error failure =>
      rw [hstat] at h
      exact absurd h (by simp [Except.map])
  | ok entry =>
      rw [hstat] at h
      obtain rfl := Except.ok.inj h
      cases entry with
      | directory => exact Or.inl ⟨rfl, rfl⟩
      | file bytes modified =>
          rcases entry_of_stat hstat with hdirectory | ⟨names, hmem⟩
          · exact absurd hdirectory (by simp)
          · exact Or.inr ⟨names, bytes, modified, hmem, rfl, rfl⟩

/-- What is read is told by the markers when no two files of the disks have the same time and size
and different bytes, and no file has the marker of a directory. -/
theorem markersTell_of_files {root : Path} {history : List Event}
    (hfiles : ∀ e₁ ∈ history, ∀ e₂ ∈ history, ∀ names₁ names₂ bytes₁ bytes₂ modified,
      (names₁, .file bytes₁ modified) ∈ e₁.disk.entries →
        (names₂, .file bytes₂ modified) ∈ e₂.disk.entries →
          bytes₁.length = bytes₂.length → bytes₁ = bytes₂)
    (hdirectories : ∀ e ∈ history, ∀ names bytes modified,
      (names, .file bytes modified) ∈ e.disk.entries → modified ≠ 0) :
    MarkersTell root history := by
  intro e₁ he₁ e₂ he₂ path marker h₁ h₂
  rcases found_of_marker h₁ with ⟨hzero₁, hread₁⟩ | ⟨names₁, bytes₁, modified₁, hmem₁, rfl, hread₁⟩
  · rcases found_of_marker h₂ with ⟨_, hread₂⟩ | ⟨names₂, bytes₂, modified₂, hmem₂, rfl, _⟩
    · exact hread₁.trans hread₂.symm
    · exact absurd (congrArg Disk.Marker.modified hzero₁) (hdirectories e₂ he₂ _ _ _ hmem₂)
  · rcases found_of_marker h₂ with ⟨hzero₂, _⟩ | ⟨names₂, bytes₂, modified₂, hmem₂, hsame, hread₂⟩
    · exact absurd (congrArg Disk.Marker.modified hzero₂) (hdirectories e₁ he₁ _ _ _ hmem₁)
    · obtain ⟨rfl, hlength⟩ := Disk.Marker.mk.inj hsame
      rw [hread₁, hread₂, hfiles e₁ he₁ e₂ he₂ _ _ _ _ _ hmem₁ hmem₂ hlength]

/-- A disk with one module. -/
def moduleDisk (text : String) (modified : Int) : Disk :=
  ⟨[(["a.py".toList], .file (Text.Utf8.encode text.toList) modified)]⟩

/-- It is the only file. -/
theorem file_of_mem_moduleDisk {text : String} {stamp modified : Int} {names : List Segment}
    {bytes : List UInt8} (h : (names, .file bytes modified) ∈ (moduleDisk text stamp).entries) :
    bytes = Text.Utf8.encode text.toList ∧ modified = stamp := by
  obtain ⟨-, hfile⟩ := Prod.mk.inj (List.mem_singleton.mp h)
  exact Disk.Entry.file.inj hfile

/-- A module is asked for, its text is cut as an editor has it, it is forgotten, and it is asked for
again. Then it changes, and is asked for once more. -/
def editedModule : List Event :=
  [⟨moduleDisk "def f(): pass" 1000, 0, .file "a.py" none⟩,
    ⟨moduleDisk "def f(): pass" 1000, 7, .code "def g(): pass" "a.py" none⟩,
    ⟨moduleDisk "def f(): pass" 1000, 0, .invalidate (some "a.py")⟩,
    ⟨moduleDisk "def f(): pass" 1000, 2, .files ["a.py"] none⟩] ++
  [⟨moduleDisk "def h(): return" 2000, 3, .file "a.py" none⟩]

/-- No pattern matches a file. -/
def noPatterns : PatternReader := fun _ => .ok fun _ => false

/-- The parser finds one function in each text. -/
def oneFunction : Parser := fun grammar text =>
  if grammar == "python" then
    some (.mk "module" true "" 0 text.utf8ByteSize
      [.mk "function_definition" true "" 0 text.utf8ByteSize
        [.mk "identifier" true "name" 4 5 []]])
  else none

/-- The module has one of two texts at every event. -/
theorem disk_of_mem_editedModule {e : Event} (he : e ∈ editedModule) :
    e.disk = moduleDisk "def f(): pass" 1000 ∨ e.disk = moduleDisk "def h(): return" 2000 := by
  simp only [editedModule, List.cons_append, List.nil_append, List.mem_cons, List.not_mem_nil,
    or_false] at he
  rcases he with rfl | rfl | rfl | rfl | rfl
  · exact Or.inl rfl
  · exact Or.inl rfl
  · exact Or.inl rfl
  · exact Or.inl rfl
  · exact Or.inr rfl

theorem hashesDiffer_editedModule : HashesDiffer ⟨0, []⟩ editedModule := by
  have htexts : ∀ path code, Uses ⟨0, []⟩ editedModule path code →
      code ∈ ["def f(): pass", "def g(): pass", "def h(): return"] := by
    rintro path code ⟨e, he, hgiven | hread⟩
    · simp only [editedModule, List.cons_append, List.nil_append, List.mem_cons, List.not_mem_nil,
        or_false] at he
      rcases he with rfl | rfl | rfl | rfl | rfl
      case inr.inl => simp [← SourceText.chars.inj hgiven.2]
      all_goals exact hgiven.elim
    · obtain ⟨names, bytes, modified, hmem, rfl⟩ := file_of_readText hread
      rcases disk_of_mem_editedModule he with hdisk | hdisk
      · rw [hdisk] at hmem
        obtain ⟨rfl, -⟩ := file_of_mem_moduleDisk hmem
        decide
      · rw [hdisk] at hmem
        obtain ⟨rfl, -⟩ := file_of_mem_moduleDisk hmem
        decide
  have hnodup : (["def f(): pass", "def g(): pass", "def h(): return"].map contentHash).Nodup := by
    decide +kernel
  intro path a b ha hb hsame
  exact List.inj_on_of_nodup_map hnodup (htexts path a ha) (htexts path b hb) hsame

theorem markersTell_editedModule : MarkersTell ⟨0, []⟩ editedModule := by
  have hsizes : (Text.Utf8.encode "def f(): pass".toList).length ≠
      (Text.Utf8.encode "def h(): return".toList).length := by decide
  apply markersTell_of_files
  · intro e₁ he₁ e₂ he₂ names₁ names₂ bytes₁ bytes₂ modified hmem₁ hmem₂ hlength
    rcases disk_of_mem_editedModule he₁ with h₁ | h₁ <;>
      rcases disk_of_mem_editedModule he₂ with h₂ | h₂ <;>
      rw [h₁] at hmem₁ <;> rw [h₂] at hmem₂ <;>
      obtain ⟨rfl, rfl⟩ := file_of_mem_moduleDisk hmem₁ <;>
      obtain ⟨rfl, hstamp⟩ := file_of_mem_moduleDisk hmem₂
    · rfl
    · exact absurd hlength hsizes
    · exact absurd hlength.symm hsizes
    · rfl
  · intro e he names bytes modified hmem
    rcases disk_of_mem_editedModule he with hdisk | hdisk
    · rw [hdisk] at hmem
      rw [(file_of_mem_moduleDisk hmem).2]
      decide
    · rw [hdisk] at hmem
      rw [(file_of_mem_moduleDisk hmem).2]
      decide

theorem chunkFile_after_eq_new_edited :
    ∃ made, create .unavailable .standard ⟨0, []⟩ 10000 = .ok made ∧
      Settings.standard.options.treeLifetime.isNumber = true ∧
      boundFault? Settings.standard.fileCapacity = none ∧ HashesDiffer ⟨0, []⟩ editedModule ∧
      MarkersTell ⟨0, []⟩ editedModule ∧ boundFault? 10000 = none ∧
      (((after oneFunction noPatterns editedModule.dropLast made).wait 3).chunkFile
          ⟨moduleDisk "def h(): return" 2000, oneFunction, noPatterns⟩ "a.py" none).1 =
        (made.chunkFile ⟨moduleDisk "def h(): return" 2000, oneFunction, noPatterns⟩ "a.py"
          none).1 ∧
      (made.chunkFile ⟨moduleDisk "def h(): return" 2000, oneFunction, noPatterns⟩ "a.py"
        none).1.toOption.map (·.map (·.name)) = some ["h"] := by
  refine ⟨_, rfl, rfl, rfl, hashesDiffer_editedModule, markersTell_editedModule, rfl, ?_, ?_⟩
  · exact ((chunkFile_after_eq_new oneFunction noPatterns .unavailable .standard ⟨0, []⟩ 10000 _
      editedModule.dropLast (moduleDisk "def h(): return" 2000) 3 "a.py" none rfl rfl rfl
      hashesDiffer_editedModule markersTell_editedModule).2 rfl).1
  · decide

end ChunkGraph.Service
