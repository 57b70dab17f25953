import ChunkGraph.Proofs.Data.Partial
import ChunkGraph.Proofs.Service.History
import Mathlib.Data.List.DropRight
import Mathlib.Data.List.Dedup
import Mathlib.Data.List.Perm.Subperm

/-!
# What a service remembers

A service remembers the chunks that it returns, the last ones as far as there is
room. More precisely, a call puts the chunks that it has cut at the end, each in
place of an older one with its identity, and then the front gives way. Nothing
else is kept, so what is remembered after a call can be written down: it is the
end of what was remembered before, renewed with the chunks that were cut.

A call that is given the chunks of a file without cutting them does not remember
them anew. It returns them all the same, and by then they may be forgotten.

## Main definitions

* `Service.renewed` — what is remembered, renewed with chunks.
* `Service.Call.anew` — of the chunks in the answer to a call, those that are
  cut for it.
* `Service.Call.takesKept` — the call is given chunks of a file that were kept.
* `Service.Bounded` — a memory within its bound.

## Main results

* `Service.rtake_renewed_rtake` — what gives way early would have given way later.
* `Service.accounted_run` — what is remembered after a call.
* `Service.found_after_call` — what is found after a call.
* `Service.returned_and_forgotten` — a call after which a chunk that it returned
  is not found.
-/

namespace ChunkGraph.Service

open Syntax

/-! ## Chunks put at the end -/

/-- What is remembered, with chunks put at the end one after the other. -/
def renewed (known : List (String × Chunk)) (chunks : List Chunk) : List (String × Chunk) :=
  chunks.foldl (fun known c => Keyed.renew c.id c known) known

section Renewed

variable {known : List (String × Chunk)} {chunks : List Chunk} {n : Nat}

theorem renewed_append (known : List (String × Chunk)) (chunks more : List Chunk) :
    renewed known (chunks ++ more) = renewed (renewed known chunks) more := List.foldl_append

/-- Identities stay different. -/
theorem nodup_keys_renewed (h : (known.map (·.1)).Nodup) (chunks : List Chunk) :
    ((renewed known chunks).map (·.1)).Nodup := by
  induction chunks generalizing known with
  | nil => exact h
  | cons chunk rest ih => exact ih (Keyed.nodup_keys_renew h chunk.id chunk)

/-- Of the chunks with an identity the last is found, or what was found before if there is none. -/
theorem lookup_renewed (known : List (String × Chunk)) (chunks : List Chunk) (id : String) :
    (renewed known chunks).lookup id = (Excerpt.byId? chunks id).or (known.lookup id) := by
  induction chunks using List.reverseRecOn with
  | nil => rfl
  | append_singleton front last ih =>
      have hlast : renewed known (front ++ [last]) =
          Keyed.renew last.id last (renewed known front) := renewed_append known front [last]
      rw [hlast, Keyed.lookup_renew, ih]
      unfold Excerpt.byId?
      rw [List.reverse_concat, List.find?_cons]
      by_cases hid : id = last.id
      · subst hid
        simp
      · have hid' : (id == last.id) = false := beq_eq_false_iff_ne.mpr hid
        have hid'' : (last.id == id) = false := beq_eq_false_iff_ne.mpr (Ne.symm hid)
        simp only [hid', hid'', Bool.false_eq_true, if_false]

/-- The chunks come last, and what was there before goes on as far as it has other identities. -/
theorem renewed_eq_append (known : List (String × Chunk)) (chunks : List Chunk) :
    renewed known chunks =
      known.filter (fun entry => !(chunks.map (·.id)).contains entry.1) ++ renewed [] chunks := by
  induction chunks using List.reverseRecOn with
  | nil => simp [renewed]
  | append_singleton front last ih =>
      have hlast : ∀ start, renewed start (front ++ [last]) =
          Keyed.renew last.id last (renewed start front) :=
        fun start => renewed_append start front [last]
      rw [hlast, hlast, ih]
      unfold Keyed.renew Keyed.erase
      rw [List.filter_append, List.filter_filter, List.append_assoc]
      congr 1
      apply List.filter_congr
      intro entry _
      by_cases hid : entry.1 = last.id
      · simp [hid]
      · simp [hid]

/-- There are as many entries as identities among the chunks. -/
theorem length_renewed_nil (chunks : List Chunk) :
    (renewed [] chunks).length = (chunks.map (·.id)).dedup.length := by
  have hkeys : ((renewed [] chunks).map (·.1)).Nodup := nodup_keys_renewed (by simp) chunks
  have hmem : ∀ id, id ∈ (renewed [] chunks).map (·.1) ↔ id ∈ (chunks.map (·.id)).dedup := by
    intro id
    rw [← Keyed.has_iff_mem_keys, Keyed.has_iff_exists_lookup, List.mem_dedup, lookup_renewed]
    unfold Excerpt.byId?
    simp only [List.lookup_nil, Option.or_none, List.mem_map]
    constructor
    · rintro ⟨chunk, hfound⟩
      refine ⟨chunk, List.mem_reverse.mp (List.mem_of_find?_eq_some hfound), ?_⟩
      simpa using List.find?_some hfound
    · rintro ⟨chunk, hchunk, rfl⟩
      have hsome : (chunks.reverse.find? (·.id == chunk.id)).isSome := by
        rw [List.find?_isSome]
        exact ⟨chunk, List.mem_reverse.mpr hchunk, beq_self_eq_true chunk.id⟩
      exact Option.isSome_iff_exists.mp hsome
  have hperm : ((renewed [] chunks).map (·.1)).Perm (chunks.map (·.id)).dedup :=
    (List.perm_ext_iff_of_nodup hkeys (List.nodup_dedup _)).mpr hmem
  rw [← hperm.length_eq, List.length_map]

end Renewed

/-! ## The front gives way -/

section Rtake

variable {α : Type} {n : Nat}

/-- As many entries as a number says are kept, the last ones. -/
theorem lastWithin_natCast (n : Nat) (items : List α) :
    lastWithin (.whole n) items = items.rtake n := by
  induction items with
  | nil => simp [lastWithin]
  | cons item items ih =>
      have hpassed : (Bound.whole n).passedBy (.ofNat (items.length + 1)) =
          decide ((n : Int) < (items.length + 1 : Nat)) := Bound.passedBy_whole _ _
      unfold lastWithin
      rw [hpassed]
      by_cases hlong : n ≤ items.length
      · rw [if_pos (by simpa using by omega), ih]
        unfold List.rtake
        rw [List.length_cons, Nat.succ_sub hlong, List.drop_succ_cons]
      · rw [if_neg (by simpa using by omega)]
        unfold List.rtake
        rw [List.length_cons, Nat.sub_eq_zero_of_le (by omega), List.drop_zero]

/-- The end of a list that ends with enough entries is the end of those. -/
theorem rtake_append_of_le {front back : List α} (h : n ≤ back.length) :
    (front ++ back).rtake n = back.rtake n := by
  unfold List.rtake
  rw [List.length_append, Nat.add_sub_assoc h, List.drop_length_add_append]

/-- A list that is short enough is kept. -/
theorem rtake_of_length_le {items : List α} (h : items.length ≤ n) : items.rtake n = items := by
  unfold List.rtake
  rw [Nat.sub_eq_zero_of_le h, List.drop_zero]

theorem length_rtake_le (n : Nat) (items : List α) : (items.rtake n).length ≤ n := by
  unfold List.rtake
  rw [List.length_drop]
  omega

theorem rtake_suffix (n : Nat) (items : List α) : items.rtake n <:+ items :=
  List.drop_suffix _ items

end Rtake

/-- What gives way before a chunk is put at the end would have given way after it. -/
theorem rtake_renew_rtake {known : List (String × Chunk)} (h : (known.map (·.1)).Nodup) (n : Nat)
    (key : String) (chunk : Chunk) :
    (Keyed.renew key chunk (known.rtake n)).rtake n = (Keyed.renew key chunk known).rtake n := by
  by_cases hshort : known.length ≤ n
  · rw [rtake_of_length_le hshort]
  · obtain ⟨front, hsplit⟩ := rtake_suffix n known
    obtain ⟨back, hback⟩ : ∃ back, back = known.rtake n := ⟨_, rfl⟩
    rw [← hback] at hsplit ⊢
    have hlength : back.length = n := by
      rw [hback]
      unfold List.rtake
      rw [List.length_drop]
      omega
    have hnodup : (back.map (·.1)).Nodup := by
      rw [← hsplit, List.map_append] at h
      exact (List.nodup_append.mp h).2.1
    have herase : n ≤ (Keyed.renew key chunk back).length := by
      have hle := Keyed.length_le_length_erase hnodup key
      unfold Keyed.renew
      rw [List.length_append, List.length_singleton]
      omega
    have hrenew : Keyed.renew key chunk known =
        Keyed.erase key front ++ Keyed.renew key chunk back := by
      rw [← hsplit]
      unfold Keyed.renew Keyed.erase
      rw [List.filter_append, List.append_assoc]
    rw [hrenew, rtake_append_of_le herase]

/-- What gives way early would have given way later. -/
theorem rtake_renewed_rtake {known : List (String × Chunk)} (h : (known.map (·.1)).Nodup) (n : Nat)
    (chunks : List Chunk) :
    (renewed (known.rtake n) chunks).rtake n = (renewed known chunks).rtake n := by
  induction chunks using List.reverseRecOn with
  | nil => exact rtake_of_length_le (length_rtake_le n known)
  | append_singleton front last ih =>
      have hlast : ∀ start, renewed start (front ++ [last]) =
          Keyed.renew last.id last (renewed start front) :=
        fun start => renewed_append start front [last]
      have hkept : ((known.rtake n).map (·.1)).Nodup :=
        h.sublist ((rtake_suffix n known).sublist.map _)
      rw [hlast, hlast, ← rtake_renew_rtake (nodup_keys_renewed hkept front), ih,
        rtake_renew_rtake (nodup_keys_renewed h front)]

section Found

variable {known : List (String × Chunk)} {n : Nat} {chunks : List Chunk} {id : String}

/-- Of chunks with few enough identities the last with each identity is found. -/
theorem lookup_of_byId? (h : (known.map (·.1)).Nodup)
    (hfew : (chunks.map (·.id)).dedup.length ≤ n) {chunk : Chunk}
    (hlast : Excerpt.byId? chunks id = some chunk) :
    ((renewed known chunks).rtake n).lookup id = some chunk := by
  have hnodup : (((renewed known chunks).rtake n).map (·.1)).Nodup :=
    (nodup_keys_renewed h chunks).sublist ((rtake_suffix n _).sublist.map _)
  have hfresh : (id, chunk) ∈ renewed [] chunks := by
    apply Keyed.mem_of_lookup
    rw [lookup_renewed, hlast]
    rfl
  have hkept : renewed [] chunks <:+ (renewed known chunks).rtake n := by
    have hlength : (renewed [] chunks).length ≤ n := by
      rw [length_renewed_nil]
      exact hfew
    rw [renewed_eq_append known chunks]
    unfold List.rtake
    rw [List.length_append]
    apply List.suffix_of_suffix_length_le (List.suffix_append _ _) (List.drop_suffix _ _)
    rw [List.length_drop, List.length_append]
    omega
  exact (Keyed.mem_iff_lookup hnodup).mp (hkept.subset hfresh)

/-- Of what was found before, the rest is found or has given way. -/
theorem lookup_of_byId?_eq_none (h : (known.map (·.1)).Nodup) (n : Nat)
    (hnone : Excerpt.byId? chunks id = none) :
    ((renewed known chunks).rtake n).lookup id = known.lookup id ∨
      ((renewed known chunks).rtake n).lookup id = none := by
  cases hfound : ((renewed known chunks).rtake n).lookup id with
  | none => exact Or.inr rfl
  | some chunk =>
      have hmem : (id, chunk) ∈ renewed known chunks :=
        (rtake_suffix n _).subset (Keyed.mem_of_lookup hfound)
      have hlookup := (Keyed.mem_iff_lookup (nodup_keys_renewed h chunks)).mp hmem
      rw [lookup_renewed, hnone, Option.none_or] at hlookup
      exact Or.inl hlookup.symm

end Found

/-! ## What a call cuts -/

/-- A file is given its chunks without being cut. -/
def fileKept (w : World) (s : Service) (path : String) (options : Option Options) : Bool :=
  match w.disk.marker (s.diskPath path) with
  | .error _ => false
  | .ok marker => (s.keptNow? path options marker).isSome

/-- The chunks of a file that is asked for, if it is cut for them. -/
def fileAnew (w : World) (s : Service) (path : String) (options : Option Options) : List Chunk :=
  if s.fileKept w path options then [] else (s.chunkFile w path options).1.toOption.getD []

/-- Some file of a list is given its chunks without being cut. -/
def eachKept (w : World) (options : Option Options) : List String → Service → Bool
  | [], _ => false
  | path :: rest, s =>
      s.fileKept w path options || eachKept w options rest (s.chunkFile w path options).2

/-- The chunks of those files of a list that are cut for them. -/
def eachAnew (w : World) (options : Option Options) : List String → Service → List Chunk
  | [], _ => []
  | path :: rest, s =>
      s.fileAnew w path options ++ eachAnew w options rest (s.chunkFile w path options).2

namespace Call

/-- The call is given chunks of some file without cutting it. -/
def takesKept (w : World) (s : Service) : Call → Bool
  | file path options => s.fileKept w path options
  | files paths options => eachKept w options paths s
  | directory path selection options =>
      eachKept w options ((s.scan w path selection).toOption.getD []) s
  | _ => false

/-- Of the chunks in the answer to a call, those that are cut for it. -/
def anew (w : World) (s : Service) : Call → List Chunk
  | file path options => s.fileAnew w path options
  | files paths options => eachAnew w options paths s
  | directory path selection options =>
      eachAnew w options ((s.scan w path selection).toOption.getD []) s
  | call => (call.run w s).1.toOption.getD []

end Call

/-- A call that brings options cuts the file. -/
theorem fileKept_of_options (w : World) (s : Service) (path : String) (given : Options) :
    s.fileKept w path (some given) = false := by
  unfold fileKept
  split
  · rfl
  · rfl

/-- So it does with each of several files. -/
theorem eachKept_of_options (w : World) (given : Options) (paths : List String) (s : Service) :
    eachKept w (some given) paths s = false := by
  induction paths generalizing s with
  | nil => rfl
  | cons path rest ih =>
      rw [eachKept, fileKept_of_options, ih]
      rfl

/-! ## Several files -/

section Several

variable {w : World} {s : Service} {options : Option Options} {path : String}
  {rest : List String}

/-- What hangs together are the chunks that were given. -/
theorem chunks_of_resultOf {chunks : List Chunk} {files : Nat} {result : ChunkingResult}
    (h : s.resultOf w chunks files = .ok result) : result.chunks = chunks := by
  obtain ⟨resolver, _, hbuilt⟩ := ok_of_bind_eq_ok h
  split at hbuilt
  · exact absurd hbuilt (by simp [throw, throwThe, MonadExceptOf.throw])
  · obtain rfl := Except.ok.inj hbuilt
    rfl

/-- A file without chunks ends the list. -/
theorem chunkEach_cons_error {failure : Failure}
    (h : (s.chunkFile w path options).1 = .error failure) :
    chunkEach w options (path :: rest) s =
      (.error failure, (s.chunkFile w path options).2) := by
  simp only [chunkEach]
  rw [← Prod.eta (s.chunkFile w path options), h]

/-- After the chunks of a file come those of the others. -/
theorem chunkEach_cons_ok {chunks : List Chunk}
    (h : (s.chunkFile w path options).1 = .ok chunks) :
    chunkEach w options (path :: rest) s =
      ((chunkEach w options rest (s.chunkFile w path options).2).1.map (chunks ++ ·),
        (chunkEach w options rest (s.chunkFile w path options).2).2) := by
  simp only [chunkEach]
  rw [← Prod.eta (s.chunkFile w path options), h]

/-- A file that cannot be read is passed over; anything else that fails ends the list. -/
theorem chunkReadable_cons_error {failure : Failure}
    (h : (s.chunkFile w path options).1 = .error failure) :
    chunkReadable w options (path :: rest) s =
      if failure.concernsFiles then chunkReadable w options rest (s.chunkFile w path options).2
      else (.error failure, (s.chunkFile w path options).2) := by
  simp only [chunkReadable]
  rw [← Prod.eta (s.chunkFile w path options), h]

/-- After the chunks of a file that can be read come those of the others. -/
theorem chunkReadable_cons_ok {chunks : List Chunk}
    (h : (s.chunkFile w path options).1 = .ok chunks) :
    chunkReadable w options (path :: rest) s =
      ((chunkReadable w options rest (s.chunkFile w path options).2).1.map
          fun found => (chunks ++ found.1, found.2 + 1),
        (chunkReadable w options rest (s.chunkFile w path options).2).2) := by
  simp only [chunkReadable]
  rw [← Prod.eta (s.chunkFile w path options), h]

end Several

/-! ## What is remembered after a call -/

/-- A memory with a number as its bound, and within it. -/
structure Bounded (n : Nat) (s : Service) : Prop where
  /-- The number is the bound. -/
  maxKnown_eq : s.maxKnown = .whole n
  /-- Identities are different. -/
  nodup : (s.known.map (·.1)).Nodup
  /-- There are no more chunks than that. -/
  length_le : s.known.length ≤ n

section Bounded

variable {n : Nat} {s : Service}

namespace Bounded

theorem of_eq (hs : Bounded n s) {after : Service} (hmaxKnown : after.maxKnown = s.maxKnown)
    (hknown : after.known = s.known) : Bounded n after :=
  ⟨hmaxKnown.trans hs.maxKnown_eq, hknown ▸ hs.nodup, hknown ▸ hs.length_le⟩

/-- What is remembered after chunks have been returned. -/
theorem known_remember (hs : Bounded n s) (chunks : List Chunk) :
    (s.remember chunks).2.known = (renewed s.known chunks).rtake n := by
  show lastWithin s.maxKnown (renewed s.known chunks) = _
  rw [hs.maxKnown_eq, lastWithin_natCast]

/-- Nothing goes wrong. -/
theorem fault_remember (hs : Bounded n s) (chunks : List Chunk) :
    (s.remember chunks).1 = none := by
  unfold Service.remember
  rw [hs.maxKnown_eq]
  exact boundFault?_whole (Int.natCast_nonneg n)

theorem remember (hs : Bounded n s) (chunks : List Chunk) : Bounded n (s.remember chunks).2 := by
  refine ⟨hs.maxKnown_eq, ?_, ?_⟩
  · rw [hs.known_remember]
    exact (nodup_keys_renewed hs.nodup chunks).sublist ((rtake_suffix n _).sublist.map _)
  · rw [hs.known_remember]
    exact length_rtake_le n _

/-- When nothing is returned, the memory stays as it is. -/
theorem rtake_renewed_nil (hs : Bounded n s) : (renewed s.known []).rtake n = s.known :=
  rtake_of_length_le hs.length_le

/-- The chunks of a file are remembered if they are cut for it, and else nothing is. -/
theorem chunkFile (hs : Bounded n s) (w : World) (path : String) (options : Option Options) :
    Bounded n (s.chunkFile w path options).2 ∧
      (s.chunkFile w path options).2.known =
        (renewed s.known (s.fileAnew w path options)).rtake n := by
  have hasked := asked_chunkFile w s path options
  unfold fileAnew fileKept
  generalize s.chunkFile w path options = result at hasked ⊢
  cases hasked with
  | unseen hmarker =>
      rw [hmarker]
      exact ⟨hs, hs.rtake_renewed_nil.symm⟩
  | kept hmarker hkept =>
      rw [hmarker]
      simp only [hkept, Option.isSome_some, if_true]
      exact ⟨hs, hs.rtake_renewed_nil.symm⟩
  | unread hmarker hnew _ =>
      rw [hmarker]
      simp only [hnew, Option.isSome_none, Bool.false_eq_true, if_false]
      exact ⟨hs, hs.rtake_renewed_nil.symm⟩
  | uncut hmarker hnew _ _ =>
      rw [hmarker]
      simp only [hnew, Option.isSome_none, Bool.false_eq_true, if_false]
      exact ⟨hs.of_eq rfl rfl, hs.rtake_renewed_nil.symm⟩
  | unkept hmarker hnew _ _ _ _ =>
      rw [hmarker]
      simp only [hnew, Option.isSome_none, Bool.false_eq_true, if_false]
      exact ⟨hs.of_eq rfl rfl, hs.rtake_renewed_nil.symm⟩
  | @remembered marker code chunks hmarker hnew _ _ =>
      have hbetween : Bounded n ((s.cut w.parser options code path).2.keepPlain options path
          ⟨marker, chunks⟩) := by
        cases options with
        | some given => exact hs.of_eq rfl rfl
        | none => exact hs.of_eq rfl rfl
      have hknown : ((s.cut w.parser options code path).2.keepPlain options path
          ⟨marker, chunks⟩).known = s.known := by
        cases options with
        | some given => rfl
        | none => rfl
      rw [hmarker, answer_eq, hbetween.fault_remember]
      simp only [hnew, Option.isSome_none, Bool.false_eq_true, if_false]
      refine ⟨hbetween.remember chunks, ?_⟩
      rw [hbetween.known_remember, hknown]
      rfl

/-- Every call keeps the memory within its bound. -/
theorem run (hs : Bounded n s) (w : World) (call : Call) : Bounded n (call.run w s).2 := by
  apply Call.run_induction call hs
  · intro t code path options _ ht
    exact ht.of_eq rfl rfl
  · intro t chunks ht
    exact ht.remember chunks
  · intro t path options ht
    exact (ht.chunkFile w path options).1
  · intro t path ht
    cases path with
    | some path => exact ht.of_eq rfl rfl
    | none => exact ht.of_eq rfl rfl
  · intro t ht
    exact ⟨ht.maxKnown_eq, List.nodup_nil, Nat.zero_le n⟩

/-- So does every history. -/
theorem after (hs : Bounded n s) (parser : Parser) (patterns : PatternReader)
    (history : List Event) :
    Bounded n (Service.after parser patterns history s) := by
  apply after_induction hs
  intro e _ t ht
  exact (ht.of_eq rfl rfl : Bounded n (t.wait e.pause)).run _ e.call

end Bounded

/-! ### Chunks that are returned -/

/-- What a service remembers after chunks have been returned: those of them that were cut, which
are all of them unless some were kept. -/
structure Accounted (n : Nat) (before after : Service) (anew : List Chunk) (kept : Bool)
    (chunks : List Chunk) : Prop where
  /-- The chunks that were cut are remembered, as far as there is room. -/
  known_eq : after.known = (renewed before.known anew).rtake n
  /-- They are among those returned. -/
  sublist : anew.Sublist chunks
  /-- They are all of them, unless some were kept. -/
  eq_of_not_kept : kept = false → anew = chunks

/-- What is returned first, and what is returned then. -/
theorem Accounted.append {before between after : Service} {first rest chunks more : List Chunk}
    {kept keptThen : Bool} (hbefore : Bounded n before)
    (h : Accounted n before between first kept chunks)
    (hthen : Accounted n between after rest keptThen more) :
    Accounted n before after (first ++ rest) (kept || keptThen) (chunks ++ more) where
  known_eq := by
    rw [hthen.known_eq, h.known_eq, rtake_renewed_rtake (nodup_keys_renewed hbefore.nodup first),
      renewed_append]
  sublist := h.sublist.append hthen.sublist
  eq_of_not_kept hnone := by
    obtain ⟨hkept, hkeptThen⟩ := Bool.or_eq_false_iff.mp hnone
    rw [h.eq_of_not_kept hkept, hthen.eq_of_not_kept hkeptThen]

namespace Bounded

/-- Nothing is returned and nothing changes. -/
theorem accounted_nil (hs : Bounded n s) : Accounted n s s [] false [] :=
  ⟨hs.rtake_renewed_nil.symm, List.Sublist.refl [], fun _ => rfl⟩

/-- Chunks are returned after something else has changed. -/
theorem accounted_remember {between : Service} (hbetween : Bounded n between)
    (hknown : between.known = s.known) (chunks : List Chunk) :
    Accounted n s (between.remember chunks).2 chunks false chunks := by
  refine ⟨?_, List.Sublist.refl chunks, fun _ => rfl⟩
  rw [hbetween.known_remember, hknown]

section Returned

variable {w : World} {options : Option Options} {chunks : List Chunk}

/-- The chunks of a file are returned. -/
theorem accounted_chunkFile (hs : Bounded n s) {path : String}
    (h : (s.chunkFile w path options).1 = .ok chunks) :
    Accounted n s (s.chunkFile w path options).2 (s.fileAnew w path options)
      (s.fileKept w path options) chunks := by
  refine ⟨(hs.chunkFile w path options).2, ?_, ?_⟩
  · unfold fileAnew
    rw [h]
    split
    · exact List.nil_sublist chunks
    · exact List.Sublist.refl chunks
  · intro hcut
    unfold fileAnew
    rw [h, hcut]
    rfl

/-- A file that is passed over has no chunks. -/
theorem accounted_chunkFile_error (hs : Bounded n s) {path : String} {failure : Failure}
    (h : (s.chunkFile w path options).1 = .error failure) :
    Accounted n s (s.chunkFile w path options).2 (s.fileAnew w path options)
      (s.fileKept w path options) [] := by
  have hnone : s.fileAnew w path options = [] := by
    unfold fileAnew
    rw [h]
    split
    · rfl
    · rfl
  refine ⟨(hs.chunkFile w path options).2, ?_, fun _ => hnone⟩
  rw [hnone]

/-- The chunks of several files are returned. -/
theorem accounted_chunkEach (hs : Bounded n s) {paths : List String}
    (h : (chunkEach w options paths s).1 = .ok chunks) :
    Accounted n s (chunkEach w options paths s).2 (eachAnew w options paths s)
      (eachKept w options paths s) chunks := by
  induction paths generalizing s chunks with
  | nil =>
      obtain rfl := Except.ok.inj h
      exact hs.accounted_nil
  | cons path rest ih =>
      have hbetween := (hs.chunkFile w path options).1
      cases hfound : (s.chunkFile w path options).1 with
      | error failure =>
          rw [chunkEach_cons_error hfound] at h
          exact absurd h (by simp)
      | ok first =>
          rw [chunkEach_cons_ok hfound] at h ⊢
          obtain ⟨more, hmore, rfl⟩ := ok_of_map_eq_ok h
          exact (hs.accounted_chunkFile hfound).append hs (ih hbetween hmore)

/-- The chunks of those of several files that can be read are returned. -/
theorem accounted_chunkReadable (hs : Bounded n s) {paths : List String} {files : Nat}
    (h : (chunkReadable w options paths s).1 = .ok (chunks, files)) :
    Accounted n s (chunkReadable w options paths s).2 (eachAnew w options paths s)
      (eachKept w options paths s) chunks := by
  induction paths generalizing s chunks files with
  | nil =>
      obtain ⟨rfl, -⟩ := Prod.mk.inj (Except.ok.inj h)
      exact hs.accounted_nil
  | cons path rest ih =>
      have hbetween := (hs.chunkFile w path options).1
      cases hfound : (s.chunkFile w path options).1 with
      | error failure =>
          rw [chunkReadable_cons_error hfound] at h ⊢
          split at h
          · rename_i hpassed
            rw [if_pos hpassed]
            exact (hs.accounted_chunkFile_error hfound).append hs (ih hbetween h)
          · exact absurd h (by simp)
      | ok first =>
          rw [chunkReadable_cons_ok hfound] at h ⊢
          obtain ⟨⟨more, count⟩, hmore, hsame⟩ := ok_of_map_eq_ok h
          obtain ⟨rfl, -⟩ := Prod.mk.inj hsame
          exact (hs.accounted_chunkFile hfound).append hs (ih hbetween hmore)

/-- The chunks of a text are returned. -/
theorem accounted_chunkCode (hs : Bounded n s) {source : SourceText} {path : String}
    (h : (s.chunkCode w source path options).1 = .ok chunks) :
    Accounted n s (s.chunkCode w source path options).2 chunks false chunks := by
  have hcut : Bounded n (s.cut w.parser options source path).2 := hs.of_eq rfl rfl
  unfold chunkCode at h ⊢
  rw [← Prod.eta (s.cut w.parser options source path)] at h ⊢
  cases hfound : (s.cut w.parser options source path).1 with
  | error failure =>
      rw [hfound] at h
      exact absurd h (by simp)
  | ok found =>
      rw [hfound] at h
      simp only [answer_eq, hcut.fault_remember] at h ⊢
      obtain rfl := Except.ok.inj h
      exact hcut.accounted_remember (known_cut source) found

/-- The chunks of an excerpt are returned. -/
theorem accounted_extract (hs : Bounded n s) {requests : List RangeRequest} {excerpt : Excerpt}
    (h : (s.extract w requests).1 = .ok excerpt) :
    Accounted n s (s.extract w requests).2 excerpt.all false excerpt.all := by
  unfold Service.extract at h ⊢
  cases hresolver : s.resolver w with
  | error failure =>
      rw [hresolver] at h
      exact absurd h (by simp)
  | ok resolver =>
      rw [hresolver] at h
      simp only at h ⊢
      -- While files are cut, nothing is remembered.
      let unchanged (t : Service) : Prop := t.maxKnown = s.maxKnown ∧ t.known = s.known
      have hcut : unchanged (Excerpt.extract resolver s.settings.limits
          (fun path => w.disk.readText (s.diskPath path)) (Service.cutText w.parser none)
          requests s).2 :=
        Excerpt.extract_state (motive := unchanged) (fun _ _ _ _ ht => ht) resolver
          s.settings.limits requests ⟨rfl, rfl⟩
      generalize Excerpt.extract resolver s.settings.limits
        (fun path => w.disk.readText (s.diskPath path)) (Service.cutText w.parser none) requests s =
          result at h hcut ⊢
      obtain ⟨found, between⟩ := result
      have hbetween : Bounded n between := hs.of_eq hcut.1 hcut.2
      cases found with
      | error failure => exact absurd h (by simp)
      | ok found =>
          simp only [answer_eq, hbetween.fault_remember] at h ⊢
          obtain rfl := Except.ok.inj h
          exact hbetween.accounted_remember hcut.2 found.all

/-- Whatever is returned by a call is accounted for, unless the call drops everything. -/
theorem accounted_run (hs : Bounded n s) {call : Call}
    (h : (call.run w s).1 = .ok chunks) (hclear : call ≠ .clear) :
    Accounted n s (call.run w s).2 (call.anew w s) (call.takesKept w s) chunks := by
  cases call with
  | code source path options =>
      have hanew : (Call.code source path options).anew w s = chunks := by
        show ((Call.code source path options).run w s).1.toOption.getD [] = chunks
        rw [h]
        rfl
      rw [hanew]
      exact hs.accounted_chunkCode h
  | file path options => exact hs.accounted_chunkFile h
  | files paths options =>
      obtain ⟨result, hresult, rfl⟩ := ok_of_map_eq_ok h
      obtain ⟨found, hfound, hlinked⟩ := ok_of_bind_eq_ok hresult
      rw [chunks_of_resultOf hlinked]
      exact hs.accounted_chunkEach hfound
  | directory path selection options =>
      obtain ⟨result, hresult, rfl⟩ := ok_of_map_eq_ok h
      show Accounted n s (s.chunkDirectory w path selection options).2
        (eachAnew w options ((s.scan w path selection).toOption.getD []) s)
        (eachKept w options ((s.scan w path selection).toOption.getD []) s) result.chunks
      unfold chunkDirectory at hresult ⊢
      cases hscan : s.scan w path selection with
      | error failure =>
          rw [hscan] at hresult
          exact absurd hresult (by simp)
      | ok paths =>
          rw [hscan] at hresult
          obtain ⟨⟨found, files⟩, hfound, hlinked⟩ := ok_of_bind_eq_ok hresult
          rw [chunks_of_resultOf hlinked]
          exact hs.accounted_chunkReadable hfound
  | extract requests =>
      have hanew : (Call.extract requests).anew w s = chunks := by
        show ((Call.extract requests).run w s).1.toOption.getD [] = chunks
        rw [h]
        rfl
      obtain ⟨excerpt, hexcerpt, rfl⟩ := ok_of_map_eq_ok h
      rw [hanew]
      exact hs.accounted_extract hexcerpt
  | invalidate path =>
      obtain rfl := Except.ok.inj h
      have hknown : (s.invalidate path).known = s.known := by
        cases path with
        | some path => rfl
        | none => rfl
      exact ⟨hknown.trans hs.rtake_renewed_nil.symm, List.Sublist.refl [], fun _ => rfl⟩
  | clear => exact absurd rfl hclear

end Returned

end Bounded

end Bounded

/-! ## What is found -/

/-- A new service remembers nothing. -/
theorem bounded_of_create {encoding : Encoding} {settings : Settings} {root : Path} {n : Nat}
    {made : Service} (h : create encoding settings root (.whole n) = .ok made) :
    Bounded n made := by
  obtain ⟨chunker, _, rfl⟩ := ok_of_map_eq_ok h
  exact ⟨rfl, List.nodup_nil, Nat.zero_le n⟩

/-- Fewer chunks have no more identities. -/
theorem length_dedup_le_of_sublist {few chunks : List Chunk} (h : few.Sublist chunks) :
    (few.map (·.id)).dedup.length ≤ (chunks.map (·.id)).dedup.length := by
  have hsubset : (few.map (·.id)).dedup ⊆ (chunks.map (·.id)).dedup := by
    intro id hid
    rw [List.mem_dedup] at hid ⊢
    exact (h.map (·.id)).subset hid
  exact ((List.nodup_dedup _).subperm hsubset).length_le

/-- After any history there are at most as many remembered chunks as there is room for. Right after
a call that returns chunks with no more identities than there is room for, the last chunk that it
has cut under an identity is found, and under an identity that it has not cut what was found before,
or nothing. So unless the call takes chunks of some file from what is kept, the last chunk that it
returns under an identity is found. -/
theorem found_after_call (parser : Parser) (patterns : PatternReader) (encoding : Encoding)
    (settings : Settings) (root : Path) (n : Nat) (made : Service) (history : List Event)
    (disk : Disk) (pause : Nat) (call : Call)
    (hmade : create encoding settings root (.whole n) = .ok made) :
    let asked := (after parser patterns history made).wait pause
    let answered := call.run ⟨disk, parser, patterns⟩ asked
    asked.known.length ≤ n ∧
      ∀ chunks, answered.1 = .ok chunks → (chunks.map (·.id)).dedup.length ≤ n →
        (call.anew ⟨disk, parser, patterns⟩ asked).Sublist chunks ∧
          (∀ id chunk, Excerpt.byId? (call.anew ⟨disk, parser, patterns⟩ asked) id = some chunk →
            answered.2.findChunk? id = some chunk) ∧
          (∀ id, Excerpt.byId? (call.anew ⟨disk, parser, patterns⟩ asked) id = none →
            answered.2.findChunk? id = asked.findChunk? id ∨ answered.2.findChunk? id = none) ∧
          (call.takesKept ⟨disk, parser, patterns⟩ asked = false →
            ∀ id chunk, Excerpt.byId? chunks id = some chunk →
              answered.2.findChunk? id = some chunk) := by
  intro asked answered
  have hasked : Bounded n asked :=
    ((bounded_of_create hmade).after parser patterns history).of_eq rfl rfl
  refine ⟨hasked.length_le, ?_⟩
  intro chunks hchunks hfew
  by_cases hclear : call = .clear
  · subst hclear
    obtain rfl := Except.ok.inj hchunks
    have hnone : ∀ id, Excerpt.byId? [] id = none := fun id => rfl
    refine ⟨List.Sublist.refl [], ?_, fun id _ => Or.inr rfl, ?_⟩
    · intro id chunk hlast
      exact absurd ((hnone id).symm.trans hlast) (by simp)
    · intro _ id chunk hlast
      exact absurd ((hnone id).symm.trans hlast) (by simp)
  · obtain ⟨hknown, hsublist, hall⟩ := hasked.accounted_run hchunks hclear
    have hfewAnew := (length_dedup_le_of_sublist hsublist).trans hfew
    have hfound : ∀ id chunk,
        Excerpt.byId? (call.anew ⟨disk, parser, patterns⟩ asked) id = some chunk →
          answered.2.findChunk? id = some chunk := by
      intro id chunk hlast
      unfold findChunk?
      rw [hknown]
      exact lookup_of_byId? hasked.nodup hfewAnew hlast
    refine ⟨hsublist, hfound, ?_, ?_⟩
    · intro id hnone
      unfold findChunk?
      rw [hknown]
      exact lookup_of_byId?_eq_none hasked.nodup n hnone
    · intro hcut id chunk hlast
      rw [← hall hcut] at hlast
      exact hfound id chunk hlast

/-! ## A chunk that is returned and not found -/

/-- Two modules, one function in each. -/
def twoModules : Disk :=
  ⟨[(["a.py".toList], .file (Text.Utf8.encode "def f(): pass".toList) 1000),
    (["b.py".toList], .file (Text.Utf8.encode "def g(): pass".toList) 1000)]⟩

/-- The parser finds a function in each of them. -/
def functionAtFour : Parser := fun grammar _ =>
  if grammar == "python" then
    some (.mk "module" true "" 0 13
      [.mk "function_definition" true "" 0 13 [.mk "identifier" true "name" 4 5 []]])
  else none

/-- A module is asked for. -/
def firstAsked : List Event := [⟨twoModules, 0, .file "a.py" none⟩]

/-- Then the other is. -/
def bothAsked : List Event := firstAsked ++ [⟨twoModules, 0, .file "b.py" none⟩]

/-- A service that remembers one chunk. -/
def forgetful : Service :=
  { settings := .standard
    chunker := (Chunker.create .unavailable Settings.standard.options Rule.all).toOption.getD {}
    maxKnown := .whole (1 : Nat) }

/-- What it answers when a module is asked for after a history. -/
def forgetfulAnswer (history : List Event) (path : String) :
    Except Failure (List Chunk) × Service :=
  (Call.file path none).run ⟨twoModules, functionAtFour, fun _ => .ok fun _ => false⟩
    ((after functionAtFour (fun _ => .ok fun _ => false) history forgetful).wait 0)

theorem found_after_call_second :
    create .unavailable .standard ⟨0, []⟩ (.whole (1 : Nat)) = .ok forgetful ∧
      ∃ chunks, (forgetfulAnswer firstAsked "b.py").1 = .ok chunks ∧
        chunks.map (·.name) = ["g"] ∧ (chunks.map (·.id)).dedup.length ≤ 1 ∧
        ∀ id chunk, Excerpt.byId? chunks id = some chunk →
          (forgetfulAnswer firstAsked "b.py").2.findChunk? id = some chunk := by
  have hanswer : (forgetfulAnswer firstAsked "b.py").1 =
      .ok ((forgetfulAnswer firstAsked "b.py").1.toOption.getD []) := by decide +kernel
  have hfew : (((forgetfulAnswer firstAsked "b.py").1.toOption.getD []).map
      (·.id)).dedup.length ≤ 1 := by decide +kernel
  have hfound := (found_after_call functionAtFour (fun _ => .ok fun _ => false) .unavailable
    .standard ⟨0, []⟩ 1 forgetful firstAsked twoModules 0 (.file "b.py" none) rfl).2 _ hanswer hfew
  refine ⟨rfl, _, hanswer, ?_, hfew, hfound.2.2.2 ?_⟩
  case refine_1 => decide +kernel
  case refine_2 => decide +kernel

/-- A module is asked for, then another, then the first again: its chunk is returned, as it was kept
for the file, and is not found. -/
theorem returned_and_forgotten :
    create .unavailable .standard ⟨0, []⟩ (.whole (1 : Nat)) = .ok forgetful ∧
      ∃ chunks, (forgetfulAnswer bothAsked "a.py").1 = .ok chunks ∧
        (chunks.map (·.id)).dedup.length ≤ 1 ∧
        ∃ chunk ∈ chunks, Excerpt.byId? chunks chunk.id = some chunk ∧
          (forgetfulAnswer bothAsked "a.py").2.findChunk? chunk.id = none := by
  refine ⟨rfl, (forgetfulAnswer bothAsked "a.py").1.toOption.getD [], ?_, ?_, ?_⟩
  case refine_1 => decide +kernel
  case refine_2 => decide +kernel
  case refine_3 => decide +kernel

end ChunkGraph.Service
