import ChunkGraph.Proofs.Resolve.Normal

/-!
# Canonical texts of paths

The normalized form of a path is told by its text alone: it has no backslash, no
segment `.` that is not the whole text, no empty segment behind one or two
slashes in front, and segments `..` only in front, none of them below a root.
Every text with these properties is a normalized form, since it is one of
itself.

What ties both sides together is what taking back leaves: the kept segments are
some `..` that had nothing to take back, and behind them only segments that are
none. Below a root there are no `..` at all.

## Main definitions

* `Path.Canonical` — the properties of a normalized text.
* `Path.UpInFront` — the segments `..` stand in front.
* `Path.Places`, `Path.Places.walk` — places, and the one that a path leads to.

## Main results

* `Path.collapse_eq_self_iff` — nothing is taken back if and only if all `..`
  stand in front.
* `Path.Normal.canonical` — a normal path is written as a canonical text.
* `Path.Canonical.exists_normal` — a canonical text is what a normal path is
  written as.
* `Path.normalize_canonical` — normalized texts are the canonical ones.
* `Path.walk_normalize`, `Path.normalize_eq_iff` — a normalized text leads to the
  same place, and no other normalized text does.
-/

namespace ChunkGraph

namespace Path

/-! ## What is left after taking back -/

/-- The segments `..` stand in front of all others, and below a root there are none. -/
def UpInFront (rooted : Bool) (segments : List Segment) : Prop :=
  ∃ steps names, segments = List.replicate steps up ++ names ∧ up ∉ names ∧
    (rooted = true → steps = 0)

/-- One more segment leaves the segments `..` in front. The kept segments are in reverse. -/
theorem UpInFront.push {rooted : Bool} {kept : List Segment} (h : UpInFront rooted kept.reverse)
    (segment : Segment) : UpInFront rooted (push rooted kept segment).reverse := by
  obtain ⟨steps, names, hkept, hnames, hroot⟩ := h
  by_cases hup : segment = up
  · subst hup
    rcases List.eq_nil_or_concat' names with rfl | ⟨init, last, rfl⟩
    · -- There is nothing to take back.
      rw [List.append_nil, List.reverse_eq_iff, List.reverse_replicate] at hkept
      subst hkept
      cases rooted with
      | true =>
          rw [hroot rfl]
          exact ⟨0, [], rfl, List.not_mem_nil, fun _ => rfl⟩
      | false =>
          refine ⟨steps + 1, [], ?_, List.not_mem_nil, fun hfalse => absurd hfalse (by decide)⟩
          cases steps with
          | zero => rfl
          | succ steps =>
              rw [List.append_nil, List.reverse_eq_iff, List.reverse_replicate]
              rfl
    · have hlast : last ≠ up := by
        rintro rfl
        exact hnames (by simp)
      have hinit : up ∉ init := fun hmem => hnames (List.mem_append_left _ hmem)
      rw [List.reverse_eq_iff, List.reverse_append, List.reverse_append, List.reverse_singleton,
        List.singleton_append, List.cons_append] at hkept
      subst hkept
      rw [push_up_of_ne_up rooted _ hlast]
      exact ⟨steps, init, by simp, hinit, hroot⟩
  · rw [push_of_ne_up rooted kept hup]
    refine ⟨steps, names ++ [segment], ?_, ?_, hroot⟩
    · rw [List.reverse_cons, hkept, List.append_assoc]
    · rw [List.mem_append, List.mem_singleton, not_or]
      exact ⟨hnames, Ne.symm hup⟩

theorem upInFront_foldl_push {rooted : Bool} {kept : List Segment}
    (h : UpInFront rooted kept.reverse) (segments : List Segment) :
    UpInFront rooted (segments.foldl (Path.push rooted) kept).reverse := by
  induction segments generalizing kept with
  | nil => exact h
  | cons segment segments ih => exact ih (h.push segment)

theorem upInFront_collapse (rooted : Bool) (segments : List Segment) :
    UpInFront rooted (collapse rooted segments) :=
  upInFront_foldl_push ⟨0, [], rfl, List.not_mem_nil, fun _ => rfl⟩ segments

/-- In front of a path without a root, segments `..` have nothing to take back. -/
theorem foldl_push_replicate (steps : Nat) :
    (List.replicate steps up).foldl (push false) [] = List.replicate steps up := by
  induction steps with
  | zero => rfl
  | succ steps ih =>
      rw [List.replicate_succ', List.foldl_append, ih, ← List.replicate_succ']
      cases steps with
      | zero => rfl
      | succ steps => rfl

/-- Nothing is taken back if and only if the segments `..` stand in front. -/
theorem collapse_eq_self_iff (rooted : Bool) (segments : List Segment) :
    collapse rooted segments = segments ↔ UpInFront rooted segments := by
  constructor
  · intro h
    rw [← h]
    exact upInFront_collapse rooted segments
  · rintro ⟨steps, names, rfl, hnames, hroot⟩
    have hfront : (List.replicate steps up).foldl (push rooted) [] = List.replicate steps up := by
      cases rooted with
      | true =>
          rw [hroot rfl]
          rfl
      | false => exact foldl_push_replicate steps
    unfold collapse
    rw [List.foldl_append, hfront, foldl_push_of_not_mem hnames, List.reverse_append,
      List.reverse_reverse, List.reverse_replicate]

/-! ## Canonical texts -/

/-- A text as normalizing gives it. -/
structure Canonical (text : List Char) : Prop where
  /-- There is no backslash. -/
  backslash_not_mem : '\\' ∉ text
  /-- A segment `.` is the whole text. -/
  eq_here : here ∈ Text.splitOn '/' text → text = here
  /-- Behind one or two slashes in front, or none, no segment is empty. -/
  empty_only_in_front : ∃ root ≤ 2, ∃ rest, text = List.replicate root '/' ++ rest ∧
    (rest = [] ∨ [] ∉ Text.splitOn '/' rest)
  /-- The segments `..` stand in front of all others. -/
  up_in_front : ∃ steps names, Text.splitOn '/' text = List.replicate steps up ++ names ∧ up ∉ names
  /-- An absolute path has no segment `..`. -/
  up_not_mem : text.head? = some '/' → up ∉ Text.splitOn '/' text

theorem canonical_nil : Canonical [] where
  backslash_not_mem := List.not_mem_nil
  eq_here h := absurd h (by decide)
  empty_only_in_front := ⟨0, Nat.zero_le 2, [], rfl, Or.inl rfl⟩
  up_in_front := ⟨0, [[]], rfl, by decide⟩
  up_not_mem h := absurd h (by decide)

theorem canonical_here : Canonical here where
  backslash_not_mem := by decide
  eq_here _ := rfl
  empty_only_in_front := ⟨0, Nat.zero_le 2, here, rfl, Or.inr (by decide)⟩
  up_in_front := ⟨0, [here], rfl, by decide⟩
  up_not_mem h := absurd h (by decide)

/-- A path is written as a dot, or as its root and its joined segments. -/
theorem chars_eq_here_or (path : Path) :
    path.chars = here ∨
      path.chars = List.replicate path.root '/' ++ Text.join ['/'] path.segments := by
  unfold chars
  split
  · exact Or.inl rfl
  · exact Or.inr rfl

/-- The parts between the slashes of a root and joined segments: one empty part for each slash of
the root, and the segments, or an empty part if there is no segment. -/
theorem mem_splitOn_written (root : Nat) {segments : List Segment}
    (h : ∀ segment ∈ segments, Joinable segment) {part : Segment} (hpart : part ≠ []) :
    part ∈ Text.splitOn '/' (List.replicate root '/' ++ Text.join ['/'] segments) ↔
      part ∈ segments := by
  rw [Text.splitOn_replicate_append, List.mem_append, List.mem_replicate,
    or_iff_right fun hempty => hpart hempty.2]
  by_cases hne : segments = []
  · subst hne
    simpa [Text.splitOn] using hpart
  · rw [Text.splitOn_join hne fun segment hsegment => (h segment hsegment).slash_not_mem]

/-- A normal path is written as a canonical text. -/
theorem Normal.canonical {path : Path} (h : path.Normal) : Canonical path.chars := by
  rcases chars_eq_here_or path with hhere | hwritten
  · rw [hhere]
    exact canonical_here
  · have hmem := fun {part : Segment} (hpart : part ≠ []) =>
      mem_splitOn_written path.root h.joinable hpart
    have hup := (collapse_eq_self_iff path.isAbsolute path.segments).mp h.collapse_eq
    have hrooted : path.root ≠ 0 → up ∉ path.segments := by
      intro hroot
      obtain ⟨steps, names, hsegments, hnames, hsteps⟩ := hup
      rw [hsteps (bne_iff_ne.mpr hroot)] at hsegments
      rwa [hsegments]
    refine ⟨backslash_not_mem_chars h, ?_, ⟨path.root, h.root_le, _, hwritten, ?_⟩, ?_, ?_⟩
    · intro hdot
      rw [hwritten, hmem (by decide)] at hdot
      exact absurd (h.proper here hdot).telling (by decide)
    · by_cases hne : path.segments = []
      · rw [hne]
        exact Or.inl rfl
      · rw [Text.splitOn_join hne fun segment hsegment => (h.proper segment hsegment).slash_not_mem]
        exact Or.inr fun hempty => (h.proper [] hempty).ne_nil rfl
    · by_cases hnone : up ∈ path.segments
      · have hroot : path.root = 0 := by
          by_contra hroot
          exact hrooted hroot hnone
        have hparts : Text.splitOn '/' path.chars = path.segments := by
          rw [hwritten, hroot, List.replicate_zero, List.nil_append,
            Text.splitOn_join (List.ne_nil_of_mem hnone) fun segment hsegment =>
              (h.proper segment hsegment).slash_not_mem]
        obtain ⟨steps, names, hsegments, hnames, _⟩ := hup
        exact ⟨steps, names, hparts.trans hsegments, hnames⟩
      · refine ⟨0, _, rfl, ?_⟩
        rw [hwritten, hmem (by decide)]
        exact hnone
    · intro hslash
      rw [hwritten] at hslash ⊢
      rw [hmem (by decide)]
      refine hrooted fun hroot => ?_
      rw [hroot] at hslash
      exact head?_join_ne h.joinable hslash

/-- A canonical text that is not empty is what a normal path is written as. -/
theorem Canonical.exists_normal {text : List Char} (h : Canonical text) (hne : text ≠ []) :
    ∃ path : Path, path.Normal ∧ path.chars = text := by
  by_cases hhere : text = here
  · exact ⟨⟨0, []⟩, ⟨Nat.zero_le 2, by simp, rfl⟩, hhere.symm⟩
  obtain ⟨root, hroot, rest, rfl, hrest⟩ := h.empty_only_in_front
  rcases hrest with rfl | hrest
  · rw [List.append_nil] at hne ⊢
    have hsome : root ≠ 0 := by
      rintro rfl
      exact hne rfl
    exact ⟨⟨root, []⟩, ⟨hroot, by simp, rfl⟩, chars_of_root hsome⟩
  · have hparts : Text.splitOn '/' (List.replicate root '/' ++ rest) =
        List.replicate root [] ++ Text.splitOn '/' rest := Text.splitOn_replicate_append root rest
    have hproper : ∀ segment ∈ Text.splitOn '/' rest, Proper segment := by
      intro segment hsegment
      obtain ⟨hslash, hchars⟩ := Text.mem_splitOn hsegment
      refine ⟨?_, hslash, fun hback =>
        h.backslash_not_mem (List.mem_append_right _ (hchars _ hback))⟩
      unfold isTelling
      rw [Bool.and_eq_true, Bool.not_eq_true', List.isEmpty_eq_false_iff, bne_iff_ne]
      constructor
      · rintro rfl
        exact hrest hsegment
      · rintro rfl
        exact hhere (h.eq_here (hparts ▸ List.mem_append_right _ hsegment))
    have hup : UpInFront (root != 0) (Text.splitOn '/' rest) := by
      by_cases hnone : root = 0
      · subst hnone
        obtain ⟨steps, names, hsegments, hnames⟩ := h.up_in_front
        exact ⟨steps, names, hsegments, hnames, fun hfalse => absurd hfalse (by decide)⟩
      · obtain ⟨n, rfl⟩ := Nat.exists_eq_succ_of_ne_zero hnone
        have hfree := h.up_not_mem rfl
        rw [hparts, List.mem_append, not_or] at hfree
        exact ⟨0, _, rfl, hfree.2, fun _ => rfl⟩
    have hnormal : (⟨root, Text.splitOn '/' rest⟩ : Path).Normal :=
      ⟨hroot, hproper, (collapse_eq_self_iff _ _).mpr hup⟩
    refine ⟨_, hnormal, ?_⟩
    rw [chars_of_ne_nil (Text.splitOn_ne_nil rest) hproper, Text.join_splitOn]

/-- Normalized texts are canonical, and normalizing changes no text that is canonical. So
normalizing twice is normalizing once. -/
theorem normalize_canonical (text : String) :
    normalize (normalize text) = normalize text ∧ Canonical (normalize text).toList ∧
      (normalize text = text ↔ Canonical text.toList) := by
  have hcanonical : Canonical (normalize text).toList := by
    unfold normalize
    rw [String.toList_ofList]
    by_cases hne : text.toList = []
    · rw [hne]
      exact canonical_nil
    · obtain ⟨path, hnormal, hchars⟩ := exists_normal hne
      rw [hchars]
      exact hnormal.canonical
  refine ⟨normalize_normalize text, hcanonical, fun hsame => hsame ▸ hcanonical, fun h => ?_⟩
  unfold normalize
  by_cases hne : text.toList = []
  · rw [hne, normalizeChars_nil, ← hne, String.ofList_toList]
  · obtain ⟨path, hnormal, hchars⟩ := h.exists_normal hne
    rw [normalizeChars_of_eq_chars hnormal hchars, String.ofList_toList]

example : normalize "//..\\a/./b/../../.." = "//" := by decide

example : normalize "../a//..\\..\\b/." = "../../b" := by decide

/-! ## Where a path leads -/

/-- Places that names lead to and back from, as directories without links. -/
structure Places (σ : Type) where
  /-- The place that a name leads to. -/
  enter : Segment → σ → σ
  /-- The place around a place. -/
  leave : σ → σ
  /-- The place of a root, by its number of slashes. -/
  top : Nat → σ
  /-- Leaving takes back a name. -/
  leave_enter : ∀ name place, name ≠ up → leave (enter name place) = place
  /-- Around a root there is nothing else. -/
  leave_top : ∀ root, root ≠ 0 → leave (top root) = top root

namespace Places

variable {σ : Type} (w : Places σ)

/-- The place that a segment leads to. -/
def step (place : σ) (segment : Segment) : σ :=
  if segment = up then w.leave place else w.enter segment place

/-- Where a path starts: at its root, or at the given place. -/
def origin (start : σ) (path : Path) : σ :=
  if path.isAbsolute then w.top path.root else start

/-- The place that a path leads to. -/
def walk (start : σ) (path : Path) : σ := path.segments.foldl w.step (w.origin start path)

/-- What one more segment leaves of the kept ones, the last of them first, leads where that segment
leads from them. -/
theorem foldr_push {rooted : Bool} {place : σ} (hplace : rooted = true → w.leave place = place)
    (kept : List Segment) (segment : Segment) :
    (push rooted kept segment).foldr (fun s p => w.step p s) place =
      w.step (kept.foldr (fun s p => w.step p s) place) segment := by
  by_cases hup : segment = up
  · subst hup
    cases kept with
    | nil =>
        cases rooted with
        | true => exact (hplace rfl).symm
        | false => rfl
    | cons last rest =>
        by_cases hlast : last = up
        · subst hlast
          rfl
        · rw [push_up_of_ne_up rooted rest hlast, List.foldr_cons]
          simp only [step, if_neg hlast, if_true, w.leave_enter _ _ hlast]
  · rw [push_of_ne_up rooted kept hup, List.foldr_cons]

/-- Taking back does not change where a path leads. -/
theorem walk_collapsed (start : σ) (path : Path) :
    w.walk start path.collapsed = w.walk start path := by
  have hplace : path.isAbsolute = true → w.leave (w.origin start path) = w.origin start path := by
    intro habsolute
    unfold origin
    rw [if_pos habsolute]
    exact w.leave_top path.root (bne_iff_ne.mp habsolute)
  have hrun : ∀ (segments kept : List Segment),
      (segments.foldl (push path.isAbsolute) kept).foldr (fun s p => w.step p s)
          (w.origin start path) =
        segments.foldl w.step (kept.foldr (fun s p => w.step p s) (w.origin start path)) := by
    intro segments
    induction segments with
    | nil => exact fun kept => rfl
    | cons segment segments ih =>
        intro kept
        rw [List.foldl_cons, List.foldl_cons, ih, w.foldr_push hplace]
  show (collapse path.isAbsolute path.segments).foldl w.step (w.origin start path) = _
  rw [collapse, List.foldl_reverse, hrun]
  rfl

/-- Kept segments are places too: each of them is the way to it. -/
def ways : Places (Nat × List Segment) where
  enter name place := (place.1, name :: place.2)
  leave place := (place.1, push (place.1 != 0) place.2 up)
  top root := (root, [])
  leave_enter name place hname := by
    show (place.1, push (place.1 != 0) (name :: place.2) up) = place
    rw [push_up_of_ne_up _ _ hname]
  leave_top root hroot := by
    show (root, push (root != 0) [] up) = (root, [])
    rw [bne_iff_ne.mpr hroot]
    rfl

/-- The way to the place that a path leads to is what taking back leaves of it. -/
theorem walk_ways (path : Path) :
    ways.walk (0, []) path = (path.root, (collapse path.isAbsolute path.segments).reverse) := by
  have hstep : ∀ (kept : List Segment) (segment : Segment),
      ways.step (path.root, kept) segment = (path.root, push path.isAbsolute kept segment) := by
    intro kept segment
    by_cases hup : segment = up
    · subst hup
      exact if_pos rfl
    · rw [push_of_ne_up _ _ hup]
      exact if_neg hup
  have hrun : ∀ (segments kept : List Segment), segments.foldl ways.step (path.root, kept) =
      (path.root, segments.foldl (push path.isAbsolute) kept) := by
    intro segments
    induction segments with
    | nil => exact fun kept => rfl
    | cons segment segments ih =>
        intro kept
        rw [List.foldl_cons, List.foldl_cons, hstep, ih]
  have horigin : ways.origin (0, []) path = (path.root, []) := by
    unfold origin
    split
    · rfl
    · rename_i hrelative
      rw [isAbsolute, bne_iff_ne, not_not] at hrelative
      rw [hrelative]
  unfold walk
  rw [horigin, hrun, collapse, List.reverse_reverse]

end Places

/-- A normalized text leads to the same place as the text, backslashes read as slashes. -/
theorem walk_normalize {σ : Type} (w : Places σ) (start : σ) (text : String) :
    w.walk start (ofText (normalize text)) =
      w.walk start (ofChars (forwardSlashes text.toList)) := by
  unfold ofText normalize
  rw [String.toList_ofList]
  by_cases hne : text.toList = []
  · rw [hne]
    rfl
  · rw [normalizeChars_of_ne_nil hne,
      ofChars_chars (normal_collapsed_ofChars (backslash_not_mem_forwardSlashes _)),
      w.walk_collapsed]

/-- Two texts that are not empty have the same normalized form if and only if they lead to the same
place everywhere. -/
theorem normalize_eq_iff {a b : String} (ha : a.toList ≠ []) (hb : b.toList ≠ []) :
    normalize a = normalize b ↔
      ∀ (σ : Type) (w : Places σ) (start : σ),
        w.walk start (ofChars (forwardSlashes a.toList)) =
          w.walk start (ofChars (forwardSlashes b.toList)) := by
  constructor
  · intro hsame σ w start
    rw [← walk_normalize, ← walk_normalize, hsame]
  · intro hplaces
    have hways := hplaces _ Places.ways (0, [])
    rw [Places.walk_ways, Places.walk_ways] at hways
    obtain ⟨hroot, hkept⟩ := Prod.mk.inj hways
    have hcollapsed : (ofChars (forwardSlashes a.toList)).collapsed =
        (ofChars (forwardSlashes b.toList)).collapsed :=
      congrArg₂ Path.mk hroot (List.reverse_injective hkept)
    unfold normalize
    rw [normalizeChars_of_ne_nil ha, normalizeChars_of_ne_nil hb, hcollapsed]

end Path

end ChunkGraph
