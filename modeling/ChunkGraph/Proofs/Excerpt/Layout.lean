import ChunkGraph.Excerpt.Assemble
import ChunkGraph.Proofs.Text.Lines
import Mathlib.Data.List.Infix
import Mathlib.Data.List.Pairwise
import Mathlib.Tactic.Tauto

/-!
# What stands in the block of a file

Where chunks have not kept their texts, their block is made of lines of the file.
The chunks are gone through in the order of their first lines, those that reach
further first, and a chunk that ends where lines have been put out already is
passed over. It began behind the chunk that put them out, so it lies within that
one: each chunk is in the block as a whole.

If of any two chunks one lies within the other or both lie apart, the chunks that
are put out are those that lie within no other one, and the block goes through the
file from top to bottom. It has the lines of these chunks and, of the lines between
two of them or in front of the first, those that are few enough and not blank. No
line is repeated.

Nothing but the lines of the chunks counts, and their order is that of their lines.
So it makes no difference in which order the chunks are given.

## Main definitions

* `LineRange.Within`, `LineRange.Apart` — how two ranges lie to each other.
* `Outermost`, `IsGap` — the ranges that lie within no other one, and the lines
  between two of them.
* `unpassed`, `withGaps` — the ranges that are not passed over, and the gaps that
  are kept between them.
* `IsLayout` — the ranges of which a block is made.

## Main results

* `exists_unpassed` — what is passed over lies within something that is not.
* `mem_unpassed_iff`, `pairwise_unpassed` — what is not passed over.
* `mem_withGaps_iff`, `pairwise_withGaps` — the gaps between ascending ranges.
* `assemble_covers_and_lays_out` — what stands in the block of a file.
-/

namespace ChunkGraph

/-! ## Ranges of lines -/

namespace LineRange

/-- All lines of the first range are lines of the second. -/
def Within (inner outer : LineRange) : Prop :=
  outer.start ≤ inner.start ∧ inner.stop ≤ outer.stop

/-- The ranges have no line in common. -/
def Apart (a b : LineRange) : Prop := a.stop < b.start ∨ b.stop < a.start

/-- The range has lines, and all of them are among the first `count` ones. -/
structure LinesOf (count : Nat) (r : LineRange) : Prop where
  /-- Lines are counted from one. -/
  one_le : 1 ≤ r.start
  /-- There is a line. -/
  start_le : r.start ≤ r.stop
  /-- The last line is there. -/
  stop_le : r.stop ≤ count

/-- The first range comes before the second in the order in which chunks are put together. -/
def ComesFirst (a b : LineRange) : Prop :=
  a.start < b.start ∨ a.start = b.start ∧ b.stop ≤ a.stop

/-- The number of lines. -/
def size (r : LineRange) : Int := r.stop - r.start + 1

/-- The lines of the range, joined by line feeds. -/
def text (lines : List (List Char)) (r : LineRange) : String := linesText lines r.start r.stop

instance : Std.Symm Apart := ⟨fun _ _ h => h.symm⟩

instance (inner outer : LineRange) : Decidable (inner.Within outer) :=
  inferInstanceAs (Decidable (_ ∧ _))

instance (a b : LineRange) : Decidable (a.Apart b) := inferInstanceAs (Decidable (_ ∨ _))

instance (count : Nat) (r : LineRange) : Decidable (r.LinesOf count) :=
  decidable_of_iff (1 ≤ r.start ∧ r.start ≤ r.stop ∧ r.stop ≤ count)
    ⟨fun h => ⟨h.1, h.2.1, h.2.2⟩, fun h => ⟨h.one_le, h.start_le, h.stop_le⟩⟩

theorem ComesFirst.antisymm {a b : LineRange} (h : a.ComesFirst b) (h' : b.ComesFirst a) :
    a = b := by
  obtain ⟨start, stop⟩ := a
  obtain ⟨start', stop'⟩ := b
  simp only [ComesFirst] at h h'
  have hstart : start = start' := by omega
  have hstop : stop = stop' := by omega
  rw [hstart, hstop]

theorem Within.antisymm {a b : LineRange} (h : a.Within b) (h' : b.Within a) : a = b := by
  obtain ⟨start, stop⟩ := a
  obtain ⟨start', stop'⟩ := b
  simp only [Within] at h h'
  have hstart : start = start' := by omega
  have hstop : stop = stop' := by omega
  rw [hstart, hstop]

theorem Within.trans {a b c : LineRange} (h : a.Within b) (h' : b.Within c) : a.Within c :=
  ⟨Int.le_trans h'.1 h.1, Int.le_trans h.2 h'.2⟩

end LineRange

open LineRange

/-- The lines of a chunk. -/
def Chunk.span (c : Chunk) : LineRange := ⟨c.startLine, c.endLine⟩

/-! ## Passing over -/

/-- The ranges that are not passed over, when the lines up to `last` are out already. -/
def unpassed : Int → List LineRange → List LineRange
  | _, [] => []
  | last, r :: rest =>
      if r.stop ≤ last then unpassed last rest else r :: unpassed r.stop rest

/-- The range lies within no other one of the list. -/
def Outermost (ranges : List LineRange) (r : LineRange) : Prop :=
  r ∈ ranges ∧ ∀ other ∈ ranges, r.Within other → other = r

/-- Of any two ranges one lies within the other, or they have no line in common. -/
def Nested (ranges : List LineRange) : Prop :=
  ∀ a ∈ ranges, ∀ b ∈ ranges, a.Apart b ∨ a.Within b ∨ b.Within a

instance (ranges : List LineRange) : Decidable (Nested ranges) :=
  inferInstanceAs (Decidable (∀ a ∈ ranges, _))

section Unpassed

variable {ranges : List LineRange} {last : Int} {r : LineRange}

theorem mem_of_mem_unpassed (h : r ∈ unpassed last ranges) : r ∈ ranges ∧ last < r.stop := by
  induction ranges generalizing last with
  | nil => exact absurd h List.not_mem_nil
  | cons first rest ih =>
      rw [unpassed] at h
      split at h
      · obtain ⟨hmem, hlast⟩ := ih h
        exact ⟨List.mem_cons_of_mem first hmem, hlast⟩
      · rename_i hreaches
        rcases List.mem_cons.mp h with rfl | h
        · exact ⟨List.mem_cons_self, by omega⟩
        · obtain ⟨hmem, hlast⟩ := ih h
          exact ⟨List.mem_cons_of_mem first hmem, by omega⟩

/-- A range with a line that is not out yet lies within one that is not passed over. -/
theorem exists_unpassed (hsorted : ranges.Pairwise ComesFirst) (hr : r ∈ ranges)
    (hlast : last < r.stop) : ∃ outer ∈ unpassed last ranges, r.Within outer := by
  induction ranges generalizing last with
  | nil => exact absurd hr List.not_mem_nil
  | cons first rest ih =>
      obtain ⟨hfirst, hrest⟩ := List.pairwise_cons.mp hsorted
      rw [unpassed]
      by_cases hpassed : first.stop ≤ last
      · rw [if_pos hpassed]
        rcases List.mem_cons.mp hr with rfl | hr
        · omega
        · exact ih hrest hr hlast
      · rw [if_neg hpassed]
        rcases List.mem_cons.mp hr with rfl | hr
        · exact ⟨r, List.mem_cons_self, Int.le_refl _, Int.le_refl _⟩
        · by_cases hcovered : r.stop ≤ first.stop
          · -- What is out already was put out by `first`, behind whose beginning `r` begins.
            have hbegins : first.start ≤ r.start := by
              have horder := hfirst r hr
              simp only [ComesFirst] at horder
              omega
            exact ⟨first, List.mem_cons_self, hbegins, hcovered⟩
          · obtain ⟨outer, houter, hwithin⟩ := ih hrest hr (Int.not_le.mp hcovered)
            exact ⟨outer, List.mem_cons_of_mem first houter, hwithin⟩

/-- If ranges are nested and none has both lines that are out and lines that are not, those that are
not passed over follow one another, behind the lines that are out. -/
theorem pairwise_unpassed (hsorted : ranges.Pairwise ComesFirst) (hnested : Nested ranges)
    (hsplit : ∀ r ∈ ranges, last < r.start ∨ r.stop ≤ last) :
    (unpassed last ranges).Pairwise (fun a b => a.stop < b.start) ∧
      ∀ r ∈ unpassed last ranges, last < r.start := by
  induction ranges generalizing last with
  | nil => exact ⟨.nil, fun _ h => absurd h List.not_mem_nil⟩
  | cons first rest ih =>
      obtain ⟨hfirst, hrest⟩ := List.pairwise_cons.mp hsorted
      have hnestedRest : Nested rest := fun a ha b hb =>
        hnested a (List.mem_cons_of_mem first ha) b (List.mem_cons_of_mem first hb)
      rw [unpassed]
      by_cases hpassed : first.stop ≤ last
      · rw [if_pos hpassed]
        exact ih hrest hnestedRest fun r hr => hsplit r (List.mem_cons_of_mem first hr)
      · rw [if_neg hpassed]
        have hbegins : last < first.start := by
          have hout := hsplit first List.mem_cons_self
          omega
        have hsplitRest : ∀ r ∈ rest, first.stop < r.start ∨ r.stop ≤ first.stop := by
          intro r hr
          have horder := hfirst r hr
          have hlie := hnested first List.mem_cons_self r (List.mem_cons_of_mem first hr)
          simp only [ComesFirst, Apart, Within] at horder hlie
          omega
        obtain ⟨hpairwise, hbehind⟩ := ih hrest hnestedRest hsplitRest
        refine ⟨List.pairwise_cons.mpr ⟨hbehind, hpairwise⟩, fun r hr => ?_⟩
        rcases List.mem_cons.mp hr with rfl | hr
        · exact hbegins
        · have hbehindFirst := hbehind r hr
          omega

/-- Of nested ranges with lines those are not passed over that lie within no other one. -/
theorem mem_unpassed_iff (hsorted : ranges.Pairwise ComesFirst) (hnested : Nested ranges)
    (hlines : ∀ r ∈ ranges, last < r.start ∧ r.start ≤ r.stop) :
    r ∈ unpassed last ranges ↔ Outermost ranges r := by
  have hpairwise := (pairwise_unpassed hsorted hnested fun r hr => Or.inl (hlines r hr).1).1
  have houter : ∀ a ∈ unpassed last ranges, ∀ b ∈ unpassed last ranges, a.Within b → a = b := by
    intro a ha b hb hwithin
    refine Decidable.byContradiction fun hne => ?_
    have hapart : a.Apart b :=
      (hpairwise.imp (S := Apart) fun h => Or.inl h).forall ha hb hne
    have hasLines := hlines a (mem_of_mem_unpassed ha).1
    simp only [Apart, Within] at hapart hwithin
    omega
  constructor
  · intro h
    obtain ⟨hr, _⟩ := mem_of_mem_unpassed h
    refine ⟨hr, fun other hother hwithin => ?_⟩
    obtain ⟨hlast, hends⟩ := hlines other hother
    obtain ⟨outer, houterMem, hotherWithin⟩ :=
      exists_unpassed hsorted hother (Int.lt_of_lt_of_le hlast hends)
    obtain rfl := houter r h outer houterMem (hwithin.trans hotherWithin)
    exact hotherWithin.antisymm hwithin
  · rintro ⟨hr, hnone⟩
    obtain ⟨hlast, hends⟩ := hlines r hr
    obtain ⟨outer, houterMem, hwithin⟩ :=
      exists_unpassed hsorted hr (Int.lt_of_lt_of_le hlast hends)
    obtain rfl := hnone outer (mem_of_mem_unpassed houterMem).1 hwithin
    exact houterMem

end Unpassed

/-! ## Gaps -/

/-- The gap has the lines between two neighbours among the ranges that are shown, or those between
`last` and the first one. -/
structure IsGap (last : Int) (shown : LineRange → Prop) (gap : LineRange) : Prop where
  /-- It has a line. -/
  start_le : gap.start ≤ gap.stop
  /-- It begins behind the lines that are out or behind a range that is shown. -/
  begins : gap.start = last + 1 ∨ ∃ before, shown before ∧ before.stop + 1 = gap.start
  /-- A range that is shown begins behind it. -/
  ends : ∃ behind, shown behind ∧ gap.stop + 1 = behind.start
  /-- No range that is shown has a line in it. -/
  apart : ∀ r, shown r → r.Apart gap

/-- The gap has lines, but not too many, and they are not blank. -/
def keeps (lines : List (List Char)) (maxGap : Bound) (gap : LineRange) : Bool :=
  decide (0 < gap.size) && maxGap.admits (.whole gap.size) &&
    !Text.allBlank (gap.text lines).toList

/-- The lines between those that are out and a range. -/
def gapBefore (last : Int) (r : LineRange) : LineRange := ⟨last + 1, r.start - 1⟩

/-- The ranges with those of the gaps in front of them that are kept. -/
def withGaps (lines : List (List Char)) (maxGap : Bound) : Int → List LineRange → List LineRange
  | _, [] => []
  | last, r :: rest =>
      [gapBefore last r].filter (keeps lines maxGap) ++ r :: withGaps lines maxGap r.stop rest

section Gaps

variable {lines : List (List Char)} {maxGap : Bound} {ranges : List LineRange} {last : Int}
  {gap : LineRange}

/-- A gap that is kept has a line. -/
theorem start_le_of_keeps (h : keeps lines maxGap gap = true) : gap.start ≤ gap.stop := by
  unfold keeps LineRange.size at h
  rw [Bool.and_eq_true, Bool.and_eq_true, decide_eq_true_eq] at h
  omega

/-- The gaps of ascending ranges are the one in front of the first range and those of the others. -/
theorem isGap_cons_iff {first : LineRange} (hlast : last < first.start)
    (hfirst : first.start ≤ first.stop) (hbehind : ∀ r ∈ ranges, first.stop < r.start)
    (hlines : ∀ r ∈ ranges, r.start ≤ r.stop) :
    IsGap last (· ∈ first :: ranges) gap ↔
      gap = gapBefore last first ∧ gap.start ≤ gap.stop ∨ IsGap first.stop (· ∈ ranges) gap := by
  obtain ⟨start, stop⟩ := gap
  constructor
  · rintro ⟨hsize, hbegins, ⟨behind, hmem, hends⟩, hapart⟩
    simp only at hsize hbegins hends
    have hapartFirst : first.Apart ⟨start, stop⟩ := hapart first List.mem_cons_self
    simp only [Apart] at hapartFirst
    rcases List.mem_cons.mp hmem with rfl | hmem
    · -- The gap ends in front of the first range, so nothing that is shown stands before it.
      left
      rcases hbegins with hbegins | ⟨before, hbefore, hbegins⟩
      · refine ⟨?_, hsize⟩
        rw [gapBefore, hbegins, ← hends, Int.add_sub_cancel]
      · exfalso
        rcases List.mem_cons.mp hbefore with rfl | hbefore
        · omega
        · have hlater := hbehind before hbefore
          have hends := hlines before hbefore
          omega
    · right
      have hlater := hbehind behind hmem
      have hstart : first.stop < start := by omega
      refine ⟨hsize, ?_, ⟨behind, hmem, hends⟩, fun r hr => hapart r (List.mem_cons_of_mem _ hr)⟩
      rcases hbegins with hbegins | ⟨before, hbefore, hbegins⟩
      · omega
      · rcases List.mem_cons.mp hbefore with rfl | hbefore
        · exact Or.inl hbegins.symm
        · exact Or.inr ⟨before, hbefore, hbegins⟩
  · rintro (⟨heq, hsize⟩ | ⟨hsize, hbegins, ⟨behind, hmem, hends⟩, hapart⟩)
    · obtain ⟨rfl, rfl⟩ := LineRange.mk.inj heq
      refine ⟨hsize, Or.inl rfl, ⟨first, List.mem_cons_self, Int.sub_add_cancel _ _⟩, ?_⟩
      intro r hr
      simp only [Apart]
      rcases List.mem_cons.mp hr with rfl | hr
      · omega
      · have hlater := hbehind r hr
        omega
    · simp only at hsize hbegins hends
      refine ⟨hsize, ?_, ⟨behind, List.mem_cons_of_mem _ hmem, hends⟩, ?_⟩
      · rcases hbegins with hbegins | ⟨before, hbefore, hbegins⟩
        · exact Or.inr ⟨first, List.mem_cons_self, hbegins.symm⟩
        · exact Or.inr ⟨before, List.mem_cons_of_mem _ hbefore, hbegins⟩
      · intro r hr
        rcases List.mem_cons.mp hr with rfl | hr
        · simp only [Apart]
          rcases hbegins with hbegins | ⟨before, hbefore, hbegins⟩
          · omega
          · have hlater := hbehind before hbefore
            have hends := hlines before hbefore
            omega
        · exact hapart r hr

/-- Among ascending ranges stand, with them, exactly the gaps that are kept. -/
theorem mem_withGaps_iff (hascending : ranges.Pairwise fun a b => a.stop < b.start)
    (hlines : ∀ r ∈ ranges, last < r.start ∧ r.start ≤ r.stop) {r : LineRange} :
    r ∈ withGaps lines maxGap last ranges ↔
      r ∈ ranges ∨ IsGap last (· ∈ ranges) r ∧ keeps lines maxGap r = true := by
  induction ranges generalizing last with
  | nil =>
      refine ⟨fun h => absurd h List.not_mem_nil, ?_⟩
      rintro (h | ⟨⟨_, _, ⟨_, h, _⟩, _⟩, _⟩)
      · exact h
      · exact absurd h List.not_mem_nil
  | cons first rest ih =>
      obtain ⟨hbehind, hrest⟩ := List.pairwise_cons.mp hascending
      obtain ⟨hlast, hfirst⟩ := hlines first List.mem_cons_self
      have hlinesRest : ∀ r ∈ rest, r.start ≤ r.stop :=
        fun r hr => (hlines r (List.mem_cons_of_mem first hr)).2
      have hgap : r ∈ [gapBefore last first].filter (keeps lines maxGap) ↔
          (r = gapBefore last first ∧ r.start ≤ r.stop) ∧ keeps lines maxGap r = true := by
        rw [List.mem_filter, List.mem_singleton]
        exact ⟨fun h => ⟨⟨h.1, start_le_of_keeps h.2⟩, h.2⟩, fun h => ⟨h.1.1, h.2⟩⟩
      rw [withGaps, List.mem_append, List.mem_cons, hgap,
        ih hrest fun r hr => ⟨hbehind r hr, hlinesRest r hr⟩,
        isGap_cons_iff hlast hfirst hbehind hlinesRest, List.mem_cons]
      tauto

/-- No range is left out, in whatever order they come. -/
theorem mem_withGaps_of_mem {r : LineRange} (h : r ∈ ranges) :
    r ∈ withGaps lines maxGap last ranges := by
  induction ranges generalizing last with
  | nil => exact absurd h List.not_mem_nil
  | cons first rest ih =>
      rw [withGaps, List.mem_append, List.mem_cons]
      rcases List.mem_cons.mp h with rfl | h
      · exact Or.inr (Or.inl rfl)
      · exact Or.inr (Or.inr (ih h))

/-- Ascending ranges with the gaps between them are ascending. -/
theorem pairwise_withGaps (hascending : ranges.Pairwise fun a b => a.stop < b.start)
    (hlines : ∀ r ∈ ranges, last < r.start ∧ r.start ≤ r.stop) :
    (withGaps lines maxGap last ranges).Pairwise (fun a b => a.stop < b.start) ∧
      ∀ r ∈ withGaps lines maxGap last ranges, last < r.start := by
  induction ranges generalizing last with
  | nil => exact ⟨.nil, fun _ h => absurd h List.not_mem_nil⟩
  | cons first rest ih =>
      obtain ⟨hbehind, hrest⟩ := List.pairwise_cons.mp hascending
      obtain ⟨hlast, hfirst⟩ := hlines first List.mem_cons_self
      obtain ⟨hpairwise, hlater⟩ := ih hrest fun r hr =>
        ⟨hbehind r hr, (hlines r (List.mem_cons_of_mem first hr)).2⟩
      have hgap : ∀ r ∈ [gapBefore last first].filter (keeps lines maxGap),
          last < r.start ∧ r.stop < first.start := by
        intro r hr
        rw [List.mem_singleton.mp (List.mem_filter.mp hr).1, gapBefore]
        constructor
        · exact Int.lt_succ last
        · exact Int.sub_lt_self first.start Int.one_pos
      have hbelow : ∀ r ∈ first :: withGaps lines maxGap first.stop rest,
          first.start ≤ r.start := by
        intro r hr
        rcases List.mem_cons.mp hr with rfl | hr
        · exact Int.le_refl _
        · have hstart := hlater r hr
          omega
      rw [withGaps]
      refine ⟨List.pairwise_append.mpr ⟨?_, List.pairwise_cons.mpr ⟨hlater, hpairwise⟩, ?_⟩, ?_⟩
      · exact (List.pairwise_singleton _ _).sublist List.filter_sublist
      · intro a ha b hb
        exact Int.lt_of_lt_of_le (hgap a ha).2 (hbelow b hb)
      · intro r hr
        rcases List.mem_append.mp hr with hr | hr
        · exact (hgap r hr).1
        · exact Int.lt_of_lt_of_le hlast (hbelow r hr)

end Gaps

/-! ## The block -/

/-- The order of chunks is that of their lines. -/
theorem comesFirst_iff (a b : Chunk) : a.comesFirst b = true ↔ a.span.ComesFirst b.span := by
  unfold Chunk.comesFirst LineRange.ComesFirst
  rw [Bool.or_eq_true, Bool.and_eq_true, decide_eq_true_eq, beq_iff_eq, decide_eq_true_eq]
  rfl

theorem comesFirst_trans (a b c : Chunk) :
    a.comesFirst b = true → b.comesFirst c = true → a.comesFirst c = true := by
  rw [comesFirst_iff, comesFirst_iff, comesFirst_iff]
  simp only [LineRange.ComesFirst]
  omega

theorem comesFirst_total (a b : Chunk) : (a.comesFirst b || b.comesFirst a) = true := by
  rw [Bool.or_eq_true, comesFirst_iff, comesFirst_iff]
  simp only [LineRange.ComesFirst]
  omega

theorem pairwise_comesFirst (chunks : List Chunk) :
    ((chunks.mergeSort Chunk.comesFirst).map Chunk.span).Pairwise ComesFirst :=
  List.pairwise_map.mpr ((List.pairwise_mergeSort comesFirst_trans comesFirst_total chunks).imp
    fun h => (comesFirst_iff _ _).mp h)

section Block

variable {lines : List (List Char)} {maxGap : Bound} {chunks : List Chunk}

theorem toList_gapText? (last : Int) (c : Chunk) :
    (gapText? lines maxGap last c).toList =
      ([gapBefore last c.span].filter (keeps lines maxGap)).map (LineRange.text lines) := by
  have hsize : (gapBefore last c.span).size = c.startLine - last - 1 := by
    show c.startLine - 1 - (last + 1) + 1 = c.startLine - last - 1
    omega
  have htext : (gapBefore last c.span).text lines =
      String.ofList (Text.joinLines (Text.slice lines last (c.startLine - 1))) := by
    show String.ofList (Text.joinLines (Text.slice lines (last + 1 - 1) (c.startLine - 1))) = _
    rw [Int.add_sub_cancel]
  unfold gapText?
  simp only [List.filter_cons, List.filter_nil, keeps, hsize, htext, String.toList_ofList]
  split
  · rw [List.map_singleton, htext]
    rfl
  · rfl

/-- The parts of a block are the lines of what is not passed over and of the gaps that are kept. -/
theorem parts_eq (hbare : ∀ c ∈ chunks, c.content = none) (last : Int) :
    parts lines maxGap last chunks =
      (withGaps lines maxGap last (unpassed last (chunks.map Chunk.span))).map
        (LineRange.text lines) := by
  induction chunks generalizing last with
  | nil => rfl
  | cons c rest ih =>
      obtain ⟨hcontent, hrest⟩ := List.forall_mem_cons.mp hbare
      rw [parts, List.map_cons, unpassed]
      by_cases hpassed : c.endLine ≤ last
      · rw [if_pos hpassed, if_pos (show c.span.stop ≤ last from hpassed)]
        exact ih hrest last
      · have hmax : max last c.endLine = c.span.stop := by
          show max last c.endLine = c.endLine
          omega
        rw [if_neg hpassed, if_neg (show ¬ c.span.stop ≤ last from hpassed), withGaps,
          List.map_append, List.map_cons, toList_gapText?, hmax, ih hrest, hcontent]
        rfl

/-- The block of chunks that have not kept their texts. -/
theorem assemble_eq (hbare : ∀ c ∈ chunks, c.content = none) (source : String) :
    assemble chunks source maxGap = String.intercalate "\n\n"
      ((withGaps (Text.splitLines source.toList) maxGap 0
        (unpassed 0 ((chunks.mergeSort Chunk.comesFirst).map Chunk.span))).map
          (LineRange.text (Text.splitLines source.toList))) := by
  unfold assemble
  rw [parts_eq fun c hc => hbare c (List.mem_mergeSort.mp hc)]

end Block

/-- Chunks with the same lines come in the same order, however they are given. -/
theorem map_span_mergeSort {chunks others : List Chunk} (h : others.Perm chunks) :
    (others.mergeSort Chunk.comesFirst).map Chunk.span =
      (chunks.mergeSort Chunk.comesFirst).map Chunk.span := by
  have hperm : (others.mergeSort Chunk.comesFirst).Perm (chunks.mergeSort Chunk.comesFirst) :=
    ((List.mergeSort_perm others _).trans h).trans (List.mergeSort_perm chunks _).symm
  exact (hperm.map Chunk.span).eq_of_pairwise (fun _ _ _ _ hab hba => hab.antisymm hba)
    (pairwise_comesFirst others) (pairwise_comesFirst chunks)

/-! ## Texts within texts -/

theorem join_eq_intercalate {α : Type} (sep : List α) (parts : List (List α)) :
    Text.join sep parts = sep.intercalate parts := by
  induction parts with
  | nil => rfl
  | cons part parts ih =>
      cases parts with
      | nil => exact List.intercalate_singleton.symm
      | cons next parts => rw [Text.join_cons_cons, List.intercalate_cons_cons, ih]

/-- Some of the parts in a row, joined, are found in all of them joined. -/
theorem infix_intercalate {α : Type} (sep : List α) {some all : List (List α)}
    (h : some <:+: all) : sep.intercalate some <:+: sep.intercalate all := by
  obtain ⟨front, back, rfl⟩ := h
  have hback : sep.intercalate some <+: sep.intercalate (some ++ back) := by
    induction some with
    | nil => exact List.nil_prefix
    | cons part parts ih =>
        cases parts with
        | nil =>
            rw [List.intercalate_singleton, List.singleton_append]
            cases back with
            | nil => rw [List.intercalate_singleton]
            | cons next back =>
                rw [List.intercalate_cons_cons, List.append_assoc]
                exact List.prefix_append _ _
        | cons next parts =>
            rw [List.cons_append, List.cons_append, List.intercalate_cons_cons,
              List.intercalate_cons_cons, List.prefix_append_right_inj]
            exact ih
  have hfront : sep.intercalate (some ++ back) <:+ sep.intercalate (front ++ (some ++ back)) := by
    generalize some ++ back = behind
    induction front with
    | nil => exact List.suffix_rfl
    | cons part parts ih =>
        refine ih.trans ?_
        rw [List.cons_append]
        cases parts ++ behind with
        | nil => exact List.nil_suffix
        | cons next rest =>
            rw [List.intercalate_cons_cons]
            exact List.suffix_append _ _
  rw [List.append_assoc]
  exact hback.isInfix.trans hfront.isInfix

theorem infix_intercalate_of_mem {α : Type} (sep : List α) {part : List α} {parts : List (List α)}
    (h : part ∈ parts) : part <:+: sep.intercalate parts := by
  obtain ⟨front, back, rfl⟩ := List.append_of_mem h
  have hone := infix_intercalate sep
    (show [part] <:+: front ++ part :: back from ⟨front, back, by rw [List.append_assoc]; rfl⟩)
  rwa [List.intercalate_singleton] at hone

/-- The lines of a range within another one are found in the lines of that one. -/
theorem infix_text_of_within {lines : List (List Char)} {inner outer : LineRange}
    (hinner : inner.LinesOf lines.length) (houter : outer.LinesOf lines.length)
    (h : inner.Within outer) : (inner.text lines).toList <:+: (outer.text lines).toList := by
  obtain ⟨start, stop⟩ := inner
  obtain ⟨start', stop'⟩ := outer
  obtain ⟨hone, hlines, _⟩ := hinner
  obtain ⟨hone', hlines', _⟩ := houter
  simp only [Within] at *
  obtain ⟨a, ha⟩ := Int.eq_ofNat_of_zero_le (show 0 ≤ start - 1 by omega)
  obtain ⟨b, hb⟩ := Int.eq_ofNat_of_zero_le (show 0 ≤ stop by omega)
  obtain ⟨a', ha'⟩ := Int.eq_ofNat_of_zero_le (show 0 ≤ start' - 1 by omega)
  obtain ⟨b', hb'⟩ := Int.eq_ofNat_of_zero_le (show 0 ≤ stop' by omega)
  have hslices : (lines.take b).drop a <:+: (lines.take b').drop a' := by
    have hlater : (lines.take b).drop a <:+ (lines.take b).drop a' :=
      List.drop_suffix_drop_left _ (by omega)
    have htake : lines.take b <+: lines.take b' := List.take_prefix_take_left (by omega)
    have hfewer : (lines.take b).drop a' <+: (lines.take b').drop a' := htake.drop a'
    exact hlater.isInfix.trans hfewer.isInfix
  unfold LineRange.text linesText
  rw [ha, hb, ha', hb', Text.slice_natCast, Text.slice_natCast, String.toList_ofList,
    String.toList_ofList]
  unfold Text.joinLines
  rw [join_eq_intercalate, join_eq_intercalate]
  exact infix_intercalate _ hslices

/-! ## The layout of a block -/

/-- The ranges of lines of which the block of nested ranges is made. -/
structure IsLayout (lines : List (List Char)) (maxGap : Bound) (ranges pieces : List LineRange) :
    Prop where
  /-- They have lines of the file. -/
  linesOf : ∀ r ∈ pieces, r.LinesOf lines.length
  /-- Each stands behind those before it. -/
  ascending : pieces.Pairwise fun a b => a.stop < b.start
  /-- They are the ranges that lie within no other one, and the gaps between two neighbours of
  these, or in front of the first one, that are not too long and not blank. -/
  mem_iff : ∀ r, r ∈ pieces ↔ Outermost ranges r ∨
    IsGap 0 (Outermost ranges) r ∧ maxGap.admits (.whole r.size) = true ∧
      Text.allBlank (r.text lines).toList = false

theorem keeps_iff {lines : List (List Char)} {maxGap : Bound} {gap : LineRange}
    (h : gap.start ≤ gap.stop) :
    keeps lines maxGap gap = true ↔
      maxGap.admits (.whole gap.size) = true ∧ Text.allBlank (gap.text lines).toList = false := by
  have hsize : decide (0 < gap.size) = true := by
    rw [decide_eq_true_eq, LineRange.size]
    omega
  rw [keeps, hsize, Bool.true_and, Bool.and_eq_true, Bool.not_eq_true']

/-- What is put out of nested ranges is a layout of them. -/
theorem isLayout_withGaps {lines : List (List Char)} {maxGap : Bound}
    {ranges sorted : List LineRange} (hperm : sorted.Perm ranges)
    (hsorted : sorted.Pairwise ComesFirst) (hnested : Nested ranges)
    (hlines : ∀ r ∈ ranges, r.LinesOf lines.length) :
    IsLayout lines maxGap ranges (withGaps lines maxGap 0 (unpassed 0 sorted)) := by
  have hnestedSorted : Nested sorted := fun a ha b hb =>
    hnested a (hperm.mem_iff.mp ha) b (hperm.mem_iff.mp hb)
  have hlinesSorted : ∀ r ∈ sorted, 0 < r.start ∧ r.start ≤ r.stop := fun r hr =>
    ⟨(hlines r (hperm.mem_iff.mp hr)).one_le, (hlines r (hperm.mem_iff.mp hr)).start_le⟩
  have hshown (r : LineRange) : r ∈ unpassed 0 sorted ↔ Outermost ranges r := by
    rw [mem_unpassed_iff hsorted hnestedSorted hlinesSorted, Outermost, Outermost, hperm.mem_iff]
    simp only [hperm.mem_iff]
  have hascending := (pairwise_unpassed hsorted hnestedSorted
    fun r hr => Or.inl (hlinesSorted r hr).1).1
  have hlinesShown : ∀ r ∈ unpassed 0 sorted, 0 < r.start ∧ r.start ≤ r.stop :=
    fun r hr => hlinesSorted r (mem_of_mem_unpassed hr).1
  have hmem (r : LineRange) : r ∈ withGaps lines maxGap 0 (unpassed 0 sorted) ↔
      Outermost ranges r ∨ IsGap 0 (Outermost ranges) r ∧
        maxGap.admits (.whole r.size) = true ∧ Text.allBlank (r.text lines).toList = false := by
    rw [mem_withGaps_iff hascending hlinesShown, hshown, funext fun r => propext (hshown r)]
    exact or_congr_right (and_congr_right fun hgap => keeps_iff hgap.start_le)
  refine ⟨fun r hr => ?_, (pairwise_withGaps hascending hlinesShown).1, hmem⟩
  have hbegins : 0 < r.start := (pairwise_withGaps hascending hlinesShown).2 r hr
  rcases (hmem r).mp hr with ⟨hrange, _⟩ | ⟨hgap, _⟩
  · exact hlines r hrange
  · obtain ⟨behind, hbehind, hends⟩ := hgap.ends
    have hlast := hlines behind hbehind.1
    refine ⟨hbegins, hgap.start_le, ?_⟩
    have := hlast.start_le
    have := hlast.stop_le
    omega

/-- Blocks cover every chunk and repeat no line. Let chunks have lines of a file and not their own
texts. Each chunk's lines are found in the block of them. If of any two chunks one lies within the
other or both lie apart, the block goes once through the file: it has the lines of the chunks that
lie within no other one and of all gaps between these that are neither too long nor blank. In which
order the chunks are given makes no difference. A block is put together with any greatest number of
lines in a gap. -/
theorem assemble_covers_and_lays_out (chunks : List Chunk) (source : String) (maxGap : Bound)
    (hbare : ∀ c ∈ chunks, c.content = none)
    (hlines : ∀ c ∈ chunks, c.span.LinesOf (Text.splitLines source.toList).length) :
    (maxGap.isNumber = true → gapFault? chunks maxGap = none) ∧
      (∀ c ∈ chunks, (c.span.text (Text.splitLines source.toList)).toList <:+:
        (assemble chunks source maxGap).toList) ∧
      (Nested (chunks.map Chunk.span) → ∃ pieces,
        IsLayout (Text.splitLines source.toList) maxGap (chunks.map Chunk.span) pieces ∧
          assemble chunks source maxGap = String.intercalate "\n\n"
            (pieces.map (LineRange.text (Text.splitLines source.toList)))) ∧
      ∀ others : List Chunk, others.Perm chunks →
        assemble others source maxGap = assemble chunks source maxGap := by
  have hperm : ((chunks.mergeSort Chunk.comesFirst).map Chunk.span).Perm (chunks.map Chunk.span) :=
    (List.mergeSort_perm chunks _).map Chunk.span
  have hsorted := pairwise_comesFirst chunks
  have hspans : ∀ r ∈ chunks.map Chunk.span,
      r.LinesOf (Text.splitLines source.toList).length := List.forall_mem_map.mpr hlines
  refine ⟨fun hnumber => ?_, fun c hc => ?_, fun hnested => ?_, fun others hothers => ?_⟩
  · unfold gapFault?
    rw [Bound.fault?_of_isNumber hnumber, ite_self]
  · have hspan : c.span ∈ (chunks.mergeSort Chunk.comesFirst).map Chunk.span :=
      hperm.mem_iff.mpr (List.mem_map_of_mem hc)
    have hreaches : 0 < c.span.stop := by
      have hone := (hlines c hc).one_le
      have hends := (hlines c hc).start_le
      omega
    obtain ⟨outer, houter, hwithin⟩ := exists_unpassed hsorted hspan hreaches
    have houterLines : outer.LinesOf (Text.splitLines source.toList).length :=
      hspans outer (hperm.mem_iff.mp (mem_of_mem_unpassed houter).1)
    have hpiece : outer ∈ withGaps (Text.splitLines source.toList) maxGap 0
        (unpassed 0 ((chunks.mergeSort Chunk.comesFirst).map Chunk.span)) :=
      mem_withGaps_of_mem houter
    rw [assemble_eq hbare, String.toList_intercalate]
    refine (infix_text_of_within (hlines c hc) houterLines hwithin).trans ?_
    exact infix_intercalate_of_mem _
      (List.mem_map_of_mem (List.mem_map_of_mem hpiece))
  · exact ⟨_, isLayout_withGaps hperm hsorted hnested hspans, assemble_eq hbare source⟩
  · rw [assemble_eq hbare, assemble_eq fun c hc => hbare c (hothers.mem_iff.mp hc),
      map_span_mergeSort hothers]

/-- A class of three lines, a comment and a function. -/
def classSource : String :=
  "class A \x7b\n  m() \x7b\x7d\n\x7d\n// b\nfunction b() \x7b\x7d"

/-- A chunk of the given lines. -/
def chunkOfLines (start stop : Int) : Chunk :=
  { (default : Chunk) with startLine := start, endLine := stop }

/-- The chunks of the function, the method and the class. -/
def classChunks : List Chunk := [chunkOfLines 5 5, chunkOfLines 2 2, chunkOfLines 1 3]

/-- The block of a class, its method and a function is laid out like the file. -/
theorem assemble_covers_and_lays_out_class :
    gapFault? classChunks standardGap = none ∧
      "  m() \x7b\x7d".toList <:+: (assemble classChunks classSource standardGap).toList ∧
      (∃ pieces,
        IsLayout (Text.splitLines classSource.toList) standardGap [⟨5, 5⟩, ⟨2, 2⟩, ⟨1, 3⟩] pieces ∧
          assemble classChunks classSource standardGap = String.intercalate "\n\n"
            (pieces.map (LineRange.text (Text.splitLines classSource.toList)))) ∧
      assemble classChunks.reverse classSource standardGap =
        assemble classChunks classSource standardGap := by
  have hlines : (Text.splitLines classSource.toList).length = 5 := by decide +kernel
  have hwhole := assemble_covers_and_lays_out classChunks classSource standardGap (by decide)
    (by rw [hlines]; decide)
  have hmethod :
      (chunkOfLines 2 2).span.text (Text.splitLines classSource.toList) = "  m() \x7b\x7d" := by
    decide +kernel
  refine ⟨hwhole.1 rfl, ?_, hwhole.2.2.1 (by decide), hwhole.2.2.2 _ (List.reverse_perm _)⟩
  rw [← hmethod]
  exact hwhole.2.1 (chunkOfLines 2 2) (List.mem_cons_of_mem _ List.mem_cons_self)

end ChunkGraph
