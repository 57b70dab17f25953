import ChunkGraph.Proofs.Excerpt.Layout
import ChunkGraph.Proofs.Outline.Content
import ChunkGraph.Proofs.Outline.Location
import ChunkGraph.Proofs.Outline.Spans

/-!
# Blocks of chunks that have kept their texts

A block goes by lines, also where chunks have kept their texts: a chunk is
passed over if its last line is out already, and what was put out may be the
text of another chunk that only shares this line. So a chunk is in the block if
it is put out or lies, to the column, within one that is.

All chunks are, if each chunk whose last line was reached by one before it lies
within one before it. Where chunks on common lines lie within one another, this
holds as long as of two chunks with the same lines the one that is given first
contains the other. Two functions on one line, or the variables of one statement,
share a line and do not lie within one another, and only the first of them is in
the block.

## Main definitions

* `putOut` — the chunks that are not passed over.

## Main results

* `putOut_covers_iff` — when every chunk lies within one that is put out.
* `covers_of_lines` — chunks that share lines only if they lie within one another.
* `Outline.infix_of_within` — the text of a chunk within another one.
* `retained_chunks_in_block` — which texts are in the block of a file.
* `second_variable_is_missing` — two variables of one statement.
-/

namespace ChunkGraph

open Number Syntax
open LineRange (Apart ComesFirst)
open Text.Utf8 (encode)

/-! ## Passing over -/

/-- The chunks that are not passed over, when the lines up to `last` are out already. -/
def putOutFrom : Int → List Chunk → List Chunk
  | _, [] => []
  | last, c :: rest =>
      if c.endLine ≤ last then putOutFrom last rest
      else c :: putOutFrom (max last c.endLine) rest

/-- The chunks that are not passed over when chunks are put together. -/
def putOut (chunks : List Chunk) : List Chunk :=
  putOutFrom 0 (chunks.mergeSort Chunk.comesFirst)

/-- The last line that is out behind some chunks. -/
def reach (last : Int) (chunks : List Chunk) : Int :=
  chunks.foldl (fun last c => max last c.endLine) last

section PutOut

variable {chunks : List Chunk} {last : Int}

/-- A chunk that is put out has its text in a part of its own. -/
theorem content_mem_parts {c : Chunk} (hc : c ∈ putOutFrom last chunks) {text : String}
    (htext : c.content = some text) (lines : List (List Char)) (maxGap : Bound) :
    text ∈ parts lines maxGap last chunks := by
  induction chunks generalizing last with
  | nil => exact absurd hc List.not_mem_nil
  | cons first rest ih =>
      rw [putOutFrom] at hc
      rw [parts]
      split at hc
      · rename_i hpassed
        rw [if_pos hpassed]
        exact ih hc
      · rename_i hreaches
        rw [if_neg hreaches]
        refine List.mem_append_right _ ?_
        rcases List.mem_cons.mp hc with rfl | hc
        · rw [htext]
          exact List.mem_cons_self
        · exact List.mem_cons_of_mem _ (ih hc)

/-- The text of a chunk that is put out is in the block. -/
theorem infix_assemble_of_mem_putOut {c : Chunk} (hc : c ∈ putOut chunks) {text : String}
    (htext : c.content = some text) (source : String) (maxGap : Bound) :
    text.toList <:+: (assemble chunks source maxGap).toList := by
  unfold assemble
  rw [String.toList_intercalate]
  exact infix_intercalate_of_mem _ (List.mem_map_of_mem (content_mem_parts hc htext _ maxGap))

theorem mem_of_mem_putOutFrom {c : Chunk} (hc : c ∈ putOutFrom last chunks) :
    c ∈ chunks ∧ last < c.endLine := by
  induction chunks generalizing last with
  | nil => exact absurd hc List.not_mem_nil
  | cons first rest ih =>
      rw [putOutFrom] at hc
      split at hc
      · obtain ⟨hmem, hlast⟩ := ih hc
        exact ⟨List.mem_cons_of_mem first hmem, hlast⟩
      · rename_i hreaches
        rcases List.mem_cons.mp hc with rfl | hc
        · exact ⟨List.mem_cons_self, by omega⟩
        · obtain ⟨hmem, hlast⟩ := ih hc
          exact ⟨List.mem_cons_of_mem first hmem, by omega⟩

/-- A chunk is passed over if lines up to its last one are out behind those before it. -/
theorem putOutFrom_append (last : Int) (front back : List Chunk) :
    putOutFrom last (front ++ back) =
      putOutFrom last front ++ putOutFrom (reach last front) back := by
  induction front generalizing last with
  | nil => rfl
  | cons first front ih =>
      rw [List.cons_append, putOutFrom, putOutFrom, ih, ih]
      show _ = _ ++ putOutFrom (reach (max last first.endLine) front) back
      split
      · rename_i hpassed
        rw [Int.max_eq_left hpassed]
      · rfl

/-- What is out behind some chunks was out before, or one of them has put it out. -/
theorem le_reach_iff (line last : Int) (front : List Chunk) :
    line ≤ reach last front ↔ line ≤ last ∨ ∃ a ∈ front, line ≤ a.endLine := by
  induction front generalizing last with
  | nil => exact ⟨Or.inl, fun h => h.resolve_right fun ⟨_, ha, _⟩ => absurd ha List.not_mem_nil⟩
  | cons first front ih =>
      show line ≤ reach (max last first.endLine) front ↔ _
      have hmax : line ≤ max last first.endLine ↔ line ≤ last ∨ line ≤ first.endLine := by omega
      rw [ih, hmax, or_assoc]
      refine or_congr_right ⟨?_, ?_⟩
      · rintro (hfirst | ⟨a, ha, hline⟩)
        · exact ⟨first, List.mem_cons_self, hfirst⟩
        · exact ⟨a, List.mem_cons_of_mem first ha, hline⟩
      · rintro ⟨a, ha, hline⟩
        rcases List.mem_cons.mp ha with rfl | ha
        · exact Or.inl hline
        · exact Or.inr ⟨a, ha, hline⟩

end PutOut

/-- The order in which chunks are put together is that of their lines. -/
theorem comesFirst_of_split {chunks front back : List Chunk} {c : Chunk}
    (hsorted : chunks.mergeSort Chunk.comesFirst = front ++ c :: back) :
    (∀ a ∈ front, a.span.ComesFirst c.span) ∧ ∀ b ∈ back, c.span.ComesFirst b.span := by
  have hpairwise := pairwise_comesFirst chunks
  rw [hsorted, List.map_append, List.map_cons] at hpairwise
  obtain ⟨_, hbehind, hbefore⟩ := List.pairwise_append.mp hpairwise
  exact ⟨fun a ha => hbefore _ (List.mem_map_of_mem ha) _ List.mem_cons_self,
    fun b hb => List.rel_of_pairwise_cons hbehind (List.mem_map_of_mem hb)⟩

/-! ## Covered chunks -/

/-- The lines of the chunk are counted from one, and they are those of its range. -/
structure Chunk.Lined (c : Chunk) : Prop where
  /-- The first line. -/
  startLine_eq : c.startLine = c.range.start.line
  /-- The last line. -/
  endLine_eq : c.endLine = c.range.stop.line
  /-- There is a line. -/
  start_le : c.startLine ≤ c.endLine
  /-- Lines are counted from one. -/
  one_le : 1 ≤ c.startLine

/-- A chunk within another one has only lines of that one. -/
theorem Chunk.Lined.span_within {inner outer : Chunk} (hinner : inner.Lined) (houter : outer.Lined)
    (h : inner.range.Within outer.range) : inner.span.Within outer.span := by
  have hline {a b : Position} (hkey : a.key ≤ b.key) : a.line ≤ b.line := by
    rcases Prod.Lex.toLex_le_toLex.mp hkey with hlt | ⟨heq, _⟩
    · exact Int.le_of_lt hlt
    · exact Int.le_of_eq heq
  have hstart := hline h.1
  have hstop := hline h.2
  rw [← houter.startLine_eq, ← hinner.startLine_eq] at hstart
  rw [← hinner.endLine_eq, ← houter.endLine_eq] at hstop
  exact ⟨hstart, hstop⟩

section Covered

variable {chunks : List Chunk} (hlined : ∀ c ∈ chunks, c.Lined)
include hlined

/-- Of the chunks in their order, one is passed over exactly if a chunk before it has reached its
last line. -/
theorem passed_iff {front back : List Chunk} {c : Chunk}
    (hsorted : chunks.mergeSort Chunk.comesFirst = front ++ c :: back) :
    c.endLine ≤ reach 0 front ↔ ∃ a ∈ front, c.endLine ≤ a.endLine := by
  have hmem : c ∈ chunks := by
    have hplaced : c ∈ chunks.mergeSort Chunk.comesFirst := by
      rw [hsorted]
      exact List.mem_append_right front List.mem_cons_self
    exact List.mem_mergeSort.mp hplaced
  rw [le_reach_iff]
  refine or_iff_right fun hnone => ?_
  have hone := (hlined c hmem).one_le
  have hends := (hlined c hmem).start_le
  omega

/-- All chunks lie within chunks that are put out exactly if each one whose last line is reached by
chunks before it lies within one of these. -/
theorem putOut_covers_iff :
    (∀ c ∈ chunks, ∃ a ∈ putOut chunks, c.range.Within a.range) ↔
      ∀ front c back, chunks.mergeSort Chunk.comesFirst = front ++ c :: back →
        (∃ a ∈ front, c.endLine ≤ a.endLine) → ∃ a ∈ front, c.range.Within a.range := by
  have hmem (c : Chunk) : c ∈ chunks.mergeSort Chunk.comesFirst ↔ c ∈ chunks := List.mem_mergeSort
  constructor
  · intro hcovers front c back hsorted hreached
    have hpassed := (passed_iff hlined hsorted).mpr hreached
    have hc : c ∈ chunks := by
      rw [← hmem, hsorted]
      exact List.mem_append_right front List.mem_cons_self
    obtain ⟨a, ha, hwithin⟩ := hcovers c hc
    have hput := ha
    unfold putOut at hput
    rw [hsorted, putOutFrom_append, putOutFrom, if_pos hpassed] at hput
    rcases List.mem_append.mp hput with hput | hput
    · exact ⟨a, (mem_of_mem_putOutFrom hput).1, hwithin⟩
    · -- A chunk behind that contains this one ends on the same line, so it is passed over too.
      obtain ⟨hback, hbeyond⟩ := mem_of_mem_putOutFrom hput
      have hachunks : a ∈ chunks := by
        rw [← hmem, hsorted]
        exact List.mem_append_right front (List.mem_cons_of_mem c hback)
      have hlines := (hlined c hc).span_within (hlined a hachunks) hwithin
      have horder := (comesFirst_of_split hsorted).2 a hback
      simp only [LineRange.Within, ComesFirst, Chunk.span] at hlines horder
      omega
  · intro hnested
    -- By the number of chunks in front.
    have hcovered (count : Nat) : ∀ front c back,
        chunks.mergeSort Chunk.comesFirst = front ++ c :: back → front.length = count →
          ∃ a ∈ putOut chunks, c.range.Within a.range := by
      induction count using Nat.strongRecOn with
      | ind count ih =>
          intro front c back hsorted hlength
          by_cases hreached : ∃ a ∈ front, c.endLine ≤ a.endLine
          · obtain ⟨a, ha, hwithin⟩ := hnested front c back hsorted hreached
            obtain ⟨before, between, rfl⟩ := List.append_of_mem ha
            have hearlier : chunks.mergeSort Chunk.comesFirst =
                before ++ a :: (between ++ c :: back) := by
              rw [hsorted, List.append_assoc]
              rfl
            rw [List.length_append, List.length_cons] at hlength
            obtain ⟨outer, houter, hawithin⟩ := ih before.length (by omega) before a
              (between ++ c :: back) hearlier rfl
            exact ⟨outer, houter, hwithin.trans hawithin⟩
          · have hput : ¬ c.endLine ≤ reach 0 front :=
              fun hpassed => hreached ((passed_iff hlined hsorted).mp hpassed)
            refine ⟨c, ?_, .refl _⟩
            unfold putOut
            rw [hsorted, putOutFrom_append, putOutFrom, if_neg hput]
            exact List.mem_append_right _ List.mem_cons_self
    intro c hc
    obtain ⟨front, back, hsorted⟩ := List.append_of_mem ((hmem c).mpr hc)
    exact hcovered front.length front c back hsorted rfl

omit hlined in
/-- Putting chunks in order keeps what holds of any two with the same lines, the first one given
before the second. -/
theorem pairwise_mergeSort_of_ties {R : Chunk → Chunk → Prop}
    (h : chunks.Pairwise fun a b => b.span = a.span → R a b) :
    (chunks.mergeSort Chunk.comesFirst).Pairwise fun a b => b.span = a.span → R a b := by
  rw [List.pairwise_iff_forall_sublist] at h ⊢
  intro a b hsorted hsame
  refine h ?_ hsame
  -- The chunks with these lines are the same before and after, and in the same order.
  have hkept : (chunks.mergeSort Chunk.comesFirst).filter (fun c => decide (c.span = a.span)) =
      chunks.filter fun c => decide (c.span = a.span) := by
    have hlines : (chunks.filter fun c => decide (c.span = a.span)).Pairwise
        fun c d => c.comesFirst d = true := by
      refine List.pairwise_iff_forall_sublist.mpr fun {c d} hpair => ?_
      have hspan (e : Chunk) (he : e ∈ [c, d]) : e.span = a.span :=
        of_decide_eq_true (List.mem_filter.mp (hpair.subset he)).2
      rw [comesFirst_iff, hspan c List.mem_cons_self,
        hspan d (List.mem_cons_of_mem c List.mem_cons_self)]
      exact Or.inr ⟨rfl, Int.le_refl _⟩
    have hsublist := (List.sublist_mergeSort comesFirst_trans comesFirst_total hlines
      List.filter_sublist).filter fun c => decide (c.span = a.span)
    rw [List.filter_filter] at hsublist
    simp only [Bool.and_self] at hsublist
    refine (hsublist.eq_of_length ?_).symm
    exact ((List.mergeSort_perm chunks _).filter _).length_eq.symm
  have hpair : [a, b].filter (fun c => decide (c.span = a.span)) = [a, b] := by
    simp [hsame]
  have hfiltered := hsorted.filter fun c => decide (c.span = a.span)
  rw [hpair, hkept] at hfiltered
  exact hfiltered.trans List.filter_sublist

/-- Chunks that share lines only if one lies within the other all lie within chunks that are put
out, if of two with the same lines the first one given contains the other. -/
theorem covers_of_lines
    (hlie : ∀ a ∈ chunks, ∀ b ∈ chunks,
      a.span.Apart b.span ∨ a.range.Within b.range ∨ b.range.Within a.range)
    (hties : chunks.Pairwise fun a b => b.span = a.span → b.range.Within a.range) :
    ∀ c ∈ chunks, ∃ a ∈ putOut chunks, c.range.Within a.range := by
  refine (putOut_covers_iff hlined).mpr fun front c back hsorted hreached => ?_
  obtain ⟨a, ha, hends⟩ := hreached
  refine ⟨a, ha, ?_⟩
  have hmem {d : Chunk} (hd : d ∈ front ++ c :: back) : d ∈ chunks := by
    rw [← hsorted] at hd
    exact List.mem_mergeSort.mp hd
  have hcmem : c ∈ chunks := hmem (List.mem_append_right front List.mem_cons_self)
  have hamem : a ∈ chunks := hmem (List.mem_append_left _ ha)
  have horder := (comesFirst_of_split hsorted).1 a ha
  have hlines := (hlined c hcmem).start_le
  rcases hlie a hamem c hcmem with hapart | hinside | hwithin
  · simp only [Apart, ComesFirst, Chunk.span] at hapart horder
    omega
  · have hspan := (hlined a hamem).span_within (hlined c hcmem) hinside
    have hsame : c.span = a.span := by
      simp only [LineRange.Within, ComesFirst, Chunk.span, LineRange.mk.injEq] at hspan horder ⊢
      omega
    have hsortedTies := pairwise_mergeSort_of_ties hties
    rw [hsorted] at hsortedTies
    exact (List.pairwise_append.mp hsortedTies).2.2 a ha c List.mem_cons_self hsame
  · exact hwithin

end Covered

/-! ## Chunks of a tree -/

namespace Outline

section Tree

variable {ctx : Context} {code : String} {root : Cursor}
  (hstands : ctx.tree.StandsIn code.toList) (hroot : ctx.tree.rootCursor? = some root)
include hstands hroot

/-- A chunk of a tree that stands in a file is made of a declaration that covers whole characters of
the source. -/
theorem exists_covers_of_standsIn :
    ∃ text, ctx.tree.source = encode text ∧ ∀ c ∈ outline ctx root,
      ∃ item container kind name facets members, item.span.node.Covers text ∧
        c = linked (ctx.chunkNamed item container kind name facets) members := by
  obtain ⟨_, text, _, _, hsource, _, hcovers⟩ := hstands
  obtain ⟨node, hnode, rfl⟩ := Option.map_eq_some_iff.mp hroot
  exact ⟨text, hsource, exists_chunkNamed_of_everywhere (.ofRoot (hcovers node hnode))⟩

/-- Its lines are those of its range. -/
theorem lined_of_standsIn : ∀ c ∈ outline ctx root, c.Lined := by
  obtain ⟨text, _, hmade⟩ := exists_covers_of_standsIn hstands hroot
  intro c hc
  obtain ⟨item, _, _, _, _, _, hcovers, rfl⟩ := hmade c hc
  have hmono := pointIn_mono ctx.tree.source hcovers.start_le_stop
  refine ⟨rfl, rfl, ?_, ?_⟩
  · show ((ctx.tree.pointAt item.span.node.start).row : Int) + 1 + (ctx.tree.lineOffset : Int) ≤
      ((ctx.tree.pointAt item.span.node.stop).row : Int) + 1 + (ctx.tree.lineOffset : Int)
    unfold Tree.pointAt
    omega
  · show 1 ≤ ((ctx.tree.pointAt item.span.node.start).row : Int) + 1 + (ctx.tree.lineOffset : Int)
    omega

/-- The text of a chunk that lies within another one is found in the text of that one. -/
theorem infix_of_within (hcontent : ctx.options.includeContent = true) {inner outer : Chunk}
    (hinner : inner ∈ outline ctx root) (houter : outer ∈ outline ctx root)
    (hwithin : inner.range.Within outer.range) :
    ∃ part whole, inner.content = some part ∧ outer.content = some whole ∧
      part.toList <:+: whole.toList := by
  obtain ⟨text, hsource, hmade⟩ := exists_covers_of_standsIn hstands hroot
  obtain ⟨item, _, _, _, _, _, hcovers, rfl⟩ := hmade inner hinner
  obtain ⟨holder, _, _, _, _, _, hcoversOuter, rfl⟩ := hmade outer houter
  have hbound {position : Nat} (h : Text.Utf8.Boundary text position) :
      position ≤ ctx.tree.source.length := by
    rw [hsource]
    exact h.le_length
  obtain ⟨hfirst, hlast⟩ : item.span.node.Inside holder.span.node :=
    inside_of_rangeOf_within ctx.tree (hbound hcoversOuter.start) (hbound hcovers.stop) hwithin
  have hkept (item : Item) :
      (if ctx.options.includeContent then some (item.text ctx.tree) else none) =
        some (item.text ctx.tree) := if_pos hcontent
  refine ⟨item.text ctx.tree, holder.text ctx.tree, hkept item, hkept holder, ?_⟩
  obtain ⟨front, back, htext, hstart, hstop⟩ := item.exists_slice_of_covers hsource hcovers
  obtain ⟨frontOuter, backOuter, htextOuter, hstartOuter, hstopOuter⟩ :=
    holder.exists_slice_of_covers hsource hcoversOuter
  rw [← hstart, ← hstartOuter] at hfirst
  rw [← hstop, ← hstopOuter] at hlast
  exact Text.Utf8.infix_of_length_encode_le (htext.symm.trans htextOuter) hfirst hlast

end Tree

end Outline

/-! ## The block of a file -/

/-- Which texts are in the block of a file. Let chunks be returned by a chunker that keeps their
texts and does not merge, and let some of them be put together. The text of each chunk that lies
within one that is put out is in the block, member or not. Of those put together every one lies
within one that is put out exactly if each one whose last line is reached by chunks before it lies
within one of these. So the text of every one is in the block if those that share lines lie within
one another, and of two with the same lines the one given first contains the other. -/
theorem retained_chunks_in_block (parser : Parser) (now : Quantity) (c : Chunker)
    (code path : String) (given : Option Options) (chunks : List Chunk)
    (hshelves : ShelvesSound c.pool)
    (hspans : ∀ text, (c.frontEndOf path).parsedText? code = some text → ∀ grammar root,
      parser grammar text = some root → root.Everywhere (·.Covers text.toList))
    (hkept : ∀ entry, c.trees.entries.lookup path = some entry →
      entry.value.StandsIn code.toList)
    (hmerge : (given.getD c.options).mergeSmall = false)
    (hcontent : (given.getD c.options).includeContent = true)
    (hchunks : (c.chunkCode parser now code path given).1 = .ok chunks)
    (asked : List Chunk) (hasked : ∀ chunk ∈ asked, chunk ∈ chunks) (maxGap : Bound) :
    (maxGap.isNumber = true → gapFault? asked maxGap = none) ∧
      (∀ outer ∈ putOut asked, ∀ chunk ∈ chunks, chunk.range.Within outer.range →
        ∃ text, chunk.content = some text ∧
          text.toList <:+: (assemble asked code maxGap).toList) ∧
      ((∀ chunk ∈ asked, ∃ outer ∈ putOut asked, chunk.range.Within outer.range) ↔
        ∀ front chunk back, asked.mergeSort Chunk.comesFirst = front ++ chunk :: back →
          (∃ before ∈ front, chunk.endLine ≤ before.endLine) →
            ∃ before ∈ front, chunk.range.Within before.range) ∧
      ((∀ a ∈ asked, ∀ b ∈ asked,
          a.span.Apart b.span ∨ a.range.Within b.range ∨ b.range.Within a.range) →
        (asked.Pairwise fun a b => b.span = a.span → b.range.Within a.range) →
          ∀ chunk ∈ asked, ∃ text, chunk.content = some text ∧
            text.toList <:+: (assemble asked code maxGap).toList) := by
  obtain ⟨hlined, hinfix⟩ : (∀ chunk ∈ chunks, chunk.Lined) ∧
      ∀ inner ∈ chunks, ∀ outer ∈ chunks, inner.range.Within outer.range →
        ∃ part whole, inner.content = some part ∧ outer.content = some whole ∧
          part.toList <:+: whole.toList := by
    obtain ⟨frontEnd, tree?, hfrontEnd, htree?, hfound⟩ :=
      Chunker.exists_chunksOf_of_chunkCode hchunks
    obtain rfl : frontEnd = c.frontEndOf path := by
      rcases hfrontEnd with hshelf | hnew
      · exact hshelves _ path frontEnd hshelf
      · exact hnew
    rcases Chunker.chunksOf_eq_ok hfound with rfl |
      ⟨tree, root, tokenizer, htree, hroot, _, hfinish⟩
    · exact ⟨fun _ h => absurd h List.not_mem_nil, fun _ h => absurd h List.not_mem_nil⟩
    · rw [Chunker.finish_of_unmerged hmerge] at hfinish
      obtain rfl := Except.ok.inj hfinish
      have hstands : tree.StandsIn code.toList := by
        rcases htree? tree htree with ⟨entry, hentry, rfl⟩ | hparse
        · exact hkept entry hentry
        · exact FrontEnd.standsIn_of_parse? hparse hspans
      exact ⟨Outline.lined_of_standsIn hstands hroot, fun inner hinner outer houter =>
        Outline.infix_of_within hstands hroot hcontent hinner houter⟩
  have hput {outer : Chunk} (houter : outer ∈ putOut asked) : outer ∈ chunks :=
    hasked outer (List.mem_mergeSort.mp (mem_of_mem_putOutFrom houter).1)
  have hshown : ∀ outer ∈ putOut asked, ∀ chunk ∈ chunks, chunk.range.Within outer.range →
      ∃ text, chunk.content = some text ∧
        text.toList <:+: (assemble asked code maxGap).toList := by
    intro outer houter chunk hchunk hwithin
    obtain ⟨part, whole, hpart, hwhole, hin⟩ := hinfix chunk hchunk outer (hput houter) hwithin
    exact ⟨part, hpart, hin.trans (infix_assemble_of_mem_putOut houter hwhole code maxGap)⟩
  have hlinedAsked : ∀ chunk ∈ asked, chunk.Lined := fun chunk h => hlined chunk (hasked chunk h)
  refine ⟨fun hnumber => ?_, hshown, putOut_covers_iff hlinedAsked,
    fun hlie hties chunk hchunk => ?_⟩
  · unfold gapFault?
    rw [Bound.fault?_of_isNumber hnumber, ite_self]
  · obtain ⟨outer, houter, hwithin⟩ := covers_of_lines hlinedAsked hlie hties chunk hchunk
    exact hshown outer houter chunk (hasked chunk hchunk) hwithin

/-- What the rules are told about a class and two variables when texts are kept. -/
def retainedContext : Outline.Context :=
  Chunker.contextOf {} .script Chunker.exportsTree "a.ts" Chunker.keepingOptions .estimate
    (.ofRoot Chunker.exportsProgram)

/-- The class, its method and the two variables. -/
def retainedChunks : List Chunk :=
  Outline.outline retainedContext (.ofRoot Chunker.exportsProgram)

theorem retainedChunks_eq :
    retainedChunks = ((Cursor.ofRoot Chunker.exportsProgram).namedChildren.map fun c =>
      (⟨(c.child? "declaration").getD c, some c⟩ : Item)).flatMap
        (Outline.declarationChunks retainedContext) :=
  Chunker.outline_exports retainedContext rfl rfl

theorem chunkCode_retained :
    (Chunker.chunkCode (fun _ _ => some Chunker.exportsProgram) (.whole 0) {}
        Chunker.exportsSource "a.ts" (some Chunker.keepingOptions)).1 = .ok retainedChunks := by
  have hmade : Chunker.create .unavailable {} Rule.all = .ok {} := rfl
  have htree : ({} : Chunker).treeOf (fun _ _ => some Chunker.exportsProgram)
      Chunker.exportsSource "a.ts" = some Chunker.exportsTree := rfl
  have hroot : Chunker.exportsTree.rootCursor? = some (.ofRoot Chunker.exportsProgram) := rfl
  have htokenizer : ({} : Chunker).tokenizerFor? Chunker.keepingOptions = some .estimate := rfl
  have hcounted : retainedChunks.all (·.tokenCount.isSome) = true := by
    rw [retainedChunks_eq]
    decide +kernel
  exact Chunker.chunkCode_eq_finish hmade rfl rfl (.whole 0) htree hroot htokenizer hcounted

theorem retained_chunks_in_block_exports :
    (Chunker.chunkCode (fun _ _ => some Chunker.exportsProgram) (.whole 0) {}
        Chunker.exportsSource "a.ts" (some Chunker.keepingOptions)).1 = .ok retainedChunks ∧
      (retainedChunks.take 3).map (fun c => (c.content, c.span)) =
        [(some "export class C \x7b\n  run() \x7b\x7d\n\x7d", ⟨1, 3⟩),
          (some "run() \x7b\x7d", ⟨2, 2⟩), (some "a = 1", ⟨4, 4⟩)] ∧
      Chunker.exportsProgram.Everywhere (·.Covers Chunker.exportsSource.toList) ∧
      gapFault? (retainedChunks.take 3) standardGap = none ∧
      (∀ a ∈ retainedChunks.take 3, ∀ b ∈ retainedChunks.take 3,
        a.span.Apart b.span ∨ a.range.Within b.range ∨ b.range.Within a.range) ∧
      ((retainedChunks.take 3).Pairwise fun a b => b.span = a.span → b.range.Within a.range) ∧
      ∀ chunk ∈ retainedChunks.take 3, ∃ text, chunk.content = some text ∧
        text.toList <:+:
          (assemble (retainedChunks.take 3) Chunker.exportsSource standardGap).toList := by
  have hplaces : (retainedChunks.take 3).map (fun c => (c.content, c.span)) =
      [(some "export class C \x7b\n  run() \x7b\x7d\n\x7d", ⟨1, 3⟩),
        (some "run() \x7b\x7d", ⟨2, 2⟩), (some "a = 1", ⟨4, 4⟩)] := by
    rw [retainedChunks_eq]
    decide +kernel
  have hlie : ∀ a ∈ retainedChunks.take 3, ∀ b ∈ retainedChunks.take 3,
      a.span.Apart b.span ∨ a.range.Within b.range ∨ b.range.Within a.range := by
    rw [retainedChunks_eq]
    unfold LineRange.Apart Range.Within
    decide +kernel
  have hties : (retainedChunks.take 3).Pairwise fun a b =>
      b.span = a.span → b.range.Within a.range := by
    rw [retainedChunks_eq]
    unfold Range.Within
    decide +kernel
  have hcovers : Chunker.exportsProgram.Everywhere (·.Covers Chunker.exportsSource.toList) :=
    (Node.wellSpanned_of_spansFit Chunker.exportsProgram (by decide)).everywhere_covers
      (by decide +kernel) (by decide +kernel)
  obtain ⟨hgap, _, _, hshown⟩ := retained_chunks_in_block (fun _ _ => some Chunker.exportsProgram)
    (.whole 0) {} Chunker.exportsSource "a.ts" (some Chunker.keepingOptions) retainedChunks
    (fun _ _ _ hmem => absurd hmem List.not_mem_nil)
    (fun text htext grammar root hparse => by
      rw [← Option.some.inj htext, ← Option.some.inj hparse]
      exact hcovers)
    (fun entry hentry => absurd hentry (by simp)) rfl rfl chunkCode_retained
    (retainedChunks.take 3) (fun _ h => List.mem_of_mem_take h) standardGap
  exact ⟨chunkCode_retained, hplaces, hcovers, hgap rfl, hlie, hties, hshown hlie hties⟩

/-- The second variable ends on the line of the first one, so it is passed over, although it does
not lie within the first one. Without the texts the block has that line, and so both variables. -/
theorem second_variable_is_missing :
    (Chunker.chunkCode (fun _ _ => some Chunker.exportsProgram) (.whole 0) {}
        Chunker.exportsSource "a.ts" (some Chunker.keepingOptions)).1 = .ok retainedChunks ∧
      retainedChunks.map (·.content) = [some "export class C \x7b\n  run() \x7b\x7d\n\x7d",
        some "run() \x7b\x7d", some "a = 1", some "b = 2"] ∧
      assemble retainedChunks Chunker.exportsSource standardGap =
        "export class C \x7b\n  run() \x7b\x7d\n\x7d\n\na = 1" ∧
      (¬∀ chunk ∈ retainedChunks, ∀ text, chunk.content = some text →
        text.toList <:+:
          (assemble retainedChunks Chunker.exportsSource standardGap).toList) ∧
      assemble (retainedChunks.map Chunk.bare) Chunker.exportsSource standardGap =
        "export class C \x7b\n  run() \x7b\x7d\n\x7d\n\nexport const a = 1, b = 2;" := by
  have hcontents : retainedChunks.map (·.content) =
      [some "export class C \x7b\n  run() \x7b\x7d\n\x7d", some "run() \x7b\x7d", some "a = 1",
        some "b = 2"] := by
    rw [retainedChunks_eq]
    decide +kernel
  have hordered : retainedChunks.Pairwise fun a b => a.comesFirst b = true := by
    rw [retainedChunks_eq]
    decide +kernel
  have hblock : assemble retainedChunks Chunker.exportsSource standardGap =
      "export class C \x7b\n  run() \x7b\x7d\n\x7d\n\na = 1" := by
    unfold assemble
    rw [List.mergeSort_of_pairwise hordered, retainedChunks_eq]
    decide +kernel
  refine ⟨chunkCode_retained, hcontents, hblock, fun hall => ?_, ?_⟩
  · obtain ⟨chunk, hchunk, hcontent⟩ : ∃ chunk ∈ retainedChunks, chunk.content = some "b = 2" := by
      rw [← List.mem_map, hcontents]
      decide
    have hfound := hall chunk hchunk "b = 2" hcontent
    rw [hblock] at hfound
    exact absurd hfound (by decide +kernel)
  · have hbare : (retainedChunks.map Chunk.bare).Pairwise fun a b => a.comesFirst b = true :=
      List.pairwise_map.mpr hordered
    unfold assemble
    rw [List.mergeSort_of_pairwise hbare, retainedChunks_eq]
    decide +kernel

end ChunkGraph
