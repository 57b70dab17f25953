import ChunkGraph.Path.Basic
import ChunkGraph.Proofs.Text.Parts

/-!
# Normal forms of paths

A path is normal when it has at most two slashes in front, all of its segments
can be read back from its written form, and no segment `..` has anything to take
back. The normalized form of a text is the written form of a normal path, and
normalizing the written form of a normal path changes nothing.

## Main definitions

* `Path.Proper` — a segment that can be read back.
* `Path.Joinable` — a segment that stays apart from others in a joined text.
* `Path.Normal` — a path in normal form.

## Main results

* `Path.collapse_collapse` — taking back once is enough.
* `Path.ofChars_chars` — a normal path is read back from its written form.
* `Path.exists_normal` — a normalized text is the written form of a normal path.
* `Path.normalizeChars_chars` — a normal path stays as it is.
* `Path.normalize_normalize` — normalizing twice is normalizing once.
-/

namespace ChunkGraph

namespace Path

/-! ## Taking back -/

/-- A segment that takes nothing back is kept. -/
theorem push_of_ne_up (rooted : Bool) (kept : List Segment) {segment : Segment}
    (h : segment ≠ up) : push rooted kept segment = segment :: kept := by
  unfold push
  rw [if_pos (bne_iff_ne.mpr h)]

/-- A segment that takes the last one back. -/
theorem push_up_of_ne_up (rooted : Bool) {last : Segment} (rest : List Segment) (h : last ≠ up) :
    push rooted (last :: rest) up = rest := by
  unfold push
  rw [if_neg (by decide)]
  simp only [if_neg fun hsame => h (beq_iff_eq.mp hsame)]

/-- Segments that take nothing back are all kept. -/
theorem foldl_push_of_not_mem {segments : List Segment} (h : up ∉ segments) (rooted : Bool)
    (kept : List Segment) : segments.foldl (push rooted) kept = segments.reverse ++ kept := by
  induction segments generalizing kept with
  | nil => rfl
  | cons first segments ih =>
      rw [List.mem_cons, not_or] at h
      rw [List.foldl_cons, push_of_ne_up rooted kept (Ne.symm h.1), ih h.2, List.reverse_cons,
        List.append_assoc, List.singleton_append]

/-- Pushing the kept segments again, the first one first, gives them back. -/
def Stable (rooted : Bool) (kept : List Segment) : Prop :=
  kept.reverse.foldl (push rooted) [] = kept

/-- What is kept below the last segment is stable as well. -/
theorem Stable.tail {rooted : Bool} {last : Segment} {rest : List Segment}
    (h : Stable rooted (last :: rest)) (hlast : last ≠ up) : Stable rooted rest := by
  unfold Stable at h ⊢
  rw [List.reverse_cons, List.foldl_append, List.foldl_cons, List.foldl_nil,
    push_of_ne_up _ _ hlast] at h
  exact (List.cons.inj h).2

theorem Stable.cons {rooted : Bool} {kept : List Segment} {segment : Segment}
    (h : Stable rooted kept) (hpush : push rooted kept segment = segment :: kept) :
    Stable rooted (segment :: kept) := by
  unfold Stable at h ⊢
  rw [List.reverse_cons, List.foldl_append, h]
  exact hpush

/-- One more segment leaves what is kept stable. -/
theorem Stable.push {rooted : Bool} {kept : List Segment} (h : Stable rooted kept)
    (segment : Segment) : Stable rooted (push rooted kept segment) := by
  by_cases hup : segment = up
  · subst hup
    cases kept with
    | nil =>
        cases rooted with
        | true => rfl
        | false => rfl
    | cons last rest =>
        by_cases hlast : last = up
        · subst hlast
          exact h.cons rfl
        · rw [push_up_of_ne_up rooted rest hlast]
          exact h.tail hlast
  · rw [push_of_ne_up rooted kept hup]
    exact h.cons (push_of_ne_up rooted kept hup)

theorem stable_foldl_push {rooted : Bool} {kept : List Segment} (h : Stable rooted kept)
    (segments : List Segment) : Stable rooted (segments.foldl (push rooted) kept) := by
  induction segments generalizing kept with
  | nil => exact h
  | cons segment segments ih => exact ih (h.push segment)

/-- Taking back once is enough. -/
theorem collapse_collapse (rooted : Bool) (segments : List Segment) :
    collapse rooted (collapse rooted segments) = collapse rooted segments := by
  have hempty : Stable rooted [] := rfl
  have hstable : (segments.foldl (push rooted) []).reverse.foldl (push rooted) [] =
      segments.foldl (push rooted) [] := stable_foldl_push hempty segments
  unfold collapse
  rw [hstable]

/-- What is left after taking back was there before, or is `..`. -/
theorem mem_foldl_push {rooted : Bool} {kept segments : List Segment} {segment : Segment}
    (h : segment ∈ segments.foldl (push rooted) kept) :
    segment ∈ kept ∨ segment ∈ segments ∨ segment = up := by
  induction segments generalizing kept with
  | nil => exact Or.inl h
  | cons first segments ih =>
      rcases ih h with hkept | hlater | hup
      · have hpush : segment ∈ kept ∨ segment = first ∨ segment = up := by
          unfold push at hkept
          split at hkept
          · rcases List.mem_cons.mp hkept with rfl | hkept
            · exact Or.inr (Or.inl rfl)
            · exact Or.inl hkept
          · split at hkept
            · split at hkept
              · exact absurd hkept List.not_mem_nil
              · exact Or.inr (Or.inr (List.mem_singleton.mp hkept))
            · split at hkept
              · rcases List.mem_cons.mp hkept with rfl | hkept
                · exact Or.inr (Or.inr rfl)
                · exact Or.inl hkept
              · exact Or.inl (List.mem_cons_of_mem _ hkept)
        rcases hpush with hkept | rfl | hup
        · exact Or.inl hkept
        · exact Or.inr (Or.inl List.mem_cons_self)
        · exact Or.inr (Or.inr hup)
      · exact Or.inr (Or.inl (List.mem_cons_of_mem first hlater))
      · exact Or.inr (Or.inr hup)

/-! ## Normal paths -/

/-- A segment that can be read back from the written form of a normal path. -/
structure Proper (segment : Segment) : Prop where
  /-- It says something. -/
  telling : isTelling segment = true
  /-- It holds no separator. -/
  slash_not_mem : '/' ∉ segment
  /-- It holds nothing that counts as a separator. -/
  backslash_not_mem : '\\' ∉ segment

theorem proper_up : Proper up := ⟨rfl, by decide, by decide⟩

theorem Proper.ne_nil {segment : Segment} (h : Proper segment) : segment ≠ [] := by
  rintro rfl
  exact absurd h.telling (by decide)

/-- A segment that stays apart from others in a joined text, whether it says something or not. -/
structure Joinable (segment : Segment) : Prop where
  /-- It is not empty. -/
  ne_nil : segment ≠ []
  /-- It holds no separator. -/
  slash_not_mem : '/' ∉ segment
  /-- It holds nothing that counts as a separator. -/
  backslash_not_mem : '\\' ∉ segment

theorem Proper.joinable {segment : Segment} (h : Proper segment) : Joinable segment :=
  ⟨h.ne_nil, h.slash_not_mem, h.backslash_not_mem⟩

/-- A path in normal form. -/
structure Normal (path : Path) : Prop where
  /-- It has a root of one or two slashes, or none. -/
  root_le : path.root ≤ 2
  /-- Its segments can be read back. -/
  proper : ∀ segment ∈ path.segments, Proper segment
  /-- No segment has anything to take back. -/
  collapse_eq : collapse path.isAbsolute path.segments = path.segments

theorem Normal.joinable {path : Path} (h : path.Normal) :
    ∀ segment ∈ path.segments, Joinable segment :=
  fun segment hsegment => (h.proper segment hsegment).joinable

/-- The slashes in front of a text that does not begin with one are its root. -/
theorem rootOf_replicate_append {root : Nat} (hroot : root ≤ 2) {text : List Char}
    (h : text.head? ≠ some '/') : rootOf (List.replicate root '/' ++ text) = root := by
  have hall : ∀ c ∈ List.replicate root '/', (c == '/') = true := by
    intro c hc
    rw [(List.mem_replicate.mp hc).2]
    rfl
  have htext : text.takeWhile (· == '/') = [] := by
    cases text with
    | nil => rfl
    | cons c text =>
        rw [List.takeWhile_cons_of_neg]
        rw [beq_iff_eq]
        rintro rfl
        exact h rfl
  unfold rootOf
  rw [List.takeWhile_append_of_pos hall, htext, List.append_nil, List.length_replicate]
  match root, hroot with
  | 0, _ => rfl
  | 1, _ => rfl
  | 2, _ => rfl

/-- Slashes in front of a text make no telling segments. -/
theorem filter_splitOn_replicate (root : Nat) (text : List Char) :
    (Text.splitOn '/' (List.replicate root '/' ++ text)).filter isTelling =
      (Text.splitOn '/' text).filter isTelling := by
  have hempty : (List.replicate root []).filter isTelling = [] := by
    rw [List.filter_eq_nil_iff]
    intro segment hsegment
    rw [(List.mem_replicate.mp hsegment).2]
    decide
  rw [Text.splitOn_replicate_append, List.filter_append, hempty, List.nil_append]

/-- Joined segments do not begin with a slash. -/
theorem head?_join_ne {segments : List Segment} (h : ∀ segment ∈ segments, Joinable segment) :
    (Text.join ['/'] segments).head? ≠ some '/' := by
  cases segments with
  | nil => simp
  | cons first rest =>
      have hfirst := h first List.mem_cons_self
      obtain ⟨c, tail, rfl⟩ := List.exists_cons_of_ne_nil hfirst.ne_nil
      have hc : c ≠ '/' := by
        rintro rfl
        exact hfirst.slash_not_mem List.mem_cons_self
      cases rest with
      | nil =>
          rw [Text.join_singleton, List.head?_cons]
          simpa using hc
      | cons next rest =>
          rw [Text.join_cons_cons, List.append_assoc, List.cons_append, List.head?_cons]
          simpa using hc

/-- Proper segments are found again in their written form. -/
theorem filter_splitOn_join {segments : List Segment} (h : ∀ segment ∈ segments, Proper segment) :
    (Text.splitOn '/' (Text.join ['/'] segments)).filter isTelling = segments := by
  cases segments with
  | nil => rfl
  | cons first rest =>
      rw [Text.splitOn_join (by simp) fun segment hsegment => (h segment hsegment).slash_not_mem,
        List.filter_eq_self.mpr fun segment hsegment => (h segment hsegment).telling]

/-- A normal path is read back from its written form. -/
theorem ofChars_chars {path : Path} (h : path.Normal) : ofChars path.chars = path := by
  have hread : ofChars (List.replicate path.root '/' ++ Text.join ['/'] path.segments) = path := by
    unfold ofChars
    rw [rootOf_replicate_append h.root_le (head?_join_ne h.joinable), filter_splitOn_replicate,
      filter_splitOn_join h.proper]
  unfold chars
  split
  · rename_i hempty
    rw [hempty] at hread
    exact hread
  · exact hread

theorem backslash_not_mem_join {segments : List Segment}
    (h : ∀ segment ∈ segments, Joinable segment) : '\\' ∉ Text.join ['/'] segments := by
  induction segments with
  | nil => simp
  | cons first rest ih =>
      have hfirst := (h first List.mem_cons_self).backslash_not_mem
      cases rest with
      | nil => exact hfirst
      | cons next rest =>
          have hrest := ih fun segment hsegment => h segment (List.mem_cons_of_mem first hsegment)
          rw [Text.join_cons_cons, List.mem_append, List.mem_append, not_or, not_or]
          exact ⟨⟨hfirst, by decide⟩, hrest⟩

/-- A text without backslashes has its slashes already. -/
theorem forwardSlashes_of_not_mem {text : List Char} (h : '\\' ∉ text) :
    forwardSlashes text = text := by
  unfold forwardSlashes
  rw [List.map_congr_left (g := id), List.map_id]
  intro c hc
  have hne : ¬ (c == '\\') = true := by
    rw [beq_iff_eq]
    rintro rfl
    exact h hc
  rw [if_neg hne]
  rfl

theorem chars_ne_nil (path : Path) : path.chars ≠ [] := by
  unfold chars
  split
  · simp [here]
  · rename_i hne
    exact hne

theorem backslash_not_mem_chars {path : Path} (h : path.Normal) : '\\' ∉ path.chars := by
  unfold chars
  split
  · decide
  · rw [List.mem_append, not_or]
    refine ⟨?_, backslash_not_mem_join h.joinable⟩
    rw [List.mem_replicate]
    rintro ⟨_, hsame⟩
    exact absurd hsame (by decide)

/-- The normalized form of a text that is not empty. -/
theorem normalizeChars_of_ne_nil {text : List Char} (h : text ≠ []) :
    normalizeChars text = (ofChars (forwardSlashes text)).collapsed.chars := by
  unfold normalizeChars
  split
  · rename_i hempty
    rw [forwardSlashes, List.map_eq_nil_iff] at hempty
    exact absurd hempty h
  · rfl

/-- The written form of a normal path stays as it is. -/
theorem normalizeChars_chars {path : Path} (h : path.Normal) :
    normalizeChars path.chars = path.chars := by
  rw [normalizeChars_of_ne_nil path.chars_ne_nil,
    forwardSlashes_of_not_mem (backslash_not_mem_chars h), ofChars_chars h, collapsed,
    h.collapse_eq]

/-- A path that is read from a text and collapsed is normal. -/
theorem normal_collapsed_ofChars {text : List Char} (h : '\\' ∉ text) :
    (ofChars text).collapsed.Normal := by
  refine ⟨?_, ?_, collapse_collapse _ _⟩
  · show rootOf text ≤ 2
    unfold rootOf
    split <;> decide
  · intro segment hsegment
    have hpushed : segment ∈ (ofChars text).segments.foldl (push (ofChars text).isAbsolute) [] :=
      List.mem_reverse.mp hsegment
    rcases mem_foldl_push hpushed with hkept | hread | rfl
    · exact absurd hkept List.not_mem_nil
    · obtain ⟨hpart, htelling⟩ := List.mem_filter.mp hread
      obtain ⟨hslash, hchars⟩ := Text.mem_splitOn hpart
      exact ⟨htelling, hslash, fun hback => h (hchars _ hback)⟩
    · exact proper_up

/-- No backslash is left. -/
theorem backslash_not_mem_forwardSlashes (text : List Char) : '\\' ∉ forwardSlashes text := by
  unfold forwardSlashes
  rw [List.mem_map]
  rintro ⟨c, _, hc⟩
  split at hc
  · exact absurd hc (by decide)
  · rename_i hne
    exact hne (beq_iff_eq.mpr hc)

/-- The normalized form of a text that is not empty is the written form of a normal path. -/
theorem exists_normal {text : List Char} (h : text ≠ []) :
    ∃ path : Path, path.Normal ∧ normalizeChars text = path.chars := by
  exact ⟨_, normal_collapsed_ofChars (backslash_not_mem_forwardSlashes text),
    normalizeChars_of_ne_nil h⟩

/-- Normalizing twice is normalizing once. -/
theorem normalizeChars_normalizeChars (text : List Char) :
    normalizeChars (normalizeChars text) = normalizeChars text := by
  by_cases h : text = []
  · rw [h]
    rfl
  · obtain ⟨path, hnormal, hchars⟩ := exists_normal h
    rw [hchars, normalizeChars_chars hnormal]

theorem normalize_normalize (text : String) : normalize (normalize text) = normalize text := by
  unfold normalize
  rw [String.toList_ofList, normalizeChars_normalizeChars]

end Path

end ChunkGraph
