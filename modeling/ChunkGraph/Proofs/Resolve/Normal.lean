import ChunkGraph.Proofs.Path.Normal
import ChunkGraph.Resolve.Basic
import Mathlib.Data.List.Basic

/-!
# Which files are found under their normal form

A module path is in normal form before files are looked for. A plain extension
behind it leaves it so, and so does the name of a file below a directory, with
one exception: below the directory `.` the name of a file gets a dot and a slash
in front, which its normal form does not have. So a specifier leads to a path in
normal form unless it means the directory `.` and leads to an index or package
file there.

## Main definitions

* `Path.Plain` — a text that can be put behind a path.
* `Resolve.entryFiles` — the files that stand for their directory.
* `Resolver.bases`, `Resolver.tried` — the paths that a specifier may mean.

## Main results

* `Path.normalizeChars_append`, `Path.normalizeChars_joinText` — what can be put
  behind or below a normal path.
* `Resolver.resolve?_eq_find?` — a specifier leads to the first path that is tried
  and exists.
* `Resolver.normalize_of_mem_tried`, `Resolver.normalize_of_resolve?` — the paths
  that are tried and those that specifiers lead to.
-/

namespace ChunkGraph

namespace Path

/-! ## One more segment -/

/-- A segment is kept, or there are not more segments than before. -/
theorem push_cases (rooted : Bool) (kept : List Segment) (segment : Segment) :
    push rooted kept segment = segment :: kept ∨
      (push rooted kept segment).length ≤ kept.length := by
  by_cases hup : segment = up
  · subst hup
    cases kept with
    | nil =>
        cases rooted with
        | true => exact Or.inr (Nat.le_refl _)
        | false => exact Or.inl rfl
    | cons last rest =>
        by_cases hlast : last = up
        · subst hlast
          exact Or.inl rfl
        · rw [push_up_of_ne_up rooted rest hlast]
          exact Or.inr (Nat.le_succ _)
  · exact Or.inl (push_of_ne_up rooted kept hup)

theorem length_foldl_push_le (rooted : Bool) (kept segments : List Segment) :
    (segments.foldl (push rooted) kept).length ≤ kept.length + segments.length := by
  induction segments generalizing kept with
  | nil => exact Nat.le_refl _
  | cons segment segments ih =>
      have hrest := ih (push rooted kept segment)
      have hpush : (push rooted kept segment).length ≤ kept.length + 1 := by
        rcases push_cases rooted kept segment with hcons | hle
        · exact Nat.le_of_eq (by rw [hcons, List.length_cons])
        · omega
      rw [List.foldl_cons, List.length_cons]
      omega

/-- Without its last segment a collapsed list is collapsed, and the last one was kept. -/
theorem foldl_push_of_collapse_eq {rooted : Bool} {init : List Segment} {last : Segment}
    (h : collapse rooted (init ++ [last]) = init ++ [last]) :
    init.foldl (push rooted) [] = init.reverse := by
  have hreverse : (init ++ [last]).foldl (push rooted) [] = last :: init.reverse := by
    rw [← List.reverse_reverse ((init ++ [last]).foldl (push rooted) [])]
    rw [show ((init ++ [last]).foldl (push rooted) []).reverse = init ++ [last] from h]
    rw [List.reverse_append, List.reverse_singleton, List.singleton_append]
  rw [List.foldl_append, List.foldl_cons, List.foldl_nil] at hreverse
  rcases push_cases rooted (init.foldl (push rooted) []) last with hcons | hle
  · exact (List.cons.inj (hcons.symm.trans hreverse)).2
  · rw [hreverse, List.length_cons, List.length_reverse] at hle
    have hlength := length_foldl_push_le rooted [] init
    rw [List.length_nil] at hlength
    omega

/-- A segment behind collapsed ones that takes nothing back. -/
theorem collapse_append_singleton {rooted : Bool} {init : List Segment} {segment : Segment}
    (h : init.foldl (push rooted) [] = init.reverse) (hup : segment ≠ up) :
    collapse rooted (init ++ [segment]) = init ++ [segment] := by
  unfold collapse
  rw [List.foldl_append, h, List.foldl_cons, List.foldl_nil, push_of_ne_up _ _ hup,
    List.reverse_cons, List.reverse_reverse]

theorem foldl_push_of_normal {path : Path} (h : path.Normal) :
    path.segments.foldl (push path.isAbsolute) [] = path.segments.reverse := by
  have hcollapse := h.collapse_eq
  unfold collapse at hcollapse
  rw [← hcollapse, List.reverse_reverse]
  rw [hcollapse]

/-! ## Texts behind and below a path -/

/-- The text can be put behind a path: it has no separator and is neither `.` nor `..`. -/
structure Plain (text : List Char) : Prop where
  /-- It holds no separator. -/
  slash_not_mem : '/' ∉ text
  /-- It holds nothing that counts as a separator. -/
  backslash_not_mem : '\\' ∉ text
  /-- It is not the segment that says nothing. -/
  ne_here : text ≠ here
  /-- It is not the segment that takes one back. -/
  ne_up : text ≠ up

theorem Plain.proper {text : List Char} (h : Plain text) (hne : text ≠ []) : Proper text := by
  refine ⟨?_, h.slash_not_mem, h.backslash_not_mem⟩
  unfold isTelling
  rw [Bool.and_eq_true, bne_iff_ne]
  refine ⟨?_, h.ne_here⟩
  rw [Bool.not_eq_true', List.isEmpty_eq_false_iff]
  exact hne

/-- A proper segment with a text behind it. -/
theorem Proper.append {segment text : List Char} (h : Proper segment) (htext : Plain text)
    (hne : text ≠ []) : Proper (segment ++ text) ∧ segment ++ text ≠ up := by
  have hlength := List.length_pos_iff.mpr h.ne_nil
  have htextLength := List.length_pos_iff.mpr hne
  refine ⟨⟨?_, ?_, ?_⟩, ?_⟩
  · unfold isTelling
    rw [Bool.and_eq_true, bne_iff_ne]
    constructor
    · rw [Bool.not_eq_true', List.isEmpty_eq_false_iff]
      exact fun hnil => h.ne_nil (List.append_eq_nil_iff.mp hnil).1
    · intro hhere
      have hone := congrArg List.length hhere
      rw [List.length_append] at hone
      have hhereLength : here.length = 1 := rfl
      omega
  · rw [List.mem_append, not_or]
    exact ⟨h.slash_not_mem, htext.slash_not_mem⟩
  · rw [List.mem_append, not_or]
    exact ⟨h.backslash_not_mem, htext.backslash_not_mem⟩
  · -- Both texts would be a single dot, and a segment of a normal path is none.
    intro hup
    obtain ⟨c, segment, rfl⟩ := List.exists_cons_of_ne_nil h.ne_nil
    obtain ⟨rfl, hrest⟩ := List.cons.inj hup
    cases segment with
    | nil => exact absurd h.telling (by decide)
    | cons d segment =>
        have htwo : (d :: segment ++ text).length = 1 := congrArg List.length hrest
        rw [List.length_append, List.length_cons] at htwo
        omega

theorem join_append_singleton (init : List Segment) (last text : List Char) :
    Text.join ['/'] (init ++ [last ++ text]) = Text.join ['/'] (init ++ [last]) ++ text := by
  induction init with
  | nil => rfl
  | cons first init ih =>
      obtain ⟨next, rest, hrest⟩ : ∃ next rest, init ++ [last] = next :: rest :=
        List.exists_cons_of_ne_nil (by simp)
      obtain ⟨next', rest', hrest'⟩ : ∃ next rest, init ++ [last ++ text] = next :: rest :=
        List.exists_cons_of_ne_nil (by simp)
      rw [List.cons_append, List.cons_append, hrest, hrest', Text.join_cons_cons,
        Text.join_cons_cons, ← hrest, ← hrest', ih, List.append_assoc, List.append_assoc,
        List.append_assoc]

theorem join_append {front back : List Segment} (hfront : front ≠ []) (hback : back ≠ []) :
    Text.join ['/'] (front ++ back) = Text.join ['/'] front ++ '/' :: Text.join ['/'] back := by
  induction front with
  | nil => exact absurd rfl hfront
  | cons first front ih =>
      cases front with
      | nil =>
          obtain ⟨next, rest, rfl⟩ := List.exists_cons_of_ne_nil hback
          rw [List.singleton_append, Text.join_cons_cons, List.append_assoc]
          rfl
      | cons next front =>
          rw [List.cons_append, List.cons_append, Text.join_cons_cons, ← List.cons_append,
            ih (by simp), Text.join_cons_cons, List.append_assoc, List.append_assoc,
            List.append_assoc]

theorem join_concat {init : List Segment} (hne : init ≠ []) (segment : Segment) :
    Text.join ['/'] (init ++ [segment]) = Text.join ['/'] init ++ '/' :: segment :=
  join_append hne (List.cons_ne_nil segment [])

section Joined

variable {segments : List Segment} (h : ∀ segment ∈ segments, Joinable segment)

include h

theorem join_ne_nil (hne : segments ≠ []) : Text.join ['/'] segments ≠ [] := by
  obtain ⟨first, rest, rfl⟩ := List.exists_cons_of_ne_nil hne
  have hfirst := (h first List.mem_cons_self).ne_nil
  cases rest with
  | nil => exact hfirst
  | cons next rest =>
      rw [Text.join_cons_cons, List.append_assoc]
      exact List.append_ne_nil_of_left_ne_nil hfirst _

/-- Joined segments do not end with a slash. -/
theorem getLast?_join_ne : (Text.join ['/'] segments).getLast? ≠ some '/' := by
  rcases List.eq_nil_or_concat' segments with rfl | ⟨init, last, rfl⟩
  · simp
  · have hlast := h last (by simp)
    have hend : last.getLast? ≠ some '/' := fun hc => hlast.slash_not_mem (List.mem_of_getLast? hc)
    by_cases hinit : init = []
    · rw [hinit]
      exact hend
    · rw [join_concat hinit, List.getLast?_append_of_ne_nil _ (by simp), List.getLast?_cons]
      intro hslash
      cases hc : last.getLast? with
      | none => exact hlast.ne_nil (List.getLast?_eq_none_iff.mp hc)
      | some c =>
          rw [hc] at hslash hend
          exact hend hslash

end Joined

/-- The written form of a path that says something. -/
theorem chars_of_ne_nil {path : Path} (h : path.segments ≠ [])
    (hproper : ∀ segment ∈ path.segments, Proper segment) :
    path.chars = List.replicate path.root '/' ++ Text.join ['/'] path.segments := by
  unfold chars
  split
  · rename_i hempty
    exfalso
    obtain ⟨first, rest, hsegments⟩ := List.exists_cons_of_ne_nil h
    have hfirst := hproper first (hsegments ▸ List.mem_cons_self)
    have hjoin := (List.append_eq_nil_iff.mp hempty).2
    rw [hsegments] at hjoin
    cases rest with
    | nil => exact hfirst.ne_nil hjoin
    | cons next rest =>
        rw [Text.join_cons_cons, List.append_assoc] at hjoin
        exact hfirst.ne_nil (List.append_eq_nil_iff.mp hjoin).1
  · rfl

/-- The written form of a path of slashes. -/
theorem chars_of_root {root : Nat} (h : root ≠ 0) :
    (⟨root, []⟩ : Path).chars = List.replicate root '/' := by
  obtain ⟨n, rfl⟩ := Nat.exists_eq_succ_of_ne_zero h
  unfold chars
  rw [List.replicate_succ]
  simp

/-- A single segment below a root, or below nothing. -/
theorem normal_singleton {root : Nat} (hroot : root ≤ 2) {segment : Segment}
    (h : Proper segment) (hup : segment ≠ up) : (⟨root, [segment]⟩ : Path).Normal := by
  refine ⟨hroot, ?_, ?_⟩
  · intro other hother
    rw [List.mem_singleton.mp hother]
    exact h
  · have hempty : ([] : List Segment).foldl (push (root != 0)) [] = [].reverse := rfl
    exact collapse_append_singleton hempty hup

/-- What is written like a normal path stays as it is. -/
theorem normalizeChars_of_eq_chars {path : Path} (h : path.Normal) {text : List Char}
    (hchars : path.chars = text) : normalizeChars text = text := by
  rw [← hchars, normalizeChars_chars h]

/-- A text with a dot in front. -/
theorem Plain.proper_here_append {text : List Char} (h : Plain text) (hne : text ≠ []) :
    Proper (here ++ text) ∧ here ++ text ≠ up := by
  refine ⟨⟨?_, ?_, ?_⟩, ?_⟩
  · unfold isTelling
    rw [Bool.and_eq_true, bne_iff_ne]
    refine ⟨rfl, fun hhere => hne ?_⟩
    exact (List.cons.inj hhere).2
  · rw [List.mem_append, not_or]
    exact ⟨by decide, h.slash_not_mem⟩
  · rw [List.mem_append, not_or]
    exact ⟨by decide, h.backslash_not_mem⟩
  · exact fun hup => h.ne_here (List.cons.inj hup).2

/-- What can be put behind a normal path leaves it normal. -/
theorem normalizeChars_append {path : Path} (h : path.Normal) {text : List Char}
    (htext : Plain text) : normalizeChars (path.chars ++ text) = path.chars ++ text := by
  by_cases hne : text = []
  · rw [hne, List.append_nil, normalizeChars_chars h]
  · -- In each case a normal path is named that is written like this.
    obtain ⟨root, segments⟩ := path
    rcases List.eq_nil_or_concat' segments with rfl | ⟨init, last, rfl⟩
    · by_cases hroot : root = 0
      · subst hroot
        obtain ⟨hproper, hup⟩ := htext.proper_here_append hne
        exact normalizeChars_of_eq_chars (normal_singleton (Nat.zero_le 2) hproper hup) rfl
      · have hsingle := normal_singleton h.root_le (htext.proper hne) htext.ne_up
        refine normalizeChars_of_eq_chars hsingle ?_
        rw [chars_of_ne_nil (by simp) hsingle.proper, chars_of_root hroot]
        rfl
    · have hlast : Proper last := h.proper last (by simp)
      obtain ⟨hproper, hup⟩ := hlast.append htext hne
      have hlonger : (⟨root, init ++ [last ++ text]⟩ : Path).Normal := by
        refine ⟨h.root_le, ?_, ?_⟩
        · intro segment hsegment
          rcases List.mem_append.mp hsegment with hinit | hend
          · exact h.proper segment (List.mem_append_left _ hinit)
          · rw [List.mem_singleton.mp hend]
            exact hproper
        · exact collapse_append_singleton (foldl_push_of_collapse_eq h.collapse_eq) hup
      refine normalizeChars_of_eq_chars hlonger ?_
      rw [chars_of_ne_nil (by simp) hlonger.proper, chars_of_ne_nil (by simp) h.proper,
        join_append_singleton, List.append_assoc]

/-- The last character of a path that says something is no slash. -/
theorem getLast?_chars_ne {root : Nat} {init : List Segment} {last : Segment}
    (hproper : ∀ segment ∈ init ++ [last], Proper segment) :
    (⟨root, init ++ [last]⟩ : Path).chars.getLast? ≠ some '/' := by
  have hjoinable : ∀ segment ∈ init ++ [last], Joinable segment :=
    fun segment hsegment => (hproper segment hsegment).joinable
  rw [chars_of_ne_nil (by simp) hproper,
    List.getLast?_append_of_ne_nil _ (join_ne_nil hjoinable (by simp))]
  exact getLast?_join_ne hjoinable

/-- The name of a file below a normal path is in normal form, unless the path is the directory
itself; then it has a dot and a slash too many in front. -/
theorem normalizeChars_joinText {path : Path} (h : path.Normal) {text : List Char}
    (htext : Plain text) (hne : text ≠ []) :
    normalizeChars (joinText path.chars text) = joinText path.chars text ∨
      path.chars = here ∧ joinText path.chars text = '.' :: '/' :: text := by
  have hhead : ¬ (text.head? == some '/') = true := by
    rw [beq_iff_eq]
    exact fun hslash => htext.slash_not_mem (List.mem_of_head? hslash)
  have hempty : path.chars.isEmpty = false := List.isEmpty_eq_false_iff.mpr path.chars_ne_nil
  unfold joinText
  rw [if_neg hhead, hempty, Bool.false_or]
  obtain ⟨root, segments⟩ := path
  rcases List.eq_nil_or_concat' segments with rfl | ⟨init, last, rfl⟩
  · by_cases hroot : root = 0
    · subst hroot
      exact Or.inr ⟨rfl, rfl⟩
    · left
      have hsingle := normal_singleton h.root_le (htext.proper hne) htext.ne_up
      have hslash : ((⟨root, []⟩ : Path).chars.getLast? == some '/') = true := by
        rw [chars_of_root hroot, List.getLast?_replicate, if_neg hroot]
        rfl
      rw [if_pos hslash]
      refine normalizeChars_of_eq_chars hsingle ?_
      rw [chars_of_ne_nil (by simp) hsingle.proper, chars_of_root hroot]
      rfl
  · left
    have hslash : ¬ ((⟨root, init ++ [last]⟩ : Path).chars.getLast? == some '/') = true := by
      rw [beq_iff_eq]
      exact getLast?_chars_ne h.proper
    rw [if_neg hslash]
    have hlonger : (⟨root, init ++ [last] ++ [text]⟩ : Path).Normal := by
      refine ⟨h.root_le, ?_, ?_⟩
      · intro segment hsegment
        rcases List.mem_append.mp hsegment with hinit | hend
        · exact h.proper segment hinit
        · rw [List.mem_singleton.mp hend]
          exact htext.proper hne
      · exact collapse_append_singleton (foldl_push_of_normal h) htext.ne_up
    refine normalizeChars_of_eq_chars hlonger ?_
    have hne : (init ++ [last] : List Segment) ≠ [] := by simp
    rw [chars_of_ne_nil (by simp) hlonger.proper, chars_of_ne_nil hne h.proper, join_concat hne]
    exact (List.append_assoc ..).symm

/-- A plain text stays as it is. -/
theorem normalizeChars_plain {text : List Char} (h : Plain text) : normalizeChars text = text := by
  by_cases hne : text = []
  · rw [hne]
    rfl
  · have hsingle := normal_singleton (Nat.zero_le 2) (h.proper hne) h.ne_up
    refine normalizeChars_of_eq_chars hsingle ?_
    rw [chars_of_ne_nil (by simp) hsingle.proper]
    rfl

end Path

/-! ## Specifiers -/

namespace Resolve

/-- The names of the files that stand for the directory they are in. -/
def entryFiles (extensions : List String) : List String :=
  (extensions.filter (!·.isEmpty)).map ("index" ++ ·) ++ packageFiles

/-- The name of an index file can be put below a path if the extension can. -/
theorem plain_index {ext : String} (h : Path.Plain ext.toList) :
    Path.Plain ("index" ++ ext).toList := by
  rw [String.toList_append]
  have hlength : ("index".toList ++ ext.toList).length = 5 + ext.toList.length := by
    rw [List.length_append]
    rfl
  refine ⟨?_, ?_, ?_, ?_⟩
  · rw [List.mem_append, not_or]
    exact ⟨by decide, h.slash_not_mem⟩
  · rw [List.mem_append, not_or]
    exact ⟨by decide, h.backslash_not_mem⟩
  · intro hhere
    rw [hhere] at hlength
    have hone : Path.here.length = 1 := rfl
    omega
  · intro hup
    rw [hup] at hlength
    have htwo : Path.up.length = 2 := rfl
    omega

theorem plain_of_mem_entryFiles {extensions : List String}
    (h : ∀ ext ∈ extensions, Path.Plain ext.toList) {name : String}
    (hname : name ∈ entryFiles extensions) : Path.Plain name.toList ∧ name.toList ≠ [] := by
  rcases List.mem_append.mp hname with hindex | hpackage
  · obtain ⟨ext, hext, rfl⟩ := List.mem_map.mp hindex
    refine ⟨plain_index (h ext (List.mem_filter.mp hext).1), ?_⟩
    rw [String.toList_append]
    simp
  · rw [packageFiles, List.mem_singleton] at hpackage
    rw [hpackage]
    exact ⟨⟨by decide, by decide, by decide, by decide⟩, by decide⟩

/-- A file that is found for a module path in normal form has a path in normal form, or the module
path is the directory itself and the file is an index or package file with a dot and a slash in
front. -/
theorem normalize_of_mem_candidatePaths {extensions : List String}
    (hplain : ∀ ext ∈ extensions, Path.Plain ext.toList) {text : List Char} {path : String}
    (h : path ∈ candidatePaths extensions (String.ofList (Path.normalizeChars text))) :
    Path.normalize path = path ∨ String.ofList (Path.normalizeChars text) = "." ∧
      ∃ name ∈ entryFiles extensions, path = "./" ++ name := by
  have hcandidate : (∃ ext ∈ extensions,
      path = String.ofList (Path.normalizeChars text) ++ ext) ∨
      ∃ name ∈ entryFiles extensions,
        path = below (String.ofList (Path.normalizeChars text)) name := by
    unfold candidatePaths at h
    rw [List.append_assoc, List.mem_append] at h
    rcases h with hbehind | hentry
    · obtain ⟨ext, hext, rfl⟩ := List.mem_map.mp hbehind
      exact Or.inl ⟨ext, hext, rfl⟩
    · right
      rcases List.mem_append.mp hentry with hindex | hpackage
      · obtain ⟨ext, hext, rfl⟩ := List.mem_map.mp hindex
        exact ⟨_, List.mem_append_left _ (List.mem_map_of_mem hext), rfl⟩
      · obtain ⟨name, hname, rfl⟩ := List.mem_map.mp hpackage
        exact ⟨name, List.mem_append_right _ hname, rfl⟩
  have hofChars {chars : List Char} (hsame : Path.normalizeChars chars = chars) :
      Path.normalize (String.ofList chars) = String.ofList chars := by
    unfold Path.normalize
    rw [String.toList_ofList, hsame]
  by_cases htext : text = []
  · subst htext
    left
    rcases hcandidate with ⟨ext, hext, rfl⟩ | ⟨name, hname, rfl⟩
    · have hempty : String.ofList (Path.normalizeChars []) ++ ext = String.ofList ext.toList := by
        simp
      rw [hempty]
      exact hofChars (Path.normalizeChars_plain (hplain ext hext))
    · obtain ⟨hname, _⟩ := plain_of_mem_entryFiles hplain hname
      have hhead : ¬ (name.toList.head? == some '/') = true := by
        rw [beq_iff_eq]
        exact fun hslash => hname.slash_not_mem (List.mem_of_head? hslash)
      have hempty : below (String.ofList (Path.normalizeChars [])) name =
          String.ofList name.toList := by
        unfold below Path.joinText
        rw [if_neg hhead]
        simp
      rw [hempty]
      exact hofChars (Path.normalizeChars_plain hname)
  · obtain ⟨base, hnormal, hbase⟩ := Path.exists_normal htext
    rw [hbase] at hcandidate ⊢
    rcases hcandidate with ⟨ext, hext, rfl⟩ | ⟨name, hname, rfl⟩
    · left
      have happend : String.ofList base.chars ++ ext =
          String.ofList (base.chars ++ ext.toList) := by
        rw [String.ofList_append, String.ofList_toList]
      rw [happend]
      exact hofChars (Path.normalizeChars_append hnormal (hplain ext hext))
    · obtain ⟨hplainName, hne⟩ := plain_of_mem_entryFiles hplain hname
      unfold below
      rw [String.toList_ofList]
      rcases Path.normalizeChars_joinText hnormal hplainName hne with hsame | ⟨hhere, hdot⟩
      · exact Or.inl (hofChars hsame)
      · right
        refine ⟨congrArg String.ofList hhere, name, hname, ?_⟩
        rw [hdot]
        apply String.toList_injective
        rw [String.toList_ofList, String.toList_append]
        rfl

/-- A relative specifier stands for the same module path in both spellings of a file. -/
theorem relativeBase_congr {file other : String}
    (h : Path.normalize file = Path.normalize other) (specifier : String) :
    relativeBase file specifier = relativeBase other specifier := by
  have hchars : Path.normalizeChars file.toList = Path.normalizeChars other.toList :=
    String.ofList_injective h
  simp only [relativeBase, hchars]

end Resolve

namespace Resolver

/-- The module paths that a specifier may mean in a file, in the order in which they are tried. -/
def bases (r : Resolver) (file specifier : String) : List String :=
  if specifier.isEmpty then []
  else if Resolve.isRelative specifier then [Resolve.relativeBase file specifier]
  else (r.aliases.map (·.candidates specifier)).getD []

/-- The paths that are tried for a specifier in a file, in order. -/
def tried (r : Resolver) (file specifier : String) : List String :=
  (r.bases file specifier).flatMap (Resolve.candidatePaths r.extensions)

/-- A specifier leads to the first of the paths that are tried for it under which there is a
file. -/
theorem resolve?_eq_find? (r : Resolver) (file specifier : String) :
    r.resolve? file specifier = (r.tried file specifier).find? r.fileExists := by
  unfold resolve? tried bases Resolve.resolveRelative?
  rw [List.find?_flatMap]
  split
  · rfl
  · split
    · rw [List.findSome?_singleton]
      rfl
    · cases r.aliases <;> rfl

/-- A specifier leads to the same file from both spellings of a file. -/
theorem resolve?_congr (r : Resolver) {file other : String}
    (h : Path.normalize file = Path.normalize other) (specifier : String) :
    r.resolve? file specifier = r.resolve? other specifier := by
  simp only [resolve?, Resolve.resolveRelative?, Resolve.relativeBase_congr h]

/-- The module paths of a specifier are in normal form. -/
theorem exists_of_mem_bases {r : Resolver} {file specifier base : String}
    (h : base ∈ r.bases file specifier) :
    ∃ text, base = String.ofList (Path.normalizeChars text) := by
  unfold bases at h
  split at h
  · exact absurd h List.not_mem_nil
  · split at h
    · exact ⟨_, List.mem_singleton.mp h⟩
    · cases haliases : r.aliases with
      | none =>
          rw [haliases] at h
          exact absurd h List.not_mem_nil
      | some aliases =>
          rw [haliases] at h
          obtain ⟨⟨name, targets⟩, _, hentry⟩ := List.mem_flatMap.mp h
          simp only at hentry
          split at hentry
          · obtain ⟨target, _, rfl⟩ := List.mem_map.mp hentry
            exact ⟨_, rfl⟩
          · exact absurd hentry List.not_mem_nil

/-- A path that is tried is in normal form, unless the specifier may mean the directory itself and
the path is that of an index or package file in it, with a dot and a slash in front. -/
theorem normalize_of_mem_tried {r : Resolver} (hplain : ∀ ext ∈ r.extensions, Path.Plain ext.toList)
    {file specifier path : String} (h : path ∈ r.tried file specifier) :
    Path.normalize path = path ∨ "." ∈ r.bases file specifier ∧
      ∃ name ∈ Resolve.entryFiles r.extensions, path = "./" ++ name := by
  obtain ⟨base, hbase, hpath⟩ := List.mem_flatMap.mp h
  obtain ⟨text, rfl⟩ := exists_of_mem_bases hbase
  rcases Resolve.normalize_of_mem_candidatePaths hplain hpath with hnormal | ⟨hhere, hentry⟩
  · exact Or.inl hnormal
  · exact Or.inr ⟨hhere ▸ hbase, hentry⟩

/-- The path that a specifier leads to is in normal form, or is that of an index or package file
with a dot and a slash in front. -/
theorem normalize_of_resolve? {r : Resolver} (hplain : ∀ ext ∈ r.extensions, Path.Plain ext.toList)
    {file specifier path : String} (h : r.resolve? file specifier = some path) :
    Path.normalize path = path ∨
      ∃ name ∈ Resolve.entryFiles r.extensions, path = "./" ++ name := by
  rw [resolve?_eq_find?] at h
  exact (normalize_of_mem_tried hplain (List.mem_of_find?_eq_some h)).imp_right And.right

/-- The standard extensions can be put behind a path. -/
theorem plain_standardExtensions :
    ∀ ext ∈ Resolve.standardExtensions, Path.Plain ext.toList := by
  have hcheck : ∀ ext ∈ Resolve.standardExtensions, '/' ∉ ext.toList ∧ '\\' ∉ ext.toList ∧
      ext.toList ≠ Path.here ∧ ext.toList ≠ Path.up := by decide
  intro ext hext
  obtain ⟨hslash, hback, hhere, hup⟩ := hcheck ext hext
  exact ⟨hslash, hback, hhere, hup⟩

end Resolver

end ChunkGraph
