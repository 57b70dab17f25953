import ChunkGraph.Excerpt.Request
import ChunkGraph.Proofs.Text.Search
import ChunkGraph.Proofs.Data.Related
import ChunkGraph.Proofs.Number.Decimal
import Mathlib.Data.List.Induction

/-!
# Written requests

A request that is written as a file, a colon and lines in decimal is read back
as that file and those lines. The range is cut off at the last colon, and cut
itself at its first dash: a written range has no colon, and its first line, which
is not negative, has no dash. So the path may have colons and dashes.

Of several written requests the first that cannot be read decides. If all can be
read, there is one request for each file, the files in the order in which they
first occur.

## Main definitions

* `RangeSpec.rangesOf`, `RangeSpec.grouped` — ranges grouped by file.

## Main results

* `RangeSpec.parse_of_lines`, `RangeSpec.parse_of_line` — what was written is
  read.
* `RangeSpec.requests_cases` — all requests are read and grouped, or one of them
  is why there are none.
* `RangeSpec.requests_of_written` — both as one statement.
-/

namespace ChunkGraph.RangeSpec

/-! ## One request -/

section Written

variable {first last : Int} {n : Nat}

theorem not_mem_natural {c : Char} (h : ∀ value < 10, c ≠ Number.digit value) :
    c ∉ Number.natural n := by
  obtain ⟨values, hwritten, _, hvalues, _⟩ := Number.exists_digits n
  rw [hwritten]
  intro hc
  obtain ⟨value, hvalue, hsame⟩ := List.mem_map.mp hc
  exact h value (hvalues value hvalue) hsame.symm

theorem colon_not_mem_integer : ':' ∉ Number.integer first := by
  have hdigit : ∀ value < 10, ':' ≠ Number.digit value := by decide
  cases first with
  | ofNat n => exact not_mem_natural hdigit
  | negSucc n => exact List.not_mem_cons_of_ne_of_not_mem (by decide) (not_mem_natural hdigit)

theorem dash_not_mem_integer (h : 0 ≤ first) : '-' ∉ Number.integer first := by
  have hdigit : ∀ value < 10, '-' ≠ Number.digit value := by decide
  cases first with
  | ofNat n => exact not_mem_natural hdigit
  | negSucc n => exact absurd h (by omega)

theorem integer_ne_nil : Number.integer first ≠ [] := by
  cases first with
  | ofNat n =>
      obtain ⟨values, hwritten, hne, _⟩ := Number.exists_digits n
      intro hnil
      exact hne (List.map_eq_nil_iff.mp (hwritten.symm.trans hnil))
  | negSucc n => exact List.cons_ne_nil _ _

theorem lineNumber?_integer (h : first.natAbs < 10 ^ Number.maxDigits) :
    lineNumber? (Number.integer first) = some first := by
  unfold lineNumber?
  rw [Number.readInt_integer h]
  rfl

/-- A first and a last line with a dash between them are read. -/
theorem lines?_of_lines (hsign : 0 ≤ first) (hfirst : first.natAbs < 10 ^ Number.maxDigits)
    (hlast : last.natAbs < 10 ^ Number.maxDigits) :
    lines? (Number.integer first ++ '-' :: Number.integer last) = some ⟨first, last⟩ := by
  have hcut : Text.cutAtFirst '-' (Number.integer first ++ '-' :: Number.integer last) =
      some (Number.integer first, Number.integer last) :=
    Text.cutAtFirst_eq_some_iff.mpr ⟨rfl, dash_not_mem_integer hsign⟩
  have hsome : (Number.integer last).isEmpty = false :=
    Bool.eq_false_iff.mpr fun hempty => integer_ne_nil (List.isEmpty_iff.mp hempty)
  unfold lines?
  rw [hcut, Option.getD_some]
  dsimp only
  rw [lineNumber?_integer hfirst, hsome, lineNumber?_integer hlast]
  rfl

/-- A single line is read as the range that consists of it. -/
theorem lines?_of_line (hsign : 0 ≤ first) (hfirst : first.natAbs < 10 ^ Number.maxDigits) :
    lines? (Number.integer first) = some ⟨first, first⟩ := by
  have hcut := Text.cutAtFirst_eq_none_iff.mpr (dash_not_mem_integer hsign)
  unfold lines?
  rw [hcut, Option.getD_none]
  dsimp only
  rw [lineNumber?_integer hfirst]
  rfl

/-- A file, a colon and a range without colons are read as the file and what the range says. -/
theorem parse_of_range {file : String} {text : List Char} {range : LineRange} (hfile : file ≠ "")
    (hcolon : ':' ∉ text) (hne : text ≠ []) (hrange : lines? text = some range) :
    parse (file ++ ":" ++ String.ofList text) = .ok (file, range) := by
  have htext : (file ++ ":" ++ String.ofList text).toList = file.toList ++ ':' :: text := by
    simp
  have hcut := Text.cutAtLast_eq_some_iff.mpr ⟨htext, hcolon⟩
  have hsome : (file.toList.isEmpty || text.isEmpty) = false := by
    rw [Bool.or_eq_false_iff, List.isEmpty_eq_false_iff, List.isEmpty_eq_false_iff]
    exact ⟨fun hempty => hfile (String.toList_eq_nil_iff.mp hempty), hne⟩
  unfold parse
  rw [hcut]
  dsimp only
  rw [hsome, if_neg Bool.false_ne_true, hrange, String.ofList_toList]

variable {file : String}

/-- A file, a colon and two lines with a dash between them are read back. -/
theorem parse_of_lines (hfile : file ≠ "") (hsign : 0 ≤ first)
    (hfirst : first.natAbs < 10 ^ Number.maxDigits)
    (hlast : last.natAbs < 10 ^ Number.maxDigits) :
    parse (file ++ ":" ++ Number.integerText first ++ "-" ++ Number.integerText last) =
      .ok (file, ⟨first, last⟩) := by
  have hcolon : ':' ∉ Number.integer first ++ '-' :: Number.integer last := by
    rw [List.mem_append, List.mem_cons]
    rintro (hleft | hdash | hright)
    · exact colon_not_mem_integer hleft
    · exact absurd hdash (by decide)
    · exact colon_not_mem_integer hright
  have hparse := parse_of_range hfile hcolon (by simp) (lines?_of_lines hsign hfirst hlast)
  have htext : file ++ ":" ++ Number.integerText first ++ "-" ++ Number.integerText last =
      file ++ ":" ++ String.ofList (Number.integer first ++ '-' :: Number.integer last) := by
    apply String.toList_injective
    simp [Number.integerText]
  rw [htext, hparse]

/-- A file, a colon and a line are read back. -/
theorem parse_of_line (hfile : file ≠ "") (hsign : 0 ≤ first)
    (hfirst : first.natAbs < 10 ^ Number.maxDigits) :
    parse (file ++ ":" ++ Number.integerText first) = .ok (file, ⟨first, first⟩) :=
  parse_of_range hfile colon_not_mem_integer integer_ne_nil (lines?_of_line hsign hfirst)

end Written

/-- What cannot be read is not of the form of a request, or the numbers in it are none. -/
theorem parse_eq_error {spec : String} {failure : Failure} (h : parse spec = .error failure) :
    failure = .malformedRange spec ∨ failure = .malformedLines spec := by
  unfold parse at h
  split at h
  · exact Or.inl (Except.error.inj h).symm
  · split at h
    · exact Or.inl (Except.error.inj h).symm
    · split at h
      · exact absurd h (by simp)
      · exact Or.inr (Except.error.inj h).symm

/-! ## Several requests -/

/-- The ranges of a file, in their order. -/
def rangesOf (read : List (String × LineRange)) (file : String) : List LineRange :=
  (read.filter (·.1 == file)).map (·.2)

/-- One request for each file. -/
def grouped (read : List (String × LineRange)) : List RangeRequest :=
  (read.map (·.1)).eraseDups.map fun file => ⟨file, rangesOf read file⟩

theorem addRange_of_not_mem {file : String} {range : LineRange} {found : List RangeRequest}
    (h : file ∉ found.map (·.filePath)) :
    addRange file range found = found ++ [⟨file, [range]⟩] := by
  induction found with
  | nil => rfl
  | cons request rest ih =>
      rw [List.map_cons, List.mem_cons, not_or] at h
      unfold addRange
      rw [if_neg (by simpa using Ne.symm h.1), ih h.2, List.cons_append]

/-- A known file has one more range, and all else is as before. -/
theorem addRange_of_mem {file : String} {range : LineRange} {found : List RangeRequest}
    (hnodup : (found.map (·.filePath)).Nodup) (h : file ∈ found.map (·.filePath)) :
    addRange file range found = found.map fun request =>
      if request.filePath = file then ⟨file, request.ranges ++ [range]⟩ else request := by
  induction found with
  | nil => exact absurd h List.not_mem_nil
  | cons request rest ih =>
      rw [List.map_cons, List.nodup_cons] at hnodup
      rw [List.map_cons, List.mem_cons] at h
      unfold addRange
      by_cases hsame : request.filePath = file
      · have hrest : ∀ other ∈ rest, other.filePath ≠ file := by
          intro other hother hfile
          exact hnodup.1 (List.mem_map.mpr ⟨other, hother, hfile.trans hsame.symm⟩)
        have hmap : rest.map (fun request => if request.filePath = file then
            ⟨file, request.ranges ++ [range]⟩ else request) = rest := by
          conv_rhs => rw [← List.map_id rest]
          exact List.map_congr_left fun other hother => if_neg (hrest other hother)
        rw [if_pos (beq_iff_eq.mpr hsame), List.map_cons, if_pos hsame, hmap]
      · have hmem : file ∈ rest.map (·.filePath) := h.resolve_left (Ne.symm hsame)
        rw [if_neg (by simpa using hsame), List.map_cons, if_neg hsame, ih hnodup.2 hmem]

@[simp] theorem map_filePath_grouped (read : List (String × LineRange)) :
    (grouped read).map (·.filePath) = (read.map (·.1)).eraseDups := by
  unfold grouped
  rw [List.map_map]
  exact List.map_id _

theorem rangesOf_concat (read : List (String × LineRange)) (file other : String)
    (range : LineRange) :
    rangesOf (read ++ [(file, range)]) other =
      if other = file then rangesOf read file ++ [range] else rangesOf read other := by
  unfold rangesOf
  rw [List.filter_append, List.map_append]
  by_cases hsame : other = file
  · subst hsame
    simp
  · simp [hsame, Ne.symm hsame]

/-- Only a file that has not occurred yet is added. -/
theorem eraseDups_concat (files : List String) (file : String) :
    (files ++ [file]).eraseDups =
      if file ∈ files then files.eraseDups else files.eraseDups ++ [file] := by
  rw [List.eraseDups_append]
  split
  · rename_i hknown
    have hnone : [file].removeAll files = [] := by simp [List.removeAll, hknown]
    rw [hnone, List.eraseDups_nil, List.append_nil]
  · rename_i hnew
    have hone : [file].removeAll files = [file] := by simp [List.removeAll, hnew]
    rw [hone]
    rfl

theorem nodup_eraseDups (files : List String) : files.eraseDups.Nodup := by
  induction files using List.reverseRecOn with
  | nil => exact List.nodup_nil
  | append_singleton files file ih =>
      rw [eraseDups_concat]
      split
      · exact ih
      · rename_i hnew
        have hnot : file ∉ files.eraseDups := fun hmem => hnew (List.mem_eraseDups.mp hmem)
        exact List.nodup_append.mpr ⟨ih, List.pairwise_singleton _ file, by
          rintro other hother _ hlast rfl
          exact hnot (List.mem_singleton.mp hlast ▸ hother)⟩

/-- One more range goes to the request for its file, or to a new one at the end. -/
theorem addRange_grouped (read : List (String × LineRange)) (file : String) (range : LineRange) :
    addRange file range (grouped read) = grouped (read ++ [(file, range)]) := by
  have hgrouped : grouped (read ++ [(file, range)]) =
      (read.map (·.1) ++ [file]).eraseDups.map fun other =>
        ⟨other, rangesOf (read ++ [(file, range)]) other⟩ := by
    unfold grouped
    rw [List.map_append]
    rfl
  rw [hgrouped, eraseDups_concat]
  split
  · rename_i hknown
    have hmem : file ∈ (grouped read).map (·.filePath) := by
      rw [map_filePath_grouped]
      exact List.mem_eraseDups.mpr hknown
    have hnodup : ((grouped read).map (·.filePath)).Nodup := by
      rw [map_filePath_grouped]
      exact nodup_eraseDups _
    rw [addRange_of_mem hnodup hmem, grouped, List.map_map]
    apply List.map_congr_left
    intro other _
    rw [Function.comp_apply, rangesOf_concat]
    by_cases hsame : other = file
    · subst hsame
      rw [if_pos rfl, if_pos rfl]
    · rw [if_neg hsame, if_neg hsame]
  · rename_i hnew
    have hnot : file ∉ (grouped read).map (·.filePath) := by
      rw [map_filePath_grouped]
      exact fun hmem => hnew (List.mem_eraseDups.mp hmem)
    have hempty : rangesOf read file = [] := by
      unfold rangesOf
      rw [List.map_eq_nil_iff, List.filter_eq_nil_iff]
      intro pair hpair hsame
      exact hnew (List.mem_map.mpr ⟨pair, hpair, eq_of_beq hsame⟩)
    have hlast : rangesOf (read ++ [(file, range)]) file = [range] := by
      rw [rangesOf_concat, if_pos rfl, hempty, List.nil_append]
    rw [addRange_of_not_mem hnot, List.map_append, List.map_singleton, hlast]
    congr 1
    apply List.map_congr_left
    intro other hother
    have hne : other ≠ file := fun hsame => hnew (hsame ▸ List.mem_eraseDups.mp hother)
    rw [rangesOf_concat, if_neg hne]

/-- The requests that a list of read ones comes to, one after the other. -/
theorem foldl_addRange (read : List (String × LineRange)) :
    read.foldl (fun found pair => addRange pair.1 pair.2 found) [] = grouped read := by
  induction read using List.reverseRecOn with
  | nil => rfl
  | append_singleton read pair ih => rw [List.foldl_concat, ih, addRange_grouped]

/-- The requests are read one after the other: all of them, or the first that cannot be read
decides. -/
theorem foldlM_parse (specs : List String) (found : List RangeRequest) :
    (∃ read, List.Forall₂ (fun spec pair => parse spec = .ok pair) specs read ∧
      specs.foldlM (fun found spec => do
        let (file, range) ← parse spec
        return addRange file range found) found =
          .ok (read.foldl (fun found pair => addRange pair.1 pair.2 found) found)) ∨
      ∃ spec ∈ specs, ∃ failure, parse spec = .error failure ∧
        specs.foldlM (fun found spec => do
          let (file, range) ← parse spec
          return addRange file range found) found = .error failure := by
  induction specs generalizing found with
  | nil => exact Or.inl ⟨[], .nil, rfl⟩
  | cons spec rest ih =>
      rw [List.foldlM_cons]
      cases hparse : parse spec with
      | error failure => exact Or.inr ⟨spec, List.mem_cons_self, failure, hparse, rfl⟩
      | ok pair =>
          rcases ih (addRange pair.1 pair.2 found) with ⟨read, hread, hfold⟩ |
            ⟨other, hother, failure, hfailure, hfold⟩
          · exact Or.inl ⟨pair :: read, .cons hparse hread, hfold⟩
          · exact Or.inr ⟨other, List.mem_cons_of_mem spec hother, failure, hfailure, hfold⟩

/-- Either all requests can be read, and come to one request for each file, or one of them is why
there are none. -/
theorem requests_cases (specs : List String) :
    (∃ read, List.Forall₂ (fun spec pair => parse spec = .ok pair) specs read ∧
      requests specs = .ok (grouped read)) ∨
      ∃ spec ∈ specs, ∃ failure, parse spec = .error failure ∧
        requests specs = .error failure := by
  rcases foldlM_parse specs [] with ⟨read, hread, hfold⟩ | hfailed
  · exact Or.inl ⟨read, hread, by rw [← foldl_addRange]; exact hfold⟩
  · exact Or.inr hfailed

/-- There is a failure exactly if some request cannot be read. -/
theorem exists_requests_eq_error_iff {specs : List String} :
    (∃ failure, requests specs = .error failure) ↔
      ∃ spec ∈ specs, ∃ failure, parse spec = .error failure := by
  rcases requests_cases specs with ⟨read, hread, hok⟩ | ⟨spec, hspec, failure, hfailure, herror⟩
  · constructor
    · rintro ⟨failure, hfailure⟩
      exact absurd (hok.symm.trans hfailure) (by simp)
    · rintro ⟨spec, hspec, failure, hfailure⟩
      obtain ⟨pair, _, hpair⟩ := rel_mem hread hspec
      exact absurd (hpair.symm.trans hfailure) (by simp)
  · exact ⟨fun _ => ⟨spec, hspec, failure, hfailure⟩, fun _ => ⟨failure, herror⟩⟩

/-- A file and lines in decimal are read back, whatever colons and dashes the path has. Several
requests fail exactly if one of them cannot be read; otherwise there is one request for each file,
in the order in which the files first occur, with the ranges of that file in their order. -/
theorem requests_of_written :
    (∀ (file : String) (first : Int), file ≠ "" → 0 ≤ first →
      first.natAbs < 10 ^ Number.maxDigits →
        parse (file ++ ":" ++ Number.integerText first) = .ok (file, ⟨first, first⟩) ∧
        ∀ last : Int, last.natAbs < 10 ^ Number.maxDigits →
          parse (file ++ ":" ++ Number.integerText first ++ "-" ++ Number.integerText last) =
            .ok (file, ⟨first, last⟩)) ∧
      ∀ specs : List String,
        ((∃ failure, requests specs = .error failure) ↔
          ∃ spec ∈ specs, ∃ failure, parse spec = .error failure) ∧
        (∀ failure, requests specs = .error failure →
          ∃ spec ∈ specs, failure = .malformedRange spec ∨ failure = .malformedLines spec) ∧
        ∀ found, requests specs = .ok found →
          ∃ read, List.Forall₂ (fun spec pair => parse spec = .ok pair) specs read ∧
            found.map (·.filePath) = (read.map (·.1)).eraseDups ∧
            ∀ request ∈ found, request.ranges =
              (read.filter (·.1 == request.filePath)).map (·.2) := by
  refine ⟨fun file first hfile hsign hfirst => ⟨parse_of_line hfile hsign hfirst,
    fun last hlast => parse_of_lines hfile hsign hfirst hlast⟩, fun specs => ?_⟩
  refine ⟨exists_requests_eq_error_iff, ?_, ?_⟩
  · intro failure hfailure
    rcases requests_cases specs with ⟨read, _, hok⟩ | ⟨spec, hspec, other, hother, herror⟩
    · exact absurd (hok.symm.trans hfailure) (by simp)
    · obtain rfl := Except.error.inj (herror.symm.trans hfailure)
      exact ⟨spec, hspec, parse_eq_error hother⟩
  · intro found hfound
    rcases requests_cases specs with ⟨read, hread, hok⟩ | ⟨_, _, _, _, herror⟩
    · obtain rfl := Except.ok.inj (hok.symm.trans hfound)
      refine ⟨read, hread, map_filePath_grouped read, fun request hrequest => ?_⟩
      obtain ⟨file, _, rfl⟩ := List.mem_map.mp hrequest
      rfl
    · exact absurd (herror.symm.trans hfound) (by simp)

/-- A number of one digit is short enough to be read. -/
theorem lt_ten_pow_maxDigits {n : Nat} (h : n < 10) : n < 10 ^ Number.maxDigits := by
  have hone : 10 ^ 1 ≤ 10 ^ Number.maxDigits :=
    Nat.pow_le_pow_right (show 0 < 10 by decide) (show 1 ≤ Number.maxDigits by decide)
  exact Nat.lt_of_lt_of_le h (by rwa [Nat.pow_one] at hone)

/-- A path with colons and dashes, twice among the requests, and a last line below zero. -/
theorem requests_of_written_colons :
    parse "C:/a-b.ts:3" = .ok ("C:/a-b.ts", ⟨3, 3⟩) ∧
      parse "C:/a-b.ts:3--5" = .ok ("C:/a-b.ts", ⟨3, -5⟩) ∧
      requests ["C:/a-b.ts:3--5", "b.ts:4", "C:/a-b.ts:3"] =
        .ok [⟨"C:/a-b.ts", [⟨3, -5⟩, ⟨3, 3⟩]⟩, ⟨"b.ts", [⟨4, 4⟩]⟩] ∧
      (∃ read : List (String × LineRange),
        List.Forall₂ (fun spec pair => parse spec = .ok pair)
            ["C:/a-b.ts:3--5", "b.ts:4", "C:/a-b.ts:3"] read ∧
          ["C:/a-b.ts", "b.ts"] = (read.map (·.1)).eraseDups) ∧
      requests ["b.ts:4", "b.ts"] = .error (.malformedRange "b.ts") ∧
      ∃ spec ∈ ["b.ts:4", "b.ts"], ∃ failure, parse spec = .error failure := by
  have hfirst : (3 : Int).natAbs < 10 ^ Number.maxDigits := lt_ten_pow_maxDigits (by decide)
  have hlast : (-5 : Int).natAbs < 10 ^ Number.maxDigits := lt_ten_pow_maxDigits (by decide)
  obtain ⟨hline, hlines⟩ :=
    requests_of_written.1 "C:/a-b.ts" 3 (by decide) (by decide) hfirst
  have hwritten : "C:/a-b.ts" ++ ":" ++ Number.integerText 3 = "C:/a-b.ts:3" := by
    decide +kernel
  have hwrittenLast : "C:/a-b.ts:3" ++ "-" ++ Number.integerText (-5) = "C:/a-b.ts:3--5" := by
    decide +kernel
  have hlines := hlines (-5) hlast
  rw [hwritten] at hline hlines
  rw [hwrittenLast] at hlines
  have hgrouped : requests ["C:/a-b.ts:3--5", "b.ts:4", "C:/a-b.ts:3"] =
      .ok [⟨"C:/a-b.ts", [⟨3, -5⟩, ⟨3, 3⟩]⟩, ⟨"b.ts", [⟨4, 4⟩]⟩] := by
    decide +kernel
  have hfailed : requests ["b.ts:4", "b.ts"] = .error (.malformedRange "b.ts") := by
    decide +kernel
  obtain ⟨read, hread, hfiles, _⟩ := (requests_of_written.2 _).2.2 _ hgrouped
  exact ⟨hline, hlines, hgrouped, ⟨read, hread, hfiles⟩, hfailed,
    (requests_of_written.2 _).1.mp ⟨_, hfailed⟩⟩

end ChunkGraph.RangeSpec
