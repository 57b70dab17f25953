import ChunkGraph.Proofs.Resolve.Normal

/-!
# The file that a specifier leads to

A specifier means one or more module paths, and each module path one or more
files. They are tried in a fixed order, and the specifier leads to the first file
that exists. With aliases and extensions that are texts nothing can go wrong.

What is found has a path in normal form but for one case. Below the directory `.`
the index files and the package file are looked for with a dot and a slash in
front of their names, and their normal forms are the bare names.

## Main definitions

* `Resolver.ofTable` — the resolver of an alias table.

## Main results

* `Path.normalizeChars_here_slash` — the normal form of a name behind a dot and a
  slash.
* `Resolver.first_in_priority` — which file a specifier leads to.
* `Resolver.finds_root_entry_unnormalized` — a path that is not in normal form.
-/

namespace ChunkGraph

namespace Path

/-- A dot and a slash in front of a name say nothing. -/
theorem normalizeChars_here_slash {text : List Char} (h : Plain text) (hne : text ≠ []) :
    normalizeChars ('.' :: '/' :: text) = text := by
  have hname : Proper text := h.proper hne
  have hnormal : (⟨0, [text]⟩ : Path).Normal := normal_singleton (Nat.zero_le 2) hname h.ne_up
  have hsegments : Text.splitOn '/' ('.' :: '/' :: text) = [here, text] := by
    have hparts : ∀ part ∈ [here, text], '/' ∉ part := by
      intro part hpart
      rcases List.mem_pair.mp hpart with rfl | rfl
      · decide
      · exact h.slash_not_mem
    exact Text.splitOn_join (List.cons_ne_nil _ _) hparts
  have hread : ofChars ('.' :: '/' :: text) = ⟨0, [text]⟩ := by
    unfold ofChars
    rw [hsegments, List.filter_cons_of_neg (by decide), List.filter_cons_of_pos hname.telling]
    rfl
  have hback : '\\' ∉ '.' :: '/' :: text := by
    rw [List.mem_cons, List.mem_cons, not_or, not_or]
    exact ⟨by decide, by decide, h.backslash_not_mem⟩
  rw [normalizeChars_of_ne_nil (List.cons_ne_nil _ _), forwardSlashes_of_not_mem hback, hread,
    collapsed, hnormal.collapse_eq, chars_of_ne_nil (List.cons_ne_nil _ _) hnormal.proper]
  rfl

/-- A dot and characters that are neither dots nor separators can be put behind a path. -/
theorem plain_dot_cons {rest : List Char} (hne : rest ≠ [])
    (h : ∀ c ∈ rest, c ≠ '.' ∧ c ≠ '/' ∧ c ≠ '\\') : Plain ('.' :: rest) := by
  refine ⟨?_, ?_, ?_, ?_⟩
  · rw [List.mem_cons, not_or]
    exact ⟨by decide, fun hmem => (h _ hmem).2.1 rfl⟩
  · rw [List.mem_cons, not_or]
    exact ⟨by decide, fun hmem => (h _ hmem).2.2 rfl⟩
  · exact fun hhere => hne (List.cons.inj hhere).2
  · intro hup
    obtain rfl : rest = ['.'] := (List.cons.inj hup).2
    exact (h '.' List.mem_cons_self).1 rfl

end Path

/-- The path of an index or package file with a dot and a slash in front is not in normal form. -/
theorem Resolve.normalize_here_entry_ne {extensions : List String}
    (hplain : ∀ ext ∈ extensions, Path.Plain ext.toList) {name : String}
    (hname : name ∈ entryFiles extensions) : Path.normalize ("./" ++ name) ≠ "./" ++ name := by
  obtain ⟨hplainName, hne⟩ := plain_of_mem_entryFiles hplain hname
  have hnormal : Path.normalize ("./" ++ name) = name := by
    unfold Path.normalize
    rw [String.toList_append]
    exact (congrArg String.ofList (Path.normalizeChars_here_slash hplainName hne)).trans
      String.ofList_toList
  rw [hnormal]
  intro hsame
  have hlength := congrArg (fun text : String => text.toList.length) hsame
  simp only [String.toList_append, List.length_append] at hlength
  have hfront : "./".toList.length = 2 := rfl
  omega

namespace Resolver

/-- What specifiers are resolved with: the files that exist, extensions, and perhaps the entries of
an alias table below a directory. -/
def ofTable (fileExists : String → Bool) (extensions : List String)
    (table : Option (String × List (String × List String))) : Resolver where
  fileExists := fileExists
  extensions := extensions
  aliases := table.map fun (base, entries) => Resolve.Aliases.ofEntries base entries

section OfTable

variable (fileExists : String → Bool) (extensions : List String)
  (table : Option (String × List (String × List String)))

/-- Nothing goes wrong among paths. -/
theorem faultAmong_ok (r : Resolver) (h : ∀ path, r.pathFault? path = none) (paths : List String) :
    r.faultAmong (paths.map .ok) = none := by
  induction paths with
  | nil => rfl
  | cons path paths ih =>
      rw [List.map_cons, faultAmong, h path]
      simp only
      rw [ih, ite_self]

/-- Nothing goes wrong with a table of texts. -/
theorem fault?_ofTable (file specifier : String) :
    (ofTable fileExists extensions table).fault? file specifier = none := by
  have hpaths (bases : List String) : (ofTable fileExists extensions table).faultAmong
      (bases.flatMap (ofTable fileExists extensions table).attempts) = none := by
    have hattempts : bases.flatMap (ofTable fileExists extensions table).attempts =
        (bases.flatMap (Resolve.candidatePaths extensions)).map .ok := List.map_flatMap.symm
    rw [hattempts]
    exact faultAmong_ok _ (fun _ => rfl) _
  unfold fault?
  split
  · rfl
  · split
    · have hone := hpaths [Resolve.relativeBase file specifier]
      rwa [List.flatMap_singleton] at hone
    · cases table with
      | none => rfl
      | some table => exact hpaths _

/-- Resolved paths come first in priority, and all but one kind of them are in normal form. With
extensions that can be put behind a path, a specifier leads, without a failure, to a path if and
only if the path exists and nothing tried before it does, and nowhere if and only if nothing that is
tried exists. The path is in normal form if and only if it is not that of an index or package file
with a dot and a slash in front; if it is, the specifier may mean the directory `.` itself. Of the
file in which the specifier stands only the normal form of its path counts. -/
theorem first_in_priority (hplain : ∀ ext ∈ extensions, Path.Plain ext.toList)
    (file specifier : String) :
    (ofTable fileExists extensions table).fault? file specifier = none ∧
      (∀ path, (ofTable fileExists extensions table).resolve? file specifier = some path ↔
        fileExists path = true ∧ ∃ before after,
          (ofTable fileExists extensions table).tried file specifier = before ++ path :: after ∧
            ∀ earlier ∈ before, fileExists earlier = false) ∧
      ((ofTable fileExists extensions table).resolve? file specifier = none ↔
        ∀ path ∈ (ofTable fileExists extensions table).tried file specifier,
          fileExists path = false) ∧
      (∀ path, (ofTable fileExists extensions table).resolve? file specifier = some path →
        (Path.normalize path = path ↔
          ¬∃ name ∈ Resolve.entryFiles extensions, path = "./" ++ name) ∧
        (Path.normalize path ≠ path →
          "." ∈ (ofTable fileExists extensions table).bases file specifier)) ∧
      ∀ other, Path.normalize file = Path.normalize other →
        (ofTable fileExists extensions table).resolve? file specifier =
          (ofTable fileExists extensions table).resolve? other specifier := by
  refine ⟨fault?_ofTable fileExists extensions table file specifier, fun path => ?_, ?_,
    fun path hpath => ?_, fun other hother => resolve?_congr _ hother specifier⟩
  · rw [resolve?_eq_find?, List.find?_eq_some_iff_append]
    simp only [Bool.not_eq_true']
    rfl
  · rw [resolve?_eq_find?, List.find?_eq_none]
    simp only [Bool.not_eq_true]
    rfl
  · rw [resolve?_eq_find?] at hpath
    have hcases := normalize_of_mem_tried (r := ofTable fileExists extensions table) hplain
      (List.mem_of_find?_eq_some hpath)
    refine ⟨⟨?_, fun hnone => ?_⟩, fun hne => ?_⟩
    · rintro hnormal ⟨name, hname, rfl⟩
      exact Resolve.normalize_here_entry_ne hplain hname hnormal
    · exact hcases.resolve_right fun hentry => hnone hentry.2
    · exact (hcases.resolve_left hne).1

/-- An index file is found in a directory for which there is no file. -/
theorem first_in_priority_index :
    Path.Plain ".ts".toList ∧
      (ofTable (· == "src/lib/index.ts") [".ts"] none).fault? "src/main.ts" "./lib" = none ∧
      (ofTable (· == "src/lib/index.ts") [".ts"] none).resolve? "src/main.ts" "./lib" =
        some "src/lib/index.ts" := by
  have hletters : ∀ c ∈ ['t', 's'], c ≠ '.' ∧ c ≠ '/' ∧ c ≠ '\\' := by simp
  have hplain : ∀ ext ∈ [".ts"], Path.Plain ext.toList := by
    intro ext hext
    rw [List.mem_singleton.mp hext]
    exact Path.plain_dot_cons (List.cons_ne_nil _ _) hletters
  have hfirst := first_in_priority (· == "src/lib/index.ts") [".ts"] none hplain "src/main.ts"
    "./lib"
  refine ⟨hplain _ List.mem_cons_self, hfirst.1, (hfirst.2.1 "src/lib/index.ts").mpr ?_⟩
  exact ⟨rfl, ["src/lib.ts"], ["src/lib/__init__.py"], by decide, by decide⟩

/-- Among the files of the directory `.` an index file is found under a path that is not in normal
form. -/
theorem finds_root_entry_unnormalized :
    ¬∀ (fileExists : String → Bool) (extensions : List String)
        (table : Option (String × List (String × List String))) (file specifier path : String),
      (∀ ext ∈ extensions, Path.Plain ext.toList) →
        (ofTable fileExists extensions table).resolve? file specifier = some path →
          Path.normalize path = path := by
  intro hnormal
  have hindex := hnormal (["./index.ts", "index.ts"].contains ·) Resolve.standardExtensions none
    "main.ts" "." "./index.ts" plain_standardExtensions (by decide)
  exact absurd hindex (by decide)

end OfTable

end Resolver

end ChunkGraph
