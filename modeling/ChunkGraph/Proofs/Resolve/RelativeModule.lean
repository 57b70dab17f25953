import ChunkGraph.FrontEnd.Generic
import ChunkGraph.Proofs.Resolve.Normal
import ChunkGraph.Proofs.Text.Search
import Mathlib.Data.List.DropRight

/-!
# Where relative modules lead

A relative module counts directories by its dots. It is written as a path first, in
which one dot is the directory itself and each further one a segment `..`, and this
path is then put behind the directory of the importing file and normalized. What
the dots take back is taken from the end of the directory, so that one dot leaves
all of its segments, and one more than it has segments leaves none.

## Main definitions

* `Generic.upward` — the segments that dots stand for.
* `Generic.IsName` — a name of a module.
* `Generic.reached` — the segments that a relative module leads to.

## Main results

* `Path.normalizeChars_join`, `Path.directory_join` — the normal form and the
  directory of joined segments.
* `Path.collapse_upward` — what segments `..` take back.
* `Generic.relativeModule_eq` — a relative module as a path.
* `Generic.relative_module_means` — the module path of a relative module.
-/

namespace ChunkGraph

namespace Path

/-! ## Joined segments -/

/-- A joined text begins as its first part does. -/
theorem head?_join_cons (sep : List Char) {first : Segment} (h : first ≠ [])
    (rest : List Segment) : (Text.join sep (first :: rest)).head? = first.head? := by
  cases rest with
  | nil => rfl
  | cons next rest =>
      rw [Text.join_cons_cons, List.append_assoc, List.head?_append_of_ne_nil _ h]

section Joined

variable {segments : List Segment} (h : ∀ segment ∈ segments, Joinable segment)

include h

/-- Joined segments are read as a path without a root. -/
theorem ofChars_join (hne : segments ≠ []) :
    ofChars (Text.join ['/'] segments) = ⟨0, segments.filter isTelling⟩ := by
  have hroot : rootOf (Text.join ['/'] segments) = 0 :=
    rootOf_replicate_append (Nat.zero_le 2) (head?_join_ne h)
  unfold ofChars
  rw [hroot, Text.splitOn_join hne fun segment hsegment => (h segment hsegment).slash_not_mem]

theorem normalizeChars_join (hne : segments ≠ []) :
    normalizeChars (Text.join ['/'] segments) =
      (⟨0, collapse false (segments.filter isTelling)⟩ : Path).chars := by
  rw [normalizeChars_of_ne_nil (join_ne_nil h hne),
    forwardSlashes_of_not_mem (backslash_not_mem_join h), ofChars_join h hne]
  rfl

end Joined

/-! ## Directories -/

/-- A text that does not end with a slash has none to lose there. -/
theorem dropWhileRight_slash {text : List Char} (h : text.getLast? ≠ some '/') :
    Text.dropWhileRight (· == '/') text = text := by
  have hself : text.rdropWhile (· == '/') = text := by
    rw [List.rdropWhile_eq_self_iff]
    intro hne hlast
    rw [List.getLast?_eq_some_getLast hne, eq_of_beq hlast] at h
    exact h rfl
  exact hself

theorem dropWhileRight_append_slash {text : List Char} (h : text.getLast? ≠ some '/') :
    Text.dropWhileRight (· == '/') (text ++ ['/']) = text := by
  have hconcat : (text ++ ['/']).rdropWhile (· == '/') = text.rdropWhile (· == '/') :=
    List.rdropWhile_concat_pos _ _ _ rfl
  exact hconcat.trans (dropWhileRight_slash h)

/-- The directory of joined segments is all of them but the last. -/
theorem directory_join {segments : List Segment} (h : ∀ segment ∈ segments, Joinable segment) :
    directory (Text.join ['/'] segments) = Text.join ['/'] segments.dropLast := by
  rcases List.eq_nil_or_concat' segments with rfl | ⟨init, last, rfl⟩
  · rfl
  · have hlast := (h last (by simp)).slash_not_mem
    have hinit : ∀ segment ∈ init, Joinable segment :=
      fun segment hsegment => h segment (List.mem_append_left _ hsegment)
    rw [List.dropLast_concat]
    by_cases hne : init = []
    · subst hne
      show directory last = []
      rw [directory, Text.cutAtLast_eq_none_iff.mpr hlast]
    · have hall : ¬(Text.join ['/'] init ++ ['/']).all (· == '/') = true := by
        obtain ⟨c, text, htext⟩ := List.exists_cons_of_ne_nil (join_ne_nil hinit hne)
        have hhead := head?_join_ne hinit
        rw [htext, List.head?_cons] at hhead
        rw [htext, List.cons_append, List.all_cons, Bool.and_eq_true]
        exact fun hslash => hhead (congrArg some (eq_of_beq hslash.1))
      rw [join_concat hne, directory, Text.cutAtLast_eq_some_iff.mpr ⟨rfl, hlast⟩]
      dsimp only
      rw [if_neg hall, dropWhileRight_append_slash (getLast?_join_ne hinit)]

/-! ## Taking back -/

/-- As many segments are taken back as there are segments `..`. -/
theorem foldl_push_replicate_up {kept : List Segment} (h : up ∉ kept) (rooted : Bool) {steps : Nat}
    (hsteps : steps ≤ kept.length) :
    (List.replicate steps up).foldl (push rooted) kept = kept.drop steps := by
  induction steps generalizing kept with
  | zero => rfl
  | succ steps ih =>
      cases kept with
      | nil => exact absurd hsteps (Nat.not_succ_le_zero _)
      | cons last rest =>
          rw [List.mem_cons, not_or] at h
          rw [List.replicate_succ, List.foldl_cons, push_up_of_ne_up rooted rest (Ne.symm h.1),
            ih h.2 (Nat.le_of_succ_le_succ hsteps), List.drop_succ_cons]

theorem collapse_upward {front back : List Segment} (hfront : up ∉ front) (hback : up ∉ back)
    {steps : Nat} (hsteps : steps ≤ front.length) :
    collapse false (front ++ (List.replicate steps up ++ back)) =
      front.take (front.length - steps) ++ back := by
  have hkept : up ∉ front.reverse := fun hmem => hfront (List.mem_reverse.mp hmem)
  unfold collapse
  rw [List.foldl_append, List.foldl_append, foldl_push_of_not_mem hfront, List.append_nil,
    foldl_push_replicate_up hkept false (by rwa [List.length_reverse]),
    foldl_push_of_not_mem hback, List.reverse_append, List.reverse_reverse, List.reverse_drop,
    List.reverse_reverse, List.length_reverse]

end Path

namespace Generic

open ChunkGraph.Path

/-! ## A relative module as a path -/

/-- The segments that the dots in front of a module stand for. -/
def upward (dots : Nat) : List Segment :=
  if dots = 1 then [here] else List.replicate (dots - 1) up

theorem upward_ne_nil {dots : Nat} (h : 1 ≤ dots) : upward dots ≠ [] := by
  unfold upward
  split
  · simp
  · rw [Ne, List.replicate_eq_nil_iff]
    omega

theorem joinable_of_mem_upward {dots : Nat} {segment : Segment} (h : segment ∈ upward dots) :
    Joinable segment := by
  unfold upward at h
  split at h
  · rw [List.mem_singleton.mp h]
    exact ⟨by decide, by decide, by decide⟩
  · rw [(List.mem_replicate.mp h).2]
    exact proper_up.joinable

/-- The dots say nothing but how many directories are taken back. -/
theorem filter_upward (dots : Nat) :
    (upward dots).filter isTelling = List.replicate (dots - 1) up := by
  unfold upward
  split
  · rename_i hone
    subst hone
    rfl
  · exact List.filter_eq_self.mpr fun segment hsegment => by
      rw [(List.mem_replicate.mp hsegment).2]
      rfl

/-- A name of a module: not empty and without dots and separators. -/
structure IsName (name : Segment) : Prop where
  /-- It is not empty. -/
  ne_nil : name ≠ []
  /-- It holds no dot. -/
  dot_not_mem : '.' ∉ name
  /-- It holds no separator. -/
  slash_not_mem : '/' ∉ name
  /-- It holds nothing that counts as a separator. -/
  backslash_not_mem : '\\' ∉ name

theorem IsName.joinable {name : Segment} (h : IsName name) : Joinable name :=
  ⟨h.ne_nil, h.slash_not_mem, h.backslash_not_mem⟩

theorem IsName.ne_up {name : Segment} (h : IsName name) : name ≠ up := by
  rintro rfl
  exact h.dot_not_mem List.mem_cons_self

theorem IsName.telling {name : Segment} (h : IsName name) : isTelling name = true := by
  have hhere : name ≠ here := by
    rintro rfl
    exact h.dot_not_mem List.mem_cons_self
  unfold isTelling
  rw [Bool.and_eq_true, bne_iff_ne, Bool.not_eq_true', List.isEmpty_eq_false_iff]
  exact ⟨h.ne_nil, hhere⟩

section Names

variable {names : List Segment} (h : ∀ name ∈ names, IsName name)

include h

theorem head?_join_dots : (Text.join ['.'] names).head? ≠ some '.' := by
  cases names with
  | nil => simp
  | cons first rest =>
      have hfirst := h first List.mem_cons_self
      rw [head?_join_cons _ hfirst.ne_nil]
      exact fun hc => hfirst.dot_not_mem (List.mem_of_head? hc)

/-- The dots that are counted are those in front. -/
theorem takeWhile_dots (dots : Nat) :
    (List.replicate dots '.' ++ Text.join ['.'] names).takeWhile (· == '.') =
      List.replicate dots '.' := by
  have hdots : ∀ c ∈ List.replicate dots '.', (c == '.') = true := by
    intro c hc
    rw [(List.mem_replicate.mp hc).2]
    rfl
  have hnames : (Text.join ['.'] names).takeWhile (· == '.') = [] := by
    cases htext : Text.join ['.'] names with
    | nil => rfl
    | cons c text =>
        have hhead := head?_join_dots h
        rw [htext, List.head?_cons] at hhead
        refine List.takeWhile_cons_of_neg fun hc => ?_
        exact hhead (congrArg some (eq_of_beq hc))
  rw [List.takeWhile_append_of_pos hdots, hnames, List.append_nil]

/-- The dots between names become slashes. -/
theorem map_join_dots :
    (Text.join ['.'] names).map (fun c => if c == '.' then '/' else c) =
      Text.join ['/'] names := by
  have hkeep : ∀ name ∈ names, name.map (fun c => if c == '.' then '/' else c) = name := by
    intro name hname
    refine (List.map_congr_left fun c hc => ?_).trans (List.map_id name)
    have hdot : c ≠ '.' := by
      rintro rfl
      exact (h name hname).dot_not_mem hc
    exact if_neg (by simpa using hdot)
  clear h
  induction names with
  | nil => rfl
  | cons first rest ih =>
      obtain ⟨hfirst, hmore⟩ := List.forall_mem_cons.mp hkeep
      cases rest with
      | nil => exact hfirst
      | cons next rest =>
          rw [Text.join_cons_cons, Text.join_cons_cons, List.map_append, List.map_append, hfirst,
            ih hmore]
          rfl

end Names

/-- The steps in front of a module are the segments of its dots, each with a slash behind it. -/
theorem steps_eq {dots : Nat} (hdots : 1 ≤ dots) :
    (if dots == 1 then ['.', '/'] else (List.replicate (dots - 1) ['.', '.', '/']).flatten) =
      Text.join ['/'] (upward dots) ++ ['/'] := by
  unfold upward
  by_cases hone : dots = 1
  · subst hone
    rfl
  · obtain ⟨steps, rfl⟩ : ∃ steps, dots = steps + 2 := ⟨dots - 2, by omega⟩
    rw [if_neg (by simp), if_neg (by omega), show steps + 2 - 1 = steps + 1 from rfl]
    clear hdots hone
    induction steps with
    | zero => rfl
    | succ steps ih =>
        rw [List.replicate_succ, List.flatten_cons, ih, List.replicate_succ (n := steps + 1),
          List.replicate_succ (n := steps), Text.join_cons_cons]
        rfl

/-- A relative module as a path: its dots, then its names. -/
theorem relativeModule_eq {names : List Segment} (h : ∀ name ∈ names, IsName name) {dots : Nat}
    (hdots : 1 ≤ dots) :
    relativeModule (List.replicate dots '.' ++ Text.join ['.'] names) =
      Text.join ['/'] (upward dots ++ names) := by
  have hjoinable : ∀ segment ∈ upward dots ++ names, Joinable segment := by
    intro segment hsegment
    rcases List.mem_append.mp hsegment with hupward | hname
    · exact joinable_of_mem_upward hupward
    · exact (h segment hname).joinable
  have hne : upward dots ++ names ≠ [] := List.append_ne_nil_of_left_ne_nil (upward_ne_nil hdots) _
  have hpath : Text.dropWhileRight (· == '/')
      (Text.join ['/'] (upward dots) ++ ['/'] ++ Text.join ['/'] names) =
        Text.join ['/'] (upward dots ++ names) := by
    by_cases hnames : names = []
    · subst hnames
      rw [Text.join_nil, List.append_nil, List.append_nil]
      exact dropWhileRight_append_slash
        (getLast?_join_ne fun _ hsegment => joinable_of_mem_upward hsegment)
    · rw [List.append_assoc, List.singleton_append, ← join_append (upward_ne_nil hdots) hnames]
      exact dropWhileRight_slash (getLast?_join_ne hjoinable)
  unfold relativeModule
  rw [takeWhile_dots h, List.length_replicate]
  dsimp only
  rw [List.drop_left' (List.length_replicate ..), map_join_dots h, steps_eq hdots, hpath]
  split
  · rename_i hempty
    exact absurd hempty (join_ne_nil hjoinable hne)
  · rfl

/-! ## The module path -/

theorem head?_join_upward {dots : Nat} (hdots : 1 ≤ dots) (names : List Segment) :
    (Text.join ['/'] (upward dots ++ names)).head? = some '.' := by
  obtain ⟨first, rest, hfirst⟩ := List.exists_cons_of_ne_nil (upward_ne_nil hdots)
  have hmem : first ∈ upward dots := hfirst ▸ List.mem_cons_self
  have hdot : first ≠ [] ∧ first.head? = some '.' := by
    unfold upward at hmem
    split at hmem
    · rw [List.mem_singleton.mp hmem]
      exact ⟨by decide, rfl⟩
    · rw [(List.mem_replicate.mp hmem).2]
      exact ⟨by decide, rfl⟩
  rw [hfirst, List.cons_append, head?_join_cons _ hdot.1, hdot.2]

/-- The segments of a file's directory that are left behind the dots of a module, and the names of
the module. -/
def reached (directory : List Segment) (dots : Nat) (names : List Segment) : List Segment :=
  directory.take (directory.length + 1 - dots) ++ names

/-- The directory of a file whose path is relative and in normal form. -/
theorem directory_of_normal {file : String} (hnormal : Path.normalize file = file)
    (hrelative : (ofText file).isAbsolute = false) :
    directory (normalizeChars file.toList) = Text.join ['/'] (ofText file).parent.segments ∧
      ∀ segment ∈ (ofText file).segments, Proper segment := by
  have hchars : normalizeChars file.toList = file.toList := by
    have hlist := congrArg String.toList hnormal
    rwa [Path.normalize, String.toList_ofList] at hlist
  unfold ofText parent at *
  by_cases hempty : file.toList = []
  · rw [hempty]
    exact ⟨rfl, fun _ hsegment => absurd hsegment List.not_mem_nil⟩
  · obtain ⟨path, hpath, hsame⟩ := exists_normal hempty
    rw [hchars] at hsame
    rw [hchars, hsame, ofChars_chars hpath]
    rw [hsame, ofChars_chars hpath] at hrelative
    refine ⟨?_, hpath.proper⟩
    obtain ⟨root, segments⟩ := path
    obtain rfl : root = 0 := by simpa [isAbsolute] using hrelative
    by_cases hsegments : segments = []
    · subst hsegments
      rfl
    · rw [chars_of_ne_nil hsegments hpath.proper, List.replicate_zero, List.nil_append]
      exact directory_join hpath.joinable

/-- Behind a directory, perhaps the empty one. -/
theorem joinText_join {front back : List Segment} (hfront : ∀ segment ∈ front, Joinable segment)
    (hback : ∀ segment ∈ back, Joinable segment) (hne : back ≠ []) :
    (if (Text.join ['/'] front).isEmpty then Text.join ['/'] back
      else joinText (Text.join ['/'] front) (Text.join ['/'] back)) =
        Text.join ['/'] (front ++ back) := by
  by_cases hempty : front = []
  · subst hempty
    rfl
  · have htext : (Text.join ['/'] front).isEmpty = false :=
      List.isEmpty_eq_false_iff.mpr (join_ne_nil hfront hempty)
    have hhead : ((Text.join ['/'] back).head? == some '/') = false :=
      beq_eq_false_iff_ne.mpr (head?_join_ne hback)
    have hlast : ((Text.join ['/'] front).getLast? == some '/') = false :=
      beq_eq_false_iff_ne.mpr (getLast?_join_ne hfront)
    unfold joinText
    rw [htext, hhead, hlast, join_append hempty hne]
    rfl

/-- What the dots of a module take back is taken from the end of the directory. -/
theorem relativeBase_relativeModule {file : String} (hnormal : Path.normalize file = file)
    (hrelative : (ofText file).isAbsolute = false) (hup : up ∉ (ofText file).parent.segments)
    {dots : Nat} (hdots : 1 ≤ dots) (hle : dots ≤ (ofText file).parent.segments.length + 1)
    {names : List Segment} (hnames : ∀ name ∈ names, IsName name) :
    Resolve.relativeBase file
        (String.ofList (relativeModule (List.replicate dots '.' ++ Text.join ['.'] names))) =
      (⟨0, reached (ofText file).parent.segments dots names⟩ : Path).text := by
  obtain ⟨hdirectory, hproper⟩ := directory_of_normal hnormal hrelative
  generalize hsegments : (ofText file).parent.segments = segments at *
  have hfront : ∀ segment ∈ segments, Proper segment := by
    rw [← hsegments]
    exact fun segment hsegment => hproper segment (List.dropLast_subset _ hsegment)
  have hback : ∀ segment ∈ upward dots ++ names, Joinable segment := by
    intro segment hsegment
    rcases List.mem_append.mp hsegment with hupward | hname
    · exact joinable_of_mem_upward hupward
    · exact (hnames segment hname).joinable
  have hjoinable : ∀ segment ∈ segments ++ (upward dots ++ names), Joinable segment :=
    List.forall_mem_append.mpr ⟨fun segment hsegment => (hfront segment hsegment).joinable, hback⟩
  have hne : upward dots ++ names ≠ [] :=
    List.append_ne_nil_of_left_ne_nil (upward_ne_nil hdots) _
  have hnoUp : up ∉ names := fun hmem => (hnames up hmem).ne_up rfl
  have hfilter : (segments ++ (upward dots ++ names)).filter isTelling =
      segments ++ (List.replicate (dots - 1) up ++ names) := by
    rw [List.filter_append, List.filter_append, filter_upward,
      List.filter_eq_self.mpr fun segment hsegment => (hfront segment hsegment).telling,
      List.filter_eq_self.mpr fun segment hsegment => (hnames segment hsegment).telling]
  have hcount : segments.length - (dots - 1) = segments.length + 1 - dots := by omega
  unfold Resolve.relativeBase
  rw [hdirectory, String.toList_ofList, relativeModule_eq hnames hdots]
  dsimp only
  rw [joinText_join (fun segment hsegment => (hfront segment hsegment).joinable) hback hne,
    normalizeChars_join hjoinable (List.append_ne_nil_of_right_ne_nil _ hne), hfilter,
    collapse_upward hup hnoUp (by omega), hcount]
  rfl

/-- A relative module means the path of its names below the directory that its dots leave, which is
`.` if there are neither; and this path is the one under which its files are looked for. -/
theorem relative_module_means {file : String} (hnormal : Path.normalize file = file)
    (hrelative : (ofText file).isAbsolute = false) (hup : up ∉ (ofText file).parent.segments)
    {dots : Nat} (hdots : 1 ≤ dots) (hle : dots ≤ (ofText file).parent.segments.length + 1)
    {names : List Segment} (hnames : ∀ name ∈ names, IsName name) :
    let source := String.ofList
      (relativeModule (List.replicate dots '.' ++ Text.join ['.'] names))
    let segments := reached (ofText file).parent.segments dots names
    let base := if segments = [] then "." else String.ofList (Text.join ['/'] segments)
    Resolve.relativeBase file source = base ∧
      ∀ fileExists extensions, Resolve.resolveRelative? fileExists extensions file source =
        Resolve.probe? fileExists extensions base := by
  intro source segments base
  have hpath := relativeBase_relativeModule hnormal hrelative hup hdots hle hnames
  have hproper : ∀ segment ∈ segments, Proper segment := by
    intro segment hsegment
    rcases List.mem_append.mp hsegment with hkept | hname
    · have hparent := List.mem_of_mem_take hkept
      exact (directory_of_normal hnormal hrelative).2 segment (List.dropLast_subset _ hparent)
    · have h := hnames segment hname
      exact ⟨h.telling, h.slash_not_mem, h.backslash_not_mem⟩
  have hbase : Resolve.relativeBase file source = base := by
    refine hpath.trans ?_
    by_cases hempty : segments = []
    · rw [show base = "." from if_pos hempty]
      show (⟨0, segments⟩ : Path).text = "."
      rw [hempty]
      rfl
    · rw [show base = String.ofList (Text.join ['/'] segments) from if_neg hempty]
      show String.ofList (⟨0, segments⟩ : Path).chars = _
      rw [chars_of_ne_nil hempty hproper]
      rfl
  refine ⟨hbase, fun fileExists extensions => ?_⟩
  have hdot : Resolve.isRelative source = true := by
    unfold Resolve.isRelative
    rw [String.toList_ofList, relativeModule_eq hnames hdots, head?_join_upward hdots]
    rfl
  rw [Resolve.resolveRelative?, if_pos hdot, hbase]

theorem relative_module_means_two_dots :
    Path.normalize "pkg/sub/mod.py" = "pkg/sub/mod.py" ∧
      (ofText "pkg/sub/mod.py").isAbsolute = false ∧
      up ∉ (ofText "pkg/sub/mod.py").parent.segments ∧
      2 ≤ (ofText "pkg/sub/mod.py").parent.segments.length + 1 ∧
      Resolve.relativeBase "pkg/sub/mod.py" (String.ofList (relativeModule "..util.io".toList)) =
        "pkg/util/io" := by
  have hnormal : Path.normalize "pkg/sub/mod.py" = "pkg/sub/mod.py" := by decide +kernel
  have hrelative : (ofText "pkg/sub/mod.py").isAbsolute = false := by decide +kernel
  have hup : up ∉ (ofText "pkg/sub/mod.py").parent.segments := by decide +kernel
  have hle : 2 ≤ (ofText "pkg/sub/mod.py").parent.segments.length + 1 := by decide +kernel
  have hnames : ∀ name ∈ ["util".toList, "io".toList], IsName name := by
    intro name hname
    rcases List.mem_cons.mp hname with rfl | hname
    · exact ⟨by decide, by decide, by decide, by decide⟩
    · rw [List.mem_singleton.mp hname]
      exact ⟨by decide, by decide, by decide, by decide⟩
  have hbase := (relative_module_means hnormal hrelative hup (by decide) hle hnames).1
  refine ⟨hnormal, hrelative, hup, hle, ?_⟩
  exact hbase.trans (by decide +kernel)

end Generic

end ChunkGraph
