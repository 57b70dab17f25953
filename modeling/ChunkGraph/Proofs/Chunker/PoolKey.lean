import ChunkGraph.Chunker
import ChunkGraph.Proofs.Text.Search

/-!
# Pool keys

Front ends are interchangeable if they are kept under one key. That is clear
for scripts and components, of which there is only one front end each. The
generic one is bound to a language, which follows from the extension of the
file, and so does its key. The key drops the dots in front of the extension and
puts a word in its place if there is none; neither brings together files of
different languages, because an extension in lower case begins with exactly one
dot, and the word is the extension of no language.

## Main definitions

* `bareExtension` — the extension of a file in lower case, without its dot.
* `FrontEnd.kinds` — the kinds for which there are front ends.
* `FrontEnd.languageFor` — the language of a generic front end.

## Main results

* `Text.lowerChar_ne_dot` — no character becomes a dot in lower case.
* `lowerSuffix_eq` — the extension with its dot, from that without.
* `newFrontEnd_eq_of_poolKey_eq` — files with one key have one front end.
* `create_eq_of_poolKey_eq` — what is made under one key is the same front end.
-/

namespace ChunkGraph

/-! ## Dots and lower case -/

namespace Text

/-- Lower-case forms of the table lie behind the dot. -/
theorem lowerRuns_behind_dot : ∀ run ∈ Table.lowerRuns, 46 < (run.1 : Int) + run.2.2.2 := by
  decide +kernel

theorem eq_of_ofNat_eq_dot {n : Nat} (h : Char.ofNat n = '.') : n = 46 := by
  by_cases hvalid : n.isValidChar
  · rw [Char.ofNat, dif_pos hvalid] at h
    exact congrArg Char.toNat h
  · rw [Char.ofNat, dif_neg hvalid] at h
    exact absurd h (by decide)

/-- No character becomes a dot in lower case. -/
theorem lowerChar_ne_dot {c : Char} (h : c ≠ '.') : lowerChar c ≠ '.' := by
  unfold lowerChar
  split
  · split
    · rename_i hletter
      have hlow : 65 ≤ c.toNat := by
        simp only [Bool.and_eq_true, decide_eq_true_eq] at hletter
        exact hletter.1
      intro heq
      have hvalue := eq_of_ofNat_eq_dot heq
      omega
    · exact h
  · split
    · rename_i first last step distance hrun
      have hmem := List.mem_of_find?_eq_some hrun
      have hin := List.find?_some hrun
      have hbehind : 46 < (first : Int) + distance := lowerRuns_behind_dot _ hmem
      simp only [Bool.and_eq_true, decide_eq_true_eq] at hin
      intro heq
      have hvalue := eq_of_ofNat_eq_dot heq
      omega
    · exact h

/-- A text that does not begin with a dot does not do so in lower case either. -/
theorem head?_lowerFrom_ne_dot (before rest : List Char) {c : Char} (h : c ≠ '.') :
    ∃ d form, lowerFrom before (c :: rest) = d :: form ∧ d ≠ '.' := by
  rw [lowerFrom]
  split
  · split
    · exact ⟨_, _, rfl, by decide⟩
    · exact ⟨_, _, rfl, by decide⟩
  · split
    · exact ⟨_, _, rfl, by decide⟩
    · exact ⟨_, _, rfl, lowerChar_ne_dot h⟩

end Text

/-- An extension begins with a dot, and no other one follows it. -/
theorem Path.extension_cases (name : Segment) :
    Path.extension name = [] ∨
      ∃ c rest, Path.extension name = '.' :: c :: rest ∧ c ≠ '.' := by
  unfold Path.extension
  split
  · rename_i first before c rest hcut
    refine Or.inr ⟨c, rest, rfl, ?_⟩
    rintro rfl
    exact (Text.cutAtLast_eq_some_iff.mp hcut).2 List.mem_cons_self
  · exact Or.inl rfl

/-! ## Extensions -/

/-- The extension of a file in lower case, without its dot. -/
def bareExtension (path : String) : List Char := (Path.lowerSuffix path).dropWhile (· == '.')

/-- The extension in lower case has exactly one dot in front. -/
theorem lowerSuffix_eq (path : String) :
    Path.lowerSuffix path =
      if (bareExtension path).isEmpty then [] else '.' :: bareExtension path := by
  unfold bareExtension Path.lowerSuffix Path.suffix
  rcases Path.extension_cases (Path.ofText path).name with hnone | ⟨c, rest, hsome, hc⟩
  · rw [hnone]
    rfl
  · rw [hsome]
    obtain ⟨d, form, hform, hd⟩ := Text.head?_lowerFrom_ne_dot ['.'] rest hc
    have hlower : Text.lower ('.' :: c :: rest) = '.' :: d :: form := by
      rw [← hform]
      rfl
    have hd' : (d == '.') = false := beq_eq_false_iff_ne.mpr hd
    rw [hlower]
    simp [hd']

/-- The language of a file follows from its extension without the dot. -/
theorem detectLanguage_eq (path : String) :
    detectLanguage path =
      (Registry.standard.languageOf.lookup (String.ofList
        (if (bareExtension path).isEmpty then [] else '.' :: bareExtension path))).getD
          Registry.standard.default := by
  rw [← lowerSuffix_eq, detectLanguage, Registry.detectPath, Registry.detect, lowerText,
    String.toList_ofList]
  rfl

/-- Files whose generic front ends have one key are in one language. -/
theorem detectLanguage_eq_of_word_eq {path other : String}
    (h : (if (bareExtension path).isEmpty then "unknown" else String.ofList (bareExtension path)) =
      if (bareExtension other).isEmpty then "unknown" else String.ofList (bareExtension other)) :
    detectLanguage path = detectLanguage other := by
  have hnone : Registry.standard.languageOf.lookup (String.ofList []) = none := by decide
  have hword : Registry.standard.languageOf.lookup (String.ofList ('.' :: "unknown".toList)) =
      none := by decide +kernel
  rw [detectLanguage_eq, detectLanguage_eq]
  by_cases hpath : (bareExtension path).isEmpty
  · by_cases hother : (bareExtension other).isEmpty
    · rw [if_pos hpath, if_pos hother]
    · rw [if_pos hpath, if_neg hother] at h
      rw [if_pos hpath, if_neg hother, ← String.toList_ofList (l := bareExtension other), ← h,
        hnone, hword]
  · by_cases hother : (bareExtension other).isEmpty
    · rw [if_neg hpath, if_pos hother] at h
      rw [if_neg hpath, if_pos hother, ← String.toList_ofList (l := bareExtension path), h, hnone,
        hword]
    · rw [if_neg hpath, if_neg hother] at h
      rw [if_neg hpath, if_neg hother, String.ofList_injective h]

/-! ## Kinds of front ends -/

/-- The kinds of front ends. -/
def FrontEnd.kinds : List String := [scriptKind, componentKind, genericKind]

/-- The language of a generic front end for a path; there need not be one. -/
def FrontEnd.languageFor (path : Option String) : String :=
  match path.bind nonEmpty? with
  | some path => detectLanguage path
  | none => "unknown"

theorem create_scriptKind (path : Option String) :
    FrontEnd.create FrontEnd.scriptKind path = .ok .script := rfl

theorem create_componentKind (path : Option String) :
    FrontEnd.create FrontEnd.componentKind path = .ok .component := rfl

theorem create_genericKind (path : Option String) :
    FrontEnd.create FrontEnd.genericKind path = .ok (.generic (FrontEnd.languageFor path)) := by
  have hscript : (FrontEnd.genericKind == FrontEnd.scriptKind) = false := by decide
  have hcomponent : (FrontEnd.genericKind == FrontEnd.componentKind) = false := by decide
  unfold FrontEnd.create FrontEnd.languageFor
  rw [hscript, hcomponent]
  cases path.bind nonEmpty? with
  | none => rfl
  | some path => rfl

/-! ## Keys -/

/-- There are three kinds of front ends. -/
theorem FrontEnd.kindFor_cases (language : String) :
    FrontEnd.kindFor language = FrontEnd.scriptKind ∨
      FrontEnd.kindFor language = FrontEnd.componentKind ∨
        FrontEnd.kindFor language = FrontEnd.genericKind := by
  unfold FrontEnd.kindFor
  split
  · exact Or.inl rfl
  · split
    · exact Or.inr (Or.inl rfl)
    · exact Or.inr (Or.inr rfl)

theorem poolKey_scriptKind (path : String) :
    poolKey FrontEnd.scriptKind (some path) = FrontEnd.scriptKind := rfl

theorem poolKey_componentKind (path : String) :
    poolKey FrontEnd.componentKind (some path) = FrontEnd.componentKind := rfl

theorem poolKey_genericKind (path : String) :
    poolKey FrontEnd.genericKind (some path) =
      if path.isEmpty then FrontEnd.genericKind
      else FrontEnd.genericKind ++ ":" ++
        if (bareExtension path).isEmpty then "unknown" else String.ofList (bareExtension path) := by
  simp only [poolKey, beq_self_eq_true, Bool.true_and]
  cases path.isEmpty
  · rfl
  · rfl

/-- The key of a generic front end begins as no other key does. -/
theorem poolKey_genericKind_ne (path : String) {key : String}
    (h : key = FrontEnd.scriptKind ∨ key = FrontEnd.componentKind) :
    poolKey FrontEnd.genericKind (some path) ≠ key := by
  have hbegins : ∃ rest, (poolKey FrontEnd.genericKind (some path)).toList =
      "treesitter".toList ++ rest := by
    rw [poolKey_genericKind]
    split
    · exact ⟨[], rfl⟩
    · rw [String.toList_append, String.toList_append, List.append_assoc]
      exact ⟨_, rfl⟩
  obtain ⟨rest, hrest⟩ := hbegins
  intro heq
  rw [heq] at hrest
  rcases h with rfl | rfl
  · exact absurd hrest (by simp [FrontEnd.scriptKind])
  · exact absurd hrest (by simp [FrontEnd.componentKind])

theorem newFrontEnd_genericKind (path : String) :
    Chunker.newFrontEnd FrontEnd.genericKind path =
      .generic (if path.isEmpty then "unknown" else detectLanguage path) := by
  rw [Chunker.newFrontEnd, create_genericKind, FrontEnd.languageFor, Option.bind_some, nonEmpty?]
  cases path.isEmpty
  · rfl
  · rfl

/-- Files with one key have one front end. -/
theorem newFrontEnd_eq_of_poolKey_eq {language other path otherPath : String}
    (h : poolKey (FrontEnd.kindFor language) (some path) =
      poolKey (FrontEnd.kindFor other) (some otherPath)) :
    Chunker.newFrontEnd (FrontEnd.kindFor language) path =
      Chunker.newFrontEnd (FrontEnd.kindFor other) otherPath := by
  rcases FrontEnd.kindFor_cases language with hkind | hkind | hkind <;>
    rcases FrontEnd.kindFor_cases other with hother | hother | hother <;>
    rw [hkind, hother] at h ⊢
  case inl.inl => rfl
  case inl.inr.inl => exact absurd h (by rw [poolKey_scriptKind, poolKey_componentKind]; decide)
  case inl.inr.inr => exact absurd h.symm (poolKey_genericKind_ne otherPath (Or.inl rfl))
  case inr.inl.inl => exact absurd h (by rw [poolKey_scriptKind, poolKey_componentKind]; decide)
  case inr.inl.inr.inl => rfl
  case inr.inl.inr.inr => exact absurd h.symm (poolKey_genericKind_ne otherPath (Or.inr rfl))
  case inr.inr.inl => exact absurd h (poolKey_genericKind_ne path (Or.inl rfl))
  case inr.inr.inr.inl => exact absurd h (poolKey_genericKind_ne path (Or.inr rfl))
  case inr.inr.inr.inr =>
    rw [newFrontEnd_genericKind, newFrontEnd_genericKind]
    rw [poolKey_genericKind, poolKey_genericKind] at h
    have hlonger : ∀ word : String, FrontEnd.genericKind ≠ FrontEnd.genericKind ++ ":" ++ word := by
      intro word heq
      have hlength := congrArg String.length heq
      rw [String.length_append, String.length_append] at hlength
      have hcolon : ":".length = 1 := rfl
      omega
    cases hpath : path.isEmpty <;> cases hotherPath : otherPath.isEmpty <;>
      simp only [hpath, hotherPath, if_true, if_false, Bool.false_eq_true] at h ⊢
    case false.false =>
      rw [detectLanguage_eq_of_word_eq ((String.append_right_inj _).mp h)]
    case false.true => exact absurd h.symm (hlonger _)
    case true.false => exact absurd h (hlonger _)

/-! ## Keys without paths -/

/-- The kinds for which front ends are made are the kinds of front ends. -/
theorem mem_kinds_of_create {kind : String} {path : Option String} {frontEnd : FrontEnd}
    (h : FrontEnd.create kind path = .ok frontEnd) : kind ∈ FrontEnd.kinds := by
  refine Decidable.byContradiction fun hunknown => ?_
  simp only [FrontEnd.kinds, List.mem_cons, List.not_mem_nil, or_false, not_or] at hunknown
  obtain ⟨hscript, hcomponent, hgeneric⟩ := hunknown
  have herror : FrontEnd.create kind path = .error (.unknownFrontEnd kind) := by
    unfold FrontEnd.create
    rw [if_neg (by simpa using hscript), if_neg (by simpa using hcomponent),
      if_neg (by simpa using hgeneric)]
  rw [herror] at h
  exact absurd h (by simp)

/-- A front end can be made for each kind. -/
theorem exists_create_of_mem_kinds {kind : String} (h : kind ∈ FrontEnd.kinds)
    (path : Option String) : ∃ frontEnd, FrontEnd.create kind path = .ok frontEnd ∧
      frontEnd.kind = kind ∧
      (kind = FrontEnd.genericKind → frontEnd.language? = some (FrontEnd.languageFor path)) := by
  simp only [FrontEnd.kinds, List.mem_cons, List.not_mem_nil, or_false] at h
  rcases h with rfl | rfl | rfl
  · exact ⟨_, create_scriptKind path, rfl, fun h => absurd h (by decide)⟩
  · exact ⟨_, create_componentKind path, rfl, fun h => absurd h (by decide)⟩
  · exact ⟨_, create_genericKind path, rfl, fun _ => rfl⟩

/-- Each kind is that of some language. -/
theorem exists_kindFor_of_mem_kinds {kind : String} (h : kind ∈ FrontEnd.kinds) :
    ∃ language, FrontEnd.kindFor language = kind := by
  simp only [FrontEnd.kinds, List.mem_cons, List.not_mem_nil, or_false] at h
  rcases h with rfl | rfl | rfl
  · exact ⟨"typescript", rfl⟩
  · exact ⟨"vue", rfl⟩
  · exact ⟨"python", rfl⟩

/-- No path has the key of the empty path. -/
theorem poolKey_getD (kind : String) (path : Option String) :
    poolKey kind (some (path.getD "")) = poolKey kind path := by
  cases path with
  | none => simp [poolKey]
  | some path => rfl

/-- What is made without a path is what is made for the empty one. -/
theorem newFrontEnd_of_create {kind : String} {path : Option String} {frontEnd : FrontEnd}
    (h : FrontEnd.create kind path = .ok frontEnd) :
    Chunker.newFrontEnd kind (path.getD "") = frontEnd := by
  have hsome : FrontEnd.create kind (some (path.getD "")) = FrontEnd.create kind path := by
    cases path with
    | none => rfl
    | some path => rfl
  rw [Chunker.newFrontEnd, hsome, h]
  rfl

/-- What is made for one kind and path is what is made for another with the same key. -/
theorem create_eq_of_poolKey_eq {kind other : String} {path otherPath : Option String}
    {frontEnd : FrontEnd} (hkind : kind ∈ FrontEnd.kinds)
    (hkey : poolKey kind path = poolKey other otherPath)
    (hother : FrontEnd.create other otherPath = .ok frontEnd) :
    FrontEnd.create kind path = .ok frontEnd := by
  obtain ⟨made, hmade, _⟩ := exists_create_of_mem_kinds hkind path
  obtain ⟨language, rfl⟩ := exists_kindFor_of_mem_kinds hkind
  obtain ⟨otherLanguage, rfl⟩ := exists_kindFor_of_mem_kinds (mem_kinds_of_create hother)
  rw [← poolKey_getD, ← poolKey_getD (FrontEnd.kindFor otherLanguage)] at hkey
  have hsame : made = frontEnd := by
    rw [← newFrontEnd_of_create hmade, newFrontEnd_eq_of_poolKey_eq hkey,
      newFrontEnd_of_create hother]
  rw [hmade, hsame]

end ChunkGraph
