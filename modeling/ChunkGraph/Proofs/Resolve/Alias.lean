import ChunkGraph.Proofs.Data.Keyed
import ChunkGraph.Resolve.Alias
import Mathlib.Data.List.Count

/-!
# What the aliases make of a specifier

The pattern of an alias is read back as what the alias says: a star is a group that
takes anything, and every other character stands for itself, whatever it means
elsewhere in patterns. With one star the group takes what is left of a specifier
between the text in front of the star and the text behind it, so there is no
choice in it.

Hence the module paths of a specifier are known alias by alias: the targets of each
alias of whose form it is, with what the star takes in place of their stars, below
the base directory and in normal form.

## Main definitions

* `aliasParts` — what an alias says.
* `Fits` — a specifier is of the form of an alias.
* `Expands` — the module paths of a specifier, alias by alias.

## Main results

* `readPattern?_patternText` — the pattern of an alias means what the alias says.
* `taken?_eq_some_iff` — what the star takes.
* `Aliases.candidates_eq_iff` — the module paths of a specifier.
-/

namespace ChunkGraph.Resolve

/-! ## The pattern of an alias -/

/-- The pieces of an alias. -/
def aliasParts (aliasText : List Char) : List AliasPart :=
  aliasText.map fun c => if c = '*' then .anything else .exactly c

/-- A character of an alias, as it is written in its pattern. -/
def inPattern (c : Char) : List Char :=
  if c = '*' then ['(', '.', '*', ')'] else if escapedChars.contains c then ['\\', c] else [c]

theorem groupStars_cons {c : Char} {rest : List Char} (h : rest.head? ≠ some '*') :
    groupStars (c :: rest) = c :: groupStars rest := by
  cases rest with
  | nil => simp [groupStars]
  | cons d rest =>
      have hd : d ≠ '*' := fun hd => h (congrArg some hd)
      rw [groupStars]
      intro more hslash hstar
      exact hd (List.cons.inj hstar).1

theorem escape_cons (c : Char) (rest : List Char) :
    escape (c :: rest) = (if escapedChars.contains c then ['\\', c] else [c]) ++ escape rest :=
  List.flatMap_cons

/-- A star is escaped, and so never stands first. -/
theorem head?_escape_ne (text : List Char) : (escape text).head? ≠ some '*' := by
  cases text with
  | nil => simp [escape]
  | cons c rest =>
      rw [escape_cons]
      split
      · simp
      · rename_i hplain
        intro hstar
        obtain rfl : c = '*' := by simpa using hstar
        exact hplain (by decide)

theorem groupStars_escape (text : List Char) :
    groupStars (escape text) = text.flatMap inPattern := by
  induction text with
  | nil => rfl
  | cons c rest ih =>
      have hhead := head?_escape_ne rest
      rw [escape_cons, List.flatMap_cons, inPattern, ← ih]
      by_cases hstar : c = '*'
      · subst hstar
        rw [if_pos rfl, if_pos (by decide)]
        rfl
      · rw [if_neg hstar]
        split
        · show groupStars ('\\' :: c :: escape rest) = '\\' :: c :: groupStars (escape rest)
          rw [groupStars_cons (by simpa using hstar), groupStars_cons hhead]
        · exact groupStars_cons hhead

theorem not_alphanumeric_of_escaped {c : Char} (h : escapedChars.contains c = true) :
    (Text.isAsciiLetter c || Text.isAsciiDigit c) = false := by
  have hall : ∀ d ∈ escapedChars, (Text.isAsciiLetter d || Text.isAsciiDigit d) = false :=
    List.forall_iff_forall_mem.mp (by decide)
  exact hall c (List.contains_iff_mem.mp h)

/-- Everything that means something in a pattern is escaped. -/
theorem escaped_of_meta {c : Char} (h : c ∈ metaChars) : escapedChars.contains c = true := by
  have hall : ∀ d ∈ metaChars, escapedChars.contains d = true :=
    List.all_eq_true.mp (by decide)
  exact hall c h

theorem readPieces?_inPattern (c : Char) (rest : List Char) :
    readPieces? (inPattern c ++ rest) =
      (readPieces? rest).map ((if c = '*' then .anything else .exactly c) :: ·) := by
  unfold inPattern
  by_cases hstar : c = '*'
  · rw [if_pos hstar, if_pos hstar]
    rfl
  · rw [if_neg hstar, if_neg hstar]
    split
    · rename_i hescaped
      show readPieces? ('\\' :: c :: rest) = _
      rw [readPieces?, not_alphanumeric_of_escaped hescaped, if_neg Bool.false_ne_true]
    · rename_i hplain
      have hmeta : ∀ d ∈ metaChars, c ≠ d := by
        rintro d hd rfl
        exact hplain (escaped_of_meta hd)
      have hnone : ¬metaChars.contains c = true :=
        fun hmem => hmeta c (List.contains_iff_mem.mp hmem) rfl
      rw [List.singleton_append, readPieces?, if_neg hnone]
      · intro hend
        exact (hmeta '$' (by decide) hend).elim
      · intro more hopen
        exact (hmeta '(' (by decide) hopen).elim
      · intro d more hslash
        exact (hmeta '\\' (by decide) hslash).elim

/-- The pattern of an alias means what the alias says. -/
theorem readPattern?_patternText (aliasText : List Char) :
    readPattern? (patternText aliasText) = some (aliasParts aliasText) := by
  have hpieces : readPieces? (aliasText.flatMap inPattern ++ ['$']) =
      some (aliasParts aliasText) := by
    induction aliasText with
    | nil => rfl
    | cons c rest ih =>
        rw [List.flatMap_cons, List.append_assoc, readPieces?_inPattern, ih]
        rfl
  rw [patternText, readPattern?, groupStars_escape, hpieces]

example : patternText "a.b/*".toList = "^a\\.b/(.*)$".toList := by decide

theorem taken?_eq_wildcard? (aliasText specifier : List Char) :
    taken? aliasText specifier = wildcard? (aliasParts aliasText) specifier := by
  rw [taken?, readPattern?_patternText, Option.bind_some]

/-! ## What a star takes -/

/-- A specifier is of the form of an alias, whose star takes the part `taken` of it. -/
inductive Fits : (aliasText specifier taken : List Char) → Prop
  /-- The star takes what is left between the text in front of it and the text behind it. -/
  | star {front back : List Char} (taken : List Char) (hfront : '*' ∉ front) (hback : '*' ∉ back) :
      Fits (front ++ '*' :: back) (front ++ taken ++ back) taken
  /-- Without a star the specifier is the alias. -/
  | same {text : List Char} (hstar : '*' ∉ text) : Fits text text []

section Line

variable {specifier : List Char} (hline : '\n' ∉ specifier)

include hline

theorem matchesParts_exactly {text : List Char} :
    matchesParts (text.map .exactly) specifier = true ↔ specifier = text := by
  induction text generalizing specifier with
  | nil =>
      have hfeed : specifier ≠ ['\n'] := by
        rintro rfl
        exact hline List.mem_cons_self
      simp [matchesParts, hfeed]
  | cons c text ih =>
      cases specifier with
      | nil => simp [matchesParts]
      | cons d specifier =>
          rw [List.mem_cons, not_or] at hline
          rw [List.map_cons, matchesParts, Bool.and_eq_true, ih hline.2, beq_iff_eq,
            List.cons.injEq, eq_comm]

/-- The text behind a star fixes what the star takes: there is no longer and no shorter part. -/
theorem longestTaken?_exactly {text taken : List Char} :
    longestTaken? (text.map .exactly) specifier = some taken ↔ specifier = taken ++ text := by
  induction specifier generalizing taken with
  | nil =>
      have hmatch := @matchesParts_exactly _ hline text
      rw [longestTaken?]
      by_cases htext : [] = text
      · rw [if_pos (hmatch.mpr htext), ← htext, List.append_nil, Option.some.injEq]
      · rw [if_neg (mt hmatch.mp htext)]
        refine ⟨fun h => absurd h (by simp), fun h => ?_⟩
        exact absurd (List.append_eq_nil_iff.mp h.symm).2.symm htext
  | cons c specifier ih =>
      have hmatch := @matchesParts_exactly _ hline text
      rw [List.mem_cons, not_or] at hline
      have hc : (c == '\n') = false := beq_eq_false_iff_ne.mpr (Ne.symm hline.1)
      rw [longestTaken?, hc, if_neg Bool.false_ne_true]
      cases hrest : longestTaken? (text.map .exactly) specifier with
      | some rest =>
          obtain rfl := (ih hline.2).mp hrest
          rw [Option.some.injEq, ← List.cons_append, List.append_left_inj]
      | none =>
          have hnone : ∀ rest, specifier ≠ rest ++ text := by
            intro rest hsplit
            have hsome := (ih hline.2).mpr hsplit
            rw [hrest] at hsome
            exact absurd hsome (by simp)
          by_cases hsame : c :: specifier = text
          · dsimp only
            rw [if_pos (hmatch.mpr hsame), hsame, Option.some.injEq, eq_comm,
              List.self_eq_append_left]
          · dsimp only
            rw [if_neg (mt hmatch.mp hsame)]
            refine ⟨fun h => absurd h (by simp), fun hsplit => ?_⟩
            cases taken with
            | nil => exact absurd hsplit hsame
            | cons d taken => exact absurd (List.cons.inj hsplit).2 (hnone taken)

end Line

theorem wildcard?_exactly_append (front : List Char) (parts : List AliasPart)
    (specifier : List Char) :
    wildcard? (front.map .exactly ++ parts) specifier =
      (Text.dropFront? front specifier).bind (wildcard? parts) := by
  induction front generalizing specifier with
  | nil => rw [Text.dropFront?_nil, Option.bind_some]; rfl
  | cons c front ih =>
      cases specifier with
      | nil => rfl
      | cons d specifier =>
          rw [List.map_cons, List.cons_append, wildcard?, Text.dropFront?, ih]
          split <;> rfl

theorem aliasParts_of_not_mem {text : List Char} (h : '*' ∉ text) :
    aliasParts text = text.map .exactly := by
  unfold aliasParts
  refine List.map_congr_left fun c hc => if_neg ?_
  rintro rfl
  exact h hc

theorem aliasParts_append_star {front back : List Char} (hfront : '*' ∉ front)
    (hback : '*' ∉ back) :
    aliasParts (front ++ '*' :: back) =
      front.map .exactly ++ .anything :: back.map .exactly := by
  rw [← aliasParts_of_not_mem hfront, ← aliasParts_of_not_mem hback]
  unfold aliasParts
  rw [List.map_append, List.map_cons, if_pos rfl]

/-- A text with at most one star has none, or stands on both sides of it. -/
theorem star_cases {aliasText : List Char} (h : aliasText.count '*' ≤ 1) :
    '*' ∉ aliasText ∨
      ∃ front back, aliasText = front ++ '*' :: back ∧ '*' ∉ front ∧ '*' ∉ back := by
  by_cases hstar : '*' ∈ aliasText
  · obtain ⟨front, back, rfl⟩ := List.append_of_mem hstar
    rw [List.count_append, List.count_cons_self] at h
    have hfront : front.count '*' = 0 := by omega
    have hback : back.count '*' = 0 := by omega
    exact Or.inr ⟨front, back, rfl, List.count_eq_zero.mp hfront, List.count_eq_zero.mp hback⟩
  · exact Or.inl hstar

theorem Fits.of_not_mem {aliasText specifier taken : List Char} (h : Fits aliasText specifier taken)
    (hstar : '*' ∉ aliasText) : specifier = aliasText ∧ taken = [] := by
  cases h with
  | star => exact absurd (List.mem_append_right _ List.mem_cons_self) hstar
  | same => exact ⟨rfl, rfl⟩

/-- The texts on both sides of a star are those of the alias. -/
theorem Fits.of_star {front back specifier taken : List Char}
    (h : Fits (front ++ '*' :: back) specifier taken) (hfront : '*' ∉ front) (hback : '*' ∉ back) :
    specifier = front ++ taken ++ back := by
  generalize hwhole : front ++ '*' :: back = aliasText at h
  cases h with
  | @star front' back' taken hfront' hback' =>
      obtain ⟨rfl, -, rfl⟩ := (List.append_cons_inj_of_notMem hfront hback).mp hwhole
      rfl
  | same hstar =>
      rw [← hwhole] at hstar
      exact absurd (List.mem_append_right _ List.mem_cons_self) hstar

/-- An alias with at most one star takes a part of a specifier exactly if the specifier is of its
form with this part. -/
theorem taken?_eq_some_iff {aliasText specifier taken : List Char}
    (hstars : aliasText.count '*' ≤ 1) (hline : '\n' ∉ specifier) :
    taken? aliasText specifier = some taken ↔ Fits aliasText specifier taken := by
  rw [taken?_eq_wildcard?]
  rcases star_cases hstars with hstar | ⟨front, back, rfl, hfront, hback⟩
  · have hparts : aliasParts aliasText = aliasText.map .exactly ++ [] := by
      rw [aliasParts_of_not_mem hstar, List.append_nil]
    rw [hparts, wildcard?_exactly_append, Option.bind_eq_some_iff]
    constructor
    · rintro ⟨rest, hrest, htaken⟩
      obtain rfl := Text.dropFront?_eq_some_iff.mp hrest
      rw [List.mem_append, not_or] at hline
      rw [wildcard?] at htaken
      split at htaken
      · rename_i hmatch
        obtain rfl : rest = [] := (matchesParts_exactly hline.2).mp hmatch
        obtain rfl : [] = taken := Option.some.inj htaken
        rw [List.append_nil]
        exact .same hstar
      · exact absurd htaken (by simp)
    · intro h
      obtain ⟨rfl, rfl⟩ := h.of_not_mem hstar
      refine ⟨[], Text.dropFront?_eq_some_iff.mpr (List.append_nil _).symm, ?_⟩
      simp [wildcard?, matchesParts]
  · rw [aliasParts_append_star hfront hback, wildcard?_exactly_append, Option.bind_eq_some_iff]
    constructor
    · rintro ⟨rest, hrest, htaken⟩
      obtain rfl := Text.dropFront?_eq_some_iff.mp hrest
      rw [List.mem_append, not_or] at hline
      rw [wildcard?, longestTaken?_exactly hline.2] at htaken
      rw [htaken, ← List.append_assoc]
      exact .star taken hfront hback
    · intro h
      obtain rfl := h.of_star hfront hback
      rw [List.append_assoc] at hline ⊢
      refine ⟨taken ++ back, Text.dropFront?_eq_some_iff.mpr rfl, ?_⟩
      rw [List.mem_append, not_or] at hline
      rw [wildcard?, longestTaken?_exactly hline.2]

/-! ## The module paths of a specifier -/

/-- The directory that targets are relative to; nothing given is the directory of the file. -/
def targetBase (base : String) : String := if base = "" then "." else Path.normalize base

/-- The module path of a target where a star has taken a part of a specifier. -/
def modulePath (base : String) (taken : List Char) (target : String) : String :=
  Path.normalize (String.ofList
    (Path.joinText (targetBase base).toList (Text.substitute '*' taken target.toList)))

/-- The module paths that a specifier may mean, alias by alias. -/
inductive Expands (base specifier : String) :
    List (String × List String) → List String → Prop
  /-- Without aliases there are none. -/
  | nil : Expands base specifier [] []
  /-- The targets of an alias of whose form the specifier is. -/
  | fits {name : String} {targets : List String} {entries : List (String × List String)}
      {found : List String} (taken : List Char)
      (form : Fits name.toList specifier.toList taken)
      (rest : Expands base specifier entries found) :
      Expands base specifier ((name, targets) :: entries)
        (targets.map (modulePath base taken) ++ found)
  /-- An alias of another form adds nothing. -/
  | other {name : String} {targets : List String} {entries : List (String × List String)}
      {found : List String} (form : ∀ taken, ¬Fits name.toList specifier.toList taken)
      (rest : Expands base specifier entries found) :
      Expands base specifier ((name, targets) :: entries) found

theorem Fits.unique {aliasText specifier taken taken' : List Char}
    (h : Fits aliasText specifier taken) (h' : Fits aliasText specifier taken') :
    taken = taken' := by
  cases h with
  | star taken hfront hback =>
      have hsame := h'.of_star hfront hback
      rw [List.append_left_inj, List.append_right_inj] at hsame
      exact hsame
  | same hstar => exact (h'.of_not_mem hstar).2.symm

namespace Aliases

theorem expand_eq_modulePath (base : String) (entries : List (String × List String))
    (taken : List Char) :
    expand { base := targetBase base, entries := entries } taken = modulePath base taken := by
  funext target
  rw [expand, modulePath, Path.normalize, String.toList_ofList]

section Cons

variable {base specifier name : String} {targets : List String}
  {entries : List (String × List String)}

theorem candidates_cons_of_taken {taken : List Char}
    (h : taken? name.toList specifier.toList = some taken) :
    candidates { base := targetBase base, entries := (name, targets) :: entries } specifier =
      targets.map (modulePath base taken) ++
        candidates { base := targetBase base, entries := entries } specifier := by
  unfold candidates
  rw [List.flatMap_cons]
  dsimp only
  rw [h, ← expand_eq_modulePath base entries]
  rfl

theorem candidates_cons_of_none (h : taken? name.toList specifier.toList = none) :
    candidates { base := targetBase base, entries := (name, targets) :: entries } specifier =
      candidates { base := targetBase base, entries := entries } specifier := by
  unfold candidates
  rw [List.flatMap_cons]
  dsimp only
  rw [h]
  rfl

end Cons

theorem ofEntries_of_nodup {entries : List (String × List String)}
    (h : (entries.map (·.1)).Nodup) (base : String) :
    ofEntries base entries = { base := targetBase base, entries := entries } := by
  have hbase : (ofEntries base entries).base = targetBase base := by simp [ofEntries, targetBase]
  have hentries : (ofEntries base entries).entries = entries := Keyed.foldl_put_of_nodup h
  exact Aliases.mk.injEq .. |>.mpr ⟨hbase, hentries, rfl⟩

end Aliases

theorem expands_iff {base specifier : String} {entries : List (String × List String)}
    {found : List String} (hstars : ∀ entry ∈ entries, entry.1.toList.count '*' ≤ 1)
    (hline : '\n' ∉ specifier.toList) :
    Expands base specifier entries found ↔
      Aliases.candidates { base := targetBase base, entries := entries } specifier = found := by
  induction entries generalizing found with
  | nil =>
      constructor
      · rintro ⟨⟩
        rfl
      · rintro rfl
        exact .nil
  | cons entry entries ih =>
      obtain ⟨name, targets⟩ := entry
      obtain ⟨hstar, hmore⟩ := List.forall_mem_cons.mp hstars
      have hform : ∀ taken, taken? name.toList specifier.toList = some taken ↔
          Fits name.toList specifier.toList taken := fun _ => taken?_eq_some_iff hstar hline
      constructor
      · intro h
        cases h with
        | fits taken form rest =>
            rw [Aliases.candidates_cons_of_taken ((hform taken).mpr form), (ih hmore).mp rest]
        | other form rest =>
            have hnone : taken? name.toList specifier.toList = none := by
              rw [Option.eq_none_iff_forall_ne_some]
              exact fun taken hsome => form taken ((hform taken).mp hsome)
            rw [Aliases.candidates_cons_of_none hnone, (ih hmore).mp rest]
      · rintro rfl
        cases htaken : taken? name.toList specifier.toList with
        | some taken =>
            rw [Aliases.candidates_cons_of_taken htaken]
            exact .fits taken ((hform taken).mp htaken) ((ih hmore).mpr rfl)
        | none =>
            rw [Aliases.candidates_cons_of_none htaken]
            refine .other (fun taken form => ?_) ((ih hmore).mpr rfl)
            rw [(hform taken).mpr form] at htaken
            exact absurd htaken (by simp)

/-- The module paths of a specifier are those of the aliases of whose form it is, in the order of
the table, and of their targets in turn. -/
theorem Aliases.candidates_eq_iff {base specifier : String}
    {entries : List (String × List String)} (hnames : (entries.map (·.1)).Nodup)
    (hstars : ∀ entry ∈ entries, entry.1.toList.count '*' ≤ 1)
    (hline : '\n' ∉ specifier.toList) :
    (∀ found, (Aliases.ofEntries base entries).candidates specifier = found ↔
      Expands base specifier entries found) ∧
    ∀ entry ∈ entries, ∀ taken taken', Fits entry.1.toList specifier.toList taken →
      Fits entry.1.toList specifier.toList taken' → taken = taken' := by
  refine ⟨fun found => ?_, fun _ _ _ _ => Fits.unique⟩
  rw [expands_iff hstars hline, Aliases.ofEntries_of_nodup hnames]

/-- Aliases of two forms, the second with a dot that would mean something in a pattern. -/
def twoForms : List (String × List String) :=
  [("@/*", ["src/*", "lib/*/*"]), ("@.x", ["vendor"])]

theorem Aliases.candidates_eq_iff_two_forms :
    (twoForms.map (·.1)).Nodup ∧ (∀ entry ∈ twoForms, entry.1.toList.count '*' ≤ 1) ∧
      '\n' ∉ "@/x".toList ∧
      (Aliases.ofEntries "" twoForms).candidates "@/x" = ["src/x", "lib/x/x"] := by
  have hnames : (twoForms.map (·.1)).Nodup := by decide
  have hstars : ∀ entry ∈ twoForms, entry.1.toList.count '*' ≤ 1 := by decide
  have hline : '\n' ∉ "@/x".toList := by decide
  have hstar : Fits "@/*".toList "@/x".toList ['x'] :=
    @Fits.star ['@', '/'] [] ['x'] (by decide) (by decide)
  have hdot : ∀ taken, ¬Fits "@.x".toList "@/x".toList taken := by
    intro taken h
    exact absurd (h.of_not_mem (by decide)).1 (by decide)
  have hexpands : Expands "" "@/x" twoForms
      (["src/*", "lib/*/*"].map (modulePath "" ['x']) ++ []) :=
    .fits ['x'] hstar (.other hdot .nil)
  refine ⟨hnames, hstars, hline, ?_⟩
  rw [((candidates_eq_iff hnames hstars hline).1 _).mpr hexpands]
  decide +kernel

end ChunkGraph.Resolve
