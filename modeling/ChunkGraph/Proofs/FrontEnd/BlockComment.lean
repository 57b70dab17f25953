import ChunkGraph.FrontEnd.DocComment
import ChunkGraph.Proofs.Text.Lines
import ChunkGraph.Proofs.Text.Search
import ChunkGraph.Proofs.Text.Utf8

/-!
# Which block comment documents a declaration

A block comment is opened by `/**` and closed by `*/`. The comments of a text
are found from left to right: the first begins as early as one can and is as
short as it can be from there, and the next is looked for behind it.

The last comment of the text before a declaration documents it exactly if it
adjoins the declaration: nothing but modifiers stands in between, no line is left
blank there, and there are at most two line feeds. The score of a comment is at
least the threshold for every wording and every name once it is near enough, so
neither has a say in this.

## Main definitions

* `IsBlock`, `FirstBlock`, `LastBlock` — block comments, and the first and last
  one of a text.
* `Adjoins` — what may stand between a comment and what it documents.

## Main results

* `getLast?_blocks_iff` — the last comment that is found.
* `threshold_le_score_iff` — when the score of a comment suffices.
* `adjoining_comment_documents` — which comment documents a declaration.
-/

namespace ChunkGraph.DocComment

open ChunkGraph.Syntax

/-! ## Block comments of a text -/

/-- A block comment: opened by `/**` and closed by `*/`. -/
def IsBlock (text : List Char) : Prop := ∃ body, text = '/' :: '*' :: '*' :: (body ++ ['*', '/'])

/-- The first block comment of a text, with what follows it: none begins earlier, and none that
begins there is shorter. -/
structure FirstBlock (text comment rest : List Char) : Prop where
  /-- It is a block comment. -/
  isBlock : IsBlock comment
  /-- It stands in the text, as far to the left and as short as it can be. -/
  leftmost : ∃ front, text = front ++ comment ++ rest ∧
    ∀ front' comment' rest', text = front' ++ comment' ++ rest' → IsBlock comment' →
      front.length ≤ front'.length ∧
        (front'.length = front.length → comment.length ≤ comment'.length)

/-- The last of the block comments of a text, with what follows it, when each is looked for behind
the one before it. -/
inductive LastBlock : List Char → List Char → List Char → Prop
  /-- Behind the first one there is none. -/
  | only {text comment rest : List Char} (first : FirstBlock text comment rest)
      (none : ∀ other, IsBlock other → ¬other <:+: rest) : LastBlock text comment rest
  /-- It is the last one behind the first one. -/
  | later {text comment rest firstComment behind : List Char}
      (first : FirstBlock text firstComment behind) (last : LastBlock behind comment rest) :
      LastBlock text comment rest

theorem IsBlock.length_pos {text : List Char} (h : IsBlock text) : 0 < text.length := by
  obtain ⟨body, rfl⟩ := h
  simp

/-- A comment is closed by the first `*/` behind its opening. -/
theorem untilClosed_eq_some {done text closed rest : List Char}
    (h : untilClosed done text = some (closed, rest)) :
    ∃ body, text = body ++ '*' :: '/' :: rest ∧ closed = '/' :: '*' :: (body.reverse ++ done) ∧
      ∀ body' rest', text = body' ++ '*' :: '/' :: rest' → body.length ≤ body'.length := by
  fun_induction untilClosed done text with
  | case1 => exact absurd h (by simp)
  | case2 done behind =>
      obtain ⟨rfl, rfl⟩ := Prod.mk.inj (Option.some.inj h)
      exact ⟨[], rfl, rfl, fun _ _ _ => Nat.zero_le _⟩
  | case3 done c behind hopen ih =>
      obtain ⟨body, rfl, rfl, hshort⟩ := ih h
      refine ⟨c :: body, rfl, by simp, fun body' rest' hother => ?_⟩
      cases body' with
      | nil =>
          obtain ⟨hstar, hslash⟩ := List.cons.inj hother
          exact (hopen rest' hstar hslash).elim
      | cons d body' =>
          have hle := hshort body' rest' (List.cons.inj hother).2
          simpa using hle

/-- Without a closing `*/` no comment is closed. -/
theorem untilClosed_eq_none {done text : List Char} (h : untilClosed done text = none)
    (body rest : List Char) : text ≠ body ++ '*' :: '/' :: rest := by
  fun_induction untilClosed done text generalizing body with
  | case1 => simp
  | case2 => exact absurd h (by simp)
  | case3 done c behind hopen ih =>
      intro htext
      cases body with
      | nil =>
          obtain ⟨hstar, hslash⟩ := List.cons.inj htext
          exact hopen rest hstar hslash
      | cons d body => exact ih h body (List.cons.inj htext).2

/-- A comment that stands in front of a text is one behind its opening. -/
theorem exists_body {text comment rest : List Char} (htext : text = comment ++ rest)
    (hblock : IsBlock comment) :
    ∃ body, comment.length = body.length + 5 ∧
      text = '/' :: '*' :: '*' :: (body ++ '*' :: '/' :: rest) := by
  obtain ⟨body, rfl⟩ := hblock
  exact ⟨body, by simp, by simp [htext]⟩

/-- The comment that a text begins with is as short as it can be. -/
theorem blockAt?_eq_some {text comment rest : List Char}
    (h : blockAt? text = some (comment, rest)) :
    IsBlock comment ∧ text = comment ++ rest ∧
      ∀ comment' rest', text = comment' ++ rest' → IsBlock comment' →
        comment.length ≤ comment'.length := by
  unfold blockAt? at h
  split at h
  · rename_i inner
    obtain ⟨⟨closed, behind⟩, hclosed, hpair⟩ := Option.map_eq_some_iff.mp h
    obtain ⟨rfl, rfl⟩ := Prod.mk.inj hpair
    obtain ⟨body, rfl, rfl, hshort⟩ := untilClosed_eq_some hclosed
    refine ⟨⟨body, by simp⟩, by simp, fun comment' rest' htext hblock => ?_⟩
    obtain ⟨body', hlength, hother⟩ := exists_body htext hblock
    have hle := hshort body' rest' (by simpa using hother)
    have hcomment : ('/' :: '*' :: (body.reverse ++ ['*', '*', '/'])).reverse.length =
        body.length + 5 := by simp
    omega
  · exact absurd h (by simp)

/-- A text that begins with no comment that is found begins with none. -/
theorem not_isBlock_of_blockAt?_eq_none {text comment rest : List Char}
    (h : blockAt? text = none) (htext : text = comment ++ rest) : ¬IsBlock comment := by
  intro hblock
  obtain ⟨body, -, hopen⟩ := exists_body htext hblock
  rw [hopen] at h
  exact untilClosed_eq_none (Option.map_eq_none_iff.mp h) body rest rfl

/-! ## Looking behind a comment -/

theorem blocksWithin_nil (fuel : Nat) : blocksWithin fuel [] = [] := by
  cases fuel <;> rfl

theorem length_lt_of_blockAt? {text comment rest : List Char}
    (h : blockAt? text = some (comment, rest)) : rest.length < text.length := by
  obtain ⟨hblock, rfl, -⟩ := blockAt?_eq_some h
  have hpos := hblock.length_pos
  rw [List.length_append]
  omega

/-- As many steps as a text has characters suffice. -/
theorem blocksWithin_congr {fuel more : Nat} {text : List Char} (hfuel : text.length ≤ fuel)
    (hmore : text.length ≤ more) : blocksWithin fuel text = blocksWithin more text := by
  induction fuel generalizing more text with
  | zero =>
      obtain rfl := List.eq_nil_of_length_eq_zero (Nat.le_zero.mp hfuel)
      rw [blocksWithin_nil, blocksWithin_nil]
  | succ fuel ih =>
      cases text with
      | nil => rw [blocksWithin_nil, blocksWithin_nil]
      | cons c text =>
          rw [List.length_cons] at hfuel hmore
          obtain ⟨more, rfl⟩ : ∃ n, more = n + 1 := Nat.exists_eq_succ_of_ne_zero (by omega)
          rw [blocksWithin, blocksWithin]
          cases hblock : blockAt? (c :: text) with
          | none => exact ih (by omega) (by omega)
          | some found =>
              have hlt := length_lt_of_blockAt? hblock
              rw [List.length_cons] at hlt
              exact congrArg (found :: ·) (ih (by omega) (by omega))

theorem blocks_of_blockAt? {text comment rest : List Char}
    (h : blockAt? text = some (comment, rest)) : blocks text = (comment, rest) :: blocks rest := by
  have hlt := length_lt_of_blockAt? h
  cases text with
  | nil => exact absurd hlt (Nat.not_lt_zero _)
  | cons c text =>
      rw [List.length_cons] at hlt
      unfold blocks
      rw [List.length_cons, blocksWithin, h]
      exact congrArg ((comment, rest) :: ·) (blocksWithin_congr (by omega) (Nat.le_refl _))

theorem blocks_cons_of_blockAt? {c : Char} {text : List Char} (h : blockAt? (c :: text) = none) :
    blocks (c :: text) = blocks text := by
  unfold blocks
  rw [List.length_cons, blocksWithin, h]

namespace FirstBlock

variable {text comment rest : List Char}

theorem of_blockAt? (h : blockAt? text = some (comment, rest)) : FirstBlock text comment rest := by
  obtain ⟨hblock, htext, hshort⟩ := blockAt?_eq_some h
  refine ⟨hblock, [], htext, fun front' comment' rest' hother hblock' => ⟨Nat.zero_le _, ?_⟩⟩
  intro hlength
  obtain rfl := List.eq_nil_of_length_eq_zero hlength
  exact hshort comment' rest' hother hblock'

/-- The first comment of a text is that behind a character at which none begins. -/
theorem cons {c : Char} (h : FirstBlock text comment rest) (hnone : blockAt? (c :: text) = none) :
    FirstBlock (c :: text) comment rest := by
  obtain ⟨hblock, front, rfl, hleft⟩ := h
  refine ⟨hblock, c :: front, rfl, fun front' comment' rest' hother hblock' => ?_⟩
  cases front' with
  | nil => exact absurd hblock' (not_isBlock_of_blockAt?_eq_none hnone hother)
  | cons d front' =>
      obtain ⟨hle, hshort⟩ := hleft front' comment' rest' (List.cons.inj hother).2 hblock'
      refine ⟨by simpa using hle, fun hlength => hshort ?_⟩
      simpa using hlength

theorem length_lt (h : FirstBlock text comment rest) : rest.length < text.length := by
  obtain ⟨hblock, front, rfl, -⟩ := h
  have hpos := hblock.length_pos
  rw [List.length_append, List.length_append]
  omega

/-- A text has one first comment. -/
theorem unique {comment' rest' : List Char} (h : FirstBlock text comment rest)
    (h' : FirstBlock text comment' rest') : comment = comment' ∧ rest = rest' := by
  obtain ⟨hblock, front, htext, hleft⟩ := h
  obtain ⟨hblock', front', htext', hleft'⟩ := h'
  obtain ⟨hle, hshort⟩ := hleft front' comment' rest' htext' hblock'
  obtain ⟨hle', hshort'⟩ := hleft' front comment rest htext hblock
  have hfront : front.length = front'.length := by omega
  have hcomment : comment.length = comment'.length := by
    have := hshort hfront.symm
    have := hshort' hfront
    omega
  have hsame := htext.symm.trans htext'
  rw [List.append_assoc, List.append_assoc] at hsame
  exact List.append_inj (List.append_inj hsame hfront).2 hcomment

end FirstBlock

/-- A text has no comments, or a first one and those behind it. -/
theorem blocks_cases (text : List Char) :
    (blocks text = [] ∧ ∀ comment, IsBlock comment → ¬comment <:+: text) ∨
      ∃ comment rest, FirstBlock text comment rest ∧
        blocks text = (comment, rest) :: blocks rest := by
  induction text with
  | nil =>
      refine Or.inl ⟨rfl, fun comment hblock hpart => ?_⟩
      have hpos := hblock.length_pos
      rw [List.infix_nil.mp hpart] at hpos
      exact absurd hpos (by decide)
  | cons c text ih =>
      cases hblock : blockAt? (c :: text) with
      | some found => exact Or.inr ⟨_, _, FirstBlock.of_blockAt? hblock, blocks_of_blockAt? hblock⟩
      | none =>
          rw [blocks_cons_of_blockAt? hblock]
          rcases ih with ⟨hnil, hnone⟩ | ⟨comment, rest, hfirst, hblocks⟩
          · refine Or.inl ⟨hnil, fun comment hcomment hpart => ?_⟩
            rcases List.infix_cons_iff.mp hpart with ⟨behind, hbehind⟩ | hpart
            · exact not_isBlock_of_blockAt?_eq_none hblock hbehind.symm hcomment
            · exact hnone comment hcomment hpart
          · exact Or.inr ⟨comment, rest, hfirst.cons hblock, hblocks⟩

theorem FirstBlock.blocks_eq {text comment rest : List Char} (h : FirstBlock text comment rest) :
    blocks text = (comment, rest) :: blocks rest := by
  rcases blocks_cases text with ⟨-, hnone⟩ | ⟨comment', rest', hfirst, hblocks⟩
  · obtain ⟨front, htext, -⟩ := h.leftmost
    exact absurd ⟨front, rest, htext.symm⟩ (hnone comment h.isBlock)
  · obtain ⟨rfl, rfl⟩ := h.unique hfirst
    exact hblocks

/-- The last comment that is found is the last one of the text. -/
theorem getLast?_blocks_iff {text comment rest : List Char} :
    (blocks text).getLast? = some (comment, rest) ↔ LastBlock text comment rest := by
  constructor
  · intro h
    induction hlength : text.length using Nat.strong_induction_on generalizing text with
    | h n ih =>
        subst hlength
        rcases blocks_cases text with ⟨hnil, -⟩ | ⟨first, behind, hfirst, hblocks⟩
        · rw [hnil] at h
          exact absurd h (by simp)
        · rw [hblocks, List.getLast?_cons] at h
          rcases blocks_cases behind with ⟨hnil, hnone⟩ | ⟨next, tail, hnext, hmore⟩
          · rw [hnil, List.getLast?_nil] at h
            obtain ⟨rfl, rfl⟩ := Prod.mk.inj (Option.some.inj h)
            exact .only hfirst hnone
          · obtain ⟨last, hlast⟩ : ∃ last, (blocks behind).getLast? = some last := by
              rw [hmore, List.getLast?_cons]
              exact ⟨_, rfl⟩
            rw [hlast] at h
            have hsame : (blocks behind).getLast? = some (comment, rest) := hlast.trans h
            exact .later hfirst (ih _ hfirst.length_lt hsame rfl)
  · intro h
    induction h with
    | @only text comment rest hfirst hnone =>
        rcases blocks_cases rest with ⟨hnil, -⟩ | ⟨next, tail, hnext, -⟩
        · rw [hfirst.blocks_eq, hnil]
          rfl
        · obtain ⟨front, htext, -⟩ := hnext.leftmost
          exact absurd ⟨front, tail, htext.symm⟩ (hnone next hnext.isBlock)
    | later hfirst _ ih =>
        rw [hfirst.blocks_eq, List.getLast?_cons, ih]
        rfl

/-- The last comment of a text and what follows it end the text. -/
theorem LastBlock.exists_front {text comment rest : List Char} (h : LastBlock text comment rest) :
    ∃ front, text = front ++ rest := by
  induction h with
  | only hfirst _ =>
      obtain ⟨front, htext, -⟩ := hfirst.leftmost
      exact ⟨_, htext⟩
  | later hfirst _ ih =>
      obtain ⟨front, htext, -⟩ := hfirst.leftmost
      obtain ⟨more, rfl⟩ := ih
      exact ⟨_, htext.trans (List.append_assoc ..).symm⟩

/-! ## Near enough -/

/-- The score of a comment suffices exactly if it is near enough and no line is left blank. -/
theorem threshold_le_score_iff {comment : List Char} {distance : Int} {name : Option (List Char)}
    {blank : Bool} :
    threshold ≤ score comment distance name blank ↔
      0 ≤ distance ∧ distance ≤ maxDistance ∧ blank = false := by
  have hmax : maxDistance = 2 := rfl
  have hthreshold : threshold = 5 := rfl
  unfold score
  split_ifs with hfar
  · -- Nothing else counts for a comment that is too far away.
    have hcases : (distance < 0 ∨ maxDistance < distance) ∨ blank = true := by simpa using hfar
    constructor
    · intro hzero
      omega
    · rintro ⟨hlow, hhigh, rfl⟩
      rcases hcases with (h | h) | h
      · omega
      · omega
      · exact absurd h Bool.false_ne_true
  · -- Closeness alone suffices.
    have hnear : (0 ≤ distance ∧ distance ≤ maxDistance) ∧ blank = false := by simpa using hfar
    have hclose : 5 ≤ 7 - (distance - 1).toNat := by omega
    refine ⟨fun _ => ⟨hnear.1.1, hnear.1.2, hnear.2⟩, fun _ => Nat.le_min.mpr ⟨?_, by decide⟩⟩
    exact hclose.trans ((Nat.le_add_right _ _).trans (Nat.le_add_right _ _))

theorem hasBlankLine_eq_false_iff {text : List Char} :
    hasBlankLine text = false ↔ ¬['\n', '\n'] <:+: text ∧ ¬['\n', '\r', '\n'] <:+: text := by
  unfold hasBlankLine
  rw [Bool.or_eq_false_iff, ← Bool.not_eq_true, ← Bool.not_eq_true, Text.hasPart_iff,
    Text.hasPart_iff]

/-- The row on which a declaration starts is the number of line feeds before it. -/
theorem row_eq_lineFeeds (tree : Tree) (c : Cursor) :
    (tree.pointAt c.node.start).row = Text.lineFeeds (tree.textBefore c) :=
  (Text.Utf8.lineFeeds_decode (tree.source.take c.node.start)).symm

/-! ## The comment of a declaration -/

/-- What may stand between a block comment and what it documents. -/
structure Adjoins (between : List Char) : Prop where
  /-- Only modifiers stand there. -/
  modifiers : ∀ word, Text.IsWord word between → String.ofList word ∈ DocComment.modifiers
  /-- No line is left blank. -/
  no_blank : ¬['\n', '\n'] <:+: between
  /-- No line is left blank where lines end in a carriage return as well. -/
  no_blank_return : ¬['\n', '\r', '\n'] <:+: between
  /-- There are at most two line feeds. -/
  near : between.count '\n' ≤ 2

/-- The three things that are asked about what stands in between. -/
theorem adjoins_iff {between : List Char} :
    Adjoins between ↔
      ((Text.words between).all fun word => modifiers.contains (String.ofList word)) = true ∧
        hasBlankLine between = false ∧ Text.lineFeeds between ≤ 2 := by
  simp only [List.all_eq_true, List.contains_iff_mem, Text.mem_words_iff,
    hasBlankLine_eq_false_iff]
  constructor
  · rintro ⟨hwords, hblank, hreturn, hnear⟩
    exact ⟨hwords, ⟨hblank, hreturn⟩, hnear⟩
  · rintro ⟨hwords, ⟨hblank, hreturn⟩, hnear⟩
    exact ⟨hwords, hblank, hreturn, hnear⟩

/-- The distance from the end of a comment to the declaration is the number of line feeds in
between. -/
theorem row_sub_eq {tree : Tree} {c : Cursor} {front between : List Char}
    (htext : tree.textBefore c = front ++ between) :
    ((tree.pointAt c.node.start).row : Int) -
        Text.lineFeeds ((tree.textBefore c).take ((tree.textBefore c).length - between.length)) =
      Text.lineFeeds between := by
  have hend : (tree.textBefore c).take ((tree.textBefore c).length - between.length) = front := by
    rw [htext, List.length_append, Nat.add_sub_cancel, List.take_left]
  rw [row_eq_lineFeeds, hend, htext, Text.lineFeeds_append]
  omega

/-- The last comment of the text before a declaration is found exactly if it adjoins it. -/
theorem blockComment_eq_some_iff {tree : Tree} {c : Cursor} {name : Option (List Char)}
    {comment : List Char} :
    blockComment tree c name = some comment ↔
      ∃ between, LastBlock (tree.textBefore c) comment between ∧ Adjoins between := by
  unfold blockComment
  simp only [← getLast?_blocks_iff]
  cases hfound : (blocks (tree.textBefore c)).getLast? with
  | none => simp
  | some found =>
      obtain ⟨last, between⟩ := found
      obtain ⟨front, htext⟩ := (getLast?_blocks_iff.mp hfound).exists_front
      have hscore : score last (max (Text.lineFeeds between : Int) 1) name (hasBlankLine between) <
          threshold ↔ ¬(hasBlankLine between = false ∧ Text.lineFeeds between ≤ 2) := by
        have hmax : maxDistance = 2 := rfl
        rw [← Nat.not_le, threshold_le_score_iff, not_iff_not]
        constructor
        · rintro ⟨-, hfar, hblank⟩
          exact ⟨hblank, by omega⟩
        · rintro ⟨hblank, hfar⟩
          exact ⟨by omega, by omega, hblank⟩
      have hsingle : (∃ behind, some (last, between) = some (comment, behind) ∧ Adjoins behind) ↔
          last = comment ∧ Adjoins between := by
        simp
      rw [hsingle, adjoins_iff]
      simp only [row_sub_eq htext, hscore]
      by_cases hwords : ((Text.words between).all fun word =>
          modifiers.contains (String.ofList word)) = true
      · by_cases hnear : hasBlankLine between = false ∧ Text.lineFeeds between ≤ 2
        · simp only [hwords, hnear]
          simp
        · simp only [hwords, hnear]
          simp
      · simp only [hwords]
        simp

/-- The comment that documents a declaration is decided by what adjoins it. It is the last block
comment of the text before the declaration, and it is one exactly if only modifiers stand between
the two, no line is left blank there and there are at most two line feeds. The name of the
declaration does not matter, and neither does the wording of the comment: two comments with the same
text between them and their declarations are both taken, or neither is. -/
theorem adjoining_comment_documents (tree : Tree) (c : Cursor) (name : Option (List Char)) :
    (∀ comment, blockComment tree c name = some comment ↔
      ∃ between, LastBlock (tree.textBefore c) comment between ∧ Adjoins between) ∧
    (∀ other, blockComment tree c name = blockComment tree c other) ∧
    ∀ (tree' : Tree) (c' : Cursor) (name' : Option (List Char)) (comment comment' between),
      LastBlock (tree.textBefore c) comment between →
        LastBlock (tree'.textBefore c') comment' between →
          (blockComment tree c name = some comment ↔
            blockComment tree' c' name' = some comment') := by
  have hunique {tree : Tree} {c : Cursor} {name : Option (List Char)} {comment between : List Char}
      (hlast : LastBlock (tree.textBefore c) comment between) :
      blockComment tree c name = some comment ↔ Adjoins between := by
    rw [blockComment_eq_some_iff]
    refine ⟨?_, fun hadjoins => ⟨between, hlast, hadjoins⟩⟩
    rintro ⟨behind, hother, hadjoins⟩
    obtain rfl : behind = between := by
      have hsame := (getLast?_blocks_iff.mpr hother).symm.trans (getLast?_blocks_iff.mpr hlast)
      exact (Prod.mk.inj (Option.some.inj hsame)).2
    exact hadjoins
  refine ⟨fun _ => blockComment_eq_some_iff, fun other => ?_, ?_⟩
  · refine Option.ext fun comment => ?_
    rw [blockComment_eq_some_iff, blockComment_eq_some_iff]
  · intro tree' c' name' comment comment' between hlast hlast'
    rw [hunique hlast, hunique hlast']

/-- A source with two comments before an exported function, the second of them given. -/
def documented (comment : List Char) : Tree where
  language := "typescript"
  source := Text.Utf8.encode
    ("/** One. */\n".toList ++ comment ++ "\nexport function f() {}\n".toList)

/-- The place of the function. -/
def documentedPlace (comment : List Char) : Cursor :=
  .ofRoot (.mk "function_declaration" true "declaration" (comment.length + 20)
    (comment.length + 35) [])

/-- Of two comments the second one documents an exported function, whatever it says. -/
theorem adjoining_comment_documents_function :
    LastBlock ((documented "/** Two. */".toList).textBefore
        (documentedPlace "/** Two. */".toList)) "/** Two. */".toList "\nexport ".toList ∧
      LastBlock ((documented "/***/".toList).textBefore (documentedPlace "/***/".toList))
        "/***/".toList "\nexport ".toList ∧
      blockComment (documented "/** Two. */".toList) (documentedPlace "/** Two. */".toList)
        (some "f".toList) = some "/** Two. */".toList ∧
      blockComment (documented "/***/".toList) (documentedPlace "/***/".toList) none =
        some "/***/".toList := by
  have hlast : LastBlock ((documented "/** Two. */".toList).textBefore
      (documentedPlace "/** Two. */".toList)) "/** Two. */".toList "\nexport ".toList :=
    getLast?_blocks_iff.mp (by decide +kernel)
  have hlast' : LastBlock ((documented "/***/".toList).textBefore
      (documentedPlace "/***/".toList)) "/***/".toList "\nexport ".toList :=
    getLast?_blocks_iff.mp (by decide +kernel)
  have hadjoins : Adjoins "\nexport ".toList := adjoins_iff.mpr (by decide +kernel)
  have hdocuments := adjoining_comment_documents (documented "/** Two. */".toList)
    (documentedPlace "/** Two. */".toList) (some "f".toList)
  have hfound := (hdocuments.1 _).mpr ⟨_, hlast, hadjoins⟩
  exact ⟨hlast, hlast', hfound, (hdocuments.2.2 _ _ none _ _ _ hlast hlast').mp hfound⟩

end ChunkGraph.DocComment
