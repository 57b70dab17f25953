import ChunkGraph.Proofs.Data.Json
import ChunkGraph.Resolve.ProjectFile
import Mathlib.Tactic.SplitIfs

/-!
# What taking out the liberties does to JSON

A project file may have comments and loose commas, which are taken out of its text
without regard to what stands between quotes. In a document, which has neither, no
line begins with a comment and no comma between values is a loose one. What stands
between quotes, though, is searched like everything else: a comma there is taken
out if only blanks stand between it and a closing bracket, itself between the same
quotes.

So the text that is read is a document again, with the same brackets, commas,
colons, numbers and words, and it is the one that was written exactly if no loose
comma stands between quotes.

## Main definitions

* `HasLooseComma` — a comma stands before a closing bracket.
* `Aliases.ofStrictText` — the aliases that a text declares as it stands.

## Main results

* `dropLooseCommas_eq_self_iff` — which texts stay as they are.
* `dropLineComments_textOf`, `dropLooseCommas_textOf` — what the two steps do
  to a document.
* `project_text_of_document` — what they do together, and to the aliases.
-/

namespace ChunkGraph.Resolve

open Data Data.Json

/-! ## Characters of a document -/

theorem isBlank_of_isSpace {c : Char} (h : isSpace c = true) : Text.isBlank c = true := by
  have hcases : ((c = ' ' ∨ c = '\t') ∨ c = '\n') ∨ c = '\r' := by simpa [isSpace] using h
  rcases hcases with ((rfl | rfl) | rfl) | rfl <;> decide

theorem isBlank_eq_false_of_isAtomChar {c : Char} (h : isAtomChar c = true) :
    Text.isBlank c = false := by
  have hbounds := toNat_bounds_of_isAtomChar h
  have hblank : ¬Text.isBlank c = true := by
    simp only [Text.isBlank, Bool.or_eq_true, Bool.and_eq_true, decide_eq_true_eq, beq_iff_eq]
    omega
  exact Bool.eq_false_iff.mpr hblank

/-- Two characters differ if one may stand in a word and the other may not. -/
theorem ne_of_isAtomChar {c d : Char} (hc : isAtomChar c = true) (hd : isAtomChar d = false) :
    c ≠ d := by
  rintro rfl
  rw [hc] at hd
  exact absurd hd (by decide)

/-- Neither a comma nor a line feed is part of an escape. -/
theorem ne_of_escape? {c : Char} (h : (escape? c).isSome) : c ≠ ',' ∧ c ≠ '\n' := by
  constructor
  · rintro rfl
    exact absurd h (by decide)
  · rintro rfl
    exact absurd h (by decide)

/-- Only the backslash of an escape by number can be a character that no word has. -/
theorem not_mem_code {a b c d e : Char} (h : (hex4? a b c d).isSome) (he : isAtomChar e = false)
    (hbackslash : e ≠ '\\') : e ∉ ['\\', 'u', a, b, c, d] := by
  intro hmem
  rcases List.mem_cons.mp hmem with rfl | hmem
  · exact hbackslash rfl
  · rcases List.mem_cons.mp hmem with rfl | hmem
    · exact absurd he (by decide)
    · exact ne_of_isAtomChar (forall_isAtomChar_of_hex4? h e hmem) he rfl

/-! ## Loose commas -/

/-- A comma stands before a closing bracket, with nothing but blanks in between. -/
def HasLooseComma (text : List Char) : Prop :=
  ∃ front blanks bracket back, text = front ++ ',' :: (blanks ++ bracket :: back) ∧
    (∀ c ∈ blanks, Text.isBlank c = true) ∧ (bracket = '\x7d' ∨ bracket = ']')

@[simp] theorem closesNext_nil : closesNext [] = false := rfl

theorem closesNext_cons_of_isBlank {c : Char} (hc : Text.isBlank c = true) (rest : List Char) :
    closesNext (c :: rest) = closesNext rest := by
  simp [closesNext, Text.trimLeft, hc]

theorem closesNext_cons_of_not_isBlank {c : Char} (hc : Text.isBlank c = false)
    (rest : List Char) : closesNext (c :: rest) = (c == '\x7d' || c == ']') := by
  simp [closesNext, Text.trimLeft, hc]

theorem closesNext_append_of_blank {blanks : List Char} (h : ∀ c ∈ blanks, Text.isBlank c = true)
    (rest : List Char) : closesNext (blanks ++ rest) = closesNext rest := by
  induction blanks with
  | nil => rfl
  | cons c blanks ih =>
      obtain ⟨hc, hblanks⟩ := List.forall_mem_cons.mp h
      rw [List.cons_append, closesNext_cons_of_isBlank hc, ih hblanks]

/-- What does not begin with a closing bracket may stand behind a text unnoticed. -/
theorem closesNext_append {rest : List Char} (h : closesNext rest = false) (front : List Char) :
    closesNext (front ++ rest) = closesNext front := by
  induction front with
  | nil => exact h
  | cons c front ih =>
      rw [List.cons_append]
      cases hc : Text.isBlank c with
      | true => rw [closesNext_cons_of_isBlank hc, closesNext_cons_of_isBlank hc, ih]
      | false => rw [closesNext_cons_of_not_isBlank hc, closesNext_cons_of_not_isBlank hc]

theorem closesNext_iff {text : List Char} : closesNext text = true ↔
    ∃ blanks bracket back, text = blanks ++ bracket :: back ∧
      (∀ c ∈ blanks, Text.isBlank c = true) ∧ (bracket = '\x7d' ∨ bracket = ']') := by
  constructor
  · intro h
    induction text with
    | nil => exact absurd h (by simp)
    | cons c rest ih =>
        cases hc : Text.isBlank c with
        | true =>
            rw [closesNext_cons_of_isBlank hc] at h
            obtain ⟨blanks, bracket, back, rfl, hblanks, hbracket⟩ := ih h
            have hmore : ∀ d ∈ c :: blanks, Text.isBlank d = true :=
              List.forall_mem_cons.mpr ⟨hc, hblanks⟩
            exact ⟨c :: blanks, bracket, back, rfl, hmore, hbracket⟩
        | false =>
            rw [closesNext_cons_of_not_isBlank hc] at h
            exact ⟨[], c, rest, rfl, fun _ hd => absurd hd List.not_mem_nil, by simpa using h⟩
  · rintro ⟨blanks, bracket, back, rfl, hblanks, hbracket⟩
    rw [closesNext_append_of_blank hblanks]
    rcases hbracket with rfl | rfl
    · rw [closesNext_cons_of_not_isBlank (by decide)]
      rfl
    · rw [closesNext_cons_of_not_isBlank (by decide)]
      rfl

theorem not_hasLooseComma_nil : ¬HasLooseComma [] := by
  rintro ⟨front, blanks, bracket, back, htext, -⟩
  exact absurd htext (by simp)

theorem hasLooseComma_cons_iff {c : Char} {rest : List Char} :
    HasLooseComma (c :: rest) ↔ (c = ',' ∧ closesNext rest = true) ∨ HasLooseComma rest := by
  rw [closesNext_iff]
  constructor
  · rintro ⟨front, blanks, bracket, back, htext, hblanks, hbracket⟩
    cases front with
    | nil =>
        obtain ⟨rfl, rfl⟩ := List.cons.inj htext
        exact Or.inl ⟨rfl, blanks, bracket, back, rfl, hblanks, hbracket⟩
    | cons d front =>
        obtain ⟨-, rfl⟩ := List.cons.inj htext
        exact Or.inr ⟨front, blanks, bracket, back, rfl, hblanks, hbracket⟩
  · rintro (⟨rfl, blanks, bracket, back, rfl, hblanks, hbracket⟩ |
      ⟨front, blanks, bracket, back, rfl, hblanks, hbracket⟩)
    · exact ⟨[], blanks, bracket, back, rfl, hblanks, hbracket⟩
    · exact ⟨c :: front, blanks, bracket, back, rfl, hblanks, hbracket⟩

theorem dropLooseCommas_cons_of_ne {c : Char} (hc : c ≠ ',') (rest : List Char) :
    dropLooseCommas (c :: rest) = c :: dropLooseCommas rest := by
  rw [dropLooseCommas, if_neg (by simp [hc])]

theorem dropLooseCommas_comma {rest : List Char} (h : closesNext rest = false) :
    dropLooseCommas (',' :: rest) = ',' :: dropLooseCommas rest := by
  rw [dropLooseCommas, if_neg (by simp [h])]

theorem length_dropLooseCommas_le (text : List Char) :
    (dropLooseCommas text).length ≤ text.length := by
  induction text with
  | nil => exact Nat.le_refl _
  | cons c rest ih =>
      rw [dropLooseCommas]
      split
      · exact Nat.le_succ_of_le ih
      · exact Nat.succ_le_succ ih

/-- A text stays as it is exactly if it has no loose comma. -/
theorem dropLooseCommas_eq_self_iff {text : List Char} :
    dropLooseCommas text = text ↔ ¬HasLooseComma text := by
  induction text with
  | nil => exact ⟨fun _ => not_hasLooseComma_nil, fun _ => rfl⟩
  | cons c rest ih =>
      rw [hasLooseComma_cons_iff, dropLooseCommas]
      by_cases hloose : c = ',' ∧ closesNext rest = true
      · rw [if_pos (by simpa using hloose)]
        have hle := length_dropLooseCommas_le rest
        refine ⟨fun hsame => ?_, fun hnot => absurd (Or.inl hloose) hnot⟩
        rw [hsame, List.length_cons] at hle
        omega
      · rw [if_neg (by simpa using hloose), List.cons.injEq, ih]
        simp [hloose]

theorem dropLooseCommas_append {rest : List Char} (h : closesNext rest = false)
    (front : List Char) :
    dropLooseCommas (front ++ rest) = dropLooseCommas front ++ dropLooseCommas rest := by
  induction front with
  | nil => rfl
  | cons c front ih =>
      rw [List.cons_append, dropLooseCommas, dropLooseCommas, closesNext_append h, ih]
      split <;> rfl

theorem dropLooseCommas_append_of_not_mem {front : List Char} (h : ',' ∉ front)
    (rest : List Char) : dropLooseCommas (front ++ rest) = front ++ dropLooseCommas rest := by
  induction front with
  | nil => rfl
  | cons c front ih =>
      rw [List.mem_cons, not_or] at h
      rw [List.cons_append, dropLooseCommas_cons_of_ne (Ne.symm h.1), ih h.2, List.cons_append]

/-! ## Tokens -/

/-- The token is one of those that documents are made of. -/
def Proper : Token → Prop
  | .space run => IsSpaces run
  | .mark c => c ∈ ['[', ']', '\x7b', '\x7d', ',', ':']
  | .literal body => IsBody body
  | .atom text => IsAtom text

theorem proper_of_written {part : Part} {tokens : List Token} (h : Written part tokens) :
    ∀ token ∈ tokens, Proper token := by
  induction h with
  | text hbody => simpa [Proper] using hbody
  | atom hatom => simpa [Proper] using hatom
  | emptyList hblanks => simpa [Proper] using hblanks
  | list _ ih => simpa [Proper] using ih
  | emptyTable hblanks => simpa [Proper] using hblanks
  | table _ ih => simpa [Proper] using ih
  | lastItem hfront _ hback ih =>
      simp only [List.forall_mem_append, List.forall_mem_cons, Proper]
      exact ⟨⟨hfront, ih⟩, hback, by simp⟩
  | item hfront _ hback _ ih ihs =>
      simp only [List.forall_mem_append, List.forall_mem_cons, Proper]
      exact ⟨⟨hfront, ih⟩, hback, by simp, ihs⟩
  | lastEntry hfront hkey hmiddle hstart _ hback ih =>
      simp only [List.forall_mem_append, List.forall_mem_cons, Proper]
      exact ⟨⟨hfront, hkey, hmiddle, by simp, hstart, ih⟩, hback, by simp⟩
  | entry hfront hkey hmiddle hstart _ hback _ ih ihs =>
      simp only [List.forall_mem_append, List.forall_mem_cons, Proper]
      exact ⟨⟨hfront, hkey, hmiddle, by simp, hstart, ih⟩, hback, by simp, ihs⟩

/-- What stands between quotes is on one line. -/
theorem lineFeed_not_mem_of_isBody {body : List Char} (h : IsBody body) : '\n' ∉ body := by
  induction h with
  | nil => exact List.not_mem_nil
  | plain hprintable _ _ _ ih =>
      rw [List.mem_cons, not_or]
      refine ⟨?_, ih⟩
      rintro rfl
      exact absurd hprintable (by decide)
  | escape hknown _ ih =>
      simp only [List.mem_cons, not_or]
      exact ⟨by decide, (ne_of_escape? hknown).2.symm, ih⟩
  | @code a b c d rest hdigits _ ih =>
      have hcode := not_mem_code hdigits (e := '\n') (by decide) (by decide)
      intro hmem
      rcases List.mem_append.mp (show '\n' ∈ ['\\', 'u', a, b, c, d] ++ rest from hmem) with h | h
      · exact hcode h
      · exact ih h

/-- Between quotes there is still what may stand there. -/
theorem isBody_dropLooseCommas {body : List Char} (h : IsBody body) :
    IsBody (dropLooseCommas body) := by
  induction h with
  | nil => exact .nil
  | plain hprintable hquote hbackslash _ ih =>
      rw [dropLooseCommas]
      split
      · exact ih
      · exact .plain hprintable hquote hbackslash ih
  | escape hknown _ ih =>
      rw [dropLooseCommas_cons_of_ne (by decide),
        dropLooseCommas_cons_of_ne (ne_of_escape? hknown).1]
      exact .escape hknown ih
  | @code a b c d rest hdigits _ ih =>
      have hcode := not_mem_code hdigits (e := ',') (by decide) (by decide)
      have hsplit : dropLooseCommas ('\\' :: 'u' :: a :: b :: c :: d :: rest) =
          '\\' :: 'u' :: a :: b :: c :: d :: dropLooseCommas rest :=
        dropLooseCommas_append_of_not_mem hcode rest
      rw [hsplit]
      exact .code hdigits ih

/-! ## No comments in a document -/

/-- A text whose lines are no comments and that no comment begins. -/
structure Uncommented (text : List Char) : Prop where
  /-- No comment comes next. -/
  starts : startsComment text = false
  /-- No line begins with one, whether a line begins here or not. -/
  kept : ∀ state, state = .lineStart ∨ state = .inLine → withoutComments state text = text

namespace Uncommented

theorem nil : Uncommented [] := by
  refine ⟨by decide, ?_⟩
  rintro state (rfl | rfl)
  · rfl
  · rfl

/-- A character in front that is no beginning of a comment. -/
theorem cons {c : Char} {rest : List Char} (h : Uncommented rest)
    (hstarts : startsComment (c :: rest) = false) : Uncommented (c :: rest) := by
  refine ⟨hstarts, ?_⟩
  have hstate : (if c == '\n' then CommentState.lineStart else .inLine) = .lineStart ∨
      (if c == '\n' then CommentState.lineStart else .inLine) = .inLine := by
    split
    · exact Or.inl rfl
    · exact Or.inr rfl
  rintro state (rfl | rfl)
  · rw [withoutComments, if_neg (by simp [hstarts]), h.kept _ hstate]
  · rw [withoutComments, h.kept _ hstate]

theorem spaces {run rest : List Char} (hrun : IsSpaces run) (h : Uncommented rest) :
    Uncommented (run ++ rest) := by
  induction run with
  | nil => exact h
  | cons c run ih =>
      obtain ⟨hc, hmore⟩ := List.forall_mem_cons.mp hrun
      refine (ih hmore).cons ?_
      have hskip : startsComment (c :: (run ++ rest)) = startsComment (run ++ rest) := by
        simp [startsComment, Text.trimLeft, isBlank_of_isSpace hc]
      exact hskip.trans (ih hmore).starts

/-- Within a line no comment begins. -/
theorem withoutComments_append {line rest : List Char} (hline : '\n' ∉ line)
    (h : Uncommented rest) : withoutComments .inLine (line ++ rest) = line ++ rest := by
  induction line with
  | nil => exact h.kept _ (Or.inr rfl)
  | cons c line ih =>
      rw [List.mem_cons, not_or] at hline
      have hc : (c == '\n') = false := beq_eq_false_iff_ne.mpr (Ne.symm hline.1)
      rw [List.cons_append, withoutComments, hc, if_neg Bool.false_ne_true, ih hline.2]

/-- A part of a line that begins with neither a blank nor a slash. -/
theorem solid {c : Char} {line rest : List Char} (hblank : Text.isBlank c = false)
    (hslash : c ≠ '/') (hline : '\n' ∉ line) (h : Uncommented rest) :
    Uncommented (c :: (line ++ rest)) := by
  have hstarts : startsComment (c :: (line ++ rest)) = false := by
    simp [startsComment, Text.trimLeft, hblank, Text.startsWith, Text.dropFront?, Ne.symm hslash]
  have hc : (c == '\n') = false := by
    rw [beq_eq_false_iff_ne]
    rintro rfl
    exact absurd hblank (by decide)
  refine ⟨hstarts, ?_⟩
  rintro state (rfl | rfl)
  · rw [withoutComments, if_neg (by simp [hstarts]), hc, if_neg Bool.false_ne_true,
      withoutComments_append hline h]
  · rw [withoutComments, hc, if_neg Bool.false_ne_true, withoutComments_append hline h]

theorem token {token : Token} {rest : List Char} (htoken : Proper token) (h : Uncommented rest) :
    Uncommented (token.text ++ rest) := by
  cases token with
  | space run => exact spaces htoken h
  | mark c =>
      have hmarks : ∀ c ∈ ['[', ']', '\x7b', '\x7d', ',', ':'],
          Text.isBlank c = false ∧ c ≠ '/' := List.forall_iff_forall_mem.mp (by decide)
      have hmark := hmarks c htoken
      exact solid hmark.1 hmark.2 List.not_mem_nil h
  | literal body =>
      have hline : '\n' ∉ body ++ ['\"'] := by
        simp [lineFeed_not_mem_of_isBody htoken]
      exact solid (by decide) (by decide) hline h
  | atom text =>
      obtain ⟨hne, hatoms⟩ := htoken
      obtain ⟨c, line, rfl⟩ := List.exists_cons_of_ne_nil hne
      obtain ⟨hc, hline⟩ := List.forall_mem_cons.mp hatoms
      refine solid (isBlank_eq_false_of_isAtomChar hc) (ne_of_isAtomChar hc (by decide)) ?_ h
      intro hmem
      exact ne_of_isAtomChar (hline _ hmem) (by decide) rfl

theorem textOf {tokens : List Token} (h : ∀ token ∈ tokens, Proper token) :
    Uncommented (textOf tokens) := by
  induction tokens with
  | nil => exact nil
  | cons token tokens ih =>
      obtain ⟨htoken, hmore⟩ := List.forall_mem_cons.mp h
      exact Uncommented.token htoken (ih hmore)

end Uncommented

/-- The lines of a document stay as they are. -/
theorem dropLineComments_textOf {tokens : List Token} (h : ∀ token ∈ tokens, Proper token) :
    dropLineComments (textOf tokens) = textOf tokens :=
  (Uncommented.textOf h).kept _ (Or.inl rfl)

/-! ## Loose commas of a document -/

/-- Commas are taken out between quotes only, whatever stands behind. -/
def OnlyBetweenQuotes (tokens : List Token) : Prop :=
  ∀ rest, dropLooseCommas (textOf tokens ++ rest) =
    textOf (tokens.map (Token.onBody dropLooseCommas)) ++ dropLooseCommas rest

namespace OnlyBetweenQuotes

variable {front back tokens : List Token}

theorem nil : OnlyBetweenQuotes [] := fun _ => rfl

theorem append (hfront : OnlyBetweenQuotes front) (hback : OnlyBetweenQuotes back) :
    OnlyBetweenQuotes (front ++ back) := by
  intro rest
  rw [textOf_append, List.append_assoc, hfront, hback, List.map_append, textOf_append,
    List.append_assoc]

/-- A token without commas. -/
theorem plain {token : Token} (hcomma : ',' ∉ token.text)
    (hbody : token.onBody dropLooseCommas = token) (h : OnlyBetweenQuotes tokens) :
    OnlyBetweenQuotes (token :: tokens) := by
  intro rest
  rw [textOf_cons, List.append_assoc, dropLooseCommas_append_of_not_mem hcomma, h,
    List.map_cons, hbody, textOf_cons, List.append_assoc]

theorem space {run : List Char} (hrun : IsSpaces run) (h : OnlyBetweenQuotes tokens) :
    OnlyBetweenQuotes (.space run :: tokens) := by
  refine plain (fun hmem => ?_) rfl h
  exact absurd (hrun _ hmem) (by decide)

theorem atom {text : List Char} (hatom : IsAtom text) (h : OnlyBetweenQuotes tokens) :
    OnlyBetweenQuotes (.atom text :: tokens) := by
  refine plain (fun hmem => ?_) rfl h
  exact absurd (hatom.2 _ hmem) (by decide)

theorem mark {c : Char} (hc : c ≠ ',') (h : OnlyBetweenQuotes tokens) :
    OnlyBetweenQuotes (.mark c :: tokens) := by
  refine plain (fun hmem => ?_) rfl h
  exact hc (List.mem_singleton.mp hmem).symm

/-- The closing quote is no bracket: a comma in front of it is not loose. -/
theorem literal (body : List Char) (h : OnlyBetweenQuotes tokens) :
    OnlyBetweenQuotes (.literal body :: tokens) := by
  intro rest
  have hclose : closesNext ('\"' :: (textOf tokens ++ rest)) = false :=
    closesNext_cons_of_not_isBlank (by decide) _
  calc dropLooseCommas (textOf (.literal body :: tokens) ++ rest)
      = dropLooseCommas ('\"' :: (body ++ '\"' :: (textOf tokens ++ rest))) := by
        simp [Token.text]
    _ = '\"' :: (dropLooseCommas body ++ '\"' :: dropLooseCommas (textOf tokens ++ rest)) := by
        rw [dropLooseCommas_cons_of_ne (by decide), dropLooseCommas_append hclose,
          dropLooseCommas_cons_of_ne (by decide)]
    _ = _ := by
        rw [h]
        simp [Token.text, Token.onBody]

/-- A comma behind which no bracket is closed. -/
theorem comma (hnext : ∀ rest, closesNext (textOf tokens ++ rest) = false)
    (h : OnlyBetweenQuotes tokens) : OnlyBetweenQuotes (.mark ',' :: tokens) := by
  intro rest
  rw [textOf_cons, Token.text, List.append_assoc, List.singleton_append,
    dropLooseCommas_comma (hnext rest), h]
  rfl

end OnlyBetweenQuotes

theorem closesNext_spaces {run : List Char} (hrun : IsSpaces run) (text : List Char) :
    closesNext (run ++ text) = closesNext text :=
  closesNext_append_of_blank (fun c hc => isBlank_of_isSpace (hrun c hc)) text

/-- A value, an item and an entry do not begin with a closing bracket. -/
theorem closesNext_of_written {part : Part} {tokens : List Token} (h : Written part tokens)
    (rest : List Char) : closesNext (textOf tokens ++ rest) = false := by
  induction h generalizing rest with
  | text => exact closesNext_cons_of_not_isBlank (by decide) _
  | @atom text hatom =>
      obtain ⟨c, more, rfl⟩ := List.exists_cons_of_ne_nil hatom.1
      have hc := hatom.2 c List.mem_cons_self
      have hbrace : c ≠ '\x7d' := ne_of_isAtomChar hc (by decide)
      have hbracket : c ≠ ']' := ne_of_isAtomChar hc (by decide)
      refine (closesNext_cons_of_not_isBlank (isBlank_eq_false_of_isAtomChar hc) _).trans ?_
      simp [hbrace, hbracket]
  | emptyList => exact closesNext_cons_of_not_isBlank (by decide) _
  | list => exact closesNext_cons_of_not_isBlank (by decide) _
  | emptyTable => exact closesNext_cons_of_not_isBlank (by decide) _
  | table => exact closesNext_cons_of_not_isBlank (by decide) _
  | lastItem hfront _ _ ih => simp [Token.text, closesNext_spaces hfront, ih]
  | item hfront _ _ _ ih => simp [Token.text, closesNext_spaces hfront, ih]
  | lastEntry hfront =>
      rw [List.cons_append, textOf_cons, List.append_assoc, Token.text, closesNext_spaces hfront]
      exact closesNext_cons_of_not_isBlank (by decide) _
  | entry hfront =>
      rw [List.cons_append, textOf_cons, List.append_assoc, Token.text, closesNext_spaces hfront]
      exact closesNext_cons_of_not_isBlank (by decide) _

open OnlyBetweenQuotes in
theorem onlyBetweenQuotes_of_written {part : Part} {tokens : List Token}
    (h : Written part tokens) : OnlyBetweenQuotes tokens := by
  induction h with
  | text => exact literal _ nil
  | atom hatom => exact atom hatom nil
  | emptyList hblanks => exact mark (by decide) (space hblanks (mark (by decide) nil))
  | list _ ih => exact mark (by decide) ih
  | emptyTable hblanks => exact mark (by decide) (space hblanks (mark (by decide) nil))
  | table _ ih => exact mark (by decide) ih
  | lastItem hfront _ hback ih =>
      exact append (space hfront ih) (space hback (mark (by decide) nil))
  | item hfront _ hback hitems ih ihs =>
      exact append (space hfront ih) (space hback (comma (closesNext_of_written hitems) ihs))
  | lastEntry hfront _ hmiddle hstart _ hback ih =>
      refine append (space hfront (literal _ ?_)) (space hback (mark (by decide) nil))
      exact space hmiddle (mark (by decide) (space hstart ih))
  | entry hfront _ hmiddle hstart _ hback hentries ih ihs =>
      refine append (space hfront (literal _ ?_))
        (space hback (comma (closesNext_of_written hentries) ihs))
      exact space hmiddle (mark (by decide) (space hstart ih))

/-! ## The document that is read -/

/-- The tokens of a document after loose commas have been taken out of it. -/
def withoutLooseCommas (tokens : List Token) : List Token :=
  tokens.map (Token.onBody dropLooseCommas)

theorem written_withoutLooseCommas {part : Part} {tokens : List Token} (h : Written part tokens) :
    Written part (withoutLooseCommas tokens) := by
  unfold withoutLooseCommas
  induction h with
  | text hbody => exact .text (isBody_dropLooseCommas hbody)
  | atom hatom => exact .atom hatom
  | emptyList hblanks => exact .emptyList hblanks
  | list _ ih => exact .list ih
  | emptyTable hblanks => exact .emptyTable hblanks
  | table _ ih => exact .table ih
  | lastItem hfront _ hback ih =>
      rw [List.map_append]
      exact .lastItem hfront ih hback
  | item hfront _ hback _ ih ihs =>
      rw [List.map_append]
      exact .item hfront ih hback ihs
  | lastEntry hfront hkey hmiddle hstart _ hback ih =>
      rw [List.map_append]
      exact .lastEntry hfront (isBody_dropLooseCommas hkey) hmiddle hstart ih hback
  | entry hfront hkey hmiddle hstart _ hback _ ih ihs =>
      rw [List.map_append]
      exact .entry hfront (isBody_dropLooseCommas hkey) hmiddle hstart ih hback ihs

theorem length_text_onBody_le (token : Token) :
    (token.onBody dropLooseCommas).text.length ≤ token.text.length := by
  cases token with
  | literal body =>
      have hle := length_dropLooseCommas_le body
      simp only [Token.onBody, Token.text, List.length_cons, List.length_append, List.length_nil]
      omega
  | space | mark | atom => exact Nat.le_refl _

theorem length_textOf_withoutLooseCommas_le (tokens : List Token) :
    (textOf (withoutLooseCommas tokens)).length ≤ (textOf tokens).length := by
  induction tokens with
  | nil => exact Nat.le_refl _
  | cons token tokens ih =>
      have htoken := length_text_onBody_le token
      simp only [withoutLooseCommas, List.map_cons, textOf_cons, List.length_append] at ih ⊢
      omega

/-- No token gets longer, so a text as long as before has the same tokens. -/
theorem textOf_withoutLooseCommas_eq_iff {tokens : List Token} :
    textOf (withoutLooseCommas tokens) = textOf tokens ↔
      ∀ body ∈ literals tokens, ¬HasLooseComma body := by
  induction tokens with
  | nil => simp [withoutLooseCommas]
  | cons token tokens ih =>
      have hcons : textOf (withoutLooseCommas (token :: tokens)) =
          (token.onBody dropLooseCommas).text ++ textOf (withoutLooseCommas tokens) := rfl
      have hparts : textOf (withoutLooseCommas (token :: tokens)) = textOf (token :: tokens) ↔
          (token.onBody dropLooseCommas).text = token.text ∧
            textOf (withoutLooseCommas tokens) = textOf tokens := by
        rw [hcons, textOf_cons]
        constructor
        · intro hsame
          have htoken := length_text_onBody_le token
          have hrest := length_textOf_withoutLooseCommas_le tokens
          have hlength := congrArg List.length hsame
          rw [List.length_append, List.length_append] at hlength
          exact List.append_inj hsame (by omega)
        · rintro ⟨htoken, hrest⟩
          rw [htoken, hrest]
      rw [hparts, ih]
      cases token with
      | literal body =>
          have hbody : (Token.onBody dropLooseCommas (.literal body)).text =
              Token.text (.literal body) ↔ ¬HasLooseComma body := by
            rw [← dropLooseCommas_eq_self_iff]
            simp [Token.onBody, Token.text]
          rw [hbody, literals_cons_literal, List.forall_mem_cons]
      | space | mark | atom => exact and_iff_right rfl

theorem proper_of_document {tokens : List Token} (h : IsDocument tokens) :
    ∀ token ∈ tokens, Proper token := by
  obtain ⟨front, value, back, rfl, hfront, hvalue, hback⟩ := h
  simp only [List.forall_mem_append, List.forall_mem_cons]
  exact ⟨⟨hfront, proper_of_written hvalue⟩, hback, fun _ hmem => absurd hmem List.not_mem_nil⟩

open OnlyBetweenQuotes in
theorem dropLooseCommas_textOf {tokens : List Token} (h : IsDocument tokens) :
    dropLooseCommas (textOf tokens) = textOf (withoutLooseCommas tokens) := by
  obtain ⟨front, value, back, rfl, hfront, hvalue, hback⟩ := h
  have hwhole : OnlyBetweenQuotes (.space front :: value ++ [.space back]) :=
    append (space hfront (onlyBetweenQuotes_of_written hvalue)) (space hback nil)
  have hend := hwhole []
  rwa [List.append_nil, dropLooseCommas, List.append_nil] at hend

theorem isDocument_withoutLooseCommas {tokens : List Token} (h : IsDocument tokens) :
    IsDocument (withoutLooseCommas tokens) := by
  obtain ⟨front, value, back, rfl, hfront, hvalue, hback⟩ := h
  refine ⟨front, withoutLooseCommas value, back, ?_, hfront, ?_, hback⟩
  · exact List.map_append ..
  · exact written_withoutLooseCommas hvalue

/-- The aliases that a text declares as it stands, without any liberties. -/
def Aliases.ofStrictText (text : List Char) : Except Failure (Option Aliases) :=
  match Json.read text with
  | .ok data => Aliases.ofProjectData data
  | .error .nestedTooDeep => .error .nestedTooDeep
  | .error _ => .ok none

theorem ofProjectText_eq (text : List Char) : Aliases.ofProjectText text =
    Aliases.ofStrictText (dropLooseCommas (dropLineComments text)) := rfl

theorem literals_withoutLooseCommas (tokens : List Token) :
    literals (withoutLooseCommas tokens) = (literals tokens).map dropLooseCommas := by
  unfold literals withoutLooseCommas
  rw [List.filterMap_map, List.map_filterMap]
  congr 1
  funext token
  cases token <;> rfl

/-- What is read of a document is a document with the same tokens, apart from loose commas between
quotes; without these, the aliases are those of the text as it stands. -/
theorem project_text_of_document {tokens : List Token} (h : IsDocument tokens) :
    dropLooseCommas (dropLineComments (textOf tokens)) = textOf (withoutLooseCommas tokens) ∧
      IsDocument (withoutLooseCommas tokens) ∧
      literals (withoutLooseCommas tokens) = (literals tokens).map dropLooseCommas ∧
      (∀ body ∈ literals tokens, dropLooseCommas body = body ↔ ¬HasLooseComma body) ∧
      (textOf (withoutLooseCommas tokens) = textOf tokens ↔
        ∀ body ∈ literals tokens, ¬HasLooseComma body) ∧
      Aliases.ofProjectText (textOf tokens) =
        Aliases.ofStrictText (textOf (withoutLooseCommas tokens)) ∧
      ((∀ body ∈ literals tokens, ¬HasLooseComma body) →
        Aliases.ofProjectText (textOf tokens) = Aliases.ofStrictText (textOf tokens)) := by
  have hcleaned : dropLooseCommas (dropLineComments (textOf tokens)) =
      textOf (withoutLooseCommas tokens) := by
    rw [dropLineComments_textOf (proper_of_document h), dropLooseCommas_textOf h]
  have haliases : Aliases.ofProjectText (textOf tokens) =
      Aliases.ofStrictText (textOf (withoutLooseCommas tokens)) := by
    rw [ofProjectText_eq, hcleaned]
  refine ⟨hcleaned, isDocument_withoutLooseCommas h, literals_withoutLooseCommas tokens,
    fun _ _ => dropLooseCommas_eq_self_iff, textOf_withoutLooseCommas_eq_iff, haliases, ?_⟩
  intro hloose
  rw [haliases, textOf_withoutLooseCommas_eq_iff.mpr hloose]

open Token in
/-- A project file with one alias, whose name has a loose comma in it. -/
def looseKey : List Token :=
  [space [], mark '\x7b', space [], literal "compilerOptions".toList, space [], mark ':', space [],
    mark '\x7b', space [], literal "paths".toList, space [], mark ':', space [],
    mark '\x7b', space [], literal "a,]".toList, space [], mark ':', space [],
    mark '[', space [], literal "b".toList, space [], mark ']',
    space [], mark '\x7d', space [], mark '\x7d', space [], mark '\x7d', space []]

theorem isDocument_looseKey : IsDocument looseKey := by
  have hnone : IsSpaces [] := fun _ hc => absurd hc List.not_mem_nil
  have hoptions : IsBody "compilerOptions".toList := .of_plain (by decide)
  have hpaths : IsBody "paths".toList := .of_plain (by decide)
  have hname : IsBody "a,]".toList := .of_plain (by decide)
  have htarget : IsBody "b".toList := .of_plain (by decide)
  have htargets := Written.list (.lastItem hnone (.text htarget) hnone)
  have htable := Written.table (.lastEntry hnone hname hnone hnone htargets hnone)
  have hinner := Written.table (.lastEntry hnone hpaths hnone hnone htable hnone)
  exact ⟨[], _, [], rfl, hnone, .table (.lastEntry hnone hoptions hnone hnone hinner hnone), hnone⟩

theorem project_text_of_document_loose_key :
    IsDocument looseKey ∧
      dropLooseCommas (dropLineComments (textOf looseKey)) =
        "\x7b\"compilerOptions\":\x7b\"paths\":\x7b\"a]\":[\"b\"]\x7d\x7d\x7d".toList := by
  have hcleaned := (project_text_of_document isDocument_looseKey).1
  refine ⟨isDocument_looseKey, hcleaned.trans ?_⟩
  decide

/-- A comma in the name of an alias is lost. -/
theorem loose_comma_in_name_is_lost :
    IsDocument looseKey ∧
      textOf looseKey =
        "\x7b\"compilerOptions\":\x7b\"paths\":\x7b\"a,]\":[\"b\"]\x7d\x7d\x7d".toList ∧
      Aliases.ofStrictText (textOf looseKey) =
        .ok (some { base := ".", entries := [("a,]", ["b"])] }) ∧
      Aliases.ofProjectText (textOf looseKey) =
        .ok (some { base := ".", entries := [("a]", ["b"])] }) :=
  ⟨isDocument_looseKey, by decide, by decide +kernel, by decide +kernel⟩

end ChunkGraph.Resolve
