import ChunkGraph.Data.Json.Reader
import Mathlib.Data.List.DropRight
import Mathlib.Data.List.TakeDrop
import Mathlib.Data.List.TakeWhile

/-!
# Documents in JSON

A document is a value with white space around it. The grammar is one of tokens,
so that a document keeps apart what stands between quotes and what does not. It
says of a number or a word only which characters it may have, and so takes in more
than JSON does; what stands between quotes, and how brackets, commas and colons
follow each other, is as in JSON.

Every text that can be read is a document: the reader takes off one value, list
of items or table of entries after the other, and what it takes off is one.

## Main definitions

* `Token`, `textOf`, `literals` — pieces of a text, the text they make up, and what
  stands between quotes in it.
* `IsBody` — what may stand between quotes.
* `Written`, `IsDocument` — the grammar.

## Main results

* `readsWritten` — what the reader takes off for a value is a value.
* `exists_document_of_read` — what can be read is a document.
-/

namespace ChunkGraph.Data.Json

/-! ## Tokens -/

/-- A piece of a text. -/
inductive Token where
  /-- White space, of which there may be none. -/
  | space (run : List Char)
  /-- A bracket, a comma or a colon. -/
  | mark (c : Char)
  /-- What stands between quotes, without these. -/
  | literal (body : List Char)
  /-- A number or a word. -/
  | atom (text : List Char)
  deriving DecidableEq, Repr

/-- The characters of a token. -/
def Token.text : Token → List Char
  | .space run => run
  | .mark c => [c]
  | .literal body => '\"' :: (body ++ ['\"'])
  | .atom text => text

/-- What stands between the quotes of a token, if it has any. -/
def Token.body? : Token → Option (List Char)
  | .literal body => some body
  | _ => none

/-- The token with a change to what stands between its quotes. -/
def Token.onBody (change : List Char → List Char) : Token → Token
  | .literal body => .literal (change body)
  | token => token

/-- The text that tokens make up. -/
def textOf (tokens : List Token) : List Char := tokens.flatMap Token.text

/-- What stands between quotes, from left to right. -/
def literals (tokens : List Token) : List (List Char) := tokens.filterMap Token.body?

@[simp] theorem textOf_nil : textOf [] = [] := rfl

@[simp] theorem textOf_cons (token : Token) (tokens : List Token) :
    textOf (token :: tokens) = token.text ++ textOf tokens := rfl

@[simp] theorem textOf_append (front back : List Token) :
    textOf (front ++ back) = textOf front ++ textOf back := List.flatMap_append ..

@[simp] theorem literals_nil : literals [] = [] := rfl

@[simp] theorem literals_cons_literal (body : List Char) (tokens : List Token) :
    literals (.literal body :: tokens) = body :: literals tokens := rfl

@[simp] theorem literals_append (front back : List Token) :
    literals (front ++ back) = literals front ++ literals back := List.filterMap_append ..

/-! ## The grammar -/

/-- What may stand between quotes: no quote, no backslash but in an escape, and no control
character. -/
inductive IsBody : List Char → Prop
  /-- Nothing. -/
  | nil : IsBody []
  /-- A character that stands for itself. -/
  | plain {c : Char} {rest : List Char} (printable : 32 ≤ c.toNat) (ne_quote : c ≠ '\"')
      (ne_backslash : c ≠ '\\') (behind : IsBody rest) : IsBody (c :: rest)
  /-- A backslash and a letter. -/
  | escape {c : Char} {rest : List Char} (known : (escape? c).isSome) (behind : IsBody rest) :
      IsBody ('\\' :: c :: rest)
  /-- A code unit by its number. -/
  | code {a b c d : Char} {rest : List Char} (digits : (hex4? a b c d).isSome)
      (behind : IsBody rest) : IsBody ('\\' :: 'u' :: a :: b :: c :: d :: rest)

/-- White space between tokens. -/
def IsSpaces (run : List Char) : Prop := ∀ c ∈ run, isSpace c = true

/-- The character may stand in a number or a word. -/
def isAtomChar (c : Char) : Bool :=
  Text.isAsciiLetter c || Text.isAsciiDigit c || c == '-' || c == '+' || c == '.'

/-- The characters of a number or a word. -/
def IsAtom (text : List Char) : Prop := text ≠ [] ∧ ∀ c ∈ text, isAtomChar c = true

/-- The parts of a document that are built from each other. -/
inductive Part where
  /-- A value. -/
  | value
  /-- The items of a list from some item on, with the closing bracket. -/
  | items
  /-- The entries of a table from some entry on, with the closing bracket. -/
  | entries
  deriving DecidableEq, Repr

open Token in
/-- The tokens of the parts of a document. -/
inductive Written : Part → List Token → Prop
  /-- A text in quotes. -/
  | text {body : List Char} (isBody : IsBody body) : Written .value [literal body]
  /-- A number or a word. -/
  | atom {text : List Char} (isAtom : IsAtom text) : Written .value [atom text]
  /-- A list without items. -/
  | emptyList {blanks : List Char} (spaces : IsSpaces blanks) :
      Written .value [mark '[', space blanks, mark ']']
  /-- A list with items. -/
  | list {tokens : List Token} (items : Written .items tokens) :
      Written .value (mark '[' :: tokens)
  /-- A table without entries. -/
  | emptyTable {blanks : List Char} (spaces : IsSpaces blanks) :
      Written .value [mark '\x7b', space blanks, mark '\x7d']
  /-- A table with entries. -/
  | table {tokens : List Token} (entries : Written .entries tokens) :
      Written .value (mark '\x7b' :: tokens)
  /-- The last item of a list. -/
  | lastItem {before behind : List Char} {value : List Token} (front : IsSpaces before)
      (item : Written .value value) (back : IsSpaces behind) :
      Written .items (space before :: value ++ [space behind, mark ']'])
  /-- An item with another one behind it. -/
  | item {before behind : List Char} {value tokens : List Token} (front : IsSpaces before)
      (item : Written .value value) (back : IsSpaces behind) (items : Written .items tokens) :
      Written .items (space before :: value ++ space behind :: mark ',' :: tokens)
  /-- The last entry of a table. -/
  | lastEntry {before key between inner behind : List Char} {value : List Token}
      (front : IsSpaces before) (isKey : IsBody key) (middle : IsSpaces between)
      (start : IsSpaces inner) (item : Written .value value) (back : IsSpaces behind) :
      Written .entries (space before :: literal key :: space between :: mark ':' :: space inner ::
        value ++ [space behind, mark '\x7d'])
  /-- An entry with another one behind it. -/
  | entry {before key between inner behind : List Char} {value tokens : List Token}
      (front : IsSpaces before) (isKey : IsBody key) (middle : IsSpaces between)
      (start : IsSpaces inner) (item : Written .value value) (back : IsSpaces behind)
      (entries : Written .entries tokens) :
      Written .entries (space before :: literal key :: space between :: mark ':' :: space inner ::
        value ++ space behind :: mark ',' :: tokens)

/-- The tokens of a value with white space around it. -/
def IsDocument (tokens : List Token) : Prop :=
  ∃ front value back, tokens = .space front :: value ++ [.space back] ∧
    IsSpaces front ∧ Written .value value ∧ IsSpaces back

theorem IsBody.of_plain {body : List Char}
    (h : body.Forall fun c => 32 ≤ c.toNat ∧ c ≠ '\"' ∧ c ≠ '\\') : IsBody body := by
  induction body with
  | nil => exact .nil
  | cons c rest ih =>
      obtain ⟨⟨hprintable, hquote, hbackslash⟩, hrest⟩ := List.forall_cons _ _ _ |>.mp h
      exact .plain hprintable hquote hbackslash (ih hrest)

/-! ## Characters of a document -/

theorem isAtomChar_of_isAsciiDigit {c : Char} (h : Text.isAsciiDigit c = true) :
    isAtomChar c = true := by
  simp [isAtomChar, h]

/-- Letters, digits and the marks of numbers lie between the space and the braces. -/
theorem toNat_bounds_of_isAtomChar {c : Char} (h : isAtomChar c = true) :
    33 ≤ c.toNat ∧ c.toNat ≤ 122 := by
  have hrange : ∀ {low high : Char}, low ≤ c → c ≤ high → 33 ≤ low.toNat → high.toNat ≤ 122 →
      33 ≤ c.toNat ∧ c.toNat ≤ 122 := by
    intro low high hlow hhigh hfirst hlast
    have hlow' : low.toNat ≤ c.toNat := UInt32.le_iff_toNat_le.mp hlow
    have hhigh' : c.toNat ≤ high.toNat := UInt32.le_iff_toNat_le.mp hhigh
    omega
  have hcases : ((('a' ≤ c ∧ c ≤ 'z') ∨ ('A' ≤ c ∧ c ≤ 'Z')) ∨ ('0' ≤ c ∧ c ≤ '9')) ∨
      c = '-' ∨ c = '+' ∨ c = '.' := by
    simpa [isAtomChar, Text.isAsciiLetter, Text.isAsciiDigit, or_assoc] using h
  rcases hcases with ((⟨hlow, hhigh⟩ | ⟨hlow, hhigh⟩) | ⟨hlow, hhigh⟩) | (rfl | rfl | rfl)
  · exact hrange hlow hhigh (by decide) (by decide)
  · exact hrange hlow hhigh (by decide) (by decide)
  · exact hrange hlow hhigh (by decide) (by decide)
  · decide
  · decide
  · decide

/-- A hexadecimal digit may stand in a word. -/
theorem isAtomChar_of_baseDigit? {base : Nat} {c : Char} (h : (Text.baseDigit? base c).isSome) :
    isAtomChar c = true := by
  unfold Text.baseDigit? at h
  dsimp only at h
  split at h
  · rename_i hdigit
    exact isAtomChar_of_isAsciiDigit hdigit
  · split at h
    · rename_i hlower
      have hlower' : 'a' ≤ c ∧ c ≤ 'f' := by simpa using hlower
      have hhigh : c ≤ 'z' := Char.le_trans hlower'.2 (by decide)
      simp [isAtomChar, Text.isAsciiLetter, hlower'.1, hhigh]
    · split at h
      · rename_i hupper
        have hupper' : 'A' ≤ c ∧ c ≤ 'F' := by simpa using hupper
        have hhigh : c ≤ 'Z' := Char.le_trans hupper'.2 (by decide)
        simp [isAtomChar, Text.isAsciiLetter, hupper'.1, hhigh]
      · exact absurd h (by simp)

theorem isSome_baseDigit?_of_inBase? {base : Nat} {digits : List Char}
    (h : (Text.inBase? base digits).isSome) : ∀ c ∈ digits, (Text.baseDigit? base c).isSome := by
  have hfold : ∀ total : Nat, (digits.foldlM (fun total c =>
      (Text.baseDigit? base c).map (base * total + ·)) total).isSome →
      ∀ c ∈ digits, (Text.baseDigit? base c).isSome := by
    clear h
    induction digits with
    | nil => exact fun _ _ c hc => absurd hc List.not_mem_nil
    | cons d digits ih =>
        intro total hsome
        rw [List.foldlM_cons] at hsome
        cases hd : Text.baseDigit? base d with
        | none => simp [hd] at hsome
        | some value =>
            rw [hd] at hsome
            exact List.forall_mem_cons.mpr ⟨hd ▸ rfl, ih _ hsome⟩
  unfold Text.inBase? at h
  split at h
  · exact absurd h (by simp)
  · exact hfold 0 h

theorem forall_isAtomChar_of_hex4? {a b c d : Char} (h : (hex4? a b c d).isSome) :
    ∀ e ∈ [a, b, c, d], isAtomChar e = true :=
  fun e he => isAtomChar_of_baseDigit? (isSome_baseDigit?_of_inBase? h e he)

/-! ## What the reader takes off -/

theorem exists_spaces (text : List Char) :
    ∃ blanks, IsSpaces blanks ∧ text = blanks ++ skipSpace text :=
  ⟨text.takeWhile isSpace, fun _ hc => List.mem_takeWhile_imp hc,
    List.takeWhile_append_dropWhile.symm⟩

/-- What stands in front of a closing quote may stand between quotes. -/
theorem exists_body_of_readUnits {done units : List Unit16} {text rest : List Char}
    (h : readUnits done text = some (units, rest)) :
    ∃ body, IsBody body ∧ text = body ++ '\"' :: rest := by
  fun_induction readUnits done text with
  | case1 => exact absurd h (by simp)
  | case2 done behind =>
      obtain ⟨-, rfl⟩ := Prod.mk.inj (Option.some.inj h)
      exact ⟨[], .nil, rfl⟩
  | case3 done a b c d behind n hn ih =>
      obtain ⟨body, hbody, rfl⟩ := ih h
      exact ⟨_, .code (hn ▸ rfl) hbody, rfl⟩
  | case4 => exact absurd h (by simp)
  | case5 done c behind hcode e he ih =>
      obtain ⟨body, hbody, rfl⟩ := ih h
      exact ⟨_, .escape (he ▸ rfl) hbody, rfl⟩
  | case6 => exact absurd h (by simp)
  | case7 => exact absurd h (by simp)
  | case8 done c behind hquote hcode hescape hprintable ih =>
      obtain ⟨body, hbody, rfl⟩ := ih h
      have hbackslash : c ≠ '\\' := by
        intro hc
        cases body with
        | nil => exact hescape _ _ hc rfl
        | cons d body => exact hescape _ _ hc rfl
      exact ⟨c :: body, .plain (Nat.le_of_not_lt hprintable) hquote hbackslash hbody, rfl⟩

theorem exists_body_of_readText {text rest : List Char} {s : String}
    (h : readText text = some (s, rest)) : ∃ body, IsBody body ∧ text = body ++ '\"' :: rest := by
  obtain ⟨⟨units, behind⟩, hunits, hpair⟩ := Option.map_eq_some_iff.mp h
  obtain ⟨-, rfl⟩ := Prod.mk.inj hpair
  exact exists_body_of_readUnits hunits

/-! ### Numbers and words -/

/-- What remains of a text behind some characters of a number or a word. -/
def Leaves (text rest : List Char) : Prop :=
  ∃ front, (∀ c ∈ front, isAtomChar c = true) ∧ text = front ++ rest

theorem Leaves.refl (text : List Char) : Leaves text text :=
  ⟨[], fun _ hc => absurd hc List.not_mem_nil, rfl⟩

theorem Leaves.cons {c : Char} {text rest : List Char} (hc : isAtomChar c = true)
    (h : Leaves text rest) : Leaves (c :: text) rest := by
  obtain ⟨front, hfront, rfl⟩ := h
  exact ⟨c :: front, List.forall_mem_cons.mpr ⟨hc, hfront⟩, rfl⟩

theorem Leaves.trans {text middle rest : List Char} (h : Leaves text middle)
    (h' : Leaves middle rest) : Leaves text rest := by
  obtain ⟨front, hfront, rfl⟩ := h
  obtain ⟨more, hmore, rfl⟩ := h'
  exact ⟨front ++ more, List.forall_mem_append.mpr ⟨hfront, hmore⟩, (List.append_assoc ..).symm⟩

theorem Leaves.length_le {text rest : List Char} (h : Leaves text rest) :
    rest.length ≤ text.length := by
  obtain ⟨front, -, rfl⟩ := h
  rw [List.length_append]
  omega

/-- Characters of a number or a word with at least one in front. -/
theorem Leaves.exists_atom {text rest : List Char} (h : Leaves text rest)
    (hlt : rest.length < text.length) : ∃ word, IsAtom word ∧ text = word ++ rest := by
  obtain ⟨front, hfront, rfl⟩ := h
  refine ⟨front, ⟨?_, hfront⟩, rfl⟩
  rintro rfl
  exact absurd hlt (Nat.lt_irrefl _)

theorem leaves_takeDigits (text : List Char) : Leaves text (takeDigits text).2 ∧
    text.length = (takeDigits text).1.length + (takeDigits text).2.length := by
  have hspan : takeDigits text =
      (text.takeWhile Text.isAsciiDigit, text.dropWhile Text.isAsciiDigit) :=
    List.span_eq_takeWhile_dropWhile _ _
  have hparts : text = text.takeWhile Text.isAsciiDigit ++ text.dropWhile Text.isAsciiDigit :=
    List.takeWhile_append_dropWhile.symm
  rw [hspan]
  refine ⟨⟨_, fun c hc => ?_, hparts⟩, ?_⟩
  · exact isAtomChar_of_isAsciiDigit (List.mem_takeWhile_imp hc)
  · rw [← List.length_append, ← hparts]

theorem leaves_takeWhole (text : List Char) : Leaves text (takeWhole text).2 ∧
    text.length = (takeWhole text).1.length + (takeWhole text).2.length := by
  unfold takeWhole
  split
  · rename_i rest
    exact ⟨(Leaves.refl rest).cons (by decide), by simp [Nat.add_comm]⟩
  · exact leaves_takeDigits text

theorem leaves_takeFraction (text : List Char) : Leaves text (takeFraction text).2 := by
  unfold takeFraction
  split
  · rename_i rest
    dsimp only
    split
    · exact .refl _
    · exact (leaves_takeDigits rest).1.cons (by decide)
  · exact .refl _

theorem leaves_takeSign (text : List Char) : Leaves text (Number.takeSign text).2 := by
  unfold Number.takeSign
  split
  · exact (Leaves.refl _).cons (by decide)
  · exact (Leaves.refl _).cons (by decide)
  · exact .refl _

theorem leaves_takeExponent (text : List Char) : Leaves text (takeExponent text).2 := by
  unfold takeExponent
  split
  · rename_i c rest
    split
    · rename_i hmark
      have hc : isAtomChar c = true := by
        rcases Bool.or_eq_true _ _ ▸ hmark with h | h
        · rw [eq_of_beq h]
          decide
        · rw [eq_of_beq h]
          decide
      dsimp only
      split
      · exact .refl _
      · exact ((leaves_takeSign rest).trans (leaves_takeDigits _).1).cons hc
    · exact .refl _
  · exact .refl _

theorem exists_atom_of_readUnsigned {negative : Bool} {text rest : List Char} {value : Value}
    (h : readUnsigned negative text = .ok (value, rest)) :
    ∃ word, IsAtom word ∧ text = word ++ rest := by
  unfold readUnsigned at h
  obtain ⟨hleaves, hlength⟩ := leaves_takeWhole text
  have hfraction := leaves_takeFraction (takeWhole text).2
  have hexponent := leaves_takeExponent (takeFraction (takeWhole text).2).2
  dsimp only at h
  split at h
  · exact absurd h (by simp)
  · rename_i hempty
    obtain rfl : (takeExponent (takeFraction (takeWhole text).2).2).2 = rest := by
      split at h
      · split at h
        · exact absurd h (by simp)
        · exact (Prod.mk.inj (Except.ok.inj h)).2
      · exact (Prod.mk.inj (Except.ok.inj h)).2
    have hpos : 0 < (takeWhole text).1.length :=
      List.length_pos_of_ne_nil fun hnil => hempty (List.isEmpty_iff.mpr hnil)
    have hle := (hfraction.trans hexponent).length_le
    exact (hleaves.trans (hfraction.trans hexponent)).exists_atom (by omega)

theorem isAtom_of_mem_words {word : List Char} {value : Value} (h : (word, value) ∈ words) :
    IsAtom word := by
  have hall : ∀ pair ∈ words, pair.1.isEmpty = false ∧ pair.1.all isAtomChar = true := by decide
  obtain ⟨hne, hatoms⟩ := hall _ h
  exact ⟨List.isEmpty_eq_false_iff.mp hne, List.all_eq_true.mp hatoms⟩

theorem exists_atom_of_readWord {text rest : List Char} {value : Value}
    (h : readWord text = some (value, rest)) : ∃ word, IsAtom word ∧ text = word ++ rest := by
  unfold readWord at h
  obtain ⟨⟨word, v⟩, hmem, hword⟩ := List.exists_of_findSome?_eq_some h
  dsimp only at hword
  split at hword
  · rename_i hfront
    obtain ⟨-, rfl⟩ := Prod.mk.inj (Option.some.inj hword)
    obtain ⟨rest, rfl⟩ := List.isPrefixOf_iff_prefix.mp hfront
    exact ⟨word, isAtom_of_mem_words hmem, by simp⟩
  · exact absurd hword (by simp)

theorem exists_atom_of_readAtom {text rest : List Char} {value : Value}
    (h : readAtom text = .ok (value, rest)) : ∃ word, IsAtom word ∧ text = word ++ rest := by
  unfold readAtom at h
  split at h
  · rename_i hword
    exact exists_atom_of_readWord (hword.trans (congrArg some (Except.ok.inj h)))
  · obtain ⟨word, ⟨hne, hword⟩, rfl⟩ := exists_atom_of_readUnsigned h
    exact ⟨'-' :: word, ⟨by simp, List.forall_mem_cons.mpr ⟨by decide, hword⟩⟩, rfl⟩
  · exact exists_atom_of_readUnsigned h

/-! ### Values -/

theorem skipSpace_skipSpace (text : List Char) : skipSpace (skipSpace text) = skipSpace text :=
  List.dropWhile_idempotent _ _

theorem readItems_skipSpace (fuel around : Nat) (done : List Value) (text : List Char) :
    readItems fuel around done (skipSpace text) = readItems fuel around done text := by
  cases fuel with
  | zero => simp only [readItems]
  | succ fuel => simp only [readItems, skipSpace_skipSpace]

theorem readEntries_skipSpace (fuel around : Nat) (done : List (Scalar × Value))
    (text : List Char) :
    readEntries fuel around done (skipSpace text) = readEntries fuel around done text := by
  cases fuel with
  | zero => simp only [readEntries]
  | succ fuel => simp only [readEntries, skipSpace_skipSpace]

/-- What is taken off in front is a value, the items of a list or the entries of a table. -/
def TakesOff (part : Part) (text rest : List Char) : Prop :=
  ∃ tokens, Written part tokens ∧ text = textOf tokens ++ rest

/-- Whatever the reader takes off with that much fuel is as the grammar says. -/
structure ReadsWritten (fuel : Nat) : Prop where
  /-- A value. -/
  value : ∀ {around text value rest}, readValue fuel around text = .ok (value, rest) →
    TakesOff .value text rest
  /-- The items of a list. -/
  items : ∀ {around done text value rest}, readItems fuel around done text = .ok (value, rest) →
    TakesOff .items text rest
  /-- The entries of a table. -/
  entries : ∀ {around done text value rest},
    readEntries fuel around done text = .ok (value, rest) → TakesOff .entries text rest

namespace ReadsWritten

variable {fuel around : Nat} {text rest : List Char} {value : Value}

theorem value_succ (ih : ReadsWritten fuel)
    (h : readValue (fuel + 1) around text = .ok (value, rest)) : TakesOff .value text rest := by
  unfold readValue at h
  split at h
  · rename_i behind
    split at h
    · rename_i s behind hread
      obtain ⟨-, rfl⟩ := Prod.mk.inj (Except.ok.inj h)
      obtain ⟨body, hbody, rfl⟩ := exists_body_of_readText hread
      exact ⟨_, .text hbody, by simp [Token.text]⟩
    · exact absurd h (by simp)
  · rename_i behind
    obtain ⟨blanks, hblanks, hbehind⟩ := exists_spaces behind
    split at h
    · exact absurd h (by simp)
    · split at h
      · rename_i rest' hclose
        obtain ⟨-, rfl⟩ := Prod.mk.inj (Except.ok.inj h)
        exact ⟨_, .emptyList hblanks, by simp [Token.text, ← hclose, ← hbehind]⟩
      · rename_i hopen
        rw [readItems_skipSpace] at h
        obtain ⟨tokens, hitems, rfl⟩ := ih.items h
        exact ⟨_, .list hitems, by simp [Token.text]⟩
  · rename_i behind
    obtain ⟨blanks, hblanks, hbehind⟩ := exists_spaces behind
    split at h
    · exact absurd h (by simp)
    · split at h
      · rename_i rest' hclose
        obtain ⟨-, rfl⟩ := Prod.mk.inj (Except.ok.inj h)
        exact ⟨_, .emptyTable hblanks, by simp [Token.text, ← hclose, ← hbehind]⟩
      · rename_i hopen
        rw [readEntries_skipSpace] at h
        obtain ⟨tokens, hentries, rfl⟩ := ih.entries h
        exact ⟨_, .table hentries, by simp [Token.text]⟩
  · obtain ⟨word, hword, rfl⟩ := exists_atom_of_readAtom h
    exact ⟨_, .atom hword, by simp [Token.text]⟩

theorem items_succ {done : List Value} (ih : ReadsWritten fuel)
    (h : readItems (fuel + 1) around done text = .ok (value, rest)) :
    TakesOff .items text rest := by
  unfold readItems at h
  split at h
  · exact absurd h (by simp)
  · rename_i item behind hitem
    obtain ⟨before, hbefore, htext⟩ := exists_spaces text
    obtain ⟨tokens, hvalue, hskipped⟩ := ih.value hitem
    obtain ⟨blanks, hblanks, hbehind⟩ := exists_spaces behind
    split at h
    · rename_i more hcomma
      obtain ⟨next, hnext, rfl⟩ := ih.items h
      refine ⟨_, .item hbefore hvalue hblanks hnext, ?_⟩
      rw [htext, hskipped, hbehind, hcomma]
      simp [Token.text]
    · rename_i more hclose
      obtain ⟨-, rfl⟩ := Prod.mk.inj (Except.ok.inj h)
      refine ⟨_, .lastItem hbefore hvalue hblanks, ?_⟩
      rw [htext, hskipped, hbehind, hclose]
      simp [Token.text]
    · exact absurd h (by simp)

theorem entries_succ {done : List (Scalar × Value)} (ih : ReadsWritten fuel)
    (h : readEntries (fuel + 1) around done text = .ok (value, rest)) :
    TakesOff .entries text rest := by
  unfold readEntries at h
  obtain ⟨before, hbefore, htext⟩ := exists_spaces text
  split at h
  · rename_i quoted hquote
    split at h
    · exact absurd h (by simp)
    · rename_i key behindKey hkey
      obtain ⟨body, hbody, rfl⟩ := exists_body_of_readText hkey
      obtain ⟨between, hbetween, hbehindKey⟩ := exists_spaces behindKey
      split at h
      · rename_i behindColon hcolon
        obtain ⟨inner, hinner, hbehindColon⟩ := exists_spaces behindColon
        split at h
        · exact absurd h (by simp)
        · rename_i item behind hitem
          obtain ⟨tokens, hvalue, hskipped⟩ := ih.value hitem
          obtain ⟨blanks, hblanks, hbehind⟩ := exists_spaces behind
          have hfront : text = before ++ '\"' :: (body ++ '\"' :: (between ++ ':' ::
              (inner ++ (textOf tokens ++ (blanks ++ skipSpace behind))))) := by
            rw [← hbehind, ← hskipped, ← hbehindColon, ← hcolon, ← hbehindKey, ← hquote, ← htext]
          split at h
          · rename_i more hcomma
            obtain ⟨next, hnext, rfl⟩ := ih.entries h
            refine ⟨_, .entry hbefore hbody hbetween hinner hvalue hblanks hnext, ?_⟩
            rw [hfront, hcomma]
            simp [Token.text]
          · rename_i more hclose
            obtain ⟨-, rfl⟩ := Prod.mk.inj (Except.ok.inj h)
            refine ⟨_, .lastEntry hbefore hbody hbetween hinner hvalue hblanks, ?_⟩
            rw [hfront, hclose]
            simp [Token.text]
          · exact absurd h (by simp)
      · exact absurd h (by simp)
  · exact absurd h (by simp)

end ReadsWritten

theorem readsWritten (fuel : Nat) : ReadsWritten fuel := by
  induction fuel with
  | zero =>
      refine ⟨?_, ?_, ?_⟩
      · intro around text value rest h
        exact absurd h (by simp [readValue])
      · intro around done text value rest h
        exact absurd h (by simp [readItems])
      · intro around done text value rest h
        exact absurd h (by simp [readEntries])
  | succ fuel ih => exact ⟨ih.value_succ, ih.items_succ, ih.entries_succ⟩

/-- What can be read is a document. -/
theorem exists_document_of_read {text : List Char} {value : Value} (h : read text = .ok value) :
    ∃ tokens, IsDocument tokens ∧ textOf tokens = text := by
  unfold read at h
  split at h
  · rename_i found rest hread
    split at h
    · rename_i hempty
      obtain ⟨front, hfront, htext⟩ := exists_spaces text
      obtain ⟨tokens, hvalue, hskipped⟩ := (readsWritten _).value hread
      obtain ⟨back, hback, hrest⟩ := exists_spaces rest
      rw [List.isEmpty_iff.mp hempty, List.append_nil] at hrest
      refine ⟨_, ⟨front, tokens, back, rfl, hfront, hvalue, hback⟩, ?_⟩
      rw [htext, hskipped, hrest]
      simp [Token.text]
    · exact absurd h (by simp)
  · exact absurd h (by simp)

end ChunkGraph.Data.Json
