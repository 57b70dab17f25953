import ChunkGraph.Outline.Basic
import ChunkGraph.Proofs.FrontEnd.Statements
import ChunkGraph.Proofs.Text.Growing

/-!
# What the markers of a function depend on

The markers of a function are read off its text up to the first opening bracket,
behind the lines of decorators. Where the body begins plays no part in it. So if
a bracket opens in what stands before the body, behind the decorators, nothing
of the body is looked at, and the markers are those of what stands before it.

If none does, the search for a bracket runs into the body, and a body can be
written that makes the function a generator, or asynchronous, unless what stands
before it says so already. Arrow functions with a bare parameter are of this
kind, and so are fields with a decorator on the line where the body begins.

## Main definitions

* `signature` — a text behind the lines of decorators.

## Main results

* `exists_signature_append`, `exists_signature_lineFeed` — the signature of a
  text that goes on, anywhere and behind a line feed.
* `mem_signature_iff` — the signature of a text without decorators.
* `markers_of_body` — when the markers tell something of the body.
* `arrow_body_is_marked` — bodies that make a function a generator.
-/

namespace ChunkGraph.Outline

open Syntax Text

/-- The text behind the lines of decorators. -/
def signature (text : List Char) : List Char :=
  joinLines ((splitLines (trimLeft text)).dropWhile isDecoratorLine)

theorem signatureHead_eq (text : List Char) :
    signatureHead text = (signature text).takeWhile (· != '(') := rfl

/-! ## Plain texts -/

/-- The text begins with a character that is no blank and begins no decorator. -/
def IsPlain (text : List Char) : Prop :=
  ∃ first rest, text = first :: rest ∧ isBlank first = false ∧ first ≠ '@'

/-- Every line break is blank. -/
theorem isLineBreak_of_isBlank {c : Char} (h : isBlank c = false) : isLineBreak c = false := by
  rw [Bool.eq_false_iff] at h ⊢
  refine fun hbreak => h ?_
  unfold isLineBreak at hbreak
  unfold isBlank
  simp only [Bool.or_eq_true, Bool.and_eq_true, decide_eq_true_eq, beq_iff_eq] at hbreak ⊢
  omega

namespace IsPlain

variable {text : List Char} (h : IsPlain text)
include h

theorem trimLeft_eq : trimLeft text = text := by
  obtain ⟨first, rest, rfl, hblank, _⟩ := h
  exact List.dropWhile_cons_of_neg (by rw [hblank]; exact Bool.false_ne_true)

/-- It has a line, and the first one is no decorator. -/
theorem exists_splitLines :
    ∃ line lines, splitLines text = line :: lines ∧ isDecoratorLine line = false := by
  obtain ⟨first, rest, rfl, hblank, hat⟩ := h
  obtain ⟨grown, more, hlines⟩ := exists_splitLinesFrom (List.cons_ne_nil first []) rest
  refine ⟨first :: grown, more, ?_, ?_⟩
  · unfold splitLines
    rw [splitLinesFrom_of_noBreak (isLineBreak_of_isBlank hblank), hlines]
    rfl
  · have hne : ¬ isBlank first = true := by
      rw [hblank]
      exact Bool.false_ne_true
    unfold isDecoratorLine trimLeft
    rw [List.dropWhile_cons_of_neg hne]
    simpa using hat

theorem splitLines_ne_nil : splitLines text ≠ [] := by
  obtain ⟨line, lines, hlines, _⟩ := h.exists_splitLines
  rw [hlines]
  exact List.cons_ne_nil line lines

/-- It has no lines of decorators. -/
theorem dropWhile_splitLines : (splitLines text).dropWhile isDecoratorLine = splitLines text := by
  obtain ⟨line, lines, hlines, hline⟩ := h.exists_splitLines
  rw [hlines, List.dropWhile_cons_of_neg (by rw [hline]; exact Bool.false_ne_true)]

theorem signature_eq : signature text = joinLines (splitLines text) := by
  unfold signature
  rw [h.trimLeft_eq, h.dropWhile_splitLines]

end IsPlain

/-- Without decorators in front, the signature has the characters of the text that are no blanks. -/
theorem mem_signature_iff {text : List Char} (h : IsPlain (trimLeft text)) {c : Char}
    (hblank : isBlank c = false) : c ∈ signature text ↔ c ∈ text := by
  have hsame : signature text = signature (trimLeft text) := by
    unfold signature
    rw [h.trimLeft_eq]
  have hfront : c ∉ text.takeWhile isBlank := by
    intro hmem
    have htrue := List.mem_takeWhile_imp hmem
    rw [hblank] at htrue
    exact Bool.false_ne_true htrue
  have hsplit : c ∈ text ↔ c ∈ text.takeWhile isBlank ++ trimLeft text := by
    unfold trimLeft
    rw [List.takeWhile_append_dropWhile]
  rw [hsame, h.signature_eq, mem_joinLines_splitLines (isLineBreak_of_isBlank hblank), hsplit,
    List.mem_append, or_iff_right hfront]

/-! ## Signatures of texts that go on -/

/-- A signature that has begun stays the beginning of the signature when the text goes on. -/
theorem exists_signature_append {front : List Char} {c : Char} (hc : c ∈ signature front)
    (hblank : isBlank c = false) (rest : List Char) :
    ∃ behind, signature (front ++ rest) = signature front ++ behind := by
  have hfront : trimLeft front ≠ [] := by
    intro hnil
    unfold signature at hc
    rw [hnil] at hc
    exact absurd hc List.not_mem_nil
  unfold signature at hc ⊢
  rw [trimLeft_append hfront]
  rcases extends_splitLines [] (trimLeft front) rest with hnone |
    ⟨lines, last, grown, more, hlines, hlonger⟩
  · have hnil : splitLines (trimLeft front) = [] := hnone
    rw [hnil] at hc
    exact absurd hc List.not_mem_nil
  · have hshort : splitLines (trimLeft front) = lines ++ [last] := hlines
    have hlong : splitLines (trimLeft front ++ rest) = lines ++ (last ++ grown) :: more := hlonger
    rw [hshort, List.dropWhile_append] at hc
    rw [hshort, hlong, List.dropWhile_append, List.dropWhile_append]
    split at hc
    · -- Every line but the last is a decorator, so the character is in the last one.
      rename_i hnone
      rw [if_pos hnone, if_pos hnone]
      have hlast : isDecoratorLine last = false := by
        rw [Bool.eq_false_iff]
        intro hdecorator
        rw [List.dropWhile_cons_of_pos hdecorator] at hc
        exact absurd hc List.not_mem_nil
      have hneither (line : List Char) (hline : isDecoratorLine line = false)
          (lines : List (List Char)) : (line :: lines).dropWhile isDecoratorLine = line :: lines :=
        List.dropWhile_cons_of_neg (by rw [hline]; exact Bool.false_ne_true)
      rw [hneither last hlast] at hc ⊢
      have hmem : trimLeft last ≠ [] := trimLeft_ne_nil hc hblank
      have hgrown : isDecoratorLine (last ++ grown) = false := by
        unfold isDecoratorLine at hlast ⊢
        rw [trimLeft_append hmem, List.head?_append_of_ne_nil _ hmem]
        exact hlast
      rw [hneither _ hgrown]
      exact exists_joinLines_grown [] last grown more
    · rename_i hsome
      rw [if_neg hsome, if_neg hsome]
      exact exists_joinLines_grown (lines.dropWhile isDecoratorLine) last grown more

/-- Behind a line feed, a plain text goes on with the signature, perhaps after empty lines. -/
theorem exists_signature_lineFeed (front : List Char) {rest : List Char} (hrest : IsPlain rest) :
    ∃ feeds, (∀ c ∈ feeds, c = '\n') ∧ (signature front = [] ∨ feeds ≠ []) ∧
      signature (front ++ '\n' :: rest) = signature front ++ feeds ++ signature rest := by
  by_cases hfront : trimLeft front = []
  · have hnone : signature front = [] := by
      unfold signature
      rw [hfront]
      rfl
    have hall : ∀ c ∈ front, isBlank c = true := List.dropWhile_eq_nil_iff.mp hfront
    have htrim : trimLeft (front ++ '\n' :: rest) = trimLeft rest := by
      unfold trimLeft
      rw [List.dropWhile_append_of_pos hall, List.dropWhile_cons_of_pos (by decide)]
    refine ⟨[], fun _ hc => absurd hc List.not_mem_nil, Or.inl hnone, ?_⟩
    rw [hnone]
    unfold signature
    rw [htrim]
    rfl
  · obtain ⟨empty, hempty, hlines⟩ := exists_splitLines_lineFeed [] (trimLeft front) rest
    have hall : splitLines (trimLeft front ++ '\n' :: rest) =
        splitLines (trimLeft front) ++ (empty ++ splitLines rest) := by
      rw [← List.append_assoc]
      exact hlines
    have hlater : empty ++ splitLines rest ≠ [] :=
      List.append_ne_nil_of_right_ne_nil empty hrest.splitLines_ne_nil
    have hkept : (empty ++ splitLines rest).dropWhile isDecoratorLine =
        empty ++ splitLines rest := by
      rcases hempty with rfl | rfl
      · exact hrest.dropWhile_splitLines
      · rfl
    have hjoined : ∃ feeds, (∀ c ∈ feeds, c = '\n') ∧
        joinLines (empty ++ splitLines rest) = feeds ++ signature rest := by
      rw [hrest.signature_eq]
      rcases hempty with rfl | rfl
      · exact ⟨[], fun _ hc => absurd hc List.not_mem_nil, rfl⟩
      · refine ⟨['\n'], fun c hc => List.mem_singleton.mp hc, ?_⟩
        rw [joinLines_append (List.cons_ne_nil [] []) hrest.splitLines_ne_nil]
        rfl
    obtain ⟨feeds, hfeeds, hjoined⟩ := hjoined
    unfold signature at hjoined ⊢
    rw [trimLeft_append hfront, hall, List.dropWhile_append, hkept]
    split
    · rename_i hnone
      rw [List.isEmpty_iff] at hnone
      exact ⟨feeds, hfeeds, Or.inl (by rw [hnone]; rfl), by rw [hnone, hjoined]; rfl⟩
    · rename_i hsome
      have hlines : (splitLines (trimLeft front)).dropWhile isDecoratorLine ≠ [] := fun hnil =>
        hsome (List.isEmpty_iff.mpr hnil)
      refine ⟨'\n' :: feeds, List.forall_mem_cons.mpr ⟨rfl, hfeeds⟩,
        Or.inr (List.cons_ne_nil _ feeds), ?_⟩
      rw [joinLines_append hlines hlater, hjoined, List.append_assoc]
      rfl

/-! ## Up to the first bracket -/

theorem takeWhile_ne_of_mem {c : Char} {text : List Char} (h : c ∈ text) (rest : List Char) :
    (text ++ rest).takeWhile (· != c) = text.takeWhile (· != c) := by
  rw [List.takeWhile_append, if_neg]
  intro hlength
  have hall := (List.takeWhile_prefix (· != c)).eq_of_length hlength
  rw [← hall] at h
  have htrue := List.mem_takeWhile_imp h
  exact absurd htrue (by simp)

theorem takeWhile_ne_of_not_mem {c : Char} {text : List Char} (h : c ∉ text) (rest : List Char) :
    (text ++ c :: rest).takeWhile (· != c) = text := by
  have hall : ∀ d ∈ text, (d != c) = true := by
    intro d hd
    rw [bne_iff_ne]
    rintro rfl
    exact h hd
  rw [List.takeWhile_append_of_pos hall, List.takeWhile_cons_of_neg (by simp), List.append_nil]

section Head

variable {front : List Char}

/-- Behind a bracket in the signature, the head is settled. -/
theorem signatureHead_append (h : '(' ∈ signature front) (rest : List Char) :
    signatureHead (front ++ rest) = signatureHead front := by
  obtain ⟨behind, hbehind⟩ := exists_signature_append h (by decide) rest
  rw [signatureHead_eq, signatureHead_eq, hbehind, takeWhile_ne_of_mem h]

/-- A star in front of any bracket stays in the head. -/
theorem mem_signatureHead_append (hstar : '*' ∈ signature front) (hnone : '(' ∉ signature front)
    (rest : List Char) : '*' ∈ signatureHead (front ++ rest) := by
  obtain ⟨behind, hbehind⟩ := exists_signature_append hstar (by decide) rest
  have hall : ∀ c ∈ signature front, (c != '(') = true := by
    intro c hc
    rw [bne_iff_ne]
    rintro rfl
    exact hnone hc
  rw [signatureHead_eq, hbehind, List.takeWhile_append_of_pos hall]
  exact List.mem_append_left _ hstar

/-- Without a bracket in the signature, what a body puts in front of its first bracket, on a line of
its own, is in the head. -/
theorem exists_signatureHead_lineFeed (hnone : '(' ∉ signature front) (word : List Char)
    (hword : '(' ∉ word) (hplain : ∀ rest, IsPlain (word ++ '(' :: rest))
    (hline : signature (word ++ ['(']) = word ++ ['(']) (back : List Char) :
    ∃ feeds, (∀ c ∈ feeds, c = '\n') ∧ (signature front = [] ∨ feeds ≠ []) ∧
      signatureHead (front ++ '\n' :: (word ++ '(' :: back)) =
        signature front ++ feeds ++ word := by
  obtain ⟨feeds, hfeeds, hapart, hsignature⟩ := exists_signature_lineFeed front (hplain back)
  have hmem : '(' ∈ signature (word ++ ['(']) := by
    rw [hline]
    exact List.mem_append_right _ List.mem_cons_self
  obtain ⟨behind, hbehind⟩ := exists_signature_append hmem (by decide) back
  rw [hline, List.append_assoc, List.append_assoc] at hbehind
  have hbefore : '(' ∉ signature front ++ feeds ++ word := by
    rw [List.mem_append, List.mem_append, not_or, not_or]
    exact ⟨⟨hnone, fun hc => absurd (hfeeds _ hc) (by decide)⟩, hword⟩
  have hhead : signature (front ++ '\n' :: (word ++ '(' :: back)) =
      signature front ++ feeds ++ word ++ '(' :: behind := by
    rw [hsignature]
    change signature (word ++ '(' :: back) = word ++ '(' :: behind at hbehind
    rw [hbehind]
    simp only [List.append_assoc]
  exact ⟨feeds, hfeeds, hapart, by rw [signatureHead_eq, hhead, takeWhile_ne_of_not_mem hbefore]⟩

end Head

/-- A word in front of empty lines is there with and without what follows them. -/
theorem hasWord_feeds {word : List Char} (hword : word ≠ []) (hfeed : '\n' ∉ word)
    (front : List Char) {feeds : List Char} (hfeeds : ∀ c ∈ feeds, c = '\n') (hne : feeds ≠ [])
    (rest : List Char) :
    hasWord word (front ++ feeds ++ rest) = (hasWord word front || hasWord word rest) := by
  have happend (front rest : List Char) : hasWord word (front ++ '\n' :: rest) =
      (hasWord word front || hasWord word rest) :=
    hasWord_append hfeed hword (by decide) front rest
  induction feeds generalizing front with
  | nil => exact absurd rfl hne
  | cons c feeds ih =>
      obtain ⟨rfl, hlater⟩ := List.forall_mem_cons.mp hfeeds
      rw [List.append_assoc, List.cons_append, happend]
      cases feeds with
      | nil => rfl
      | cons d feeds =>
          have hnone := ih [] hlater (List.cons_ne_nil d feeds)
          rw [List.nil_append] at hnone
          rw [hnone]
          rfl

/-! ## Markers -/

section Markers

variable {language : String} (hlanguage : language ≠ "python")
include hlanguage

/-- Outside Python, both markers are read off the head. -/
theorem functionMarkers_eq (text : String) :
    functionMarkers text language =
      (hasWord "async".toList (signatureHead text.toList),
        (signatureHead text.toList).contains '*') := by
  unfold functionMarkers
  simp only
  rw [if_neg (by simpa using hlanguage)]

theorem functionMarkers_around (front body back : String) :
    functionMarkers (front ++ body ++ back) language =
      (hasWord "async".toList
          (signatureHead (front.toList ++ (body.toList ++ back.toList))),
        (signatureHead (front.toList ++ (body.toList ++ back.toList))).contains '*') := by
  rw [functionMarkers_eq hlanguage, String.toList_append, String.toList_append, List.append_assoc]

variable {front : String} (hnone : '(' ∉ signature front.toList) (back : String)
include hnone

/-- A body that opens a bracket on a line of its own leaves the markers of what stands in front. -/
theorem functionMarkers_bracket :
    functionMarkers (front ++ "\n(" ++ back) language =
      (hasWord "async".toList (signature front.toList), (signature front.toList).contains '*') := by
  obtain ⟨feeds, hfeeds, hapart, hhead⟩ := exists_signatureHead_lineFeed hnone []
    List.not_mem_nil (fun rest => ⟨'(', rest, rfl, by decide, by decide⟩) (by decide) back.toList
  have hbody : signatureHead (front.toList ++ ("\n(".toList ++ back.toList)) =
      signature front.toList ++ feeds ++ [] := hhead
  have hasync : hasWord "async".toList (signature front.toList ++ feeds ++ []) =
      hasWord "async".toList (signature front.toList) := by
    by_cases hne : feeds = []
    · rw [hne, List.append_nil, List.append_nil]
    · rw [hasWord_feeds (by decide) (by decide) _ hfeeds hne]
      exact Bool.or_false _
  have hstar : (signature front.toList ++ feeds ++ []).contains '*' =
      (signature front.toList).contains '*' := by
    rw [Bool.eq_iff_iff, List.contains_iff_mem, List.contains_iff_mem, List.append_nil,
      List.mem_append, or_iff_left fun hmem => absurd (hfeeds _ hmem) (by decide)]
  rw [functionMarkers_around hlanguage, hbody, hasync, hstar]

/-- A body that begins with a star and a bracket, on a line of its own, makes a generator. -/
theorem functionMarkers_star : (functionMarkers (front ++ "\n*(" ++ back) language).2 = true := by
  obtain ⟨feeds, _, _, hhead⟩ := exists_signatureHead_lineFeed hnone ['*'] (by decide)
    (fun rest => ⟨'*', '(' :: rest, rfl, by decide, by decide⟩) (by decide) back.toList
  have hbody : signatureHead (front.toList ++ ("\n*(".toList ++ back.toList)) =
      signature front.toList ++ feeds ++ ['*'] := hhead
  rw [functionMarkers_around hlanguage, hbody]
  exact List.contains_iff_mem.mpr (List.mem_append_right _ List.mem_cons_self)

/-- A body that begins with `async` and a bracket, on a line of its own, makes a function that is
asynchronous. -/
theorem functionMarkers_async :
    (functionMarkers (front ++ "\nasync(" ++ back) language).1 = true := by
  obtain ⟨feeds, hfeeds, hapart, hhead⟩ := exists_signatureHead_lineFeed hnone "async".toList
    (by decide) (fun rest => ⟨'a', "sync".toList ++ '(' :: rest, rfl, by decide, by decide⟩)
    (by decide) back.toList
  have hbody : signatureHead (front.toList ++ ("\nasync(".toList ++ back.toList)) =
      signature front.toList ++ feeds ++ "async".toList := hhead
  have hword : hasWord "async".toList "async".toList = true := by decide
  rw [functionMarkers_around hlanguage, hbody]
  by_cases hne : feeds = []
  · rw [hne, hapart.resolve_right fun h => h hne]
    exact hword
  · show hasWord "async".toList (signature front.toList ++ feeds ++ "async".toList) = true
    rw [hasWord_feeds (by decide) (by decide) _ hfeeds hne, hword, Bool.or_true]

end Markers

/-- What the markers of a function outside Python tell of its body. If a bracket opens in front of
the body, behind the decorators, they are those of what stands in front. If none does, the body
decides whether the function is a generator, unless a star stands in front; and it decides whether
the function is asynchronous, unless that word stands in front. Without decorators, any bracket in
front of the body will do. -/
theorem markers_of_body (front back language : String) (hlanguage : language ≠ "python") :
    ('(' ∈ signature front.toList → ∀ body,
        functionMarkers (front ++ body ++ back) language = functionMarkers front language) ∧
      ((∀ body body', (functionMarkers (front ++ body ++ back) language).2 =
          (functionMarkers (front ++ body' ++ back) language).2) ↔
        '(' ∈ signature front.toList ∨ '*' ∈ signature front.toList) ∧
      ((∀ body body', (functionMarkers (front ++ body ++ back) language).1 =
          (functionMarkers (front ++ body' ++ back) language).1) →
        '(' ∈ signature front.toList ∨
          hasWord "async".toList (signature front.toList) = true) ∧
      (IsPlain (trimLeft front.toList) → ('(' ∈ signature front.toList ↔ '(' ∈ front.toList)) := by
  have hsettled : '(' ∈ signature front.toList → ∀ body,
      functionMarkers (front ++ body ++ back) language = functionMarkers front language := by
    intro hbracket body
    rw [functionMarkers_around hlanguage, functionMarkers_eq hlanguage,
      signatureHead_append hbracket]
  refine ⟨hsettled, ⟨fun hsame => ?_, fun hfront body body' => ?_⟩, fun hsame => ?_,
    fun hplain => mem_signature_iff hplain (by decide)⟩
  · refine or_iff_not_imp_left.mpr fun hnone => ?_
    have hmarked := hsame "\n(" "\n*("
    rw [functionMarkers_bracket hlanguage hnone, functionMarkers_star hlanguage hnone] at hmarked
    exact List.contains_iff_mem.mp hmarked
  · by_cases hnone : '(' ∈ signature front.toList
    · rw [hsettled hnone body, hsettled hnone body']
    · have hstar := hfront.resolve_left hnone
      have hmarked (body : String) :
          (functionMarkers (front ++ body ++ back) language).2 = true := by
        rw [functionMarkers_around hlanguage]
        exact List.contains_iff_mem.mpr (mem_signatureHead_append hstar hnone _)
      rw [hmarked body, hmarked body']
  · refine or_iff_not_imp_left.mpr fun hnone => ?_
    have hmarked := hsame "\n(" "\nasync("
    rw [functionMarkers_bracket hlanguage hnone, functionMarkers_async hlanguage hnone] at hmarked
    exact hmarked

theorem markers_of_body_functions :
    "typescript" ≠ "python" ∧
      '(' ∈ signature "@Log(1)\nasync function f(x) ".toList ∧
      (∀ body, functionMarkers ("@Log(1)\nasync function f(x) " ++ body ++ "\n") "typescript" =
        functionMarkers "@Log(1)\nasync function f(x) " "typescript") ∧
      functionMarkers "@Log(1)\nasync function f(x) " "typescript" = (true, false) ∧
      '(' ∉ signature "const f = x => ".toList ∧ '*' ∉ signature "const f = x => ".toList ∧
      ¬∀ body body', (functionMarkers ("const f = x => " ++ body ++ ";") "typescript").2 =
        (functionMarkers ("const f = x => " ++ body' ++ ";") "typescript").2 := by
  have hlanguage : "typescript" ≠ "python" := by decide
  have hsettled := (markers_of_body "@Log(1)\nasync function f(x) " "\n" "typescript" hlanguage).1
  have hsame := (markers_of_body "const f = x => " ";" "typescript" hlanguage).2.1
  have hbracket : '(' ∈ signature "@Log(1)\nasync function f(x) ".toList := by decide +kernel
  have hnone : '(' ∉ signature "const f = x => ".toList := by decide +kernel
  have hstar : '*' ∉ signature "const f = x => ".toList := by decide +kernel
  exact ⟨hlanguage, hbracket, hsettled hbracket, by decide +kernel, hnone, hstar,
    fun h => (hsame.mp h).elim hnone hstar⟩

/-! ## An arrow function -/

/-- An arrow function with a bare parameter and a body. -/
def arrowSource (body : String) : String := "const f = x => " ++ body ++ ";\n"

/-- The syntax tree of that source, if the body is an operation written with five characters. -/
def arrowProgram : Node :=
  .mk "program" true "" 0 22
    [.mk "lexical_declaration" true "" 0 21
      [.mk "variable_declarator" true "" 6 20
        [.mk "identifier" true "name" 6 7 [],
         .mk "arrow_function" true "value" 10 20
          [.mk "identifier" true "parameter" 10 11 [],
           .mk "binary_expression" true "body" 15 20 []]]]]

/-- What the rules know about that source. -/
def arrowContext (body : String) : Context :=
  { frontEnd := .script, filePath := "a.ts"
    tree := { language := "typescript", source := Utf8.encode (arrowSource body).toList
              root := some arrowProgram } }

theorem outline_arrowContext (body : String) :
    outline (arrowContext body) (.ofRoot arrowProgram) =
      ((Cursor.ofRoot arrowProgram).namedChildren.map fun c => (⟨c, none⟩ : Item)).flatMap
        (declarationChunks (arrowContext body)) := by
  rw [← Script.declarationsIn_of_declarations (by decide)]
  rfl

/-- A product in its body makes an arrow function with a bare parameter a generator, where a sum
does not; and so it is with a field whose decorator stands on the line where its body begins. -/
theorem arrow_body_is_marked :
    (outline (arrowContext "x * 2") (.ofRoot arrowProgram)).map
        (fun c => (c.name, c.kind, c.isAsync, c.isGenerator)) =
      [("f", .functionDecl, false, true)] ∧
    (outline (arrowContext "x + 2") (.ofRoot arrowProgram)).map
        (fun c => (c.name, c.kind, c.isAsync, c.isGenerator)) =
      [("f", .functionDecl, false, false)] ∧
    (∀ body ∈ ["x * 2", "x + 2"],
      bytesBetween (arrowContext body).tree.source 15 20 = Utf8.encode body.toList) ∧
    functionMarkers "@Input() f = () => \x7b\n  return a * b;\n\x7d" "typescript" =
      (false, true) ∧
    functionMarkers "@Input() f = () => \x7b\n  return a + b;\n\x7d" "typescript" =
      (false, false) ∧
    ¬∀ front body body' back, functionMarkers (front ++ body ++ back) "typescript" =
      functionMarkers (front ++ body' ++ back) "typescript" := by
  have hproduct : functionMarkers ("const f = x => " ++ "x * 2" ++ ";") "typescript" =
      (false, true) := by decide +kernel
  have hsum : functionMarkers ("const f = x => " ++ "x + 2" ++ ";") "typescript" =
      (false, false) := by decide +kernel
  refine ⟨?_, ?_, ?_, by decide +kernel, by decide +kernel, fun hsame => ?_⟩
  · rw [outline_arrowContext]
    decide +kernel
  · rw [outline_arrowContext]
    decide +kernel
  · decide +kernel
  · have hmarked := hsame "const f = x => " "x * 2" "x + 2" ";"
    rw [hproduct, hsum] at hmarked
    exact absurd hmarked (by decide)

end ChunkGraph.Outline
