import ChunkGraph.FrontEnd.Component
import ChunkGraph.Proofs.Text.Search

/-!
# Where a script block stands

The script blocks of a file are found from left to right, counting the
characters passed over. So the text of a block stands in the file behind as many
characters as its offset says, however many blocks precede it and wherever on a
line it begins, and the line offset of a component is the number of line feeds
in front of the script.

## Main results

* `blockAt?_eq_some` — what a script block is made of.
* `scriptBlocks_split` — the file around the text of a block.
* `scriptBlock?_split` — the file around the script that counts.
-/

namespace ChunkGraph.Component

/-- A word that has been dropped was as long as it is. -/
theorem dropWord?_eq_some {word text rest : List Char} (h : dropWord? word text = some rest) :
    ∃ taken, text = taken ++ rest ∧ taken.length = word.length := by
  induction word generalizing text with
  | nil => exact ⟨[], Option.some.inj h, rfl⟩
  | cons letter word ih =>
      cases text with
      | nil => exact absurd h (by simp [dropWord?])
      | cons c text =>
          rw [dropWord?] at h
          split at h
          · obtain ⟨taken, rfl, hlength⟩ := ih h
            exact ⟨c :: taken, rfl, congrArg (· + 1) hlength⟩
          · exact absurd h (by simp)

/-- The text up to a closing tag, the tag, and what follows it. -/
theorem untilClosing_eq_some {done text body behind : List Char}
    (h : untilClosing done text = some (body, behind)) :
    ∃ more tag, body = done.reverse ++ more ∧ text = more ++ tag ++ behind ∧
      tag.length = closing.length := by
  induction text generalizing done with
  | nil => exact absurd h (by simp [untilClosing])
  | cons c rest ih =>
      rw [untilClosing] at h
      split at h
      · rename_i after hdrop
        obtain ⟨rfl, rfl⟩ := Prod.mk.inj (Option.some.inj h)
        obtain ⟨tag, htag, hlength⟩ := dropWord?_eq_some hdrop
        exact ⟨[], tag, (List.append_nil _).symm, htag, hlength⟩
      · obtain ⟨more, tag, rfl, rfl, hlength⟩ := ih h
        refine ⟨c :: more, tag, ?_, rfl, hlength⟩
        rw [List.reverse_cons, List.append_assoc, List.singleton_append]

/-- A script block is an opening tag, its text, and a closing tag. -/
theorem blockAt?_eq_some {text attributes body behind : List Char}
    (h : blockAt? text = some (attributes, body, behind)) :
    ∃ word tag, text = word ++ attributes ++ ['>'] ++ body ++ tag ++ behind ∧
      word.length = opening.length ∧ tag.length = closing.length := by
  unfold blockAt? at h
  obtain ⟨rest, hword, h⟩ := Option.bind_eq_some_iff.mp h
  simp only at h
  split at h
  · exact absurd h (by simp)
  · obtain ⟨⟨found, afterTag⟩, hcut, hjoined⟩ := Option.bind_eq_some_iff.mp h
    obtain ⟨⟨inner, after⟩, hclosing, hjoined⟩ := Option.bind_eq_some_iff.mp hjoined
    obtain ⟨rfl, hpair⟩ := Prod.mk.inj (Option.some.inj hjoined)
    obtain ⟨rfl, rfl⟩ := Prod.mk.inj hpair
    obtain ⟨word, rfl, hlength⟩ := dropWord?_eq_some hword
    obtain ⟨more, tag, rfl, rfl, htag⟩ := untilClosing_eq_some hclosing
    refine ⟨word, tag, ?_, hlength, htag⟩
    rw [(Text.cutAtFirst_eq_some_iff.mp hcut).1]
    simp

/-- The text of a block stands behind as many characters as its offset says. -/
theorem blocksWithin_split (fuel offset : Nat) (text : List Char) :
    ∀ block ∈ blocksWithin fuel offset text, ∃ front back,
      text = front ++ block.text ++ back ∧ block.offset = offset + front.length := by
  induction fuel generalizing offset text with
  | zero => exact fun _ h => absurd h List.not_mem_nil
  | succ fuel ih =>
      cases text with
      | nil => exact fun _ h => absurd h List.not_mem_nil
      | cons c rest =>
          intro block hblock
          rw [blocksWithin] at hblock
          split at hblock
          · rename_i attributes body behind hat
            obtain ⟨word, tag, htext, hword, htag⟩ := blockAt?_eq_some hat
            rcases List.mem_cons.mp hblock with rfl | hlater
            · refine ⟨word ++ attributes ++ ['>'], tag ++ behind, ?_, ?_⟩
              · rw [htext, List.append_assoc _ tag]
              · simp only [List.length_append, List.length_singleton, hword]
                omega
            · obtain ⟨front, back, rfl, hoffset⟩ := ih _ _ block hlater
              refine ⟨word ++ attributes ++ ['>'] ++ body ++ tag ++ front, back, ?_, ?_⟩
              · rw [htext]
                simp only [List.append_assoc]
              · rw [hoffset]
                simp only [List.length_append, List.length_singleton, hword, htag]
                omega
          · obtain ⟨front, back, rfl, hoffset⟩ := ih _ _ block hblock
            refine ⟨c :: front, back, rfl, ?_⟩
            rw [hoffset, List.length_cons]
            omega

/-- The file around the text of a block. -/
theorem scriptBlocks_split {code : List Char} {block : Block} (h : block ∈ scriptBlocks code) :
    ∃ front back, code = front ++ block.text ++ back ∧ front.length = block.offset := by
  obtain ⟨front, back, hcode, hoffset⟩ := blocksWithin_split _ _ _ block h
  exact ⟨front, back, hcode, by omega⟩

/-- The script that counts stands in the file behind as many lines as its line offset says. -/
theorem scriptBlock?_split {code script grammar : String} {lines : Nat}
    (h : scriptBlock? code = some (script, lines, grammar)) :
    ∃ front back, code.toList = front ++ script.toList ++ back ∧
      Text.lineFeeds front = lines := by
  obtain ⟨block, hfound, hblock⟩ := Option.map_eq_some_iff.mp h
  obtain ⟨hscript, hrest⟩ := Prod.mk.inj hblock
  obtain ⟨hlines, _⟩ := Prod.mk.inj hrest
  have hmem : block ∈ scriptBlocks code.toList := by
    rcases Option.or_eq_some_iff.mp hfound with hsetup | ⟨_, hlast⟩
    · exact List.mem_of_find?_eq_some hsetup
    · exact List.mem_of_getLast? hlast
  obtain ⟨front, back, hcode, hlength⟩ := scriptBlocks_split hmem
  refine ⟨front, back, by rw [← hscript, String.toList_ofList, hcode], ?_⟩
  rw [← hlines, hcode, ← hlength, List.append_assoc, List.take_left]

end ChunkGraph.Component
