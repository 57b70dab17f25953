import ChunkGraph.FrontEnd.Basic
import Mathlib.Data.List.Basic

/-!
# Declarations in statements

The declaration in a statement of a script is found by going through what wraps
it: exports of any depth, one ambient statement, or an expression statement
around a namespace. The theorems below say which of these a result comes from,
and what the result is in the plain cases.

## Main results

* `unwrap_cases` — where the declaration in a statement can come from.
* `unwrap_of_child?`, `unwrap_of_no_child?`, `unwrap_of_not_export` — the same,
  for each kind of statement.
* `unwrap_of_declaration`, `unwrap_of_export` — the plain cases.
* `declarationsIn_of_declarations`, `declarationsIn_of_exports`,
  `declarationsIn_of_values` — the declarations of a file of declarations, and
  of one of exports.
-/

namespace ChunkGraph.Script

open ChunkGraph.Syntax

/-- A statement that holds a declaration is an export of one, wraps a named child, or is the
declaration itself. -/
theorem unwrap_cases {c : Cursor} {item : Item} (h : unwrap c = some item) :
    (∃ declaration inner, c.child? "declaration" = some declaration ∧
      unwrap declaration = some inner ∧ item = ⟨inner.node, some c⟩) ∨
    (∃ inner ∈ c.namedChildren, item = ⟨inner, some c⟩) ∨ item = ⟨c, none⟩ := by
  rw [unwrap] at h
  split at h
  case isTrue =>
    split at h
    case h_1 declaration hdeclaration =>
      obtain ⟨inner, hinner, hitem⟩ := Option.map_eq_some_iff.mp h
      exact Or.inl ⟨declaration, inner, hdeclaration, hinner, hitem.symm⟩
    case h_2 =>
      split at h
      · exact Or.inr (Or.inr (Option.some.inj h).symm)
      · exact absurd h (by simp)
  case isFalse =>
    split at h
    case isTrue =>
      obtain ⟨inner, hinner, hitem⟩ := Option.map_eq_some_iff.mp h
      exact Or.inr (Or.inl ⟨inner, List.mem_of_find?_eq_some hinner, hitem.symm⟩)
    case isFalse =>
      split at h
      case isTrue =>
        split at h
        case h_1 inner hinner =>
          split at h
          · exact Or.inr (Or.inl ⟨inner, List.mem_of_head? hinner, (Option.some.inj h).symm⟩)
          · exact absurd h (by simp)
        case h_2 => exact absurd h (by simp)
      case isFalse =>
        split at h
        · exact Or.inr (Or.inr (Option.some.inj h).symm)
        · exact absurd h (by simp)

/-- A declaration stands for itself. -/
theorem unwrap_of_declaration {c : Cursor} (h : declarationKinds.contains c.kind = true) :
    unwrap c = some ⟨c, none⟩ := by
  have hkind (kind : String) (hnot : declarationKinds.contains kind = false) :
      (c.kind == kind) = false := by
    rw [beq_eq_false_iff_ne]
    rintro rfl
    exact absurd h (by rw [hnot]; simp)
  rw [unwrap, hkind "export_statement" (by decide), hkind "ambient_declaration" (by decide),
    hkind "expression_statement" (by decide), h]
  rfl

/-- An export covers the declaration that it holds. -/
theorem unwrap_of_child? {c declaration : Cursor} (hkind : c.kind = "export_statement")
    (hdeclaration : c.child? "declaration" = some declaration) :
    unwrap c = (unwrap declaration).map fun inner => ⟨inner.node, some c⟩ := by
  rw [unwrap, if_pos (beq_iff_eq.mpr hkind)]
  split
  · rename_i found hfound
    obtain rfl := Option.some.inj (hfound.symm.trans hdeclaration)
    rfl
  · rename_i hnone
    exact absurd (hnone.symm.trans hdeclaration) (by simp)

/-- An export without a declaration stands for itself if it exports a value. -/
theorem unwrap_of_no_child? {c : Cursor} (hkind : c.kind = "export_statement")
    (hnone : c.child? "declaration" = none) :
    unwrap c = if (c.child? "value").isSome then some ⟨c, none⟩ else none := by
  rw [unwrap, if_pos (beq_iff_eq.mpr hkind)]
  split
  · rename_i found hfound
    exact absurd (hnone.symm.trans hfound) (by simp)
  · rfl

/-- Other statements wrap a named child, or are the declaration themselves. -/
theorem unwrap_of_not_export {c : Cursor} (hkind : c.kind ≠ "export_statement") :
    unwrap c =
      if c.kind == "ambient_declaration" then
        (c.namedChildren.find? (declarationKinds.contains ·.kind)).map (⟨·, some c⟩)
      else if c.kind == "expression_statement" then
        (c.namedChildren.head?.filter (namespaceKinds.contains ·.kind)).map (⟨·, some c⟩)
      else if declarationKinds.contains c.kind then some ⟨c, none⟩
      else none := by
  rw [unwrap, if_neg (by simpa using hkind)]
  cases c.namedChildren.head? with
  | none => rfl
  | some inner =>
      dsimp only
      rw [Option.filter_some]
      cases namespaceKinds.contains inner.kind with
      | true => rfl
      | false => rfl

/-- The export of a declaration covers it. -/
theorem unwrap_of_export {c declaration : Cursor} (hkind : c.kind = "export_statement")
    (hdeclaration : c.child? "declaration" = some declaration)
    (h : declarationKinds.contains declaration.kind = true) :
    unwrap c = some ⟨declaration, some c⟩ := by
  rw [unwrap_of_child? hkind hdeclaration, unwrap_of_declaration h]
  rfl

/-- The declarations of a container in which every statement is one. -/
theorem declarationsIn_of_declarations {container : Cursor}
    (h : ∀ c ∈ container.namedChildren, declarationKinds.contains c.kind = true) :
    declarationsIn container = container.namedChildren.map (⟨·, none⟩) := by
  unfold declarationsIn
  rw [← List.filterMap_eq_map]
  exact List.filterMap_congr fun c hc => unwrap_of_declaration (h c hc)

/-- The declarations of a container in which every statement exports one. -/
theorem declarationsIn_of_exports {container : Cursor}
    (h : ∀ c ∈ container.namedChildren, c.kind = "export_statement" ∧
      (c.child? "declaration").any (declarationKinds.contains ·.kind) = true) :
    declarationsIn container =
      container.namedChildren.map fun c => ⟨(c.child? "declaration").getD c, some c⟩ := by
  unfold declarationsIn
  rw [← List.filterMap_eq_map]
  refine List.filterMap_congr fun c hc => ?_
  obtain ⟨hkind, hany⟩ := h c hc
  obtain ⟨declaration, hdeclaration, hkinds⟩ := (Option.any_eq_true _ _).mp hany
  rw [unwrap_of_export hkind hdeclaration hkinds, Function.comp_apply, hdeclaration]
  rfl

/-- The declarations of a container in which every statement exports a value. -/
theorem declarationsIn_of_values {container : Cursor}
    (h : ∀ c ∈ container.namedChildren, c.kind = "export_statement" ∧
      (c.child? "declaration").isNone = true ∧ (c.child? "value").isSome = true) :
    declarationsIn container = container.namedChildren.map (⟨·, none⟩) := by
  unfold declarationsIn
  rw [← List.filterMap_eq_map]
  refine List.filterMap_congr fun c hc => ?_
  obtain ⟨hkind, hnone, hvalue⟩ := h c hc
  rw [unwrap_of_no_child? hkind (Option.isNone_iff_eq_none.mp hnone), if_pos hvalue]
  rfl

end ChunkGraph.Script
