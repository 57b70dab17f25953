import ChunkGraph.Proofs.FrontEnd.Exports
import ChunkGraph.Proofs.FrontEnd.Places
import ChunkGraph.Proofs.FrontEnd.Spans

/-!
# What stands inside is not exported

The members of a class, the options of a component and their entries stand in no
export statement of their own and not at the top level of the program, so none of
them is exported, whatever the file exports under their names.

## Main definitions

* `ClassBodied` — a class has a class body.

## Main results

* `isExported_of_inside` — inside an object, an array or the body of a class.
* `isExported_of_mem_members`, `isExported_of_mem_componentOptions`,
  `isExported_of_mem_optionEntries` — members, options and their entries.
-/

namespace ChunkGraph.Script

open ChunkGraph.Syntax

/-- The body of a class is a class body, as the grammars make it. -/
def ClassBodied (node : Node) : Prop :=
  classKinds.contains node.kind = true →
    ∀ body ∈ node.children, body.field = "body" → body.kind = "class_body"

/-- What stands in an object, an array or the body of a class is not exported: there is no export
statement around it, and it does not stand at the top level. -/
theorem isExported_of_inside {tree : Tree} {c holder : Cursor} (hparent : c.parent? = some holder)
    (hholder : ["object", "array", "class_body"].contains holder.kind = true)
    (hkind : c.kind ≠ "variable_declarator") : isExported tree ⟨c, none⟩ = false := by
  have hother : ∀ kind ∈ ["object", "array", "class_body"],
      kind ≠ "ambient_declaration" ∧ kind ≠ "export_statement" ∧ kind ≠ "program" ∧
        ["lexical_declaration", "variable_declaration", "export_statement"].contains kind =
          false := by decide
  obtain ⟨hambient, hexport, hprogram, hpasses⟩ :=
    hother holder.kind (List.contains_iff_mem.mp hholder)
  have hstands : exportStatement? ⟨c, none⟩ = none := by
    have hnot : ¬ (c.kind == "variable_declarator") = true := by simpa using hkind
    show exportAround? (if (c.kind == "variable_declarator") = true then
      c.parent?.bind (·.parent?) else c.parent?) = none
    rw [if_neg hnot, hparent]
    unfold exportAround?
    simp [hambient, hexport, Option.filter]
  have htop : isTopLevel ⟨c, none⟩ = false := by
    show topLevelBelow c.above = false
    rw [topLevelBelow_of_parent? hparent, if_neg (by simpa using hprogram),
      if_neg (by rw [hpasses]; decide)]
  unfold isExported
  rw [hstands, htop]
  cases nameOf tree ⟨c, none⟩ with
  | none => rfl
  | some name => exact Bool.and_false _

/-- The options of a component are not exported. -/
theorem isExported_of_mem_componentOptions {tree : Tree} {item option : Item}
    (h : option ∈ componentOptions item) : isExported tree option = false := by
  unfold componentOptions at h
  split at h
  · rename_i object hobject
    obtain ⟨c, hc, rfl⟩ := List.mem_map.mp h
    obtain ⟨hnamed, hproperty⟩ := List.mem_filter.mp hc
    have hkind : object.kind = "object" := by
      unfold optionsObject? at hobject
      split at hobject
      · exact absurd hobject (by simp)
      · exact eq_of_beq (Option.filter_eq_some_iff.mp hobject).2
    refine isExported_of_inside (Cursor.parent?_of_mem_children (List.mem_of_mem_filter hnamed))
      (by rw [hkind]; decide) ?_
    rintro hdeclarator
    rw [hdeclarator] at hproperty
    exact absurd hproperty (by decide)
  · exact absurd h List.not_mem_nil

/-- Methods and functions are told by their kind, which is not that of a declarator. -/
theorem kind_ne_of_isMember {item : Item} (h : isMethod item = true ∨ isFunction item = true) :
    item.kind ≠ "variable_declarator" := by
  intro hkind
  have hnot : methodKinds.contains "variable_declarator" = false ∧
      fieldKinds.contains "variable_declarator" = false ∧
      functionKinds.contains "variable_declarator" = false := by decide
  unfold isMethod isFunction at h
  rw [hkind, hnot.1, hnot.2.1, hnot.2.2] at h
  simp at h

/-- No member of a class is exported. -/
theorem isExported_of_mem_members {tree : Tree} {item member : Item}
    (hclass : classKinds.contains item.kind = true) (hitem : item.Everywhere ClassBodied)
    (hmember : member ∈ members item) (hkind : member.kind ≠ "variable_declarator") :
    isExported tree member = false := by
  unfold members at hmember
  rw [if_pos hclass] at hmember
  split at hmember
  · rename_i body hbody
    have hfield := List.find?_some hbody
    have hbodyKind : body.kind = "class_body" :=
      hitem.node.node.self hclass body.node
        (Cursor.node_mem_of_mem_children (List.mem_of_find?_eq_some hbody)) (eq_of_beq hfield)
    obtain ⟨c, hc, rfl⟩ := List.mem_map.mp hmember
    exact isExported_of_inside
      (Cursor.parent?_of_mem_children (List.mem_of_mem_filter (List.mem_of_mem_filter hc)))
      (by rw [hbodyKind]; decide) hkind
  · exact absurd hmember List.not_mem_nil

/-- No entry of an option is exported. -/
theorem isExported_of_mem_optionEntries {tree : Tree} {item entry : Item}
    (h : entry ∈ optionEntries item) : isExported tree entry = false := by
  unfold optionEntries at h
  split at h
  · rename_i value hvalue
    split at h
    · rename_i hobject
      obtain ⟨c, hc, rfl⟩ := List.mem_map.mp h
      obtain ⟨hnamed, hproperty⟩ := List.mem_filter.mp hc
      refine isExported_of_inside (Cursor.parent?_of_mem_children (List.mem_of_mem_filter hnamed))
        (by rw [show value.node.kind = "object" from eq_of_beq hobject]; decide) ?_
      rintro hdeclarator
      rw [hdeclarator] at hproperty
      exact absurd hproperty (by decide)
    · split at h
      · rename_i harray
        obtain ⟨c, hc, rfl⟩ := List.mem_map.mp h
        obtain ⟨hnamed, hstring⟩ := List.mem_filter.mp hc
        refine isExported_of_inside (Cursor.parent?_of_mem_children (List.mem_of_mem_filter hnamed))
          (by rw [show value.node.kind = "array" from eq_of_beq harray]; decide) ?_
        rw [eq_of_beq hstring]
        decide
      · exact absurd h List.not_mem_nil
  · exact absurd h List.not_mem_nil

end ChunkGraph.Script

namespace ChunkGraph.FrontEnd

open Syntax

variable {frontEnd : FrontEnd} (hscript : frontEnd.ReadsScripts) {tree : Tree} {item : Item}
include hscript

/-- No entry of an option is exported. -/
theorem isExported_of_mem_optionEntries {entry : Item} (h : entry ∈ frontEnd.optionEntries item) :
    frontEnd.isExported tree entry = false := by
  rcases hscript with rfl | rfl
  all_goals exact Script.isExported_of_mem_optionEntries h

/-- No method of a class is exported. -/
theorem isExported_of_mem_members {member : Item} (hclass : frontEnd.isClass item = true)
    (hitem : item.Everywhere Script.ClassBodied) (hmember : member ∈ frontEnd.members item)
    (hkind : frontEnd.isMethod member = true ∨ frontEnd.isFunction member = true) :
    frontEnd.isExported tree member = false := by
  rcases hscript with rfl | rfl
  all_goals
    exact Script.isExported_of_mem_members hclass hitem hmember (Script.kind_ne_of_isMember hkind)

end ChunkGraph.FrontEnd
