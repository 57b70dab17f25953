import ChunkGraph.Proofs.FrontEnd.Collection
import ChunkGraph.Proofs.FrontEnd.Statements
import ChunkGraph.Proofs.Outline.Shape
import ChunkGraph.Proofs.Syntax.Insertion

/-!
# Declarations are nodes of the tree

Every declaration is a place in the tree that was parsed: it is reached from the
root by going down and up, and so is the statement that wraps it. So what holds
of all nodes of the tree holds of what a chunk covers, in all languages and for
the parts of a declaration as well.

A wrapper of a declaration in a generic language is found by going up, so the
way back to the root belongs to the invariant.

## Main definitions

* `Cursor.Everywhere` — the nodes at, below and above a place have a property.
* `Item.Everywhere` — the same for a declaration and its wrapper.

## Main results

* `FrontEnd.everywhere_declarations` — the declarations of a file.
* `FrontEnd.everywhere_partsOf` — the parts of a declaration.
-/

namespace ChunkGraph

open Syntax

/-- The node at a place and the nodes above it have the property, with all nodes below them. -/
structure Syntax.Cursor.Everywhere (p : Node → Prop) (c : Cursor) : Prop where
  /-- At the place and below. -/
  node : c.node.Everywhere p
  /-- On the way back to the root. -/
  above : ∀ frame ∈ c.above, frame.parent.Everywhere p

namespace Syntax

variable {p : Node → Prop}

theorem Node.Everywhere.self {node : Node} (h : node.Everywhere p) : p node := by
  cases h with
  | intro here _ => exact here

theorem Node.Everywhere.of_mem_children {node child : Node} (h : node.Everywhere p)
    (hchild : child ∈ node.children) : child.Everywhere p := by
  cases h with
  | intro _ below => exact below child hchild

namespace Cursor.Everywhere

variable {c child : Cursor}

theorem ofRoot {root : Node} (h : root.Everywhere p) : (Cursor.ofRoot root).Everywhere p :=
  ⟨h, fun _ hframe => absurd hframe List.not_mem_nil⟩

theorem of_parent? {parent : Cursor} (h : c.Everywhere p) (hparent : c.parent? = some parent) :
    parent.Everywhere p := by
  unfold Cursor.parent? at hparent
  split at hparent
  · exact absurd hparent (by simp)
  · rename_i frame above habove
    obtain rfl := Option.some.inj hparent
    have hframes := h.above
    rw [habove] at hframes
    exact ⟨hframes frame List.mem_cons_self, fun other hother =>
      hframes other (List.mem_cons_of_mem frame hother)⟩

theorem of_mem_placed {parent : Node} {above : List Frame} {before nodes : List Node}
    (hparent : parent.Everywhere p) (habove : ∀ frame ∈ above, frame.parent.Everywhere p)
    (hnodes : ∀ node ∈ nodes, node.Everywhere p) (hc : c ∈ placed parent above before nodes) :
    c.Everywhere p := by
  induction nodes generalizing before with
  | nil => exact absurd hc List.not_mem_nil
  | cons node nodes ih =>
      rcases List.mem_cons.mp hc with rfl | hc
      · refine ⟨hnodes _ List.mem_cons_self, fun frame hframe => ?_⟩
        rcases List.mem_cons.mp hframe with rfl | hframe
        · exact hparent
        · exact habove frame hframe
      · exact ih (fun other hother => hnodes other (List.mem_cons_of_mem node hother)) hc

theorem of_mem_children (h : c.Everywhere p) (hchild : child ∈ c.children) :
    child.Everywhere p :=
  of_mem_placed h.node h.above (fun _ hnode => h.node.of_mem_children hnode) hchild

theorem of_mem_namedChildren (h : c.Everywhere p) (hchild : child ∈ c.namedChildren) :
    child.Everywhere p :=
  h.of_mem_children (List.mem_of_mem_filter hchild)

theorem of_child? {field : String} (h : c.Everywhere p) (hchild : c.child? field = some child) :
    child.Everywhere p :=
  h.of_mem_children (List.mem_of_find?_eq_some hchild)

theorem of_below {below : Cursor} (h : c.Everywhere p)
    (hbelow : Relation.TransGen IsChild c below) : below.Everywhere p := by
  induction hbelow with
  | single hchild => exact h.of_mem_children hchild
  | tail _ hchild ih => exact ih.of_mem_children hchild

end Cursor.Everywhere

end Syntax

/-- The nodes at, below and above a declaration and its wrapper have the property. -/
structure Item.Everywhere (p : Node → Prop) (item : Item) : Prop where
  /-- At the declaration. -/
  node : item.node.Everywhere p
  /-- At the wrapper. -/
  outer : ∀ outer, item.outer = some outer → outer.Everywhere p

section Items

variable {p : Node → Prop}

theorem Item.Everywhere.bare {c : Cursor} (h : c.Everywhere p) : (⟨c, none⟩ : Item).Everywhere p :=
  ⟨h, fun _ houter => absurd houter (by simp)⟩

theorem Item.Everywhere.wrapped {c outer : Cursor} (h : c.Everywhere p)
    (houter : outer.Everywhere p) : (⟨c, some outer⟩ : Item).Everywhere p :=
  ⟨h, fun _ hsome => Option.some.inj hsome ▸ houter⟩

/-- What the chunk of a declaration covers. -/
theorem Item.Everywhere.span {item : Item} (h : item.Everywhere p) : item.span.Everywhere p := by
  obtain ⟨node, outer⟩ := item
  cases outer with
  | none => exact h.node
  | some outer => exact h.outer outer rfl

/-- Some of the named children, each taken for a declaration. -/
theorem everywhere_children {c : Cursor} (h : c.Everywhere p) (kept : Cursor → Bool) :
    ∀ item ∈ (c.namedChildren.filter kept).map (⟨·, none⟩), Item.Everywhere p item := by
  intro item hitem
  obtain ⟨child, hchild, rfl⟩ := List.mem_map.mp hitem
  exact .bare (h.of_mem_namedChildren (List.mem_of_mem_filter hchild))

/-! ## Scripts -/

namespace Script

theorem everywhere_unwrap {c : Cursor} {item : Item} (hc : c.Everywhere p)
    (h : unwrap c = some item) : item.Everywhere p := by
  generalize hsize : c.node.size = size
  induction size using Nat.strongRecOn generalizing c item with
  | ind size ih =>
      rcases unwrap_cases h with ⟨declaration, inner, hchild, hinner, rfl⟩ |
        ⟨inner, hinner, rfl⟩ | rfl
      · have hsmaller := Cursor.size_lt_of_child? hchild
        have hwithin := ih _ (hsize ▸ hsmaller) (hc.of_child? hchild) hinner rfl
        exact .wrapped hwithin.node hc
      · exact .wrapped (hc.of_mem_namedChildren hinner) hc
      · exact .bare hc

theorem everywhere_declarationsIn {container : Cursor} (h : container.Everywhere p) :
    ∀ item ∈ declarationsIn container, item.Everywhere p := by
  intro item hitem
  obtain ⟨c, hc, hfound⟩ := List.mem_filterMap.mp hitem
  exact everywhere_unwrap (h.of_mem_namedChildren hc) hfound

theorem everywhere_members {item : Item} (h : item.Everywhere p) :
    ∀ part ∈ members item, part.Everywhere p := by
  unfold members
  split
  · split
    · rename_i body hbody
      exact everywhere_children (h.node.of_child? hbody) _
    · exact fun _ hpart => absurd hpart List.not_mem_nil
  · split
    · split
      · rename_i body hbody
        exact everywhere_declarationsIn (h.node.of_child? hbody)
      · exact fun _ hpart => absurd hpart List.not_mem_nil
    · exact fun _ hpart => absurd hpart List.not_mem_nil

theorem everywhere_declarators {item : Item} (h : item.Everywhere p) :
    ∀ part ∈ declarators item, part.Everywhere p := by
  unfold declarators
  split
  · rename_i only honly
    have hmem : only ∈ item.node.namedChildrenOfKind "variable_declarator" := by simp [honly]
    have honly := h.node.of_mem_namedChildren (List.mem_of_mem_filter hmem)
    intro part hpart
    rw [List.mem_singleton.mp hpart]
    exact .wrapped honly h.span
  · exact everywhere_children h.node _

theorem everywhere_optionsObject? {c object : Cursor} (h : c.Everywhere p)
    (hobject : optionsObject? c = some object) : object.Everywhere p := by
  unfold optionsObject? at hobject
  split at hobject
  · exact absurd hobject (by simp)
  · obtain ⟨hvalue, _⟩ := Option.filter_eq_some_iff.mp hobject
    split at hvalue
    · rename_i value hchild
      have hgood := h.of_child? hchild
      split at hvalue
      · obtain ⟨arguments, harguments, hkind⟩ := Option.bind_eq_some_iff.mp hvalue
        exact (hgood.of_child? harguments).of_mem_namedChildren (List.mem_of_find?_eq_some hkind)
      · rw [← Option.some.inj hvalue]
        exact hgood
    · exact absurd hvalue (by simp)

theorem everywhere_componentOptions {item : Item} (h : item.Everywhere p) :
    ∀ part ∈ componentOptions item, part.Everywhere p := by
  unfold componentOptions
  split
  · rename_i object hobject
    exact everywhere_children (everywhere_optionsObject? h.node hobject) _
  · exact fun _ hpart => absurd hpart List.not_mem_nil

theorem everywhere_optionEntries {item : Item} (h : item.Everywhere p) :
    ∀ part ∈ optionEntries item, part.Everywhere p := by
  unfold optionEntries
  split
  · rename_i value hvalue
    unfold propertyValue? at hvalue
    split at hvalue
    · obtain ⟨child, hchild, rfl⟩ := Option.map_eq_some_iff.mp hvalue
      have hgood := h.node.of_child? hchild
      split
      · exact everywhere_children hgood _
      · split
        · exact everywhere_children hgood _
        · exact fun _ hpart => absurd hpart List.not_mem_nil
    · exact absurd hvalue (by simp)
  · exact fun _ hpart => absurd hpart List.not_mem_nil

end Script

/-! ## Other languages -/

namespace Generic

theorem everywhere_collect {language : String} {c : Cursor} (h : c.Everywhere p) :
    ∀ item ∈ collect language c, item.Everywhere p := by
  intro item hitem
  obtain ⟨found, hfound, rfl⟩ := List.mem_map.mp hitem
  have hcollected := (mem_collectIn_iff language c found).mp hfound
  have hgood := h.of_below (Cursor.below_of_named hcollected.below)
  unfold wrap
  split
  · rename_i parent hparent
    split
    · exact .wrapped hgood (hgood.of_parent? hparent)
    · exact .bare hgood
  · exact .bare hgood

theorem everywhere_members {language : String} {item : Item} (h : item.Everywhere p) :
    ∀ part ∈ members language item, part.Everywhere p := by
  unfold members
  split
  · rename_i body hbody
    split
    · exact everywhere_collect (h.node.of_child? hbody)
    · exact fun _ hpart => absurd hpart List.not_mem_nil
  · exact fun _ hpart => absurd hpart List.not_mem_nil

end Generic

/-! ## Files -/

namespace FrontEnd

/-- What holds of all nodes of a tree holds of the declarations of the file. -/
theorem everywhere_declarations (frontEnd : FrontEnd) (tree : Tree) {root : Cursor}
    (h : root.Everywhere p) : ∀ item ∈ frontEnd.declarations tree root, item.Everywhere p := by
  cases frontEnd with
  | script => exact Script.everywhere_declarationsIn h
  | generic language => exact Generic.everywhere_collect h
  | component =>
      have hfound := Script.everywhere_declarationsIn h
      show ∀ item ∈ Component.declarations tree root, item.Everywhere p
      unfold Component.declarations
      simp only
      split
      · exact hfound
      · intro part hpart
        obtain ⟨item, hitem, hpart⟩ := List.mem_flatMap.mp hpart
        split at hpart
        · exact Script.everywhere_componentOptions (hfound item hitem) part hpart
        · rw [List.mem_singleton.mp hpart]
          exact hfound item hitem

/-- What holds of all nodes of a tree passes from a declaration to its parts. -/
theorem everywhere_partsOf {ctx : Outline.Context} {item : Item} (h : item.Everywhere p)
    {parts : List Item} (hparts : Outline.PartsOf ctx item parts) :
    ∀ part ∈ parts, part.Everywhere p := by
  have hnone : ∀ part ∈ ([] : List Item), part.Everywhere p :=
    fun _ hpart => absurd hpart List.not_mem_nil
  cases hparts with
  | none => exact hnone
  | members =>
      cases ctx.frontEnd with
      | generic language => exact Generic.everywhere_members h
      | _ => exact Script.everywhere_members h
  | declarators =>
      cases ctx.frontEnd with
      | generic language => exact hnone
      | _ => exact Script.everywhere_declarators h
  | options =>
      have hoptions : ∀ part ∈ ctx.frontEnd.componentOptions item, part.Everywhere p := by
        cases ctx.frontEnd with
        | generic language => exact hnone
        | _ => exact Script.everywhere_componentOptions h
      exact fun part hpart => hoptions part (List.mem_of_mem_filter hpart)
  | entries =>
      cases ctx.frontEnd with
      | generic language => exact hnone
      | _ => exact Script.everywhere_optionEntries h

end FrontEnd

end Items

end ChunkGraph
