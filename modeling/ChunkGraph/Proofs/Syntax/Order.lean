import ChunkGraph.Syntax.Walk
import Mathlib.Data.List.Flatten
import Mathlib.Data.List.Nodup
import Mathlib.Logic.Relation

/-!
# Places in document order

A place knows the way back to the root, so the place above it is unique, and of
two places above a third one is above the other or they are the same. Going down
makes the tree smaller, so no place is below itself.

Counting the siblings before each place on the way from the root down gives the
path of a place. In document order a place comes before another if its path comes
first in the dictionary: a place before those below it, and what is below a child
before what is below a later one. The pre-order of a place lists its tree in this
order, so it has each place once.

## Main definitions

* `Cursor.IsChild`, `Cursor.IsNamedChild` — one step down.
* `Cursor.path`, `Cursor.Precedes` — where a place stands in the document.
* `Cursor.documentOrder` — the place and all places below it.

## Main results

* `Cursor.total_of_below` — two places above a third one.
* `Cursor.named_of_between` — what is between places that named children lead to.
* `Cursor.mem_documentOrder_iff`, `Cursor.pairwise_documentOrder` — all places of
  a tree, in document order.
-/

namespace ChunkGraph.Syntax

open Relation

/-! ## Pre-order -/

theorem preorderList_eq_flatMap (stop : Cursor → Bool) (parent : Node) (above : List Frame)
    (before nodes : List Node) :
    preorderList stop parent above before nodes =
      (placed parent above before nodes).flatMap fun c => preorder stop c.above c.node := by
  induction nodes generalizing before with
  | nil => rfl
  | cons node rest ih =>
      rw [preorderList, ih]
      rfl

/-- The place comes first, then what is below each of its children, unless the walk stops there. -/
theorem preorder_eq (stop : Cursor → Bool) (c : Cursor) :
    preorder stop c.above c.node =
      if stop c then [c]
      else c :: c.children.flatMap fun child => preorder stop child.above child.node := by
  obtain ⟨⟨kind, named, field, start, stop', children⟩, above⟩ := c
  rw [preorder, preorderList_eq_flatMap]
  rfl

namespace Cursor

/-- The second place is that of a child of the first. -/
def IsChild (parent child : Cursor) : Prop := child ∈ parent.children

/-- The second place is that of a named child of the first. -/
def IsNamedChild (parent child : Cursor) : Prop := child ∈ parent.namedChildren

theorem IsNamedChild.isChild {parent child : Cursor} (h : IsNamedChild parent child) :
    IsChild parent child := (List.mem_filter.mp h).1

variable {a b c parent other : Cursor}

/-- There is one place above another. -/
theorem IsChild.parent_eq (h : IsChild parent c) (hother : IsChild other c) : parent = other :=
  Option.some.inj ((parent?_of_mem_children h).symm.trans (parent?_of_mem_children hother))

/-- What is below has a smaller tree. -/
theorem size_lt_of_below (h : TransGen IsChild a b) : b.node.size < a.node.size := by
  induction h with
  | single hchild => exact size_lt_of_mem_children hchild
  | tail _ hchild ih => exact Nat.lt_trans (size_lt_of_mem_children hchild) ih

theorem size_le_of_below (h : ReflTransGen IsChild a b) : b.node.size ≤ a.node.size := by
  rcases reflTransGen_iff_eq_or_transGen.mp h with rfl | hbelow
  · exact Nat.le_refl _
  · exact Nat.le_of_lt (size_lt_of_below hbelow)

/-- Of two places above a third, or that place itself, one is above the other or both are the
same. -/
theorem total_of_below (ha : ReflTransGen IsChild a c) (hb : ReflTransGen IsChild b c) :
    ReflTransGen IsChild a b ∨ ReflTransGen IsChild b a := by
  have hunique : Relator.RightUnique (Function.swap IsChild) := fun _ _ _ h hother =>
    IsChild.parent_eq h hother
  rcases ReflTransGen.total_of_right_unique hunique ha.swap hb.swap with hup | hup
  · exact Or.inr hup.swap
  · exact Or.inl hup.swap

/-- Different children of a place are not below each other. -/
theorem IsChild.eq_of_below (ha : IsChild parent a) (hb : IsChild parent b)
    (h : ReflTransGen IsChild a b) : a = b := by
  cases h with
  | refl => rfl
  | tail hbelow hlast =>
      rw [hlast.parent_eq hb] at hbelow
      have hdown := size_lt_of_mem_children ha
      have hback := size_le_of_below hbelow
      omega

/-- A place below two children of a place is below one child. -/
theorem IsChild.eq_of_common (ha : IsChild parent a) (hb : IsChild parent b)
    (hac : ReflTransGen IsChild a c) (hbc : ReflTransGen IsChild b c) : a = b := by
  rcases total_of_below hac hbc with hab | hba
  · exact ha.eq_of_below hb hab
  · exact (hb.eq_of_below ha hba).symm

/-! ## Named children -/

theorem below_of_named (h : TransGen IsNamedChild a b) : TransGen IsChild a b :=
  TransGen.mono (fun _ _ => IsNamedChild.isChild) _ _ h

theorem reaches_of_named (h : ReflTransGen IsNamedChild a b) : ReflTransGen IsChild a b :=
  ReflTransGen.mono (fun _ _ => IsNamedChild.isChild) _ _ h

/-- If a place is reached through named children, it is so from every place between. -/
theorem named_of_between (h : TransGen IsNamedChild parent c)
    (hb : ReflTransGen IsChild parent b) (hbelow : TransGen IsChild b c) :
    TransGen IsNamedChild b c := by
  induction h with
  | single hlast =>
      obtain ⟨above, habove, hstep⟩ := TransGen.tail'_iff.mp hbelow
      rw [hstep.parent_eq hlast.isChild] at habove
      rcases reflTransGen_iff_eq_or_transGen.mp habove with rfl | hback
      · exact .single hlast
      · have hless := size_lt_of_below hback
        have hle := size_le_of_below hb
        omega
  | tail _ hlast ih =>
      obtain ⟨above, habove, hstep⟩ := TransGen.tail'_iff.mp hbelow
      rw [hstep.parent_eq hlast.isChild] at habove
      rcases reflTransGen_iff_eq_or_transGen.mp habove with rfl | hfurther
      · exact .single hlast
      · exact (ih hfurther).tail hlast

/-! ## Document order -/

/-- The number of siblings before a place. -/
def rank (c : Cursor) : Nat := (c.above.head?.map (·.before.length)).getD 0

/-- The ranks of the places on the way from the root down to a place. -/
def path (c : Cursor) : List Nat := (c.above.map (·.before.length)).reverse

/-- The first place stands before the second in the document. -/
def Precedes (a b : Cursor) : Prop := a.path < b.path

theorem Precedes.asymm (h : Precedes a b) : ¬Precedes b a := List.lt_asymm h

theorem path_of_mem_placed {parent : Node} {above : List Frame} {before nodes : List Node}
    (h : c ∈ placed parent above before nodes) :
    c.path = path ⟨parent, above⟩ ++ [c.rank] ∧ before.length ≤ c.rank := by
  induction nodes generalizing before with
  | nil => exact absurd h List.not_mem_nil
  | cons node rest ih =>
      rcases List.mem_cons.mp h with rfl | hlater
      · exact ⟨by simp [path, rank], Nat.le_refl _⟩
      · obtain ⟨hpath, hle⟩ := ih hlater
        exact ⟨hpath, Nat.le_of_succ_le hle⟩

theorem pairwise_rank_placed (parent : Node) (above : List Frame) (before nodes : List Node) :
    (placed parent above before nodes).Pairwise fun left right => left.rank < right.rank := by
  induction nodes generalizing before with
  | nil => exact .nil
  | cons node rest ih =>
      exact List.pairwise_cons.mpr ⟨fun c hc => (path_of_mem_placed hc).2, ih (node :: before)⟩

/-- A child is one step further, by its rank. -/
theorem IsChild.path_eq (h : IsChild parent c) : c.path = parent.path ++ [c.rank] :=
  (path_of_mem_placed h).1

/-- The way to a place begins with the way to every place above it. -/
theorem exists_path_of_below (h : ReflTransGen IsChild a b) : ∃ rest, b.path = a.path ++ rest := by
  induction h with
  | refl => exact ⟨[], (List.append_nil _).symm⟩
  | tail _ hchild ih =>
      obtain ⟨rest, hrest⟩ := ih
      exact ⟨rest ++ [_], by rw [hchild.path_eq, hrest, List.append_assoc]⟩

/-- A place precedes those below it. -/
theorem precedes_of_below (h : TransGen IsChild a b) : Precedes a b := by
  obtain ⟨child, hchild, hbelow⟩ := TransGen.head'_iff.mp h
  obtain ⟨rest, hrest⟩ := exists_path_of_below hbelow
  have hpath : b.path = a.path ++ child.rank :: rest := by
    rw [hrest, hchild.path_eq, List.append_assoc, List.singleton_append]
  have hless : a.path ++ [] < a.path ++ child.rank :: rest :=
    List.append_left_lt (List.nil_lt_cons _ _)
  rwa [List.append_nil, ← hpath] at hless

/-- What is below a child precedes what is below a later one. -/
theorem precedes_of_rank_lt (ha : IsChild parent a) (hb : IsChild parent b)
    (hrank : a.rank < b.rank) {left right : Cursor} (hleft : ReflTransGen IsChild a left)
    (hright : ReflTransGen IsChild b right) : Precedes left right := by
  obtain ⟨restLeft, hpathLeft⟩ := exists_path_of_below hleft
  obtain ⟨restRight, hpathRight⟩ := exists_path_of_below hright
  unfold Precedes
  rw [hpathLeft, hpathRight, ha.path_eq, hb.path_eq, List.append_assoc, List.append_assoc]
  exact List.append_left_lt (List.cons_lt_cons_iff.mpr (Or.inl hrank))

/-- A place and all places below it, each before those below it and before those to its right. -/
def documentOrder (c : Cursor) : List Cursor := preorder (fun _ => false) c.above c.node

theorem documentOrder_eq (c : Cursor) :
    c.documentOrder = c :: c.children.flatMap documentOrder := by
  unfold documentOrder
  rw [preorder_eq, if_neg Bool.false_ne_true]

/-- The document order of a place holds the place and what is below it. -/
theorem mem_documentOrder_iff : b ∈ a.documentOrder ↔ ReflTransGen IsChild a b := by
  induction hsize : a.node.size using Nat.strongRecOn generalizing a with
  | ind size ih =>
      rw [documentOrder_eq, List.mem_cons, List.mem_flatMap, ReflTransGen.cases_head_iff, eq_comm]
      refine or_congr_right (exists_congr fun child => and_congr_right fun hchild => ?_)
      exact ih _ (hsize ▸ size_lt_of_mem_children hchild) rfl

/-- The trees of the children follow one another. -/
theorem pairwise_precede_children (c : Cursor) :
    c.children.Pairwise fun left right =>
      ∀ a ∈ left.documentOrder, ∀ b ∈ right.documentOrder, Precedes a b := by
  refine (pairwise_rank_placed c.node c.above [] _).imp_of_mem ?_
  intro left right hleft hright hrank a ha b hb
  exact precedes_of_rank_lt hleft hright hrank (mem_documentOrder_iff.mp ha)
    (mem_documentOrder_iff.mp hb)

/-- The document order of a place is in order. -/
theorem pairwise_documentOrder (c : Cursor) : c.documentOrder.Pairwise Precedes := by
  induction hsize : c.node.size using Nat.strongRecOn generalizing c with
  | ind size ih =>
      rw [documentOrder_eq, List.pairwise_cons, List.pairwise_flatMap]
      refine ⟨fun place hplace => ?_, fun child hchild => ?_, c.pairwise_precede_children⟩
      · obtain ⟨child, hchild, hbelow⟩ := List.mem_flatMap.mp hplace
        exact precedes_of_below (.head' hchild (mem_documentOrder_iff.mp hbelow))
      · exact ih _ (hsize ▸ size_lt_of_mem_children hchild) child rfl

/-- The document order of a place holds no place twice. -/
theorem nodup_documentOrder (c : Cursor) : c.documentOrder.Nodup := by
  refine c.pairwise_documentOrder.imp ?_
  rintro a _ h rfl
  exact h.asymm h

theorem length_flatMap_documentOrder {cs : List Cursor}
    (h : ∀ c ∈ cs, c.documentOrder.length = c.node.size) :
    (cs.flatMap documentOrder).length = Node.sizes (cs.map (·.node)) := by
  induction cs with
  | nil => rfl
  | cons c rest ih =>
      rw [List.flatMap_cons, List.length_append, List.map_cons, Node.sizes_cons,
        h c List.mem_cons_self, ih fun other hother => h other (List.mem_cons_of_mem c hother)]

/-- The document order of a place has a place for each node of the tree. -/
theorem length_documentOrder (c : Cursor) : c.documentOrder.length = c.node.size := by
  induction hsize : c.node.size using Nat.strongRecOn generalizing c with
  | ind size ih =>
      have hchildren : ∀ child ∈ c.children, child.documentOrder.length = child.node.size :=
        fun child hchild => ih _ (hsize ▸ size_lt_of_mem_children hchild) child rfl
      rw [documentOrder_eq, List.length_cons, length_flatMap_documentOrder hchildren,
        map_node_children, ← Node.size_eq, hsize]

end Cursor

end ChunkGraph.Syntax
