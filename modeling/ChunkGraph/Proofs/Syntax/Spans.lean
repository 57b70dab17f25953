import ChunkGraph.Chunk.Basic
import ChunkGraph.Syntax.Tree
import Mathlib.Data.Int.Order.Basic
import Mathlib.Data.Prod.Lex

/-!
# Spans of syntax trees

A parser gives every node a span of bytes. The spans of a tree fit together when
each child lies inside its parent and the children of a node follow one another
without overlap. Rows and columns keep the order of the bytes, so the same can
be said about positions in the file.

## Main definitions

* `Node.Inside`, `Node.Before` — how two spans lie to each other.
* `Node.WellSpanned`, `Node.spansFit` — the spans of a tree fit together, and a
  check for it.
* `Position.key` — positions in the order of lines, then columns.
* `Range.Within`, `Range.Before` — how two ranges lie to each other.

## Main results

* `Cursor.wellSpanned_of_mem_children`, `Cursor.pairwise_children` — spans of
  the children of a place.
* `positionAt_mono`, `positionAt_lt` — positions follow the order of the bytes.
* `inside_of_rangeOf_within` — nodes lie inside one another as their ranges do.
-/

namespace ChunkGraph

namespace Syntax

namespace Node

/-- The span of a node lies inside that of another. -/
def Inside (inner outer : Node) : Prop := outer.start ≤ inner.start ∧ inner.stop ≤ outer.stop

/-- The span of a node ends where that of another starts, or earlier. -/
def Before (first second : Node) : Prop := first.stop ≤ second.start

/-- Every node of a tree has a span, the children of a node lie inside it, and they follow one
another without overlap. -/
inductive WellSpanned : Node → Prop where
  /-- The spans of a node and its children fit together, and so do those of every child. -/
  | intro {node : Node} (start_le_stop : node.start ≤ node.stop)
      (inside : ∀ child ∈ node.children, child.Inside node)
      (ordered : node.children.Pairwise Before)
      (children : ∀ child ∈ node.children, child.WellSpanned) : WellSpanned node

theorem Inside.refl (node : Node) : node.Inside node := ⟨Nat.le_refl _, Nat.le_refl _⟩

theorem Inside.trans {inner middle outer : Node} (h : inner.Inside middle)
    (houter : middle.Inside outer) : inner.Inside outer :=
  ⟨Nat.le_trans houter.1 h.1, Nat.le_trans h.2 houter.2⟩

/-- What lies inside two spans that follow each other does so as well. -/
theorem Before.mono {first second inFirst inSecond : Node} (h : first.Before second)
    (hfirst : inFirst.Inside first) (hsecond : inSecond.Inside second) :
    inFirst.Before inSecond :=
  Nat.le_trans hfirst.2 (Nat.le_trans h hsecond.1)

theorem WellSpanned.start_le_stop {node : Node} (h : node.WellSpanned) :
    node.start ≤ node.stop := by
  cases h with
  | intro start_le_stop _ _ _ => exact start_le_stop

mutual

/-- Checks the spans of a tree. -/
def spansFit : Node → Bool
  | .mk _ _ _ start stop children => decide (start ≤ stop) && spansFitIn start stop children

/-- Checks the spans of trees that follow one another between two bytes. -/
def spansFitIn (start stop : Nat) : List Node → Bool
  | [] => true
  | node :: rest =>
      decide (start ≤ node.start) && decide (node.stop ≤ stop) && node.spansFit &&
        spansFitIn node.stop stop rest

end

mutual

/-- The check can be relied on. -/
theorem wellSpanned_of_spansFit : (node : Node) → node.spansFit = true → node.WellSpanned
  | .mk kind named field start stop children, h => by
      rw [spansFit, Bool.and_eq_true, decide_eq_true_eq] at h
      obtain ⟨hinside, hordered, hchildren⟩ := wellSpanned_of_spansFitIn start stop children h.2
      exact .intro h.1 hinside hordered hchildren

/-- The same for trees between two bytes. -/
theorem wellSpanned_of_spansFitIn (start stop : Nat) : (nodes : List Node) →
    spansFitIn start stop nodes = true →
    (∀ node ∈ nodes, start ≤ node.start ∧ node.stop ≤ stop) ∧ nodes.Pairwise Before ∧
      ∀ node ∈ nodes, node.WellSpanned
  | [], _ => ⟨nofun, .nil, nofun⟩
  | node :: rest, h => by
      simp only [spansFitIn, Bool.and_eq_true, decide_eq_true_eq] at h
      obtain ⟨⟨⟨hstart, hstop⟩, hnode⟩, hrest⟩ := h
      have hspanned := wellSpanned_of_spansFit node hnode
      obtain ⟨hinside, hordered, hchildren⟩ := wellSpanned_of_spansFitIn node.stop stop rest hrest
      have hle := hspanned.start_le_stop
      refine ⟨?_, List.pairwise_cons.mpr ⟨fun later hlater => (hinside later hlater).1, hordered⟩,
        List.forall_mem_cons.mpr ⟨hspanned, hchildren⟩⟩
      refine List.forall_mem_cons.mpr ⟨⟨hstart, hstop⟩, fun later hlater => ?_⟩
      have hlater := hinside later hlater
      omega

end

end Node

namespace Cursor

variable {c child : Cursor}

theorem node_mem_of_mem_children (h : child ∈ c.children) : child.node ∈ c.node.children := by
  rw [← map_node_children]
  exact List.mem_map_of_mem h

/-- The spans below a child fit together. -/
theorem wellSpanned_of_mem_children (hc : c.node.WellSpanned) (h : child ∈ c.children) :
    child.node.WellSpanned := by
  cases hc with
  | intro _ _ _ children => exact children _ (node_mem_of_mem_children h)

/-- A child lies inside its parent. -/
theorem inside_of_mem_children (hc : c.node.WellSpanned) (h : child ∈ c.children) :
    child.node.Inside c.node := by
  cases hc with
  | intro _ inside _ _ => exact inside _ (node_mem_of_mem_children h)

/-- Children follow one another. -/
theorem pairwise_children (hc : c.node.WellSpanned) :
    c.children.Pairwise fun a b => a.node.Before b.node := by
  cases hc with
  | intro _ _ ordered _ =>
      rw [← map_node_children, List.pairwise_map] at ordered
      exact ordered

end Cursor

/-! ## Rows and columns -/

/-- A byte further back is in a later row, or it is further right in the same row by the bytes
between. -/
theorem pointIn_of_le (source : List UInt8) {offset later : Nat} (h : offset ≤ later) :
    (pointIn source offset).row < (pointIn source later).row ∨
      (pointIn source offset).row = (pointIn source later).row ∧
        (pointIn source later).column =
          (pointIn source offset).column + ((source.take later).drop offset).length := by
  have htake : source.take later = source.take offset ++ (source.take later).drop offset := by
    have hfront : (source.take later).take offset = source.take offset := by
      rw [List.take_take, Nat.min_eq_left h]
    rw [← hfront, List.take_append_drop]
  generalize (source.take later).drop offset = between at htake ⊢
  by_cases hbreak : (10 : UInt8) ∈ between
  · left
    show (source.take offset).count 10 < (source.take later).count 10
    rw [htake, List.count_append]
    have hpos := List.count_pos_iff.mpr hbreak
    omega
  · right
    constructor
    · show (source.take offset).count 10 = (source.take later).count 10
      rw [htake, List.count_append, List.count_eq_zero.mpr hbreak, Nat.add_zero]
    · show ((source.take later).reverse.takeWhile (· != 10)).length =
        ((source.take offset).reverse.takeWhile (· != 10)).length + between.length
      have hall : ∀ byte ∈ between.reverse, (byte != 10) = true := by
        intro byte hbyte
        rw [bne_iff_ne]
        rintro rfl
        exact hbreak (List.mem_reverse.mp hbyte)
      rw [htake, List.reverse_append, List.takeWhile_append_of_pos hall, List.length_append,
        List.length_reverse, Nat.add_comm]

/-- A byte further back is in a later row, or in the same row and not further left. -/
theorem pointIn_mono (source : List UInt8) {offset later : Nat} (h : offset ≤ later) :
    (pointIn source offset).row < (pointIn source later).row ∨
      (pointIn source offset).row = (pointIn source later).row ∧
        (pointIn source offset).column ≤ (pointIn source later).column :=
  (pointIn_of_le source h).imp_right fun ⟨hrow, hcolumn⟩ => ⟨hrow, by omega⟩

/-- A byte of the source is further left, or in an earlier row, than any byte behind it. -/
theorem pointIn_lt (source : List UInt8) {offset later : Nat} (h : offset < later)
    (hlater : later ≤ source.length) :
    (pointIn source offset).row < (pointIn source later).row ∨
      (pointIn source offset).row = (pointIn source later).row ∧
        (pointIn source offset).column < (pointIn source later).column := by
  have hbetween : 0 < ((source.take later).drop offset).length := by
    rw [List.length_drop, List.length_take]
    omega
  exact (pointIn_of_le source (Nat.le_of_lt h)).imp_right fun ⟨hrow, hcolumn⟩ =>
    ⟨hrow, by omega⟩

end Syntax

/-- A position as a pair, ordered by line and then by column. -/
def Position.key (position : Position) : Int ×ₗ Int := toLex (position.line, position.column)

namespace Range

/-- A range lies inside another. -/
def Within (inner outer : Range) : Prop :=
  outer.start.key ≤ inner.start.key ∧ inner.stop.key ≤ outer.stop.key

/-- A range ends where another starts, or earlier; so they have no position in common, their ends
not counted. -/
def Before (first second : Range) : Prop := first.stop.key ≤ second.start.key

theorem Within.refl (range : Range) : range.Within range := ⟨le_refl _, le_refl _⟩

theorem Within.trans {inner middle outer : Range} (h : inner.Within middle)
    (houter : middle.Within outer) : inner.Within outer :=
  ⟨le_trans houter.1 h.1, le_trans h.2 houter.2⟩

/-- What lies inside two ranges that follow each other does so as well. -/
theorem Before.mono {first second inFirst inSecond : Range} (h : first.Before second)
    (hfirst : inFirst.Within first) (hsecond : inSecond.Within second) :
    inFirst.Before inSecond :=
  le_trans hfirst.2 (le_trans h hsecond.1)

end Range

namespace Syntax

/-- The position in the file of a byte of the source. -/
def Tree.positionAt (tree : Tree) (offset : Nat) : Position :=
  ⟨(tree.pointAt offset).row + 1 + tree.lineOffset, (tree.pointAt offset).column⟩

/-- The range in the file of a node. -/
def Tree.rangeOf (tree : Tree) (node : Node) : Range :=
  ⟨tree.positionAt node.start, tree.positionAt node.stop⟩

/-- Positions follow the order of the bytes. -/
theorem positionAt_mono (tree : Tree) {offset later : Nat} (h : offset ≤ later) :
    (tree.positionAt offset).key ≤ (tree.positionAt later).key := by
  have hpoint : (tree.pointAt offset).row < (tree.pointAt later).row ∨
      (tree.pointAt offset).row = (tree.pointAt later).row ∧
        (tree.pointAt offset).column ≤ (tree.pointAt later).column :=
    pointIn_mono tree.source h
  unfold Position.key Tree.positionAt
  rw [Prod.Lex.toLex_le_toLex]
  rcases hpoint with hrow | ⟨hrow, hcolumn⟩
  · left
    dsimp only
    omega
  · right
    dsimp only
    omega

/-- Bytes of the source that follow one another have different positions. -/
theorem positionAt_lt (tree : Tree) {offset later : Nat} (h : offset < later)
    (hlater : later ≤ tree.source.length) :
    (tree.positionAt offset).key < (tree.positionAt later).key := by
  have hpoint : (tree.pointAt offset).row < (tree.pointAt later).row ∨
      (tree.pointAt offset).row = (tree.pointAt later).row ∧
        (tree.pointAt offset).column < (tree.pointAt later).column :=
    pointIn_lt tree.source h hlater
  unfold Position.key Tree.positionAt
  rw [Prod.Lex.toLex_lt_toLex]
  rcases hpoint with hrow | ⟨hrow, hcolumn⟩
  · left
    dsimp only
    omega
  · right
    dsimp only
    omega

/-- The range of a node inside another lies inside the range of that one. -/
theorem rangeOf_within (tree : Tree) {inner outer : Node} (h : inner.Inside outer) :
    (tree.rangeOf inner).Within (tree.rangeOf outer) :=
  ⟨positionAt_mono tree h.1, positionAt_mono tree h.2⟩

/-- Nodes of the source lie inside one another if their ranges do. -/
theorem inside_of_rangeOf_within (tree : Tree) {inner outer : Node}
    (houter : outer.start ≤ tree.source.length) (hinner : inner.stop ≤ tree.source.length)
    (h : (tree.rangeOf inner).Within (tree.rangeOf outer)) : inner.Inside outer := by
  constructor
  · refine Nat.not_lt.mp fun hlt => ?_
    exact absurd h.1 (not_le_of_gt (positionAt_lt tree hlt houter))
  · refine Nat.not_lt.mp fun hlt => ?_
    exact absurd h.2 (not_le_of_gt (positionAt_lt tree hlt hinner))

/-- The ranges of nodes that follow each other do so as well. -/
theorem rangeOf_before (tree : Tree) {first second : Node} (h : first.Before second) :
    (tree.rangeOf first).Before (tree.rangeOf second) :=
  positionAt_mono tree h

/-- A range starts before it stops. -/
theorem rangeOf_start_le_stop (tree : Tree) {node : Node} (h : node.start ≤ node.stop) :
    (tree.rangeOf node).start.key ≤ (tree.rangeOf node).stop.key :=
  positionAt_mono tree h

end Syntax

end ChunkGraph
