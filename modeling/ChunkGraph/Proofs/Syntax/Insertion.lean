import ChunkGraph.Proofs.Syntax.Alike
import ChunkGraph.Proofs.Syntax.Spans

/-!
# A statement inserted into a program

When a text is inserted into a source at the top level of its program, the nodes
before it stay as they are, and those behind it move by the number of inserted
bytes. What a node covers is the same text as before, so every old statement is
alike the statement that it becomes, and its place is alike the place where it
comes to stand.

## Main definitions

* `Node.shift` — a tree moved forward.
* `Node.Everywhere` — every node of a tree has a property.
* `Insertion` — a program with one more statement.

## Main results

* `Node.alike_of_stop_le`, `Node.alike_shift` — nodes before the insertion, and
  those behind it.
* `Insertion.earlier_alike`, `Insertion.later_alike` — the places of old
  statements.
-/

namespace ChunkGraph.Syntax

open Text.Utf8 (encode)

namespace Node

mutual

/-- A tree moved forward by a number of bytes. -/
def shift (distance : Nat) : Node → Node
  | .mk kind named field start stop children =>
      .mk kind named field (start + distance) (stop + distance) (shifts distance children)

/-- Trees moved forward by a number of bytes. -/
def shifts (distance : Nat) : List Node → List Node
  | [] => []
  | node :: rest => node.shift distance :: shifts distance rest

end

theorem shifts_eq_map (distance : Nat) (nodes : List Node) :
    shifts distance nodes = nodes.map (·.shift distance) := by
  induction nodes with
  | nil => rfl
  | cons node rest ih => rw [shifts, ih, List.map_cons]

/-- Every node of a tree has the property. -/
inductive Everywhere (p : Node → Prop) : Node → Prop where
  /-- The node has it, and so has every node below each child. -/
  | intro {node : Node} (here : p node) (below : ∀ child ∈ node.children, child.Everywhere p) :
      Everywhere p node

/-- Where the spans of a tree fit together, the root decides for all nodes where they end. -/
theorem WellSpanned.everywhere_stop_le {node : Node} (h : node.WellSpanned) {bound : Nat}
    (hstop : node.stop ≤ bound) : node.Everywhere (·.stop ≤ bound) := by
  induction h with
  | @intro node _ inside _ _ ih =>
      exact .intro hstop fun child hchild =>
        ih child hchild (Nat.le_trans (inside child hchild).2 hstop)

/-- The same for where they start. -/
theorem WellSpanned.everywhere_le_start {node : Node} (h : node.WellSpanned) {bound : Nat}
    (hstart : bound ≤ node.start) : node.Everywhere (bound ≤ ·.start) := by
  induction h with
  | @intro node _ inside _ _ ih =>
      exact .intro hstart fun child hchild =>
        ih child hchild (Nat.le_trans hstart (inside child hchild).1)

variable {tree tree' : Tree} {front added back other : List UInt8}

/-- The bytes up to the end of a beginning that two sources have in common. -/
theorem bytesBetween_of_stop_le {start stop : Nat} (h : stop ≤ front.length) :
    bytesBetween (front ++ back) start stop = bytesBetween (front ++ other) start stop := by
  unfold bytesBetween
  by_cases hstart : start ≤ front.length
  · have hlength : stop - start ≤ (front.drop start).length := by
      rw [List.length_drop]
      omega
    rw [List.drop_append_of_le_length hstart, List.drop_append_of_le_length hstart,
      List.take_append_of_le_length hlength, List.take_append_of_le_length hlength]
  · have hnone : stop - start = 0 := by omega
    rw [hnone, List.take_zero, List.take_zero]

/-- The bytes behind an insertion. -/
theorem bytesBetween_shift {start : Nat} (h : front.length ≤ start) (stop : Nat) :
    bytesBetween (front ++ back) start stop =
      bytesBetween (front ++ (added ++ back)) (start + added.length) (stop + added.length) := by
  obtain ⟨offset, rfl⟩ := Nat.exists_eq_add_of_le h
  unfold bytesBetween
  have hold : (front ++ back).drop (front.length + offset) = back.drop offset :=
    List.drop_length_add_append ..
  have hnew : (front ++ (added ++ back)).drop (front.length + offset + added.length) =
      back.drop offset := by
    rw [Nat.add_assoc, Nat.add_comm offset, List.drop_length_add_append,
      List.drop_length_add_append]
  rw [hold, hnew, Nat.add_sub_add_right]

/-- A tree that ends before the insertion is alike itself. -/
theorem alike_of_stop_le (hsource : tree.source = front ++ back)
    (hsource' : tree'.source = front ++ other) {node : Node}
    (h : node.Everywhere (·.stop ≤ front.length)) : Node.Alike tree tree' node node := by
  induction h with
  | @intro node hstop _ ih =>
      obtain ⟨kind, named, field, start, stop, children⟩ := node
      refine .mk ?_ (List.forall₂_same.mpr ih)
      have hbytes : bytesBetween (front ++ back) start stop =
          bytesBetween (front ++ other) start stop := bytesBetween_of_stop_le hstop
      unfold Tree.textBetween
      rw [hsource, hsource', hbytes]

/-- A tree behind the insertion is alike the tree that it becomes. -/
theorem alike_shift (hsource : tree.source = front ++ back)
    (hsource' : tree'.source = front ++ (added ++ back)) {node : Node}
    (h : node.Everywhere (front.length ≤ ·.start)) :
    Node.Alike tree tree' node (node.shift added.length) := by
  induction h with
  | @intro node hstart _ ih =>
      obtain ⟨kind, named, field, start, stop, children⟩ := node
      rw [shift]
      refine .mk ?_ ?_
      · have hbytes : bytesBetween (front ++ back) start stop = bytesBetween
            (front ++ (added ++ back)) (start + added.length) (stop + added.length) :=
          bytesBetween_shift hstart stop
        unfold Tree.textBetween
        rw [hsource, hsource', hbytes]
      · rw [shifts_eq_map]
        exact List.forall₂_map_right_iff.mpr (List.forall₂_same.mpr ih)

end Node

/-- A program with one more statement: the texts before it, of it and behind it, and the statements
before it, itself, and behind it. -/
structure Insertion (code edited : String) (root editedRoot : Node) where
  /-- The text before the statement. -/
  front : String
  /-- The text that is inserted. -/
  added : String
  /-- The text behind the statement. -/
  back : String
  /-- The statements before. -/
  earlier : List Node
  /-- The statement that is inserted. -/
  statement : Node
  /-- The statements behind, where they stood. -/
  later : List Node
  /-- The text without the statement. -/
  code_eq : code = front ++ back
  /-- The text with the statement. -/
  edited_eq : edited = front ++ added ++ back
  /-- The roots are of the same kind. -/
  kind_eq : root.kind = editedRoot.kind
  /-- The program without the statement. -/
  children_eq : root.children = earlier ++ later
  /-- The program with the statement; those behind it are moved. -/
  edited_children_eq : editedRoot.children =
    earlier ++ statement :: later.map (·.shift (encode added.toList).length)
  /-- The statements before it end before it. -/
  earlier_stop : ∀ node ∈ earlier, node.Everywhere (·.stop ≤ (encode front.toList).length)
  /-- The statements behind it start behind it. -/
  later_start : ∀ node ∈ later, node.Everywhere ((encode front.toList).length ≤ ·.start)

theorem placed_append (parent : Node) (above : List Frame) (before nodes more : List Node) :
    placed parent above before (nodes ++ more) =
      placed parent above before nodes ++ placed parent above (nodes.reverse ++ before) more := by
  induction nodes generalizing before with
  | nil => rfl
  | cons node nodes ih =>
      rw [List.cons_append, placed, placed, ih, List.reverse_cons, List.append_assoc]
      rfl

namespace Insertion

variable {code edited : String} {root editedRoot : Node} (e : Insertion code edited root editedRoot)

/-- The places before the insertion, in the old program. -/
def oldEarlier : List Cursor := placed root [] [] e.earlier

/-- The places behind the insertion, in the old program. -/
def oldLater : List Cursor := placed root [] e.earlier.reverse e.later

/-- The places before the insertion. -/
def newEarlier : List Cursor := placed editedRoot [] [] e.earlier

/-- The place of the statement that is inserted. -/
def place : Cursor := ⟨e.statement, [⟨editedRoot, e.earlier.reverse⟩]⟩

/-- The places behind the insertion. -/
def newLater : List Cursor :=
  placed editedRoot [] (e.statement :: e.earlier.reverse)
    (e.later.map (·.shift (encode e.added.toList).length))

theorem children_root : (Cursor.ofRoot root).children = e.oldEarlier ++ e.oldLater := by
  show placed root [] [] root.children = _
  rw [e.children_eq, placed_append, List.append_nil]
  rfl

theorem children_editedRoot :
    (Cursor.ofRoot editedRoot).children = e.newEarlier ++ e.place :: e.newLater := by
  show placed editedRoot [] [] editedRoot.children = _
  rw [e.edited_children_eq, placed_append, List.append_nil, placed]
  rfl

theorem encode_code : encode code.toList = encode e.front.toList ++ encode e.back.toList := by
  refine (congrArg (fun text : String => encode text.toList) e.code_eq).trans ?_
  rw [String.toList_append, Text.Utf8.encode_append]

theorem encode_edited : encode edited.toList =
    encode e.front.toList ++ (encode e.added.toList ++ encode e.back.toList) := by
  refine (congrArg (fun text : String => encode text.toList) e.edited_eq).trans ?_
  rw [String.toList_append, String.toList_append, Text.Utf8.encode_append,
    Text.Utf8.encode_append, List.append_assoc]

variable {tree tree' : Tree} (hsource : tree.source = encode code.toList)
  (hsource' : tree'.source = encode edited.toList)

include hsource hsource'

/-- The places before the insertion are alike the same places without it. -/
theorem earlier_alike : List.Forall₂ (Cursor.Alike tree tree') e.oldEarlier e.newEarlier := by
  refine Cursor.Alike.placed e.kind_eq rfl (List.forall₂_same.mpr fun node hnode => ?_) [] []
  exact Node.alike_of_stop_le (hsource.trans e.encode_code) (hsource'.trans e.encode_edited)
    (e.earlier_stop node hnode)

/-- The places behind the insertion are alike those where they stood. -/
theorem later_alike : List.Forall₂ (Cursor.Alike tree tree') e.oldLater e.newLater := by
  refine Cursor.Alike.placed e.kind_eq rfl ?_ _ _
  refine List.forall₂_map_right_iff.mpr (List.forall₂_same.mpr fun node hnode => ?_)
  exact Node.alike_shift (hsource.trans e.encode_code) (hsource'.trans e.encode_edited)
    (e.later_start node hnode)

end Insertion

end ChunkGraph.Syntax
