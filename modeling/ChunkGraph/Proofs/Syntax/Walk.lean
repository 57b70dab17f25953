import ChunkGraph.Proofs.Syntax.Order

/-!
# A walk with a stack

A walk is a loop over a stack. It takes off the place that was put on last, and
puts the children of that place on in its stead, the last child first, so that
the first one is next. It puts nothing on where it stops, unless that is the place
at which it began.

After each step, what has been visited, followed by the pre-order of each place
on the stack from the top down, is the same list. In the end the stack is empty,
so the list is what has been visited. A step takes one node off the trees on the
stack, so there are no more steps than nodes.

## Main definitions

* `WalkLoop`, `WalkLoop.Step`, `WalkLoop.Runs` — the loop and its steps.
* `WalkLoop.work` — the nodes that are still to be visited.
* `WalkLoop.Sound` — what has been visited and what is still to come.
* `Cursor.Visited` — a place that nothing keeps the walk from.

## Main results

* `walk_eq_preorder`, `walkAll_eq_preorder` — the walk as a recursion.
* `WalkLoop.Runs.add_work_le`, `WalkLoop.exists_halted` — the loop comes to an end.
* `WalkLoop.Runs.visited_eq` — what it has visited then.
* `mem_walk_iff`, `walk_sublist` — the places of a walk, and their order.
-/

namespace ChunkGraph.Syntax

open Relation Cursor

/-! ## The walk as a recursion -/

/-- The walk goes through the pending places one after the other, each in pre-order. -/
theorem walkPending_eq_flatMap (stop : Cursor → Bool) (pending : List Cursor) :
    walkPending stop pending = pending.flatMap fun c => preorder stop c.above c.node := by
  fun_induction walkPending stop pending with
  | case1 => rfl
  | case2 c rest hstop ih =>
      rw [ih, List.flatMap_cons, preorder_eq, if_pos hstop]
      rfl
  | case3 c rest hgo ih =>
      rw [ih, List.flatMap_cons, preorder_eq, if_neg hgo, List.flatMap_append]
      rfl

/-- A walk visits the place at which it begins, and then what is below each of its children in
pre-order. -/
theorem walk_eq_preorder (stop : Cursor → Bool) (c : Cursor) :
    walk stop c = c :: c.children.flatMap fun child => preorder stop child.above child.node := by
  rw [walk, walkPending_eq_flatMap]

theorem walkAll_eq_preorder (c : Cursor) :
    walkAll c = preorder (fun _ => false) c.above c.node := by
  rw [preorder_eq, if_neg Bool.false_ne_true, walkAll, walk, walkPending_eq_flatMap]

/-! ## The loop -/

/-- Where a walk stands. -/
structure WalkLoop where
  /-- The places that are still to be visited, the next one last. -/
  stack : List Cursor
  /-- The places that have been visited. -/
  visited : List Cursor := []

namespace WalkLoop

variable {stop : Cursor → Bool} {top : Cursor} {loop next last : WalkLoop} {n : Nat}

/-- One step of a walk that begins at `top`. -/
inductive Step (stop : Cursor → Bool) (top : Cursor) : WalkLoop → WalkLoop → Prop where
  /-- The children of the last place of the stack take its place, the first of them last. -/
  | enter {stack visited : List Cursor} {c : Cursor} (hgo : c = top ∨ stop c = false) :
      Step stop top ⟨stack ++ [c], visited⟩ ⟨stack ++ c.children.reverse, visited ++ [c]⟩
  /-- The walk does not go below the last place of the stack. -/
  | pass {stack visited : List Cursor} {c : Cursor} (hne : c ≠ top) (hstop : stop c = true) :
      Step stop top ⟨stack ++ [c], visited⟩ ⟨stack, visited ++ [c]⟩

/-- The loop comes from one state to another in a number of steps. -/
inductive Runs (stop : Cursor → Bool) (top : Cursor) : Nat → WalkLoop → WalkLoop → Prop where
  | stay (loop : WalkLoop) : Runs stop top 0 loop loop
  | step {n : Nat} {loop next last : WalkLoop} (first : Step stop top loop next)
      (rest : Runs stop top n next last) : Runs stop top (n + 1) loop last

/-- The loop goes on as long as the stack is not empty. -/
theorem exists_step (stop : Cursor → Bool) (top : Cursor) (h : loop.stack ≠ []) :
    ∃ next, Step stop top loop next := by
  obtain ⟨stack, visited⟩ := loop
  obtain ⟨rest, c, rfl⟩ := (List.eq_nil_or_concat' stack).resolve_left h
  by_cases hgo : c = top ∨ stop c = false
  · exact ⟨_, .enter hgo⟩
  · obtain ⟨hne, hstop⟩ := not_or.mp hgo
    exact ⟨_, .pass hne (Bool.not_eq_false _ ▸ hstop)⟩

/-- The places on the stack, the next one first. -/
def pending (loop : WalkLoop) : List Cursor := loop.stack.reverse

/-- What a step does to the places that are still to be visited. -/
theorem Step.pending_cases (h : Step stop top loop next) :
    ∃ c rest, loop.pending = c :: rest ∧ next.visited = loop.visited ++ [c] ∧
      ((c = top ∨ stop c = false) ∧ next.pending = c.children ++ rest ∨
        c ≠ top ∧ stop c = true ∧ next.pending = rest) := by
  cases h with
  | @enter stack visited c hgo =>
      exact ⟨c, stack.reverse, by simp [pending], rfl, Or.inl ⟨hgo, by simp [pending]⟩⟩
  | @pass stack visited c hne hstop =>
      exact ⟨c, stack.reverse, by simp [pending], rfl, Or.inr ⟨hne, hstop, rfl⟩⟩

/-! ## The loop comes to an end -/

/-- The nodes of the trees on the stack. -/
def work (loop : WalkLoop) : Nat := pendingSize loop.pending

/-- Each step leaves fewer nodes. -/
theorem Step.work_lt (h : Step stop top loop next) : next.work < loop.work := by
  obtain ⟨c, rest, hpending, -, ⟨-, hnext⟩ | ⟨-, -, hnext⟩⟩ := h.pending_cases
  · have hsize := pendingSize_children_append c rest
    rw [work, work, hpending, hnext, pendingSize_cons]
    omega
  · have hsize := Node.size_pos c.node
    rw [work, work, hpending, hnext, pendingSize_cons]
    omega

/-- A run has at most as many steps as there are nodes at its start. -/
theorem Runs.add_work_le (h : Runs stop top n loop last) : n + last.work ≤ loop.work := by
  induction h with
  | stay loop => exact Nat.le_of_eq (Nat.zero_add _)
  | step first rest ih =>
      have hless := first.work_lt
      omega

/-- The loop comes to an end from every state. -/
theorem exists_halted (stop : Cursor → Bool) (top : Cursor) (loop : WalkLoop) :
    ∃ n last, Runs stop top n loop last ∧ last.stack = [] := by
  induction hwork : loop.work using Nat.strongRecOn generalizing loop with
  | ind work ih =>
      by_cases hstack : loop.stack = []
      · exact ⟨0, loop, .stay loop, hstack⟩
      · obtain ⟨next, hstep⟩ := exists_step stop top hstack
        obtain ⟨n, last, hruns, hhalted⟩ := ih _ (hwork ▸ hstep.work_lt) next rfl
        exact ⟨n + 1, last, .step hstep hruns, hhalted⟩

/-! ## What has been visited -/

/-- The loop has begun. What it has visited, and the pre-orders of the places on its stack from the
top down, make up the walk. -/
structure Sound (stop : Cursor → Bool) (top : Cursor) (loop : WalkLoop) : Prop where
  /-- All places on the stack are below the one where the walk began. -/
  below : ∀ c ∈ loop.pending, TransGen IsChild top c
  /-- What has been visited and what is still to come. -/
  visited_append :
    loop.visited ++ loop.pending.flatMap (fun c => preorder stop c.above c.node) = walk stop top

/-- The first step visits the place at which the walk begins, and enters it. -/
theorem sound_of_first (h : Step stop top ⟨[top], []⟩ next) : Sound stop top next := by
  obtain ⟨c, rest, hpending, hvisited, hcase⟩ := h.pending_cases
  obtain ⟨rfl, rfl⟩ := List.cons.inj (show [top] = c :: rest from hpending)
  rcases hcase with ⟨-, hnext⟩ | ⟨hne, -⟩
  · rw [List.append_nil] at hnext
    refine ⟨fun child hchild => ?_, ?_⟩
    · rw [hnext] at hchild
      exact .single hchild
    · rw [hvisited, hnext, walk_eq_preorder]
      rfl
  · exact absurd rfl hne

/-- The children of a place come before the places that were on the stack below it. -/
theorem Sound.step (h : Sound stop top loop) (hstep : Step stop top loop next) :
    Sound stop top next := by
  obtain ⟨hbelow, hsame⟩ := h
  obtain ⟨c, rest, hpending, hvisited, hcase⟩ := hstep.pending_cases
  rw [hpending] at hbelow
  rw [hpending, List.flatMap_cons, preorder_eq] at hsame
  have hc : TransGen IsChild top c := hbelow c List.mem_cons_self
  rcases hcase with ⟨hgo, hnext⟩ | ⟨-, hstop, hnext⟩
  · -- The place is below the one at which the walk began, so it is not exempt.
    have hgoes : ¬stop c = true := by
      rcases hgo with rfl | hgo
      · exact absurd (size_lt_of_below hc) (Nat.lt_irrefl _)
      · rw [hgo]
        exact Bool.false_ne_true
    rw [if_neg hgoes] at hsame
    refine ⟨fun place hplace => ?_, ?_⟩
    · rw [hnext] at hplace
      rcases List.mem_append.mp hplace with hchild | hrest
      · exact hc.tail hchild
      · exact hbelow place (List.mem_cons_of_mem _ hrest)
    · rw [hvisited, hnext, List.flatMap_append, List.append_assoc]
      exact hsame
  · rw [if_pos hstop] at hsame
    refine ⟨fun place hplace => hbelow place (List.mem_cons_of_mem _ (hnext ▸ hplace)), ?_⟩
    rw [hvisited, hnext, List.append_assoc]
    exact hsame

theorem Sound.runs (h : Sound stop top loop) (hruns : Runs stop top n loop last) :
    Sound stop top last := by
  induction hruns with
  | stay loop => exact h
  | step first rest ih => exact ih (h.step first)

/-- When the stack is empty, the walk has been visited. -/
theorem Runs.visited_eq (h : Runs stop top n ⟨[top], []⟩ last) (hhalted : last.stack = []) :
    last.visited = walk stop top := by
  cases h with
  | stay => exact absurd hhalted (List.cons_ne_nil _ _)
  | step first rest =>
      have hsame := ((sound_of_first first).runs rest).visited_append
      rwa [pending, hhalted, List.reverse_nil, List.flatMap_nil, List.append_nil] at hsame

end WalkLoop

/-! ## The places of a walk -/

variable {stop : Cursor → Bool} {a b c child : Cursor}

/-- A place is visited if no place strictly between the first one and it stops the walk. -/
structure Cursor.Visited (stop : Cursor → Bool) (top c : Cursor) : Prop where
  /-- It is the place at which the walk begins, or below it. -/
  below : ReflTransGen IsChild top c
  /-- What stands strictly between does not stop the walk. -/
  between : ∀ m, TransGen IsChild top m → TransGen IsChild m c → stop m = false

theorem Cursor.Visited.refl (stop : Cursor → Bool) (c : Cursor) : Visited stop c c :=
  ⟨.refl, fun _ hdown hup => absurd (size_lt_of_below (hdown.trans hup)) (Nat.lt_irrefl _)⟩

/-- Going through a child, a walk gets further if it does not stop there. -/
theorem Cursor.visited_iff_of_child (hchild : IsChild a child)
    (hb : ReflTransGen IsChild child b) :
    Visited stop a b ↔ b = child ∨ stop child = false ∧ Visited stop child b := by
  constructor
  · intro h
    rcases reflTransGen_iff_eq_or_transGen.mp hb with rfl | hbelow
    · exact Or.inl rfl
    · exact Or.inr ⟨h.between child (.single hchild) hbelow, hb, fun m hm hmb =>
        h.between m (.head hchild hm) hmb⟩
  · intro h
    refine ⟨.head hchild hb, fun m hm hmb => ?_⟩
    obtain ⟨first, hfirst, hdown⟩ := TransGen.head'_iff.mp hm
    obtain rfl : first = child :=
      hfirst.eq_of_common hchild (hdown.trans hmb.to_reflTransGen) hb
    rcases h with rfl | ⟨hgo, hvisited⟩
    · have hless := size_lt_of_below hmb
      have hle := size_le_of_below hdown
      omega
    · rcases reflTransGen_iff_eq_or_transGen.mp hdown with rfl | hbetween
      · exact hgo
      · exact hvisited.between m hbetween hmb

/-- A walk by those that begin at the children. -/
theorem walk_eq (stop : Cursor → Bool) (c : Cursor) :
    walk stop c =
      c :: c.children.flatMap fun child => if stop child then [child] else walk stop child := by
  have hpreorder (child : Cursor) : preorder stop child.above child.node =
      if stop child then [child] else walk stop child := by
    rw [preorder_eq, walk_eq_preorder]
  rw [walk_eq_preorder]
  simp only [hpreorder]

/-- A walk leaves out what is below the places where it stops, and nothing else. -/
theorem mem_walk_iff (stop : Cursor → Bool) (a b : Cursor) :
    b ∈ walk stop a ↔ Visited stop a b := by
  induction hsize : a.node.size using Nat.strongRecOn generalizing a with
  | ind size ih =>
      rw [walk_eq, List.mem_cons, List.mem_flatMap]
      constructor
      · rintro (rfl | ⟨child, hchild, hb⟩)
        · exact .refl stop b
        · have hvisited := ih _ (hsize ▸ size_lt_of_mem_children hchild) child rfl
          split at hb
          · rw [List.mem_singleton.mp hb]
            exact (visited_iff_of_child hchild .refl).mpr (Or.inl rfl)
          · rename_i hgo
            have hrest := hvisited.mp hb
            exact (visited_iff_of_child hchild hrest.below).mpr
              (Or.inr ⟨Bool.not_eq_true _ ▸ hgo, hrest⟩)
      · intro h
        rcases ReflTransGen.cases_head_iff.mp h.below with rfl | ⟨child, hchild, hbelow⟩
        · exact Or.inl rfl
        · refine Or.inr ⟨child, hchild, ?_⟩
          have hvisited := ih _ (hsize ▸ size_lt_of_mem_children hchild) child rfl
          rcases (visited_iff_of_child hchild hbelow).mp h with rfl | ⟨hgo, hrest⟩
          · split
            · exact List.mem_singleton_self _
            · exact hvisited.mpr (.refl stop b)
          · rw [hgo]
            exact hvisited.mpr hrest

/-- A walk is in document order. -/
theorem walk_sublist (stop : Cursor → Bool) (c : Cursor) :
    (walk stop c).Sublist c.documentOrder := by
  induction hsize : c.node.size using Nat.strongRecOn generalizing c with
  | ind size ih =>
      rw [walk_eq, documentOrder_eq]
      refine (List.Sublist.flatMap_right _ fun child hchild => ?_).cons_cons c
      split
      · rw [documentOrder_eq]
        exact (List.nil_sublist _).cons_cons child
      · exact ih _ (hsize ▸ size_lt_of_mem_children hchild) child rfl

end ChunkGraph.Syntax
