import ChunkGraph.Proofs.Chunk.Groups
import ChunkGraph.Proofs.Data.Keyed
import ChunkGraph.Proofs.Graph.Reachability

/-!
# The order of the closure

A depth-first search by recursion visits an identity, follows its edges from the
first to the last, and visits what each of them leads to before it follows the
next one. It meets an identity whenever an edge leads there, visited or not. The
search with a stack visits the same identities in the same order, because
following one list of edges and then another is following both as one list.

The closure is not the list of what is met. A visit notes all targets at once,
the last of them first, so the closure lists the targets of one visited identity
after those of another. The two orders are the same exactly if no visit notes
two identities: from the first visit that does, one list goes on with the first
new target and the other one with the last.

## Main definitions

* `DepthFirst.follow`, `DepthFirst.tour` — depth-first search by recursion.
* `DepthFirst.visitOrder`, `DepthFirst.meetOrder` — the order of its visits and
  that in which it first meets identities.
* `DepthFirst.AddsOneEach` — each visit leads to one new identity at most.

## Main results

* `DepthFirst.follow_append` — two lists of edges are followed one after the other.
* `DepthFirst.search_eq` — the search with a stack visits in the same order.
* `DepthFirst.closure_eq_eraseDups` — the order of the closure.
* `DepthFirst.closure_order` — when it is the order in which identities are met.
* `DepthFirst.closure_lists_last_first` — two targets in the other order.
-/

namespace ChunkGraph

/-- Visiting more identities leaves no more to follow. -/
theorem unvisitedWeight_append_le (graph : Graph) (more visited : List String) :
    unvisitedWeight (more ++ visited) graph ≤ unvisitedWeight visited graph := by
  induction more with
  | nil => exact Nat.le_refl _
  | cons id more ih => exact Nat.le_trans (unvisitedWeight_cons_le graph (more ++ visited) id) ih

namespace DepthFirst

/-! ## Depth-first search by recursion -/

/-- What a depth-first search does. -/
inductive Event where
  /-- It visits an identity. -/
  | visit (id : String)
  /-- It follows an edge to an identity. -/
  | meet (id : String)
  deriving DecidableEq, Repr

/-- The visited identities in order. -/
def visits (events : List Event) : List String :=
  events.filterMap fun
    | .visit id => some id
    | .meet _ => none

/-- The identities that edges are followed to, in order. -/
def meets (events : List Event) : List String :=
  events.filterMap fun
    | .visit _ => none
    | .meet id => some id

/-- Following edges to `targets` one after the other, where `visited` have been visited, the last
of them first. A target that has not been visited is visited, and its own edges are followed before
the next target. -/
def follow (graph : Graph) (visited : List String) : List String → List Event
  | [] => []
  | target :: targets =>
      if target ∈ visited then .meet target :: follow graph visited targets
      else
        let below := follow graph (target :: visited) (graph.targets target)
        .meet target :: .visit target :: below ++
          follow graph ((visits below).reverse ++ target :: visited) targets
termination_by targets => targets.length + unvisitedWeight visited graph
decreasing_by
  · simp
  · have := unvisitedWeight_add_targets_le graph visited target ‹_›
    simp only [List.length_cons]
    omega
  · exact Nat.add_lt_add_of_lt_of_le (Nat.lt_succ_self _)
      (Nat.le_trans (unvisitedWeight_append_le ..) (unvisitedWeight_cons_le ..))

/-- Searching from one root after the other. A root is visited, but no edge leads to it. -/
def tour (graph : Graph) (visited : List String) : List String → List Event
  | [] => []
  | root :: roots =>
      if root ∈ visited then tour graph visited roots
      else
        let below := follow graph (root :: visited) (graph.targets root)
        .visit root :: below ++ tour graph ((visits below).reverse ++ root :: visited) roots

/-- The identities in the order in which the search visits them. -/
def visitOrder (graph : Graph) (roots : List String) : List String := visits (tour graph [] roots)

/-- The identities in the order in which the search meets them for the first time. -/
def meetOrder (graph : Graph) (roots : List String) : List String :=
  (meets (tour graph [] roots)).eraseDups

@[simp] theorem visits_nil : visits [] = [] := rfl

@[simp] theorem visits_visit (id : String) (events : List Event) :
    visits (.visit id :: events) = id :: visits events := rfl

@[simp] theorem visits_meet (id : String) (events : List Event) :
    visits (.meet id :: events) = visits events := rfl

@[simp] theorem visits_append (front back : List Event) :
    visits (front ++ back) = visits front ++ visits back := List.filterMap_append

@[simp] theorem meets_nil : meets [] = [] := rfl

@[simp] theorem meets_visit (id : String) (events : List Event) :
    meets (.visit id :: events) = meets events := rfl

@[simp] theorem meets_meet (id : String) (events : List Event) :
    meets (.meet id :: events) = id :: meets events := rfl

@[simp] theorem meets_map_meet (ids : List String) : meets (ids.map .meet) = ids := by
  rw [meets, List.filterMap_map]
  exact List.filterMap_some

@[simp] theorem meets_append (front back : List Event) :
    meets (front ++ back) = meets front ++ meets back := List.filterMap_append

/-! ## One list of edges after another -/

section Follow

variable {graph : Graph} {visited : List String} {target : String}

@[simp] theorem follow_nil : follow graph visited [] = [] := by
  rw [follow]

/-- A target that has been visited is met once more. -/
theorem follow_cons_of_mem (h : target ∈ visited) (targets : List String) :
    follow graph visited (target :: targets) = .meet target :: follow graph visited targets := by
  rw [follow, if_pos h]

/-- Two lists of edges are followed one after the other. -/
theorem follow_append (graph : Graph) (visited front back : List String) :
    follow graph visited (front ++ back) =
      follow graph visited front ++
        follow graph ((visits (follow graph visited front)).reverse ++ visited) back := by
  fun_induction follow graph visited front with
  | case1 visited => rfl
  | case2 visited target targets hseen ih =>
      rw [List.cons_append, follow_cons_of_mem hseen, ih]
      rfl
  | case3 visited target targets hnew below _ ih =>
      rw [List.cons_append, follow, if_neg hnew]
      simp [below, ih]

/-- The edges of a target that has not been visited are followed before the ones that are left, as
if all of them were one list. -/
theorem follow_cons_of_not_mem (h : target ∉ visited) (targets : List String) :
    follow graph visited (target :: targets) =
      .meet target :: .visit target ::
        follow graph (target :: visited) (graph.targets target ++ targets) := by
  rw [follow, if_neg h, follow_append]
  rfl

/-- Whether it has been visited or not, the first target is met first. -/
theorem exists_follow_cons (graph : Graph) (visited : List String) (target : String)
    (targets : List String) :
    ∃ events, follow graph visited (target :: targets) = .meet target :: events := by
  by_cases h : target ∈ visited
  · exact ⟨_, follow_cons_of_mem h targets⟩
  · exact ⟨_, follow_cons_of_not_mem h targets⟩

/-- Edges to visited identities visit nothing. -/
theorem follow_append_of_forall_mem {front : List String} (h : ∀ id ∈ front, id ∈ visited)
    (back : List String) :
    follow graph visited (front ++ back) = front.map .meet ++ follow graph visited back := by
  induction front with
  | nil => rfl
  | cons id front ih =>
      rw [List.cons_append, follow_cons_of_mem (h id List.mem_cons_self),
        ih fun other hother => h other (List.mem_cons_of_mem id hother)]
      rfl

end Follow

/-! ## The search with a stack -/

/-- The identities noted at the visit of one more, the last of its targets first. -/
def note (graph : Graph) (noted : List String) (id : String) : List String :=
  (graph.targets id).reverse.foldl addId noted

/-- What a search has visited and noted after some more visits. -/
def after (graph : Graph) (s : Search) (ids : List String) : Search :=
  { visited := ids.reverse ++ s.visited
    reached := ids.foldl (note graph) s.reached }

/-- The search with a stack visits what is visited by following its stack like a list of edges. -/
theorem search_eq (graph : Graph) (stack : List String) (s : Search) :
    search graph stack s = after graph s (visits (follow graph s.visited stack)) := by
  fun_induction search graph stack s with
  | case1 s => rw [follow_nil]; rfl
  | case2 id stack s hseen ih =>
      rw [ih, follow_cons_of_mem hseen]
      rfl
  | case3 id stack s hnew ih =>
      rw [ih, follow_cons_of_not_mem hnew]
      simp [after, note]

/-- A root leads to the visits that start at it. -/
theorem search_root (graph : Graph) (root : String) (s : Search) (h : root ∉ s.visited) :
    search graph [root] s =
      after graph s (root :: visits (follow graph (root :: s.visited) (graph.targets root))) := by
  rw [search_eq, follow_cons_of_not_mem h, List.append_nil]
  rfl

theorem foldl_search_eq (graph : Graph) (roots : List String) (s : Search) :
    roots.foldl (fun s root => search graph [root] s) s =
      after graph s (visits (tour graph s.visited roots)) := by
  induction roots generalizing s with
  | nil => rfl
  | cons root roots ih =>
      rw [List.foldl_cons, tour]
      split
      · rename_i hseen
        rw [search_eq, follow_cons_of_mem hseen, follow_nil, ih]
        rfl
      · rename_i hnew
        rw [search_root graph root s hnew, ih]
        simp [after]

/-- The closure notes the targets of one visited identity after those of another. -/
theorem closure_eq_foldl (graph : Graph) (roots : List String) :
    closure graph roots = (visitOrder graph roots).foldl (note graph) [] :=
  congrArg Search.reached (foldl_search_eq graph roots {})

theorem foldl_addId_eq (ids more : List String) :
    more.foldl addId ids = ids ++ (more.removeAll ids).eraseDups := appendNew_eq ids more

theorem foldl_addId_nil (ids : List String) : ids.foldl addId [] = ids.eraseDups := by
  rw [foldl_addId_eq]
  simp [List.removeAll]

/-- The order of the closure: the targets of every visited identity from the last to the first, the
identities in the order in which they are visited, and each where it occurs first. -/
theorem closure_eq_eraseDups (graph : Graph) (roots : List String) :
    closure graph roots =
      ((visitOrder graph roots).flatMap fun id => (graph.targets id).reverse).eraseDups := by
  rw [closure_eq_foldl, ← foldl_addId_nil, List.foldl_flatMap]
  rfl

/-! ## Where both orders agree -/

/-- Each of the identities leads to one at most that is not known by then. -/
def AddsOneEach (graph : Graph) (known : List String) : List String → Prop
  | [] => True
  | id :: ids =>
      (∀ a ∈ graph.targets id, ∀ b ∈ graph.targets id, a ∉ known → b ∉ known → a = b) ∧
        AddsOneEach graph (known ++ graph.targets id) ids

/-- It does not matter in which order identities became known. -/
theorem addsOneEach_congr {graph : Graph} {known known' : List String}
    (h : ∀ id, id ∈ known ↔ id ∈ known') (ids : List String) :
    AddsOneEach graph known ids ↔ AddsOneEach graph known' ids := by
  induction ids generalizing known known' with
  | nil => exact Iff.rfl
  | cons id ids ih =>
      have hnext : ∀ other,
          other ∈ known ++ graph.targets id ↔ other ∈ known' ++ graph.targets id := by
        intro other
        rw [List.mem_append, List.mem_append, h]
      simp only [AddsOneEach, h, ih hnext]

theorem mem_note (graph : Graph) (noted : List String) (id other : String) :
    other ∈ note graph noted id ↔ other ∈ noted ∨ other ∈ graph.targets id := by
  rw [note, mem_foldl_addId, List.mem_reverse]

theorem addsOneEach_cons (graph : Graph) (known : List String) (id : String) (ids : List String) :
    AddsOneEach graph known (id :: ids) ↔
      (∀ a ∈ graph.targets id, ∀ b ∈ graph.targets id, a ∉ known → b ∉ known → a = b) ∧
        AddsOneEach graph (note graph known id) ids := by
  have hsame : ∀ other, other ∈ known ++ graph.targets id ↔ other ∈ note graph known id := by
    intro other
    rw [List.mem_append, mem_note]
  rw [AddsOneEach, addsOneEach_congr hsame]

theorem addsOneEach_append (graph : Graph) (known front back : List String) :
    AddsOneEach graph known (front ++ back) ↔
      AddsOneEach graph known front ∧ AddsOneEach graph (front.foldl (note graph) known) back := by
  induction front generalizing known with
  | nil => exact (true_and _).to_iff.symm
  | cons id front ih =>
      rw [List.cons_append, addsOneEach_cons, addsOneEach_cons, ih, and_assoc]
      rfl

/-- Two lists begin alike and go on with different identities. -/
def Part (list other : List String) : Prop :=
  ∃ front x y, x ≠ y ∧ front ++ [x] <+: list ∧ front ++ [y] <+: other

theorem Part.ne {list other : List String} (h : Part list other) : list ≠ other := by
  obtain ⟨front, x, y, hne, hx, hy⟩ := h
  rintro rfl
  have hsame : front ++ [x] = front ++ [y] :=
    (List.prefix_of_prefix_length_le hx hy (by simp)).eq_of_length (by simp)
  exact hne (List.cons.inj (List.append_cancel_left hsame)).1

/-- Lists that have parted stay apart however they go on. -/
theorem Part.mono {list list' other other' : List String} (h : Part list other)
    (hlist : list <+: list') (hother : other <+: other') : Part list' other' := by
  obtain ⟨front, x, y, hne, hx, hy⟩ := h
  exact ⟨front, x, y, hne, hx.trans hlist, hy.trans hother⟩

theorem prefix_foldl_addId (ids more : List String) : ids <+: more.foldl addId ids := by
  rw [foldl_addId_eq]
  exact List.prefix_append _ _

theorem prefix_foldl_note (graph : Graph) (noted ids : List String) :
    noted <+: ids.foldl (note graph) noted := by
  induction ids generalizing noted with
  | nil => exact List.prefix_refl _
  | cons id ids ih => exact (prefix_foldl_addId noted _).trans (ih _)

/-- The first new identity of a list comes next. -/
theorem prefix_foldl_addId_of_first {ids front back : List String} {id : String}
    (hfront : ∀ other ∈ front, other ∈ ids) (hid : id ∉ ids) :
    ids ++ [id] <+: (front ++ id :: back).foldl addId ids := by
  have hold : front.removeAll ids = [] := by
    simpa [List.removeAll] using hfront
  have hnew : addId ids id = ids ++ [id] := by simp [addId, hid]
  rw [List.foldl_append, foldl_addId_eq ids front, hold, List.eraseDups_nil, List.append_nil,
    List.foldl_cons, hnew]
  exact prefix_foldl_addId _ back

theorem exists_first_not_mem {list ids : List String} {id : String} (h : id ∈ list)
    (hid : id ∉ ids) :
    ∃ front first back, list = front ++ first :: back ∧ (∀ other ∈ front, other ∈ ids) ∧
      first ∉ ids := by
  have hsome : (list.find? (· ∉ ids)).isSome := List.find?_isSome.mpr ⟨id, h, decide_eq_true hid⟩
  obtain ⟨first, hfind⟩ := Option.isSome_iff_exists.mp hsome
  obtain ⟨hfirst, front, back, hlist, hfront⟩ := List.find?_eq_some_iff_append.mp hfind
  exact ⟨front, first, back, hlist, by simpa using hfront, by simpa using hfirst⟩

/-- A search that has met the identities `met` and has edges to `stack` still to follow, where the
visits so far have led to one new identity each at most. Everything that has been met has been
visited, and of what has been noted only `ahead` has not been met, one identity at most. -/
structure Abreast (s : Search) (met ahead stack : List String) : Prop where
  reached_eq : s.reached = met ++ ahead
  visited_of_met : ∀ id ∈ met, id ∈ s.visited
  noted_of_open : ∀ id ∈ stack, id ∈ met ∨ id ∈ ahead
  open_of_ahead : ∀ id ∈ ahead, id ∈ stack ∧ id ∉ met
  ahead_le : ahead.length ≤ 1

variable {graph : Graph} {s : Search} {met ahead stack : List String} {id : String}

/-- When nothing is open, everything that has been noted has been met. -/
theorem Abreast.ahead_eq_nil (h : Abreast s met ahead []) : ahead = [] :=
  List.eq_nil_iff_forall_not_mem.mpr fun id hid =>
    absurd (h.open_of_ahead id hid).1 List.not_mem_nil

/-- An identity that is met is one of those met before, or the one ahead. -/
theorem Abreast.meet (h : Abreast s met ahead (id :: stack)) :
    id ∈ met ∧ addId met id = met ∧ (∀ other ∈ ahead, other ∈ stack) ∨
      id ∉ met ∧ addId met id = met ++ [id] ∧ ahead = [id] := by
  by_cases hid : id ∈ met
  · refine Or.inl ⟨hid, by simp [addId, hid], fun other hother => ?_⟩
    obtain ⟨hopen, hnew⟩ := h.open_of_ahead other hother
    exact (List.mem_cons.mp hopen).resolve_left fun hsame => hnew (hsame ▸ hid)
  · have hahead : id ∈ ahead := (h.noted_of_open id List.mem_cons_self).resolve_left hid
    obtain ⟨only, rfl⟩ := List.length_eq_one_iff.mp
      (Nat.le_antisymm h.ahead_le (List.length_pos_of_mem hahead))
    exact Or.inr ⟨hid, by simp [addId, hid], by rw [List.mem_singleton.mp hahead]⟩

/-- After an identity that has been visited is met once more. -/
theorem Abreast.again (h : Abreast s met ahead (id :: stack)) (hid : id ∈ s.visited) :
    ∃ ahead', Abreast s (addId met id) ahead' stack := by
  rcases h.meet with ⟨_, hmet, hahead⟩ | ⟨_, hmet, rfl⟩
  · rw [hmet]
    exact ⟨ahead, h.reached_eq, h.visited_of_met,
      fun other hother => h.noted_of_open other (List.mem_cons_of_mem id hother),
      fun other hother => ⟨hahead other hother, (h.open_of_ahead other hother).2⟩, h.ahead_le⟩
  · rw [hmet]
    refine ⟨[], by rw [h.reached_eq, List.append_nil], ?_, ?_, by simp, by simp⟩
    · intro other hother
      rcases List.mem_append.mp hother with hold | hlast
      · exact h.visited_of_met other hold
      · exact List.mem_singleton.mp hlast ▸ hid
    · intro other hother
      exact Or.inl (List.mem_append.mpr (h.noted_of_open other (List.mem_cons_of_mem id hother)))

/-- When an identity is met for the first time and marked as visited, everything noted is met. -/
theorem Abreast.mark (h : Abreast s met ahead (id :: stack)) (hid : id ∉ s.visited) :
    Abreast { s with visited := id :: s.visited } (addId met id) [] stack := by
  rcases h.meet with ⟨hold, _, _⟩ | ⟨_, hmet, rfl⟩
  · exact absurd (h.visited_of_met id hold) hid
  · rw [hmet]
    refine ⟨by rw [List.append_nil]; exact h.reached_eq, ?_, ?_, by simp, by simp⟩
    · intro other hother
      rcases List.mem_append.mp hother with hold | hlast
      · exact List.mem_cons_of_mem id (h.visited_of_met other hold)
      · rw [List.mem_singleton.mp hlast]
        exact List.mem_cons_self
    · intro other hother
      exact Or.inl (List.mem_append.mpr (h.noted_of_open other (List.mem_cons_of_mem id hother)))

/-- A visit that leads to one new identity at most gets one identity ahead at most. -/
theorem Abreast.visit (h : Abreast s met [] stack)
    (hone : ∀ a ∈ graph.targets id, ∀ b ∈ graph.targets id, a ∉ s.reached → b ∉ s.reached → a = b) :
    ∃ ahead, Abreast { s with reached := note graph s.reached id } met ahead
      (graph.targets id ++ stack) := by
  have hreached : s.reached = met := by rw [h.reached_eq, List.append_nil]
  rw [hreached] at hone ⊢
  have hmem (other : String) : other ∈ ((graph.targets id).reverse.removeAll met).eraseDups ↔
      other ∈ graph.targets id ∧ other ∉ met := by
    simp [List.removeAll]
  refine ⟨_, foldl_addId_eq met _, h.visited_of_met, ?_, ?_, ?_⟩
  · intro other hother
    by_cases hmet : other ∈ met
    · exact Or.inl hmet
    · rcases List.mem_append.mp hother with htarget | hstack
      · exact Or.inr ((hmem other).mpr ⟨htarget, hmet⟩)
      · exact Or.inl ((h.noted_of_open other hstack).resolve_right List.not_mem_nil)
  · intro other hother
    obtain ⟨htarget, hmet⟩ := (hmem other).mp hother
    exact ⟨List.mem_append_left stack htarget, hmet⟩
  · have hnodup : (((graph.targets id).reverse.removeAll met).eraseDups).Nodup := by
      rw [← foldl_addId_nil]
      exact nodup_foldl_addId _ [] List.nodup_nil
    match hlist : ((graph.targets id).reverse.removeAll met).eraseDups with
    | [] => exact Nat.zero_le 1
    | [_] => exact Nat.le_refl 1
    | a :: b :: rest =>
        rw [hlist] at hnodup
        obtain ⟨ha, hamet⟩ := (hmem a).mp (hlist ▸ List.mem_cons_self)
        obtain ⟨hb, hbmet⟩ := (hmem b).mp (hlist ▸ List.mem_cons_of_mem a List.mem_cons_self)
        have hab := hone a ha b hb hamet hbmet
        exact absurd (hab ▸ List.mem_cons_self) (List.nodup_cons.mp hnodup).1

/-- A visit that leads to two new identities notes the last of them, and the first is met. -/
theorem Abreast.part (h : Abreast s met [] stack) (hdistinct : (graph.targets id).Nodup)
    (htwo : ¬∀ a ∈ graph.targets id, ∀ b ∈ graph.targets id,
      a ∉ s.reached → b ∉ s.reached → a = b) :
    Part (note graph s.reached id)
      ((meets (follow graph s.visited (graph.targets id ++ stack))).foldl addId met) := by
  have hreached : s.reached = met := by rw [h.reached_eq, List.append_nil]
  rw [hreached] at htwo ⊢
  push Not at htwo
  obtain ⟨a, ha, b, hb, hamet, hbmet, hab⟩ := htwo
  obtain ⟨front, first, back, htargets, hfront, hfirst⟩ := exists_first_not_mem ha hamet
  rw [htargets] at hdistinct ha hb
  have hapart : first ∉ back :=
    (List.nodup_cons.mp (List.nodup_append.mp hdistinct).2.1).1
  -- Whichever of the two is not the first new target stands behind it.
  have hother : ∃ other ∈ back, other ∉ met := by
    have hplace (c : String) (hc : c ∈ front ++ first :: back) (hcmet : c ∉ met) :
        c = first ∨ c ∈ back := by
      rcases List.mem_append.mp hc with hold | hrest
      · exact absurd (hfront c hold) hcmet
      · exact List.mem_cons.mp hrest
    rcases hplace a ha hamet with rfl | haback
    · exact ⟨b, (hplace b hb hbmet).resolve_left (Ne.symm hab), hbmet⟩
    · exact ⟨a, haback, hamet⟩
  obtain ⟨other, hotherBack, hotherMet⟩ := hother
  obtain ⟨front', last, back', hback, hfront', hlast⟩ :=
    exists_first_not_mem (List.mem_reverse.mpr hotherBack) hotherMet
  have hlastBack : last ∈ back := by
    rw [← List.mem_reverse, hback]
    exact List.mem_append_right front' List.mem_cons_self
  refine ⟨met, last, first, fun hsame => hapart (hsame ▸ hlastBack), ?_, ?_⟩
  · have hreverse : (graph.targets id).reverse =
        front' ++ last :: (back' ++ first :: front.reverse) := by
      rw [htargets, List.reverse_append, List.reverse_cons, hback]
      simp
    rw [note, hreverse]
    exact prefix_foldl_addId_of_first hfront' hlast
  · have hseen : ∀ other ∈ front, other ∈ s.visited := fun other hother =>
      h.visited_of_met other (hfront other hother)
    obtain ⟨events, hevents⟩ := exists_follow_cons graph s.visited first (back ++ stack)
    rw [htargets, List.append_assoc, follow_append_of_forall_mem hseen, List.cons_append, hevents,
      meets_append, meets_map_meet, meets_meet]
    exact prefix_foldl_addId_of_first hfront hfirst

/-- How a search ends that visits `ids`, when it has met the identities `met`: it has met them in
the order in which it has noted them, or the two orders have parted for good. -/
def Ends (graph : Graph) (known ids : List String) (s : Search) (met : List String) : Prop :=
  AddsOneEach graph known ids ∧ Abreast s met [] [] ∨
    ¬AddsOneEach graph known ids ∧ ((∀ id, (graph.targets id).Nodup) → Part s.reached met)

/-- A search that goes on after another one. -/
theorem Ends.append {known front back met met' : List String} {s s' : Search}
    (hfront : Ends graph known front s met)
    (hback : Abreast s met [] [] → Ends graph (front.foldl (note graph) known) back s' met')
    (hreached : s.reached <+: s'.reached) (hmet : met <+: met') :
    Ends graph known (front ++ back) s' met' := by
  unfold Ends
  rw [addsOneEach_append]
  rcases hfront with ⟨hadds, habreast⟩ | ⟨hnot, hpart⟩
  · rcases hback habreast with ⟨hmore, hend⟩ | ⟨hnot, hpart⟩
    · exact Or.inl ⟨⟨hadds, hmore⟩, hend⟩
    · exact Or.inr ⟨fun hboth => hnot hboth.2, hpart⟩
  · exact Or.inr ⟨fun hboth => hnot hboth.1,
      fun hdistinct => (hpart hdistinct).mono hreached hmet⟩

/-- One more visit in front of a search. -/
theorem Abreast.expand (graph : Graph)
    (h : Abreast { s with visited := id :: s.visited } met [] stack)
    (hrest : ∀ ahead, Abreast ⟨id :: s.visited, note graph s.reached id⟩ met ahead
        (graph.targets id ++ stack) →
      Ends graph (note graph s.reached id)
        (visits (follow graph (id :: s.visited) (graph.targets id ++ stack)))
        (search graph (graph.targets id ++ stack) ⟨id :: s.visited, note graph s.reached id⟩)
        ((meets (follow graph (id :: s.visited) (graph.targets id ++ stack))).foldl addId met)) :
    Ends graph s.reached
      (id :: visits (follow graph (id :: s.visited) (graph.targets id ++ stack)))
      (search graph (graph.targets id ++ stack) ⟨id :: s.visited, note graph s.reached id⟩)
      ((meets (follow graph (id :: s.visited) (graph.targets id ++ stack))).foldl addId met) := by
  unfold Ends
  rw [addsOneEach_cons]
  by_cases hone : ∀ a ∈ graph.targets id, ∀ b ∈ graph.targets id,
      a ∉ s.reached → b ∉ s.reached → a = b
  · obtain ⟨ahead, hvisit⟩ := h.visit hone
    rcases hrest ahead hvisit with ⟨hadds, hend⟩ | ⟨hnot, hpart⟩
    · exact Or.inl ⟨⟨hone, hadds⟩, hend⟩
    · exact Or.inr ⟨fun hadds => hnot hadds.2, hpart⟩
  · refine Or.inr ⟨fun hadds => hone hadds.1, fun hdistinct => ?_⟩
    refine (h.part (hdistinct id) hone).mono ?_ (List.prefix_refl _)
    rw [search_eq]
    exact prefix_foldl_note graph _ _

/-- How a search from a stack ends. -/
theorem Abreast.search (h : Abreast s met ahead stack) :
    Ends graph s.reached (visits (follow graph s.visited stack)) (search graph stack s)
      ((meets (follow graph s.visited stack)).foldl addId met) := by
  fun_induction ChunkGraph.search graph stack s generalizing met ahead with
  | case1 s =>
      have hahead := h.ahead_eq_nil
      subst hahead
      rw [follow_nil]
      exact Or.inl ⟨trivial, h⟩
  | case2 id stack s hseen ih =>
      obtain ⟨ahead', hagain⟩ := h.again hseen
      rw [follow_cons_of_mem hseen]
      exact ih hagain
  | case3 id stack s hnew ih =>
      rw [follow_cons_of_not_mem hnew]
      exact (h.mark hnew).expand graph fun _ hvisit => ih hvisit

/-- How a search from one root after the other ends. -/
theorem Abreast.tour (graph : Graph) (h : Abreast s met [] []) (roots : List String) :
    Ends graph s.reached (visits (tour graph s.visited roots))
      (roots.foldl (fun s root => ChunkGraph.search graph [root] s) s)
      ((meets (tour graph s.visited roots)).foldl addId met) := by
  induction roots generalizing s met with
  | nil => exact Or.inl ⟨trivial, h⟩
  | cons root roots ih =>
      rw [List.foldl_cons, DepthFirst.tour]
      by_cases hseen : root ∈ s.visited
      · rw [if_pos hseen, search_cons_of_mem hseen, search_nil]
        exact ih h
      · have hmark : Abreast { s with visited := root :: s.visited } met [] [] :=
          ⟨h.reached_eq, fun id hid => List.mem_cons_of_mem root (h.visited_of_met id hid),
            h.noted_of_open, h.open_of_ahead, h.ahead_le⟩
        have hroot := hmark.expand graph fun _ hvisit => hvisit.search
        have hstate : ChunkGraph.search graph [root] s = ChunkGraph.search graph
            (graph.targets root ++ []) ⟨root :: s.visited, note graph s.reached root⟩ :=
          search_cons_of_not_mem hseen graph []
        have hsearch := search_root graph root s hseen
        rw [← hstate, List.append_nil] at hroot
        rw [if_neg hseen, List.cons_append, visits_visit, visits_append, meets_visit, meets_append,
          List.foldl_append, ← List.cons_append]
        refine hroot.append (fun habreast => ?_) ?_ (prefix_foldl_addId _ _)
        · have hrest := ih habreast
          rw [hsearch] at hrest ⊢
          simpa [after] using hrest
        · rw [foldl_search_eq]
          exact prefix_foldl_note graph _ _

/-! ## The closure -/

/-- How the search for the closure ends. -/
theorem ends_closure (graph : Graph) (roots : List String) :
    ∃ s : Search, s.reached = closure graph roots ∧
      Ends graph [] (visitOrder graph roots) s (meetOrder graph roots) := by
  have hstart : Abreast {} [] [] [] := ⟨rfl, by simp, by simp, by simp, by simp⟩
  have hend := hstart.tour graph roots
  rw [foldl_addId_nil] at hend
  exact ⟨_, rfl, hend⟩

/-- The closure lists the targets of every visited identity from the last to the first, the
identities in the order of a depth-first search, and each target where it occurs first. If every
visit leads to one new identity at most, this is the order in which the search meets identities. If
no identity leads to another one twice, it is that order in no other case. -/
theorem closure_order (graph : Graph) (roots : List String) :
    closure graph roots =
        ((visitOrder graph roots).flatMap fun id => (graph.targets id).reverse).eraseDups ∧
      (AddsOneEach graph [] (visitOrder graph roots) →
        closure graph roots = meetOrder graph roots) ∧
      ((∀ id, (graph.targets id).Nodup) → closure graph roots = meetOrder graph roots →
        AddsOneEach graph [] (visitOrder graph roots)) := by
  obtain ⟨s, hs, hend⟩ := ends_closure graph roots
  refine ⟨closure_eq_eraseDups graph roots, fun hadds => ?_, fun hdistinct hsame => ?_⟩
  · rcases hend with ⟨_, habreast⟩ | ⟨hnot, _⟩
    · rw [← hs, habreast.reached_eq, List.append_nil]
    · exact absurd hadds hnot
  · rcases hend with ⟨hadds, _⟩ | ⟨_, hpart⟩
    · exact hadds
    · exact absurd (hs.trans hsame) (hpart hdistinct).ne

/-- A chain with a way back, and a second root that leads into it and out of it. -/
def chainGraph : Graph := [("a", ["b"]), ("b", ["c"]), ("c", ["b"]), ("d", ["c", "e"])]

theorem visitOrder_chainGraph : visitOrder chainGraph ["a", "d"] = ["a", "b", "c", "d", "e"] := by
  simp [visitOrder, tour, follow, chainGraph, Graph.targets, List.lookup_cons]

/-- In the chain with a way back each visit leads to one new identity at most. -/
theorem closure_order_chain :
    (∀ id, (chainGraph.targets id).Nodup) ∧
      (closure chainGraph ["a", "d"] = meetOrder chainGraph ["a", "d"] ↔
        AddsOneEach chainGraph [] (visitOrder chainGraph ["a", "d"])) ∧
      AddsOneEach chainGraph [] (visitOrder chainGraph ["a", "d"]) ∧
      meetOrder chainGraph ["a", "d"] = ["b", "c", "e"] := by
  have hdistinct : ∀ id, (chainGraph.targets id).Nodup := by
    intro id
    have hentries : ∀ entry ∈ chainGraph, entry.2.Nodup := by decide
    unfold Graph.targets
    cases hlookup : chainGraph.lookup id with
    | none => exact List.nodup_nil
    | some targets => exact hentries _ (Keyed.mem_of_lookup hlookup)
  have hadds : AddsOneEach chainGraph [] (visitOrder chainGraph ["a", "d"]) := by
    rw [visitOrder_chainGraph]
    simp [AddsOneEach, chainGraph, Graph.targets, List.lookup_cons]
  have hmeet : meetOrder chainGraph ["a", "d"] = ["b", "c", "e"] := by
    simp [meetOrder, tour, follow, chainGraph, Graph.targets, List.lookup_cons, List.eraseDups_cons]
  obtain ⟨_, hagree, honly⟩ := closure_order chainGraph ["a", "d"]
  exact ⟨hdistinct, ⟨honly hdistinct, hagree⟩, hadds, hmeet⟩

/-- One identity that leads to two others: the search meets the first of them first, and the closure
lists the last one first. -/
theorem closure_lists_last_first :
    meetOrder [("a", ["b", "c"])] ["a"] = ["b", "c"] ∧
      closure [("a", ["b", "c"])] ["a"] = ["c", "b"] ∧
      closure [("a", ["b", "c"])] ["a"] ≠ meetOrder [("a", ["b", "c"])] ["a"] := by
  have hmeet : meetOrder [("a", ["b", "c"])] ["a"] = ["b", "c"] := by
    simp [meetOrder, tour, follow, Graph.targets, List.lookup_cons, List.eraseDups_cons]
  have hclosure : closure [("a", ["b", "c"])] ["a"] = ["c", "b"] := by
    rw [closure_eq_eraseDups]
    simp [visitOrder, tour, follow, Graph.targets, List.lookup_cons, List.eraseDups_cons]
  refine ⟨hmeet, hclosure, ?_⟩
  rw [hmeet, hclosure]
  decide

end DepthFirst

end ChunkGraph
