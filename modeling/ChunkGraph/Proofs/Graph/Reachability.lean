import ChunkGraph.Graph.Closure
import Mathlib.Logic.Relation

/-!
# What the closure holds

The search keeps its visited identities, the identities it has noted and its
stack apart, and visits an identity once however many roots lead to it. What
ties the three together is stated once, in `Search.Sound`, with the stack as
what is still open: the noted identities are the targets of the visited ones,
everything visited or open is connected to a root, and an edge never leads
from a visited identity to one that is neither visited nor open. When the stack
is empty the visited identities are closed under edges, and the noted ones are
what is reached by at least one edge.

## Main results

* `mem_foldl_addId`, `nodup_foldl_addId` — identities are added once.
* `Search.Sound.search` — the search from a stack keeps the invariant.
* `mem_closure_iff` — the closure holds what is reached by one or more edges.
* `nodup_closure` — and holds it once.
-/

namespace ChunkGraph

open Relation

/-- An edge leads from one identity to another. -/
def Graph.Leads (graph : Graph) (source target : String) : Prop :=
  target ∈ graph.targets source

/-! ## Adding identities -/

theorem mem_addId (ids : List String) (id other : String) :
    other ∈ addId ids id ↔ other ∈ ids ∨ other = id := by
  unfold addId
  split
  · rename_i h
    have hmem : id ∈ ids := by simpa using h
    constructor
    · exact fun h => Or.inl h
    · rintro (h | rfl)
      · exact h
      · exact hmem
  · simp

theorem nodup_addId (ids : List String) (id : String) (h : ids.Nodup) :
    (addId ids id).Nodup := by
  unfold addId
  split
  · exact h
  · rename_i hc
    have hmem : id ∉ ids := by simpa using hc
    rw [List.nodup_append]
    refine ⟨h, by simp, ?_⟩
    intro a ha b hb hab
    rw [List.mem_singleton] at hb
    exact hmem (hb ▸ hab ▸ ha)

theorem mem_foldl_addId (more ids : List String) (id : String) :
    id ∈ more.foldl addId ids ↔ id ∈ ids ∨ id ∈ more := by
  induction more generalizing ids with
  | nil => simp
  | cons next more ih =>
      rw [List.foldl_cons, ih, mem_addId, List.mem_cons]
      constructor
      · rintro ((h | h) | h)
        · exact Or.inl h
        · exact Or.inr (Or.inl h)
        · exact Or.inr (Or.inr h)
      · rintro (h | h | h)
        · exact Or.inl (Or.inl h)
        · exact Or.inl (Or.inr h)
        · exact Or.inr h

theorem nodup_foldl_addId (more ids : List String) (h : ids.Nodup) :
    (more.foldl addId ids).Nodup := by
  induction more generalizing ids with
  | nil => exact h
  | cons next more ih => exact ih (addId ids next) (nodup_addId ids next h)

/-! ## The search -/

theorem search_nil (graph : Graph) (s : Search) : search graph [] s = s := by
  rw [search]

/-- An identity that has been visited is taken off the stack. -/
theorem search_cons_of_mem {s : Search} {id : String} (h : id ∈ s.visited) (graph : Graph)
    (stack : List String) : search graph (id :: stack) s = search graph stack s := by
  rw [search, if_pos h]

/-- An identity that has not been visited is visited, and its targets are put on the stack. -/
theorem search_cons_of_not_mem {s : Search} {id : String} (h : id ∉ s.visited) (graph : Graph)
    (stack : List String) :
    search graph (id :: stack) s =
      search graph (graph.targets id ++ stack)
        { visited := id :: s.visited
          reached := (graph.targets id).reverse.foldl addId s.reached } := by
  rw [search, if_neg h]

/-- The state of a search for what is reached from `roots`, with the identities
on `stack` still open. -/
structure Search.Sound (graph : Graph) (roots stack : List String) (s : Search) : Prop where
  reached_iff : ∀ id, id ∈ s.reached ↔ ∃ v ∈ s.visited, graph.Leads v id
  visited_connected : ∀ v ∈ s.visited, ∃ root ∈ roots, ReflTransGen graph.Leads root v
  stack_connected : ∀ v ∈ stack, ∃ root ∈ roots, ReflTransGen graph.Leads root v
  target_open : ∀ v ∈ s.visited, ∀ w, graph.Leads v w → w ∈ s.visited ∨ w ∈ stack
  nodup : s.reached.Nodup

namespace Search.Sound

variable {graph : Graph} {roots stack : List String} {s : Search} {id : String}

/-- An identity that has been visited may be taken off the stack. -/
theorem pop (h : Sound graph roots (id :: stack) s) (hid : id ∈ s.visited) :
    Sound graph roots stack s where
  reached_iff := h.reached_iff
  visited_connected := h.visited_connected
  stack_connected v hv := h.stack_connected v (List.mem_cons_of_mem id hv)
  target_open v hv w hw := by
    rcases h.target_open v hv w hw with hvis | hopen
    · exact Or.inl hvis
    · rcases List.mem_cons.mp hopen with rfl | htail
      · exact Or.inl hid
      · exact Or.inr htail
  nodup := h.nodup

/-- Visiting the top of the stack notes its targets and opens them. -/
theorem visit (h : Sound graph roots (id :: stack) s) :
    Sound graph roots (graph.targets id ++ stack)
      { visited := id :: s.visited
        reached := (graph.targets id).reverse.foldl addId s.reached } where
  reached_iff other := by
    rw [mem_foldl_addId, List.mem_reverse, h.reached_iff]
    constructor
    · rintro (⟨v, hv, hlead⟩ | hlead)
      · exact ⟨v, List.mem_cons_of_mem id hv, hlead⟩
      · exact ⟨id, List.mem_cons_self, hlead⟩
    · rintro ⟨v, hv, hlead⟩
      rcases List.mem_cons.mp hv with rfl | hv
      · exact Or.inr hlead
      · exact Or.inl ⟨v, hv, hlead⟩
  visited_connected v hv := by
    rcases List.mem_cons.mp hv with rfl | hv
    · exact h.stack_connected v List.mem_cons_self
    · exact h.visited_connected v hv
  stack_connected v hv := by
    rcases List.mem_append.mp hv with htarget | hstack
    · obtain ⟨root, hroot, hpath⟩ := h.stack_connected id List.mem_cons_self
      exact ⟨root, hroot, hpath.tail htarget⟩
    · exact h.stack_connected v (List.mem_cons_of_mem id hstack)
  target_open v hv w hw := by
    rcases List.mem_cons.mp hv with rfl | hv
    · exact Or.inr (List.mem_append_left stack hw)
    · rcases h.target_open v hv w hw with hvis | hopen
      · exact Or.inl (List.mem_cons_of_mem id hvis)
      · rcases List.mem_cons.mp hopen with rfl | htail
        · exact Or.inl List.mem_cons_self
        · exact Or.inr (List.mem_append_right _ htail)
  nodup := nodup_foldl_addId _ _ h.nodup

/-- A search that has run its course leaves nothing open. -/
theorem search (h : Sound graph roots stack s) :
    Sound graph roots [] (search graph stack s) := by
  fun_induction ChunkGraph.search graph stack s with
  | case1 s => exact h
  | case2 id stack s hid ih => exact ih (h.pop hid)
  | case3 id stack s hid ih => exact ih h.visit

/-- When nothing is open, a path from a visited identity stays among the visited ones. -/
theorem visited_of_path (h : Sound graph roots [] s) {v : String}
    (hpath : ReflTransGen graph.Leads id v) (hid : id ∈ s.visited) : v ∈ s.visited := by
  induction hpath with
  | refl => exact hid
  | tail _ hstep ih => exact (h.target_open _ ih _ hstep).resolve_right List.not_mem_nil

end Search.Sound

/-- A search visits what is on its stack and forgets nothing it has visited. -/
theorem visited_search (graph : Graph) (stack : List String) (s : Search) (id : String)
    (h : id ∈ s.visited ∨ id ∈ stack) : id ∈ (search graph stack s).visited := by
  fun_induction search graph stack s with
  | case1 s =>
      rcases h with h | h
      · exact h
      · exact absurd h List.not_mem_nil
  | case2 top stack s htop ih =>
      apply ih
      rcases h with h | h
      · exact Or.inl h
      · rcases List.mem_cons.mp h with rfl | h
        · exact Or.inl htop
        · exact Or.inr h
  | case3 top stack s htop ih =>
      apply ih
      rcases h with h | h
      · exact Or.inl (List.mem_cons_of_mem top h)
      · rcases List.mem_cons.mp h with rfl | h
        · exact Or.inl List.mem_cons_self
        · exact Or.inr (List.mem_append_right _ h)

/-! ## The closure -/

/-- The search from root after root keeps the invariant and visits every root. -/
theorem Search.Sound.foldl_search (graph : Graph) (roots more : List String) (s : Search)
    (h : Sound graph roots [] s) (hsub : ∀ root ∈ more, root ∈ roots) :
    Sound graph roots [] (more.foldl (fun s root => ChunkGraph.search graph [root] s) s) ∧
      ∀ root, root ∈ s.visited ∨ root ∈ more →
        root ∈ (more.foldl (fun s root => ChunkGraph.search graph [root] s) s).visited := by
  induction more generalizing s with
  | nil => simpa using h
  | cons next more ih =>
      have hopen : Sound graph roots [next] s :=
        { reached_iff := h.reached_iff
          visited_connected := h.visited_connected
          stack_connected := by
            intro v hv
            rw [List.mem_singleton] at hv
            subst hv
            exact ⟨v, hsub v List.mem_cons_self, ReflTransGen.refl⟩
          target_open := by
            intro v hv w hw
            exact Or.inl ((h.target_open v hv w hw).resolve_right List.not_mem_nil)
          nodup := h.nodup }
      have hrest := ih (ChunkGraph.search graph [next] s) hopen.search
        (fun root hroot => hsub root (List.mem_cons_of_mem next hroot))
      refine ⟨hrest.1, ?_⟩
      intro root hroot
      apply hrest.2
      rcases hroot with hvis | hmore
      · exact Or.inl (visited_search graph [next] s root (Or.inl hvis))
      · rcases List.mem_cons.mp hmore with rfl | hmore
        · exact Or.inl (visited_search graph [root] s root (Or.inr List.mem_cons_self))
        · exact Or.inr hmore

private theorem closure_sound (graph : Graph) (roots : List String) :
    Search.Sound graph roots [] (roots.foldl (fun s root => search graph [root] s) {}) ∧
      ∀ root ∈ roots, root ∈ (roots.foldl (fun s root => search graph [root] s) {}).visited := by
  have hempty : Search.Sound graph roots [] {} :=
    { reached_iff := by simp
      visited_connected := by simp
      stack_connected := by simp
      target_open := by simp
      nodup := List.nodup_nil }
  have h := Search.Sound.foldl_search graph roots roots {} hempty (fun _ hroot => hroot)
  exact ⟨h.1, fun root hroot => h.2 root (Or.inr hroot)⟩

/-- The closure holds the identities that one or more edges lead to from a root. -/
theorem mem_closure_iff (graph : Graph) (roots : List String) (id : String) :
    id ∈ closure graph roots ↔ ∃ root ∈ roots, TransGen graph.Leads root id := by
  obtain ⟨hsound, hroots⟩ := closure_sound graph roots
  unfold closure
  rw [hsound.reached_iff]
  constructor
  · rintro ⟨v, hv, hlead⟩
    obtain ⟨root, hroot, hpath⟩ := hsound.visited_connected v hv
    exact ⟨root, hroot, TransGen.tail' hpath hlead⟩
  · rintro ⟨root, hroot, hpath⟩
    obtain ⟨v, hpath, hlead⟩ := TransGen.tail'_iff.mp hpath
    exact ⟨v, hsound.visited_of_path hpath (hroots root hroot), hlead⟩

/-- The closure holds no identity twice. -/
theorem nodup_closure (graph : Graph) (roots : List String) : (closure graph roots).Nodup :=
  (closure_sound graph roots).1.nodup

end ChunkGraph
