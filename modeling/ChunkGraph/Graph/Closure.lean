import ChunkGraph.Graph.Basic

/-!
# Reachable identities

What is reachable from a list of roots is found by a depth-first search with a
stack. Each root is searched in turn, and identities visited for an earlier one
are not visited again. An identity is noted when an edge leads to it; of the
edges of one identity the last is noted first and followed last.

## Main definitions

* `Search`, `search` — the search from a stack.
* `closure` — the identities that are reached from roots.
-/

namespace ChunkGraph

/-- How far a search has come. -/
structure Search where
  /-- The identities whose edges have been followed. -/
  visited : List String := []
  /-- The identities to which edges lead, in the order in which they were noted. -/
  reached : List String := []
  deriving DecidableEq, Repr

/-- The edges that a search may still follow, and one more for each identity. -/
def unvisitedWeight (visited : List String) : Graph → Nat
  | [] => 0
  | (id, targets) :: graph =>
      (if id ∈ visited then 0 else targets.length + 1) + unvisitedWeight visited graph

/-- Visiting one more identity leaves no more to follow. -/
theorem unvisitedWeight_cons_le (graph : Graph) (visited : List String) (id : String) :
    unvisitedWeight (id :: visited) graph ≤ unvisitedWeight visited graph := by
  induction graph with
  | nil => exact Nat.le_refl _
  | cons entry graph ih =>
      obtain ⟨name, targets⟩ := entry
      simp only [unvisitedWeight, List.mem_cons]
      by_cases h : name ∈ visited
      · simp [h, ih]
      · by_cases hid : name = id <;> simp [h, hid] <;> omega

/-- Visiting an identity takes its edges off what is left to follow. -/
theorem unvisitedWeight_add_targets_le (graph : Graph) (visited : List String) (id : String)
    (h : id ∉ visited) :
    unvisitedWeight (id :: visited) graph + (graph.targets id).length ≤
      unvisitedWeight visited graph := by
  induction graph with
  | nil => simp [Graph.targets, unvisitedWeight]
  | cons entry graph ih =>
      obtain ⟨name, targets⟩ := entry
      have hle := unvisitedWeight_cons_le graph visited id
      by_cases hid : id = name
      · subst hid
        simp [Graph.targets, unvisitedWeight, h]
        omega
      · have hid' : name ≠ id := Ne.symm hid
        simp only [Graph.targets] at ih
        simp [Graph.targets, unvisitedWeight, hid', List.lookup_cons, beq_eq_false_iff_ne.2 hid]
        omega

/-- The search that follows the edges of the identities on a stack, the top first. -/
def search (graph : Graph) : List String → Search → Search
  | [], s => s
  | id :: stack, s =>
      if id ∈ s.visited then search graph stack s
      else
        search graph (graph.targets id ++ stack)
          { visited := id :: s.visited
            reached := (graph.targets id).reverse.foldl addId s.reached }
termination_by stack s => stack.length + unvisitedWeight s.visited graph
decreasing_by
  · simp
  · have := unvisitedWeight_add_targets_le graph s.visited id ‹_›
    simp only [List.length_append, List.length_cons]
    omega

/-- The identities to which edges lead from the roots and from what is reached from them. -/
def closure (graph : Graph) (roots : List String) : List String :=
  (roots.foldl (fun s root => search graph [root] s) {}).reached

end ChunkGraph
