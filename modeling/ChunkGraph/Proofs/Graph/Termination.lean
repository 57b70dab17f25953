import ChunkGraph.Proofs.Graph.Reachability
import Mathlib.Algebra.Ring.Nat

/-!
# The closure comes to an end

Finding a closure is a loop: it takes the top off the stack, follows its edges
if it has not been visited, and starts at the next root when the stack is empty.
An identity can stand on the stack many times, and the stack grows when edges
are followed. But the edges of an identity are followed once, so what is put on
the stack has been paid for by edges that will not be followed again. Two steps
for each root, one for each entry of the stack, and one for each edge that is
left to follow bound the steps that are still to come.

## Main definitions

* `ClosureLoop`, `ClosureLoop.next?` — the loop one step after the other.
* `ClosureLoop.work` — a bound of the steps to come.
* `ClosureLoop.Runs` — a number of steps.

## Main results

* `ClosureLoop.work_next?` — each step leaves less work.
* `ClosureLoop.result_next?` — no step changes what will be found.
* `ClosureLoop.exists_halted` — every run can be carried on to an end.
* `closure_halts_and_is_exact` — the loop ends within a number of steps that is
  linear in the graph, with the identities that are reached, each of them once.
-/

namespace ChunkGraph

open Relation

/-- Where the loop stands that finds a closure. -/
structure ClosureLoop where
  /-- The roots at which it has not started. -/
  roots : List String
  /-- The stack of the root at which it has started last. -/
  stack : List String := []
  /-- How far the search has come. -/
  search : Search := {}

namespace ClosureLoop

variable {graph : Graph} {loop next last : ClosureLoop} {n : Nat}

/-- One step: a root is put on the empty stack, or the top is taken off the stack. -/
def next? (graph : Graph) : ClosureLoop → Option ClosureLoop
  | ⟨[], [], _⟩ => none
  | ⟨root :: roots, [], s⟩ => some ⟨roots, [root], s⟩
  | ⟨roots, id :: stack, s⟩ =>
      if id ∈ s.visited then some ⟨roots, stack, s⟩
      else
        some
          { roots
            stack := graph.targets id ++ stack
            search :=
              { visited := id :: s.visited
                reached := (graph.targets id).reverse.foldl addId s.reached } }

/-- What a step can do. -/
theorem next?_cases (h : loop.next? graph = some next) :
    (∃ root roots, loop.roots = root :: roots ∧ loop.stack = [] ∧
      next = ⟨roots, [root], loop.search⟩) ∨
    ∃ id stack, loop.stack = id :: stack ∧
      (id ∈ loop.search.visited ∧ next = ⟨loop.roots, stack, loop.search⟩ ∨
        id ∉ loop.search.visited ∧ next =
          ⟨loop.roots, graph.targets id ++ stack,
            ⟨id :: loop.search.visited,
              (graph.targets id).reverse.foldl addId loop.search.reached⟩⟩) := by
  obtain ⟨roots, stack, s⟩ := loop
  cases stack with
  | nil =>
      cases roots with
      | nil => exact absurd h (by simp [next?])
      | cons root roots => exact Or.inl ⟨root, roots, rfl, rfl, (Option.some.inj h).symm⟩
  | cons id stack =>
      refine Or.inr ⟨id, stack, rfl, ?_⟩
      rw [next?] at h
      split at h
      · rename_i hseen
        exact Or.inl ⟨hseen, (Option.some.inj h).symm⟩
      · rename_i hnew
        exact Or.inr ⟨hnew, (Option.some.inj h).symm⟩

/-- The loop stops only when no root is left and the stack is empty. -/
theorem next?_eq_none (h : loop.next? graph = none) : loop.roots = [] ∧ loop.stack = [] := by
  obtain ⟨roots, stack, s⟩ := loop
  cases stack with
  | nil =>
      cases roots with
      | nil => exact ⟨rfl, rfl⟩
      | cons root roots => exact absurd h (by simp [next?])
  | cons id stack =>
      rw [next?] at h
      split at h <;> exact absurd h (by simp)

/-- What bounds the steps to come: two for each root, one for each entry of the stack, and what the
identities that have not been visited can add to it. -/
def work (graph : Graph) (loop : ClosureLoop) : Nat :=
  2 * loop.roots.length + loop.stack.length + unvisitedWeight loop.search.visited graph

/-- Each step leaves less work. -/
theorem work_next? (h : loop.next? graph = some next) : next.work graph < loop.work graph := by
  rcases next?_cases h with ⟨root, roots, hroots, hstack, rfl⟩ | ⟨id, stack, hstack, hid⟩
  · simp only [work, hroots, hstack, List.length_cons, List.length_nil]
    omega
  · rcases hid with ⟨_, rfl⟩ | ⟨hnew, rfl⟩
    · simp only [work, hstack, List.length_cons]
      omega
    · have hedges := unvisitedWeight_add_targets_le graph loop.search.visited id hnew
      simp only [work, hstack, List.length_append, List.length_cons]
      omega

/-- What the loop will have found in the end. -/
def result (graph : Graph) (loop : ClosureLoop) : List String :=
  (loop.roots.foldl (fun s root => ChunkGraph.search graph [root] s)
    (ChunkGraph.search graph loop.stack loop.search)).reached

/-- No step changes what will have been found in the end. -/
theorem result_next? (h : loop.next? graph = some next) :
    next.result graph = loop.result graph := by
  rcases next?_cases h with ⟨root, roots, hroots, hstack, rfl⟩ | ⟨id, stack, hstack, hid⟩
  · simp only [result, hroots, hstack, List.foldl_cons, search_nil]
  · rcases hid with ⟨hseen, rfl⟩ | ⟨hnew, rfl⟩
    · simp only [result, hstack, search_cons_of_mem hseen]
    · simp only [result, hstack, search_cons_of_not_mem hnew]

theorem result_of_halted (h : loop.next? graph = none) :
    loop.result graph = loop.search.reached := by
  obtain ⟨hroots, hstack⟩ := next?_eq_none h
  simp only [result, hroots, hstack, List.foldl_nil, search_nil]

/-- The loop comes from one state to another in a number of steps. -/
inductive Runs (graph : Graph) : Nat → ClosureLoop → ClosureLoop → Prop where
  | stay (loop : ClosureLoop) : Runs graph 0 loop loop
  | step {n : Nat} {loop next last : ClosureLoop} (first : loop.next? graph = some next)
      (rest : Runs graph n next last) : Runs graph (n + 1) loop last

/-- A run has at most as many steps as there is work at its start. -/
theorem Runs.add_work_le (h : Runs graph n loop last) : n + last.work graph ≤ loop.work graph := by
  induction h with
  | stay loop => exact Nat.le_of_eq (Nat.zero_add _)
  | step first rest ih =>
      have hless := work_next? first
      omega

theorem Runs.result_eq (h : Runs graph n loop last) : last.result graph = loop.result graph := by
  induction h with
  | stay loop => rfl
  | step first rest ih => rw [ih, result_next? first]

/-- The loop comes to an end from every state. -/
theorem exists_halted (graph : Graph) (loop : ClosureLoop) :
    ∃ n last, Runs graph n loop last ∧ last.next? graph = none := by
  induction hwork : loop.work graph using Nat.strongRecOn generalizing loop with
  | ind work ih =>
      cases hnext : loop.next? graph with
      | none => exact ⟨0, loop, .stay loop, hnext⟩
      | some next =>
          obtain ⟨n, last, hruns, hhalted⟩ := ih _ (hwork ▸ work_next? hnext) next rfl
          exact ⟨n + 1, last, .step hnext hruns, hhalted⟩

end ClosureLoop

/-- At first, all identities and edges of the graph are left. -/
theorem unvisitedWeight_nil (graph : Graph) :
    unvisitedWeight [] graph = graph.length + (graph.map (·.2.length)).sum := by
  induction graph with
  | nil => rfl
  | cons entry graph ih =>
      obtain ⟨id, targets⟩ := entry
      simp only [unvisitedWeight, ih, List.not_mem_nil, if_false, List.length_cons, List.map_cons,
        List.sum_cons]
      omega

/-- The loop over the roots makes no more steps than two for each root and one for each identity and
each edge of the graph, and when it has stopped it has found the closure. The closure lists the
identities that are reached from a root by one or more edges, each of them once. -/
theorem closure_halts_and_is_exact (graph : Graph) (roots : List String) :
    (∀ n last, ClosureLoop.Runs graph n ⟨roots, [], {}⟩ last →
        n ≤ 2 * roots.length + graph.length + (graph.map (·.2.length)).sum ∧
          (last.next? graph = none → last.search.reached = closure graph roots)) ∧
      (∃ n last, ClosureLoop.Runs graph n ⟨roots, [], {}⟩ last ∧ last.next? graph = none) ∧
      (closure graph roots).Nodup ∧
      ∀ id, id ∈ closure graph roots ↔ ∃ root ∈ roots, TransGen graph.Leads root id := by
  refine ⟨fun n last hruns => ⟨?_, fun hhalted => ?_⟩, ClosureLoop.exists_halted graph _,
    nodup_closure graph roots, mem_closure_iff graph roots⟩
  · have hwork := hruns.add_work_le
    simp only [ClosureLoop.work, unvisitedWeight_nil, List.length_nil] at hwork
    omega
  · rw [← ClosureLoop.result_of_halted hhalted, hruns.result_eq]
    simp only [ClosureLoop.result, closure, search_nil]

/-- Two identities that lead to each other, one of them also to itself and the other to an identity
that leads nowhere. -/
def tangledGraph : Graph := [("a", ["b", "a"]), ("b", ["a", "x"])]

/-- With a root given twice, the loop over the tangled identities stops after ten steps at most, and
has found the identity that leads nowhere. -/
theorem closure_halts_and_is_exact_tangled :
    ∃ n last, ClosureLoop.Runs tangledGraph n ⟨["a", "a"], [], {}⟩ last ∧
      last.next? tangledGraph = none ∧ n ≤ 10 ∧
      last.search.reached = closure tangledGraph ["a", "a"] ∧ "x" ∈ last.search.reached := by
  obtain ⟨hruns, ⟨n, last, hrun, hhalted⟩, _, hmem⟩ :=
    closure_halts_and_is_exact tangledGraph ["a", "a"]
  obtain ⟨hsteps, hfound⟩ := hruns n last hrun
  have hpath : TransGen tangledGraph.Leads "a" "x" := by
    have hfirst : tangledGraph.Leads "a" "b" := by
      unfold Graph.Leads
      decide
    have hsecond : tangledGraph.Leads "b" "x" := by
      unfold Graph.Leads
      decide
    exact (TransGen.single hfirst).tail hsecond
  refine ⟨n, last, hrun, hhalted, hsteps, hfound hhalted, ?_⟩
  rw [hfound hhalted]
  exact (hmem "x").mpr ⟨"a", List.mem_cons_self, hpath⟩

end ChunkGraph
