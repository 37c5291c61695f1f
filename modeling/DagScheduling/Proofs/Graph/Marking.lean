/-
Module: DagScheduling.Proofs.Graph.Marking
Purpose: The search step by step: a node is marked when it is pushed, and counted once. From every
  node the stack runs empty, after as many pops as nodes are marked, and the count is then that of
  the nodes below.
Main exports: Graph.Marking, Graph.Marking.meet, Graph.Marking.pop, Graph.Marking.after,
  Graph.Marking.Underway, Graph.Marking.Underway.pop, Graph.Marking.ends
-/
import DagScheduling.Proofs.Graph.Search
import Mathlib.Data.Nat.Find
import Mathlib.Tactic.ByContra

namespace DagScheduling.Graph

/-- A search on its way. -/
structure Marking where
  /-- The nodes met so far, the start included, the latest first. -/
  marked : List NodeId
  /-- Those of them whose children have not been looked at, the latest first. -/
  stack : List NodeId
  /-- How many nodes have been marked besides the start. -/
  count : Nat
deriving Repr, DecidableEq

variable {graph : Graph} {v w : NodeId} {search : Marking} {pops : Nat}

namespace Marking

/-- The search before its first pop. -/
def start (v : NodeId) : Marking :=
  { marked := [v], stack := [v], count := 0 }

/-- Mark, count and push a node, unless it is marked already. -/
def meet (search : Marking) (node : NodeId) : Marking :=
  if node ∈ search.marked then search
  else
    { marked := node :: search.marked
      stack := node :: search.stack
      count := search.count + 1 }

/-- Take the node off the top of the stack and meet its children in order. -/
def pop (graph : Graph) (search : Marking) : Marking :=
  match search.stack with
  | [] => search
  | node :: waiting => (graph.childrenOf node).foldl meet { search with stack := waiting }

/-- The search from `v` after some pops. -/
def after (graph : Graph) (v : NodeId) : Nat → Marking
  | 0 => start v
  | pops + 1 => (after graph v pops).pop graph

/-- Of the nodes met those that were not marked are marked and pushed, each once. -/
theorem foldl_meet (search : Marking) (nodes : List NodeId) :
    ∃ fresh, nodes.foldl meet search =
        { marked := fresh ++ search.marked
          stack := fresh ++ search.stack
          count := search.count + fresh.length } ∧
      fresh.Nodup ∧ ∀ w, w ∈ fresh ↔ w ∈ nodes ∧ w ∉ search.marked := by
  induction nodes generalizing search with
  | nil => exact ⟨[], rfl, List.nodup_nil, by simp⟩
  | cons node rest inductionHypothesis =>
      rw [List.foldl_cons, meet]
      split
      · rename_i known
        obtain ⟨fresh, met, distinct, mem_fresh⟩ := inductionHypothesis search
        refine ⟨fresh, met, distinct, ?_⟩
        intro w
        rw [mem_fresh, List.mem_cons, or_and_right]
        have notKnown : ¬ (w = node ∧ w ∉ search.marked) := fun new => new.2 (new.1 ▸ known)
        rw [or_iff_right notKnown]
      · rename_i new
        obtain ⟨fresh, met, distinct, mem_fresh⟩ := inductionHypothesis
          { marked := node :: search.marked, stack := node :: search.stack,
            count := search.count + 1 }
        have apart : node ∉ fresh := fun member => ((mem_fresh node).mp member).2 List.mem_cons_self
        refine ⟨fresh ++ [node], ?_, List.concat_eq_append ▸ distinct.concat apart, ?_⟩
        · rw [met]
          simp
          omega
        · intro w
          rw [List.mem_append, mem_fresh, List.mem_singleton, List.mem_cons, List.mem_cons]
          by_cases same : w = node
          · simp [same, new]
          · simp [same]

/-- A search from `v` that has popped so many nodes. What has been popped has all its
children marked. -/
structure Underway (graph : Graph) (v : NodeId) (pops : Nat) (search : Marking) : Prop where
  distinct : search.marked.Nodup
  start_mem : v ∈ search.marked
  reached : ∀ w ∈ search.marked, Relation.ReflTransGen graph.Child v w
  onStack : search.stack ⊆ search.marked
  counted : search.marked.length = search.count + 1
  popped : pops + search.stack.length = search.marked.length
  closed : ∀ u ∈ search.marked, u ∉ search.stack → ∀ w, graph.Child u w → w ∈ search.marked

theorem underway_start (graph : Graph) (v : NodeId) : Underway graph v 0 (start v) where
  distinct := List.nodup_singleton v
  start_mem := List.mem_singleton_self v
  reached _ member := List.mem_singleton.mp member ▸ .refl
  onStack := List.Subset.refl _
  counted := rfl
  popped := rfl
  closed _ member notOnStack := absurd member notOnStack

namespace Underway

theorem pop (underway : Underway graph v pops search) (more : search.stack ≠ []) :
    Underway graph v (pops + 1) (search.pop graph) := by
  obtain ⟨node, waiting, top⟩ := List.exists_cons_of_ne_nil more
  have nodeMarked : node ∈ search.marked := underway.onStack (top ▸ List.mem_cons_self)
  have popped := underway.popped
  obtain ⟨fresh, met, distinct, mem_fresh⟩ :=
    foldl_meet { search with stack := waiting } (graph.childrenOf node)
  simp only [Marking.pop, top, met]
  simp only [top, List.length_cons] at popped
  refine ⟨?distinct, List.mem_append_right _ underway.start_mem, ?reached, ?onStack, ?counted,
    ?popped, ?closed⟩
  case distinct =>
    apply distinct.append underway.distinct
    intro w isFresh isMarked
    exact ((mem_fresh w).mp isFresh).2 isMarked
  case reached =>
    intro w member
    rcases List.mem_append.mp member with isFresh | isMarked
    · exact (underway.reached node nodeMarked).tail ((mem_fresh w).mp isFresh).1
    · exact underway.reached w isMarked
  case onStack =>
    apply List.append_subset.mpr ⟨List.subset_append_left _ _, _⟩
    intro w member
    exact List.mem_append_right _ (underway.onStack (top ▸ List.mem_cons_of_mem _ member))
  case counted =>
    simp only [List.length_append, underway.counted]
    omega
  case popped =>
    simp only [List.length_append]
    omega
  case closed =>
    intro u member notOnStack w child
    obtain ⟨notFresh, notWaiting⟩ := not_or.mp (mt List.mem_append.mpr notOnStack)
    have isMarked := (List.mem_append.mp member).resolve_left notFresh
    rw [List.mem_append, mem_fresh]
    by_cases isNode : u = node
    · by_cases known : w ∈ search.marked
      · exact Or.inr known
      · exact Or.inl ⟨isNode ▸ child, known⟩
    · right
      apply underway.closed u isMarked _ w child
      rw [top, List.mem_cons, not_or]
      exact ⟨isNode, notWaiting⟩

/-- There are no more pops than nodes. -/
theorem le_nodeCount (underway : Underway graph v pops search) (inRange : v < graph.nodeCount) :
    pops + search.stack.length ≤ graph.nodeCount := by
  have within : search.marked ⊆ List.range graph.nodeCount := by
    intro w member
    rw [List.mem_range]
    rcases Relation.ReflTransGen.cases_tail (underway.reached w member) with same | ⟨_, -, child⟩
    · exact same ▸ inRange
    · exact child.dest_lt
  have bound := (underway.distinct.subperm within).length_le
  rw [List.length_range] at bound
  exact underway.popped ▸ bound

/-- Once the stack is empty, the nodes marked are the start and all below it. -/
theorem count_eq (underway : Underway graph v pops search) (empty : search.stack = []) :
    search.count = graph.reachableCount v := by
  have mem_marked (w : NodeId) :
      w ∈ search.marked ↔ Relation.ReflTransGen graph.Child v w := by
    refine ⟨underway.reached w, ?_⟩
    intro path
    induction path with
    | refl => exact underway.start_mem
    | tail _ child inductionHypothesis =>
        exact underway.closed _ inductionHypothesis (by simp [empty]) _ child
  have same : search.marked.Perm (v :: graph.nodesBelow v) := by
    apply (List.perm_ext_iff_of_nodup underway.distinct _).mpr
    · intro w
      rw [mem_marked, List.mem_cons, Graph.mem_nodesBelow]
      by_cases isStart : w = v
      · simp [isStart, Relation.ReflTransGen.refl]
      · simp [isStart]
    · apply List.nodup_cons.mpr ⟨_, graph.nodup_nodesBelow v⟩
      intro member
      exact (Graph.mem_nodesBelow.mp member).1 rfl
  have lengths := same.length_eq
  rw [List.length_cons, underway.counted] at lengths
  exact Nat.succ.inj lengths

end Underway

/-- As long as the stack has not run empty, the search is underway. -/
theorem underway_after (graph : Graph) (v : NodeId) (pops : Nat)
    (more : ∀ earlier < pops, (after graph v earlier).stack ≠ []) :
    Underway graph v pops (after graph v pops) := by
  induction pops with
  | zero => exact underway_start graph v
  | succ pops inductionHypothesis =>
      apply Underway.pop _ (more pops (Nat.lt_succ_self pops))
      apply inductionHypothesis
      intro earlier before
      exact more earlier (Nat.lt_succ_of_lt before)

/-- The search from a node of the graph ends: its stack runs empty when the start and every node
below it have been popped once, and not before. It has then counted the nodes below. -/
theorem ends (inRange : v < graph.nodeCount) :
    (after graph v (graph.reachableCount v + 1)).stack = [] ∧
      (after graph v (graph.reachableCount v + 1)).count = graph.reachableCount v ∧
      ∀ earlier ≤ graph.reachableCount v, (after graph v earlier).stack ≠ [] := by
  have somewhere : ∃ pops, (after graph v pops).stack = [] := by
    by_contra never
    have more : ∀ pops, (after graph v pops).stack ≠ [] := fun pops empty => never ⟨pops, empty⟩
    have underway := underway_after graph v (graph.nodeCount + 1) fun pops _ => more pops
    have bound := underway.le_nodeCount inRange
    omega
  have empty := Nat.find_spec somewhere
  have more : ∀ earlier < Nat.find somewhere, (after graph v earlier).stack ≠ [] :=
    fun _ before => Nat.find_min somewhere before
  have underway := underway_after graph v _ more
  have count := underway.count_eq empty
  have pops : Nat.find somewhere = graph.reachableCount v + 1 := by
    rw [← count, ← underway.counted, ← underway.popped, empty]
    rfl
  rw [← pops]
  refine ⟨empty, count, ?_⟩
  intro earlier before
  exact more earlier (pops ▸ Nat.lt_succ_of_le before)

end Marking

end DagScheduling.Graph
