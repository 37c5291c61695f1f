/-
Module: DagScheduling.Proofs.Ranking.WidestPasses
Purpose: What the widest path ranking is, told on the graph it starts with: which paths the
  passes take once some nodes are gone, and in which order their nodes are met. The ranking works
  on a graph that it takes apart, and comes to the same paths and the same order.
Main exports: Graph.WidestFrom, Graph.WidestPasses, WidestPath.Performs,
  WidestPath.rank_as_defined
-/
import DagScheduling.Proofs.FirstOccurrences
import DagScheduling.Proofs.Ranking.WidestPath
import Mathlib.Data.List.MinMax

namespace DagScheduling

/-- Whoever is beaten by a greater key only, and so keeps its place among equals, comes out as
the first entry of the greatest key. -/
theorem champion?_eq_argmax {α : Type} (key : α → Nat) (items : List α) :
    champion? (fun challenger incumbent => key incumbent < key challenger) items =
      items.argmax key := by
  cases items with
  | nil => rfl
  | cons first rest =>
      show some (champion _ first rest) = rest.foldl _ (some first)
      symm
      apply List.foldl_hom some
      intro incumbent challenger
      simp only [List.argAux, decide_eq_true_eq]
      exact (apply_ite some _ _ _).symm

/-! ### The ranking as defined -/

namespace Graph

/-- The children of a node that are not gone, oldest edge first. -/
def childrenOutside (graph : Graph) (gone : List NodeId) (v : NodeId) : List NodeId :=
  (graph.childrenOf v).filter fun w => w ∉ gone

/-- Number of outgoing edges to nodes that are not gone. -/
def fanOutOutside (graph : Graph) (gone : List NodeId) (v : NodeId) : Nat :=
  (graph.childrenOutside gone v).length

/-- Every step goes to a child that is not gone, the first of those with the
most edges to nodes that are not gone, until there is no such child. -/
inductive WidestFrom (graph : Graph) (gone : List NodeId) : NodeId → List NodeId → Prop
  | ends {v : NodeId} (bare : graph.childrenOutside gone v = []) : WidestFrom graph gone v []
  | step {v w : NodeId} {steps : List NodeId}
      (widest : (graph.childrenOutside gone v).argmax (graph.fanOutOutside gone) = some w)
      (rest : WidestFrom graph gone w steps) : WidestFrom graph gone v (w :: steps)

/-- Every pass goes the widest path from the root, and then its last node is
gone. The passes are over once that path has no step. -/
inductive WidestPasses (graph : Graph) : List NodeId → List (List NodeId) → Prop
  | ends {gone : List NodeId} (path : graph.WidestFrom gone root []) : WidestPasses graph gone []
  | pass {gone steps : List NodeId} {leaf : NodeId} {paths : List (List NodeId)}
      (path : graph.WidestFrom gone root steps) (last : steps.getLast? = some leaf)
      (rest : WidestPasses graph (leaf :: gone) paths) : WidestPasses graph gone (steps :: paths)

variable {graph later : Graph} {gone steps other : List NodeId} {paths others : List (List NodeId)}
  {v leaf : NodeId}

theorem WidestFrom.unique (one : graph.WidestFrom gone v steps)
    (two : graph.WidestFrom gone v other) : other = steps := by
  induction one generalizing other with
  | ends bare =>
      cases two with
      | ends => rfl
      | step widest =>
          rw [bare] at widest
          cases widest
  | step widest _ inductionHypothesis =>
      cases two with
      | ends bare =>
          rw [bare] at widest
          cases widest
      | step widestOther rest =>
          cases widest.symm.trans widestOther
          exact congrArg _ (inductionHypothesis rest)

theorem WidestPasses.unique (one : graph.WidestPasses gone paths)
    (two : graph.WidestPasses gone others) : others = paths := by
  induction one generalizing others with
  | ends path =>
      cases two with
      | ends => rfl
      | pass pathOther last =>
          rw [path.unique pathOther] at last
          cases last
  | pass path last _ inductionHypothesis =>
      cases two with
      | ends pathOther =>
          rw [pathOther.unique path] at last
          cases last
      | pass pathOther lastOther rest =>
          cases path.unique pathOther
          cases last.symm.trans lastOther
          exact congrArg _ (inductionHypothesis rest)

/-- `later` has the edges of `graph` that touch none of the nodes `gone`. -/
def Pruned (graph : Graph) (gone : List NodeId) (later : Graph) : Prop :=
  ∀ v, later.childrenOf v = if v ∈ gone then [] else graph.childrenOutside gone v

namespace Pruned

theorem of_nothing (graph : Graph) : Pruned graph [] graph := by
  intro v
  simp [childrenOutside]

theorem childrenOf_eq (pruned : Pruned graph gone later) (here : v ∉ gone) :
    later.childrenOf v = graph.childrenOutside gone v := by
  rw [pruned v, if_neg here]

theorem fanOut_eq (pruned : Pruned graph gone later) (here : v ∉ gone) :
    later.fanOut v = graph.fanOutOutside gone v := by
  rw [fanOut_eq_length, pruned.childrenOf_eq here, fanOutOutside]

/-- A child that is still there is not gone. -/
theorem child_here (pruned : Pruned graph gone later) {w : NodeId} (child : later.Child v w) :
    w ∉ gone := by
  rw [Child, pruned v] at child
  split at child
  · exact absurd child List.not_mem_nil
  · simpa using (List.mem_filter.mp child).2

theorem delete {final : Graph} (pruned : Pruned graph gone later)
    (deleted : Deleted later leaf final) : Pruned graph (leaf :: gone) final := by
  intro v
  rw [deleted.childrenOf v, pruned v]
  by_cases isLeaf : v = leaf
  · simp [isLeaf]
  · by_cases isGone : v ∈ gone
    · simp [isGone]
    · simp only [isLeaf, isGone, List.mem_cons, or_self, if_false, childrenOutside,
        List.filter_filter]
      apply List.filter_congr
      intro w _
      rw [Bool.eq_iff_iff]
      simp

end Pruned

end Graph

/-! ### The ranking as performed -/

namespace WidestPath

open DagScheduling.Graph (Pruned)
open Ledger (metAll)

variable {verbosity : Verbosity} {graph later : Graph} {standing final : Standing}
  {count fuel : Nat} {gone order steps : List NodeId} {paths : List (List NodeId)} {v : NodeId}

/-- From a standing on, the passes listed are made: each asks for the best path, ranks its nodes
but the root, and deletes the last one. Then the best path is the root alone. -/
inductive Performs (verbosity : Verbosity) : Standing → List (List NodeId) → Standing → Prop
  | ends {standing : Standing} (found : (bestPath verbosity standing.graph).value = some [root]) :
      Performs verbosity standing [] standing
  | pass {standing ranked pruned final : Standing} {steps : List NodeId} {leaf : NodeId}
      {paths : List (List NodeId)}
      (found : (bestPath verbosity standing.graph).value = some (root :: steps))
      (last : steps.getLast? = some leaf)
      (ranks : outcome (steps.foldlM (rankNode verbosity) standing) = .ok ranked)
      (deletes : outcome (deleteLeaf verbosity ranked leaf) = .ok pruned)
      (rest : Performs verbosity pruned paths final) :
      Performs verbosity standing (steps :: paths) final

theorem value_bestPath (verbosity : Verbosity) (graph : Graph) :
    (bestPath verbosity graph).value = (descent verbosity graph).value.map (root :: ·) :=
  rfl

/-- A ranking that ends has made passes. -/
theorem performs_of_passes (ended : outcome (passes verbosity fuel standing) = .ok final) :
    ∃ paths, Performs verbosity standing paths final := by
  induction fuel generalizing standing with
  | zero => cases ended
  | succ fuel inductionHypothesis =>
      cases walked : (descent verbosity standing.graph).value with
      | none =>
          rw [passes, outcome_bind, outcome_lift, ok_bind, walked] at ended
          cases ended
      | some steps =>
          have found : (bestPath verbosity standing.graph).value = some (root :: steps) := by
            rw [value_bestPath, walked]
            rfl
          cases last : steps.getLast? with
          | none =>
              rw [List.getLast?_eq_none_iff] at last
              subst last
              rw [outcome_passes_of_bare walked] at ended
              cases ended
              exact ⟨[], .ends found⟩
          | some leaf =>
              rw [outcome_passes_succ walked last] at ended
              obtain ⟨ranked, ranks, ended⟩ := exists_of_bind_ok ended
              obtain ⟨pruned, deletes, ended⟩ := exists_of_bind_ok ended
              obtain ⟨paths, rest⟩ := inductionHypothesis ended
              exact ⟨_, .pass found last ranks deletes rest⟩

theorem Performs.unique {others : List (List NodeId)} {finalOther : Standing}
    (one : Performs verbosity standing paths final)
    (two : Performs verbosity standing others finalOther) :
    others = paths ∧ finalOther = final := by
  induction one generalizing others with
  | ends found =>
      cases two with
      | ends => exact ⟨rfl, rfl⟩
      | pass foundOther last =>
          cases found.symm.trans foundOther
          cases last
  | pass found last ranks deletes _ inductionHypothesis =>
      cases two with
      | ends foundOther =>
          cases found.symm.trans foundOther
          cases last
      | pass foundOther lastOther ranksOther deletesOther rest =>
          cases found.symm.trans foundOther
          cases last.symm.trans lastOther
          cases ranks.symm.trans ranksOther
          cases deletes.symm.trans deletesOther
          obtain ⟨samePaths, sameFinal⟩ := inductionHypothesis rest
          exact ⟨congrArg _ samePaths, sameFinal⟩

/-! ### As performed, so defined -/

/-- What is stepped to in what is left of a graph is the widest child on the graph itself. -/
theorem argmax_of_champion {child : NodeId} (pruned : Pruned graph gone later) (here : v ∉ gone)
    (chosen : champion? (wider later) (later.childrenOf v) = some child) :
    (graph.childrenOutside gone v).argmax (graph.fanOutOutside gone) = some child := by
  have sameFanOut : ∀ w ∈ later.childrenOf v, later.fanOut w = graph.fanOutOutside gone w :=
    fun _ isChild => pruned.fanOut_eq (pruned.child_here isChild)
  have leads : (later.childrenOf v).argmax later.fanOut = some child := by
    rw [← champion?_eq_argmax]
    exact chosen
  obtain ⟨member, greatest, first⟩ := List.argmax_eq_some_iff.mp leads
  rw [← pruned.childrenOf_eq here]
  apply List.argmax_eq_some_iff.mpr ⟨member, _, _⟩
  · intro w isChild
    rw [← sameFanOut w isChild, ← sameFanOut child member]
    exact greatest w isChild
  · intro w isChild level
    rw [← sameFanOut w isChild, ← sameFanOut child member] at level
    exact first w isChild level

/-- A walk through what is left of a graph takes the widest path on the graph itself. -/
theorem widestFrom_of_walk (pruned : Pruned graph gone later) (here : v ∉ gone)
    (walked : (walk verbosity later fuel v).value = some steps) :
    graph.WidestFrom gone v steps := by
  induction fuel generalizing v steps with
  | zero => cases walked
  | succ fuel inductionHypothesis =>
      rw [walk, Logged.value_bind] at walked
      cases chosen : champion? (wider later) (later.childrenOf v) with
      | none =>
          rw [chosen] at walked
          cases walked
          apply Graph.WidestFrom.ends
          rw [← pruned.childrenOf_eq here]
          exact champion?_eq_none_iff.mp chosen
      | some child =>
          rw [chosen] at walked
          obtain ⟨rest, walkedOn, rfl⟩ := Option.map_eq_some_iff.mp walked
          exact .step (argmax_of_champion pruned here chosen)
            (inductionHypothesis (pruned.child_here (champion?_mem chosen)) walkedOn)

/-- The path found in what is left of a graph is a descent there, and the widest path on the
graph itself. -/
theorem descends_of_bestPath (acyclic : later.AcyclicBelow root) (pruned : Pruned graph gone later)
    (here : root ∉ gone) (found : (bestPath verbosity later).value = some (root :: steps)) :
    graph.WidestFrom gone root steps ∧ ∃ leaf, later.Descent root steps leaf := by
  have enough := Nat.lt_succ_of_le (later.reachableCount_le root)
  obtain ⟨walkedSteps, leaf, walked, descent⟩ := walk_descends verbosity acyclic enough
  have path := widestFrom_of_walk pruned here walked
  rw [value_bestPath, WidestPath.descent, walked] at found
  cases found
  exact ⟨path, leaf, descent⟩

/-- From what is left of a graph on, the passes performed are those defined on the graph itself.
Their paths meet no node twice, and each takes one node from below the root. -/
theorem Performs.as_defined (performs : Performs verbosity standing paths final)
    (pruned : Pruned graph gone standing.graph) (here : root ∉ gone)
    (acyclic : standing.graph.AcyclicBelow root)
    (issued : standing.ledger.Issued count order) :
    graph.WidestPasses gone paths ∧ (∀ steps ∈ paths, (root :: steps).Nodup) ∧
      paths.length = standing.graph.reachableCount root ∧
      Peels standing.graph paths final.graph ∧
      final.ledger.Issued count (metAll order paths.flatten) := by
  induction performs generalizing gone order with
  | @ends standing found =>
      obtain ⟨path, leaf, descent⟩ := descends_of_bestPath acyclic pruned here found
      have bare := descent.bare
      rw [descent.eq_of_nil] at bare
      exact ⟨.ends path, List.forall_mem_nil _, (Graph.reachableCount_of_bare bare).symm,
        .done bare (.refl _), issued⟩
  | @pass standing ranked later final steps leaf paths found last ranks deletes _
      inductionHypothesis =>
      obtain ⟨path, bottom, descent⟩ := descends_of_bestPath acyclic pruned here found
      have moved : steps ≠ [] := by
        intro none
        rw [none] at last
        cases last
      cases (descent.getLast?_steps moved).symm.trans last
      have below := descent.leaf_below moved
      obtain ⟨sameGraph, issuedLater⟩ := of_rankNodes issued ranks
      obtain ⟨deleted, sameLedger⟩ := of_deleteLeaf deletes
      rw [sameGraph] at deleted
      rw [← sameLedger] at issuedLater
      have stays : root ∉ leaf :: gone := by
        simp [here, (acyclic.ne_of_below below).symm]
      obtain ⟨passes, distinct, number, peels, issuedFinal⟩ :=
        inductionHypothesis (pruned.delete deleted) stays (deleted.acyclicBelow acyclic) issuedLater
      refine ⟨.pass path last passes, List.forall_mem_cons.mpr ⟨descent.nodup acyclic, distinct⟩,
        ?_, .pass descent moved deleted peels, ?_⟩
      · rw [List.length_cons, number]
        exact deleted.reachableCount_add_one descent.bare acyclic below
      · rw [List.flatten_cons, Ledger.metAll_append]
        exact issuedFinal

/-- On a fresh ledger the ranking makes the passes that are defined on the graph it starts with,
and no others. Without a cycle below the root, and with a slot for each node there, it ends; its
paths meet no node twice, there is one for each node below the root, and the nodes have their
priorities in the order in which the paths first meet them, from `count` down. -/
theorem rank_as_defined (verbosity : Verbosity) (acyclic : graph.AcyclicBelow root)
    (slots : ∀ v, graph.Below root v → v < (Ledger.ofTaskCount count).slots.size) :
    ∃ paths final, (rank verbosity graph (.ofTaskCount count)).value = .ok final ∧
      (∀ others, graph.WidestPasses [] others ↔ others = paths) ∧
      (∀ others last, Performs verbosity ⟨graph, .ofTaskCount count⟩ others last ↔
        others = paths ∧ last = final) ∧
      (∀ steps ∈ paths, (root :: steps).Nodup) ∧
      paths.length = graph.reachableCount root ∧
      ∀ v, final.ledger.get? v = if v ∈ paths.flatten
        then some (count - paths.flatten.eraseDups.idxOf v) else none := by
  have fresh := Ledger.issued_ofTaskCount count
  obtain ⟨final, ended⟩ := rank_ok verbosity fresh acyclic slots
  obtain ⟨paths, performs⟩ := performs_of_passes ended
  obtain ⟨passes, distinct, number, peels, issued⟩ :=
    performs.as_defined (.of_nothing graph) List.not_mem_nil acyclic fresh
  refine ⟨paths, final, ended, ?_, ?_, distinct, number, ?_⟩
  · intro others
    exact ⟨passes.unique, fun same => same ▸ passes⟩
  · intro others last
    constructor
    · exact performs.unique
    · rintro ⟨rfl, rfl⟩
      exact performs
  · intro v
    have noRoot : root ∉ paths.flatten := fun member =>
      acyclic.ne_of_below (peels.mem_flatten_iff.mp member) rfl
    rw [issued.priority v, Ledger.metAll_nil_of_notMem noRoot]
    simp only [List.mem_eraseDups]

/-- The root leads to nodes 1 and 2, node 1 to node 3, and node 2 to nodes 3 and 4. -/
private def kite : Graph where
  nodes := #[{ edges := [⟨1, 1.0⟩, ⟨2, 1.0⟩] }, { edges := [⟨3, 1.0⟩] },
    { edges := [⟨3, 1.0⟩, ⟨4, 1.0⟩] }, {}, {}]
  dest_lt := by decide

/-- Once nodes 3 and 4 are gone, nodes 1 and 2 are level, and the older edge decides. -/
private theorem widestPasses_kite : kite.WidestPasses [] [[2, 3], [2, 4], [1], [2]] :=
  .pass (.step (by decide) (.step (by decide) (.ends (by decide)))) rfl <|
  .pass (.step (by decide) (.step (by decide) (.ends (by decide)))) rfl <|
  .pass (.step (by decide) (.ends (by decide))) rfl <|
  .pass (.step (by decide) (.ends (by decide))) rfl <|
  .ends (.ends (by decide))

theorem rank_as_defined_kite :
    kite.AcyclicBelow root ∧
      (∀ v, kite.Below root v → v < (Ledger.ofTaskCount 4).slots.size) ∧
      ∃ final, (rank 0 kite (.ofTaskCount 4)).value = .ok final ∧
        [1, 2, 3, 4].map final.ledger.get? = [some 1, some 4, some 3, some 2] := by
  have acyclic : kite.AcyclicBelow root := .of_ascending [0, 1, 2, 3, 4] (by decide) (by decide)
  have slots : ∀ v, kite.Below root v → v < (Ledger.ofTaskCount 4).slots.size :=
    fun _ below => below.lt_nodeCount
  obtain ⟨paths, final, ended, defined, -, -, -, priority⟩ := rank_as_defined 0 acyclic slots
  cases (defined _).mp widestPasses_kite
  refine ⟨acyclic, slots, final, ended, ?_⟩
  simp only [List.map_cons, List.map_nil, priority]
  decide

end WidestPath

end DagScheduling
