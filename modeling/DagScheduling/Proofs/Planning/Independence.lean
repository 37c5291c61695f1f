/-
Module: DagScheduling.Proofs.Planning.Independence
Purpose: What has no influence on priorities. The weights that a graph comes with and the root's
  cost make no difference to a ranking, and along widest paths neither do the costs of the tasks,
  the priorities they had, or any setting but the algorithm.
Main exports: Task.bare, buildGraph_eq_of_bare, rankTasks_eq_of_bare, without_influence
-/
import DagScheduling.Proofs.Planning.Totality
import DagScheduling.Proofs.Ranking.Independence
import DagScheduling.Proofs.Ranking.Verbosity

namespace DagScheduling

open DagScheduling.Graph (SameShape)

variable {σ τ : Type} [SeedableSource σ] [SeedableSource τ] {tasks others : List Task}
  {graph other : Graph} {config configOther : PlanningConfig} {weight : Float}

/-! ### Costs and priorities -/

/-- A task with its number and its references only. -/
def Task.bare (task : Task) : Task :=
  { task with cost := 1.0, priority := none }

theorem relations_bare (tasks : List Task) : relations (tasks.map Task.bare) = relations tasks := by
  rw [relations, recordedRelations, List.flatMap_map, List.flatMap_map]
  rfl

theorem rootRelations_bare (tasks : List Task) :
    rootRelations (tasks.map Task.bare) = rootRelations tasks := by
  simp only [rootRelations, relations_bare, List.filter_map, List.map_map]
  rfl

/-- Accepted lists that differ only in costs and priorities stand for the same graph. -/
theorem buildGraph_eq_of_bare (same : tasks.map Task.bare = others.map Task.bare)
    (accepted : buildGraph tasks weight = .ok graph)
    (acceptedOther : buildGraph others weight = .ok other) : other = graph := by
  have sameLength : others.length = tasks.length := by
    rw [← List.length_map Task.bare, ← same, List.length_map]
  have sameRelations : relations others = relations tasks := by
    rw [← relations_bare others, ← same, relations_bare]
  have sameRoot : rootRelations others = rootRelations tasks := by
    rw [← rootRelations_bare others, ← same, rootRelations_bare]
  rw [buildGraph] at accepted acceptedOther
  obtain ⟨_, -, built⟩ := exists_of_bind_ok accepted
  obtain ⟨_, -, builtOther⟩ := exists_of_bind_ok acceptedOther
  simp only [sameLength, sameRelations, sameRoot] at builtOther
  exact Except.ok.inj (builtOther.symm.trans built)

/-! ### Settings -/

/-- Of a ranking planning takes the value only. -/
theorem outcome_orFailRanking_congr {S : Type} {one two : Logged (Except (Stopped S) S)}
    (same : two.value = one.value) :
    outcome (orFailRanking two) = outcome (orFailRanking one) := by
  rw [orFailRanking, orFailRanking, outcome_bind, outcome_bind, outcome_lift, outcome_lift, same]

/-- Along widest paths a ledger is filled without a look at the tasks or at other settings. -/
theorem outcome_fillLedger_eq (entropy : σ) (entropyOther : τ)
    (widest : config.algorithm = .widestPath) (widestOther : configOther.algorithm = .widestPath)
    (sameLength : others.length = tasks.length) (graph : Graph) :
    outcome (fillLedger entropyOther configOther others graph) =
      outcome (fillLedger entropy config tasks graph) := by
  have filters := WidestPath.rank_filters graph (.ofTaskCount tasks.length)
  have sameValue : (WidestPath.rank configOther.verbosity graph (.ofTaskCount tasks.length)).value =
      (WidestPath.rank config.verbosity graph (.ofTaskCount tasks.length)).value := by
    rw [filters.eq_seenAt configOther.verbosity, filters.eq_seenAt config.verbosity]
    rfl
  simp only [fillLedger, widest, widestOther, sameLength, outcome_bind,
    outcome_orFailRanking_congr sameValue]

/-- Along widest paths accepted lists that differ only in costs and priorities get the same
priorities, whatever the other settings and the entropy are. -/
theorem rankTasks_eq_of_bare (entropy : σ) (entropyOther : τ)
    (same : tasks.map Task.bare = others.map Task.bare)
    (accepted : buildGraph tasks 1.0 = .ok graph)
    (acceptedOther : buildGraph others 1.0 = .ok other)
    (widest : config.algorithm = .widestPath) (widestOther : configOther.algorithm = .widestPath) :
    ∃ priorities, (rankTasks entropy config tasks).value = .ok priorities ∧
      (rankTasks entropyOther configOther others).value = .ok priorities := by
  have sameLength : others.length = tasks.length := by
    rw [← List.length_map Task.bare, ← same, List.length_map]
  have valid : config.validate = .ok () := by rw [PlanningConfig.validate, widest]
  have validOther : configOther.validate = .ok () := by rw [PlanningConfig.validate, widestOther]
  cases buildGraph_eq_of_bare same accepted acceptedOther
  obtain ⟨wellFormed, built⟩ := wellFormed_of_buildGraph accepted
  obtain ⟨ledger, order, filled, issued, complete, -⟩ :=
    fillLedger_ok entropy valid wellFormed built
  have filledOther := outcome_fillLedger_eq entropy entropyOther widest widestOther sameLength graph
  rw [filled] at filledOther
  refine ⟨_, rankTasks_of_filled valid accepted filled issued complete, ?_⟩
  rw [← sameLength] at issued complete
  exact rankTasks_of_filled validOther acceptedOther filledOther issued complete

/-! ### Two runs -/

/-- Two rankings that differ in the weights of the graph, and two drops that differ in the root's
cost besides, end alike. With a cost for every node two drops even leave the same weights; else the
table is refused, and each graph keeps its own. Along widest paths two plans agree that differ in
the costs of the tasks, the priorities they had, and any setting but the algorithm. -/
theorem without_influence :
    (∀ (graph other : Graph) (ledger : Ledger), SameShape graph other →
      graph.AcyclicBelow root →
      (∀ verbosity, EndsAlike (Stopped.Alike Standing.Alike) Standing.Alike
        (WidestPath.rank verbosity graph ledger).value
        (WidestPath.rank verbosity other ledger).value) ∧
      ∀ (σ : Type) [WordSource σ] (bed bedOther : Riverbed) (source : σ),
        bed.SamePrices bedOther →
        EndsAlike (Stopped.Alike Flow.Alike) Flow.Alike
          (bed.rank graph ledger source).value (bedOther.rank other ledger source).value ∧
        (bed.costs.size = graph.nodeCount →
          (bedOther.rank other ledger source).value = (bed.rank graph ledger source).value) ∧
        (bed.costs.size ≠ graph.nodeCount →
          (finalState (bed.rank graph ledger source).value).graph = graph ∧
            (finalState (bedOther.rank other ledger source).value).graph = other)) ∧
    ∀ (σ τ : Type) [SeedableSource σ] [SeedableSource τ] (tasks others : List Task)
      (graph other : Graph) (config configOther : PlanningConfig) (entropy : σ)
      (entropyOther : τ), tasks.map Task.bare = others.map Task.bare →
      buildGraph tasks 1.0 = .ok graph → buildGraph others 1.0 = .ok other →
      config.algorithm = .widestPath → configOther.algorithm = .widestPath →
      ∃ priorities, (rankTasks entropy config tasks).value = .ok priorities ∧
        (rankTasks entropyOther configOther others).value = .ok priorities := by
  constructor
  · intro graph other ledger same acyclic
    refine ⟨fun verbosity => WidestPath.rank_alike same verbosity ledger, ?_⟩
    intro σ _ bed bedOther source prices
    refine ⟨Riverbed.rank_alike prices same acyclic ledger source, ?_, ?_⟩
    · intro priced
      exact Riverbed.value_rank_eq prices same acyclic priced ledger source
    · intro unpriced
      have unpricedOther : bedOther.costs.size ≠ other.nodeCount := by
        rw [prices.size, same.nodeCount]
        exact unpriced
      rw [Riverbed.value_rank_of_unpriced unpriced,
        Riverbed.value_rank_of_unpriced unpricedOther]
      exact ⟨rfl, rfl⟩
  · intro σ τ _ _ tasks others graph other config configOther entropy entropyOther same accepted
      acceptedOther widest widestOther
    exact rankTasks_eq_of_bare entropy entropyOther same accepted acceptedOther widest widestOther

/-- Two ways lead from the root to node 3, over edges of different weights. -/
private def fork : Graph where
  nodes :=
    #[{ edges := [⟨1, 3.0⟩, ⟨2, -7.0⟩] }, { edges := [⟨3, 1.0⟩] }, { edges := [⟨3, 2.0⟩] }, {}]
  dest_lt := by decide

/-- The same with no number for a weight. -/
private def blankFork : Graph :=
  fork.weighByFanOut (0.0 / 0.0) 1.0

private theorem sameShape_blankFork : SameShape fork blankFork :=
  fork.sameShape_weighByFanOut (0.0 / 0.0) 1.0

private theorem acyclic_fork : fork.AcyclicBelow root :=
  .of_ascending [0, 1, 2, 3] (by decide) (by decide)

private def forkedTasks (cost : Float) (before : Option Priority) : List Task :=
  [{ id := 1, cost := cost, childIds := [3, 2], priority := before }, { id := 2, cost := 7.0 },
    { id := 3, cost := cost, parentIds := [1] },
    { id := 4, parentIds := [3, 2], priority := before }]

/-- Only that it ranks along widest paths is as by default; no water drop would run
with these constants. -/
private def detuned : PlanningConfig where
  algorithm := .widestPath
  waterDrop :=
    { coefficients :=
        { learningRate := 2.0, soilClampMin := 90.0, soilClampMax := 10.0
          weightBase := 0.0 / 0.0, initialVelocity := -1.0, costScale := 0.0 }
      selection := .greedy
      seed := some 5 }
  verbosity := 3

theorem without_influence_cases :
    let ledger := Ledger.ofTaskCount 3
    let source : Script := { words := [7, 5] }
    let bed (selection : SelectionMode) (rootCost : Float) : Riverbed :=
      { params := { selection := selection }, costs := #[rootCost, 3.0, 500.0, 2.0] }
    SameShape fork blankFork ∧ fork.AcyclicBelow root ∧
      (blankFork.weight 0 2).isNaN = true ∧
      EndsAlike (Stopped.Alike Standing.Alike) Standing.Alike
        (WidestPath.rank 1 fork ledger).value (WidestPath.rank 1 blankFork ledger).value ∧
      (∀ selection, ((bed selection (0.0 / 0.0)).rank blankFork ledger source).value =
        ((bed selection 1.0).rank fork ledger source).value) ∧
      (∃ cause, detuned.waterDrop.validate = .error cause) ∧
      ∃ priorities,
        (rankTasks (Xoshiro.ofSeed 1) .usingWidestPath (forkedTasks 1.0 none)).value =
          .ok priorities ∧
        (rankTasks (Xoshiro.ofSeed 2) detuned (forkedTasks 8.0 (some 4))).value =
          .ok priorities := by
  intro ledger source bed
  have prices (selection : SelectionMode) :
      (bed selection 1.0).SamePrices (bed selection (0.0 / 0.0)) := by
    refine ⟨rfl, rfl, ?_⟩
    intro v away
    obtain ⟨v, rfl⟩ := Nat.exists_eq_succ_of_ne_zero away
    simp [bed]
  obtain ⟨graph, isGraph⟩ : ∃ graph, buildGraph (forkedTasks 1.0 none) 1.0 = .ok graph := ⟨_, rfl⟩
  obtain ⟨other, isOther⟩ : ∃ graph, buildGraph (forkedTasks 8.0 (some 4)) 1.0 = .ok graph :=
    ⟨_, rfl⟩
  have sameRecords :
      (forkedTasks 1.0 none).map Task.bare = (forkedTasks 8.0 (some 4)).map Task.bare := by
    simp only [forkedTasks, List.map_cons, List.map_nil, Task.bare]
  obtain ⟨rankings, plans⟩ := without_influence
  obtain ⟨widest, drops⟩ := rankings fork blankFork ledger sameShape_blankFork acyclic_fork
  refine ⟨sameShape_blankFork, acyclic_fork, by decide +kernel, widest 1, ?_, ⟨_, rfl⟩, ?_⟩
  · intro selection
    exact (drops Script _ _ source (prices selection)).2.1 rfl
  · exact plans Xoshiro Xoshiro _ _ graph other .usingWidestPath detuned (.ofSeed 1) (.ofSeed 2)
      sameRecords isGraph isOther rfl rfl

/-- A cost table of the wrong size is refused before the weights are reset, and the graphs stay
as different as they were. -/
theorem stale_weights_remain :
    ¬ ∀ (graph other : Graph) (ledger : Ledger) (bed : Riverbed) (source : Script),
      SameShape graph other → graph.AcyclicBelow root →
      (finalState (bed.rank other ledger source).value).graph =
        (finalState (bed.rank graph ledger source).value).graph := by
  intro same
  have sameGraph := same fork blankFork (.ofTaskCount 3) { costs := #[1000.0] } { words := [7] }
    sameShape_blankFork acyclic_fork
  rw [Riverbed.value_rank_of_unpriced (by decide +kernel),
    Riverbed.value_rank_of_unpriced (by decide +kernel)] at sameGraph
  have sameWeight := congrArg (fun graph => graph.weight 0 1 == 3.0) sameGraph
  exact absurd sameWeight (by decide +kernel)

end DagScheduling
