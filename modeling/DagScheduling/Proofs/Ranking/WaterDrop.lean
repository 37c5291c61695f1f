/-
Module: DagScheduling.Proofs.Ranking.WaterDrop
Purpose: The water drop ranking runs to its end in passes, or stops at a node without a slot,
  whatever the scores, the shares and the draws are.
Main exports: Riverbed.Fits, Riverbed.candidateScores_ok, Riverbed.select_mem, Riverbed.step_ends,
  Riverbed.descend_ends, Riverbed.Poised, Riverbed.Poised.retire, Riverbed.descents_end,
  Riverbed.launch, Riverbed.rank_ends; Riverbed.of_travel, Riverbed.of_rankReached and
  Riverbed.of_retireLeaf for what a step did that succeeded
-/
import DagScheduling.Proofs.Ranking.Outcome
import DagScheduling.Proofs.Ranking.Peeling
import DagScheduling.Ranking.WaterDrop

namespace DagScheduling

open DagScheduling.Graph (SameShape Deleted)
open Ledger (metAll)

variable {σ : Type} {count steps fuel : Nat} {graph : Graph} {order : List NodeId} {v : NodeId}

/-- What a ranking relies on: a cost for every node, and clamp bounds in order,
neither of them NaN. -/
structure Riverbed.Fits (bed : Riverbed) (graph : Graph) : Prop where
  costs : bed.costs.size = graph.nodeCount
  bounds : bed.params.coefficients.soilClampMin ≤ bed.params.coefficients.soilClampMax

theorem Riverbed.Fits.of_nodeCount {bed : Riverbed} {later : Graph} (fits : bed.Fits graph)
    (same : later.nodeCount = graph.nodeCount) : bed.Fits later :=
  ⟨fits.costs.trans same.symm, fits.bounds⟩

/-! ### Choosing a child -/

private theorem mapM_ok {α β γ ε : Type} {compute : α → Except ε β} {read : β → γ} {key : α → γ}
    {items : List α} (each : ∀ item ∈ items, ∃ value, compute item = .ok value ∧
      read value = key item) :
    ∃ values, items.mapM compute = .ok values ∧ values.map read = items.map key := by
  induction items with
  | nil => exact ⟨[], rfl, rfl⟩
  | cons item rest inductionHypothesis =>
      obtain ⟨value, computed, same⟩ := each item List.mem_cons_self
      obtain ⟨values, others, sameOthers⟩ :=
        inductionHypothesis fun other member => each other (List.mem_cons_of_mem item member)
      refine ⟨value :: values, ?_, ?_⟩
      · rw [List.mapM_cons, computed, ok_bind, others, ok_bind]
        rfl
      · rw [List.map_cons, List.map_cons, same, sameOthers]

theorem spin_mem (draw total cumulative : Float) (candidate : Candidate)
    (others : List Candidate) :
    spin draw total cumulative candidate others ∈ candidate :: others := by
  induction others generalizing cumulative candidate with
  | nil => exact List.mem_cons_self
  | cons next rest inductionHypothesis =>
      unfold spin
      dsimp only
      split
      · exact List.mem_cons_self
      · exact List.mem_cons_of_mem candidate (inductionHypothesis _ next)

theorem clamp?_isSome {lower upper : Float} (ordered : lower ≤ upper) (value : Float) :
    ∃ clamped, clamp? lower upper value = some clamped := by
  unfold clamp?
  rw [if_pos ordered]
  split
  · exact ⟨lower, rfl⟩
  · split
    · exact ⟨upper, rfl⟩
    · exact ⟨value, rfl⟩

namespace Riverbed

variable {bed : Riverbed} {flow later : Flow σ} {next : NodeId}

private theorem scaledCost_ok (covered : v < bed.costs.size) :
    ∃ cost, bed.scaledCost v = .ok cost := by
  unfold scaledCost
  rw [Array.getElem?_eq_getElem covered]
  exact ⟨_, rfl⟩

/-- Every child of a node is a candidate, oldest edge first. -/
theorem candidateScores_ok (fits : bed.Fits graph) (v : NodeId) :
    ∃ candidates, bed.candidateScores graph v = .ok candidates ∧
      candidates.map Candidate.node = graph.childrenOf v := by
  unfold candidateScores
  apply mapM_ok
  intro edge member
  have covered : edge.dest < bed.costs.size := by
    rw [fits.costs]
    exact Graph.dest_lt_of_mem_edgesOf member
  obtain ⟨cost, priced⟩ := scaledCost_ok covered
  rw [priced]
  exact ⟨_, rfl, rfl⟩

theorem nodes_of_candidateScores {candidates : List Candidate}
    (scored : bed.candidateScores graph v = .ok candidates) :
    candidates.map Candidate.node = graph.childrenOf v := by
  refine map_of_mapM_ok ?_ scored
  intro edge candidate computed
  obtain ⟨cost, -, isCandidate⟩ := exists_of_bind_ok computed
  cases isCandidate
  rfl

/-- Whatever the scores are, a candidate is chosen. -/
theorem select_mem [WordSource σ] (bed : Riverbed) (first : Candidate) (others : List Candidate)
    (source : σ) :
    (bed.select first others source).value.1 ∈ (first :: others).map Candidate.node := by
  unfold select
  split
  · exact List.mem_map_of_mem (champion_mem _ first others)
  · exact List.mem_map_of_mem (spin_mem _ _ _ first others)

/-! ### One step -/

private theorem crossing_ok (fits : bed.Fits graph) (drop : WaterDrop) {next : NodeId}
    (covered : next < graph.nodeCount) : ∃ effect, bed.crossing graph drop next = .ok effect := by
  unfold crossing
  rw [← fits.costs] at covered
  obtain ⟨cost, priced⟩ := scaledCost_ok covered
  dsimp only
  rw [priced, ok_bind]
  split
  · rename_i noRange
    obtain ⟨taken, clamped⟩ := clamp?_isSome fits.bounds _
    rw [clamped] at noRange
    cases noRange
  · exact ⟨_, rfl⟩

theorem travel_ok (flow : Flow σ) (fits : bed.Fits flow.graph) {next : NodeId}
    (child : flow.graph.Child flow.drop.current next) :
    ∃ later, outcome (bed.travel flow next) = .ok later ∧
      SameShape flow.graph later.graph ∧ later.drop.current = next ∧
      later.ledger = flow.ledger ∧ later.source = flow.source := by
  obtain ⟨effect, crossed⟩ := crossing_ok fits flow.drop child.dest_lt
  obtain ⟨eroded, isSet, same⟩ := Graph.setWeight_ok effect.after child
  unfold travel
  simp only [outcome_bind, crossed, isSet, Except.mapError, outcome_orBreach_ok,
    outcome_orStop_ok, outcome_lift, outcome_pure, ok_bind]
  exact ⟨_, rfl, same, rfl, rfl, rfl⟩

/-- What succeeds leads along an edge, and changes the graph in weights only. -/
theorem of_travel (travelled : outcome (bed.travel flow next) = .ok later) :
    flow.graph.Child flow.drop.current next ∧ SameShape flow.graph later.graph ∧
      later.drop.current = next := by
  unfold travel at travelled
  simp only [outcome_bind, outcome_lift, outcome_pure, ok_bind] at travelled
  obtain ⟨effect, -, travelled⟩ := exists_of_bind_ok travelled
  obtain ⟨eroded, isEroded, isLater⟩ := exists_of_bind_ok travelled
  cases isLater
  have isSet := of_mapError_ok (of_outcome_orStop isEroded)
  exact ⟨Graph.child_of_setWeight isSet, Graph.sameShape_of_setWeight isSet, rfl⟩

theorem outcome_rankReached (bed : Riverbed) (flow : Flow σ) :
    outcome (bed.rankReached flow) =
      outcome (orStop flow (flow.ledger.assign flow.drop.current)) >>= fun assigned =>
        .ok { flow with ledger := assigned.1 } := by
  rw [rankReached, outcome_bind]
  congr 1
  funext assigned
  obtain ⟨ledger, given⟩ := assigned
  cases given <;> rfl

theorem outcome_rankReached_ok {later : Ledger} {given : Option Priority}
    (assigned : flow.ledger.assign flow.drop.current = .ok (later, given)) :
    outcome (bed.rankReached flow) = .ok { flow with ledger := later } := by
  rw [outcome_rankReached, assigned, outcome_orStop_ok, ok_bind]

theorem outcome_rankReached_error {cause : RankingError}
    (refused : flow.ledger.assign flow.drop.current = .error cause) :
    outcome (bed.rankReached flow) =
      .error { failure := .reported cause, state := flow } := by
  rw [outcome_rankReached, refused, outcome_orStop_error, error_bind]

theorem of_rankReached (ranked : outcome (bed.rankReached flow) = .ok later) :
    later.graph = flow.graph ∧ later.drop = flow.drop := by
  rw [outcome_rankReached] at ranked
  obtain ⟨assigned, -, isLater⟩ := exists_of_bind_ok ranked
  cases isLater
  exact ⟨rfl, rfl⟩

/-- A step takes the drop to a child, which is met, and changes the graph only
in weights and the source only by the choice of the child. It fails only if the
child has no slot. -/
theorem step_ends [WordSource σ] (fits : bed.Fits flow.graph)
    (issued : flow.ledger.Issued count order) {first : Candidate} {others : List Candidate}
    (candidates : (first :: others).map Candidate.node =
      flow.graph.childrenOf flow.drop.current) :
    (∃ next later, outcome (bed.step first others flow) = .ok later ∧
      flow.graph.Child flow.drop.current next ∧ later.drop.current = next ∧
      SameShape flow.graph later.graph ∧ later.ledger.Issued count (Ledger.met order next) ∧
      later.source = (bed.select first others flow.source).value.2) ∨
    StopsAtUnknown (flow.graph.Child flow.drop.current) count
      (outcome (bed.step first others flow)) := by
  obtain ⟨next, source, selected⟩ : ∃ next source,
      (bed.select first others flow.source).value = (next, source) := ⟨_, _, rfl⟩
  have chosen := bed.select_mem first others flow.source
  rw [candidates, selected] at chosen
  obtain ⟨arrived, travelled, same, place, sameLedger, sameSource⟩ :
      ∃ arrived, outcome (bed.travel { flow with source := source } next) = .ok arrived ∧
        SameShape flow.graph arrived.graph ∧ arrived.drop.current = next ∧
        arrived.ledger = flow.ledger ∧ arrived.source = source :=
    travel_ok { flow with source := source } fits chosen
  unfold step
  simp only [outcome_bind, outcome_lift, ok_bind, selected, travelled]
  by_cases inRange : next ≤ count
  · obtain ⟨ledger, given, assigned, after⟩ := issued.assign_ok inRange
    rw [← place, ← sameLedger] at assigned
    rw [outcome_rankReached_ok assigned]
    exact Or.inl ⟨next, _, rfl, chosen, place, same, after, sameSource⟩
  · have beyond := Nat.lt_of_not_le inRange
    have refused := issued.assign_unknown beyond
    rw [← sameLedger] at refused
    subst place
    rw [outcome_rankReached_error refused]
    exact Or.inr ⟨_, arrived.drop.current, rfl, rfl, chosen, beyond⟩

/-! ### One descent -/

theorem outcome_descend_of_bare [WordSource σ]
    (scored : bed.candidateScores flow.graph flow.drop.current = .ok []) :
    outcome (bed.descend (fuel + 1) flow) = .ok flow := by
  rw [descend, outcome_bind, scored, outcome_orBreach_ok, ok_bind]
  rfl

theorem outcome_descend_succ [WordSource σ] {first : Candidate} {others : List Candidate}
    (scored : bed.candidateScores flow.graph flow.drop.current = .ok (first :: others)) :
    outcome (bed.descend (fuel + 1) flow) =
      outcome (bed.step first others flow) >>= fun later => outcome (bed.descend fuel later) := by
  rw [descend, outcome_bind, scored, outcome_orBreach_ok, ok_bind]
  exact outcome_bind _ _

/-- With more fuel than nodes below the drop it descends to a leaf and meets
the nodes on its way in turn, up to the first without a slot. -/
theorem descend_ends [WordSource σ] (fits : bed.Fits flow.graph)
    (issued : flow.ledger.Issued count order)
    (acyclic : flow.graph.AcyclicBelow flow.drop.current)
    (enough : flow.graph.reachableCount flow.drop.current < fuel) :
    (∃ later steps, outcome (bed.descend fuel flow) = .ok later ∧
      flow.graph.Descent flow.drop.current steps later.drop.current ∧
      SameShape flow.graph later.graph ∧ later.ledger.Issued count (metAll order steps)) ∨
    StopsAtUnknown (flow.graph.Below flow.drop.current) count
      (outcome (bed.descend fuel flow)) := by
  induction fuel generalizing flow order with
  | zero => exact absurd enough (Nat.not_lt_zero _)
  | succ fuel inductionHypothesis =>
      obtain ⟨candidates, scored, nodes⟩ := candidateScores_ok fits flow.drop.current
      cases candidates with
      | nil =>
          rw [outcome_descend_of_bare scored]
          exact Or.inl ⟨flow, [], rfl, .stay nodes.symm, .refl _, issued⟩
      | cons first others =>
          rw [outcome_descend_succ scored]
          rcases step_ends fits issued nodes with
            ⟨next, stepped, isStep, child, place, same, issuedStep, -⟩ | stops
          · rw [isStep, ok_bind]
            have fewer := Graph.reachableCount_lt_of_child acyclic child
            have fitsStep : bed.Fits stepped.graph := fits.of_nodeCount same.nodeCount
            rw [← place] at child fewer
            have acyclicStep := same.acyclicBelow (acyclic.of_child child)
            have enoughStep : stepped.graph.reachableCount stepped.drop.current < fuel := by
              rw [same.reachableCount_eq]
              omega
            rcases inductionHypothesis fitsStep issuedStep acyclicStep enoughStep with
              ⟨later, steps, ended, descent, sameLater, issuedLater⟩ | stops
            · refine Or.inl ⟨later, next :: steps, ended, ?_, same.trans sameLater, issuedLater⟩
              rw [← place]
              exact .step child (descent.sameShape same.symm)
            · apply Or.inr
              apply stops.mono
              intro node below
              rw [same.below_eq] at below
              exact .head child below
          · obtain ⟨stopped, node, isError, cause, child, beyond⟩ := stops
            rw [isError, error_bind]
            exact Or.inr ⟨stopped, node, rfl, cause, .single child, beyond⟩

/-! ### All descents -/

/-- What a descent from the root relies on: the drop is there, no cycle is to be
reached, and no node below it has been removed. -/
structure Poised (bed : Riverbed) (count : Nat) (order : List NodeId) (flow : Flow σ) : Prop where
  fits : bed.Fits flow.graph
  issued : flow.ledger.Issued count order
  atRoot : flow.drop.current = root
  acyclic : flow.graph.AcyclicBelow root
  present : ∀ v, flow.graph.Below root v → flow.graph.isRemoved v = false

theorem outcome_retireLeaf (bed : Riverbed)
    (present : flow.graph.isRemoved flow.drop.current = false) :
    outcome (bed.retireLeaf flow) =
      outcome (orStop flow (flow.ledger.assign flow.drop.current)) >>= fun assigned =>
        let ranked := { flow with ledger := assigned.1 }
        outcome (orStop ranked ((flow.graph.removeNode flow.drop.current).mapError .graph)) >>=
          fun graph =>
            .ok { ranked with graph := graph, drop := { flow.drop with current := root } } := by
  simp only [retireLeaf, present, Bool.false_eq_true, if_false, outcome_bind]
  congr 1
  funext assigned
  cases given : assigned.2 <;>
    simp only [outcome_bind, outcome_lift, outcome_pure, ok_bind]

/-- What succeeds deletes the node under the drop, whatever is known of it. -/
theorem of_retireLeaf (retired : outcome (bed.retireLeaf flow) = .ok later) :
    Deleted flow.graph flow.drop.current later.graph ∧ later.drop.current = root := by
  cases present : flow.graph.isRemoved flow.drop.current with
  | true =>
      simp only [retireLeaf, present, if_true] at retired
      cases retired
  | false =>
      rw [outcome_retireLeaf bed present] at retired
      obtain ⟨assigned, -, retired⟩ := exists_of_bind_ok retired
      obtain ⟨pruned, isPruned, isLater⟩ := exists_of_bind_ok retired
      cases isLater
      exact ⟨Graph.deleted_of_removeNode (of_mapError_ok (of_outcome_orStop isPruned)), rfl⟩

/-- A leaf that has its priority and has not been removed is deleted, and the
drop is back at the root. -/
private theorem retireLeaf_ok (bed : Riverbed)
    (present : flow.graph.isRemoved flow.drop.current = false)
    (known : flow.ledger.assign flow.drop.current = .ok (flow.ledger, none))
    (inRange : flow.drop.current < flow.graph.nodeCount) :
    ∃ later, outcome (bed.retireLeaf flow) = .ok later ∧
      Deleted flow.graph flow.drop.current later.graph ∧ later.ledger = flow.ledger ∧
      later.drop.current = root ∧ later.source = flow.source := by
  obtain ⟨pruned, removed, deleted, -⟩ := flow.graph.removeNode_ok inRange
  rw [outcome_retireLeaf bed present, known, removed]
  exact ⟨_, rfl, deleted, rfl, rfl, rfl⟩

/-- The leaf that a descent from the root ends on is deleted, and the next
descent has what it relies on. -/
theorem Poised.retire {landed : Flow σ} {steps : List NodeId}
    (poised : bed.Poised count order flow)
    (descent : flow.graph.Descent root steps landed.drop.current) (moved : steps ≠ [])
    (same : SameShape flow.graph landed.graph)
    (issued : landed.ledger.Issued count (metAll order steps)) :
    ∃ later, outcome (bed.retireLeaf landed) = .ok later ∧
      Deleted flow.graph landed.drop.current later.graph ∧
      bed.Poised count (metAll order steps) later ∧ later.source = landed.source := by
  have leafBelow := descent.leaf_below moved
  have leafMet : landed.drop.current ∈ metAll order steps :=
    Ledger.mem_metAll.mpr (Or.inr ⟨descent.leaf_mem moved, poised.acyclic.ne_of_below leafBelow⟩)
  have leafPresent := poised.present _ leafBelow
  rw [← same.isRemoved] at leafPresent
  have leafInRange := leafBelow.lt_nodeCount
  rw [← same.nodeCount] at leafInRange
  obtain ⟨later, retired, deletedLanded, sameLedger, back, sameSource⟩ := retireLeaf_ok bed
    leafPresent (issued.assign_known (Or.inr leafMet)) leafInRange
  have deleted := deletedLanded.of_sameShape same
  have present : ∀ v, later.graph.Below root v → later.graph.isRemoved v = false := by
    intro v below
    have stillBelow := (deleted.below_iff descent.bare).mp below
    rw [deleted.isRemoved v, poised.present v stillBelow.1]
    simp [stillBelow.2]
  rw [← sameLedger] at issued
  exact ⟨later, retired, deleted,
    ⟨poised.fits.of_nodeCount deleted.nodeCount, issued, back,
      deleted.acyclicBelow poised.acyclic, present⟩, sameSource⟩

theorem outcome_descents_succ [WordSource σ] :
    outcome (bed.descents steps (fuel + 1) flow) =
      outcome (bed.descend steps flow) >>= fun landed =>
        if landed.drop.current = root then .ok landed
        else outcome (bed.retireLeaf landed) >>= fun later =>
          outcome (bed.descents steps fuel later) := by
  rw [descents, outcome_bind]
  congr 1
  funext landed
  split
  · rfl
  · exact outcome_bind _ _

/-- What the descents come to from the root on, if there may be more of them, and
each may have more steps, than nodes are below the root: either a trace of passes
takes the graph apart, or a node below the root has no slot. -/
theorem descents_end [WordSource σ] (flow : Flow σ) (fuel : Nat)
    (poised : bed.Poised count order flow) (room : flow.graph.reachableCount root < steps)
    (enough : flow.graph.reachableCount root < fuel) :
    (∃ final trace, outcome (bed.descents steps fuel flow) = .ok final ∧
      Peels flow.graph trace final.graph ∧
      final.ledger.Issued count (metAll order trace.flatten)) ∨
    StopsAtUnknown (flow.graph.Below root) count (outcome (bed.descents steps fuel flow)) := by
  induction fuel generalizing flow order with
  | zero => exact absurd enough (Nat.not_lt_zero _)
  | succ fuel inductionHypothesis =>
      have acyclic := poised.acyclic
      have roomHere := room
      rw [outcome_descents_succ]
      rw [← poised.atRoot] at acyclic roomHere
      rcases descend_ends poised.fits poised.issued acyclic roomHere with
        ⟨landed, path, ended, descent, same, issuedLanded⟩ | stops
      · rw [ended, ok_bind]
        rw [poised.atRoot] at descent
        by_cases stays : landed.drop.current = root
        · rw [if_pos stays]
          have bare := descent.bare
          rw [stays] at bare
          rw [descent.eq_nil bare] at issuedLanded
          exact Or.inl ⟨landed, [], rfl, .done bare same, issuedLanded⟩
        · rw [if_neg stays]
          have moved := descent.ne_nil stays
          obtain ⟨later, retired, deleted, poisedLater, -⟩ :=
            poised.retire descent moved same issuedLanded
          have fewer := deleted.reachableCount_add_one descent.bare poised.acyclic
            (descent.leaf_below moved)
          rw [retired, ok_bind]
          rcases inductionHypothesis later poisedLater (by omega) (by omega) with
            ⟨final, trace, endedLater, peels, issuedFinal⟩ | stops
          · refine Or.inl
              ⟨final, path :: trace, endedLater, .pass descent moved deleted peels, ?_⟩
            rw [List.flatten_cons, Ledger.metAll_append]
            exact issuedFinal
          · exact Or.inr (stops.mono fun _ below => deleted.below_of_below below)
      · obtain ⟨stopped, node, isError, cause, below, beyond⟩ := stops
        rw [poised.atRoot] at below
        rw [isError, error_bind]
        exact Or.inr ⟨stopped, node, rfl, cause, below, beyond⟩

/-! ### A whole ranking -/

/-- The state that the first descent starts from. -/
def launch (bed : Riverbed) (graph : Graph) (ledger : Ledger) (source : σ) : Flow σ where
  graph := graph.weighByFanOut bed.params.coefficients.weightBase
    bed.params.coefficients.weightFanOutMultiplier
  ledger := ledger
  drop :=
    { velocity := bed.params.coefficients.initialVelocity
      soil := bed.params.coefficients.initialSoil }
  source := source

theorem sameShape_launch (bed : Riverbed) (graph : Graph) (ledger : Ledger) (source : σ) :
    SameShape graph (bed.launch graph ledger source).graph :=
  graph.sameShape_weighByFanOut _ _

/-- With a cost for every node a ranking is its descents, values and log alike. -/
theorem rankWithin_eq_run [WordSource σ] (priced : bed.costs.size = graph.nodeCount) (steps : Nat)
    (ledger : Ledger) (source : σ) : bed.rankWithin steps graph ledger source =
      (bed.descents steps steps (bed.launch graph ledger source)).run :=
  if_pos priced

theorem rankWithin_of_unpriced [WordSource σ] (unpriced : bed.costs.size ≠ graph.nodeCount)
    (steps : Nat) (ledger : Ledger) (source : σ) : bed.rankWithin steps graph ledger source =
      pure (.error
        { failure := .reported (.costTableMismatch graph.nodeCount bed.costs.size)
          state := { bed.launch graph ledger source with graph := graph } }) :=
  if_neg unpriced

theorem rank_eq_descents [WordSource σ] (fits : bed.Fits graph) (ledger : Ledger) (source : σ) :
    (bed.rank graph ledger source).value =
      outcome (bed.descents (graph.nodeCount + 1) (graph.nodeCount + 1)
        (bed.launch graph ledger source)) :=
  congrArg Logged.value (rankWithin_eq_run fits.costs _ ledger source)

theorem poised_launch {ledger : Ledger} (source : σ) (fits : bed.Fits graph)
    (issued : ledger.Issued count order) (acyclic : graph.AcyclicBelow root)
    (present : ∀ v, graph.Below root v → graph.isRemoved v = false) :
    bed.Poised count order (bed.launch graph ledger source) := by
  have same := bed.sameShape_launch graph ledger source
  refine ⟨fits.of_nodeCount same.nodeCount, issued, rfl, same.acyclicBelow acyclic, ?_⟩
  intro v below
  rw [same.below_eq] at below
  rw [same.isRemoved v]
  exact present v below

/-- The steps of a ranking are enough: it ends, or stops at a node without a slot. -/
theorem rank_ends [WordSource σ] {ledger : Ledger} (source : σ) (fits : bed.Fits graph)
    (issued : ledger.Issued count order) (acyclic : graph.AcyclicBelow root)
    (present : ∀ v, graph.Below root v → graph.isRemoved v = false) :
    (∃ final trace, (bed.rank graph ledger source).value = .ok final ∧
      Peels graph trace final.graph ∧
      final.ledger.Issued count (metAll order trace.flatten)) ∨
    StopsAtUnknown (graph.Below root) count (bed.rank graph ledger source).value := by
  have same := bed.sameShape_launch graph ledger source
  have enough : (bed.launch graph ledger source).graph.reachableCount root <
      graph.nodeCount + 1 := by
    rw [same.reachableCount_eq]
    exact Nat.lt_succ_of_le (graph.reachableCount_le root)
  rw [rank_eq_descents fits]
  rcases descents_end _ (graph.nodeCount + 1) (poised_launch source fits issued acyclic present)
    enough enough with ⟨final, trace, ended, peels, issuedFinal⟩ | stops
  · exact Or.inl ⟨final, trace, ended, peels.of_sameShape same, issuedFinal⟩
  · apply Or.inr
    apply stops.mono
    intro v below
    rw [same.below_eq] at below
    exact below

end Riverbed

end DagScheduling
