/-
Module: DagScheduling.Proofs.Ranking.LeavesFirst
Purpose: Both rankings are done with the nodes leaves first: each is ranked before it is deleted,
  and deleted after all its children, and the log tells so at every verbosity but the silent one.
Main exports: WidestPath.passes_finalizing, Riverbed.step_finalizing, Riverbed.descend_finalizing,
  Riverbed.descents_finalizing, Passes.known_leaves, rankings_leave_first
-/
import DagScheduling.Proofs.Ranking.Descents
import DagScheduling.Proofs.Ranking.Finalizing
import DagScheduling.Proofs.Ranking.Verbosity

namespace DagScheduling

open DagScheduling.Graph (SameShape Deleted)
open Ledger (metAll)

variable {α β ε S : Type} {verbosity : Verbosity} {graph : Graph} {standing final : Standing}
  {ledger later : Ledger} {count most fuel : Nat} {order steps : List NodeId} {v : NodeId}

/-! ### Logs of single steps -/

/-- What a computation logs that got to its end. -/
theorem exists_of_outcome_bind_ok {first : ExceptT ε Logged α} {next : α → ExceptT ε Logged β}
    {result : β} (ended : outcome (first >>= next) = .ok result) :
    ∃ value, outcome first = .ok value ∧ outcome (next value) = .ok result ∧
      (first >>= next).run.log = first.run.log ++ (next value).run.log := by
  rw [outcome_bind] at ended
  obtain ⟨value, isFirst, isNext⟩ := exists_of_bind_ok ended
  refine ⟨value, isFirst, isNext, ?_⟩
  rw [ExceptT.run_bind, Logged.log_bind]
  unfold outcome at isFirst
  rw [isFirst]

theorem aside_noteAll {events : List Event} (aside : Aside events) :
    Aside (noteAll verbosity events).log := by
  intro event member
  exact aside event (List.mem_filter.mp member).1

theorem aside_note {event : Event} (aside : event.level ≠ .changes) :
    Aside (note verbosity event).log :=
  aside_noteAll (List.forall_mem_singleton.mpr aside)

/-- A node below the root that is met has its priority from then on, and the log
tells if it gets it now. -/
theorem finalizing_of_assign (heard : 1 ≤ verbosity) {given : Option Priority} (event : Event)
    (below : graph.Below root v) (call : ledger.assign v = .ok (later, given))
    (aside : event.level ≠ .changes) :
    Finalizing ⟨graph, ledger⟩
      (match given with
        | some priority => note verbosity (.priorityAssigned v priority)
        | none => note verbosity event).log ⟨graph, later⟩ := by
  cases given with
  | some priority =>
      show Finalizing _ (note verbosity (.priorityAssigned v priority)).log _
      rw [log_note heard rfl]
      exact .ranked below call (.refl _)
  | none =>
      rcases Ledger.assign_cases call with ⟨-, same, -⟩ | ⟨some, -⟩
      · rw [same]
        exact .asides _ (aside_note aside)
      · cases some

theorem known_of_assign {given : Option Priority} (call : ledger.assign v = .ok (later, given)) :
    v = root ∨ later.isAssigned v = true := by
  rcases Ledger.assign_cases call with ⟨-, same, known⟩ | ⟨-, -, -, -, slots⟩
  · rw [same]
    exact known
  · rw [Ledger.isAssigned, slots, if_pos rfl]
    exact Or.inr rfl

/-! ### The widest path -/

namespace WidestPath

theorem aside_walk (v : NodeId) : Aside (walk verbosity graph fuel v).log := by
  induction fuel generalizing v with
  | zero => exact List.forall_mem_nil _
  | succ fuel inductionHypothesis =>
      rw [walk, Logged.log_bind]
      apply Aside.append
      · apply aside_noteAll
        intro event member
        obtain ⟨child, -, rfl⟩ := List.mem_map.mp member
        exact Level.checks_ne_changes
      · cases champion? (wider graph) (graph.childrenOf v) with
        | none => exact List.forall_mem_nil _
        | some child => exact (inductionHypothesis child).append (List.forall_mem_nil _)

theorem rankNode_finalizing (heard : 1 ≤ verbosity) {reached : Standing}
    (below : standing.graph.Below root v)
    (ended : outcome (rankNode verbosity standing v) = .ok reached) :
    Finalizing standing (rankNode verbosity standing v).run.log reached ∧
      reached.graph = standing.graph ∧ (v = root ∨ reached.ledger.isAssigned v = true) := by
  obtain ⟨⟨later, given⟩, called, rest, log⟩ := exists_of_outcome_bind_ok ended
  have call := of_outcome_orStop called
  have notes := finalizing_of_assign heard (.alreadyRanked v) below call
    Level.checks_ne_changes
  rw [rankNode, log, log_orStop, List.nil_append]
  cases given <;>
  · obtain ⟨_, -, isReached, log⟩ := exists_of_outcome_bind_ok rest
    cases isReached
    rw [log, log_lift]
    refine ⟨?_, rfl, known_of_assign call⟩
    simpa using notes

/-- The nodes of a path below the root all have their priorities in the end. -/
theorem rankNodes_finalizing (heard : 1 ≤ verbosity) {reached : Standing}
    (below : ∀ v ∈ steps, standing.graph.Below root v)
    (ended : outcome (steps.foldlM (rankNode verbosity) standing) = .ok reached) :
    Finalizing standing (steps.foldlM (rankNode verbosity) standing).run.log reached ∧
      reached.graph = standing.graph ∧
      ∀ v ∈ steps, v = root ∨ reached.ledger.isAssigned v = true := by
  induction steps generalizing standing with
  | nil =>
      cases ended
      exact ⟨.refl _, rfl, List.forall_mem_nil _⟩
  | cons node rest inductionHypothesis =>
      rw [List.foldlM_cons] at ended ⊢
      obtain ⟨next, isNext, isRest, log⟩ := exists_of_outcome_bind_ok ended
      obtain ⟨nodeBelow, restBelow⟩ := List.forall_mem_cons.mp below
      obtain ⟨first, sameGraph, known⟩ := rankNode_finalizing heard nodeBelow isNext
      rw [← sameGraph] at restBelow
      obtain ⟨others, sameOthers, knownOthers⟩ := inductionHypothesis restBelow isRest
      rw [log]
      refine ⟨first.trans others, sameOthers.trans sameGraph, ?_⟩
      apply List.forall_mem_cons.mpr ⟨?_, knownOthers⟩
      exact known.imp_right fun assigned => others.isAssigned_iff.mpr (Or.inl assigned)

theorem deleteLeaf_finalizing (heard : 1 ≤ verbosity) {reached : Standing}
    (below : standing.graph.Below root v) (bare : standing.graph.childrenOf v = [])
    (known : standing.ledger.isAssigned v = true)
    (ended : outcome (deleteLeaf verbosity standing v) = .ok reached) :
    Finalizing standing (deleteLeaf verbosity standing v).run.log reached ∧
      Deleted standing.graph v reached.graph := by
  obtain ⟨pruned, removed, deleted, -⟩ := standing.graph.removeNode_ok below.lt_nodeCount
  rw [deleteLeaf, removed] at ended ⊢
  obtain ⟨_, isPruned, rest, log⟩ := exists_of_outcome_bind_ok ended
  cases isPruned
  obtain ⟨_, -, isReached, logRest⟩ := exists_of_outcome_bind_ok rest
  cases isReached
  rw [log, log_orStop, List.nil_append, logRest, log_lift, log_note heard rfl]
  exact ⟨.removed below bare known deleted (.refl _), deleted⟩

theorem passes_finalizing (heard : 1 ≤ verbosity) (acyclic : standing.graph.AcyclicBelow root)
    (ended : outcome (passes verbosity fuel standing) = .ok final) :
    Finalizing standing (passes verbosity fuel standing).run.log final ∧
      final.graph.childrenOf root = [] := by
  induction fuel generalizing standing with
  | zero => cases ended
  | succ fuel inductionHypothesis =>
      have room := standing.graph.reachableCount_le root
      obtain ⟨steps, leaf, walked, descends⟩ := walk_descends verbosity acyclic
        (Nat.lt_succ_of_le room)
      rw [passes] at ended ⊢
      obtain ⟨path, isPath, ended, log⟩ := exists_of_outcome_bind_ok ended
      rw [log, log_lift]
      have looked : Aside (descent verbosity standing.graph).log := aside_walk root
      cases isPath.symm.trans (congrArg Except.ok walked)
      obtain ⟨_, -, ended, log⟩ := exists_of_outcome_bind_ok ended
      rw [log, log_lift]
      have noted : Aside (note verbosity (.bestPath (root :: steps))).log :=
        aside_note Level.debug_ne_changes
      have told := Finalizing.asides standing (looked.append noted)
      rw [← List.append_assoc]
      by_cases moved : steps = []
      · subst moved
        cases ended
        cases descends with
        | stay bare => exact ⟨told.trans (.refl _), bare⟩
      · rw [descends.getLast?_steps moved] at ended ⊢
        obtain ⟨ranked, isRanked, ended, log⟩ := exists_of_outcome_bind_ok ended
        rw [log]
        obtain ⟨ranks, sameGraph, known⟩ :=
          rankNodes_finalizing heard (fun _ => descends.below_of_mem) isRanked
        have leafBelow := descends.leaf_below moved
        have leafKnown := (known leaf (descends.leaf_mem moved)).resolve_left
          (acyclic.ne_of_below leafBelow)
        have leafBare := descends.bare
        rw [← sameGraph] at leafBelow leafBare acyclic
        obtain ⟨pruned, isPruned, ended, log⟩ := exists_of_outcome_bind_ok ended
        rw [log]
        obtain ⟨deletes, deleted⟩ :=
          deleteLeaf_finalizing heard leafBelow leafBare leafKnown isPruned
        obtain ⟨others, bare⟩ := inductionHypothesis (deleted.acyclicBelow acyclic) ended
        exact ⟨told.trans (ranks.trans (deletes.trans others)), bare⟩

theorem rank_finalizing (heard : 1 ≤ verbosity) (acyclic : graph.AcyclicBelow root)
    (ended : (rank verbosity graph ledger).value = .ok final) :
    Finalizing ⟨graph, ledger⟩ (rank verbosity graph ledger).log final ∧
      final.graph.childrenOf root = [] :=
  passes_finalizing heard acyclic ended

end WidestPath

/-! ### The water drop -/

namespace Riverbed

variable {σ : Type} {bed : Riverbed} {flow landed : Flow σ} {first : Candidate}
  {others : List Candidate} {source : σ}

theorem aside_select [WordSource σ] (bed : Riverbed) (first : Candidate)
    (others : List Candidate) (source : σ) : Aside (bed.select first others source).log := by
  unfold select
  split
  · exact List.forall_mem_nil _
  · exact Aside.append (aside_note Level.debug_ne_changes) (List.forall_mem_nil _)

theorem aside_travel {next : NodeId} {arrived : Flow σ}
    (ended : outcome (bed.travel flow next) = .ok arrived) :
    Aside (bed.travel flow next).run.log := by
  rw [travel] at ended ⊢
  obtain ⟨effect, -, ended, log⟩ := exists_of_outcome_bind_ok ended
  rw [log, log_orBreach, List.nil_append]
  obtain ⟨pruned, -, ended, log⟩ := exists_of_outcome_bind_ok ended
  rw [log, log_orStop, List.nil_append]
  obtain ⟨_, -, ended, log⟩ := exists_of_outcome_bind_ok ended
  rw [log, log_lift]
  exact Aside.append (aside_note Level.debug_ne_changes) (List.forall_mem_nil _)

theorem rankReached_finalizing (heard : 1 ≤ bed.verbosity)
    (below : flow.graph.Below root flow.drop.current)
    (ended : outcome (bed.rankReached flow) = .ok landed) :
    Finalizing flow.toStanding (bed.rankReached flow).run.log landed.toStanding := by
  obtain ⟨⟨later, given⟩, called, rest, log⟩ := exists_of_outcome_bind_ok ended
  have call := of_outcome_orStop called
  have notes := finalizing_of_assign heard (.alreadyRanked flow.drop.current) below call
    Level.checks_ne_changes
  rw [rankReached, log, log_orStop, List.nil_append]
  cases given <;>
  · obtain ⟨_, -, isReached, log⟩ := exists_of_outcome_bind_ok rest
    cases isReached
    rw [log, log_lift]
    simpa using notes

/-- Wherever the drop stands at or below the root, one step ranks what it reaches. -/
theorem step_finalizing [WordSource σ] (heard : 1 ≤ bed.verbosity) (fits : bed.Fits flow.graph)
    (above : flow.drop.current = root ∨ flow.graph.Below root flow.drop.current)
    (candidates : (first :: others).map Candidate.node = flow.graph.childrenOf flow.drop.current)
    (ended : outcome (bed.step first others flow) = .ok landed) :
    Finalizing flow.toStanding (bed.step first others flow).run.log landed.toStanding := by
  have scored : Aside (noteAll bed.verbosity ((first :: others).map fun candidate =>
      .candidateScored candidate.node flow.drop.current candidate.score)).log := by
    apply aside_noteAll
    intro event member
    obtain ⟨candidate, -, rfl⟩ := List.mem_map.mp member
    exact Level.checks_ne_changes
  rw [step] at ended ⊢
  obtain ⟨_, -, ended, log⟩ := exists_of_outcome_bind_ok ended
  rw [log, log_lift]
  obtain ⟨⟨next, source⟩, isSelected, ended, log⟩ := exists_of_outcome_bind_ok ended
  rw [log, log_lift]
  have chosen := bed.select_mem first others flow.source
  rw [outcome_lift] at isSelected
  rw [Except.ok.inj isSelected, candidates] at chosen
  obtain ⟨arrived, travelled, ended, log⟩ := exists_of_outcome_bind_ok ended
  rw [log]
  obtain ⟨_, isArrived, same, place, sameLedger, -⟩ :=
    travel_ok { flow with source := source } fits chosen
  cases travelled.symm.trans isArrived
  have below : arrived.graph.Below root arrived.drop.current := by
    rw [same.below_eq, place]
    exact .of_child above chosen
  -- The crossing changes a weight only.
  have reached : arrived.toStanding = ⟨arrived.graph, flow.ledger⟩ := by rw [← sameLedger]
  have crosses : Finalizing flow.toStanding [] arrived.toStanding := by
    rw [reached]
    exact .done same
  have selected := bed.aside_select first others flow.source
  have told := Finalizing.asides flow.toStanding
    (scored.append (selected.append (aside_travel travelled)))
  have ranks := rankReached_finalizing heard below ended
  simpa only [List.append_nil, List.append_assoc] using (told.trans crosses).trans ranks

theorem descend_finalizing [WordSource σ] (heard : 1 ≤ bed.verbosity)
    (fits : bed.Fits flow.graph) (issued : flow.ledger.Issued count order)
    (above : flow.drop.current = root ∨ flow.graph.Below root flow.drop.current)
    (ended : outcome (bed.descend fuel flow) = .ok landed) :
    Finalizing flow.toStanding (bed.descend fuel flow).run.log landed.toStanding := by
  induction fuel generalizing flow order with
  | zero => cases ended
  | succ fuel inductionHypothesis =>
      obtain ⟨candidates, scored, nodes⟩ := candidateScores_ok fits flow.drop.current
      rw [descend, scored] at ended ⊢
      obtain ⟨_, isScored, ended, log⟩ := exists_of_outcome_bind_ok ended
      cases isScored
      rw [log, log_orBreach, List.nil_append]
      cases candidates with
      | nil =>
          cases ended
          exact .refl _
      | cons first others =>
          obtain ⟨next, stepped, ended, log⟩ := exists_of_outcome_bind_ok ended
          rw [log]
          have steps := step_finalizing heard fits above nodes stepped
          rcases step_ends fits issued nodes with
            ⟨node, _, isNext, child, place, same, issuedNext, -⟩ | ⟨_, _, isError, -⟩
          · cases stepped.symm.trans isNext
            have belowNext : next.graph.Below root next.drop.current := by
              rw [same.below_eq, place]
              exact .of_child above child
            exact steps.trans (inductionHypothesis (fits.of_nodeCount same.nodeCount) issuedNext
              (Or.inr belowNext) ended)
          · cases stepped.symm.trans isError

/-- The leaf under the drop has its priority already, so that all that is logged
is its removal. -/
theorem retireLeaf_finalizing (heard : 1 ≤ bed.verbosity)
    (below : flow.graph.Below root flow.drop.current)
    (bare : flow.graph.childrenOf flow.drop.current = [])
    (known : flow.ledger.isAssigned flow.drop.current = true)
    (present : flow.graph.isRemoved flow.drop.current = false)
    (ended : outcome (bed.retireLeaf flow) = .ok landed) :
    Finalizing flow.toStanding (bed.retireLeaf flow).run.log landed.toStanding := by
  obtain ⟨pruned, removed, deleted, -⟩ := flow.graph.removeNode_ok below.lt_nodeCount
  simp only [retireLeaf, present, Ledger.assign_of_isAssigned known, removed,
    Bool.false_eq_true, if_false] at ended ⊢
  obtain ⟨_, isAssigned, ended, log⟩ := exists_of_outcome_bind_ok ended
  cases isAssigned
  rw [log, log_orStop, List.nil_append]
  obtain ⟨_, isPruned, ended, log⟩ := exists_of_outcome_bind_ok ended
  cases isPruned
  rw [log, log_orStop, List.nil_append]
  obtain ⟨_, -, isLanded, log⟩ := exists_of_outcome_bind_ok ended
  cases isLanded
  rw [log, log_lift, log_note heard rfl]
  exact .removed below bare known deleted (.refl _)

/-- Where a descent from the root lands, the leaf has its priority. -/
theorem Poised.known_leaf {steps : List NodeId} (poised : bed.Poised count order flow)
    (descent : flow.graph.Descent root steps landed.drop.current) (moved : steps ≠ [])
    (issued : landed.ledger.Issued count (metAll order steps)) :
    landed.ledger.isAssigned landed.drop.current = true := by
  have notRoot := poised.acyclic.ne_of_below (descent.leaf_below moved)
  exact issued.isAssigned_iff.mpr (Ledger.mem_metAll.mpr (Or.inr ⟨descent.leaf_mem moved, notRoot⟩))

theorem descents_finalizing [WordSource σ] {final : Flow σ} (heard : 1 ≤ bed.verbosity)
    (poised : bed.Poised count order flow)
    (ended : outcome (bed.descents most fuel flow) = .ok final) :
    Finalizing flow.toStanding (bed.descents most fuel flow).run.log final.toStanding ∧
      final.graph.childrenOf root = [] := by
  induction fuel generalizing flow order with
  | zero => cases ended
  | succ fuel inductionHypothesis =>
      rw [descents] at ended ⊢
      obtain ⟨landed, descended, ended, log⟩ := exists_of_outcome_bind_ok ended
      rw [log]
      have descends := descend_finalizing heard poised.fits poised.issued (Or.inl poised.atRoot)
        descended
      obtain ⟨crossed, crosses⟩ := crosses_of_descend descended
      obtain ⟨descent, same, issued, -⟩ := crosses.descends poised.fits poised.issued
      rw [poised.atRoot] at descent
      have bare := descent.bare
      rw [← same.childrenOf] at bare
      by_cases atRoot : landed.drop.current = root
      · simp only [if_pos atRoot] at ended ⊢
        cases ended
        rw [atRoot] at bare
        exact ⟨descends.trans (.refl _), bare⟩
      · simp only [if_neg atRoot] at ended ⊢
        obtain ⟨later, retired, ended, log⟩ := exists_of_outcome_bind_ok ended
        rw [log]
        have moved := descent.ne_nil atRoot
        have below := descent.leaf_below moved
        have present := poised.present _ below
        have known := poised.known_leaf descent moved issued
        obtain ⟨_, isRetired, -, poisedLater, -⟩ := poised.retire descent moved same issued
        cases retired.symm.trans isRetired
        rw [← same.below_eq] at below
        rw [← same.isRemoved] at present
        have retires := retireLeaf_finalizing heard below bare known present retired
        obtain ⟨others, bareFinal⟩ := inductionHypothesis poisedLater ended
        exact ⟨descends.trans (retires.trans others), bareFinal⟩

theorem rank_finalizing [WordSource σ] {final : Flow σ} (heard : 1 ≤ bed.verbosity)
    (fits : bed.Fits graph) (issued : ledger.Issued count order)
    (acyclic : graph.AcyclicBelow root)
    (present : ∀ v, graph.Below root v → graph.isRemoved v = false)
    (ended : (bed.rank graph ledger source).value = .ok final) :
    Finalizing ⟨graph, ledger⟩ (bed.rank graph ledger source).log final.toStanding ∧
      final.graph.childrenOf root = [] := by
  rw [rank_eq_descents fits] at ended
  have poised := poised_launch source fits issued acyclic present
  obtain ⟨finalizing, bare⟩ := descents_finalizing heard poised ended
  rw [rank, rankWithin_eq_run fits.costs]
  exact ⟨finalizing.of_sameShape (bed.sameShape_launch graph ledger source), bare⟩

end Riverbed

/-- Wherever the passes of a ranking land, the leaf has its priority. -/
theorem Passes.known_leaves {σ : Type} [WordSource σ] {bed : Riverbed} {start final : Flow σ}
    {passes : List (Pass σ)} (made : Passes bed start passes final)
    (poised : bed.Poised count order start) :
    ∀ pass ∈ passes, pass.landed.ledger.isAssigned pass.leaf = true := by
  induction made generalizing order with
  | ends => exact List.forall_mem_nil _
  | @pass pass passes final first _ inductionHypothesis =>
      obtain ⟨descends, poisedLater⟩ := first.descends poised
      obtain ⟨-, -, issued, -⟩ := first.crosses.descends poised.fits poised.issued
      have moved := descends.descent.ne_nil first.moved
      intro other member
      rcases List.mem_cons.mp member with same | later
      · rw [same]
        exact poised.known_leaf descends.descent moved issued
      · exact inductionHypothesis poisedLater other later

/-! ### Whole rankings -/

/-- At every verbosity a ranking that starts with a fresh ledger ends in one state.
Its events tell how it got there, and, like what is logged of them at every
verbosity but the silent one, that it is done with the nodes leaves first. The
lines written for what is logged show the same. -/
structure EndsLeavesFirst (graph : Graph) (count : Nat) (standing : S → Standing)
    (ranking : Verbosity → Logged (Except (Stopped S) S)) (events : List Event) (final : S) :
    Prop where
  run : ∀ verbosity, ranking verbosity =
    { value := .ok final, log := events.filter fun event => event.level.shownAt verbosity }
  finalizing : Finalizing ⟨graph, .ofTaskCount count⟩ events (standing final)
  leavesFirst : LeavesFirst graph count events
  told : ∀ verbosity, 1 ≤ verbosity → LeavesFirst graph count (ranking verbosity).log
  written : ∀ verbosity, 1 ≤ verbosity →
    ShowsLeavesFirst graph count ((ranking verbosity).log.map Event.line)

theorem endsLeavesFirst_of_finalizing {final : S} {standing : S → Standing}
    {ranking : Verbosity → Logged (Except (Stopped S) S)} (filters : OnlyFilters ranking)
    (ended : (ranking verbosity).value = .ok final)
    (finalizing : ∀ heard, 1 ≤ heard → (ranking heard).value = .ok final →
      Finalizing ⟨graph, .ofTaskCount count⟩ (ranking heard).log (standing final) ∧
        (standing final).graph.childrenOf root = []) :
    EndsLeavesFirst graph count standing ranking (ranking 3).log final := by
  have loudest : (ranking 3).value = .ok final := by
    rw [filters.eq_seenAt verbosity] at ended
    exact ended
  have everywhere (heard : Verbosity) : (ranking heard).value = .ok final := by
    rw [filters.eq_seenAt heard]
    exact loudest
  have told (heard : Verbosity) (loud : 1 ≤ heard) :
      LeavesFirst graph count (ranking heard).log := by
    obtain ⟨steps, bare⟩ := finalizing heard loud (everywhere heard)
    exact steps.leavesFirst bare
  have written (heard : Verbosity) (loud : 1 ≤ heard) :
      ShowsLeavesFirst graph count ((ranking heard).log.map Event.line) :=
    (told heard loud).shows (finalizing heard loud (everywhere heard)).1
  refine ⟨?_, (finalizing 3 (by decide) loudest).1, told 3 (by decide), told, written⟩
  intro heard
  rw [filters.eq_seenAt heard, Logged.seenAt, loudest]

/-- Below the root every ranking is done with the leaves first. Without a cycle
there and with a slot for each node there, of which none has been removed, it
gives each its priority once, from `count` down, and deletes each once, after it
has been ranked and after its children have been deleted. The lines of its log
show so unless it is silent. The drop never lands on a leaf without a priority. -/
theorem rankings_leave_first (acyclic : graph.AcyclicBelow root)
    (present : ∀ v, graph.Below root v → graph.isRemoved v = false)
    (slots : ∀ v, graph.Below root v → v < (Ledger.ofTaskCount count).slots.size) :
    (∃ events final, EndsLeavesFirst graph count (fun standing => standing)
      (fun verbosity => WidestPath.rank verbosity graph (.ofTaskCount count)) events final) ∧
    ∀ (σ : Type) [WordSource σ] (bed : Riverbed) (source : σ), bed.Fits graph →
      ∃ events final, EndsLeavesFirst graph count Flow.toStanding
        (fun verbosity => (bed.heardAt verbosity).rank graph (.ofTaskCount count) source)
        events final ∧
      ∃ passes, Passes bed (bed.launch graph (.ofTaskCount count) source) passes final ∧
        ∀ pass ∈ passes, pass.landed.ledger.isAssigned pass.leaf = true := by
  have fresh := Ledger.issued_ofTaskCount count
  constructor
  · obtain ⟨final, ended⟩ : ∃ final,
        (WidestPath.rank 3 graph (.ofTaskCount count)).value = .ok final := by
      rcases WidestPath.rank_ends 3 fresh acyclic with ⟨final, -, ended, -⟩ | stops
      · exact ⟨final, ended⟩
      · obtain ⟨_, v, -, -, below, beyond⟩ := stops
        have slot := slots v below
        rw [fresh.size] at slot
        exact absurd (Nat.le_of_lt_succ slot) (Nat.not_le.mpr beyond)
    refine ⟨_, final, endsLeavesFirst_of_finalizing (WidestPath.rank_filters graph _) ended ?_⟩
    intro heard loud isFinal
    exact WidestPath.rank_finalizing loud acyclic isFinal
  · intro σ _ bed source fits
    obtain ⟨final, passes, ended, made⟩ := rank_passes source fits fresh acyclic present slots
    refine ⟨_, final, endsLeavesFirst_of_finalizing (bed.rank_filters graph _ source) ended ?_,
      passes, made, made.known_leaves (Riverbed.poised_launch source fits fresh acyclic present)⟩
    intro heard loud isFinal
    have fitsHeard : (bed.heardAt heard).Fits graph := ⟨fits.costs, fits.bounds⟩
    exact Riverbed.rank_finalizing loud fitsHeard fresh acyclic present isFinal

/-- The root leads to both its nodes, and the first of them to the second. -/
private def shortcut : Graph where
  nodes := #[{ edges := [⟨2, 1.0⟩, ⟨1, 1.0⟩] }, { edges := [⟨2, 1.0⟩] }, {}]
  dest_lt := by decide

theorem rankings_leave_first_shortcut :
    let bed : Riverbed := { costs := Array.replicate 3 1.0 }
    let source : Script := { words := [7, 5] }
    let lines : List String :=
      ["[iwd-sched changes]   Assigned priority 2 to task 1",
        "[iwd-sched changes]   Assigned priority 1 to task 2",
        "[iwd-sched changes]   Removed task 2 from graph",
        "[iwd-sched changes]   Removed task 1 from graph"]
    shortcut.AcyclicBelow root ∧ (∀ v, shortcut.Below root v → shortcut.isRemoved v = false) ∧
      (∀ v, shortcut.Below root v → v < (Ledger.ofTaskCount 2).slots.size) ∧ bed.Fits shortcut ∧
      LeavesFirst shortcut 2 (WidestPath.rank 1 shortcut (.ofTaskCount 2)).log ∧
      LeavesFirst shortcut 2 ((bed.heardAt 1).rank shortcut (.ofTaskCount 2) source).log ∧
      (WidestPath.rank 1 shortcut (.ofTaskCount 2)).log.map Event.line = lines ∧
      ShowsLeavesFirst shortcut 2 lines ∧
      ShowsLeavesFirst shortcut 2
        (((bed.heardAt 1).rank shortcut (.ofTaskCount 2) source).log.map Event.line) := by
  intro bed source lines
  have acyclic : shortcut.AcyclicBelow root := .of_ascending [0, 1, 2] (by decide) (by decide)
  have noneRemoved : ∀ v < 3, shortcut.isRemoved v = false := by decide
  have present : ∀ v, shortcut.Below root v → shortcut.isRemoved v = false :=
    fun v below => noneRemoved v below.lt_nodeCount
  have slots : ∀ v, shortcut.Below root v → v < (Ledger.ofTaskCount 2).slots.size :=
    fun _ below => below.lt_nodeCount
  have fits : bed.Fits shortcut := ⟨rfl, by decide⟩
  obtain ⟨⟨_, _, widest⟩, drops⟩ := rankings_leave_first acyclic present slots
  obtain ⟨_, _, drop, -⟩ := drops Script bed source fits
  have isLines : (WidestPath.rank 1 shortcut (.ofTaskCount 2)).log.map Event.line = lines := by
    decide +kernel
  have shown := widest.written 1 (by decide)
  rw [isLines] at shown
  exact ⟨acyclic, present, slots, fits, widest.told 1 (by decide), drop.told 1 (by decide),
    isLines, shown, drop.written 1 (by decide)⟩

example : rankings (WidestPath.rank 1 shortcut (.ofTaskCount 2)).log = [(1, 2), (2, 1)] ∧
    removals (WidestPath.rank 1 shortcut (.ofTaskCount 2)).log = [2, 1] := by
  decide +kernel

end DagScheduling
