/-
Module: DagScheduling.Proofs.Ranking.Exhaustion
Purpose: Both rankings exhaust exactly the part of a graph that is below the root, on graphs
  and ledgers of any kind as long as no cycle can be reached.
Main exports: Exhausted, Exhausts, rankings_exhaust
-/
import DagScheduling.Proofs.Ranking.WaterDrop
import DagScheduling.Proofs.Ranking.WidestPath

namespace DagScheduling

open Ledger (metAll Issued)

variable {graph : Graph} {ledger : Ledger} {final : Standing} {count : Nat}
  {order : List NodeId} {trace : List (List NodeId)}

/-- What a ranking that has ended made of a graph and a ledger: every node
below the root has its priority and is deleted, and all else is as it was. -/
structure Exhausted (graph : Graph) (ledger : Ledger) (final : Standing) : Prop where
  isAssigned_iff : ∀ v, final.ledger.isAssigned v = true ↔
    ledger.isAssigned v = true ∨ graph.Below root v
  get?_eq : ∀ v, ledger.isAssigned v = true → final.ledger.get? v = ledger.get? v
  /-- The new priorities count down from the old counter without a gap. -/
  issued : ∃ fresh : List NodeId, fresh.Nodup ∧
    (∀ v, v ∈ fresh ↔ graph.Below root v ∧ ledger.isAssigned v = false) ∧
    (∀ (i : Nat) (inRange : i < fresh.length),
      final.ledger.get? fresh[i] = some (ledger.next - i)) ∧
    final.ledger.next + fresh.length = ledger.next
  nodeCount_eq : final.graph.nodeCount = graph.nodeCount
  isRemoved_iff : ∀ v, final.graph.isRemoved v = true ↔
    graph.isRemoved v = true ∨ graph.Below root v
  childrenOf_eq : ∀ v, final.graph.childrenOf v =
    (graph.childrenOf v).filter fun w => ¬ graph.Below root w

/-- A ranking ends exactly if every node below the root has a slot, and then
has exhausted graph and ledger. Otherwise a node without a slot is reported. -/
structure Exhausts {S : Type} (graph : Graph) (ledger : Ledger) (view : S → Standing)
    (result : Except (Stopped S) S) : Prop where
  ok_iff : (∃ final, result = .ok final) ↔
    ∀ v, graph.Below root v → v < ledger.slots.size
  unknown : ∀ stopped, result = .error stopped →
    ∃ v, stopped.failure = .reported (.unknownNode v) ∧ graph.Below root v ∧
      ledger.slots.size ≤ v
  exhausted : ∀ final, result = .ok final → Exhausted graph ledger (view final)

/-- The nodes met along the trace are those met before and those below the root. -/
private theorem mem_metAll_trace (acyclic : graph.AcyclicBelow root)
    (peels : Peels graph trace final.graph) (order : List NodeId) (v : NodeId) :
    v ∈ metAll order trace.flatten ↔ v ∈ order ∨ graph.Below root v := by
  rw [Ledger.mem_metAll, peels.mem_flatten_iff]
  constructor
  · rintro (old | ⟨below, -⟩)
    · exact Or.inl old
    · exact Or.inr below
  · rintro (old | below)
    · exact Or.inl old
    · exact Or.inr ⟨below, acyclic.ne_of_below below⟩

/-- The nodes met last, in their order, have the priorities from the old counter down. -/
private theorem get?_of_appended {fresh : List NodeId} (issued : Issued ledger count order)
    (issuedFinal : Issued final.ledger count (order ++ fresh)) (i : Nat)
    (inRange : i < fresh.length) :
    final.ledger.get? fresh[i] = some (ledger.next - i) := by
  have counter := issued.next
  have distinct := List.nodup_append.mp issuedFinal.nodup
  have new : fresh[i] ∉ order := by
    intro old
    exact distinct.2.2 _ old _ (List.getElem_mem inRange) rfl
  have place : (order ++ fresh).idxOf fresh[i] = order.length + i := by
    rw [List.idxOf_append_of_notMem new, distinct.2.1.idxOf_getElem i inRange]
  rw [issuedFinal.priority, if_pos (List.mem_append_right order (List.getElem_mem inRange)), place]
  congr 1
  lia

private theorem exhausted_of_peels (issued : Issued ledger count order)
    (acyclic : graph.AcyclicBelow root) (peels : Peels graph trace final.graph)
    (issuedFinal : Issued final.ledger count (metAll order trace.flatten)) :
    Exhausted graph ledger final := by
  have members := mem_metAll_trace acyclic peels order
  obtain ⟨fresh, appended⟩ := Ledger.prefix_metAll order trace.flatten
  rw [← appended] at issuedFinal members
  have distinct := List.nodup_append.mp issuedFinal.nodup
  refine ⟨?_, ?_, ⟨fresh, distinct.2.1, ?_, ?_, ?_⟩, peels.nodeCount_eq,
    fun _ => peels.isRemoved_iff, peels.childrenOf_eq⟩
  · intro v
    rw [issuedFinal.isAssigned_iff, issued.isAssigned_iff, members v]
  · intro v assigned
    have old := issued.isAssigned_iff.mp assigned
    rw [issuedFinal.priority, issued.priority, if_pos old,
      if_pos (List.mem_append_left fresh old), List.idxOf_append_of_mem old]
  · intro v
    rw [← Bool.not_eq_true, issued.isAssigned_iff]
    have member := members v
    rw [List.mem_append] at member
    constructor
    · intro new
      have notOld : v ∉ order := fun old => distinct.2.2 v old v new rfl
      exact ⟨(member.mp (Or.inr new)).resolve_left notOld, notOld⟩
    · rintro ⟨below, notOld⟩
      exact (member.mpr (Or.inr below)).resolve_left notOld
  · exact get?_of_appended issued issuedFinal
  · have before := issued.next
    have after := issuedFinal.next
    rw [List.length_append] at after
    lia

/-- A ranking that ends in passes or stops at a node without a slot does as stated. -/
private theorem exhausts_of_ends {S : Type} {view : S → Standing}
    {result : Except (Stopped S) S} (issued : Issued ledger count order)
    (acyclic : graph.AcyclicBelow root)
    (ends : (∃ final trace, result = .ok final ∧ Peels graph trace (view final).graph ∧
        Issued (view final).ledger count (metAll order trace.flatten)) ∨
      StopsAtUnknown (graph.Below root) count result) :
    Exhausts graph ledger view result := by
  have slots := issued.size
  rcases ends with ⟨final, trace, isOk, peels, issuedFinal⟩ |
    ⟨stopped, v, isError, cause, below, beyond⟩
  · refine ⟨⟨?_, fun _ => ⟨final, isOk⟩⟩, ?_, ?_⟩
    · intro _ v below
      have member := (mem_metAll_trace acyclic peels order v).mpr (Or.inr below)
      have bounds := issuedFinal.inRange v member
      lia
    · intro stopped isError
      rw [isOk] at isError
      cases isError
    · intro other isOther
      rw [isOk] at isOther
      cases isOther
      exact exhausted_of_peels issued acyclic peels issuedFinal
  · refine ⟨⟨?_, ?_⟩, ?_, ?_⟩
    · rintro ⟨final, isOk⟩
      rw [isError] at isOk
      cases isOk
    · intro covered
      have bound := covered v below
      lia
    · intro other isOther
      rw [isError] at isOther
      cases isOther
      exact ⟨v, cause, below, by lia⟩
    · intro final isOk
      rw [isError] at isOk
      cases isOk

/-- Two rankings that have exhausted the same graph and ledger leave the same
shape of graph, and have ranked the same nodes. -/
private theorem Exhausted.agree {first second : Standing} (one : Exhausted graph ledger first)
    (two : Exhausted graph ledger second) :
    Graph.SameShape first.graph second.graph ∧
      (∀ v, second.ledger.isAssigned v = first.ledger.isAssigned v) ∧
      second.ledger.next = first.ledger.next := by
  refine ⟨⟨two.nodeCount_eq.trans one.nodeCount_eq.symm, ?_, ?_⟩, ?_, ?_⟩
  · intro v
    rw [one.childrenOf_eq v, two.childrenOf_eq v]
  · intro v
    rw [Bool.eq_iff_iff, one.isRemoved_iff v, two.isRemoved_iff v]
  · intro v
    rw [Bool.eq_iff_iff, one.isAssigned_iff v, two.isAssigned_iff v]
  · obtain ⟨ranked, distinct, members, -, counter⟩ := one.issued
    obtain ⟨rankedToo, distinctToo, membersToo, -, counterToo⟩ := two.issued
    have same : ranked.Perm rankedToo := by
      apply (List.perm_ext_iff_of_nodup distinct distinctToo).mpr
      intro v
      rw [members v, membersToo v]
    have lengths := same.length_eq
    lia

/-- On any graph without a cycle below the root, and from any ledger that calls
lead to, each ranking exhausts what is below the root, or reports a node there
that has no slot. The widest path ranking keeps the weights of the edges that
survive. Both rankings end in the same cases, and then they agree on all but the
order of the new priorities. -/
theorem rankings_exhaust (reached : Ledger.Reached count ledger)
    (acyclic : graph.AcyclicBelow root) (verbosity : Verbosity) :
    Exhausts graph ledger (fun final => final) (WidestPath.rank verbosity graph ledger).value ∧
    (∀ final, (WidestPath.rank verbosity graph ledger).value = .ok final →
      ∀ v, final.graph.edgesOf v =
        (graph.edgesOf v).filter fun edge => ¬ graph.Below root edge.dest) ∧
    ∀ (σ : Type) [WordSource σ] (bed : Riverbed) (source : σ), bed.Fits graph →
      (∀ v, graph.Below root v → graph.isRemoved v = false) →
      Exhausts graph ledger Flow.toStanding (bed.rank graph ledger source).value ∧
      ((∃ final, (WidestPath.rank verbosity graph ledger).value = .ok final) ↔
        ∃ final, (bed.rank graph ledger source).value = .ok final) ∧
      ∀ first second, (WidestPath.rank verbosity graph ledger).value = .ok first →
        (bed.rank graph ledger source).value = .ok second →
        Graph.SameShape first.graph second.graph ∧
          (∀ v, second.ledger.isAssigned v = first.ledger.isAssigned v) ∧
          second.ledger.next = first.ledger.next := by
  obtain ⟨order, issued⟩ := reached.exists_issued
  have widest := WidestPath.rank_ends verbosity issued acyclic
  have widestExhausts : Exhausts graph ledger (fun final => final)
      (WidestPath.rank verbosity graph ledger).value := by
    apply exhausts_of_ends issued acyclic
    rcases widest with ⟨final, trace, isOk, peels, issuedFinal, -⟩ | stops
    · exact Or.inl ⟨final, trace, isOk, peels, issuedFinal⟩
    · exact Or.inr stops
  refine ⟨widestExhausts, ?_, ?_⟩
  · intro final isOk
    rcases widest with ⟨other, trace, isOther, -, -, kept⟩ | ⟨stopped, v, isError, -⟩
    · rw [isOk] at isOther
      cases isOther
      exact kept
    · rw [isOk] at isError
      cases isError
  · intro σ _ bed source fits present
    have dropExhausts : Exhausts graph ledger Flow.toStanding
        (bed.rank graph ledger source).value :=
      exhausts_of_ends issued acyclic (bed.rank_ends source fits issued acyclic present)
    refine ⟨dropExhausts, widestExhausts.ok_iff.trans dropExhausts.ok_iff.symm, ?_⟩
    intro first second isFirst isSecond
    exact (widestExhausts.exhausted first isFirst).agree (dropExhausts.exhausted second isSecond)

/-- Two ways to node 3, one of them recorded twice, and a cycle out of reach
that leads there too. -/
private def twoWays : Graph where
  nodes :=
    #[{ edges := [⟨1, 1.0⟩, ⟨2, 1.0⟩] }, { edges := [⟨3, 1.0⟩] },
      { edges := [⟨3, 1.0⟩, ⟨3, 2.0⟩] }, {}, { edges := [⟨3, 1.0⟩, ⟨5, 1.0⟩] },
      { edges := [⟨4, 1.0⟩] }]
  dest_lt := by decide

/-- A ledger for five tasks in which node 3 has been met. -/
private def threeMet : Ledger :=
  { slots := #[none, none, none, some 5, none, none], next := 4 }

private def levelBed : Riverbed :=
  { costs := Array.replicate 6 1.0 }

theorem rankings_exhaust_twoWays :
    Ledger.Reached 5 threeMet ∧ twoWays.AcyclicBelow root ∧ levelBed.Fits twoWays ∧
      (∀ v, twoWays.Below root v → twoWays.isRemoved v = false) ∧
      Exhausts twoWays threeMet (fun final => final)
        (WidestPath.rank 0 twoWays threeMet).value ∧
      Exhausts twoWays threeMet Flow.toStanding
        (levelBed.rank twoWays threeMet ({ words := [7] } : Script)).value := by
  have assigned : (Ledger.ofTaskCount 5).assign 3 = .ok (threeMet, some 5) := by decide
  have reached : Ledger.Reached 5 threeMet := .assigned .fresh assigned
  have acyclic : twoWays.AcyclicBelow root :=
    .of_ascending [0, 1, 2, 3] (by decide) (by decide)
  have fits : levelBed.Fits twoWays := ⟨rfl, by decide⟩
  have noneRemoved : ∀ v < 6, twoWays.isRemoved v = false := by decide
  have present : ∀ v, twoWays.Below root v → twoWays.isRemoved v = false :=
    fun v below => noneRemoved v below.lt_nodeCount
  have both := rankings_exhaust reached acyclic 0
  exact ⟨reached, acyclic, fits, present, both.1,
    (both.2.2 Script levelBed { words := [7] } fits present).1⟩

end DagScheduling
