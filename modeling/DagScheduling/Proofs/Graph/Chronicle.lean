/-
Module: DagScheduling.Proofs.Graph.Chronicle
Purpose: A graph under calls in any order is one list of edges in the order of their adding. Every
  question about its edges, and every error of a call, can be read off that list.
Main exports: Graph.Entry, Graph.Chronicle, Graph.Chronicle.record, Graph.Refused,
  Graph.Chronicles, Graph.Chronicles.error_iff, Graph.Chronicles.perform,
  Graph.performAll_chronicled
-/
import DagScheduling.Proofs.Graph.Operations

namespace DagScheduling.Graph

/-- An edge together with its source. -/
structure Entry where
  source : NodeId
  dest : NodeId
  weight : Float
deriving Repr

namespace Entry

/-- What the source keeps of the entry. -/
def edge (entry : Entry) : Edge :=
  { dest := entry.dest, weight := entry.weight }

/-- Whether the entry leads from `v` to `w`. -/
def joins (v w : NodeId) (entry : Entry) : Bool :=
  entry.source == v && entry.dest == w

end Entry

/-- The edges of a whole graph in one list, oldest first. -/
abbrev Chronicle := List Entry

namespace Chronicle

/-! ### What can be read off the list -/

def edgesOf (entries : Chronicle) (v : NodeId) : List Edge :=
  (entries.filter fun entry => entry.source == v).map Entry.edge

def childrenOf (entries : Chronicle) (v : NodeId) : List NodeId :=
  (entries.filter fun entry => entry.source == v).map Entry.dest

def fanOut (entries : Chronicle) (v : NodeId) : Nat :=
  entries.countP fun entry => entry.source == v

def containsEdge (entries : Chronicle) (v w : NodeId) : Bool :=
  entries.any (Entry.joins v w)

/-- The weight of the first entry that leads from `v` to `w`, 0 where there is none. -/
def weight (entries : Chronicle) (v w : NodeId) : Float :=
  match entries.find? (Entry.joins v w) with
  | some entry => entry.weight
  | none => 0.0

/-! ### What a call makes of the list -/

/-- Give the first entry that leads from `v` to `w` another weight. -/
def reweigh (v w : NodeId) (weight : Float) : Chronicle → Chronicle
  | [] => []
  | entry :: rest =>
      if entry.joins v w then { entry with weight := weight } :: rest
      else entry :: reweigh v w weight rest

/-- The list after a call on a graph of `count` nodes. -/
def record (count : Nat) (entries : Chronicle) : Operation → Chronicle
  | .addEdge source dest weight =>
      if source < count ∧ dest < count then
        entries ++ [{ source := source, dest := dest, weight := weight }]
      else entries
  | .setWeight source dest weight => reweigh source dest weight entries
  | .removeNode node => entries.filter fun entry => entry.source != node && entry.dest != node
  | .weighByFanOut base multiplier =>
      entries.map fun entry =>
        { entry with weight := base + multiplier * Float.ofNat (fanOut entries entry.dest) }

/-- The list after a run of calls on a new graph of `count` nodes. -/
def recordAll (count : Nat) (ops : List Operation) : Chronicle :=
  ops.foldl (record count) []

variable {entries : Chronicle} {v w : NodeId} {weight : Float}

theorem edgesOf_cons (entry : Entry) (rest : Chronicle) (u : NodeId) :
    edgesOf (entry :: rest) u =
      if entry.source = u then entry.edge :: edgesOf rest u else edgesOf rest u := by
  by_cases ofSource : entry.source = u <;> simp [edgesOf, ofSource]

theorem edgesOf_append (front back : Chronicle) (u : NodeId) :
    edgesOf (front ++ back) u = edgesOf front u ++ edgesOf back u := by
  simp [edgesOf]

/-- Where no entry leads from `v` to `w`, none changes. -/
theorem reweigh_of_absent (absent : containsEdge entries v w = false) :
    reweigh v w weight entries = entries := by
  induction entries with
  | nil => rfl
  | cons entry rest inductionHypothesis =>
      simp only [containsEdge, List.any_cons, Bool.or_eq_false_iff] at absent
      rw [reweigh, if_neg (by simp [absent.1]), inductionHypothesis absent.2]

/-- What one source keeps has its first edge to `w` reweighed, and no other source is concerned. -/
theorem edgesOf_reweigh (u : NodeId) :
    edgesOf (reweigh v w weight entries) u =
      if u = v then reweighFirst w weight (edgesOf entries u) else edgesOf entries u := by
  induction entries with
  | nil => simp [edgesOf, reweigh, reweighFirst]
  | cons entry rest inductionHypothesis =>
      rw [reweigh]
      by_cases here : entry.joins v w = true
      · obtain ⟨ofSource, ofDest⟩ : entry.source = v ∧ entry.dest = w := by
          simpa [Entry.joins] using here
        rw [if_pos here, edgesOf_cons, edgesOf_cons]
        by_cases same : u = v
        · simp [same, ofSource, ofDest, Entry.edge, reweighFirst]
        · simp [same, Ne.symm same, ofSource]
      · rw [if_neg here, edgesOf_cons, edgesOf_cons, inductionHypothesis]
        by_cases ofSource : entry.source = u
        · have elsewhere : u = v → entry.dest ≠ w := by
            intro same ofDest
            exact here (by simp [Entry.joins, ofSource, ofDest, same])
          by_cases same : u = v
          · simp [ofSource, same, reweighFirst, Entry.edge, elsewhere same]
          · simp [ofSource, same]
        · simp [ofSource]

/-- Without the entries at `node` it keeps nothing, and the others keep what does not lead to it. -/
theorem edgesOf_filter (entries : Chronicle) (node u : NodeId) :
    edgesOf (entries.filter fun entry => entry.source != node && entry.dest != node) u =
      if u = node then [] else (edgesOf entries u).filter fun edge => edge.dest != node := by
  rw [edgesOf, List.filter_filter]
  split
  · rename_i same
    rw [List.map_eq_nil_iff, List.filter_eq_nil_iff]
    intro entry _
    simp only [same, Bool.and_eq_true, beq_iff_eq, bne_iff_ne, not_and]
    exact fun ofNode away => absurd ofNode away
  · rename_i other
    rw [edgesOf, List.filter_map, List.filter_filter]
    congr 1
    apply List.filter_congr
    intro entry _
    rcases eq_or_ne entry.source u with ofSource | ofOther
    · simp [ofSource, other, Entry.edge]
    · simp [beq_eq_false_iff_ne.mpr ofOther]

end Chronicle

open Chronicle

/-- The errors that a call on a graph of `count` nodes gives rise to. -/
inductive Refused (count : Nat) (entries : Chronicle) : Operation → GraphError → Prop
  | source {source dest : NodeId} {weight : Float} (beyond : count ≤ source) :
      Refused count entries (.addEdge source dest weight) (.nodeOutOfRange source)
  | dest {source dest : NodeId} {weight : Float} (sourceInRange : source < count)
      (beyond : count ≤ dest) :
      Refused count entries (.addEdge source dest weight) (.nodeOutOfRange dest)
  | reweighedSource {v w : NodeId} {weight : Float} (beyond : count ≤ v) :
      Refused count entries (.setWeight v w weight) (.nodeOutOfRange v)
  | noEntry {v w : NodeId} {weight : Float} (inRange : v < count)
      (absent : entries.containsEdge v w = false) :
      Refused count entries (.setWeight v w weight) (.edgeNotFound v w)
  | removed {v : NodeId} (beyond : count ≤ v) :
      Refused count entries (.removeNode v) (.nodeOutOfRange v)

variable {graph later : Graph} {entries : Chronicle} {count : Nat} {op : Operation}

/-- The list tells what every node keeps. -/
def Chronicles (graph : Graph) (entries : Chronicle) : Prop :=
  ∀ v, graph.edgesOf v = entries.edgesOf v

theorem lt_of_addEdge {source dest : NodeId} {weight : Float}
    (added : graph.addEdge source dest weight = .ok later) :
    source < graph.nodeCount ∧ dest < graph.nodeCount := by
  unfold Graph.addEdge at added
  split at added
  · split at added
    · exact ⟨‹_›, ‹_›⟩
    · cases added
  · cases added

namespace Chronicles

/-! ### Views -/

theorem childrenOf_eq (chronicles : Chronicles graph entries) (v : NodeId) :
    graph.childrenOf v = entries.childrenOf v := by
  rw [Graph.childrenOf, chronicles v, Chronicle.edgesOf, List.map_map]
  rfl

theorem fanOut_eq (chronicles : Chronicles graph entries) (v : NodeId) :
    graph.fanOut v = entries.fanOut v := by
  rw [Graph.fanOut, chronicles v, Chronicle.edgesOf, List.length_map, Chronicle.fanOut,
    List.countP_eq_length_filter]

theorem containsEdge_eq (chronicles : Chronicles graph entries) (v w : NodeId) :
    graph.containsEdge v w = entries.containsEdge v w := by
  rw [Graph.containsEdge, chronicles v, Chronicle.edgesOf, List.any_map, List.any_filter]
  rfl

theorem weight_eq (chronicles : Chronicles graph entries) (v w : NodeId) :
    graph.weight v w = entries.weight v w := by
  have found : (graph.edgesOf v).find? (fun edge => edge.dest == w) =
      (entries.find? (Entry.joins v w)).map Entry.edge := by
    rw [chronicles v, Chronicle.edgesOf, List.find?_map, List.find?_filter]
    congr 2
    funext entry
    rw [Bool.eq_iff_iff]
    simp [Entry.joins, Entry.edge]
  rw [Graph.weight, found, Chronicle.weight]
  cases entries.find? (Entry.joins v w) <;> rfl

/-- The list names nodes of the graph only. -/
theorem within (chronicles : Chronicles graph entries) {entry : Entry} (member : entry ∈ entries) :
    entry.source < graph.nodeCount ∧ entry.dest < graph.nodeCount := by
  have child : graph.Child entry.source entry.dest := by
    rw [Child, chronicles.childrenOf_eq]
    exact List.mem_map_of_mem (List.mem_filter.mpr ⟨member, beq_self_eq_true _⟩)
  exact ⟨child.source_lt, child.dest_lt⟩

/-! ### Errors -/

theorem error_iff (chronicles : Chronicles graph entries) {cause : GraphError} :
    op.apply graph = .error cause ↔ Refused graph.nodeCount entries op cause := by
  constructor
  · intro failed
    cases op with
    | addEdge source dest weight =>
        rw [Operation.apply, addEdge] at failed
        split at failed
        · rename_i sourceInRange
          split at failed
          · cases failed
          · rename_i beyond
            cases failed
            exact .dest sourceInRange (Nat.le_of_not_lt beyond)
        · rename_i beyond
          cases failed
          exact .source (Nat.le_of_not_lt beyond)
    | setWeight v w weight =>
        rw [Operation.apply, setWeight] at failed
        split at failed
        · rename_i inRange
          split at failed
          · cases failed
          · rename_i absent
            cases failed
            rw [chronicles.containsEdge_eq, Bool.not_eq_true] at absent
            exact .noEntry inRange absent
        · rename_i beyond
          cases failed
          exact .reweighedSource (Nat.le_of_not_lt beyond)
    | removeNode v =>
        rw [Operation.apply, removeNode] at failed
        split at failed
        · cases failed
        · rename_i beyond
          cases failed
          exact .removed (Nat.le_of_not_lt beyond)
    | weighByFanOut base multiplier => cases failed
  · intro refused
    cases refused with
    | source beyond => rw [Operation.apply, addEdge, if_neg (Nat.not_lt.mpr beyond)]
    | dest sourceInRange beyond =>
        rw [Operation.apply, addEdge, if_pos sourceInRange, dif_neg (Nat.not_lt.mpr beyond)]
    | reweighedSource beyond => rw [Operation.apply, setWeight, if_neg (Nat.not_lt.mpr beyond)]
    | noEntry inRange absent =>
        rw [← chronicles.containsEdge_eq] at absent
        rw [Operation.apply, setWeight, if_pos inRange, if_neg (by simp [absent])]
    | removed beyond => rw [Operation.apply, removeNode, if_neg (Nat.not_lt.mpr beyond)]

/-- A call that fails enters nothing into the list. -/
theorem record_of_refused (chronicles : Chronicles graph entries) {cause : GraphError}
    (refused : Refused graph.nodeCount entries op cause) :
    entries.record graph.nodeCount op = entries := by
  cases refused with
  | source beyond => exact if_neg fun inRange => Nat.not_lt.mpr beyond inRange.1
  | dest _ beyond => exact if_neg fun inRange => Nat.not_lt.mpr beyond inRange.2
  | reweighedSource beyond =>
      apply reweigh_of_absent
      rw [← chronicles.containsEdge_eq, Graph.containsEdge, edgesOf_of_nodeCount_le beyond]
      rfl
  | noEntry _ absent => exact reweigh_of_absent absent
  | removed beyond =>
      apply List.filter_eq_self.mpr
      intro entry member
      obtain ⟨sourceInRange, destInRange⟩ := chronicles.within member
      simp [Nat.ne_of_lt (Nat.lt_of_lt_of_le sourceInRange beyond),
        Nat.ne_of_lt (Nat.lt_of_lt_of_le destInRange beyond)]

/-! ### Calls that succeed -/

theorem addEdge (chronicles : Chronicles graph entries) {source dest : NodeId} {weight : Float}
    (added : graph.addEdge source dest weight = .ok later) :
    Chronicles later (entries.record graph.nodeCount (.addEdge source dest weight)) := by
  have inRange := lt_of_addEdge added
  obtain ⟨_, isAdded, -, -, edges⟩ := graph.addEdge_ok weight inRange.1 inRange.2
  cases added.symm.trans isAdded
  intro u
  rw [edges u, chronicles u, record, if_pos inRange, edgesOf_append, edgesOf_cons]
  simp [Chronicle.edgesOf, Entry.edge, eq_comm]

theorem setWeight (chronicles : Chronicles graph entries) {v w : NodeId} {weight : Float}
    (isSet : graph.setWeight v w weight = .ok later) :
    Chronicles later (entries.record graph.nodeCount (.setWeight v w weight)) := by
  intro u
  rw [edgesOf_setWeight isSet, chronicles u, record, edgesOf_reweigh]

theorem removeNode (chronicles : Chronicles graph entries) {v : NodeId}
    (removed : graph.removeNode v = .ok later) :
    Chronicles later (entries.record graph.nodeCount (.removeNode v)) := by
  obtain ⟨_, isRemoved, -, edges⟩ := graph.removeNode_ok (lt_of_removeNode removed)
  cases removed.symm.trans isRemoved
  intro u
  rw [edges u, chronicles u, record, edgesOf_filter]

theorem weighByFanOut (chronicles : Chronicles graph entries) (base multiplier : Float) :
    Chronicles (graph.weighByFanOut base multiplier)
      (entries.record graph.nodeCount (.weighByFanOut base multiplier)) := by
  intro u
  rw [edgesOf_weighByFanOut, chronicles u]
  simp [record, Chronicle.edgesOf, chronicles.fanOut_eq, List.filter_map, Entry.edge,
    Function.comp_def]

/-- The list follows the graph through a call, whether it succeeds or fails. -/
theorem perform (chronicles : Chronicles graph entries) (op : Operation) :
    Chronicles (graph.perform op) (entries.record graph.nodeCount op) := by
  cases answer : op.apply graph with
  | error cause =>
      rw [Graph.perform, answer, chronicles.record_of_refused (chronicles.error_iff.mp answer)]
      exact chronicles
  | ok later =>
      rw [Graph.perform, answer]
      cases op with
      | addEdge source dest weight => exact chronicles.addEdge answer
      | setWeight v w weight => exact chronicles.setWeight answer
      | removeNode v => exact chronicles.removeNode answer
      | weighByFanOut base multiplier =>
          cases answer
          exact chronicles.weighByFanOut base multiplier

theorem performAll (chronicles : Chronicles graph entries) (ops : List Operation) :
    Chronicles (graph.performAll ops) (ops.foldl (record graph.nodeCount) entries) := by
  induction ops generalizing graph entries with
  | nil => exact chronicles
  | cons op rest inductionHypothesis =>
      have later := inductionHypothesis (chronicles.perform op)
      rw [nodeCount_perform] at later
      exact later

end Chronicles

/-- After any run of calls, failed ones included, the graph is what one list of all edges tells,
kept in the order of their adding: what every node keeps, its children and their number, which
nodes are joined and by what weight. The list names nodes of the graph only, so that no edge leads
out of range. It also tells which call is refused, and why; a refused call changes neither the
graph nor the list. -/
theorem performAll_chronicled (count : Nat) (ops : List Operation) :
    let graph := (ofNodeCount count).performAll ops
    let entries := Chronicle.recordAll count ops
    (∀ v, graph.edgesOf v = entries.edgesOf v) ∧
      (∀ v, graph.childrenOf v = entries.childrenOf v) ∧
      (∀ v, graph.fanOut v = entries.fanOut v) ∧
      (∀ v w, graph.containsEdge v w = entries.containsEdge v w) ∧
      (∀ v w, graph.weight v w = entries.weight v w) ∧
      (∀ v, graph.isRemoved v = true ↔ .removeNode v ∈ ops ∧ v < count) ∧
      (∀ entry ∈ entries, entry.source < count ∧ entry.dest < count) ∧
      (∀ v, count ≤ v → graph.edgesOf v = []) ∧
      (∀ v, ∀ edge ∈ graph.edgesOf v, edge.dest < count) ∧
      (∀ op cause, op.apply graph = .error cause ↔ Refused count entries op cause) ∧
      ∀ op cause, op.apply graph = .error cause →
        graph.perform op = graph ∧ entries.record count op = entries := by
  intro graph entries
  have nodeCount : graph.nodeCount = count := by
    rw [nodeCount_performAll, nodeCount_ofNodeCount]
  have start : Chronicles (ofNodeCount count) [] := edgesOf_ofNodeCount count
  have chronicles : Chronicles graph entries := by
    have later := start.performAll ops
    rw [nodeCount_ofNodeCount] at later
    exact later
  rw [← nodeCount]
  refine ⟨chronicles, chronicles.childrenOf_eq, chronicles.fanOut_eq, chronicles.containsEdge_eq,
    chronicles.weight_eq, ?removed, fun _ => chronicles.within,
    fun _ beyond => edgesOf_of_nodeCount_le beyond, fun _ _ => dest_lt_of_mem_edgesOf,
    fun _ _ => chronicles.error_iff, ?refused⟩
  case removed =>
    intro v
    rw [isRemoved_performAll, isRemoved_ofNodeCount, nodeCount_ofNodeCount, nodeCount]
    simp
  case refused =>
    intro op cause failed
    refine ⟨?_, chronicles.record_of_refused (chronicles.error_iff.mp failed)⟩
    rw [Graph.perform, failed]

/-- An edge is added twice and the first of the two reweighed; a loop goes with its node; an edge
out of range is refused. -/
example :
    let ops : List Operation :=
      [.addEdge 0 2 1.0, .addEdge 1 1 1.0, .addEdge 0 2 3.0, .setWeight 0 2 5.0, .removeNode 1,
        .addEdge 0 3 1.0]
    let entries := Chronicle.recordAll 3 ops
    entries.map (fun entry => (entry.source, entry.dest)) = [(0, 2), (0, 2)] ∧
      entries.map (fun entry => entry.weight == 5.0) = [true, false] ∧
      ((ofNodeCount 3).performAll ops).childrenOf 0 = [2, 2] := by
  decide +kernel

end DagScheduling.Graph
