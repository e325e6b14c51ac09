import Kurobara.Application.DagRun
import Kurobara.Application.RunFinalization
import Kurobara.Kernel.Step.Materialization
import Mathlib.Data.List.Induction

/-! # Scheduling passes

What one pass over the compiled workflow leaves. The nodes come in an order in which each
follows its dependencies, so a single pass skips every node that a failed or skipped step
stops, however far away, and makes ready every node whose dependencies have succeeded. It
throws exactly when the step aggregate refuses such a node.
-/

namespace Kurobara.Application

open Foundation Kernel Persistence

/-! ## What a pass is to do -/

/-- The step of the node failed or was skipped. -/
def StepStops (stepRuns : List StepRun) (nodeKey : String) : Prop :=
  (stepOfNode stepRuns nodeKey).any (stateBlocks ·.state) = true

/-- A node whose step stops others, or that a failed or skipped step stops. -/
def NodeStops (workflow : CompiledWorkflow) (stepRuns : List StepRun) (nodeKey : String) : Prop :=
  IsReached workflow.dependencies (StepStops stepRuns) nodeKey

/-- A node that depends on a failed or skipped step, directly or through others. -/
def NodeIsStopped (workflow : CompiledWorkflow) (stepRuns : List StepRun) (nodeKey : String) :
    Prop :=
  DependsOnMarked workflow.dependencies (StepStops stepRuns) nodeKey

/-- A node that the step aggregate accepts when the pass skips it, or makes it ready: its key
is not blank, and a skipped one lists each dependency that stops it once. -/
structure NodeIsAdmissible (context : DagSchedulingContext) (now : Instant)
    (node : CompiledWorkflowNode) : Prop where
  skipped : stepOfNode context.stepRuns node.key = none →
    NodeIsStopped context.plan.compiledWorkflow context.stepRuns node.key →
      nonBlank node.key = true ∧ ∀ dependency,
        NodeStops context.plan.compiledWorkflow context.stepRuns dependency →
          node.dependsOn.count dependency ≤ 1
  ready : schedulingWindowIsOpen context now = true →
    nodeIsReady node context.stepRuns = true → nonBlank node.key = true

/-- The steps of a Run as passes and commands leave them. -/
structure StepsAreScheduled (workflow : CompiledWorkflow) (stepRuns : List StepRun) : Prop where
  identified : ∀ stepRun ∈ stepRuns, ∃ node ∈ workflow.nodes, node.key = stepRun.nodeKey ∧
    node.dependsOn = stepRun.dependsOn ∧ (stepRun.state ≠ .skipped → node.humanGate = none)
  named : ∀ stepRun ∈ stepRuns, nonBlank stepRun.nodeKey = true
  satisfied : ∀ stepRun ∈ stepRuns, stepRun.state ≠ .skipped →
    ∀ dependency ∈ stepRun.dependsOn, stepSucceeded stepRuns dependency = true
  blocked : ∀ stepRun ∈ stepRuns, stepRun.state = .skipped →
    ∃ dependency ∈ stepRun.dependsOn, StepStops stepRuns dependency

/-- A workflow whose nodes each follow their dependencies. -/
structure WorkflowIsOrdered (workflow : CompiledWorkflow) : Prop where
  distinct : workflow.nodeKeys.Nodup
  order : ∀ before node after, workflow.nodes = before ++ node :: after →
    ∀ dependency ∈ node.dependsOn, dependency ∈ before.map CompiledWorkflowNode.key

private theorem compileWorkflow_isOrdered {spec : Engine.WorkflowSpec}
    {allowedCapabilities : List String}
    {limits : Engine.WorkflowCompilationLimits} {compilerVersion : String}
    {compiled : CompiledWorkflow}
    (accepted : Engine.compileWorkflow spec allowedCapabilities limits compilerVersion =
      .ok compiled) : WorkflowIsOrdered compiled where
  distinct := compileWorkflow_nodeKeys accepted
  order := ((Engine.compileWorkflow_exact spec allowedCapabilities limits compilerVersion).2.1
    compiled accepted).order

section

variable {workflow : CompiledWorkflow} {stepRuns : List StepRun}

theorem WorkflowIsOrdered.dependencies (ordered : WorkflowIsOrdered workflow)
    {node : CompiledWorkflowNode} (member : node ∈ workflow.nodes) :
    workflow.dependencies node.key = node.dependsOn := by
  have found : workflow.nodes.find? (·.key == node.key) = some node :=
    (find?_key_eq_some_iff ordered.distinct).mpr ⟨member, rfl⟩
  rw [CompiledWorkflow.dependencies, found]
  rfl

private theorem stepStops_iff {nodeKey : String} : StepStops stepRuns nodeKey ↔
    ∃ stepRun, stepOfNode stepRuns nodeKey = some stepRun ∧ stateBlocks stepRun.state = true :=
  Option.any_eq_true _ _

private theorem stepOfNode_mem {nodeKey : String} {stepRun : StepRun}
    (found : stepOfNode stepRuns nodeKey = some stepRun) :
    stepRun ∈ stepRuns ∧ stepRun.nodeKey = nodeKey :=
  ⟨List.mem_of_find?_eq_some found, by simpa using List.find?_some found⟩

private theorem stepOfNode_append {nodeKey : String} {stepRun : StepRun} :
    stepOfNode (stepRuns ++ [stepRun]) nodeKey =
      (stepOfNode stepRuns nodeKey).or
      (if stepRun.nodeKey = nodeKey then some stepRun else none) := by
  rw [stepOfNode, List.find?_append, List.find?_singleton]
  by_cases same : stepRun.nodeKey = nodeKey
  · simp [stepOfNode, same]
  · simp [stepOfNode, same]

/-- A step downstream of one that stops others stops others itself. -/
theorem StepsAreScheduled.stops (scheduled : StepsAreScheduled workflow stepRuns)
    (ordered : WorkflowIsOrdered workflow) {nodeKey : String}
    (reached : NodeStops workflow stepRuns nodeKey) {stepRun : StepRun}
    (found : stepOfNode stepRuns nodeKey = some stepRun) : stateBlocks stepRun.state = true := by
  obtain ⟨origin, stops, path⟩ := reached
  induction path generalizing stepRun with
  | refl =>
      obtain ⟨other, otherFound, blocks⟩ := stepStops_iff.mp stops
      rw [otherFound] at found
      cases found
      exact blocks
  | @tail dependency nodeKey _ named ih =>
      obtain ⟨member, key⟩ := stepOfNode_mem found
      by_cases skipped : stepRun.state = .skipped
      · rw [skipped]
        rfl
      · -- Its dependencies have succeeded, so none of them stops it.
        obtain ⟨node, nodeMember, nodeKeyEq, dependsOn, _⟩ := scheduled.identified stepRun member
        have listed : dependency ∈ stepRun.dependsOn := by
          rw [← dependsOn, ← ordered.dependencies nodeMember, nodeKeyEq, key]
          exact named
        obtain ⟨other, otherFound, succeeded⟩ :=
          (Option.any_eq_true _ _).mp (scheduled.satisfied stepRun member skipped _ listed)
        have blocks := ih otherFound
        rw [beq_iff_eq] at succeeded
        rw [succeeded] at blocks
        cases blocks

private theorem nodeIsStopped_iff (ordered : WorkflowIsOrdered workflow)
    {node : CompiledWorkflowNode}
    (member : node ∈ workflow.nodes) : NodeIsStopped workflow stepRuns node.key ↔
      ∃ dependency ∈ node.dependsOn, NodeStops workflow stepRuns dependency := by
  rw [NodeIsStopped, dependsOnMarked_iff, ordered.dependencies member]
  rfl

end

/-! ## The loop over the nodes -/

/-- The step that the pass finds or leaves for a node, with the record of a skip. -/
inductive NodeOutcome (context : DagSchedulingContext) (now : Instant)
    (writes : List DagSchedulingWrite) (node : CompiledWorkflowNode) : Option StepRun → Prop where
  | known (stepRun : StepRun) (found : stepOfNode context.stepRuns node.key = some stepRun) :
      NodeOutcome context now writes node (some stepRun)
  | skipped (stepRun : StepRun) (event : StepLifecycleEvent) (blockedByNodeKeys : List String)
      (absent : stepOfNode context.stepRuns node.key = none)
      (stopped : NodeIsStopped context.plan.compiledWorkflow context.stepRuns node.key)
      (state : stepRun.state = .skipped)
      (written : DagSchedulingWrite.insertSkipped stepRun event ∈ writes)
      (detail : event.detail = .stepSkipped blockedByNodeKeys) (distinct : blockedByNodeKeys.Nodup)
      (records : ∀ dependency, dependency ∈ blockedByNodeKeys ↔ dependency ∈ node.dependsOn ∧
        NodeStops context.plan.compiledWorkflow context.stepRuns dependency) :
      NodeOutcome context now writes node (some stepRun)
  | readied (stepRun : StepRun)
      (free : ¬ NodeIsStopped context.plan.compiledWorkflow context.stepRuns node.key)
      (opened : schedulingWindowIsOpen context now = true)
      (ready : nodeIsReady node context.stepRuns = true) (state : stepRun.state = .ready) :
      NodeOutcome context now writes node (some stepRun)
  | waiting (absent : stepOfNode context.stepRuns node.key = none)
      (free : ¬ NodeIsStopped context.plan.compiledWorkflow context.stepRuns node.key)
      (idle : ¬ (schedulingWindowIsOpen context now = true ∧
        nodeIsReady node context.stepRuns = true)) :
      NodeOutcome context now writes node none

theorem NodeOutcome.mono {context : DagSchedulingContext} {now : Instant}
    {writes more : List DagSchedulingWrite} {node : CompiledWorkflowNode} {step : Option StepRun}
    (outcome : NodeOutcome context now writes node step) (grows : writes ⊆ more) :
    NodeOutcome context now more node step := by
  cases outcome with
  | known stepRun found => exact .known stepRun found
  | skipped stepRun event blockedByNodeKeys absent stopped state written detail distinct records =>
      exact .skipped stepRun event blockedByNodeKeys absent stopped state (grows written) detail
        distinct records
  | readied stepRun free opened ready state => exact .readied stepRun free opened ready state
  | waiting absent free idle => exact .waiting absent free idle

/-- What the loop has left after some of the nodes. -/
structure PassState (context : DagSchedulingContext) (now : Instant)
    (done : List CompiledWorkflowNode) (materialized : MaterializedDagNodes) : Prop where
  outcome : ∀ node ∈ done,
    NodeOutcome context now materialized.writes node (stepOfNode materialized.stepRuns node.key)
  untouched : ∀ nodeKey ∉ done.map CompiledWorkflowNode.key,
    stepOfNode materialized.stepRuns nodeKey = stepOfNode context.stepRuns nodeKey
  named : ∀ stepRun ∈ materialized.stepRuns, nonBlank stepRun.nodeKey = true

/-- The context of a pass over scheduled steps. -/
structure PassIsSound (context : DagSchedulingContext) : Prop where
  ordered : WorkflowIsOrdered context.plan.compiledWorkflow
  scheduled : StepsAreScheduled context.plan.compiledWorkflow context.stepRuns

namespace PassIsSound

variable {context : DagSchedulingContext} {node : CompiledWorkflowNode}

/-- A node that stops others has not succeeded. -/
theorem not_succeeded (sound : PassIsSound context) {nodeKey : String}
    (stops : NodeStops context.plan.compiledWorkflow context.stepRuns nodeKey) :
    ¬ stepSucceeded context.stepRuns nodeKey = true := by
  intro succeeded
  obtain ⟨other, found, succeeded⟩ := (Option.any_eq_true _ _).mp succeeded
  have blocks := sound.scheduled.stops sound.ordered stops found
  rw [beq_iff_eq] at succeeded
  rw [succeeded] at blocks
  cases blocks

/-- A step that was there before is its node's. -/
theorem owner (sound : PassIsSound context) (member : node ∈ context.plan.compiledWorkflow.nodes)
    {stepRun : StepRun} (found : stepOfNode context.stepRuns node.key = some stepRun) :
    stepRun ∈ context.stepRuns ∧ stepRun.dependsOn = node.dependsOn ∧
      (stepRun.state ≠ .skipped → node.humanGate = none) := by
  obtain ⟨stepMember, key⟩ := stepOfNode_mem found
  obtain ⟨other, otherMember, otherKey, dependsOn, gate⟩ :=
    sound.scheduled.identified stepRun stepMember
  have same : other = node := List.inj_on_of_nodup_map sound.ordered.distinct otherMember member
    (otherKey.trans key)
  rw [← same]
  exact ⟨stepMember, dependsOn.symm, gate⟩

/-- The dependencies of a node are nodes. -/
theorem listed (sound : PassIsSound context) (member : node ∈ context.plan.compiledWorkflow.nodes) :
    ∀ dependency ∈ node.dependsOn,
      dependency ∈ context.plan.compiledWorkflow.nodes.map CompiledWorkflowNode.key := by
  intro dependency named
  obtain ⟨earlier, rest, split⟩ := List.append_of_mem member
  rw [split, List.map_append]
  exact List.mem_append_left _ (sound.ordered.order earlier node rest split _ named)

end PassIsSound

namespace PassState

variable {hashes : DagCanonicalHashes} {environment : DagSchedulingEnvironment}
  {context : DagSchedulingContext} {now : Instant} {done rest : List CompiledWorkflowNode}
  {node : CompiledWorkflowNode} {materialized : MaterializedDagNodes}

/-- A node that is done stops others when it did before, or when a step stops it. -/
theorem stops_iff (state : PassState context now done materialized) (sound : PassIsSound context)
    {nodeKey : String} (listed : nodeKey ∈ done.map CompiledWorkflowNode.key) :
    StepStops materialized.stepRuns nodeKey ↔
      NodeStops context.plan.compiledWorkflow context.stepRuns nodeKey := by
  obtain ⟨node, member, rfl⟩ := List.mem_map.mp listed
  have outcome := state.outcome node member
  rw [stepStops_iff]
  generalize stepOfNode materialized.stepRuns node.key = step at outcome
  cases outcome with
  | known stepRun found =>
      simp only [Option.some.injEq, exists_eq_left']
      constructor
      · intro blocks
        exact isReached_iff.mpr (.inl (stepStops_iff.mpr ⟨stepRun, found, blocks⟩))
      · intro reached
        exact sound.scheduled.stops sound.ordered reached found
  | skipped stepRun event blockedByNodeKeys absent stopped skipped =>
      simp only [Option.some.injEq, exists_eq_left', skipped]
      exact ⟨fun _ => isReached_iff.mpr (.inr stopped), fun _ => rfl⟩
  | readied stepRun free opened ready readied =>
      simp only [Option.some.injEq, exists_eq_left', readied]
      refine ⟨nofun, fun reached => ?_⟩
      rcases isReached_iff.mp reached with here | stopped
      · obtain ⟨other, found, _⟩ := stepStops_iff.mp here
        simp [nodeIsReady, found] at ready
      · exact absurd stopped free
  | waiting absent free idle =>
      simp only [reduceCtorEq, false_and, exists_false, false_iff]
      intro reached
      rcases isReached_iff.mp reached with here | stopped
      · obtain ⟨other, found, _⟩ := stepStops_iff.mp here
        rw [absent] at found
        cases found
      · exact free stopped

/-- The pass makes no step succeed. -/
theorem succeeded_eq (state : PassState context now done materialized) (nodeKey : String) :
    stepSucceeded materialized.stepRuns nodeKey = stepSucceeded context.stepRuns nodeKey := by
  by_cases listed : nodeKey ∈ done.map CompiledWorkflowNode.key
  · obtain ⟨node, member, rfl⟩ := List.mem_map.mp listed
    have outcome := state.outcome node member
    unfold stepSucceeded
    generalize stepOfNode materialized.stepRuns node.key = step at outcome
    cases outcome with
    | known stepRun found => rw [found]
    | skipped stepRun event blockedByNodeKeys absent stopped skipped => simp [absent, skipped]
    | readied stepRun free opened ready readied =>
        have absent : stepOfNode context.stepRuns node.key = none := by
          simp only [nodeIsReady, Bool.and_eq_true, Option.isNone_iff_eq_none] at ready
          exact ready.1.1
        simp [absent, readied]
    | waiting absent => rw [absent]
  · rw [stepSucceeded, state.untouched nodeKey listed]
    rfl

private theorem nodeIsReady_eq (state : PassState context now done materialized)
    (fresh : node.key ∉ done.map CompiledWorkflowNode.key) :
    nodeIsReady node materialized.stepRuns = nodeIsReady node context.stepRuns := by
  unfold nodeIsReady
  rw [state.untouched node.key fresh]
  congr 1
  exact List.all_congr rfl fun dependency => state.succeeded_eq dependency

/-- The dependencies that stop a node, once they are all done. -/
theorem blocked_iff (state : PassState context now done materialized) (sound : PassIsSound context)
    (before : ∀ dependency ∈ node.dependsOn, dependency ∈ done.map CompiledWorkflowNode.key)
    {dependency : String} :
    dependency ∈ blockedDependencies node materialized.stepRuns ↔ dependency ∈ node.dependsOn ∧
      NodeStops context.plan.compiledWorkflow context.stepRuns dependency := by
  rw [blockedDependencies, List.mem_filter]
  constructor
  · rintro ⟨named, stops⟩
    exact ⟨named, (state.stops_iff sound (before dependency named)).mp stops⟩
  · rintro ⟨named, stops⟩
    exact ⟨named, (state.stops_iff sound (before dependency named)).mpr stops⟩

private theorem blocked_nodup_iff (state : PassState context now done materialized)
    (sound : PassIsSound context)
    (before : ∀ dependency ∈ node.dependsOn, dependency ∈ done.map CompiledWorkflowNode.key) :
    (blockedDependencies node materialized.stepRuns).Nodup ↔ ∀ dependency,
      NodeStops context.plan.compiledWorkflow context.stepRuns dependency →
        node.dependsOn.count dependency ≤ 1 := by
  rw [List.nodup_iff_count_le_one]
  constructor
  · intro once dependency stops
    by_cases named : dependency ∈ node.dependsOn
    · have counted := once dependency
      rw [blockedDependencies, List.count_filter] at counted
      · exact counted
      · exact (state.stops_iff sound (before dependency named)).mpr stops
    · rw [List.count_eq_zero_of_not_mem named]
      exact Nat.zero_le 1
  · intro once dependency
    by_cases listed : dependency ∈ blockedDependencies node materialized.stepRuns
    · obtain ⟨_, stops⟩ := (state.blocked_iff sound before).mp listed
      exact (List.filter_sublist.count_le dependency).trans (once dependency stops)
    · rw [List.count_eq_zero_of_not_mem listed]
      exact Nat.zero_le 1

/-- One more node keeps what was done, with a step of its own or none. -/
theorem extend (state : PassState context now done materialized)
    (fresh : node.key ∉ done.map CompiledWorkflowNode.key) {next : MaterializedDagNodes}
    (grows : materialized.writes ⊆ next.writes)
    (others : ∀ nodeKey, nodeKey ≠ node.key →
      stepOfNode next.stepRuns nodeKey = stepOfNode materialized.stepRuns nodeKey)
    (outcome : NodeOutcome context now next.writes node (stepOfNode next.stepRuns node.key))
    (named : ∀ stepRun ∈ next.stepRuns, nonBlank stepRun.nodeKey = true) :
    PassState context now (done ++ [node]) next := by
  refine ⟨?_, ?_, named⟩
  · intro known member
    rcases List.mem_append.mp member with earlier | last
    · have different : known.key ≠ node.key := fun same =>
        fresh (same ▸ List.mem_map_of_mem earlier)
      rw [others known.key different]
      exact (state.outcome known earlier).mono grows
    · rw [List.mem_singleton.mp last]
      exact outcome
  · intro nodeKey unlisted
    rw [List.map_append, List.mem_append, not_or] at unlisted
    rw [others nodeKey fun same => unlisted.2 (same ▸ List.mem_singleton_self _)]
    exact state.untouched nodeKey unlisted.1

/-- A step that is appended for the node. -/
theorem insert (state : PassState context now done materialized)
    (fresh : node.key ∉ done.map CompiledWorkflowNode.key)
    (absent : stepOfNode materialized.stepRuns node.key = none) {next : MaterializedDagNodes}
    {stepRun : StepRun} (grows : materialized.writes ⊆ next.writes)
    (stepRuns : next.stepRuns = materialized.stepRuns ++ [stepRun])
    (key : stepRun.nodeKey = node.key) (blank : nonBlank node.key = true)
    (outcome : NodeOutcome context now next.writes node (some stepRun)) :
    PassState context now (done ++ [node]) next := by
  refine state.extend fresh grows ?_ ?_ ?_
  · intro nodeKey different
    rw [stepRuns, stepOfNode_append, key, if_neg (Ne.symm different), Option.or_none]
  · rw [stepRuns, stepOfNode_append, absent, if_pos key, Option.none_or]
    exact outcome
  · intro known member
    rw [stepRuns] at member
    rcases List.mem_append.mp member with earlier | last
    · exact state.named known earlier
    · rw [List.mem_singleton.mp last, key]
      exact blank

/-- The round of a node succeeds exactly when the node is admissible, and leaves the step that the
node is to have. -/
def RoundIsExact (hashes : DagCanonicalHashes) (environment : DagSchedulingEnvironment)
    (context : DagSchedulingContext) (done : List CompiledWorkflowNode)
    (materialized : MaterializedDagNodes) (node : CompiledWorkflowNode) : Prop :=
  ((∃ next, materializeNode hashes environment context materialized node = .ok next) ↔
    NodeIsAdmissible context environment.now node) ∧
  ∀ next, materializeNode hashes environment context materialized node = .ok next →
    PassState context environment.now (done ++ [node]) next

/-- The round of a node that has its step. -/
private theorem round_known (state : PassState context environment.now done materialized)
    (fresh : node.key ∉ done.map CompiledWorkflowNode.key) {stepRun : StepRun}
    (found : stepOfNode context.stepRuns node.key = some stepRun) :
    RoundIsExact hashes environment context done materialized node := by
  have untouched := state.untouched node.key fresh
  rw [found] at untouched
  unfold RoundIsExact materializeNode
  dsimp only
  rw [untouched, Option.isSome_some, if_pos rfl]
  refine ⟨⟨fun _ => ⟨?_, ?_⟩, fun _ => ⟨_, rfl⟩⟩, ?_⟩
  · intro absent
    rw [found] at absent
    cases absent
  · intro _ ready
    simp [nodeIsReady, found] at ready
  · rintro next ⟨⟩
    refine state.extend fresh (List.Subset.refl _) (fun _ _ => rfl) ?_ state.named
    rw [untouched]
    exact .known stepRun found

/-- A stopped node has a blocked dependency, and so does not become ready. -/
private theorem not_ready_of_stopped (sound : PassIsSound context) {dependency : String}
    (named : dependency ∈ node.dependsOn)
    (stops : NodeStops context.plan.compiledWorkflow context.stepRuns dependency) :
    ¬ nodeIsReady node context.stepRuns = true := by
  intro ready
  simp only [nodeIsReady, Bool.and_eq_true, List.all_eq_true] at ready
  exact sound.not_succeeded stops (ready.2 _ named)

/-- The blocked dependencies of a stopped node are evidence exactly when none is named twice. -/
private theorem blockingIsEvident_iff (state : PassState context now done materialized)
    (sound : PassIsSound context)
    (before : ∀ dependency ∈ node.dependsOn, dependency ∈ done.map CompiledWorkflowNode.key)
    {blocker : String} (listed : blocker ∈ blockedDependencies node materialized.stepRuns) :
    BlockingIsEvident (blockedDependencies node materialized.stepRuns) node.dependsOn ↔
      (blockedDependencies node materialized.stepRuns).Nodup := by
  refine ⟨BlockingIsEvident.distinct, fun distinct => ⟨List.ne_nil_of_mem listed, distinct, ?_,
    fun _ inside => ((state.blocked_iff sound before).mp inside).1⟩⟩
  intro dependency inside
  obtain ⟨blocking, blockingFound, _⟩ := stepStops_iff.mp (List.mem_filter.mp inside).2
  obtain ⟨blockingMember, key⟩ := stepOfNode_mem blockingFound
  exact key ▸ state.named blocking blockingMember

/-- The round of a node that a dependency stops skips it. -/
private theorem round_skipped (state : PassState context environment.now done materialized)
    (sound : PassIsSound context) (running : context.run.state = .running)
    (before : ∀ dependency ∈ node.dependsOn, dependency ∈ done.map CompiledWorkflowNode.key)
    (fresh : node.key ∉ done.map CompiledWorkflowNode.key)
    (absent : stepOfNode context.stepRuns node.key = none)
    (stopped : NodeIsStopped context.plan.compiledWorkflow context.stepRuns node.key)
    {blocker : String} (named : blocker ∈ node.dependsOn)
    (stops : NodeStops context.plan.compiledWorkflow context.stepRuns blocker) :
    RoundIsExact hashes environment context done materialized node := by
  have untouched := state.untouched node.key fresh
  rw [absent] at untouched
  have listed := (state.blocked_iff sound before).mpr ⟨named, stops⟩
  have some : (blockedDependencies node materialized.stepRuns).isEmpty = false := by
    rw [List.isEmpty_eq_false_iff_exists_mem]
    exact ⟨blocker, listed⟩
  unfold RoundIsExact materializeNode
  dsimp only
  rw [untouched, Option.isSome_none, if_neg Bool.false_ne_true, some, Bool.not_false, if_pos rfl]
  have accepts := @skipStep_accepts_iff (skipInput hashes environment context node
    (blockedDependencies node materialized.stepRuns)
    (environment.nextEventId materialized.drawnEventIds))
  have admissible : NodeIsAdmissible context environment.now node ↔
      nonBlank node.key = true ∧ (blockedDependencies node materialized.stepRuns).Nodup := by
    rw [state.blocked_nodup_iff sound before]
    exact ⟨fun admissible => admissible.skipped absent stopped, fun accepted =>
      ⟨fun _ _ => accepted, fun _ ready => absurd ready (not_ready_of_stopped sound named stops)⟩⟩
  rw [admissible, ← state.blockingIsEvident_iff sound before listed]
  constructor
  · constructor
    · rintro ⟨next, passed⟩
      split at passed
      · cases passed
      · rename_i decision accepted
        exact (accepts.mp ⟨decision, accepted⟩).2
    · intro accepted
      obtain ⟨decision, accepted⟩ := accepts.mpr ⟨running, accepted⟩
      rw [accepted]
      exact ⟨_, rfl⟩
  · intro next passed
    split at passed
    · cases passed
    rename_i decision accepted
    cases passed
    have blank := (accepts.mp ⟨decision, accepted⟩).2.1
    obtain rfl := skipStep_ok accepted
    refine state.insert fresh untouched (List.subset_append_left _ _) rfl rfl blank ?_
    refine .skipped _ _ _ absent stopped rfl
      (List.mem_append_right _ (List.mem_singleton_self _)) rfl (sortedDistinct_nodup _) ?_
    intro dependency
    exact sortedDistinct_mem.trans (state.blocked_iff sound before)

/-- Nothing blocks a node that is not stopped. -/
private theorem blocked_empty (state : PassState context now done materialized)
    (sound : PassIsSound context)
    (before : ∀ dependency ∈ node.dependsOn, dependency ∈ done.map CompiledWorkflowNode.key)
    (unblocked : ∀ dependency ∈ node.dependsOn,
      ¬ NodeStops context.plan.compiledWorkflow context.stepRuns dependency) :
    (blockedDependencies node materialized.stepRuns).isEmpty = true := by
  rw [List.isEmpty_iff, List.eq_nil_iff_forall_not_mem]
  intro dependency inside
  obtain ⟨named, stops⟩ := (state.blocked_iff sound before).mp inside
  exact unblocked dependency named stops

/-- The round of a free node in an open window makes it ready. -/
private theorem round_readied (state : PassState context environment.now done materialized)
    (running : context.run.state = .running)
    (fresh : node.key ∉ done.map CompiledWorkflowNode.key)
    (absent : stepOfNode context.stepRuns node.key = none)
    (free : ¬ NodeIsStopped context.plan.compiledWorkflow context.stepRuns node.key)
    (unblocked : (blockedDependencies node materialized.stepRuns).isEmpty = true)
    (opened : schedulingWindowIsOpen context environment.now = true)
    (ready : nodeIsReady node context.stepRuns = true) :
    RoundIsExact hashes environment context done materialized node := by
  have untouched := state.untouched node.key fresh
  rw [absent] at untouched
  unfold RoundIsExact materializeNode
  dsimp only
  rw [untouched, Option.isSome_none, if_neg Bool.false_ne_true, unblocked, Bool.not_true,
    if_neg Bool.false_ne_true, state.nodeIsReady_eq fresh, opened, ready, Bool.not_true,
    Bool.or_self, if_neg Bool.false_ne_true]
  have accepts := @scheduleStep_accepts_iff (scheduleInput hashes environment context node
    (environment.nextEventId materialized.drawnEventIds)) rfl
  have admissible : NodeIsAdmissible context environment.now node ↔ nonBlank node.key = true :=
    ⟨fun admissible => admissible.ready opened ready, fun blank =>
      ⟨fun _ stops => absurd stops free, fun _ _ => blank⟩⟩
  rw [admissible]
  constructor
  · constructor
    · rintro ⟨next, passed⟩
      split at passed
      · cases passed
      · rename_i decision accepted
        exact (accepts.mp ⟨decision, accepted⟩).2
    · intro blank
      obtain ⟨decision, accepted⟩ := accepts.mpr ⟨running, blank⟩
      rw [accepted]
      obtain rfl := scheduleStep_ok accepted
      exact ⟨_, rfl⟩
  · intro next passed
    split at passed
    · cases passed
    rename_i decision accepted
    have blank := (accepts.mp ⟨decision, accepted⟩).2
    obtain rfl := scheduleStep_ok accepted
    cases passed
    exact state.insert fresh untouched (List.subset_append_left _ _) rfl rfl blank
      (.readied _ free opened ready rfl)

/-- The round of a free node that is not ready, or outside the window, leaves it waiting. -/
private theorem round_waiting (state : PassState context environment.now done materialized)
    (fresh : node.key ∉ done.map CompiledWorkflowNode.key)
    (absent : stepOfNode context.stepRuns node.key = none)
    (free : ¬ NodeIsStopped context.plan.compiledWorkflow context.stepRuns node.key)
    (unblocked : (blockedDependencies node materialized.stepRuns).isEmpty = true)
    (closed : ¬ (schedulingWindowIsOpen context environment.now = true ∧
      nodeIsReady node context.stepRuns = true)) :
    RoundIsExact hashes environment context done materialized node := by
  have untouched := state.untouched node.key fresh
  rw [absent] at untouched
  have idle : (!schedulingWindowIsOpen context environment.now ||
      !nodeIsReady node context.stepRuns) = true := by
    rw [← Bool.not_and, Bool.not_eq_true', Bool.and_eq_false_iff]
    by_contra both
    rw [not_or, Bool.not_eq_false, Bool.not_eq_false] at both
    exact closed both
  unfold RoundIsExact materializeNode
  dsimp only
  rw [untouched, Option.isSome_none, if_neg Bool.false_ne_true, unblocked, Bool.not_true,
    if_neg Bool.false_ne_true, state.nodeIsReady_eq fresh, idle, if_pos rfl]
  refine ⟨⟨fun _ => ⟨fun _ stops => absurd stops free, ?_⟩, fun _ => ⟨_, rfl⟩⟩, ?_⟩
  · exact fun window ready => absurd ⟨window, ready⟩ closed
  · rintro next ⟨⟩
    refine state.extend fresh (List.Subset.refl _) (fun _ _ => rfl) ?_ state.named
    rw [untouched]
    exact .waiting absent free closed

/-- **One round.** Whatever the step of the node is before, its round is exact. -/
theorem round (state : PassState context environment.now done materialized)
    (sound : PassIsSound context) (running : context.run.state = .running)
    (split : context.plan.compiledWorkflow.nodes = done ++ node :: rest) :
    RoundIsExact hashes environment context done materialized node := by
  have member : node ∈ context.plan.compiledWorkflow.nodes := by
    rw [split]
    exact List.mem_append_right _ List.mem_cons_self
  have before := sound.ordered.order done node rest split
  have fresh : node.key ∉ done.map CompiledWorkflowNode.key := by
    have distinct := sound.ordered.distinct
    rw [CompiledWorkflow.nodeKeys, split, List.map_append, List.map_cons] at distinct
    exact fun inside => (List.nodup_append.mp distinct).2.2 _ inside _ List.mem_cons_self rfl
  have stopped_iff : NodeIsStopped context.plan.compiledWorkflow context.stepRuns node.key ↔
      ∃ dependency ∈ node.dependsOn,
        NodeStops context.plan.compiledWorkflow context.stepRuns dependency :=
    nodeIsStopped_iff sound.ordered member
  cases found : stepOfNode context.stepRuns node.key with
  | some stepRun => exact state.round_known fresh found
  | none =>
      by_cases stopped : NodeIsStopped context.plan.compiledWorkflow context.stepRuns node.key
      · obtain ⟨blocker, named, stops⟩ := stopped_iff.mp stopped
        exact state.round_skipped sound running before fresh found stopped named stops
      · have unblocked := state.blocked_empty sound before fun dependency named stops =>
          stopped (stopped_iff.mpr ⟨dependency, named, stops⟩)
        by_cases opens : schedulingWindowIsOpen context environment.now = true ∧
            nodeIsReady node context.stepRuns = true
        · exact state.round_readied running fresh found stopped unblocked opens.1 opens.2
        · exact state.round_waiting fresh found stopped unblocked opens

/-- The loop over the nodes so far succeeds exactly when they are all admissible. -/
theorem loop (sound : PassIsSound context) (running : context.run.state = .running)
    (split : context.plan.compiledWorkflow.nodes = done ++ rest) :
    ((∃ next, done.foldlM (materializeNode hashes environment context)
        ⟨[], [], context.stepRuns, []⟩ = .ok next) ↔
      ∀ node ∈ done, NodeIsAdmissible context environment.now node) ∧
    ∀ next, done.foldlM (materializeNode hashes environment context)
        ⟨[], [], context.stepRuns, []⟩ = .ok next →
        PassState context environment.now done next := by
  induction done using List.reverseRecOn generalizing rest with
  | nil =>
      refine ⟨⟨fun _ => by simp, fun _ => ⟨_, rfl⟩⟩, ?_⟩
      rintro next ⟨⟩
      exact ⟨by simp, fun _ _ => rfl, sound.scheduled.named⟩
  | append_singleton done node ih =>
      rw [List.append_assoc, List.singleton_append] at split
      obtain ⟨accepts, leaves⟩ := ih split
      simp only [List.foldlM_append, List.foldlM_cons, List.foldlM_nil]
      constructor
      · rw [List.forall_mem_append, ← accepts, List.forall_mem_singleton]
        constructor
        · rintro ⟨next, passed⟩
          obtain ⟨middle, earlier, last⟩ := bind_eq_ok.mp passed
          refine ⟨⟨middle, earlier⟩, ?_⟩
          obtain ⟨next, roundEq, _⟩ := bind_eq_ok.mp last
          exact (round (leaves middle earlier) sound running split).1.mp ⟨next, roundEq⟩
        · rintro ⟨⟨middle, earlier⟩, admissible⟩
          obtain ⟨next, roundEq⟩ : ∃ next,
              materializeNode hashes environment context middle node = .ok next :=
            (round (leaves middle earlier) sound running split).1.mpr admissible
          exact ⟨next, bind_eq_ok.mpr ⟨middle, earlier, bind_eq_ok.mpr ⟨next, roundEq, rfl⟩⟩⟩
      · intro next passed
        obtain ⟨middle, earlier, last⟩ := bind_eq_ok.mp passed
        obtain ⟨after, roundEq, same⟩ := bind_eq_ok.mp last
        cases same
        exact (round (leaves middle earlier) sound running split).2 next roundEq

end PassState

/-! ## A pass -/

section

variable (hashes : DagCanonicalHashes) (environment : DagSchedulingEnvironment)
  (context : DagSchedulingContext)

/-- The pass succeeds. The skipped nodes are those that depend on a failed or skipped step; a
node that the pass skips records the dependencies that stop it. While the window is open, the
other nodes with a step are those without a gate whose dependencies have succeeded. A later
pass over the result adds nothing. -/
def PassIsCorrect : Prop :=
  ∃ materialized, materializeReadyNodes hashes environment context = .ok materialized ∧
    (∀ node ∈ context.plan.compiledWorkflow.nodes,
      (∃ stepRun, stepOfNode materialized.stepRuns node.key = some stepRun ∧
        stepRun.state = .skipped) ↔
      NodeIsStopped context.plan.compiledWorkflow context.stepRuns node.key) ∧
    (∀ node ∈ context.plan.compiledWorkflow.nodes, stepOfNode context.stepRuns node.key = none →
      NodeIsStopped context.plan.compiledWorkflow context.stepRuns node.key →
        ∃ stepRun event blockedByNodeKeys,
          stepOfNode materialized.stepRuns node.key = some stepRun ∧
          .insertSkipped stepRun event ∈ materialized.writes ∧
          event.detail = .stepSkipped blockedByNodeKeys ∧ blockedByNodeKeys.Nodup ∧
          ∀ dependency, dependency ∈ blockedByNodeKeys ↔
            dependency ∈ node.dependsOn ∧ StepStops materialized.stepRuns dependency) ∧
    (schedulingWindowIsOpen context environment.now = true →
      ∀ node ∈ context.plan.compiledWorkflow.nodes,
        (∃ stepRun, stepOfNode materialized.stepRuns node.key = some stepRun ∧
          stepRun.state ≠ .skipped) ↔
        node.humanGate = none ∧
          ∀ dependency ∈ node.dependsOn, stepSucceeded materialized.stepRuns dependency = true) ∧
    ∀ later : DagSchedulingEnvironment, environment.now ≤ later.now →
      materializeReadyNodes hashes later { context with stepRuns := materialized.stepRuns } =
        .ok ⟨[], [], materialized.stepRuns, []⟩

/-- The nodes that a pass creates a step for are all admissible. -/
def PassIsAdmissible : Prop :=
  ∀ node ∈ context.plan.compiledWorkflow.nodes, NodeIsAdmissible context environment.now node

end

section

variable {hashes : DagCanonicalHashes} {environment : DagSchedulingEnvironment}
  {context : DagSchedulingContext} {materialized : MaterializedDagNodes}

private theorem schedulingWindowIsOpen_mono {now later : Instant} (after : now ≤ later)
    (opened : schedulingWindowIsOpen context later = true) :
    schedulingWindowIsOpen context now = true := by
  simp only [schedulingWindowIsOpen, Bool.and_eq_true, decide_eq_true_eq] at opened ⊢
  exact ⟨⟨opened.1.1, lt_of_le_of_lt after opened.1.2⟩, lt_of_le_of_lt after opened.2⟩

/-- Nothing is left for a later pass. -/
theorem PassState.again
    (state : PassState context environment.now context.plan.compiledWorkflow.nodes materialized)
    (sound : PassIsSound context) {later : DagSchedulingEnvironment}
    (after : environment.now ≤ later.now) :
    materializeReadyNodes hashes later { context with stepRuns := materialized.stepRuns } =
      .ok ⟨[], [], materialized.stepRuns, []⟩ := by
  have still : ∀ node ∈ context.plan.compiledWorkflow.nodes,
      materializeNode hashes later { context with stepRuns := materialized.stepRuns }
        ⟨[], [], materialized.stepRuns, []⟩ node = .ok ⟨[], [], materialized.stepRuns, []⟩ := by
    intro node member
    have outcome := state.outcome node member
    unfold materializeNode
    dsimp only
    generalize found : stepOfNode materialized.stepRuns node.key = step at outcome
    cases step with
    | some stepRun => rw [Option.isSome_some, if_pos rfl]
    | none =>
        cases outcome with
        | waiting absent free idle =>
        have none := state.blocked_empty sound (sound.listed member) fun dependency named stops =>
          free ((nodeIsStopped_iff sound.ordered member).mpr ⟨dependency, named, stops⟩)
        have unready : nodeIsReady node materialized.stepRuns =
            nodeIsReady node context.stepRuns := by
          unfold nodeIsReady
          rw [found, absent]
          congr 1
          exact List.all_congr rfl fun dependency => state.succeeded_eq dependency
        have closed : (!schedulingWindowIsOpen
            { context with stepRuns := materialized.stepRuns } later.now ||
              !nodeIsReady node materialized.stepRuns) = true := by
          rw [unready, ← Bool.not_and, Bool.not_eq_true', Bool.and_eq_false_iff]
          by_contra both
          rw [not_or, Bool.not_eq_false, Bool.not_eq_false] at both
          exact idle ⟨schedulingWindowIsOpen_mono after both.1, both.2⟩
        rw [Option.isSome_none, if_neg Bool.false_ne_true, none, Bool.not_true,
          if_neg Bool.false_ne_true, closed, if_pos rfl]
  have loop : ∀ nodes ⊆ context.plan.compiledWorkflow.nodes,
      nodes.foldlM (materializeNode hashes later { context with stepRuns := materialized.stepRuns })
        ⟨[], [], materialized.stepRuns, []⟩ = .ok ⟨[], [], materialized.stepRuns, []⟩ := by
    intro nodes
    induction nodes with
    | nil => exact fun _ => rfl
    | cons node nodes ih =>
        intro known
        rw [List.foldlM_cons, still node (known List.mem_cons_self)]
        exact ih fun other member => known (List.mem_cons_of_mem _ member)
  exact loop _ (List.Subset.refl _)

section Passed

variable {now : Instant} {node : CompiledWorkflowNode}

/-- After a pass the skipped nodes are those that are stopped. -/
private theorem PassState.skipped_iff
    (state : PassState context now context.plan.compiledWorkflow.nodes materialized)
    (sound : PassIsSound context) (member : node ∈ context.plan.compiledWorkflow.nodes) :
    (∃ stepRun, stepOfNode materialized.stepRuns node.key = some stepRun ∧
      stepRun.state = .skipped) ↔
    NodeIsStopped context.plan.compiledWorkflow context.stepRuns node.key := by
  have outcome := state.outcome node member
  generalize stepOfNode materialized.stepRuns node.key = step at outcome
  cases outcome with
  | known stepRun found =>
      simp only [Option.some.injEq, exists_eq_left']
      obtain ⟨stepMember, dependsOn, -⟩ := sound.owner member found
      rw [nodeIsStopped_iff sound.ordered member, ← dependsOn]
      constructor
      · intro skipped
        obtain ⟨blocker, named, stops⟩ := sound.scheduled.blocked stepRun stepMember skipped
        exact ⟨blocker, named, isReached_iff.mpr (.inl stops)⟩
      · rintro ⟨blocker, named, stops⟩
        by_contra unskipped
        exact sound.not_succeeded stops
          (sound.scheduled.satisfied stepRun stepMember unskipped blocker named)
  | skipped stepRun event blockedByNodeKeys absent stopped skipped => simp [skipped, stopped]
  | readied stepRun free opened ready readied => simp [readied, free]
  | waiting absent free => simp [free]

/-- A node that the pass skips records the dependencies that stop it. -/
private theorem PassState.skipped_records
    (state : PassState context now context.plan.compiledWorkflow.nodes materialized)
    (sound : PassIsSound context) (member : node ∈ context.plan.compiledWorkflow.nodes)
    (absent : stepOfNode context.stepRuns node.key = none)
    (stopped : NodeIsStopped context.plan.compiledWorkflow context.stepRuns node.key) :
    ∃ stepRun event blockedByNodeKeys,
      stepOfNode materialized.stepRuns node.key = some stepRun ∧
      .insertSkipped stepRun event ∈ materialized.writes ∧
      event.detail = .stepSkipped blockedByNodeKeys ∧ blockedByNodeKeys.Nodup ∧
      ∀ dependency, dependency ∈ blockedByNodeKeys ↔
        dependency ∈ node.dependsOn ∧ StepStops materialized.stepRuns dependency := by
  have outcome := state.outcome node member
  generalize stepOfNode materialized.stepRuns node.key = step at outcome
  cases outcome with
  | known stepRun found =>
      rw [absent] at found
      cases found
  | skipped stepRun event blockedByNodeKeys absent stopped skipped written detail distinct
      records =>
      refine ⟨stepRun, event, blockedByNodeKeys, rfl, written, detail, distinct, ?_⟩
      intro dependency
      rw [records dependency]
      refine and_congr_right fun named => ?_
      exact (state.stops_iff sound (sound.listed member dependency named)).symm
  | readied stepRun free => exact absurd stopped free
  | waiting absent free => exact absurd stopped free

/-- In an open window the other nodes with a step are those without a gate whose dependencies have
succeeded. -/
private theorem PassState.unskipped_iff
    (state : PassState context now context.plan.compiledWorkflow.nodes materialized)
    (sound : PassIsSound context) (member : node ∈ context.plan.compiledWorkflow.nodes)
    (opened : schedulingWindowIsOpen context now = true) :
    (∃ stepRun, stepOfNode materialized.stepRuns node.key = some stepRun ∧
      stepRun.state ≠ .skipped) ↔
    node.humanGate = none ∧
      ∀ dependency ∈ node.dependsOn, stepSucceeded materialized.stepRuns dependency = true := by
  have outcome := state.outcome node member
  simp only [state.succeeded_eq]
  generalize stepOfNode materialized.stepRuns node.key = step at outcome
  cases outcome with
  | known stepRun found =>
      simp only [Option.some.injEq, exists_eq_left']
      obtain ⟨stepMember, dependsOn, gate⟩ := sound.owner member found
      constructor
      · intro unskipped
        refine ⟨gate unskipped, ?_⟩
        rw [← dependsOn]
        exact sound.scheduled.satisfied stepRun stepMember unskipped
      · rintro ⟨_, all⟩ skipped
        obtain ⟨blocker, named, stops⟩ := sound.scheduled.blocked stepRun stepMember skipped
        rw [dependsOn] at named
        exact sound.not_succeeded (isReached_iff.mpr (.inl stops)) (all blocker named)
  | skipped stepRun event blockedByNodeKeys absent stopped skipped =>
      simp only [Option.some.injEq, exists_eq_left', skipped, ne_eq, not_true, false_iff]
      rintro ⟨_, all⟩
      obtain ⟨blocker, named, stops⟩ := (nodeIsStopped_iff sound.ordered member).mp stopped
      exact sound.not_succeeded stops (all blocker named)
  | readied stepRun free _ ready readied =>
      simp only [nodeIsReady, Bool.and_eq_true, Option.isNone_iff_eq_none,
        List.all_eq_true] at ready
      simpa [readied, ready.1.2] using ready.2
  | waiting absent free idle =>
      simp only [reduceCtorEq, false_and, exists_false, false_iff]
      rintro ⟨ungated, all⟩
      have ready : nodeIsReady node context.stepRuns = true := by
        simpa [nodeIsReady, absent, ungated] using all
      exact idle ⟨opened, ready⟩

end Passed

/-- **A scheduling pass is correct exactly when its nodes are admissible.** -/
theorem passIsCorrect_iff (sound : PassIsSound context) (running : context.run.state = .running) :
    PassIsCorrect hashes environment context ↔ PassIsAdmissible environment context := by
  obtain ⟨accepts, leaves⟩ := @PassState.loop hashes environment context
    context.plan.compiledWorkflow.nodes [] sound running (List.append_nil _).symm
  constructor
  · rintro ⟨materialized, passed, _⟩
    exact accepts.mp ⟨materialized, passed⟩
  · intro admissible
    obtain ⟨materialized, passed⟩ := accepts.mpr admissible
    have state := leaves materialized passed
    refine ⟨materialized, passed, ?_, ?_, ?_, fun later after => state.again sound after⟩
    · exact fun node member => state.skipped_iff sound member
    · exact fun node member absent stopped => state.skipped_records sound member absent stopped
    · exact fun opened node member => state.unskipped_iff sound member opened

end

/-! ## Runs of passes and commands -/

/-- The claimed context shows this DAG Run. -/
structure SchedulesDagRun (dagRun : DagRun) (context : DagSchedulingContext) : Prop where
  plan : context.plan = dagRun.plan
  run : context.run = dagRun.run
  stepRuns : context.stepRuns = dagRun.stepRuns

def DagRunMove.materializes : DagRunMove → Bool
  | .scheduled _ | .skipped _ => true
  | .commanded .. | .ran .. => false

/-- A scheduling pass over the Run, or another move of it. -/
inductive PassRunMove where
  | passed (environment : DagSchedulingEnvironment) (context : DagSchedulingContext)
  | aside (move : DagRunMove)

/-- The moves of a Run whose steps are materialized by scheduling passes alone: a pass whose
steps the table accepts, and the commands of the steps and of the Run. -/
inductive PassRunStep (hashes : DagCanonicalHashes) : DagRun → PassRunMove → DagRun → Prop where
  | passed {dagRun : DagRun} (environment : DagSchedulingEnvironment)
      (context : DagSchedulingContext) (materialized : MaterializedDagNodes)
      (schedules : SchedulesDagRun dagRun context)
      (passed : materializeReadyNodes hashes environment context = .ok materialized)
      (inserted : (materialized.stepRuns.map StepRun.stepRunId).Nodup) :
      PassRunStep hashes dagRun (.passed environment context)
        { dagRun with stepRuns := materialized.stepRuns }
  | aside {dagRun next : DagRun} (move : DagRunMove) (moved : DagRunStep dagRun move next)
      (commands : move.materializes = false) : PassRunStep hashes dagRun (.aside move) next

def passRuns (hashes : DagCanonicalHashes) : TransitionSystem DagRun PassRunMove where
  initial := IsCreatedDagRun
  step := PassRunStep hashes

/-- A Run whose steps are materialized by passes is a Run over its workflow. -/
theorem passRuns_reachable {hashes : DagCanonicalHashes} {dagRun : DagRun}
    (reachable : (passRuns hashes).Reachable dagRun) : dagRuns.Reachable dagRun := by
  induction reachable with
  | initial created => exact .initial created
  | step _ moved ih =>
      cases moved with
      | passed environment context materialized schedules passed inserted =>
          obtain ⟨moves, run⟩ := materializeReadyNodes_run schedules.plan schedules.run
            schedules.stepRuns passed inserted
          exact ih.run run
      | aside move moved commands => exact ih.step moved

/-- The step of another node, and a step that took no command, stay. -/
theorem stepOfNode_replace {before after : List StepRun} {stepRun next found : StepRun}
    {nodeKey : String} (key : next.nodeKey = stepRun.nodeKey) (other : found ≠ stepRun)
    (looked : stepOfNode (before ++ stepRun :: after) nodeKey = some found) :
    stepOfNode (before ++ next :: after) nodeKey = some found := by
  unfold stepOfNode at looked ⊢
  rw [List.find?_append] at looked ⊢
  cases earlier : before.find? (·.nodeKey == nodeKey) with
  | some known =>
      rw [earlier] at looked
      exact looked
  | none =>
      rw [earlier, Option.none_or, List.find?_cons] at looked
      rw [Option.none_or, List.find?_cons, key]
      split at looked
      · exact absurd (Option.some.inj looked).symm other
      · exact looked

/-- A command moves a step that is not terminal, and skips none. -/
theorem StepsAreScheduled.replace {workflow : CompiledWorkflow} {before after : List StepRun}
    {stepRun next : StepRun} (scheduled : StepsAreScheduled workflow (before ++ stepRun :: after))
    (same : SameStep stepRun next) (open_ : terminalStepState stepRun.state = false)
    (unskipped : next.state ≠ .skipped) :
    StepsAreScheduled workflow (before ++ next :: after) := by
  have member : stepRun ∈ before ++ stepRun :: after :=
    List.mem_append_right _ List.mem_cons_self
  have stays : ∀ nodeKey found, terminalStepState found.state = true →
      stepOfNode (before ++ stepRun :: after) nodeKey = some found →
        stepOfNode (before ++ next :: after) nodeKey = some found := by
    intro nodeKey found terminal looked
    refine stepOfNode_replace same.nodeKey ?_ looked
    rintro rfl
    rw [open_] at terminal
    cases terminal
  have succeeds : ∀ nodeKey, stepSucceeded (before ++ stepRun :: after) nodeKey = true →
      stepSucceeded (before ++ next :: after) nodeKey = true := by
    intro nodeKey succeeded
    obtain ⟨found, looked, state⟩ := (Option.any_eq_true _ _).mp succeeded
    rw [beq_iff_eq] at state
    refine (Option.any_eq_true _ _).mpr ⟨found, stays nodeKey found ?_ looked, beq_iff_eq.mpr state⟩
    rw [state]
    rfl
  have stops : ∀ nodeKey, StepStops (before ++ stepRun :: after) nodeKey →
      StepStops (before ++ next :: after) nodeKey := by
    intro nodeKey stops
    obtain ⟨found, looked, blocks⟩ := stepStops_iff.mp stops
    refine stepStops_iff.mpr ⟨found, stays nodeKey found ?_ looked, blocks⟩
    revert blocks
    cases found.state <;> decide
  have unskippedBefore : stepRun.state ≠ .skipped := by
    intro skipped
    rw [skipped] at open_
    cases open_
  have others : ∀ known ∈ before ++ next :: after, known = next ∨
      known ∈ before ++ stepRun :: after := by
    intro known inside
    rcases List.mem_append.mp inside with left | rest
    · exact .inr (List.mem_append_left _ left)
    rcases List.mem_cons.mp rest with moved | right
    · exact .inl moved
    · exact .inr (List.mem_append_right _ (List.mem_cons_of_mem _ right))
  refine ⟨?_, ?_, ?_, ?_⟩
  · intro known inside
    rcases others known inside with rfl | old
    · obtain ⟨node, nodeMember, key, dependsOn, gate⟩ := scheduled.identified stepRun member
      exact ⟨node, nodeMember, key.trans same.nodeKey.symm, dependsOn.trans same.dependsOn.symm,
        fun _ => gate unskippedBefore⟩
    · exact scheduled.identified known old
  · intro known inside
    rcases others known inside with rfl | old
    · rw [same.nodeKey]
      exact scheduled.named stepRun member
    · exact scheduled.named known old
  · intro known inside state dependency named
    rcases others known inside with rfl | old
    · rw [same.dependsOn] at named
      exact succeeds _ (scheduled.satisfied stepRun member unskippedBefore dependency named)
    · exact succeeds _ (scheduled.satisfied known old state dependency named)
  · intro known inside skipped
    rcases others known inside with rfl | old
    · exact absurd skipped unskipped
    · obtain ⟨blocker, named, blocking⟩ := scheduled.blocked known old skipped
      exact ⟨blocker, named, stops _ blocking⟩

/-- The steps that a pass leaves are scheduled. -/
theorem PassState.scheduled {context : DagSchedulingContext} {now : Instant}
    {materialized : MaterializedDagNodes}
    (state : PassState context now context.plan.compiledWorkflow.nodes materialized)
    (sound : PassIsSound context)
    (steps : StepsAreMaterialized context.plan context.run materialized.stepRuns) :
    StepsAreScheduled context.plan.compiledWorkflow materialized.stepRuns := by
  have owner : ∀ stepRun ∈ materialized.stepRuns, ∃ node ∈ context.plan.compiledWorkflow.nodes,
      node.key = stepRun.nodeKey ∧ node.dependsOn = stepRun.dependsOn ∧
        NodeOutcome context now materialized.writes node (some stepRun) := by
    intro stepRun member
    have identified := steps.identified stepRun member
    unfold stepIdentityIsValid at identified
    split at identified
    · cases identified
    rename_i node found
    simp only [Bool.and_eq_true, beq_iff_eq] at identified
    obtain ⟨nodeMember, key⟩ := (find?_key_eq_some_iff sound.ordered.distinct).mp found
    refine ⟨node, nodeMember, key, identified.2.symm, ?_⟩
    have outcome := state.outcome node nodeMember
    rw [show stepOfNode materialized.stepRuns node.key = some stepRun from
      (find?_key_eq_some_iff steps.nodeKeys).mpr ⟨member, key.symm⟩] at outcome
    exact outcome
  have stops : ∀ node ∈ context.plan.compiledWorkflow.nodes, ∀ dependency ∈ node.dependsOn,
      NodeStops context.plan.compiledWorkflow context.stepRuns dependency →
        StepStops materialized.stepRuns dependency := by
    intro node member dependency named stopping
    obtain ⟨earlier, rest, split⟩ := List.append_of_mem member
    refine (state.stops_iff sound ?_).mpr stopping
    rw [split, List.map_append]
    exact List.mem_append_left _ (sound.ordered.order earlier node rest split _ named)
  refine ⟨?_, state.named, ?_, ?_⟩
  · intro stepRun member
    obtain ⟨node, nodeMember, key, dependsOn, outcome⟩ := owner stepRun member
    refine ⟨node, nodeMember, key, dependsOn, fun unskipped => ?_⟩
    cases outcome with
    | known _ found =>
        obtain ⟨other, otherMember, otherKey, _, gate⟩ :=
          sound.scheduled.identified stepRun (stepOfNode_mem found).1
        have same : other = node := List.inj_on_of_nodup_map sound.ordered.distinct otherMember
          nodeMember (otherKey.trans key.symm)
        exact same ▸ gate unskipped
    | skipped _ event blockedByNodeKeys absent stopped skipped => exact absurd skipped unskipped
    | readied _ free opened ready =>
        simp only [nodeIsReady, Bool.and_eq_true, Option.isNone_iff_eq_none] at ready
        exact ready.1.2
  · intro stepRun member unskipped dependency named
    obtain ⟨node, nodeMember, key, dependsOn, outcome⟩ := owner stepRun member
    rw [state.succeeded_eq]
    cases outcome with
    | known _ found =>
        exact sound.scheduled.satisfied stepRun (stepOfNode_mem found).1 unskipped dependency named
    | skipped _ event blockedByNodeKeys absent stopped skipped => exact absurd skipped unskipped
    | readied _ free opened ready =>
        simp only [nodeIsReady, Bool.and_eq_true, List.all_eq_true] at ready
        exact ready.2 dependency (dependsOn ▸ named)
  · intro stepRun member skipped
    obtain ⟨node, nodeMember, key, dependsOn, outcome⟩ := owner stepRun member
    rw [← dependsOn]
    cases outcome with
    | known _ found =>
        obtain ⟨blocker, named, blocking⟩ :=
          sound.scheduled.blocked stepRun (stepOfNode_mem found).1 skipped
        rw [← dependsOn] at named
        exact ⟨blocker, named,
          stops node nodeMember blocker named (isReached_iff.mpr (.inl blocking))⟩
    | skipped _ event blockedByNodeKeys absent stopped =>
        obtain ⟨blocker, named, stopping⟩ := (nodeIsStopped_iff sound.ordered nodeMember).mp stopped
        exact ⟨blocker, named, stops node nodeMember blocker named stopping⟩
    | readied _ free opened ready readied =>
        rw [readied] at skipped
        cases skipped

/-- A pass over a Run that is not running creates no step. -/
theorem materializeReadyNodes_idle {hashes : DagCanonicalHashes}
    {environment : DagSchedulingEnvironment} {context : DagSchedulingContext}
    {materialized : MaterializedDagNodes} (idle : context.run.state ≠ .running)
    (passed : materializeReadyNodes hashes environment context = .ok materialized) :
    materialized.stepRuns = context.stepRuns := by
  have round : ∀ (before after : MaterializedDagNodes) (node : CompiledWorkflowNode),
      materializeNode hashes environment context before node = .ok after → after = before := by
    intro before after node passed
    unfold materializeNode at passed
    dsimp only at passed
    split at passed
    · cases passed
      rfl
    split at passed
    · split at passed
      · cases passed
      · rename_i decision accepted
        exact absurd (skipStep_accepts_iff.mp ⟨decision, accepted⟩).1 idle
    split at passed
    · cases passed
      rfl
    · rename_i opened
      simp [schedulingWindowIsOpen, idle] at opened
  have loop : ∀ (nodes : List CompiledWorkflowNode) (before after : MaterializedDagNodes),
      nodes.foldlM (materializeNode hashes environment context) before = .ok after →
        after = before := by
    intro nodes
    induction nodes with
    | nil =>
        intro before after passed
        cases passed
        rfl
    | cons node nodes ih =>
        intro before after passed
        rw [List.foldlM_cons] at passed
        obtain ⟨middle, first, rest⟩ := bind_eq_ok.mp passed
        rw [ih middle after rest, round before middle node first]
  rw [loop _ _ _ passed]

/-- **Passes and commands keep the steps scheduled.** -/
theorem passRuns_scheduled {hashes : DagCanonicalHashes} {dagRun : DagRun}
    (reachable : (passRuns hashes).Reachable dagRun) :
    WorkflowIsOrdered dagRun.plan.compiledWorkflow ∧
      StepsAreScheduled dagRun.plan.compiledWorkflow dagRun.stepRuns := by
  induction reachable with
  | initial created =>
      obtain ⟨spec, allowedCapabilities, limits, compilerVersion, compiled⟩ := created.compiled
      refine ⟨compileWorkflow_isOrdered compiled, ?_⟩
      rw [created.noSteps]
      exact ⟨by simp, by simp, by simp, by simp⟩
  | @step before after label reached moved ih =>
      obtain ⟨ordered, scheduled⟩ := ih
      have next := dagRunInvariant.reachable (passRuns_reachable (reached.step moved))
      cases moved with
      | passed environment context materialized schedules passed inserted =>
          refine ⟨ordered, ?_⟩
          have sound : PassIsSound context :=
            ⟨schedules.plan ▸ ordered, schedules.plan ▸ schedules.stepRuns ▸ scheduled⟩
          by_cases running : context.run.state = .running
          · have state := (PassState.loop sound running (List.append_nil _).symm).2 materialized
              passed
            have steps := next.steps
            dsimp only at steps ⊢
            rw [← schedules.plan] at steps ⊢
            rw [← schedules.run] at steps
            exact state.scheduled sound steps
          · dsimp only
            rw [materializeReadyNodes_idle running passed, schedules.stepRuns]
            exact scheduled
      | aside move moved commands =>
          cases moved with
          | scheduled => cases commands
          | skipped => cases commands
          | commanded earlier later stepRun command context transition ledger artifacts located
              accepted fresh ledgerMoved recorded =>
              refine ⟨ordered, ?_⟩
              rcases applyStepCommand_ok accepted with ⟨rfl, _⟩ | ⟨_, _, planned, plannedEq, _, rfl⟩
              · cases fresh
              rw [located] at scheduled
              exact scheduled.replace (freshTransition_sameStep stepRun planned context)
                (planTransition_move plannedEq).not_terminal
                (planTransition_delta plannedEq).unskipped
          | ran command context transition accepted => exact ⟨ordered, scheduled⟩

/-- **When a scheduling pass is correct.** Over every running Run that passes and commands
reach, a pass is correct if and only if every node that it skips has a key that is not blank
and lists each dependency that stops it once, and every node that it makes ready has a key that
is not blank. -/
theorem schedulingPass_isCorrect_iff {hashes : DagCanonicalHashes} {dagRun : DagRun}
    (reachable : (passRuns hashes).Reachable dagRun) (running : dagRun.run.state = .running)
    {context : DagSchedulingContext} (schedules : SchedulesDagRun dagRun context)
    (environment : DagSchedulingEnvironment) :
    PassIsCorrect hashes environment context ↔ PassIsAdmissible environment context := by
  obtain ⟨ordered, scheduled⟩ := passRuns_scheduled reachable
  refine passIsCorrect_iff ⟨schedules.plan ▸ ordered, ?_⟩ (schedules.run ▸ running)
  rw [schedules.plan, schedules.stepRuns]
  exact scheduled

/-! ## A dependency that is listed twice -/

/-- The plan of a workflow whose last node names its dependency twice. -/
def sampleRepeatedPlan : RunPlan :=
  { sampleRunPlan with compiledWorkflow := {
      workflowSpecId := "workflow-1"
      workflowRevision := "1"
      workflowContentHash := sampleHash
      compilerVersion := "1.0.0"
      fingerprint := "a:organizations.discover@1.0.0::|b:organizations.discover@1.0.0:a,a:"
      nodes := [⟨"a", ⟨"organizations.discover", "1.0.0"⟩, [], 0, none⟩,
        ⟨"b", ⟨"organizations.discover", "1.0.0"⟩, ["a", "a"], 1, none⟩] } }

private theorem sampleRepeatedPlan_compiled :
    Engine.sampleCompilation Engine.sampleWorkflowSpec 2 "1.0.0" =
      .ok sampleRepeatedPlan.compiledWorkflow := by
  decide

private def sampleRepeatedCreation : CreateRunInput :=
    { sampleRunCreation with plan := sampleRepeatedPlan }

private def sampleRepeatedRun : DagRun where
  plan := sampleRepeatedPlan
  run := queuedRun sampleRepeatedCreation
  stepRuns := []
  ledger := ⟨⟨0, 0, "credit"⟩, [], [], []⟩
  artifacts := []

private theorem sampleRepeatedRun_created : IsCreatedDagRun sampleRepeatedRun where
  compiled := ⟨_, _, _, _, sampleRepeatedPlan_compiled⟩
  created := ⟨sampleRepeatedCreation, _, createRunFromPlan_of_admitted
    ⟨rfl, rfl, rfl, by decide, by decide, by decide, by with_unfolding_all decide, rfl, by decide,
      by decide⟩, rfl, rfl⟩
  noSteps := rfl
  ledger := rfl
  noArtifacts := rfl

def sampleRepeatedRunning : DagRun :=
  { sampleRepeatedRun with
    run := (freshRunTransition sampleRepeatedRun.run ⟨.running, .none, none, none, [.runStarted]⟩
      sampleDagClaimContext).run }

/-- What a pass over a Run without a recipe cell claims. -/
def DagRun.scheduling (dagRun : DagRun) : DagSchedulingContext where
  artifacts := dagRun.artifacts
  artifactPayloads := []
  cost := dagRun.ledger.cost
  plan := dagRun.plan
  recipeCell := none
  reservations := dagRun.ledger.reservations
  run := dagRun.run
  stepRuns := dagRun.stepRuns

private def sampleRepeatedInput : ScheduleStepInput :=
  scheduleInput sampleDagHashes sampleDagEnvironment sampleRepeatedRunning.scheduling
    ⟨"a", ⟨"organizations.discover", "1.0.0"⟩, [], 0, none⟩ "event-0"

/-- The pass makes the first node ready. -/
def sampleRepeatedReady : DagRun :=
  { sampleRepeatedRunning with stepRuns := [(scheduledStep sampleRepeatedInput).stepRun] }

private def sampleRejection : StepCommandContext := sampleStepContext 1 "reject-1" ["event-2"]

/-- No route admits the step of the first node. -/
def sampleRepeatedFailed : DagRun :=
  { sampleRepeatedRunning with
    stepRuns := [deliverStepCommand (scheduledStep sampleRepeatedInput).stepRun .rejectStepRouting
      sampleRejection] }

private theorem sampleRepeatedRunning_reachable :
    (passRuns sampleDagHashes).Reachable sampleRepeatedRunning :=
  (TransitionSystem.Reachable.initial sampleRepeatedRun_created).step
    (.aside _ (@DagRunStep.ran sampleRepeatedRun .claimRun sampleDagClaimContext
      (freshRunTransition sampleRepeatedRun.run ⟨.running, .none, none, none, [.runStarted]⟩
        sampleDagClaimContext) rfl) rfl)

private theorem sampleRepeatedReady_passed :
    materializeReadyNodes sampleDagHashes sampleDagEnvironment sampleRepeatedRunning.scheduling =
      .ok ⟨[(scheduledStep sampleRepeatedInput).stepRun], [],
        [(scheduledStep sampleRepeatedInput).stepRun],
        [.insertReady (scheduledStep sampleRepeatedInput).stepRun
          (scheduledStep sampleRepeatedInput).event,
          .requestRouting (scheduledStep sampleRepeatedInput).stepRun.stepRunId]⟩ := by
  rfl

private theorem sampleRepeatedFailed_reachable :
    (passRuns sampleDagHashes).Reachable sampleRepeatedFailed := by
  have ready : (passRuns sampleDagHashes).Reachable sampleRepeatedReady :=
    sampleRepeatedRunning_reachable.step (@PassRunStep.passed sampleDagHashes sampleRepeatedRunning
      sampleDagEnvironment sampleRepeatedRunning.scheduling _ ⟨rfl, rfl, rfl⟩
      sampleRepeatedReady_passed (List.nodup_singleton _))
  exact ready.step (.aside _ (@DagRunStep.commanded sampleRepeatedReady [] []
    (scheduledStep sampleRepeatedInput).stepRun .rejectStepRouting sampleRejection _ _ _ rfl rfl rfl
    (.silent _ StepCommandType.noConfusion rfl) (.silent _ rfl)) rfl)

theorem schedulingPass_isCorrect_iff_ready :
    PassIsCorrect sampleDagHashes sampleDagEnvironment sampleRepeatedRunning.scheduling := by
  refine (schedulingPass_isCorrect_iff sampleRepeatedRunning_reachable rfl ⟨rfl, rfl, rfl⟩
    sampleDagEnvironment).mpr ?_
  intro node member
  constructor
  · rintro - ⟨origin, stops, -⟩
    cases stops
  · intro _ _
    rcases List.mem_pair.mp member with rfl | rfl <;> decide

/-- A pass throws once the step that a node names twice has failed. -/
theorem schedulingPass_throws_repeated :
    ¬ ∀ (hashes : DagCanonicalHashes) (dagRun : DagRun), (passRuns hashes).Reachable dagRun →
      dagRun.run.state = .running → ∀ context, SchedulesDagRun dagRun context →
        ∀ environment, PassIsCorrect hashes environment context := by
  intro correct
  obtain ⟨materialized, passed, -⟩ := correct _ _ sampleRepeatedFailed_reachable rfl
    sampleRepeatedFailed.scheduling ⟨rfl, rfl, rfl⟩ sampleDagEnvironment
  have thrown : (materializeReadyNodes sampleDagHashes sampleDagEnvironment
      sampleRepeatedFailed.scheduling).isOk = false := by with_unfolding_all decide
  rw [passed] at thrown
  cases thrown

end Kurobara.Application
