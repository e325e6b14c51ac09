import Kurobara.Application.MaterializeNextDagRun
import Kurobara.Engine.WorkflowCompilation
import Kurobara.Kernel.Run.History
import Kurobara.Persistence.SettlementProof
import Mathlib.Algebra.Order.BigOperators.Group.List

/-! # Runs over a compiled workflow

A Run with its plan, its steps, its cost ledger and its output artifacts. Steps are
materialized from the nodes of the workflow, ready or skipped, and move by accepted
commands, each with the ledger movement and the artifact that it requires. Whatever the
order of the moves, a terminal step has a coherent attempt history and the reservations
match the attempts one for one, so the convergence of the Run never finds an invalid proof.
-/

namespace Kurobara.Application

open Foundation Kernel Persistence

/-- A Run with its plan, its steps and the costs of its attempts. -/
structure DagRun where
  plan : RunPlan
  run : Run
  stepRuns : List StepRun
  ledger : CostLedger
  artifacts : List Artifact

/-- What the convergence of the Run is evaluated on. -/
def DagRun.convergence (dagRun : DagRun) (createdAt : Instant) : EvaluateRunConvergenceInput where
  artifacts := dagRun.artifacts
  cost := dagRun.ledger.cost
  createdAt := createdAt
  plan := dagRun.plan
  reservations := dagRun.ledger.reservations
  run := dagRun.run
  stepRuns := dagRun.stepRuns

/-! ## Moves -/

/-- A step of a node that has none yet, under a fresh identifier. -/
structure MaterializesNode (dagRun : DagRun) (stepRun : StepRun) : Prop where
  node : ∃ node ∈ dagRun.plan.compiledWorkflow.nodes, node.key = stepRun.nodeKey ∧
    node.dependsOn = stepRun.dependsOn
  workspaceId : stepRun.workspaceId = dagRun.run.workspaceId
  runId : stepRun.runId = dagRun.run.runId
  unknownNode : stepRun.nodeKey ∉ dagRun.stepRuns.map StepRun.nodeKey
  unknownStep : stepRun.stepRunId ∉ dagRun.stepRuns.map StepRun.stepRunId

/-- The artifact of the output that a command records, bound to the attempt that the command
names. -/
inductive OutputMove (plan : RunPlan) (stepRun : StepRun) (before : List Artifact) :
    StepCommand → List Artifact → Prop where
  | silent (command : StepCommand) (given : command.output = none) :
      OutputMove plan stepRun before command before
  | known (command : StepCommand) (output : ValidatedOutputRef) (artifact : Artifact)
      (attempt : Attempt) (given : command.output = some output)
      (owned : attempt ∈ stepRun.attempts) (target : command.target = some attempt.attemptId)
      (matched : artifactMatchesOutput artifact output stepRun attempt = true)
      (contract : output.contract = plan.outputContract) (member : artifact ∈ before) :
      OutputMove plan stepRun before command before
  | stored (command : StepCommand) (output : ValidatedOutputRef) (artifact : Artifact)
      (attempt : Attempt) (given : command.output = some output)
      (owned : attempt ∈ stepRun.attempts) (target : command.target = some attempt.attemptId)
      (matched : artifactMatchesOutput artifact output stepRun attempt = true)
      (contract : output.contract = plan.outputContract)
      (fresh : artifact.artifactId ∉ before.map Artifact.artifactId) :
      OutputMove plan stepRun before command (before ++ [artifact])

/-- A step is created or skipped, a step or the Run takes a command. -/
inductive DagRunMove where
  | scheduled (input : ScheduleStepInput)
  | skipped (input : SkipStepInput)
  | commanded (stepRunId : StepRunId) (command : StepCommand) (context : StepCommandContext)
  | ran (command : RunCommand) (context : RunCommandContext)

/-- The moves of a Run over its workflow. A skipped step names the dependencies that block
it; an exact replay of a command moves nothing and is left out. -/
inductive DagRunStep : DagRun → DagRunMove → DagRun → Prop where
  | scheduled {dagRun : DagRun} (input : ScheduleStepInput) (decision : StepDecision)
      (current : input.runState = dagRun.run.state) (accepted : scheduleStep input = .ok decision)
      (materializes : MaterializesNode dagRun decision.stepRun) :
      DagRunStep dagRun (.scheduled input)
        { dagRun with stepRuns := dagRun.stepRuns ++ [decision.stepRun] }
  | skipped {dagRun : DagRun} (input : SkipStepInput) (decision : StepDecision)
      (current : input.runState = dagRun.run.state) (accepted : skipStep input = .ok decision)
      (materializes : MaterializesNode dagRun decision.stepRun)
      (blocking : input.blockedByNodeKeys = blockedBy decision.stepRun dagRun.stepRuns) :
      DagRunStep dagRun (.skipped input)
        { dagRun with stepRuns := dagRun.stepRuns ++ [decision.stepRun] }
  | commanded {dagRun : DagRun} (before after : List StepRun) (stepRun : StepRun)
      (command : StepCommand) (context : StepCommandContext) (transition : StepTransition)
      (ledger : CostLedger) (artifacts : List Artifact)
      (located : dagRun.stepRuns = before ++ stepRun :: after)
      (accepted : applyStepCommand stepRun command context = .ok transition)
      (fresh : transition.replayed = false)
      (moved : LedgerMove dagRun.plan.budget stepRun dagRun.ledger command ledger)
      (recorded : OutputMove dagRun.plan stepRun dagRun.artifacts command artifacts) :
      DagRunStep dagRun (.commanded stepRun.stepRunId command context)
        { dagRun with
          stepRuns := before ++ transition.stepRun :: after
          ledger := ledger
          artifacts := artifacts }
  | ran {dagRun : DagRun} (command : RunCommand) (context : RunCommandContext)
      (transition : RunTransition)
      (accepted : applyRunCommand dagRun.run command context = .ok transition) :
      DagRunStep dagRun (.ran command context) { dagRun with run := transition.run }

/-- A Run as it is created from its plan, whose workflow was compiled. -/
structure IsCreatedDagRun (dagRun : DagRun) : Prop where
  compiled : ∃ spec allowedCapabilities limits compilerVersion,
    Engine.compileWorkflow spec allowedCapabilities limits compilerVersion =
      .ok dagRun.plan.compiledWorkflow
  created : ∃ input decision, createRunFromPlan input = .ok decision ∧
    input.plan = dagRun.plan ∧ decision.run = dagRun.run
  noSteps : dagRun.stepRuns = []
  ledger : dagRun.ledger = ⟨⟨dagRun.plan.budget.reserved, dagRun.plan.budget.spent,
    dagRun.plan.budget.unit⟩, [], [], []⟩
  noArtifacts : dagRun.artifacts = []

def dagRuns : TransitionSystem DagRun DagRunMove where
  initial := IsCreatedDagRun
  step := DagRunStep

/-! ## A scheduling pass -/

section

variable {hashes : DagCanonicalHashes} {environment : DagSchedulingEnvironment}
  {context : DagSchedulingContext} {dagRun : DagRun}

/-- One round materializes nothing, or one step by a move of the Run. -/
theorem materializeNode_moves {before after : MaterializedDagNodes} {node : CompiledWorkflowNode}
    (plan : context.plan = dagRun.plan) (run : context.run = dagRun.run)
    (member : node ∈ context.plan.compiledWorkflow.nodes)
    (materialized : materializeNode hashes environment context before node = .ok after)
    (inserted : (after.stepRuns.map StepRun.stepRunId).Nodup) :
    after.stepRuns = before.stepRuns ∨ ∃ move stepRun,
      after.stepRuns = before.stepRuns ++ [stepRun] ∧
        DagRunStep { dagRun with stepRuns := before.stepRuns } move
          { dagRun with stepRuns := before.stepRuns ++ [stepRun] } := by
  unfold materializeNode at materialized
  dsimp only at materialized
  split at materialized
  · cases materialized
    exact .inl rfl
  rename_i unknown
  have unknownNode : node.key ∉ before.stepRuns.map StepRun.nodeKey :=
    find?_key_eq_none_iff.mp (by simpa [stepOfNode] using unknown)
  have fresh : ∀ stepRun, after.stepRuns = before.stepRuns ++ [stepRun] →
      stepRun.stepRunId ∉ before.stepRuns.map StepRun.stepRunId := by
    intro stepRun grown listed
    rw [grown, List.map_append] at inserted
    exact (List.nodup_append.mp inserted).2.2 _ listed _ (List.mem_singleton_self _) rfl
  have materializes : ∀ stepRun : StepRun, stepRun.nodeKey = node.key →
      stepRun.dependsOn = node.dependsOn → stepRun.workspaceId = context.run.workspaceId →
        stepRun.runId = context.run.runId →
          stepRun.stepRunId ∉ before.stepRuns.map StepRun.stepRunId →
            MaterializesNode { dagRun with stepRuns := before.stepRuns } stepRun := by
    intro stepRun key dependsOn workspaceId runId unknownStep
    exact ⟨⟨node, plan ▸ member, key.symm, dependsOn.symm⟩, run ▸ workspaceId, run ▸ runId,
      key ▸ unknownNode, unknownStep⟩
  split at materialized
  · split at materialized
    · cases materialized
    rename_i decision accepted
    cases materialized
    have unknownStep := fresh decision.stepRun rfl
    obtain rfl := skipStep_ok accepted
    exact .inr ⟨_, _, rfl, .skipped _ _ (congrArg Run.state run) accepted
      (materializes _ rfl rfl rfl rfl unknownStep) rfl⟩
  split at materialized
  · cases materialized
    exact .inl rfl
  split at materialized
  · cases materialized
  rename_i decision accepted
  split at materialized
  · cases materialized
  cases materialized
  have unknownStep := fresh decision.stepRun rfl
  obtain rfl := scheduleStep_ok accepted
  exact .inr ⟨_, _, rfl, .scheduled _ _ (congrArg Run.state run) accepted
    (materializes _ rfl rfl rfl rfl unknownStep)⟩

/-- **A scheduling pass moves the Run.** What a pass materializes, with identifiers that the
table of the steps accepts, is a run of materializations. -/
theorem materializeReadyNodes_run {materialized : MaterializedDagNodes}
    (plan : context.plan = dagRun.plan) (run : context.run = dagRun.run)
    (stepRuns : context.stepRuns = dagRun.stepRuns)
    (passed : materializeReadyNodes hashes environment context = .ok materialized)
    (inserted : (materialized.stepRuns.map StepRun.stepRunId).Nodup) :
    ∃ moves, dagRuns.Run dagRun moves { dagRun with stepRuns := materialized.stepRuns } := by
  have loop : ∀ (nodes : List CompiledWorkflowNode) (before : MaterializedDagNodes),
      nodes ⊆ context.plan.compiledWorkflow.nodes →
        nodes.foldlM (materializeNode hashes environment context) before = .ok materialized →
          (∃ moves, dagRuns.Run { dagRun with stepRuns := before.stepRuns } moves
            { dagRun with stepRuns := materialized.stepRuns }) ∧
          (before.stepRuns.map StepRun.stepRunId).Nodup := by
    intro nodes
    induction nodes with
    | nil =>
        intro before _ passed
        cases passed
        exact ⟨⟨[], .nil _⟩, inserted⟩
    | cons node nodes ih =>
        intro before known passed
        rw [List.foldlM_cons] at passed
        obtain ⟨middle, first, rest⟩ := bind_eq_ok.mp passed
        obtain ⟨⟨moves, moved⟩, distinct⟩ :=
          ih middle (fun other member => known (List.mem_cons_of_mem _ member)) rest
        rcases materializeNode_moves plan run (known List.mem_cons_self) first distinct with
          same | ⟨move, stepRun, grown, step⟩
        · rw [same] at moved distinct
          exact ⟨⟨moves, moved⟩, distinct⟩
        · rw [grown] at moved distinct
          rw [List.map_append] at distinct
          exact ⟨⟨move :: moves, .cons step moved⟩, (List.nodup_append.mp distinct).1⟩
  have moved := (loop _ _ (List.Subset.refl _) passed).1
  rw [stepRuns] at moved
  exact moved

end

/-! ## Steps -/

/-- A workflow that compiles names its nodes apart. -/
theorem compileWorkflow_nodeKeys {spec : Engine.WorkflowSpec} {allowedCapabilities : List String}
    {limits : Engine.WorkflowCompilationLimits} {compilerVersion : String}
    {compiled : CompiledWorkflow}
    (accepted : Engine.compileWorkflow spec allowedCapabilities limits compilerVersion =
      .ok compiled) : compiled.nodeKeys.Nodup := by
  obtain ⟨_, valid, _, ordered, orderedEq, rfl⟩ := Engine.compileWorkflow_ok.mp accepted
  obtain ⟨_, unique, nodes⟩ := Engine.validateNodes_ok.mp valid
  obtain ⟨_, permuted⟩ := (Engine.orderGraph_spec
    (Engine.keysAreSound unique fun node member => (nodes node member).2)).2 ordered orderedEq
  change ((Engine.toCompiledNodes spec ordered).map CompiledWorkflowNode.key).Nodup
  rw [Engine.toCompiledNodes_eq permuted]
  exact permuted.nodup_iff.mpr unique

private theorem stepIdentityIsValid_of_node {plan : RunPlan} {run : Run} {stepRun : StepRun}
    (nodes : plan.compiledWorkflow.nodeKeys.Nodup)
    (node : ∃ node ∈ plan.compiledWorkflow.nodes, node.key = stepRun.nodeKey ∧
      node.dependsOn = stepRun.dependsOn)
    (workspaceId : stepRun.workspaceId = run.workspaceId) (runId : stepRun.runId = run.runId) :
    stepIdentityIsValid plan run stepRun = true := by
  obtain ⟨node, member, key, dependsOn⟩ := node
  have found : plan.compiledWorkflow.nodes.find? (·.key == stepRun.nodeKey) = some node :=
    (find?_key_eq_some_iff nodes).mpr ⟨member, key⟩
  simp [stepIdentityIsValid, found, workspaceId, runId, dependsOn]

namespace StepsAreMaterialized

variable {plan : RunPlan} {run : Run} {before after : List StepRun} {stepRun next : StepRun}

theorem append {dagRun : DagRun}
    (steps : StepsAreMaterialized dagRun.plan dagRun.run dagRun.stepRuns)
    (materializes : MaterializesNode dagRun stepRun)
    (blocked : stepRun.state = .skipped → blockedBy stepRun dagRun.stepRuns ≠ []) :
    StepsAreMaterialized dagRun.plan dagRun.run (dagRun.stepRuns ++ [stepRun]) := by
  have nodeKeys : ((dagRun.stepRuns ++ [stepRun]).map StepRun.nodeKey).Nodup := by
    rw [List.map_append]
    exact List.nodup_append.mpr
      ⟨steps.nodeKeys, List.nodup_singleton _, fun key listed other last =>
      List.mem_singleton.mp last ▸ fun same => materializes.unknownNode (same ▸ listed)⟩
  refine ⟨steps.nodes, nodeKeys, ?_, ?_, ?_⟩
  · rw [List.map_append]
    exact List.nodup_append.mpr ⟨steps.stepRunIds, List.nodup_singleton _,
      fun key listed other last =>
        List.mem_singleton.mp last ▸ fun same => materializes.unknownStep (same ▸ listed)⟩
  · intro known member
    rcases List.mem_append.mp member with earlier | last
    · exact steps.identified known earlier
    · rw [List.mem_singleton.mp last]
      exact stepIdentityIsValid_of_node steps.nodes materializes.node materializes.workspaceId
        materializes.runId
  · intro known member skipped
    have blocking : ∃ blocker ∈ dagRun.stepRuns, blocker.nodeKey ∈ known.dependsOn ∧
        stateBlocks blocker.state = true := by
      rcases List.mem_append.mp member with earlier | last
      · exact (blockedBy_ne_nil_iff steps.nodeKeys).mp (steps.blocked known earlier skipped)
      · rw [List.mem_singleton.mp last] at skipped ⊢
        exact (blockedBy_ne_nil_iff steps.nodeKeys).mp (blocked skipped)
    obtain ⟨blocker, inside, named, state⟩ := blocking
    exact (blockedBy_ne_nil_iff nodeKeys).mpr
      ⟨blocker, List.mem_append_left _ inside, named, state⟩

/-- A step that blocks no other, moved to a state in which it is not skipped. -/
theorem replace (steps : StepsAreMaterialized plan run (before ++ stepRun :: after))
    (same : SameStep stepRun next) (unblocking : stateBlocks stepRun.state = false)
    (unskipped : next.state ≠ .skipped) :
    StepsAreMaterialized plan run (before ++ next :: after) := by
  have keys : (before ++ next :: after).map StepRun.nodeKey =
      (before ++ stepRun :: after).map StepRun.nodeKey := by
    simp only [List.map_append, List.map_cons, same.nodeKey]
  have nodeKeys : ((before ++ next :: after).map StepRun.nodeKey).Nodup := keys ▸ steps.nodeKeys
  have others : ∀ known ∈ before ++ next :: after, known = next ∨
      known ∈ before ++ stepRun :: after := by
    intro known member
    rcases List.mem_append.mp member with left | rest
    · exact .inr (List.mem_append_left _ left)
    rcases List.mem_cons.mp rest with moved | right
    · exact .inl moved
    · exact .inr (List.mem_append_right _ (List.mem_cons_of_mem _ right))
  refine ⟨steps.nodes, nodeKeys, ?_, ?_, ?_⟩
  · simpa only [List.map_append, List.map_cons, same.stepRunId] using steps.stepRunIds
  · intro known member
    rcases others known member with rfl | old
    · have identified := steps.identified stepRun (List.mem_append_right _ List.mem_cons_self)
      unfold stepIdentityIsValid at identified ⊢
      rw [same.nodeKey, same.workspaceId, same.runId, same.dependsOn]
      exact identified
    · exact steps.identified known old
  · intro known member skipped
    rcases others known member with rfl | old
    · exact absurd skipped unskipped
    obtain ⟨blocker, inside, named, state⟩ :=
      (blockedBy_ne_nil_iff steps.nodeKeys).mp (steps.blocked known old skipped)
    refine (blockedBy_ne_nil_iff nodeKeys).mpr ⟨blocker, ?_, named, state⟩
    rcases List.mem_append.mp inside with left | rest
    · exact List.mem_append_left _ left
    rcases List.mem_cons.mp rest with rfl | right
    · rw [unblocking] at state
      cases state
    · exact List.mem_append_right _ (List.mem_cons_of_mem _ right)

end StepsAreMaterialized

/-! ## Outputs -/

/-- Every recorded output has its artifact, under the output contract of the plan. -/
structure OutputsAreStored (plan : RunPlan) (stepRuns : List StepRun)
    (artifacts : List Artifact) : Prop where
  distinct : (artifacts.map Artifact.artifactId).Nodup
  stored : ∀ stepRun ∈ stepRuns, ∀ attempt ∈ stepRun.attempts, ∀ output,
    attempt.output = some output → ∃ artifact ∈ artifacts,
      artifactMatchesOutput artifact output stepRun attempt = true ∧
        output.contract = plan.outputContract

theorem OutputMove.distinct {plan : RunPlan} {stepRun : StepRun} {before after : List Artifact}
    {command : StepCommand} (move : OutputMove plan stepRun before command after)
    (distinct : (before.map Artifact.artifactId).Nodup) :
    (after.map Artifact.artifactId).Nodup ∧ before ⊆ after := by
  cases move with
  | silent given => exact ⟨distinct, List.Subset.refl _⟩
  | known => exact ⟨distinct, List.Subset.refl _⟩
  | stored output artifact attempt given owned target matched contract fresh =>
      refine ⟨?_, List.subset_append_left _ _⟩
      rw [List.map_append]
      exact List.nodup_append.mpr ⟨distinct, List.nodup_singleton _, fun key listed other last =>
        List.mem_singleton.mp last ▸ fun same => fresh (same ▸ listed)⟩

/-- The artifact of a recorded output. -/
theorem OutputMove.artifact {plan : RunPlan} {stepRun : StepRun} {before after : List Artifact}
    {command : StepCommand} {output : ValidatedOutputRef}
    (move : OutputMove plan stepRun before command after) (given : command.output = some output) :
    ∃ artifact ∈ after, ∃ attempt ∈ stepRun.attempts,
      command.target = some attempt.attemptId ∧
        artifactMatchesOutput artifact output stepRun attempt = true ∧
          output.contract = plan.outputContract := by
  cases move with
  | silent absent =>
      rw [absent] at given
      cases given
  | known recorded artifact attempt recordedEq owned target matched contract member =>
      rw [recordedEq] at given
      cases given
      exact ⟨artifact, member, attempt, owned, target, matched, contract⟩
  | stored recorded artifact attempt recordedEq owned target matched contract fresh =>
      rw [recordedEq] at given
      cases given
      exact ⟨artifact, List.mem_append_right _ (List.mem_singleton_self _), attempt, owned, target,
        matched, contract⟩

/-- An artifact answers for the step and the attempt by their identities alone. -/
theorem artifactMatchesOutput_congr {artifact : Artifact} {output : ValidatedOutputRef}
    {stepRun next : StepRun} {attempt replacement : Attempt} (same : SameStep stepRun next)
    (terms : SameTerms attempt replacement) :
    artifactMatchesOutput artifact output next replacement =
      artifactMatchesOutput artifact output stepRun attempt := by
  unfold artifactMatchesOutput
  rw [same.workspaceId, same.runId, same.stepRunId, terms.identity, terms.operationKey]

namespace OutputsAreStored

variable {plan : RunPlan} {before after : List StepRun} {stepRun next : StepRun}
  {artifacts stored : List Artifact}

theorem append (outputs : OutputsAreStored plan before artifacts)
    (noAttempts : stepRun.attempts = []) :
    OutputsAreStored plan (before ++ [stepRun]) artifacts := by
  refine ⟨outputs.distinct, ?_⟩
  intro known member attempt owned
  rcases List.mem_append.mp member with earlier | last
  · exact outputs.stored known earlier attempt owned
  · rw [List.mem_singleton.mp last, noAttempts] at owned
    cases owned

/-- A step whose attempts keep their outputs, apart from those that are stored with it. -/
theorem replace (outputs : OutputsAreStored plan (before ++ stepRun :: after) artifacts)
    (distinct : (stored.map Artifact.artifactId).Nodup) (grows : artifacts ⊆ stored)
    (kept : ∀ attempt ∈ next.attempts, ∀ output, attempt.output = some output →
      ∃ artifact ∈ stored, artifactMatchesOutput artifact output next attempt = true ∧
        output.contract = plan.outputContract) :
    OutputsAreStored plan (before ++ next :: after) stored := by
  refine ⟨distinct, ?_⟩
  intro known member attempt owned output given
  have old : known ∈ before ++ stepRun :: after → ∃ artifact ∈ stored,
      artifactMatchesOutput artifact output known attempt = true ∧
        output.contract = plan.outputContract := by
    intro inside
    obtain ⟨artifact, artifactMember, matched, contract⟩ :=
      outputs.stored known inside attempt owned output given
    exact ⟨artifact, grows artifactMember, matched, contract⟩
  rcases List.mem_append.mp member with left | rest
  · exact old (List.mem_append_left _ left)
  rcases List.mem_cons.mp rest with rfl | right
  · exact kept attempt owned output given
  · exact old (List.mem_append_right _ (List.mem_cons_of_mem _ right))

end OutputsAreStored

/-! ## The invariant -/

/-- What every reachable DAG Run keeps: its identities, its steps and its ledger agree. -/
structure DagRunInvariant (dagRun : DagRun) : Prop where
  workspaceId : dagRun.plan.workspaceId = dagRun.run.workspaceId
  runPlanId : dagRun.plan.runPlanId = dagRun.run.runPlanId
  budget : 0 ≤ dagRun.plan.budget.spent ∧ 0 ≤ dagRun.plan.budget.reserved
  steps : StepsAreMaterialized dagRun.plan dagRun.run dagRun.stepRuns
  represented : ∀ stepRun ∈ dagRun.stepRuns, StepRunInvariant stepRun ∧ StepShape stepRun
  ledger : LedgerIsExact dagRun.plan.budget dagRun.stepRuns dagRun.ledger
  outputs : OutputsAreStored dagRun.plan dagRun.stepRuns dagRun.artifacts

theorem DagRunInvariant.initial {dagRun : DagRun} (created : IsCreatedDagRun dagRun) :
    DagRunInvariant dagRun := by
  obtain ⟨⟨spec, allowedCapabilities, limits, compilerVersion, compiled⟩,
    ⟨input, decision, createdEq, planEq, runEq⟩, noSteps, ledger, noArtifacts⟩ := created
  have budget := createRunFromPlan_budget createdEq
  obtain rfl := createRunFromPlan_ok createdEq
  simp only [runBudgetIsValid, Bool.and_eq_true, isAmount_iff, planEq] at budget
  refine ⟨?_, ?_, ⟨budget.1.1.1.1.2, budget.1.1.1.2⟩, ?_, ?_, ?_, ?_⟩
  · rw [← runEq, ← planEq]
    rfl
  · rw [← runEq, ← planEq]
    rfl
  · rw [noSteps]
    exact ⟨compileWorkflow_nodeKeys compiled, List.nodup_nil, List.nodup_nil, by simp, by simp⟩
  · simp [noSteps]
  · rw [noSteps, ledger]
    exact ⟨.empty, rfl, by simp, by simp⟩
  · rw [noSteps, noArtifacts]
    exact ⟨List.nodup_nil, by simp⟩

/-- A materialized step has the identity of its node and no attempt. -/
theorem DagRunInvariant.materialize {dagRun : DagRun} (invariant : DagRunInvariant dagRun)
    {stepRun : StepRun} (materializes : MaterializesNode dagRun stepRun)
    (noAttempts : stepRun.attempts = []) (inactive : stepRun.activeAttemptId = none)
    (state : stepRun.state = .ready ∨ stepRun.state = .skipped)
    (blocked : stepRun.state = .skipped → blockedBy stepRun dagRun.stepRuns ≠ []) :
    DagRunInvariant { dagRun with stepRuns := dagRun.stepRuns ++ [stepRun] } := by
  refine ⟨invariant.workspaceId, invariant.runPlanId, invariant.budget,
    StepsAreMaterialized.append invariant.steps materializes blocked, ?_,
    ⟨invariant.ledger.receipts.materialized noAttempts, invariant.ledger.balanced⟩,
    invariant.outputs.append noAttempts⟩
  intro known member
  rcases List.mem_append.mp member with earlier | last
  · exact invariant.represented known earlier
  · rw [List.mem_singleton.mp last]
    refine ⟨stepRunInvariant_of_noAttempts noAttempts inactive ?_ ?_,
      stepShape_of_noAttempts noAttempts state⟩ <;>
      rcases state with state | state <;> simp [state]

/-! ## Commands -/

section

variable {budget : BudgetLimit} {plan : RunPlan} {before after : List StepRun}
  {stepRun : StepRun} {command : StepCommand} {planned : StepTransitionPlan}
  {occurredAt : Instant}

/-- A command keeps the ledger exact with the movement that it requires. -/
theorem ledgerMove_exact {ledger moved : CostLedger}
    (move : LedgerMove budget stepRun ledger command moved)
    (exact : LedgerIsExact budget (before ++ stepRun :: after) ledger)
    (stepRunIds : ((before ++ stepRun :: after).map StepRun.stepRunId).Nodup)
    (invariant : StepRunInvariant stepRun)
    (delta : StepDelta stepRun occurredAt command planned) (context : StepCommandContext) :
    LedgerIsExact budget (before ++ (freshTransition stepRun planned context).stepRun :: after)
      moved := by
  have same := freshTransition_sameStep stepRun planned context
  have moveDelta := move.delta
  cases delta with
  | claimed preparation details valid fresh =>
      cases moveDelta with
      | silent _ unclaimed => exact absurd rfl unclaimed
      | granted _ createdAt reserved grant reservations cost =>
          have claimed := exact.claimed stepRunIds same rfl fresh grant
          exact claimed.congr reservations cost
      | concluded _ receipt proof carries => cases carries
  | continued attempt replacement details command state member active terms output opened ends
      silent unclaimed =>
      obtain ⟨_, _, isOpen, _⟩ := invariant.active_last member active
      have kept : ∀ known ∈ stepRun.attempts, ∃ replaced ∈ replaceAttempt stepRun replacement,
          SameTerms known replaced ∧
            attemptIsTerminal replaced.state = attemptIsTerminal known.state := by
        intro known owned
        by_cases same : known.attemptId = replacement.attemptId
        · have equal : known = attempt := List.inj_on_of_nodup_map invariant.distinct owned member
            (same.trans terms.identity)
          rw [equal]
          exact ⟨replacement, mem_replaceAttempt member terms.identity, terms,
            opened.trans isOpen.not_terminal.symm⟩
        · exact ⟨known, mem_replaceAttempt_of_ne owned same, .refl known, rfl⟩
      cases moveDelta with
      | silent _ _ _ unmoved =>
          rw [unmoved]
          exact exact.silent same (replaceAttempt_attemptIds stepRun replacement) kept
      | granted => exact absurd rfl unclaimed
      | concluded _ receipt proof carries =>
          rw [silent] at carries
          cases carries
  | concluded attempt replacement details command proof state member active target terms receipt
      matched ended =>
      obtain ⟨_, _, isOpen, _⟩ := invariant.active_last member active
      cases moveDelta with
      | silent _ _ asks =>
          rw [asks] at receipt
          cases receipt
      | granted => cases receipt
      | concluded _ recorded carried carries given conclusion =>
          rw [receipt] at carries
          cases carries
          exact exact.concluded same member rfl terms isOpen.not_terminal ended.terminal given
            matched conclusion
  | parked details command state inactive parkedFrom ends silent unclaimed =>
      cases moveDelta with
      | silent _ _ _ unmoved =>
          rw [unmoved]
          exact exact.silent same rfl fun known owned => ⟨known, owned, .refl known, rfl⟩
      | granted => exact absurd rfl unclaimed
      | concluded _ receipt proof carries =>
          rw [silent] at carries
          cases carries

/-- A command keeps the outputs stored with the artifact that it records. -/
theorem outputMove_stored {artifacts stored : List Artifact}
    (move : OutputMove plan stepRun artifacts command stored)
    (outputs : OutputsAreStored plan (before ++ stepRun :: after) artifacts)
    (invariant : StepRunInvariant stepRun)
    (delta : StepDelta stepRun occurredAt command planned) (context : StepCommandContext) :
    OutputsAreStored plan (before ++ (freshTransition stepRun planned context).stepRun :: after)
      stored := by
  have same := freshTransition_sameStep stepRun planned context
  obtain ⟨distinct, grows⟩ := move.distinct outputs.distinct
  -- An attempt under the terms of an earlier one answers with the output of that one.
  have kept : ∀ attempt ∈ stepRun.attempts, ∀ next, SameTerms attempt next →
      ∀ output, attempt.output = some output → ∃ artifact ∈ stored,
        artifactMatchesOutput artifact output (freshTransition stepRun planned context).stepRun
          next = true ∧ output.contract = plan.outputContract := by
    intro attempt owned next terms output given
    obtain ⟨artifact, member, matched, contract⟩ := outputs.stored stepRun
      (List.mem_append_right _ List.mem_cons_self) attempt owned output given
    exact ⟨artifact, grows member, (artifactMatchesOutput_congr same terms).trans matched, contract⟩
  refine outputs.replace distinct grows ?_
  intro next owned output given
  cases delta with
  | claimed preparation details valid fresh =>
      rcases List.mem_append.mp owned with earlier | last
      · exact kept next earlier next (.refl next) output given
      · rw [List.mem_singleton.mp last] at given
        cases given
  | continued attempt replacement details command state member active terms outputEq =>
      rcases replaceAttempt_cases owned with rfl | earlier
      · exact kept attempt member next terms output (outputEq ▸ given)
      · exact kept next earlier next (.refl next) output given
  | concluded attempt replacement details command proof state member active target terms receipt
      matched ended =>
      rcases replaceAttempt_cases owned with rfl | earlier
      · cases ended with
        | succeeded state outputEq =>
            cases recorded : command.output with
            | none =>
                refine kept attempt member next terms output ?_
                rw [← given, outputEq, recorded, Option.none_or]
            | some recordedOutput =>
                obtain ⟨artifact, artifactMember, named, namedOwned, namedTarget, matches_,
                  contract⟩ := move.artifact recorded
                have sameAttempt : named = attempt := by
                  refine List.inj_on_of_nodup_map invariant.distinct namedOwned member ?_
                  exact Option.some.inj (namedTarget.symm.trans target)
                rw [outputEq, recorded, Option.some_or] at given
                cases given
                rw [sameAttempt] at matches_
                exact ⟨artifact, artifactMember,
                  (artifactMatchesOutput_congr same terms).trans matches_, contract⟩
        | failed state failed ends outputEq =>
            exact kept attempt member next terms output (outputEq.symm.trans given)
        | cancelled state outputEq =>
            exact kept attempt member next terms output (outputEq.symm.trans given)
      · exact kept next earlier next (.refl next) output given
  | parked details command state inactive =>
      exact kept next owned next (.refl next) output given

end

/-- **Every move keeps the invariant.** -/
theorem DagRunInvariant.step {dagRun next : DagRun} {move : DagRunMove}
    (invariant : DagRunInvariant dagRun) (moved : DagRunStep dagRun move next) :
    DagRunInvariant next := by
  cases moved with
  | scheduled input decision current accepted materializes =>
      obtain rfl := scheduleStep_ok accepted
      exact invariant.materialize materializes rfl rfl (.inl rfl) nofun
  | skipped input decision current accepted materializes blocking =>
      have required := skipStep_blocked accepted
      obtain rfl := skipStep_ok accepted
      exact invariant.materialize materializes rfl rfl (.inr rfl) fun _ => blocking ▸ required
  | commanded before after stepRun command context transition ledger artifacts located accepted
      fresh moved recorded =>
      rcases applyStepCommand_ok accepted with ⟨rfl, _⟩ | ⟨_, _, planned, plannedEq, _, rfl⟩
      · cases fresh
      have member : stepRun ∈ dagRun.stepRuns := by
        rw [located]
        exact List.mem_append_right _ List.mem_cons_self
      obtain ⟨represented, shape⟩ := invariant.represented stepRun member
      have delta := planTransition_delta plannedEq
      have move := planTransition_move plannedEq
      have steps := invariant.steps
      have exact := invariant.ledger
      have outputs := invariant.outputs
      rw [located] at steps exact outputs
      refine ⟨invariant.workspaceId, invariant.runPlanId, invariant.budget,
        StepsAreMaterialized.replace steps (freshTransition_sameStep stepRun planned context)
          move.not_blocking.1 delta.unskipped, ?_,
        ledgerMove_exact moved exact steps.stepRunIds represented delta context,
        outputMove_stored recorded outputs represented delta context⟩
      intro known inside
      rcases List.mem_append.mp inside with left | rest
      · exact invariant.represented known (located ▸ List.mem_append_left _ left)
      rcases List.mem_cons.mp rest with rfl | right
      · exact ⟨represented.planned move context, shape.planned represented delta context⟩
      · exact invariant.represented known
          (located ▸ List.mem_append_right _ (List.mem_cons_of_mem _ right))
  | ran command context transition accepted =>
      obtain ⟨workspaceId, runId, runPlanId⟩ := applyRunCommand_identity accepted
      refine ⟨invariant.workspaceId.trans workspaceId.symm,
        invariant.runPlanId.trans runPlanId.symm, invariant.budget, ?_, invariant.represented,
        invariant.ledger, invariant.outputs⟩
      have steps := invariant.steps
      refine ⟨steps.nodes, steps.nodeKeys, steps.stepRunIds, ?_, steps.blocked⟩
      intro stepRun member
      have identified := steps.identified stepRun member
      unfold stepIdentityIsValid at identified ⊢
      rw [workspaceId, runId]
      exact identified

theorem dagRunInvariant : dagRuns.Invariant DagRunInvariant where
  initially _ created := .initial created
  preserved _ _ _ invariant moved := invariant.step moved

/-! ## Convergence -/

/-- An output is only refused when its artifact was finalized after the evaluation. -/
theorem evaluateOutputProof_exact {input : EvaluateRunConvergenceInput}
    (distinct : (input.stepRuns.map StepRun.nodeKey).Nodup)
    (outputs : OutputsAreStored input.plan input.stepRuns input.artifacts)
    {failure : RunConvergenceInvariantFailure}
    (failed : evaluateOutputProof input = .error failure) :
    failure.code = .stepProofInvalid ∧
      ∃ artifact ∈ input.artifacts, input.createdAt < artifact.finalizedAt := by
  unfold evaluateOutputProof at failed
  split at failed
  · split at failed
    · cases failed
    rename_i sinkStep terminalAttempt output looked
    obtain ⟨stepRun, stepFound, produced⟩ := Option.bind_eq_some_iff.mp looked
    obtain ⟨attempt, last, given⟩ := Option.bind_eq_some_iff.mp produced
    obtain ⟨recorded, outputEq, same⟩ := Option.map_eq_some_iff.mp given
    cases same
    have member := ((find?_key_eq_some_iff distinct).mp stepFound).1
    obtain ⟨artifact, artifactMember, matched, contract⟩ := outputs.stored _ member _
      (List.mem_of_getLast? last) _ outputEq
    split at failed
    · rename_i duplicate
      rw [Bool.not_eq_true', decide_eq_false_iff_not] at duplicate
      exact absurd outputs.distinct duplicate
    split at failed
    · cases failed
    rename_i found located
    have identity : artifact.artifactId = output.artifact.artifactId := by
      have parts := matched
      simp only [artifactMatchesOutput, Bool.and_eq_true, beq_iff_eq] at parts
      exact parts.1.1.1.1.1.1.1.1.1.1.1.1
    have equal := (find?_key_eq_some_iff outputs.distinct).mpr ⟨artifactMember, identity⟩
    rw [equal] at located
    cases located
    split at failed
    · rename_i refused
      rw [matched, contract, beq_self_eq_true, Bool.and_self, Bool.not_true, Bool.false_or,
        decide_eq_true_eq] at refused
      cases failed
      exact ⟨rfl, artifact, artifactMember, refused⟩
    · cases failed
  · cases failed

private def sampleDagSpec : Engine.WorkflowSpec :=
  ⟨"workflow-1", "1", sampleHash, [Engine.sampleWorkflowNode "page" []]⟩

private def sampleDagPlan : RunPlan :=
  { sampleRunPlan with
    compiledWorkflow := {
      workflowSpecId := "workflow-1"
      workflowRevision := "1"
      workflowContentHash := sampleHash
      compilerVersion := "1.0.0"
      fingerprint := "page:organizations.discover@1.0.0::"
      nodes := [⟨"page", ⟨"organizations.discover", "1.0.0"⟩, [], 0, none⟩] }
    retryPolicy := ⟨11⟩ }

private def sampleDagCreation : CreateRunInput := { sampleRunCreation with plan := sampleDagPlan }

def sampleDagRun : DagRun where
  plan := sampleDagPlan
  run := queuedRun sampleDagCreation
  stepRuns := []
  ledger := ⟨⟨0, 0, "credit"⟩, [], [], []⟩
  artifacts := []

theorem sampleDagRun_created : IsCreatedDagRun sampleDagRun where
  compiled := ⟨sampleDagSpec, ["organizations.discover"], Engine.sampleCompilationLimits 1,
    "1.0.0", by rfl⟩
  created := ⟨sampleDagCreation, _, createRunFromPlan_of_admitted
    ⟨rfl, rfl, rfl, by decide, by decide, by decide, by with_unfolding_all decide, rfl, by decide,
      by decide⟩, rfl, rfl⟩
  noSteps := rfl
  ledger := rfl
  noArtifacts := rfl

def sampleDagClaimContext : RunCommandContext where
  commandIdentity := ⟨"claim-run-1", sampleHash⟩
  expectedAggregateVersion := 1
  eventIds := ["event-1"]
  occurredAt := 1
  actorId := "actor-1"
  correlationId := "correlation-1"
  replayProof := none

private def sampleRoutingDecision : RoutingDecision where
  capability := ⟨"organizations.discover", "1.0.0"⟩
  decidedAt := 1
  effectAdapterKey := "plugin"
  policyFactsHash := sampleHash
  policyVersion := "1.0.0"
  pricingVersion := "1.0.0"
  reservedAmount := 2
  reservationUnit := "credit"
  routeKey := "route-1"
  routeSnapshotHash := sampleHash
  routingDecisionId := "decision-1"
  runId := "run-1"
  stepRunId := "step-1"
  workspaceId := "workspace-1"

/-- The sample Run with its step ready. -/
def sampleReadyDagRun : DagRun :=
  { sampleDagRun with
    run := (freshRunTransition sampleDagRun.run ⟨.running, .none, none, none, [.runStarted]⟩
      sampleDagClaimContext).run
    stepRuns := [sampleStep] }

/-- The attempt of the step is claimed under a reservation. -/
def sampleClaimedDagRun : DagRun :=
  { sampleReadyDagRun with
    stepRuns := [sampleClaimedStep]
    ledger := ⟨⟨2, 0, "credit"⟩, [reservationOfClaim sampleStep samplePreparation 1], [],
      [sampleRoutingDecision]⟩ }

private def sampleRelease : CostReservationRelease where
  amount := 2
  attemptId := "attempt-1"
  operationKey := "operation-1"
  releasedAt := 2
  reservationId := "reservation-1"
  runId := "run-1"
  unit := "credit"
  workspaceId := "workspace-1"

private def sampleNotStarted : StepCommand :=
  .recordAttemptNotStarted "attempt-1" false false
    ⟨⟨"attempt-1", "operation-1", "reservation-1", "credit"⟩, 2⟩

def sampleFailedStep : StepRun :=
  deliverStepCommand sampleClaimedStep sampleNotStarted
    (sampleStepContext 2 "fail-1" ["event-5"])

/-- The attempt of the step never started, and its reservation is released. -/
def sampleFailedDagRun : DagRun :=
  { sampleClaimedDagRun with
    stepRuns := [sampleFailedStep]
    ledger := ⟨⟨0, 0, "credit"⟩, [{ reservationOfClaim sampleStep samplePreparation 1 with
      state := .released 2 }], [], [sampleRoutingDecision]⟩ }

/-- The sample Run claimed by its executor, with no step yet. -/
def sampleRunningDagRun : DagRun := { sampleReadyDagRun with stepRuns := [] }

theorem sampleRunningDagRun_moved : DagRunStep sampleDagRun (.ran .claimRun sampleDagClaimContext)
    sampleRunningDagRun :=
  @DagRunStep.ran sampleDagRun .claimRun sampleDagClaimContext
    (freshRunTransition sampleDagRun.run ⟨.running, .none, none, none, [.runStarted]⟩
      sampleDagClaimContext) rfl

theorem sampleReadyDagRun_moved :
    DagRunStep sampleRunningDagRun (.scheduled sampleSchedule) sampleReadyDagRun := by
  refine @DagRunStep.scheduled sampleRunningDagRun sampleSchedule (scheduledStep sampleSchedule) rfl
    (by decide) ?_
  exact ⟨⟨_, List.mem_singleton_self _, rfl, rfl⟩, rfl, rfl, by simp [sampleRunningDagRun],
    by simp [sampleRunningDagRun]⟩

private theorem sampleReadyDagRun_reachable : dagRuns.Reachable sampleReadyDagRun :=
  ((TransitionSystem.Reachable.initial sampleDagRun_created).step sampleRunningDagRun_moved).step
    sampleReadyDagRun_moved

private theorem sampleReservation_created :
    reserveStepCost sampleReadyDagRun.ledger sampleDagPlan.budget
      (reservationOfClaim sampleStep samplePreparation 1) =
        (.created (reservationOfClaim sampleStep samplePreparation 1),
          ⟨⟨2, 0, "credit"⟩, [reservationOfClaim sampleStep samplePreparation 1], [], []⟩) := by
  with_unfolding_all decide

private theorem sampleReservation_released :
    releaseStepCost sampleClaimedDagRun.ledger sampleRelease =
      .ok (.released { reservationOfClaim sampleStep samplePreparation 1 with
        state := .released 2 }, sampleFailedDagRun.ledger) := by
  with_unfolding_all decide

theorem sampleClaimedDagRun_moved : DagRunStep sampleReadyDagRun (.commanded "step-1"
    (.claimStepAttempt samplePreparation)
    (sampleStepContext 1 "claim-1" ["event-2", "event-3", "event-4"])) sampleClaimedDagRun :=
  @DagRunStep.commanded sampleReadyDagRun [] [] sampleStep (.claimStepAttempt samplePreparation)
    (sampleStepContext 1 "claim-1" ["event-2", "event-3", "event-4"]) _ _ _ rfl rfl rfl
    (.reserved samplePreparation 1 sampleRoutingDecision _ _ _ sampleReservation_created rfl)
    (.silent _ rfl)

private theorem sampleClaimedDagRun_reachable : dagRuns.Reachable sampleClaimedDagRun :=
  sampleReadyDagRun_reachable.step sampleClaimedDagRun_moved

theorem sampleFailedDagRun_moved : DagRunStep sampleClaimedDagRun
    (.commanded sampleClaimedStep.stepRunId sampleNotStarted
      (sampleStepContext 2 "fail-1" ["event-5"])) sampleFailedDagRun :=
  @DagRunStep.commanded sampleClaimedDagRun [] [] sampleClaimedStep sampleNotStarted
    (sampleStepContext 2 "fail-1" ["event-5"]) _ _ _ rfl rfl rfl
    (.released _ sampleRelease _ _ _ sampleReservation_released rfl rfl) (.silent _ rfl)

private theorem sampleFailedDagRun_reachable : dagRuns.Reachable sampleFailedDagRun :=
  sampleClaimedDagRun_reachable.step sampleFailedDagRun_moved

/-- A command on the only step of a Run, with the usage that it settles and the artifact of its
output. -/
structure SettledCommand where
  command : StepCommand
  context : StepCommandContext
  usage : Option UsageEntry
  artifact : Option Artifact

/-- The ledger that a command leaves, when the ledger answers with the receipt that the command
carries. -/
def ledgerAfter (budget : BudgetLimit) (stepRun : StepRun) (before : CostLedger)
    (sent : SettledCommand) : Option CostLedger :=
  match sent.command, sent.usage with
  | .claimStepAttempt preparation, none =>
      match reserveStepCost before budget (reservationOfClaim stepRun preparation 1) with
      | (result, after) => result.reservation.map fun _ =>
          { after with routingDecisions := after.routingDecisions ++ [sampleRoutingDecision] }
  | .startAttemptEffect _, none => some before
  | command, some usage =>
      match settleStepCost before usage with
      | .ok (result, after) =>
          if result.reservation.any fun concluded => command.settlement == receiptOf concluded then
            some after
          else none
      | .error _ => none
  | _, none => none

private theorem ledgerAfter_moves {budget : BudgetLimit} {stepRun : StepRun}
    {before after : CostLedger}
    {sent : SettledCommand} (moved : ledgerAfter budget stepRun before sent = some after) :
    LedgerMove budget stepRun before sent.command after := by
  obtain ⟨command, context, usage, artifact⟩ := sent
  unfold ledgerAfter at moved
  dsimp only at moved ⊢
  split at moved
  · rename_i preparation
    obtain ⟨granted, given, rfl⟩ := Option.map_eq_some_iff.mp moved
    exact .reserved preparation 1 sampleRoutingDecision granted _ _ rfl given
  · cases moved
    exact .silent _ StepCommandType.noConfusion rfl
  · split at moved
    · rename_i settled
      split at moved
      · rename_i answered
        cases moved
        obtain ⟨concluded, given, receipt⟩ := (Option.any_eq_true _ _).mp answered
        exact .settled _ _ concluded _ _ settled given (beq_iff_eq.mp receipt)
      · cases moved
    · cases moved
  · cases moved

private def artifactsAfter (plan : RunPlan) (stepRun : StepRun) (before : List Artifact)
    (sent : SettledCommand) : Option (List Artifact) :=
  match sent.command.output, sent.artifact with
  | none, _ => some before
  | some _, none => none
  | some output, some artifact =>
      if (stepRun.attempts.any fun attempt => sent.command.target == some attempt.attemptId &&
          artifactMatchesOutput artifact output stepRun attempt) &&
          output.contract == plan.outputContract &&
          !(before.map Artifact.artifactId).contains artifact.artifactId then
        some (before ++ [artifact])
      else none

private theorem artifactsAfter_moves {plan : RunPlan} {stepRun : StepRun}
    {before after : List Artifact}
    {sent : SettledCommand} (moved : artifactsAfter plan stepRun before sent = some after) :
    OutputMove plan stepRun before sent.command after := by
  unfold artifactsAfter at moved
  split at moved
  · rename_i given
    cases moved
    exact .silent _ given
  · cases moved
  · rename_i output artifact given _
    split at moved
    · rename_i stored
      cases moved
      simp only [Bool.and_eq_true, List.any_eq_true, beq_iff_eq, Bool.not_eq_true',
        List.contains_eq_mem, decide_eq_false_iff_not] at stored
      obtain ⟨⟨⟨attempt, owned, target, matched⟩, contract⟩, fresh⟩ := stored
      exact .stored _ output artifact attempt given owned target matched contract fresh
    · cases moved

/-- A Run with one step, after a command. -/
def DagRun.deliver (dagRun : DagRun) (sent : SettledCommand) : Option DagRun :=
  match dagRun.stepRuns with
  | [stepRun] =>
      match applyStepCommand stepRun sent.command sent.context,
          ledgerAfter dagRun.plan.budget stepRun dagRun.ledger sent,
          artifactsAfter dagRun.plan stepRun dagRun.artifacts sent with
      | .ok transition, some ledger, some artifacts =>
          if transition.replayed then none
          else some { dagRun with
            stepRuns := [transition.stepRun]
            ledger := ledger
            artifacts := artifacts }
      | _, _, _ => none
  | _ => none

private theorem DagRun.deliver_reachable {dagRun next : DagRun} {sent : SettledCommand}
    (reachable : dagRuns.Reachable dagRun) (delivered : dagRun.deliver sent = some next) :
    dagRuns.Reachable next := by
  unfold DagRun.deliver at delivered
  split at delivered
  · rename_i stepRun located
    split at delivered
    · rename_i transition ledger artifacts accepted moved recorded
      split at delivered
      · cases delivered
      rename_i fresh
      cases delivered
      exact reachable.step (@DagRunStep.commanded dagRun [] [] stepRun sent.command sent.context
        transition ledger artifacts located accepted (Bool.eq_false_of_not_eq_true fresh)
        (ledgerAfter_moves moved) (artifactsAfter_moves recorded))
    · cases delivered
  · cases delivered

private theorem deliverAll_reachable {dagRun next : DagRun} {sent : List SettledCommand}
    (reachable : dagRuns.Reachable dagRun)
    (delivered : sent.foldlM DagRun.deliver dagRun = some next) : dagRuns.Reachable next := by
  induction sent generalizing dagRun with
  | nil =>
      cases delivered
      exact reachable
  | cons command sent ih =>
      rw [List.foldlM_cons] at delivered
      obtain ⟨middle, first, rest⟩ := Option.bind_eq_some_iff.mp delivered
      exact ih (DagRun.deliver_reachable reachable first) rest

/-- Whether a Run whose steps are terminal is refused at an instant, for a proof of a kind. -/
def DagRun.isRefused (dagRun : DagRun) (createdAt : Instant)
    (code : RunConvergenceInvariantFailureCode) : Bool :=
  dagRun.stepRuns.all (terminalStepState ·.state) &&
    match evaluateRunConvergence (dagRun.convergence createdAt) with
    | .error failure => failure.code == code
    | .ok _ => false

private theorem exists_isRefused {dagRun : DagRun} {sent : List SettledCommand}
    {createdAt : Instant}
    {code : RunConvergenceInvariantFailureCode} (reachable : dagRuns.Reachable dagRun)
    (refused : (sent.foldlM DagRun.deliver dagRun).any (·.isRefused createdAt code) = true) :
    ¬ ∀ dagRun, dagRuns.Reachable dagRun →
      (∀ stepRun ∈ dagRun.stepRuns, terminalStepState stepRun.state = true) →
        ∀ createdAt failure,
          evaluateRunConvergence (dagRun.convergence createdAt) = .error failure →
            failure.code ≠ code := by
  intro proved
  obtain ⟨next, delivered, refused⟩ := (Option.any_eq_true _ _).mp refused
  rw [DagRun.isRefused, Bool.and_eq_true, List.all_eq_true] at refused
  obtain ⟨terminal, refused⟩ := refused
  split at refused
  · rename_i failure failed
    exact proved next (deliverAll_reachable reachable delivered) terminal createdAt failure failed
      (beq_iff_eq.mp refused)
  · cases refused

/-- An attempt of the sample step that is claimed, starts and fails, with its whole reservation
settled. -/
def failedAttempt (number : ℕ) (amount : Amount) (retried : Bool) : List SettledCommand :=
  let key := toString number
  let version := 3 * number - 2
  [⟨.claimStepAttempt { samplePreparation with
      attemptId := "attempt-" ++ key
      costReservationId := "reservation-" ++ key
      reason := if number == 1 then .initial else .retry
      reservedAmount := amount
      routingDecisionId := "decision-" ++ key },
    sampleStepContext version ("claim-" ++ key)
      ["decided-" ++ key, "created-" ++ key, "claimed-" ++ key], none, none⟩,
   ⟨.startAttemptEffect ("attempt-" ++ key),
    sampleStepContext (version + 1) ("start-" ++ key) ["started-" ++ key], none, none⟩,
   ⟨.recordAttemptFailure ("attempt-" ++ key) retried retried
      (.settled ⟨"attempt-" ++ key, "operation-1", "reservation-" ++ key, "credit"⟩ 0 amount
        ("usage-" ++ key)),
    sampleStepContext (version + 2) ("fail-" ++ key)
      (if retried then ["failed-" ++ key, "retried-" ++ key] else ["failed-" ++ key]),
    some {
      amount := amount
      attemptId := "attempt-" ++ key
      operationKey := "operation-1"
      recordedAt := 1
      reservationId := "reservation-" ++ key
      runId := "run-1"
      unit := "credit"
      usageEntryId := "usage-" ++ key
      workspaceId := "workspace-1"
      reconciliationProofId := none }, none⟩]

/-- One unit is settled for the first attempt and 10⁻¹⁶ for each of ten retries. -/
def sampleRetries : List SettledCommand :=
  failedAttempt 1 1 true ++
    (List.range 9).flatMap (fun index => failedAttempt (index + 2) (1 / 10 ^ 16) true) ++
      failedAttempt 11 (1 / 10 ^ 16) false

/-- The claimed attempt starts and succeeds with an output finalized at 1. -/
def sampleSuccess : List SettledCommand :=
  [⟨.startAttemptEffect "attempt-1", sampleStepContext 2 "start-1" ["event-5"], none, none⟩,
   ⟨.recordAttemptSucceeded "attempt-1" (some sampleOutput) sampleSettlement,
    sampleStepContext 3 "succeed-1" ["event-6"],
    some {
      amount := 1
      attemptId := "attempt-1"
      operationKey := "operation-1"
      recordedAt := 1
      reservationId := "reservation-1"
      runId := "run-1"
      unit := "credit"
      usageEntryId := "usage-1"
      workspaceId := "workspace-1"
      reconciliationProofId := none }, some Persistence.sampleArtifact⟩]

end Kurobara.Application
