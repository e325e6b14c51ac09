import Kurobara.Foundation.DependencyOrder
import Kurobara.Foundation.Keyed
import Kurobara.Kernel.Run.Convergence

/-! # Converged Runs

What each phase of the convergence has proved once it answers with a proof, and that the
Run takes the terminal command which its decision calls for: over an acyclic workflow a
skipped step descends from a failed one, so a Run without a failed step has no skipped
step either.
-/

namespace Kurobara.Kernel

open Foundation

/-- What the nodes of a compiled workflow depend on, by their keys. -/
def CompiledWorkflow.dependencies (workflow : CompiledWorkflow) (nodeKey : String) :
    List String :=
  (workflow.nodes.find? (·.key == nodeKey)).elim [] CompiledWorkflowNode.dependsOn

def CompiledWorkflow.nodeKeys (workflow : CompiledWorkflow) : List String :=
  workflow.nodes.map CompiledWorkflowNode.key

variable {input : EvaluateRunConvergenceInput} {orderedSteps : List StepRun}
  {settlements : List ResultManifestAttemptSettlement}

/-! ## The steps -/

/-- What the step phase has checked of the steps that it orders. -/
structure StepsAreProved (input : EvaluateRunConvergenceInput) (orderedSteps : List StepRun) :
    Prop where
  distinct : (input.stepRuns.map StepRun.nodeKey).Nodup
  known : ∀ stepRun ∈ input.stepRuns, stepRun.nodeKey ∈ input.plan.compiledWorkflow.nodeKeys
  identified : ∀ stepRun ∈ input.stepRuns,
    stepIdentityIsValid input.plan input.run stepRun = true
  coherent : ∀ stepRun ∈ input.stepRuns, attemptsAreCoherent stepRun = true
  blocked : ∀ stepRun ∈ input.stepRuns, stepRun.state = .skipped →
    blockedBy stepRun input.stepRuns ≠ []
  ordered : input.plan.compiledWorkflow.nodeKeys.map (stepOfNode input.stepRuns) =
    orderedSteps.map some

theorem evaluateStepConvergenceProof_proved
    (proved : evaluateStepConvergenceProof input = .ok (.proved orderedSteps)) :
    StepsAreProved input orderedSteps := by
  unfold evaluateStepConvergenceProof at proved
  dsimp only at proved
  split at proved
  · cases proved
  rename_i matched
  split at proved
  · cases proved
  split at proved
  · cases proved
  split at proved
  · cases proved
  split at proved
  · cases proved
  rename_i coherent
  split at proved
  · cases proved
  rename_i blocked
  split at proved
  · cases proved
  rename_i steps looked
  cases proved
  simp only [Bool.or_eq_true, not_or, Bool.not_eq_true', decide_eq_false_iff_not, not_not,
    List.any_eq_true, not_exists, not_and, Bool.not_eq_false, Bool.and_eq_true,
    List.contains_iff_mem] at matched
  refine ⟨matched.1, fun stepRun member => (matched.2 stepRun member).1,
    fun stepRun member => (matched.2 stepRun member).2, ?_, ?_, mapM_eq_some_iff.mp looked⟩
  · simpa [List.any_eq_true] using coherent
  · intro stepRun member skipped unblocked
    exact blocked (List.any_eq_true.mpr ⟨stepRun, member, by simp [skipped, unblocked]⟩)

namespace StepsAreProved

variable (steps : StepsAreProved input orderedSteps)

include steps

theorem mem_iff {stepRun : StepRun} : stepRun ∈ orderedSteps ↔ stepRun ∈ input.stepRuns := by
  constructor
  · intro member
    have looked : some stepRun ∈ orderedSteps.map some := List.mem_map_of_mem member
    rw [← steps.ordered] at looked
    obtain ⟨nodeKey, _, found⟩ := List.mem_map.mp looked
    exact ((find?_key_eq_some_iff steps.distinct).mp found).1
  · intro member
    have found : stepOfNode input.stepRuns stepRun.nodeKey = some stepRun :=
      (find?_key_eq_some_iff steps.distinct).mpr ⟨member, rfl⟩
    have looked : some stepRun ∈ input.plan.compiledWorkflow.nodeKeys.map
        (stepOfNode input.stepRuns) :=
      List.mem_map.mpr ⟨stepRun.nodeKey, steps.known stepRun member, found⟩
    rw [steps.ordered] at looked
    obtain ⟨other, inside, same⟩ := List.mem_map.mp looked
    exact Option.some.inj same ▸ inside

theorem dependsOn {stepRun : StepRun} (member : stepRun ∈ input.stepRuns) :
    stepRun.dependsOn = input.plan.compiledWorkflow.dependencies stepRun.nodeKey := by
  have identified := steps.identified stepRun member
  unfold stepIdentityIsValid at identified
  unfold CompiledWorkflow.dependencies
  split at identified
  · cases identified
  · rename_i node found
    rw [found]
    simp only [Bool.and_eq_true, beq_iff_eq] at identified
    exact identified.2

/-- A proved step succeeded, failed or was skipped. -/
theorem state {stepRun : StepRun} (member : stepRun ∈ input.stepRuns) :
    stepRun.state = .succeeded ∨ stepRun.state = .failed ∨ stepRun.state = .skipped := by
  have coherent := steps.coherent stepRun member
  unfold attemptsAreCoherent at coherent
  split at coherent
  · cases coherent
  dsimp only at coherent
  split at coherent
  · rename_i skipped
    exact .inr (.inr skipped)
  · rename_i succeeded
    exact .inl succeeded
  · rename_i failed
    exact .inr (.inl failed)
  · cases coherent

/-- **No skipping without a failure.** Over an acyclic workflow, steps of which none
failed have all succeeded. -/
theorem all_succeeded (acyclic : IsAcyclic input.plan.compiledWorkflow.dependencies)
    (unfailed : ∀ stepRun ∈ input.stepRuns, stepRun.state ≠ .failed) :
    ∀ stepRun ∈ input.stepRuns, stepRun.state = .succeeded := by
  let skipped := (input.stepRuns.filter (·.state == .skipped)).map StepRun.nodeKey
  have isSkipped : ∀ nodeKey ∈ skipped,
      ∃ stepRun ∈ input.stepRuns, stepRun.state = .skipped ∧ stepRun.nodeKey = nodeKey := by
    intro nodeKey member
    obtain ⟨stepRun, inside, same⟩ := List.mem_map.mp member
    obtain ⟨member, state⟩ := List.mem_filter.mp inside
    exact ⟨stepRun, member, beq_iff_eq.mp state, same⟩
  -- A first skipped key would be blocked by a step that failed or was skipped before it.
  have none : skipped = [] := by
    by_contra some
    obtain ⟨nodeKey, inSkipped, minimal⟩ := acyclic.exists_minimal some
    obtain ⟨stepRun, member, state, rfl⟩ := isSkipped nodeKey inSkipped
    obtain ⟨dependency, blocks⟩ := List.exists_mem_of_ne_nil _ (steps.blocked stepRun member state)
    obtain ⟨named, blocking⟩ := List.mem_filter.mp blocks
    rw [steps.dependsOn member] at named
    obtain ⟨blocker, found, blockerState⟩ := (Option.any_eq_true _ _).mp blocking
    obtain ⟨blockerMember, rfl⟩ := (find?_key_eq_some_iff steps.distinct).mp found
    refine minimal blocker.nodeKey named (List.mem_map_of_mem (List.mem_filter.mpr
      ⟨blockerMember, ?_⟩))
    rcases steps.state blockerMember with succeeded | failed | blockerSkipped
    · rw [succeeded] at blockerState
      cases blockerState
    · exact absurd failed (unfailed blocker blockerMember)
    · exact beq_iff_eq.mpr blockerSkipped
  intro stepRun member
  rcases steps.state member with succeeded | failed | state
  · exact succeeded
  · exact absurd failed (unfailed stepRun member)
  · have inside : stepRun.nodeKey ∈ skipped :=
      List.mem_map_of_mem (List.mem_filter.mpr ⟨member, beq_iff_eq.mpr state⟩)
    rw [none] at inside
    cases inside

end StepsAreProved

/-! ## The output -/

/-- What the output phase has checked of the output that it accepts. -/
structure OutputIsProved (input : EvaluateRunConvergenceInput) (output : ValidatedOutputRef) :
    Prop where
  contract : output.contract = input.plan.outputContract
  validator : nonBlank output.validatorVersion = true
  produced : ∃ stepRun ∈ input.stepRuns,
    stepRun.attempts.getLast?.bind Attempt.output = some output

private theorem evaluateOutputProof_proved {output : ValidatedOutputRef}
    (distinct : (input.stepRuns.map StepRun.nodeKey).Nodup)
    (proved : evaluateOutputProof input = .ok (.proved output)) : OutputIsProved input output := by
  unfold evaluateOutputProof at proved
  split at proved
  · rename_i sink _
    split at proved
    · cases proved
    rename_i stepRun attempt result looked
    split at proved
    · cases proved
    split at proved
    · cases proved
    split at proved
    · cases proved
    rename_i matched
    cases proved
    simp only [artifactMatchesOutput, Bool.or_eq_true, not_or, Bool.not_eq_true', Bool.not_eq_false,
      Bool.and_eq_true, beq_iff_eq] at matched
    obtain ⟨sinkStep, found, produced⟩ := Option.bind_eq_some_iff.mp looked
    obtain ⟨terminal, last, same⟩ := Option.bind_eq_some_iff.mp produced
    obtain ⟨_, outputEq, named⟩ := Option.map_eq_some_iff.mp same
    cases named
    refine ⟨matched.1.2, matched.1.1.1.2, stepRun,
      ((find?_key_eq_some_iff distinct).mp found).1, ?_⟩
    rw [last]
    exact outputEq
  · cases proved

/-! ## The decision -/

/-- What a convergence that concludes the Run has proved. -/
inductive ConvergenceProof (input : EvaluateRunConvergenceInput) :
    RunConvergenceDecision → Prop where
  | failed (orderedSteps : List StepRun) (settlements : List ResultManifestAttemptSettlement)
      (steps : StepsAreProved input orderedSteps)
      (settled : evaluateSettlementConvergenceProof input orderedSteps = .ok (.proved settlements))
      (failure : ∃ stepRun ∈ input.stepRuns, stepRun.state = .failed) :
      ConvergenceProof input (.failed (manifestBody input orderedSteps settlements .failed
        (.missing .runFailed) .none))
  | completed (orderedSteps : List StepRun) (settlements : List ResultManifestAttemptSettlement)
      (output : ValidatedOutputRef) (steps : StepsAreProved input orderedSteps)
      (settled : evaluateSettlementConvergenceProof input orderedSteps = .ok (.proved settlements))
      (unfailed : ∀ stepRun ∈ input.stepRuns, stepRun.state ≠ .failed)
      (proved : OutputIsProved input output) :
      ConvergenceProof input (.completed (manifestBody input orderedSteps settlements .completed
        (.accepted output) .complete))

/-- A conclusion answers for an input of its own plan, with every phase proved. -/
theorem evaluateRunConvergence_concluded {decision : RunConvergenceDecision}
    (evaluated : evaluateRunConvergence input = .ok decision)
    (concludes : ∀ reason, decision ≠ .notReady reason) :
    input.plan.workspaceId = input.run.workspaceId ∧
      input.plan.runPlanId = input.run.runPlanId ∧ ConvergenceProof input decision := by
  unfold evaluateRunConvergence at evaluated
  split at evaluated
  · cases evaluated
  rename_i identified
  simp only [Bool.or_eq_true, not_or, bne_iff_ne, ne_eq, not_not] at identified
  refine ⟨identified.1, identified.2, ?_⟩
  split at evaluated
  · cases evaluated
  split at evaluated
  · cases evaluated
  · cases evaluated
    exact absurd rfl (concludes _)
  rename_i orderedSteps stepsEq
  have steps := evaluateStepConvergenceProof_proved stepsEq
  split at evaluated
  · cases evaluated
  · cases evaluated
    exact absurd rfl (concludes _)
  rename_i settlements settled
  split at evaluated
  · rename_i failed
    cases evaluated
    obtain ⟨stepRun, member, state⟩ := List.any_eq_true.mp failed
    exact .failed orderedSteps settlements steps settled
      ⟨stepRun, steps.mem_iff.mp member, beq_iff_eq.mp state⟩
  rename_i unfailed
  split at evaluated
  · cases evaluated
  · cases evaluated
    exact absurd rfl (concludes _)
  rename_i output outputEq
  cases evaluated
  refine .completed orderedSteps settlements output steps settled ?_
    (evaluateOutputProof_proved steps.distinct outputEq)
  intro stepRun member failed
  exact unfailed (List.any_eq_true.mpr
    ⟨stepRun, steps.mem_iff.mpr member, beq_iff_eq.mpr failed⟩)

/-! ## The terminal command -/

/-- A fresh command at the version of the Run, with the event identifiers of its plan. -/
theorem applyRunCommand_fresh {run : Run} {command : RunCommand} {planned : RunTransitionPlan}
    {context : RunCommandContext} (plannedEq : planRunTransition run command = .ok planned)
    (fresh : context.replayProof = none)
    (version : context.expectedAggregateVersion = run.aggregateVersion)
    (count : context.eventIds.length = planned.eventDetails.length) :
    applyRunCommand run command context = .ok (freshRunTransition run planned context) := by
  simp [applyRunCommand, fresh, version, plannedEq, count]

private theorem failRun_planned {run : Run} {manifest : ResultManifest}
    (running : run.state = .running)
    (identifies : manifestIdentifiesRun run manifest .failed = true)
    (failed : ∃ entry ∈ manifest.entries, entry.state = .failed) :
    ∃ planned, planRunTransition run (.failRun manifest) = .ok planned ∧ planned.state = .failed ∧
      planned.eventDetails.length = 2 := by
  obtain ⟨entry, member, state⟩ := failed
  have unfailed : manifest.entries.all (fun entry => entry.state != .failed) = false :=
    List.all_eq_false.mpr ⟨entry, member, by simp [state]⟩
  refine ⟨⟨.failed, manifest.resultCompleteness, none, some (resultManifestRef manifest),
    [runResultManifestRecorded manifest .failed, .runFailed manifest.resultCompleteness]⟩,
    ?_, rfl, rfl⟩
  simp [planRunTransition, failRun, fromRunState, running, validateFailure, identifies, unfailed]

private theorem completeRun_planned {run : Run} {manifest : ResultManifest}
    {output : ValidatedOutputRef}
    (running : run.state = .running)
    (identifies : manifestIdentifiesRun run manifest .completed = true)
    (given : manifest.output = .accepted output)
    (accepted : acceptedOutputIsProved manifest output = true) :
    ∃ planned, planRunTransition run (.completeRun manifest) = .ok planned ∧
      planned.state = .completed ∧ planned.eventDetails.length = 2 := by
  refine ⟨⟨.completed, manifest.resultCompleteness, none, some (resultManifestRef manifest),
    [runResultManifestRecorded manifest .completed, .runCompleted manifest.resultCompleteness]⟩,
    ?_, rfl, rfl⟩
  simp [planRunTransition, completeRun, fromRunState, running, validateCompletion, identifies,
    given,
    accepted]

private theorem manifestBody_identifiesRun {conclusion : RunConclusion}
    {output : ResultManifestOutput}
    {completeness : ResultCompleteness} (manifestHash : ContentHash)
    (resultManifestId : ResultManifestId) :
    manifestIdentifiesRun input.run ((manifestBody input orderedSteps settlements conclusion output
      completeness).identified manifestHash resultManifestId) conclusion = true := by
  simp [manifestIdentifiesRun, manifestBody, ResultManifestBody.identified]

/-- The entries of a Run without skipped and failed steps succeeded, and the output of one
of them is the accepted one. -/
theorem acceptedOutputIsProved_of_proof {output : ValidatedOutputRef}
    (steps : StepsAreProved input orderedSteps)
    (succeeded : ∀ stepRun ∈ input.stepRuns, stepRun.state = .succeeded)
    (proved : OutputIsProved input output) (manifestHash : ContentHash)
    (resultManifestId : ResultManifestId) :
    acceptedOutputIsProved ((manifestBody input orderedSteps settlements .completed
      (.accepted output) .complete).identified manifestHash resultManifestId) output = true := by
  have entryState : ∀ stepRun ∈ input.stepRuns, manifestEntryState stepRun.state = .succeeded := by
    intro stepRun member
    rw [succeeded stepRun member]
    rfl
  obtain ⟨producer, member, produced⟩ := proved.produced
  have entries : ∀ entry ∈ orderedSteps.map (toManifestEntry input.stepRuns),
      entry.state = .succeeded := by
    intro entry inside
    obtain ⟨stepRun, ordered, rfl⟩ := List.mem_map.mp inside
    exact entryState stepRun (steps.mem_iff.mp ordered)
  have accepted : (toManifestEntry input.stepRuns producer).result = .accepted output := by
    simp only [toManifestEntry, manifestEntryResult, entryState producer member, produced]
  simp only [acceptedOutputIsProved, ResultManifestBody.identified, manifestBody, beq_self_eq_true,
    proved.validator, proved.contract, Bool.true_and, Bool.and_eq_true, List.all_eq_true,
    List.any_eq_true, beq_iff_eq]
  refine ⟨entries, toManifestEntry input.stepRuns producer,
    List.mem_map_of_mem (steps.mem_iff.mpr member), ?_⟩
  rw [accepted]
  exact beq_self_eq_true _

/-- **A converged Run takes its terminal command.** Over an acyclic workflow, the manifest
of a conclusion is accepted by the Run that it was built for. -/
theorem converged_command_accepted (acyclic : IsAcyclic input.plan.compiledWorkflow.dependencies)
    (running : input.run.state = .running) {decision : RunConvergenceDecision}
    (proof : ConvergenceProof input decision) (manifestHash : ContentHash)
    (resultManifestId : ResultManifestId) {context : RunCommandContext}
    (fresh : context.replayProof = none)
    (version : context.expectedAggregateVersion = input.run.aggregateVersion)
    (count : context.eventIds.length = 2) :
    (∀ body, decision = .completed body → ∃ transition,
      applyRunCommand input.run (.completeRun (body.identified manifestHash resultManifestId))
        context = .ok transition ∧ transition.run.state = .completed) ∧
    ∀ body, decision = .failed body → ∃ transition,
      applyRunCommand input.run (.failRun (body.identified manifestHash resultManifestId))
        context = .ok transition ∧ transition.run.state = .failed := by
  cases proof with
  | failed orderedSteps settlements steps settled failure =>
      refine ⟨fun _ other => (RunConvergenceDecision.noConfusion other), ?_⟩
      rintro _ ⟨⟩
      obtain ⟨stepRun, member, state⟩ := failure
      have entry : (toManifestEntry input.stepRuns stepRun).state = .failed := by
        simp [toManifestEntry, state, manifestEntryState]
      obtain ⟨planned, plannedEq, terminal, details⟩ := failRun_planned running
        (manifestBody_identifiesRun manifestHash resultManifestId)
        ⟨_, List.mem_map_of_mem (steps.mem_iff.mpr member), entry⟩
      exact ⟨_, applyRunCommand_fresh plannedEq fresh version (count.trans details.symm), terminal⟩
  | completed orderedSteps settlements output steps settled unfailed proved =>
      refine ⟨?_, fun _ other => (RunConvergenceDecision.noConfusion other)⟩
      rintro _ ⟨⟩
      have accepted := @acceptedOutputIsProved_of_proof input orderedSteps settlements output steps
        (steps.all_succeeded acyclic unfailed) proved manifestHash resultManifestId
      obtain ⟨planned, plannedEq, terminal, details⟩ := completeRun_planned running
        (manifestBody_identifiesRun manifestHash resultManifestId) rfl accepted
      exact ⟨_, applyRunCommand_fresh plannedEq fresh version (count.trans details.symm), terminal⟩

end Kurobara.Kernel
