import Kurobara.Application.CellConclusion
import Kurobara.Kernel.Run.Convergent

/-! # Finalization of a converged Run

A Run with its durable manifest, moved by accepted commands and by scheduling passes: a
Run that has a manifest is terminal, so the finalizer of a running Run finds none. It
throws on a converged Run only when the recipe cell of the Run cannot take the result.
-/

namespace Kurobara.Application

open Foundation Kernel Persistence

/-! ## Scheduled Runs -/

/-- What a scheduling pass reads and writes of one Run: the Run, its manifest and its recipe cell.
-/
structure ScheduledRunRows where
  run : Run
  manifest : Option ResultManifest
  cell : Option DagRecipeCell

/-- What one write of a pass does to the rows. -/
def ScheduledRunRows.apply (rows : ScheduledRunRows) : DagSchedulingWrite → ScheduledRunRows
  | .insertManifest manifest => { rows with manifest := some manifest }
  | .updateRun _ run => { rows with run := run }
  | .finalizeCellResult finalization =>
      { rows with cell := rows.cell.map ({ · with current := finalization.cellResult }) }
  | _ => rows

/-- A move of the rows: an accepted command of the Run, or a scheduling pass. -/
inductive ScheduledRunMove where
  | command (accepted : AcceptedRunCommand)
  | pass (hashes : DagCanonicalHashes) (environment : DagSchedulingEnvironment)
      (context : DagSchedulingContext) (answer : DagSchedulingPass)

/-- What a pass claims of a Run. -/
def scheduledRows (environment : DagSchedulingEnvironment) (context : DagSchedulingContext) :
    ScheduledRunRows :=
  ⟨context.run, environment.storedManifest, context.recipeCell⟩

/-- The other use cases move a Run by accepted commands, mark its cell as running with it and
write no manifest; a pass over the claimed Run writes all three. -/
inductive ScheduledRunStep : ScheduledRunRows → ScheduledRunMove → ScheduledRunRows → Prop where
  | command {rows : ScheduledRunRows} (accepted : AcceptedRunCommand)
      (cell : Option DagRecipeCell)
      (applied : applyRunCommand rows.run accepted.command accepted.context =
        .ok accepted.transition)
      (follows : CellMove accepted.transition.run rows.cell cell) :
      ScheduledRunStep rows (.command accepted)
        { rows with run := accepted.transition.run, cell := cell }
  | pass (hashes : DagCanonicalHashes) (environment : DagSchedulingEnvironment)
      (context : DagSchedulingContext) (answer : DagSchedulingPass)
      (passed : materializeNextDagRun hashes environment context = .ok answer) :
      ScheduledRunStep (scheduledRows environment context) (.pass hashes environment context answer)
        (answer.writes.foldl ScheduledRunRows.apply (scheduledRows environment context))

/-- Rows as the creation of a Run leaves them. -/
structure IsCreatedScheduledRun (rows : ScheduledRunRows) : Prop where
  created : ∃ input decision, createRunFromPlan input = .ok decision ∧ rows.run = decision.run
  noManifest : rows.manifest = none
  cell : ∀ cell, rows.cell = some cell → CellIsOpen cell rows.run ∧ cell.current.status = .pending

/-- The rows under any order of accepted commands and scheduling passes. -/
def scheduledRuns : TransitionSystem ScheduledRunRows ScheduledRunMove where
  initial := IsCreatedScheduledRun
  step := ScheduledRunStep

/-! ## What a pass writes -/

/-- A write that touches neither the Run nor its manifest nor its cell. -/
def IsStepWrite (write : DagSchedulingWrite) : Prop :=
  ∀ rows : ScheduledRunRows, rows.apply write = rows

private theorem apply_stepWrites {writes : List DagSchedulingWrite}
    (aside : ∀ write ∈ writes, IsStepWrite write)
    (rows : ScheduledRunRows) : writes.foldl ScheduledRunRows.apply rows = rows := by
  induction writes generalizing rows with
  | nil => rfl
  | cons write writes ih =>
      rw [List.forall_mem_cons] at aside
      rw [List.foldl_cons, aside.1 rows]
      exact ih aside.2 rows

section

variable {hashes : DagCanonicalHashes} {environment : DagSchedulingEnvironment}
  {context : DagSchedulingContext}

private theorem materializeNode_writes {before after : MaterializedDagNodes}
    {node : CompiledWorkflowNode}
    (materialized : materializeNode hashes environment context before node = .ok after)
    (aside : ∀ write ∈ before.writes, IsStepWrite write) :
    ∀ write ∈ after.writes, IsStepWrite write := by
  unfold materializeNode at materialized
  dsimp only at materialized
  split at materialized
  · cases materialized
    exact aside
  split at materialized
  · split at materialized
    · cases materialized
    · cases materialized
      intro write member
      rcases List.mem_append.mp member with earlier | inserted
      · exact aside write earlier
      · rw [List.mem_singleton] at inserted
        subst inserted
        exact fun _ => rfl
  split at materialized
  · cases materialized
    exact aside
  split at materialized
  · cases materialized
  split at materialized
  · cases materialized
  · cases materialized
    intro write member
    rcases List.mem_append.mp member with earlier | inserted
    · exact aside write earlier
    · rcases List.mem_pair.mp inserted with rfl | rfl <;> exact fun _ => rfl

private theorem materializeReadyNodes_writes {materialized : MaterializedDagNodes}
    (passed : materializeReadyNodes hashes environment context = .ok materialized) :
    ∀ write ∈ materialized.writes, IsStepWrite write := by
  have loop : ∀ (nodes : List CompiledWorkflowNode) (before after : MaterializedDagNodes),
      (∀ write ∈ before.writes, IsStepWrite write) →
        nodes.foldlM (materializeNode hashes environment context) before = .ok after →
          ∀ write ∈ after.writes, IsStepWrite write := by
    intro nodes
    induction nodes with
    | nil =>
        intro before after aside passed
        cases passed
        exact aside
    | cons node nodes ih =>
        intro before after aside passed
        rw [List.foldlM_cons] at passed
        obtain ⟨middle, materialized, rest⟩ := bind_eq_ok.mp passed
        exact ih middle after (materializeNode_writes materialized aside) rest
  exact loop _ _ _ (by simp) passed

/-- The writes of a cell leave the Run alone. -/
theorem finalizeConcludedCell_apply {manifest : ResultManifest} {run : Run}
    {writes : List DagSchedulingWrite}
    (finalized : finalizeConcludedCell hashes environment context manifest run = .ok writes)
    (rows : ScheduledRunRows) : (writes.foldl ScheduledRunRows.apply rows).run = rows.run := by
  unfold finalizeConcludedCell at finalized
  split at finalized
  · cases finalized
    rfl
  split at finalized
  · cases finalized
  split at finalized
  · cases finalized
  split at finalized
  · cases finalized
  · cases finalized
    rfl

private theorem finalizeCancelledRecipeCell_apply {run : Run} {writes : List DagSchedulingWrite}
    (finalized : finalizeCancelledRecipeCell hashes environment context run = .ok writes)
    (rows : ScheduledRunRows) : (writes.foldl ScheduledRunRows.apply rows).run = rows.run := by
  unfold finalizeCancelledRecipeCell at finalized
  split at finalized
  · cases finalized
    rfl
  split at finalized
  · cases finalized
    rfl
  split at finalized
  · cases finalized
  split at finalized
  · cases finalized
  split at finalized
  · cases finalized
  · cases finalized
    rfl

private theorem apply_runTransitionWrites (command : RunCommand)
    (commandContext : RunCommandContext)
    (transition : RunTransition) (rows : ScheduledRunRows) :
    (runTransitionWrites context command commandContext transition).foldl ScheduledRunRows.apply
      rows
      = { rows with run := transition.run } := by
  rw [runTransitionWrites, List.cons_append, List.foldl_cons]
  refine apply_stepWrites ?_ _
  intro write member
  rcases List.mem_append.mp member with appended | inserted
  · obtain ⟨event, _, rfl⟩ := List.mem_map.mp appended
    exact fun _ => rfl
  · rw [List.mem_singleton] at inserted
    subst inserted
    exact fun _ => rfl

/-- The commands with which the scheduler ends a Run. -/
inductive EndsRun : RunCommand → Prop where
  | completed (manifest : ResultManifest) : EndsRun (.completeRun manifest)
  | failed (manifest : ResultManifest) : EndsRun (.failRun manifest)
  | cancelled : EndsRun .settleCancellation

/-- A command that ends a Run leaves it terminal. -/
theorem EndsRun.terminal {run : Run} {command : RunCommand} (ends : EndsRun command)
    {commandContext : RunCommandContext} {transition : RunTransition}
    (fresh : commandContext.replayProof = none)
    (accepted : applyRunCommand run command commandContext = .ok transition) :
    runIsTerminal transition.run.state = true := by
  rcases applyRunCommand_ok accepted with ⟨_, proof, given, _⟩ | ⟨_, _, planned, plannedEq, _, rfl⟩
  · rw [fresh] at given
    cases given
  · change runIsTerminal planned.state = true
    cases ends with
    | completed manifest =>
        rw [(validateCompletion_ok (fromRunState_ok plannedEq).2).2.1]
        rfl
    | failed manifest =>
        rw [(validateFailure_ok (fromRunState_ok plannedEq).2).2.1]
        rfl
    | cancelled =>
        cases (fromRunState_ok plannedEq).2
        rfl

private theorem concludeRun_apply {command : RunCommand} (ends : EndsRun command)
    {manifest : ResultManifest} {drawnEventIds : ℕ}
    {concluded : RunFinalization × List DagSchedulingWrite}
    (passed : concludeRun hashes environment context command manifest drawnEventIds =
      .ok concluded) (rows : ScheduledRunRows) :
    runIsTerminal (concluded.2.foldl ScheduledRunRows.apply rows).run.state = true := by
  unfold concludeRun at passed
  split at passed
  · cases passed
  dsimp only at passed
  split at passed
  · cases passed
  rename_i transition accepted
  obtain ⟨cellWrites, finalized, rfl⟩ := map_eq_ok.mp passed
  rw [List.cons_append, List.foldl_cons, List.foldl_append, apply_runTransitionWrites,
    finalizeConcludedCell_apply finalized]
  exact ends.terminal rfl accepted

private theorem finalizeRun_apply {stepRuns : List StepRun} {drawnEventIds : ℕ}
    {finalization : RunFinalization × List DagSchedulingWrite}
    (passed : finalizeRun hashes environment context stepRuns drawnEventIds = .ok finalization)
    (rows : ScheduledRunRows) :
    finalization.2.foldl ScheduledRunRows.apply rows = rows ∨
      runIsTerminal (finalization.2.foldl ScheduledRunRows.apply rows).run.state = true := by
  unfold finalizeRun at passed
  split at passed
  · cases passed
  · cases passed
    exact .inl rfl
  · exact .inr (concludeRun_apply (.completed _) passed rows)
  · exact .inr (concludeRun_apply (.failed _) passed rows)

private theorem quietPass_apply (outcome : DagSchedulingJobOutcome)
    (writes : List DagSchedulingWrite)
    (rows : ScheduledRunRows) :
    (quietPass context outcome writes).writes.foldl ScheduledRunRows.apply rows =
      writes.foldl ScheduledRunRows.apply rows := by
  rw [quietPass, List.foldl_append]
  rfl

/-- A pass leaves the Run with its manifest and its cell alone, or the Run is terminal after
it. -/
theorem materializeNextDagRun_apply {answer : DagSchedulingPass} {rows : ScheduledRunRows}
    (passed : materializeNextDagRun hashes environment context = .ok answer)
    (claimed : rows.run = context.run) :
    answer.writes.foldl ScheduledRunRows.apply rows = rows ∨
      runIsTerminal (answer.writes.foldl ScheduledRunRows.apply rows).run.state = true := by
  obtain ⟨_, _, passed⟩ := bind_eq_ok.mp passed
  have kept : terminalPass hashes environment context = .ok answer →
      (answer.writes.foldl ScheduledRunRows.apply rows).run = context.run := by
    intro passed
    obtain ⟨_, _, passed⟩ := bind_eq_ok.mp passed
    obtain ⟨writes, finalized, rfl⟩ := map_eq_ok.mp passed
    rw [quietPass_apply, finalizeCancelledRecipeCell_apply finalized, claimed]
  have terminal : runIsTerminal context.run.state = true →
      terminalPass hashes environment context = .ok answer →
        runIsTerminal (answer.writes.foldl ScheduledRunRows.apply rows).run.state = true := by
    intro ended passed
    rw [kept passed]
    exact ended
  split at passed
  · rename_i state
    exact .inr (terminal (by rw [state]; rfl) passed)
  · rename_i state
    exact .inr (terminal (by rw [state]; rfl) passed)
  · rename_i state
    exact .inr (terminal (by rw [state]; rfl) passed)
  · obtain ⟨settles, _, passed⟩ := bind_eq_ok.mp passed
    split at passed
    · obtain ⟨writes, settled, rfl⟩ := map_eq_ok.mp passed
      unfold settleRunCancellation at settled
      dsimp only at settled
      split at settled
      · cases settled
      rename_i transition accepted
      obtain ⟨cellWrites, finalized, rfl⟩ := map_eq_ok.mp settled
      right
      rw [quietPass_apply, List.foldl_append, apply_runTransitionWrites,
        finalizeCancelledRecipeCell_apply finalized]
      exact EndsRun.cancelled.terminal rfl accepted
    · cases passed
      exact .inl (quietPass_apply _ _ rows)
  · obtain ⟨materialized, materializedEq, passed⟩ := bind_eq_ok.mp passed
    obtain ⟨finalization, finalized, rfl⟩ := map_eq_ok.mp passed
    rw [List.foldl_append, List.foldl_append,
      apply_stepWrites (materializeReadyNodes_writes materializedEq)]
    exact finalizeRun_apply finalized rows
  all_goals
    cases passed
    exact .inl (quietPass_apply _ _ rows)

end

/-- A Run that has a manifest is terminal, and the cell of any other Run is open. -/
structure ScheduledRunInvariant (rows : ScheduledRunRows) : Prop where
  manifest : rows.manifest.isSome = true → runIsTerminal rows.run.state = true
  cell : runIsTerminal rows.run.state = false →
    ∀ cell, rows.cell = some cell → CellIsOpen cell rows.run

private theorem ScheduledRunInvariant.of_terminal {rows : ScheduledRunRows}
    (terminal : runIsTerminal rows.run.state = true) : ScheduledRunInvariant rows := by
  refine ⟨fun _ => terminal, fun live => ?_⟩
  rw [terminal] at live
  cases live

theorem ScheduledRunInvariant.command {rows : ScheduledRunRows} {accepted : AcceptedRunCommand}
    {cell : Option DagRecipeCell} (invariant : ScheduledRunInvariant rows)
    (applied : applyRunCommand rows.run accepted.command accepted.context = .ok accepted.transition)
    (follows : CellMove accepted.transition.run rows.cell cell) :
    ScheduledRunInvariant { rows with run := accepted.transition.run, cell := cell } := by
  by_cases terminal : runIsTerminal accepted.transition.run.state = true
  · exact .of_terminal terminal
  rw [Bool.not_eq_true] at terminal
  have live : runIsTerminal rows.run.state = false := by
    by_contra ended
    rw [Bool.not_eq_false] at ended
    rw [(applyRunCommand_of_terminal ended applied).1, ended] at terminal
    cases terminal
  refine ⟨fun stored => absurd (invariant.manifest stored) (Bool.eq_false_iff.mp live), fun _ => ?_⟩
  obtain ⟨workspaceId, runId, _⟩ := applyRunCommand_identity applied
  exact follows.opened terminal fun known given =>
    (invariant.cell live known given).of_identity workspaceId runId

private theorem scheduledRuns_invariant : scheduledRuns.Invariant ScheduledRunInvariant where
  initially := by
    intro rows created
    refine ⟨fun stored => ?_, fun _ cell given => (created.cell cell given).1⟩
    rw [created.noManifest] at stored
    cases stored
  preserved := by
    intro before move after invariant moved
    cases moved with
    | command accepted cell applied follows => exact invariant.command applied follows
    | pass hashes environment context answer passed =>
        have claimed : (scheduledRows environment context).run = context.run := rfl
        rcases materializeNextDagRun_apply passed claimed with same | terminal
        · rw [same]
          exact invariant
        · exact .of_terminal terminal

/-! ## What the recipe cell takes -/

private theorem transitionCellResult_ok {current requested : CellResult}
    {transition : CellResultTransition}
    (accepted : transitionCellResult current requested = .ok transition) :
    transition.cellResult = requested := by
  unfold transitionCellResult at accepted
  split at accepted
  · cases accepted
  split at accepted
  · rename_i same
    cases accepted
    exact same
  split at accepted
  · cases accepted
  split at accepted
  · cases accepted
  · cases accepted
    rfl

private theorem requestedForFailedRun_status {request : ProjectCellResultRequest}
    {base requested : CellResult} (accepted : requestedForFailedRun request base = .ok requested) :
    requested.status = .failed := by
  unfold requestedForFailedRun at accepted
  split at accepted
  · cases accepted
  split at accepted
  · cases accepted
  · cases accepted
    rfl

private theorem requestedForCompletedRun_status {evidence : ContentEvidence NormalizedJsonValue}
    {request : ProjectCellResultRequest} {base requested : CellResult}
    (accepted : requestedForCompletedRun evidence request base = .ok requested) :
    requested.status = .succeeded := by
  unfold requestedForCompletedRun at accepted
  split at accepted
  · cases accepted
  split at accepted
  · cases accepted
  split at accepted
  · cases accepted
  split at accepted
  · cases accepted
  split at accepted
  · cases accepted
  split at accepted
  · cases accepted
  · cases accepted
    rfl

/-- A concluded Run projects a terminal cell result. -/
theorem projectCellResult_terminal {evidence : ContentEvidence NormalizedJsonValue}
    {request : ProjectCellResultRequest} {projection : CellResultTransition}
    (concluded : request.run.state = .completed ∨ request.run.state = .failed)
    (projected : projectCellResult evidence request = .ok projection) :
    cellStatusIsTerminal projection.cellResult.status = true := by
  unfold projectCellResult at projected
  split at projected
  · cases projected
  split at projected
  · cases projected
  split at projected
  · cases projected
  split at projected
  · cases projected
  rename_i requested requestedEq
  split at projected
  · cases projected
  rename_i validated validatedEq
  split at projected
  · cases projected
  rename_i transition transitionEq
  cases projected
  rw [transitionCellResult_ok transitionEq, createCellResult_ok validatedEq]
  unfold requestedForRun at requestedEq
  dsimp only at requestedEq
  split at requestedEq
  · cases requestedEq
  rcases concluded with completed | failed
  · rw [completed] at requestedEq
    rw [requestedForCompletedRun_status requestedEq]
    rfl
  · rw [failed] at requestedEq
    rw [requestedForFailedRun_status requestedEq]
    rfl

/-- The recipe cell of a Run, if it has one, takes the result that the manifest concludes the
Run with. -/
def CellTakes (hashes : DagCanonicalHashes) (context : DagSchedulingContext)
    (manifest : ResultManifest) (run : Run) : Prop :=
  ∀ cell, context.recipeCell = some cell → ∃ projection, projectCellResult hashes.value
    (projectionRequest cell run (some manifest) (outputPayload context manifest.output)) =
      .ok projection

section

variable {hashes : DagCanonicalHashes} {environment : DagSchedulingEnvironment}
  {context : DagSchedulingContext}

private theorem finalizeConcludedCell_iff {manifest : ResultManifest} {run : Run}
    (concluded : run.state = .completed ∨ run.state = .failed)
    (persisted : context.recipeCell.isSome = true → environment.hasCellResults = true) :
    (∃ writes, finalizeConcludedCell hashes environment context manifest run = .ok writes) ↔
      CellTakes hashes context manifest run := by
  unfold finalizeConcludedCell CellTakes
  cases known : context.recipeCell with
  | none => simp
  | some cell =>
      rw [persisted (by rw [known]; rfl)]
      cases projected : projectCellResult hashes.value (projectionRequest cell run
          (some manifest) (outputPayload context manifest.output)) with
      | error failure => simp [projected]
      | ok projection =>
          have terminal := projectCellResult_terminal concluded projected
          simp [projected, terminal]

/-! ## The manifest of a converged Run -/

/-- A completed Run is projected by the manifest that completed it. -/
theorem completed_manifestMatchesRun {input : EvaluateRunConvergenceInput}
    {orderedSteps : List StepRun} {settlements : List ResultManifestAttemptSettlement}
    {output : ValidatedOutputRef} (steps : StepsAreProved input orderedSteps)
    (succeeded : ∀ stepRun ∈ input.stepRuns, stepRun.state = .succeeded)
    (proved : OutputIsProved input output) {manifestHash : ContentHash}
    {resultManifestId : ResultManifestId} {commandContext : RunCommandContext}
    {transition : RunTransition} (fresh : commandContext.replayProof = none)
    (accepted : applyRunCommand input.run
      (.completeRun ((manifestBody input orderedSteps settlements
      .completed (.accepted output) .complete).identified manifestHash resultManifestId))
        commandContext = .ok transition) :
    manifestMatchesRun transition.run ((manifestBody input orderedSteps settlements .completed
      (.accepted output) .complete).identified manifestHash resultManifestId) .completed =
        true := by
  rcases applyRunCommand_ok accepted with ⟨_, proof, given, _⟩ | ⟨_, _, planned, plannedEq, _, rfl⟩
  · rw [fresh] at given
    cases given
  obtain ⟨_, state, completeness, recorded⟩ := validateCompletion_ok (fromRunState_ok plannedEq).2
  obtain ⟨producer, member, produced⟩ := proved.produced
  have entryState : manifestEntryState producer.state = .succeeded := by
    rw [succeeded producer member]
    rfl
  have inside : toManifestEntry input.stepRuns producer ∈
      orderedSteps.map (toManifestEntry input.stepRuns) :=
    List.mem_map_of_mem (steps.mem_iff.mpr member)
  have result : (toManifestEntry input.stepRuns producer).result = .accepted output := by
    simp only [toManifestEntry, manifestEntryResult, entryState, produced]
  simp only [ResultManifestBody.identified, manifestBody] at completeness recorded
  simp only [manifestMatchesRun, completionMatches, freshRunTransition,
    ResultManifestBody.identified,
    manifestBody, completeness, recorded, proved.validator, proved.contract, beq_self_eq_true,
    Bool.true_and]
  refine List.any_eq_true.mpr ⟨_, inside, ?_⟩
  rw [result]
  simp [toManifestEntry, entryState, proved.contract]

/-- A failed Run is projected by the manifest that failed it. -/
theorem failed_manifestMatchesRun {input : EvaluateRunConvergenceInput}
    {orderedSteps : List StepRun} {settlements : List ResultManifestAttemptSettlement}
    (steps : StepsAreProved input orderedSteps)
    (failure : ∃ stepRun ∈ input.stepRuns, stepRun.state = .failed) {manifestHash : ContentHash}
    {resultManifestId : ResultManifestId} {commandContext : RunCommandContext}
    {transition : RunTransition} (fresh : commandContext.replayProof = none)
    (accepted : applyRunCommand input.run (.failRun ((manifestBody input orderedSteps settlements
      .failed (.missing .runFailed) .none).identified manifestHash resultManifestId))
        commandContext = .ok transition) :
    manifestMatchesRun transition.run ((manifestBody input orderedSteps settlements .failed
      (.missing .runFailed) .none).identified manifestHash resultManifestId) .failed = true := by
  rcases applyRunCommand_ok accepted with ⟨_, proof, given, _⟩ | ⟨_, _, planned, plannedEq, _, rfl⟩
  · rw [fresh] at given
    cases given
  obtain ⟨_, state, completeness, recorded⟩ := validateFailure_ok (fromRunState_ok plannedEq).2
  obtain ⟨stepRun, member, failed⟩ := failure
  have entries : (orderedSteps.map (toManifestEntry input.stepRuns)).any (·.state == .failed) =
      true := by
    refine List.any_eq_true.mpr ⟨_, List.mem_map_of_mem (steps.mem_iff.mpr member), ?_⟩
    simp [toManifestEntry, failed, manifestEntryState]
  simp only [ResultManifestBody.identified, manifestBody] at completeness recorded
  simp only [manifestMatchesRun, failureMatches, freshRunTransition, ResultManifestBody.identified,
    manifestBody, completeness, recorded, beq_self_eq_true, Bool.true_and]
  exact entries

/-! ## The finalizer of a converged Run -/

private theorem concludeRun_of_accepted {command : RunCommand} {manifest : ResultManifest}
    {drawnEventIds : ℕ} {transition : RunTransition} (unstored : environment.storedManifest = none)
    (persisted : context.recipeCell.isSome = true → environment.hasCellResults = true)
    (accepted : applyRunCommand context.run command (convergenceContext hashes environment context
      command.type manifest.manifestHash drawnEventIds) = .ok transition)
    (concluded : transition.run.state = .completed ∨ transition.run.state = .failed) :
    (∃ finalization, concludeRun hashes environment context command manifest drawnEventIds =
      .ok finalization) ↔ CellTakes hashes context manifest transition.run := by
  rw [← finalizeConcludedCell_iff concluded persisted]
  simp [concludeRun, unstored, accepted, map_eq_ok]

/-- A Run takes a manifest under every identity, with a fresh command at its version. -/
def TakesManifest (run : Run) (command : ResultManifest → RunCommand) (body : ResultManifestBody)
    (state : RunState) : Prop :=
  ∀ (manifestHash : ContentHash) (resultManifestId : ResultManifestId)
    (commandContext : RunCommandContext), commandContext.replayProof = none →
      commandContext.expectedAggregateVersion = run.aggregateVersion →
      commandContext.eventIds.length = 2 → ∃ transition,
        applyRunCommand run (command (body.identified manifestHash resultManifestId))
          commandContext = .ok transition ∧ transition.run.state = state

/-- What the recipe cell of a Run, if it has one, asks of the result: the cost of the Run is
the cost of a cell, and an accepted output fits the cell. -/
def ResultFitsCell (hashes : DagCanonicalHashes) (context : DagSchedulingContext)
    (output : ResultManifestOutput) : Prop :=
  ∀ cell, context.recipeCell = some cell →
    costIsValid ⟨context.cost.spent, .exact, context.cost.unit⟩ = true ∧
      ∀ accepted, output = .accepted accepted →
        OutputFitsCell hashes.value cell accepted.artifact (outputPayload context output)

/-- The manifest of a conclusion is accepted, and the finalizer answers exactly when the result
fits the recipe cell of the Run. -/
structure ConclusionIsFinalized (hashes : DagCanonicalHashes)
    (environment : DagSchedulingEnvironment)
    (context : DagSchedulingContext) (stepRuns : List StepRun) (drawnEventIds : ℕ)
    (command : ResultManifest → RunCommand) (body : ResultManifestBody) (state : RunState) :
    Prop where
  accepted : TakesManifest context.run command body state
  answers : (∃ finalization, finalizeRun hashes environment context stepRuns drawnEventIds =
    .ok finalization) ↔ ResultFitsCell hashes context body.output

private theorem cellTakes_iff_of_completed {run : Run} {manifest : ResultManifest}
    {output : ValidatedOutputRef}
    (opened : ∀ cell, context.recipeCell = some cell → CellIsOpen cell run)
    (completed : run.state = .completed)
    (matched : manifestMatchesRun run manifest .completed = true)
    (accepted : manifest.output = .accepted output)
    (spent : manifest.cost.spent = context.cost.spent)
    (unit : manifest.cost.unit = context.cost.unit) :
    CellTakes hashes context manifest run ↔ ResultFitsCell hashes context (.accepted output) := by
  refine forall₂_congr fun cell given => ?_
  rw [(opened cell given).completed_iff completed matched accepted, manifestCost, spent, unit,
    accepted]
  refine and_congr_right fun _ => ⟨?_, fun fits => fits output rfl⟩
  rintro fits other ⟨⟩
  exact fits

private theorem cellTakes_iff_of_failed {run : Run} {manifest : ResultManifest}
    (opened : ∀ cell, context.recipeCell = some cell → CellIsOpen cell run)
    (failed : run.state = .failed) (matched : manifestMatchesRun run manifest .failed = true)
    (missing : manifest.output = .missing .runFailed)
    (spent : manifest.cost.spent = context.cost.spent)
    (unit : manifest.cost.unit = context.cost.unit) :
    CellTakes hashes context manifest run ↔
      ResultFitsCell hashes context (.missing .runFailed) := by
  refine forall₂_congr fun cell given => ?_
  rw [missing]
  have projects : (∃ projection, projectCellResult hashes.value
      (projectionRequest cell run (some manifest) none) = .ok projection) ↔
        costIsValid (manifestCost manifest) = true := (opened cell given).failed_iff failed matched
  rw [manifestCost, spent, unit] at projects
  refine projects.trans ⟨fun cost => ⟨cost, fun _ other => ?_⟩, And.left⟩
  cases other

end

private def sampleClaimContext : RunCommandContext where
  commandIdentity := ⟨"claim-run-1", sampleHash⟩
  expectedAggregateVersion := 1
  eventIds := ["event-1"]
  occurredAt := 1
  actorId := "actor-1"
  correlationId := "correlation-1"
  replayProof := none

/-- The sample Run as it was created and claimed. -/
def sampleRunningRun : Run :=
  (freshRunTransition (queuedRun sampleRunCreation)
    ⟨.running, .none, none, none, [.runStarted]⟩ sampleClaimContext).run

/-- The cell of a text field, marked as running with its Run. -/
def sampleRecipeCell : DagRecipeCell where
  current := {
    cellResultId := "cell-1"
    datasetId := "dataset-1"
    enrichmentRecipeId := "recipe-1"
    fieldId := "field-1"
    recipeRevision := "1.0.0"
    recordId := "record-1"
    runId := "run-1"
    status := .running
    workspaceId := "workspace-1"
    confidence := none
    cost := none
    freshness := none
    provenance := none
    reason := none
    value := none }
  dataset := ⟨"dataset-1", "Organizations", "workspace-1"⟩
  fields := [⟨"dataset-1", "field-1", "domain", "Domain", .string, "workspace-1"⟩]
  recipe := {
    datasetId := "dataset-1"
    enrichmentRecipeId := "recipe-1"
    inputFieldIds := []
    name := "Find the domain"
    recipeRevision := "1.0.0"
    targetFieldId := "field-1"
    workflowContentHash := sampleHash
    workflowRevision := "1"
    workflowSpecId := "workflow-1"
    workspaceId := "workspace-1" }
  record := ⟨"dataset-1", "record-1", [], "workspace-1"⟩

/-- The cell as it is bound to its Run. -/
def samplePendingCell : DagRecipeCell :=
  { sampleRecipeCell with current := { sampleRecipeCell.current with status := .pending } }

private theorem sampleRunningRun_reachable :
    scheduledRuns.Reachable ⟨sampleRunningRun, none, some sampleRecipeCell⟩ := by
  have created : IsCreatedScheduledRun
      ⟨queuedRun sampleRunCreation, none, some samplePendingCell⟩ := by
    refine ⟨⟨_, _, sampleRunCreation_ok, rfl⟩, rfl, ?_⟩
    rintro cell ⟨⟩
    exact ⟨⟨by decide, rfl, rfl, .inl rfl⟩, rfl⟩
  have marked : CellMove sampleRunningRun (some samplePendingCell) (some sampleRecipeCell) :=
    .claimed samplePendingCell ⟨sampleRecipeCell.current, false⟩ rfl rfl
  exact (TransitionSystem.Reachable.initial created).step (@ScheduledRunStep.command
    ⟨queuedRun sampleRunCreation, none, some samplePendingCell⟩
    ⟨.claimRun, sampleClaimContext, freshRunTransition (queuedRun sampleRunCreation)
      ⟨.running, .none, none, none, [.runStarted]⟩ sampleClaimContext⟩ (some sampleRecipeCell) rfl
    marked)

/-- A running Run whose only step succeeded with a value for its cell. -/
def sampleDagContext (value : NormalizedJsonValue) : DagSchedulingContext where
  artifacts := [Persistence.sampleArtifact]
  artifactPayloads := [⟨"artifact-1", sampleHash, .object [("value", value)]⟩]
  cost := ⟨0, 1, "credit"⟩
  plan := sampleRunPlan
  recipeCell := some sampleRecipeCell
  reservations := [{
    amount := 2
    attemptId := "attempt-1"
    createdAt := 1
    operationKey := "operation-1"
    reservationId := "reservation-1"
    runId := "run-1"
    stepRunId := "step-1"
    unit := "credit"
    workspaceId := "workspace-1"
    state := .settled 1 1 1 "usage-1" }]
  run := sampleRunningRun
  stepRuns := [sampleSucceededStep]

def sampleDagEnvironment : DagSchedulingEnvironment where
  now := 2
  nextEventId index := "event-" ++ index.repr
  storedManifest := none
  hasCellResults := true

def sampleDagHashes : DagCanonicalHashes where
  value := ⟨fun _ => sampleHash, fun _ => 12⟩
  stepIdentity nodeKey _ _ _ := "sha256:" ++ nodeKey
  manifestBody body := "sha256:" ++ body.runId
  convergenceCommand manifestHash _ _ := manifestHash
  cancellationCommand runId _ := "sha256:" ++ runId

private theorem sampleRunPlan_isAcyclic :
    IsAcyclic sampleRunPlan.compiledWorkflow.dependencies := by
  have none : ∀ nodeKey, sampleRunPlan.compiledWorkflow.dependencies nodeKey = [] := by
    intro nodeKey
    unfold CompiledWorkflow.dependencies
    cases found : sampleRunPlan.compiledWorkflow.nodes.find? (·.key == nodeKey) with
    | none => rfl
    | some node =>
        have member := List.mem_of_find?_eq_some found
        rw [show sampleRunPlan.compiledWorkflow.nodes =
          [⟨"page", ⟨"organizations.discover", "1.0.0"⟩, [], 0, none⟩] from rfl,
          List.mem_singleton] at member
        rw [member]
        rfl
  refine DependencyOrder.isAcyclic .nil fun nodeKey named => absurd (none nodeKey) named

private def completedBody : Except RunConvergenceInvariantFailure RunConvergenceDecision →
    Option ResultManifestBody
  | .ok (.completed body) => some body
  | _ => none

/-- The convergence does not read the value of the output. -/
theorem sampleDagContext_isConcluded (value : NormalizedJsonValue) : ∃ body,
    evaluateRunConvergence (convergenceInput sampleDagEnvironment (sampleDagContext value)
      [sampleSucceededStep]) = .ok (.completed body) := by
  have completes : (completedBody (evaluateRunConvergence (convergenceInput sampleDagEnvironment
    (sampleDagContext .null) [sampleSucceededStep]))).isSome = true := by
    set_option maxRecDepth 2000 in
    with_unfolding_all decide
  change ∃ body, evaluateRunConvergence (convergenceInput sampleDagEnvironment
    (sampleDagContext .null) [sampleSucceededStep]) = .ok (.completed body)
  obtain ⟨body, bodyEq⟩ := Option.isSome_iff_exists.mp completes
  unfold completedBody at bodyEq
  split at bodyEq
  · exact ⟨_, by assumption⟩
  · cases bodyEq

end Kurobara.Application
