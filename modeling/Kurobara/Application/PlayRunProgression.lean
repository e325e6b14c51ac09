import Kurobara.Application.AdvancePlayRun

/-! # The progression of a Play run

One advance of a Play run changes nothing or only its first stage that is not completed. The
stages of every run are completed in order, its cost and provider calls are the sums over
them, and it is completed exactly when all of them are.
-/

namespace Kurobara.Application

open Kurobara.Kernel Kurobara.Persistence

/-! ## Stages -/

/-- Completed stages, at most one begun stage, and pending stages. -/
def InStageOrder : List GtmPlayRunStageReceipt → Prop
  | [] => True
  | stage :: later =>
      if stage.state = .completed then InStageOrder later
      else ∀ other ∈ later, other.state = .pending

/-- Stages numbered from one. -/
def StagesNumbered (stages : List GtmPlayRunStageReceipt) : Prop :=
  stages.map GtmPlayRunStageReceipt.ordinal = List.range' 1 stages.length

/-- Only a stage that is not completed and whose earlier stages are all completed changes. -/
structure StagesMove (before after : List GtmPlayRunStageReceipt) : Prop where
  length : after.length = before.length
  changed : ∀ (index : ℕ) (stage next : GtmPlayRunStageReceipt), before[index]? = some stage →
    after[index]? = some next → next ≠ stage → stage.state ≠ .completed ∧
      ∀ earlier < index, ∀ other : GtmPlayRunStageReceipt, before[earlier]? = some other →
        other.state = .completed

variable {stages done later : List GtmPlayRunStageReceipt}
  {current replacement : GtmPlayRunStageReceipt}

private theorem inStageOrder_append (completed : ∀ stage ∈ done, stage.state = .completed) :
    InStageOrder (done ++ stages) ↔ InStageOrder stages := by
  induction done with
  | nil => rfl
  | cons first done ih =>
      have here := completed first List.mem_cons_self
      simp only [List.cons_append, InStageOrder, here, ↓reduceIte]
      exact ih fun stage member => completed stage (List.mem_cons_of_mem _ member)

/-- Behind completed stages and one that is not, the rest must be pending. -/
theorem inStageOrder_split (completed : ∀ stage ∈ done, stage.state = .completed)
    (begun : current.state ≠ .completed) :
    InStageOrder (done ++ current :: later) ↔ ∀ stage ∈ later, stage.state = .pending := by
  rw [inStageOrder_append completed]
  simp only [InStageOrder, begun, ↓reduceIte]

theorem inStageOrder_pending (pending : ∀ stage ∈ stages, stage.state = .pending) :
    InStageOrder stages := by
  cases stages with
  | nil => trivial
  | cons first stages =>
      have here := pending first List.mem_cons_self
      simp only [InStageOrder, here, reduceCtorEq, ↓reduceIte]
      exact fun stage member => pending stage (List.mem_cons_of_mem _ member)

private theorem inStageOrder_replaced (completed : ∀ stage ∈ done, stage.state = .completed)
    (pending : ∀ stage ∈ later, stage.state = .pending) :
    InStageOrder (done ++ replacement :: later) := by
  rw [inStageOrder_append completed]
  by_cases finished : replacement.state = .completed
  · simp only [InStageOrder, finished, ↓reduceIte]
    exact inStageOrder_pending pending
  · simp only [InStageOrder, finished, ↓reduceIte]
    exact pending

/-- The current stage splits the stages into completed ones and the later ones. -/
theorem currentStage_eq_some (found : currentStage stages = some current) :
    current.state ≠ .completed ∧ ∃ done later, stages = done ++ current :: later ∧
      ∀ stage ∈ done, stage.state = .completed := by
  obtain ⟨here, done, later, rfl, before⟩ := List.find?_eq_some_iff_append.mp found
  refine ⟨by simpa using here, done, later, rfl, fun stage member => ?_⟩
  simpa using before stage member

/-- Under distinct ordinals only the stage of the same ordinal is replaced. -/
theorem replaceStage_split (numbered : StagesNumbered (done ++ current :: later))
    (same : replacement.ordinal = current.ordinal) :
    replaceStage (done ++ current :: later) replacement = done ++ replacement :: later := by
  have distinct : ((done ++ current :: later).map GtmPlayRunStageReceipt.ordinal).Nodup := by
    rw [numbered]
    exact List.nodup_range'
  rw [List.map_append, List.map_cons, List.nodup_middle, List.nodup_cons, ← List.map_append]
    at distinct
  have others : ∀ stage ∈ done ++ later, stage.ordinal ≠ replacement.ordinal := by
    intro stage member equal
    refine distinct.1 ?_
    rw [← same, ← equal]
    exact List.mem_map_of_mem member
  have kept : ∀ part : List GtmPlayRunStageReceipt, (∀ stage ∈ part, stage ∈ done ++ later) →
      replaceStage part replacement = part := by
    intro part inside
    refine (List.map_congr_left fun stage member => ?_).trans (List.map_id part)
    exact if_neg (others stage (inside stage member))
  have left := kept done fun stage member => List.mem_append_left _ member
  have right := kept later fun stage member => List.mem_append_right _ member
  unfold replaceStage at left right ⊢
  rw [List.map_append, List.map_cons, left, right, if_pos same.symm]

theorem stagesMove_refl (stages : List GtmPlayRunStageReceipt) : StagesMove stages stages where
  length := rfl
  changed index stage next found kept differs := by
    rw [found] at kept
    exact absurd (Option.some.inj kept).symm differs

private theorem stagesMove_split (completed : ∀ stage ∈ done, stage.state = .completed)
    (begun : current.state ≠ .completed) :
    StagesMove (done ++ current :: later) (done ++ replacement :: later) where
  length := by simp
  changed index stage next found after differs := by
    rcases Nat.lt_trichotomy index done.length with early | rfl | late
    · rw [List.getElem?_append_left early] at found after
      rw [found] at after
      exact absurd (Option.some.inj after).symm differs
    · rw [List.getElem?_append_right (Nat.le_refl _), Nat.sub_self,
        List.getElem?_cons_zero] at found
      refine ⟨by rw [← Option.some.inj found]; exact begun, ?_⟩
      intro earlier before other stored
      rw [List.getElem?_append_left before] at stored
      exact completed other (List.mem_of_getElem? stored)
    · obtain ⟨offset, rfl⟩ : ∃ offset, index = done.length + (offset + 1) :=
        ⟨index - done.length - 1, by omega⟩
      rw [List.getElem?_append_right (by omega), Nat.add_sub_cancel_left,
        List.getElem?_cons_succ] at found after
      rw [found] at after
      exact absurd (Option.some.inj after).symm differs

/-! ## Runs -/

/-- **What holds of every stored run.** -/
structure PlayRunInvariant (run : StoredGtmPlayRun) : Prop where
  numbered : StagesNumbered run.execution.stages
  operations : run.execution.stages.map GtmPlayRunStageReceipt.operationId =
    operationIds run.definition
  ordered : InStageOrder run.execution.stages
  projection : ∀ stage ∈ run.execution.stages, stage.operationId = "workbooks.project" →
    stage.state = .pending ∨ stage.state = .completed
  reserved : run.execution.cost.reserved =
    (run.execution.stages.map fun stage => stage.cost.reserved).sum
  spent : run.execution.cost.spent =
    (run.execution.stages.map fun stage => stage.cost.spent).sum
  providerCalls : run.execution.providerCalls =
    (run.execution.stages.map fun stage => stage.providerCalls).sum
  completed : run.state = .completed ↔
    ∀ stage ∈ run.execution.stages, stage.state = .completed

/-- The workbook is projected last, and by no earlier stage. -/
theorem operationIds_split (definition : GtmPlayDefinition) :
    ∃ earlier, operationIds definition = earlier ++ ["workbooks.project"] ∧
      "workbooks.project" ∉ earlier := by
  refine ⟨_, rfl, ?_⟩
  have enrichments : "workbooks.project" ∉ enrichmentOperationIds definition := by
    intro member
    have listed := List.mem_of_mem_filter member
    revert listed
    decide
  intro member
  rcases List.mem_append.mp member with source | enrichment
  · rw [sourceOperation] at source
    cases kind : isOrganizationSearch definition.source with
    | true => simp [kind] at source
    | false => simp [kind] at source
  · exact enrichments enrichment

/-- A run that a worker may claim. -/
def IsActive (run : StoredGtmPlayRun) : Prop :=
  run.state = .queued ∨ run.state = .running

/-- The later stages of a begun projection are none, and those of another begun stage end
with the projection, pending. -/
theorem PlayRunInvariant.projection_last {run : StoredGtmPlayRun}
    (invariant : PlayRunInvariant run)
    (split : run.execution.stages = done ++ current :: later)
    (pending : ∀ stage ∈ later, stage.state = .pending) :
    (current.operationId = "workbooks.project" ∧ later = []) ∨
      (current.operationId ≠ "workbooks.project" ∧ ∃ stage ∈ later, stage.state = .pending) := by
  obtain ⟨earlier, operations, absent⟩ := operationIds_split run.definition
  have listed := invariant.operations
  rw [split, operations, List.map_append, List.map_cons] at listed
  rcases later.eq_nil_or_concat' with rfl | ⟨before, last, rfl⟩
  · have last := (List.append_inj' listed rfl).2
    simp only [List.map_nil, List.cons.injEq, and_true] at last
    exact .inl ⟨last, rfl⟩
  · rw [List.map_append, List.map_cons, List.map_nil, ← List.cons_append, ← List.append_assoc]
      at listed
    have before := (List.append_inj' listed rfl).1
    refine .inr ⟨?_, last, by simp, pending last (by simp)⟩
    intro projects
    refine absent ?_
    rw [← before, ← projects]
    simp

variable {run : StoredGtmPlayRun}

/-- Storing an execution with the stages, the costs and the calls of the run keeps the
invariant, as long as the run is not reported completed. -/
theorem PlayRunInvariant.stopped (invariant : PlayRunInvariant run) (active : IsActive run)
    {after : StoredGtmPlayRun} (definition : after.definition = run.definition)
    {error : GtmPlayError} (execution : after.execution = terminalExecution run.execution error)
    (state : after.state ≠ .completed) : PlayRunInvariant after := by
  have stages : after.execution.stages = run.execution.stages := by rw [execution]; rfl
  have cost : after.execution.cost = run.execution.cost := by rw [execution]; rfl
  have calls : after.execution.providerCalls = run.execution.providerCalls := by
    rw [execution]
    rfl
  have unfinished : run.state ≠ .completed := by
    rcases active with queued | running
    · simp [queued]
    · simp [running]
  constructor
  · rw [stages]
    exact invariant.numbered
  · rw [stages, definition]
    exact invariant.operations
  · rw [stages]
    exact invariant.ordered
  · rw [stages]
    exact invariant.projection
  · rw [stages, cost]
    exact invariant.reserved
  · rw [stages, cost]
    exact invariant.spent
  · rw [stages, calls]
    exact invariant.providerCalls
  · rw [stages, ← invariant.completed]
    exact ⟨fun wrong => absurd wrong state, fun wrong => absurd wrong unfinished⟩

/-- The current stage of a run, between the completed stages and the later ones. -/
structure IsCurrent (run : StoredGtmPlayRun) (done : List GtmPlayRunStageReceipt)
    (current : GtmPlayRunStageReceipt) (later : List GtmPlayRunStageReceipt) : Prop where
  split : run.execution.stages = done ++ current :: later
  completed : ∀ stage ∈ done, stage.state = .completed
  begun : current.state ≠ .completed

theorem IsCurrent.replaceStage (isCurrent : IsCurrent run done current later)
    (invariant : PlayRunInvariant run) (same : replacement.ordinal = current.ordinal) :
    replaceStage run.execution.stages replacement = done ++ replacement :: later := by
  rw [isCurrent.split]
  exact replaceStage_split (isCurrent.split ▸ invariant.numbered) same

private theorem IsCurrent.stagesMove (isCurrent : IsCurrent run done current later) :
    StagesMove run.execution.stages (done ++ replacement :: later) := by
  rw [isCurrent.split]
  exact stagesMove_split isCurrent.completed isCurrent.begun

/-- Storing a replacement of the current stage with the sums over the stages keeps the
invariant, as long as completion is reported with the projection and only then. -/
theorem PlayRunInvariant.replaced (invariant : PlayRunInvariant run)
    (isCurrent : IsCurrent run done current later) (replacement : GtmPlayRunStageReceipt)
    (ordinal : replacement.ordinal = current.ordinal)
    (operation : replacement.operationId = current.operationId)
    {after : StoredGtmPlayRun} (definition : after.definition = run.definition)
    (stages : after.execution.stages = done ++ replacement :: later)
    (reserved : after.execution.cost.reserved =
      (after.execution.stages.map fun stage => stage.cost.reserved).sum)
    (spent : after.execution.cost.spent =
      (after.execution.stages.map fun stage => stage.cost.spent).sum)
    (calls : after.execution.providerCalls =
      (after.execution.stages.map fun stage => stage.providerCalls).sum)
    (projects : current.operationId = "workbooks.project" →
      replacement.state = .completed ∧ after.state = .completed)
    (generates : current.operationId ≠ "workbooks.project" → after.state ≠ .completed) :
    PlayRunInvariant after := by
  have split := isCurrent.split
  have completed := isCurrent.completed
  have pending := (inStageOrder_split completed isCurrent.begun).mp (split ▸ invariant.ordered)
  have last := invariant.projection_last split pending
  refine ⟨?_, ?_, ?_, ?_, reserved, spent, calls, ?_⟩
  · have numbered := invariant.numbered
    rw [split] at numbered
    rw [stages]
    simpa [StagesNumbered, ordinal] using numbered
  · have operations := invariant.operations
    rw [split] at operations
    rw [stages, definition, ← operations]
    simp [operation]
  · rw [stages]
    exact inStageOrder_replaced completed pending
  · rw [stages]
    intro stage member isProjection
    rcases List.mem_append.mp member with early | rest
    · exact .inr (completed stage early)
    · rcases List.mem_cons.mp rest with rfl | late
      · exact .inr (projects (operation ▸ isProjection)).1
      · exact .inl (pending stage late)
  · rw [stages]
    rcases last with ⟨isProjection, rfl⟩ | ⟨other, stage, member, waits⟩
    · refine ⟨fun _ stage member => ?_, fun _ => (projects isProjection).2⟩
      rcases List.mem_append.mp member with early | here
      · exact completed stage early
      · rw [List.mem_singleton.mp here]
        exact (projects isProjection).1
    · refine ⟨fun wrong => absurd wrong (generates other), fun all => ?_⟩
      have finished := all stage (List.mem_append_right _ (List.mem_cons_of_mem _ member))
      rw [waits] at finished
      cases finished

/-- A run as it is stored after some progress. -/
def progressedRun (run : StoredGtmPlayRun) (progress : PlayProgress) (nowMs : Instant) :
    StoredGtmPlayRun :=
  { run with
    state := progress.state
    execution := progress.execution
    revision := run.revision + 1
    updatedAtMs := nowMs }

/-- The progress of a run keeps its invariant and moves only its current stage. -/
structure Progresses (run : StoredGtmPlayRun) (progress : PlayProgress) : Prop where
  invariant : ∀ nowMs, PlayRunInvariant (progressedRun run progress nowMs)
  moves : StagesMove run.execution.stages progress.execution.stages

/-- Stopping an active run with an error is a progress of it. -/
theorem PlayRunInvariant.stops (invariant : PlayRunInvariant run) (active : IsActive run)
    (error : GtmPlayError) {state : GtmPlayRunState} (unfinished : state ≠ .completed) :
    Progresses run { execution := terminalExecution run.execution error, state := state } where
  invariant _ := invariant.stopped active rfl rfl unfinished
  moves := stagesMove_refl _

private theorem projectWorkbookStage_progresses (effects : PlayStageEffects)
    (invariant : PlayRunInvariant run) (active : IsActive run)
    (isCurrent : IsCurrent run done current later)
    (projects : current.operationId = "workbooks.project") :
    Progresses run (projectWorkbookStage effects run current run.execution) := by
  unfold projectWorkbookStage
  split
  · rename_i projected _
    have stages := isCurrent.replaceStage invariant
      (show (projectedStage current projected).ordinal = current.ordinal from rfl)
    constructor
    · intro nowMs
      exact invariant.replaced isCurrent (projectedStage current projected) rfl rfl rfl stages rfl
        rfl rfl (fun _ => ⟨rfl, rfl⟩) (fun other => absurd projects other)
    · change StagesMove _ (replaceStage _ _)
      rw [stages]
      exact isCurrent.stagesMove
  · exact invariant.stops active projectionError (by simp)

/-- Advancing a generation stage stores its snapshot, perhaps with an error, and never
completes the run. -/
theorem advanceGenerationStage_cases (effects : PlayStageEffects) (active : IsActive run)
    (current : GtmPlayRunStageReceipt) :
    let progress := advanceGenerationStage effects run current run.execution
    let captured := capturedExecution run.execution current
      (captureStageSnapshot effects run current)
    (progress.execution = captured ∨
      ∃ error, progress.execution = terminalExecution captured error) ∧
    progress.state ≠ .completed := by
  have continued : (if run.state = .queued then GtmPlayRunState.running else run.state) ≠
      .completed := by
    rcases active with queued | running
    · simp [queued]
    · simp [running]
  unfold advanceGenerationStage
  dsimp only
  split
  · exact ⟨.inr ⟨_, rfl⟩, by simp⟩
  · split
    · exact ⟨.inr ⟨_, rfl⟩, by simp [failureState, *]⟩
    · exact ⟨.inr ⟨_, rfl⟩, by simp [failureState, *]⟩
    · exact ⟨.inr ⟨_, rfl⟩, by simp [failureState, *]⟩
    · exact ⟨.inl rfl, continued⟩
    · exact ⟨.inl rfl, continued⟩

private theorem advanceGenerationStage_progresses (effects : PlayStageEffects)
    (invariant : PlayRunInvariant run) (active : IsActive run)
    (isCurrent : IsCurrent run done current later)
    (generates : current.operationId ≠ "workbooks.project") :
    Progresses run (advanceGenerationStage effects run current run.execution) := by
  obtain ⟨execution, state⟩ := advanceGenerationStage_cases effects active current
  have stages := isCurrent.replaceStage invariant
    (show (snapshotStage current (captureStageSnapshot effects run current)).ordinal =
      current.ordinal from rfl)
  have captured : (advanceGenerationStage effects run current run.execution).execution.stages =
      replaceStage run.execution.stages
        (snapshotStage current (captureStageSnapshot effects run current)) := by
    rcases execution with same | ⟨error, same⟩
    · rw [same]
      rfl
    · rw [same]
      rfl
  constructor
  · intro nowMs
    refine invariant.replaced isCurrent
      (snapshotStage current (captureStageSnapshot effects run current)) rfl rfl rfl
      (captured.trans stages) ?_ ?_ ?_ (fun wrong => absurd wrong generates) (fun _ => state)
    all_goals
      rcases execution with same | ⟨error, same⟩
      · rw [progressedRun, same]
        rfl
      · rw [progressedRun, same]
        rfl
  · rw [captured, stages]
    exact isCurrent.stagesMove

/-- **One advance** keeps the invariant of a run and moves only its current stage. -/
theorem advanceClaimedRun_progresses (effects : PlayStageEffects) (nowMs : Instant)
    (invariant : PlayRunInvariant run) (active : IsActive run) :
    Progresses run (advanceClaimedRun effects run nowMs) := by
  unfold advanceClaimedRun
  split
  · exact invariant.stops active deadlineError (by simp)
  · split
    · exact invariant.stops active checkpointError (by simp)
    · rename_i current found
      obtain ⟨begun, done, later, split, completed⟩ := currentStage_eq_some found
      have isCurrent : IsCurrent run done current later := ⟨split, completed, begun⟩
      split
      · rename_i projects
        simp only [Bool.and_eq_true, beq_iff_eq] at projects
        exact projectWorkbookStage_progresses effects invariant active isCurrent projects.1
      · rename_i other
        refine advanceGenerationStage_progresses effects invariant active isCurrent ?_
        intro isProjection
        rcases invariant.projection current (by simp [split]) isProjection with pending | finished
        · simp [isProjection, pending] at other
        · exact begun finished

end Kurobara.Application
