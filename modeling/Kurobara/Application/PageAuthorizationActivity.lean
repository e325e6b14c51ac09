import Kurobara.Application.GenerationActivity
import Kurobara.Application.PageAuthorizationAtomicity

/-! # One page and one Run for each page sequence

The pages of one generation and the Runs of its workspace under page authorizations by
anyone, in any order, next to Run creations from any stored plan, Run commands and every
transition of the generation and of its pages. A transaction that throws leaves no step.
-/

namespace Kurobara.Application

open Engine Foundation Kernel Persistence

/-- What every page transition keeps. -/
structure KeepsPageIdentity (before after : DatasetGenerationPage) : Prop where
  workspaceId : after.workspaceId = before.workspaceId
  generationId : after.generationId = before.generationId
  pageSequence : after.pageSequence = before.pageSequence
  runId : after.runId = before.runId
  runPlanId : after.runPlanId = before.runPlanId
  inputCursor : after.inputCursor = before.inputCursor
  inputId : after.inputId = before.inputId
  inputContentHash : after.inputContentHash = before.inputContentHash
  createdAt : after.createdAt = before.createdAt

/-- The transitions of a page aggregate. -/
inductive PageTransition (page moved : DatasetGenerationPage) : Prop where
  | start (input : StartDatasetGenerationPageInput)
      (accepted : startDatasetGenerationPage page input = .ok moved)
  | commit (input : CommitDatasetGenerationPageInput)
      (accepted : commitDatasetGenerationPage page input = .ok moved)
  | fail (accepted : markDatasetGenerationPageFailed page = .ok moved)
  | markAmbiguous (accepted : markDatasetGenerationPageAmbiguous page = .ok moved)

theorem PageTransition.keepsIdentity {page moved : DatasetGenerationPage}
    (transition : PageTransition page moved) : KeepsPageIdentity page moved := by
  cases transition with
  | start input accepted =>
      obtain ⟨rfl, _⟩ := pageTransition_ok.mp accepted
      exact ⟨rfl, rfl, rfl, rfl, rfl, rfl, rfl, rfl, rfl⟩
  | commit input accepted =>
      obtain ⟨rfl, _⟩ := pageTransition_ok.mp accepted
      exact ⟨rfl, rfl, rfl, rfl, rfl, rfl, rfl, rfl, rfl⟩
  | fail accepted =>
      obtain ⟨rfl, _⟩ := pageTransition_ok.mp accepted
      exact ⟨rfl, rfl, rfl, rfl, rfl, rfl, rfl, rfl, rfl⟩
  | markAmbiguous accepted =>
      obtain ⟨rfl, _⟩ := pageTransition_ok.mp accepted
      exact ⟨rfl, rfl, rfl, rfl, rfl, rfl, rfl, rfl, rfl⟩

theorem PageTransition.valid {page moved : DatasetGenerationPage}
    (transition : PageTransition page moved) : pageIsValid moved = true := by
  cases transition with
  | start input accepted =>
      obtain ⟨rfl, _, _, valid⟩ := pageTransition_ok.mp accepted
      exact valid
  | commit input accepted =>
      obtain ⟨rfl, _, _, valid⟩ := pageTransition_ok.mp accepted
      exact valid
  | fail accepted =>
      obtain ⟨rfl, _, _, valid⟩ := pageTransition_ok.mp accepted
      exact valid
  | markAmbiguous accepted =>
      obtain ⟨rfl, _, _, valid⟩ := pageTransition_ok.mp accepted
      exact valid

/-- A transaction on the rows of one generation. -/
inductive PageAuthorizationLabel where
  | authorizePage (request : AuthorizePageRequest) (result : AuthorizePageResult)
  | createRun (input : CreateRunInUnitOfWorkInput) (result : CreateRunResult)
  | storeRunPlan (runPlanId : RunPlanId)
  | runCommand (run : Run) (command : RunCommand)
  | moveGeneration
  | movePage

section System

variable {Value : Type}

namespace PageCreationRows

variable (rows : PageCreationRows Value)

private def withCreation (creation : RunCreationRows Value) : PageCreationRows Value :=
  { rows with creation := creation }

/-- The rows with other generation rows under the same Run creations. -/
def withGeneration (generation : GenerationRows) : PageCreationRows Value :=
  { rows with generation := generation }

private def withRuns (runs : RunRows) : PageCreationRows Value :=
  rows.withCreation { rows.creation with runs := runs }

end PageCreationRows

/-- What a transaction of each kind does to the rows. -/
inductive PageAuthorizationStep [DecidableEq Value] (canonical : PageCanonicalization Value)
    (before : PageCreationRows Value) :
    PageAuthorizationLabel → PageCreationRows Value → Prop where
  | authorizePage (request : AuthorizePageRequest) (identifiers : RunIdentifiers) (now : Instant)
      (result : AuthorizePageResult) (after : PageCreationRows Value)
      (named : request.generationId = before.generation.creation.generation.generationId)
      (authorized : authorizePage ⟨canonical, identifiers, now⟩ before request =
        .ok (result, after)) :
      PageAuthorizationStep canonical before (.authorizePage request result) after
  | createRun (input : CreateRunInUnitOfWorkInput) (result : CreateRunResult)
      (after : RunCreationRows Value)
      (created : createRunInUnitOfWork before.creation input = .ok (result, after)) :
      PageAuthorizationStep canonical before (.createRun input result) (before.withCreation after)
  | storeRunPlan (draft : RunPlanDraft) (after : RunCreationRows Value)
      (stored : before.creation.insertRunPlan (draft.withHash (canonical.runPlanHash draft)) =
        .ok after) :
      PageAuthorizationStep canonical before (.storeRunPlan draft.runPlanId)
        (before.withCreation after)
  | runCommand (run : Run) (command : RunCommand) (context : RunCommandContext)
      (transition : RunTransition) (found : before.creation.runs.findRun run.runId = some run)
      (accepted : applyRunCommand run command context = .ok transition) :
      PageAuthorizationStep canonical before (.runCommand run command)
        (before.withRuns
          (runCommandRows before.creation.runs run command context.commandIdentity transition))
  | moveGeneration (plan : DatasetGenerationPlan) (operation : DatasetGenerationOperation)
      (creation : DatasetGenerationCreation)
      (accepted : applyDatasetGenerationOperation before.generation.creation plan operation =
        .ok creation) :
      PageAuthorizationStep canonical before .moveGeneration
        (before.withGeneration (before.generation.updateGeneration creation))
  | movePage (page moved : DatasetGenerationPage)
      (loaded : before.generation.loadPage page.pageSequence = some page)
      (transition : PageTransition page moved) :
      PageAuthorizationStep canonical before .movePage
        (before.withGeneration (before.generation.updatePage moved))

/-! ## The invariant -/

/-- What a Run keeps through all its commands. -/
structure RunIdentity where
  runId : RunId
  idempotencyKey : IdempotencyKey
  runPlanId : RunPlanId
  intentionHash : ContentHash
  deriving DecidableEq, Repr

private def runIdentity (run : Run) : RunIdentity :=
  ⟨run.runId, run.idempotencyKey, run.runPlanId, run.intentionHash⟩

/-- The identities of the stored Runs, in creation order. -/
def runIdentities (runs : RunRows) : List RunIdentity :=
  runs.runs.map runIdentity

/-- The Run that a consumption names. -/
def consumingRun (record : RunCreationRecord) : RunIdentity :=
  ⟨record.run.runId, record.idempotencyKey, record.run.runPlanId, record.intentionHash⟩

/-- Runs are unique by identity and by key, each was created from a plan with its hash, and
a consumed plan has the Run that consumed it. -/
structure RunsAreUnique (canonical : PageCanonicalization Value)
    (creation : RunCreationRows Value) : Prop where
  runIds : ((runIdentities creation.runs).map RunIdentity.runId).Nodup
  keys : ((runIdentities creation.runs).map RunIdentity.idempotencyKey).Nodup
  plans : ∀ stored ∈ creation.runPlans,
    ∃ draft : RunPlanDraft, stored.plan = draft.withHash (canonical.runPlanHash draft)
  intentions : ∀ identity ∈ runIdentities creation.runs, ∃ draft : RunPlanDraft,
    identity.runPlanId = draft.runPlanId ∧ identity.intentionHash = canonical.runPlanHash draft
  consumed : ∀ stored ∈ creation.runPlans, ∀ record, stored.consumedBy = some record →
    consumingRun record ∈ runIdentities creation.runs

/-- A page of the stored generation whose Run has the key of the page. -/
structure PageHasRun (rows : PageCreationRows Value) (page : DatasetGenerationPage) : Prop where
  generation : page.generationId = rows.generation.creation.generation.generationId
  positive : 0 < page.pageSequence
  workspace : ∀ plan, rows.generation.storedPlan = some plan → page.workspaceId = plan.workspaceId
  run : ∃ intentionHash, ⟨page.runId, creationKey page.generationId page.pageSequence,
    page.runPlanId, intentionHash⟩ ∈ runIdentities rows.creation.runs

/-- Every stored page names a stored Run, and no two Runs share an identity. -/
structure PagesHaveRuns (canonical : PageCanonicalization Value) (rows : PageCreationRows Value) :
    Prop where
  runs : RunsAreUnique canonical rows.creation
  sequences : (rows.generation.pages.map DatasetGenerationPage.pageSequence).Nodup
  valid : ∀ page ∈ rows.generation.pages, pageIsValid page = true
  pages : ∀ page ∈ rows.generation.pages, PageHasRun rows page

/-- A generation without pages, next to any Runs of the workspace. -/
def pageAuthorizationSystem [DecidableEq Value] (canonical : PageCanonicalization Value) :
    TransitionSystem (PageCreationRows Value) PageAuthorizationLabel where
  initial rows := rows.generation.pages = [] ∧ RunsAreUnique canonical rows.creation
  step := PageAuthorizationStep canonical

/-! ## Run creation keeps the Runs unique -/

variable {canonical : PageCanonicalization Value} {creation after : RunCreationRows Value}

private theorem findCreation_identity {key : IdempotencyKey} {record : RunCreationRecord}
    (found : creation.findCreation key = some record) :
    consumingRun record ∈ runIdentities creation.runs ∧ record.idempotencyKey = key := by
  obtain ⟨run, runEq, rfl⟩ := Option.map_eq_some_iff.mp found
  have matched := List.find?_some runEq
  exact ⟨List.mem_map_of_mem (List.mem_of_find?_eq_some runEq),
    by simpa [runCreationRecord] using matched⟩

private theorem getRunPlan_mem {runPlanId : RunPlanId} {stored : StoredRunPlan}
    (found : creation.getRunPlan runPlanId = some stored) :
    stored ∈ creation.runPlans ∧ stored.plan.runPlanId = runPlanId :=
  ⟨List.mem_of_find?_eq_some found, by simpa using List.find?_some found⟩

namespace RunsAreUnique

theorem insertRunPlan (unique : RunsAreUnique canonical creation) {draft : RunPlanDraft}
    (inserted : creation.insertRunPlan (draft.withHash (canonical.runPlanHash draft)) = .ok after) :
    RunsAreUnique canonical after := by
  rcases RunCreationRows.insertRunPlan_ok inserted with ⟨_, rfl⟩ | ⟨_, _, _, rfl⟩
  · refine ⟨unique.runIds, unique.keys, ?_, unique.intentions, ?_⟩
    · intro stored member
      rcases List.mem_append.mp member with known | added
      · exact unique.plans stored known
      · rw [List.mem_singleton.mp added]
        exact ⟨draft, rfl⟩
    · intro stored member record consumedBy
      rcases List.mem_append.mp member with known | added
      · exact unique.consumed stored known record consumedBy
      · rw [List.mem_singleton.mp added] at consumedBy
        cases consumedBy
  · exact unique

theorem insertRunInput [DecidableEq Value] (unique : RunsAreUnique canonical creation)
    {plan : RunPlan} {input : ValidatedRunInput Value}
    (inserted : creation.insertRunInput plan input = .ok after) :
    RunsAreUnique canonical after := by
  rcases RunCreationRows.insertRunInput_ok inserted with rfl | rfl
  · exact ⟨unique.runIds, unique.keys, unique.plans, unique.intentions, unique.consumed⟩
  · exact unique

/-- The Run that a creation answers with is stored under its key, and was created from the
plan with the hash of the command. -/
structure AnswersWithRun (canonical : PageCanonicalization Value)
    (creation after : RunCreationRows Value) (input : CreateRunInUnitOfWorkInput) (run : Run) :
    Prop where
  unique : RunsAreUnique canonical after
  keeps : runIdentities creation.runs ⊆ runIdentities after.runs
  stored : ⟨run.runId, input.command.idempotencyKey, run.runPlanId, input.command.intentionHash⟩ ∈
    runIdentities after.runs

theorem created [DecidableEq Value] (unique : RunsAreUnique canonical creation)
    {input : CreateRunInUnitOfWorkInput} {run : Run}
    (effect : CreationEffect creation input run after) :
    AnswersWithRun canonical creation after input run := by
  cases effect with
  | replayed record same runEq intended known =>
      subst same runEq
      refine ⟨unique, List.Subset.refl _, ?_⟩
      rw [← intended]
      rcases known with byKey | ⟨stored, found, consumedBy, sameKey⟩
      · obtain ⟨member, sameKey⟩ := findCreation_identity byKey
        rw [← sameKey]
        exact member
      · rw [← sameKey]
        exact unique.consumed stored (getRunPlan_mem found).1 record consumedBy
  | created stored found intended unused runEq persisted =>
      obtain ⟨rfl, runUnused, keyUnused⟩ := persistRunCreation_ok persisted
      obtain ⟨member, named⟩ := getRunPlan_mem found
      obtain ⟨draft, sealed⟩ := unique.plans stored member
      subst runEq
      have identities : runIdentities (recordRunCreation creation input stored.plan
          ⟨queuedRun (createRunInput input stored.plan),
            runQueuedEvent (createRunInput input stored.plan)⟩).runs =
          runIdentities creation.runs ++ [⟨input.identifiers.nextRunId,
            input.command.idempotencyKey, stored.plan.runPlanId, input.command.intentionHash⟩] := by
        simp [runIdentities, recordRunCreation, RunRows.insertRun, runIdentity, queuedRun,
          createRunInput]
      have answered : (⟨input.identifiers.nextRunId, input.command.idempotencyKey,
          stored.plan.runPlanId, input.command.intentionHash⟩ : RunIdentity) ∈
          runIdentities (recordRunCreation creation input stored.plan
            ⟨queuedRun (createRunInput input stored.plan),
              runQueuedEvent (createRunInput input stored.plan)⟩).runs := by
        rw [identities]
        exact List.mem_append_right _ (List.mem_singleton.mpr rfl)
      refine ⟨⟨?_, ?_, ?_, ?_, ?_⟩, ?_, answered⟩
      · rw [identities, List.map_append]
        refine List.Nodup.append unique.runIds (List.nodup_singleton _) ?_
        intro runId known added
        obtain ⟨run, runMember, rfl⟩ : ∃ run ∈ creation.runs.runs, run.runId = runId := by
          simpa [runIdentities, runIdentity] using known
        have same : run.runId = input.identifiers.nextRunId := by simpa using added
        exact absurd (List.find?_eq_none.mp runUnused run runMember) (by simp [same, queuedRun,
          createRunInput])
      · rw [identities, List.map_append]
        refine List.Nodup.append unique.keys (List.nodup_singleton _) ?_
        intro key known added
        obtain ⟨run, runMember, rfl⟩ : ∃ run ∈ creation.runs.runs, run.idempotencyKey = key := by
          simpa [runIdentities, runIdentity] using known
        have same : run.idempotencyKey = input.command.idempotencyKey := by simpa using added
        exact absurd (List.find?_eq_none.mp keyUnused run runMember) (by simp [same, queuedRun,
          createRunInput])
      · intro known knownMember
        obtain ⟨before, beforeMember, rfl⟩ := List.mem_map.mp knownMember
        split
        · exact unique.plans before beforeMember
        · exact unique.plans before beforeMember
      · intro identity identityMember
        rw [identities] at identityMember
        rcases List.mem_append.mp identityMember with known | added
        · exact unique.intentions identity known
        · rw [List.mem_singleton.mp added]
          refine ⟨draft, congrArg RunPlan.runPlanId sealed, ?_⟩
          rw [← intended]
          exact congrArg RunPlan.planHash sealed
      · intro known knownMember record consumedBy
        obtain ⟨before, beforeMember, rfl⟩ := List.mem_map.mp knownMember
        split at consumedBy
        · cases consumedBy
          exact answered
        · rw [identities]
          exact List.mem_append_left _ (unique.consumed before beforeMember record consumedBy)
      · rw [identities]
        exact List.subset_append_left _ _

/-- A Run command keeps what identifies the Runs. -/
theorem runCommand_identities (unique : RunsAreUnique canonical creation) {run : Run}
    {command : RunCommand}
    {context : RunCommandContext} {transition : RunTransition}
    (found : creation.runs.findRun run.runId = some run)
    (accepted : applyRunCommand run command context = .ok transition) :
    runIdentities (runCommandRows creation.runs run command context.commandIdentity transition) =
      runIdentities creation.runs := by
  have moved : runIdentity transition.run = runIdentity run := by
    rcases applyRunCommand_ok accepted with ⟨rfl, _⟩ | ⟨_, _, planned, _, _, rfl⟩ <;> rfl
  unfold runCommandRows
  split
  · rfl
  · simp only [runIdentities, RunRows.recordRunTransition, RunRows.updateRun, List.map_map]
    refine List.map_congr_left fun known member => ?_
    by_cases same : known.runId = run.runId
    · have runIds := unique.runIds
      rw [runIdentities, List.map_map] at runIds
      have sameRun := List.inj_on_of_nodup_map runIds member (RunRows.findRun_mem found) same
      have identified : transition.run.runId = run.runId := congrArg RunIdentity.runId moved
      simp [identified, moved, sameRun]
    · have identified : transition.run.runId = run.runId := congrArg RunIdentity.runId moved
      simp [same, identified]

/-- The creation rows of a Run command keep all but the Runs' states. -/
theorem withRuns (unique : RunsAreUnique canonical creation) {runs : RunRows}
    (same : runIdentities runs = runIdentities creation.runs) :
    RunsAreUnique canonical { creation with runs := runs } := by
  refine ⟨?_, ?_, unique.plans, ?_, ?_⟩
  · rw [same]
    exact unique.runIds
  · rw [same]
    exact unique.keys
  · rw [same]
    exact unique.intentions
  · rw [same]
    exact unique.consumed

/-- The only Run of a key is the one that is found by it. -/
theorem findByIdempotencyKey (unique : RunsAreUnique canonical creation) {identity : RunIdentity}
    (member : identity ∈ runIdentities creation.runs) :
    ∃ run, creation.runs.findByIdempotencyKey identity.idempotencyKey = some run ∧
      runIdentity run = identity := by
  obtain ⟨run, runMember, rfl⟩ := List.mem_map.mp member
  cases found : creation.runs.findByIdempotencyKey (runIdentity run).idempotencyKey with
  | none => exact absurd (List.find?_eq_none.mp found run runMember) (by simp [runIdentity])
  | some known =>
      have knownMember := List.mem_of_find?_eq_some found
      have sameKey : known.idempotencyKey = run.idempotencyKey := by
        simpa [runIdentity] using List.find?_some found
      have keys := unique.keys
      rw [runIdentities, List.map_map] at keys
      have same := List.inj_on_of_nodup_map keys knownMember runMember sameKey
      exact ⟨known, rfl, congrArg runIdentity same⟩

/-- A key has as many Runs as identities. -/
theorem countP_key (unique : RunsAreUnique canonical creation) {identity : RunIdentity}
    (member : identity ∈ runIdentities creation.runs) :
    creation.runs.runs.countP (·.idempotencyKey == identity.idempotencyKey) = 1 := by
  have once := List.count_eq_one_of_mem unique.keys
    (List.mem_map_of_mem (f := RunIdentity.idempotencyKey) member)
  rw [List.count, runIdentities, List.map_map, List.countP_map] at once
  exact once

end RunsAreUnique

/-! ## What an authorization leaves -/

/-- What a page authorization leaves: the rows as they were, or what a refused page left
of its plan and Run, or a page of a Run that has its key. -/
inductive PageAuthorizationEffect (canonical : PageCanonicalization Value)
    (before after : PageCreationRows Value) : AuthorizePageResult → Prop where
  | unchanged (result : AuthorizePageResult) (same : after = before)
      (replayed : ∀ success, result = .ok success →
        success.replayed = true ∧ success.page ∈ before.generation.pages) :
      PageAuthorizationEffect canonical before after result
  | refused (failure : AuthorizePageFailure) (creation : RunCreationRows Value)
      (unique : RunsAreUnique canonical creation)
      (keeps : runIdentities before.creation.runs ⊆ runIdentities creation.runs)
      (left : after = before.withCreation creation) :
      PageAuthorizationEffect canonical before after (.error failure)
  | created (page : DatasetGenerationPage) (creation : RunCreationRows Value)
      (unique : RunsAreUnique canonical creation)
      (keeps : runIdentities before.creation.runs ⊆ runIdentities creation.runs)
      (absent : before.generation.loadPage page.pageSequence = none)
      (valid : pageIsValid page = true)
      (left : after = ⟨before.generation.insertPage page, creation⟩)
      (hasRun : PageHasRun after page) :
      PageAuthorizationEffect canonical before after (.ok ⟨page, false⟩)

section Effect

variable {environment : PageAuthorizationEnvironment Value}
  {before : PageCreationRows Value} {request : AuthorizePageRequest}
  {plan : DatasetGenerationPlan} {inputCursor : Option String} {planned : PlannedPageRun Value}

/-- Storing the plan and the input of a planned page keeps the Runs unique. -/
theorem RunsAreUnique.storePlannedRun [DecidableEq Value]
    (unique : RunsAreUnique environment.canonical before.creation)
    (page : PageIsPlanned environment before request plan inputCursor planned)
    {stored : RunCreationRows Value}
    (accepted : storePlannedRun before.creation planned = .ok stored) :
    RunsAreUnique environment.canonical stored := by
  obtain ⟨_, draft, _, _, runPlan⟩ := page.prepared.draft
  unfold Application.storePlannedRun at accepted
  split at accepted
  · cases accepted
  rename_i inserted insertedEq
  rw [runPlan] at insertedEq
  exact (unique.insertRunPlan insertedEq).insertRunInput accepted

/-- The Run that answers a page is a Run of the page's plan. -/
theorem AnswersWithRun.runPlanId {stored after : RunCreationRows Value} {run : Run}
    (page : PageIsPlanned environment before request plan inputCursor planned)
    (answers : RunsAreUnique.AnswersWithRun environment.canonical stored after
      (pageRunCreation environment request (nextPageSequence before) planned) run) :
    run.runPlanId = planned.runPlan.runPlanId := by
  obtain ⟨_, draft, _, _, runPlan⟩ := page.prepared.draft
  obtain ⟨source, sameId, sameHash⟩ := answers.unique.intentions _ answers.stored
  have hashes : environment.canonical.runPlanHash source =
      environment.canonical.runPlanHash draft := by
    rw [← sameHash]
    exact congrArg RunPlan.planHash runPlan
  calc run.runPlanId = source.runPlanId := sameId
    _ = draft.runPlanId := environment.canonical.runPlanHash_identity _ _ hashes
    _ = planned.runPlan.runPlanId := (congrArg RunPlan.runPlanId runPlan).symm

private theorem persistPageRun_effect [DecidableEq Value]
    (unique : RunsAreUnique environment.canonical before.creation)
    (named : request.generationId = before.generation.creation.generation.generationId)
    (page : PageIsPlanned environment before request plan inputCursor planned)
    {stored : RunCreationRows Value}
    (accepted : storePlannedRun before.creation planned = .ok stored)
    {result : AuthorizePageResult} {after : PageCreationRows Value}
    (persisted : persistPageRun environment before request (nextPageSequence before) inputCursor
      planned stored = .ok (result, after)) :
    PageAuthorizationEffect environment.canonical before after result := by
  have stores := storePlannedRun_ok accepted
  have kept : runIdentities before.creation.runs ⊆ runIdentities stored.runs := by
    rw [stores.runs]
    exact List.Subset.refl _
  have storedUnique := unique.storePlannedRun page accepted
  unfold persistPageRun at persisted
  split at persisted
  · cases persisted
  · rename_i failure creation refused
    cases persisted
    obtain rfl := createRunInUnitOfWork_refused refused
    exact .refused _ _ storedUnique kept rfl
  · rename_i success creation created
    have answers := storedUnique.created (createRunInUnitOfWork_ok created)
    have keeps := List.Subset.trans kept answers.keeps
    split at persisted
    · cases persisted
      exact .refused _ _ answers.unique keeps rfl
    · rename_i result validated
      cases persisted
      obtain ⟨rfl, valid⟩ := validateDatasetGenerationPageSnapshot_ok.mp validated
      obtain ⟨storedPlan, _, caller, _⟩ := authorizingPlan_ok page.authorizing
      refine .created _ _ answers.unique keeps page.absent valid rfl ⟨named, ?_, ?_, ?_⟩
      · exact page.sequence_safe.2
      · intro other otherStored
        have same : some other = some plan := otherStored.symm.trans storedPlan
        cases same
        exact (validateCallerAuthorization_ok caller).1
      · refine ⟨planned.runPlan.planHash, ?_⟩
        have stored := answers.stored
        rw [AnswersWithRun.runPlanId page answers] at stored
        exact stored

/-- **What one authorization leaves.** -/
theorem authorizePage_effect [DecidableEq Value]
    (unique : RunsAreUnique environment.canonical before.creation)
    (named : request.generationId = before.generation.creation.generation.generationId)
    {result : AuthorizePageResult} {after : PageCreationRows Value}
    (authorized : authorizePage environment before request = .ok (result, after)) :
    PageAuthorizationEffect environment.canonical before after result := by
  rcases authorizePage_ok authorized with ⟨same, replayed⟩ | ⟨plan, inputCursor, planned, stored,
    page, accepted, persisted⟩
  · exact .unchanged _ same replayed
  · exact persistPageRun_effect unique named page accepted persisted

/-! ## The authorization over the generation and the Runs alone -/

/-- The preparation of a page Run from stored plans and inputs. An exception is no answer, so
any failure stands for it. -/
def pageRunPreparation [DecidableEq Value] (canonical : PageCanonicalization Value)
    (identifiers : RunIdentifiers) (creation : RunCreationRows Value) : PageRunPreparation :=
  fun request now plan generation pageSequence inputCursor runs =>
    match preparePageRun canonical request.generationId plan generation pageSequence inputCursor
      request.actorPermissions now with
    | .error failure => .error failure
    | .ok planned =>
    match storePlannedRun { creation with runs := runs } planned with
    | .error _ => .error ⟨.runCreationRejected, "", none⟩
    | .ok stored =>
    match createRunInUnitOfWork stored
      (pageRunCreation ⟨canonical, identifiers, now⟩ request pageSequence planned) with
    | .error _ => .error ⟨.runCreationRejected, "", none⟩
    | .ok (.error failure, _) => .error (mapRunFailure failure)
    | .ok (.ok success, _) =>
        .ok ⟨success.run, planned.validatedInput.contentHash, planned.validatedInput.inputId⟩

/-- The Run of a page is stored, or stays as it is stored. -/
theorem storePageRun_created [DecidableEq Value] {canonical : PageCanonicalization Value}
    {stored after : RunCreationRows Value} (unique : RunsAreUnique canonical stored)
    {input : CreateRunInUnitOfWorkInput} {run : Run}
    (effect : CreationEffect stored input run after) :
    after.runs = storePageRun stored.runs run := by
  have answers := unique.created effect
  cases effect with
  | replayed record same runEq intended known =>
      subst same
      obtain ⟨known, member, identity⟩ := List.mem_map.mp answers.stored
      have found : (after.runs.findRun run.runId).isSome = true := by
        rw [RunRows.findRun, List.find?_isSome]
        exact ⟨known, member, beq_iff_eq.mpr (congrArg RunIdentity.runId identity)⟩
      rw [storePageRun, if_pos found]
  | created plan found intended unused runEq persisted =>
      obtain ⟨rfl, runUnused, _⟩ := persistRunCreation_ok persisted
      have absent : ¬ (stored.runs.findRun run.runId).isSome = true := by
        rw [runUnused]
        simp
      rw [storePageRun, if_neg absent]
      rfl

/-- A page Run that is stored, as the generation and the Runs show it. -/
theorem persistFreshPage_prepared [DecidableEq Value]
    (unique : RunsAreUnique environment.canonical before.creation)
    (page : PageIsPlanned environment before request plan inputCursor planned)
    {stored : RunCreationRows Value}
    (accepted : storePlannedRun before.creation planned = .ok stored)
    {result : AuthorizePageResult} {after : PageCreationRows Value}
    (persisted : persistPageRun environment before request (nextPageSequence before) inputCursor
      planned stored = .ok (result, after)) :
    persistFreshPage (pageRunPreparation environment.canonical environment.identifiers
        before.creation) before.pageRows request environment.now plan (nextPageSequence before)
        inputCursor = (result, after.pageRows) := by
  have runs := (storePlannedRun_ok accepted).runs
  have storedUnique := unique.storePlannedRun page accepted
  have plannedEq : preparePageRun environment.canonical request.generationId plan
      before.pageRows.generation.creation (nextPageSequence before) inputCursor
      request.actorPermissions environment.now = .ok planned := page.planned
  have storedEq : storePlannedRun { before.creation with runs := before.pageRows.runs } planned =
      .ok stored := accepted
  have admitted : validateAuthorization request plan before.pageRows.generation.creation
      environment.now = .ok () := page.admitted
  unfold persistPageRun at persisted
  unfold persistFreshPage
  simp only [admitted, pageRunPreparation, plannedEq, storedEq]
  split at persisted
  · cases persisted
  · rename_i failure creation refused
    cases persisted
    obtain rfl := createRunInUnitOfWork_refused refused
    rw [refused]
    exact congrArg (Prod.mk _) (congrArg (PageRows.mk _) runs.symm)
  · rename_i success creation created
    have effect := createRunInUnitOfWork_ok created
    have runPlanId := AnswersWithRun.runPlanId page (storedUnique.created effect)
    have storedRuns : creation.runs = storePageRun before.pageRows.runs success.run := by
      rw [storePageRun_created storedUnique effect, runs]
      rfl
    have samePage : newPage request environment.now ⟨success.run,
        planned.validatedInput.contentHash, planned.validatedInput.inputId⟩
          (nextPageSequence before) inputCursor =
        createdPage environment request (nextPageSequence before) inputCursor planned
          success.run := by
      rw [createdPage, newPage, runPlanId]
    rw [created]
    dsimp only
    rw [samePage, ← storedRuns]
    cases validated : validateDatasetGenerationPageSnapshot (createdPage environment request
        (nextPageSequence before) inputCursor planned success.run) with
    | error failure =>
        simp only [validated] at persisted
        cases persisted
        rfl
    | ok page =>
        simp only [validated] at persisted
        cases persisted
        rfl

private theorem authorizeInUnitOfWork_refused (preparation : PageRunPreparation) (now : Instant)
    {failure : AuthorizePageFailure} (refused : authorizingPlan before request = .error failure) :
    authorizeInUnitOfWork preparation before.pageRows request now =
      (.error failure, before.pageRows) := by
  unfold authorizingPlan at refused
  unfold authorizeInUnitOfWork
  have generation : before.pageRows.generation = before.generation := rfl
  rw [generation]
  cases stored : before.generation.storedPlan with
  | none =>
      simp only [stored] at refused
      cases refused
      rfl
  | some plan =>
  simp only [stored] at refused ⊢
  cases validated : validateDatasetGenerationSnapshot before.generation.creation plan with
  | error failure =>
      simp only [validated] at refused
      cases refused
      rfl
  | ok valid =>
  simp only [validated] at refused ⊢
  cases caller : validateCallerAuthorization request plan with
  | error failure =>
      simp only [caller] at refused
      cases refused
      rfl
  | ok admitted =>
  simp only [caller] at refused ⊢
  split at refused
  · rename_i terminal
    cases refused
    rw [if_pos terminal]
  · cases refused

/-- An admitted caller is answered with the stored page of the sequence. -/
theorem authorizeInUnitOfWork_replayed (preparation : PageRunPreparation) (now : Instant)
    (authorizing : authorizingPlan before request = .ok plan) {prior : DatasetGenerationPage}
    (loaded : before.generation.loadPage (nextPageSequence before) = some prior) :
    authorizeInUnitOfWork preparation before.pageRows request now =
      (replayPriorPage before.pageRows request prior, before.pageRows) := by
  obtain ⟨stored, valid, caller, active⟩ := authorizingPlan_ok authorizing
  have storedPlan : before.pageRows.generation.storedPlan = some plan := stored
  have snapshot : SnapshotValid before.pageRows.generation.creation plan := valid
  have running : generationIsTerminal before.pageRows.generation.creation.generation.state =
      false := active
  have known : before.pageRows.generation.loadPage
      (before.pageRows.generation.creation.generation.counters.pages + 1) = some prior := loaded
  unfold authorizeInUnitOfWork
  simp only [storedPlan, snapshot.validate, caller, running, Bool.false_eq_true, if_false, known]

/-- What precedes a new page is checked alike. -/
theorem authorizeNextPage_refused (preparation : PageRunPreparation) (now : Instant)
    {nextSequence : ℤ} {failure : AuthorizePageFailure}
    (refused : freshPage before nextSequence = .error failure) :
    authorizeNextPage preparation before.pageRows request now plan nextSequence =
      (.error failure, before.pageRows) := by
  unfold freshPage at refused
  unfold authorizeNextPage
  have generation : before.pageRows.generation = before.generation := rfl
  rw [generation]
  dsimp only at refused
  split at refused
  · rename_i first
    rw [if_pos first]
    split at refused
    · cases refused
    · rename_i started
      cases refused
      rw [if_neg started]
  · rename_i later
    rw [if_neg later]
    cases left : predecessorCursor before.pageRows nextSequence with
    | some cursor =>
        simp only [left] at refused ⊢
        split at refused
        · cases refused
        · rename_i stopped
          cases refused
          rw [if_neg stopped]
          rfl
    | none =>
        simp only [left] at refused
        cases refused
        rfl

private theorem authorizeNextPage_fresh (preparation : PageRunPreparation) (now : Instant)
    {nextSequence : ℤ} (fresh : freshPage before nextSequence = .ok inputCursor) :
    authorizeNextPage preparation before.pageRows request now plan nextSequence =
      persistFreshPage preparation before.pageRows request now plan nextSequence inputCursor := by
  unfold freshPage at fresh
  unfold authorizeNextPage
  have generation : before.pageRows.generation = before.generation := rfl
  rw [generation]
  dsimp only at fresh
  split at fresh
  · rename_i first
    rw [if_pos first]
    split at fresh
    · rename_i planned
      cases fresh
      rw [if_pos planned, first]
    · cases fresh
  · rename_i later
    rw [if_neg later]
    cases left : predecessorCursor before.pageRows nextSequence with
    | some cursor =>
        simp only [left] at fresh ⊢
        split at fresh
        · rename_i running
          cases fresh
          rw [if_pos running]
        · cases fresh
    | none =>
        simp only [left] at fresh
        cases fresh

/-- **Page authorization over all its rows answers and leaves the generation, its pages and
its Runs as the authorization over these rows does.** -/
theorem authorizePage_inUnitOfWork [DecidableEq Value]
    (unique : RunsAreUnique environment.canonical before.creation)
    {result : AuthorizePageResult} {after : PageCreationRows Value}
    (authorized : authorizePage environment before request = .ok (result, after)) :
    authorizeInUnitOfWork (pageRunPreparation environment.canonical environment.identifiers
        before.creation) before.pageRows request environment.now = (result, after.pageRows) := by
  unfold authorizePage at authorized
  split at authorized
  · rename_i failure refused
    cases authorized
    exact authorizeInUnitOfWork_refused _ _ refused
  rename_i plan authorizing
  split at authorized
  · rename_i prior loaded
    cases authorized
    exact authorizeInUnitOfWork_replayed _ _ authorizing loaded
  rename_i absent
  obtain ⟨stored, valid, caller, active⟩ := authorizingPlan_ok authorizing
  rw [authorizeInUnitOfWork_next stored valid caller active absent]
  split at authorized
  · rename_i failure refused
    cases authorized
    exact authorizeNextPage_refused _ _ refused
  rename_i inputCursor fresh
  refine (authorizeNextPage_fresh _ _ fresh).trans ?_
  unfold persistFreshPageRun at authorized
  split at authorized
  · rename_i failure refused
    cases authorized
    have unauthorized : validateAuthorization request plan before.pageRows.generation.creation
        environment.now = .error failure := refused
    simp only [persistFreshPage, unauthorized]
  rename_i admitted
  split at authorized
  · rename_i failure refused
    cases authorized
    have authorization : validateAuthorization request plan before.pageRows.generation.creation
        environment.now = .ok () := admitted
    have unplanned : preparePageRun environment.canonical request.generationId plan
        before.pageRows.generation.creation (nextPageSequence before) inputCursor
        request.actorPermissions environment.now = .error failure := refused
    simp only [persistFreshPage, authorization, pageRunPreparation, unplanned]
  rename_i planned plannedEq
  split at authorized
  · cases authorized
  rename_i stored storedEq
  exact persistFreshPage_prepared unique ⟨authorizing, absent, fresh, admitted, plannedEq⟩ storedEq
    authorized

/-- What an authorization leaves of the pages: all as they were, or with a new one behind. -/
theorem authorizePage_rows [DecidableEq Value]
    (unique : RunsAreUnique environment.canonical before.creation)
    {result : AuthorizePageResult} {after : PageCreationRows Value}
    (authorized : authorizePage environment before request = .ok (result, after)) :
    AuthorizationEffect before.pageRows after.pageRows := by
  have effect := authorizeInUnitOfWork_effect (pageRunPreparation environment.canonical
    environment.identifiers before.creation) before.pageRows request environment.now
  rwa [authorizePage_inUnitOfWork unique authorized] at effect

end Effect

/-! ## Every step keeps the pages with their Runs -/

theorem KeepsPageIdentity.refl (page : DatasetGenerationPage) : KeepsPageIdentity page page :=
  ⟨rfl, rfl, rfl, rfl, rfl, rfl, rfl, rfl, rfl⟩

theorem KeepsPageIdentity.trans {first middle last : DatasetGenerationPage}
    (left : KeepsPageIdentity first middle) (right : KeepsPageIdentity middle last) :
    KeepsPageIdentity first last where
  workspaceId := right.workspaceId.trans left.workspaceId
  generationId := right.generationId.trans left.generationId
  pageSequence := right.pageSequence.trans left.pageSequence
  runId := right.runId.trans left.runId
  runPlanId := right.runPlanId.trans left.runPlanId
  inputCursor := right.inputCursor.trans left.inputCursor
  inputId := right.inputId.trans left.inputId
  inputContentHash := right.inputContentHash.trans left.inputContentHash
  createdAt := right.createdAt.trans left.createdAt

theorem PageHasRun.keep {before after : PageCreationRows Value}
    {page moved : DatasetGenerationPage} (hasRun : PageHasRun before page)
    (identity : KeepsPageIdentity page moved)
    (generation : after.generation.creation.generation.generationId =
      before.generation.creation.generation.generationId)
    (plan : after.generation.storedPlan = before.generation.storedPlan)
    (keeps : runIdentities before.creation.runs ⊆ runIdentities after.creation.runs) :
    PageHasRun after moved := by
  refine ⟨?_, ?_, ?_, ?_⟩
  · exact identity.generationId.trans (hasRun.generation.trans generation.symm)
  · rw [identity.pageSequence]
    exact hasRun.positive
  · intro stored storedEq
    rw [identity.workspaceId]
    exact hasRun.workspace stored (plan.symm.trans storedEq)
  · obtain ⟨intentionHash, member⟩ := hasRun.run
    refine ⟨intentionHash, ?_⟩
    rw [identity.runId, identity.generationId, identity.pageSequence, identity.runPlanId]
    exact keeps member

namespace PagesHaveRuns

variable {before after : PageCreationRows Value}

private theorem withCreation (pages : PagesHaveRuns canonical before)
    {creation : RunCreationRows Value}
    (unique : RunsAreUnique canonical creation)
    (keeps : runIdentities before.creation.runs ⊆ runIdentities creation.runs) :
    PagesHaveRuns canonical (before.withCreation creation) :=
  ⟨unique, pages.sequences, pages.valid, fun page member =>
    (pages.pages page member).keep (.refl page) rfl rfl keeps⟩

theorem authorized (pages : PagesHaveRuns canonical before) {result : AuthorizePageResult}
    (effect : PageAuthorizationEffect canonical before after result) :
    PagesHaveRuns canonical after := by
  cases effect with
  | unchanged _ same _ => exact same ▸ pages
  | refused _ creation unique keeps left => exact left ▸ pages.withCreation unique keeps
  | created page creation unique keeps absent valid left hasRun =>
      subst left
      refine ⟨unique, ?_, ?_, ?_⟩
      · simp only [GenerationRows.insertPage, List.map_append, List.map_cons, List.map_nil]
        refine List.Nodup.append pages.sequences (List.nodup_singleton _) ?_
        intro pageSequence known added
        obtain ⟨other, otherMember, rfl⟩ := List.mem_map.mp known
        exact List.find?_eq_none.mp absent other otherMember
          (by simpa using List.mem_singleton.mp added)
      · intro known member
        rcases List.mem_append.mp member with kept | added
        · exact pages.valid known kept
        · rw [List.mem_singleton.mp added]
          exact valid
      · intro known member
        rcases List.mem_append.mp member with kept | added
        · exact (pages.pages known kept).keep (.refl known) rfl rfl keeps
        · rw [List.mem_singleton.mp added]
          exact hasRun

theorem movePage (pages : PagesHaveRuns canonical before) {page moved : DatasetGenerationPage}
    (loaded : before.generation.loadPage page.pageSequence = some page)
    (transition : PageTransition page moved) :
    PagesHaveRuns canonical (before.withGeneration (before.generation.updatePage moved)) := by
  refine ⟨pages.runs, ?_, ?_, ?_⟩
  · change ((before.generation.updatePage moved).pages.map _).Nodup
    rw [updatePage_sequences]
    exact pages.sequences
  · intro known member
    rcases mem_updatePage member with rfl | ⟨kept, _⟩
    · exact transition.valid
    · exact pages.valid known kept
  · intro known member
    rcases mem_updatePage member with rfl | ⟨kept, _⟩
    · exact (pages.pages page (loadPage_mem loaded)).keep transition.keepsIdentity rfl rfl
        (List.Subset.refl _)
    · exact (pages.pages known kept).keep (.refl known) rfl rfl (List.Subset.refl _)

end PagesHaveRuns

/-- A generation operation keeps what identifies the generation and its plan. -/
theorem generationOperation_identity {creation result : DatasetGenerationCreation}
    {plan : DatasetGenerationPlan} {operation : DatasetGenerationOperation}
    (accepted : applyDatasetGenerationOperation creation plan operation = .ok result) :
    result.generation.generationId = creation.generation.generationId ∧
      result.generation.generationPlanId = creation.generation.generationPlanId := by
  obtain ⟨rfl, _, _, _⟩ := applyDatasetGenerationOperation_ok.mp accepted
  cases operation with
  | requestStop input =>
      by_cases recorded : stopIsRecorded creation.generation = true
      · simp [operationResult, recorded]
      · simp [operationResult, recorded, stopRequested]
  | _ => exact ⟨rfl, rfl⟩

theorem moveGeneration_storedPlan {rows : GenerationRows} {result : DatasetGenerationCreation}
    {plan : DatasetGenerationPlan} {operation : DatasetGenerationOperation}
    (accepted : applyDatasetGenerationOperation rows.creation plan operation = .ok result) :
    (rows.updateGeneration result).storedPlan = rows.storedPlan := by
  unfold GenerationRows.storedPlan
  rw [GenerationRows.updateGeneration_creation, (generationOperation_identity accepted).2]
  rfl

/-- **Step lemma.** Every step keeps each page with its only Run. -/
theorem pagesHaveRuns_step [DecidableEq Value] {before after : PageCreationRows Value}
    {label : PageAuthorizationLabel} (pages : PagesHaveRuns canonical before)
    (moved : PageAuthorizationStep canonical before label after) :
    PagesHaveRuns canonical after := by
  cases moved with
  | authorizePage request identifiers now result _ named authorized =>
      exact pages.authorized (authorizePage_effect pages.runs named authorized)
  | createRun input result creation created =>
      cases result with
      | error failure =>
          obtain rfl := createRunInUnitOfWork_refused created
          exact pages
      | ok success =>
          have answers := pages.runs.created (createRunInUnitOfWork_ok created)
          exact pages.withCreation answers.unique answers.keeps
  | storeRunPlan draft creation stored =>
      refine pages.withCreation (pages.runs.insertRunPlan stored) ?_
      rcases RunCreationRows.insertRunPlan_ok stored with ⟨_, rfl⟩ | ⟨_, _, _, rfl⟩ <;>
        exact List.Subset.refl _
  | runCommand run command context transition found accepted =>
      have same := pages.runs.runCommand_identities found accepted
      refine pages.withCreation (pages.runs.withRuns same) ?_
      change runIdentities before.creation.runs ⊆ runIdentities (runCommandRows _ _ _ _ _)
      rw [same]
      exact List.Subset.refl _
  | moveGeneration plan operation creation accepted =>
      refine ⟨pages.runs, pages.sequences, pages.valid, fun page member => ?_⟩
      exact (pages.pages page member).keep (.refl page) (generationOperation_identity accepted).1
        (moveGeneration_storedPlan accepted) (List.Subset.refl _)
  | movePage page moved loaded transition => exact pages.movePage loaded transition

/-- Whatever transactions commit, every page keeps the Run it was authorized with. -/
theorem pagesHaveRuns_invariant [DecidableEq Value] (canonical : PageCanonicalization Value) :
    (pageAuthorizationSystem canonical).Invariant (PagesHaveRuns canonical) where
  initially rows start := by
    obtain ⟨empty, unique⟩ := start
    refine ⟨unique, ?_, ?_, ?_⟩ <;> simp [empty]
  preserved _ _ _ pages moved := pagesHaveRuns_step pages moved

end System

end Kurobara.Application
