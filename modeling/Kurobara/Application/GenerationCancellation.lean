import Kurobara.Application.GenerationActivity

/-! # Cancelling a generation stops its page Runs

The cancellation looks for the page to stop at the page counter. While no effect of
the generation is authorized, that is the only page; afterwards a page that is created
but not started stands one above the counter, where the cancellation does not look.
-/

namespace Kurobara.Application

open Foundation Kernel Persistence

/-! ## Stopped Runs among the rows -/

private def runIdIsStopped (runs : RunRows) (runId : RunId) : Bool :=
  (runs.findRun runId).any runIsStopped

/-- Every stop request in the journal stopped its Run. -/
def StopsRecorded (runs : RunRows) : Prop :=
  ∀ proof ∈ runs.commandJournal, proof.commandType = .requestStop →
    runIdIsStopped runs proof.runId = true

/-- No stopped Run is taken back. -/
def KeepsStops (before after : RunRows) : Prop :=
  ∀ runId, runIdIsStopped before runId = true → runIdIsStopped after runId = true

private theorem runIdIsStopped_iff {runs : RunRows} {runId : RunId} :
    runIdIsStopped runs runId = true ↔
      ∃ run, runs.findRun runId = some run ∧ runIsStopped run = true := by
  unfold runIdIsStopped
  cases runs.findRun runId <;> simp

section Command

variable {runs : RunRows} {run : Run} {command : RunCommand} {context : RunCommandContext}
  {transition : RunTransition}

private theorem recordRunTransition_stopped (found : runs.findRun run.runId = some run)
    (accepted : applyRunCommand run command context = .ok transition)
    (proof : RunCommandReplayProof) :
    runIdIsStopped (runs.recordRunTransition transition proof) run.runId =
      runIsStopped transition.run := by
  unfold runIdIsStopped
  rw [RunRows.recordRunTransition_findRun, RunRows.findRun_updateRun,
    applyRunCommand_runId accepted, if_pos rfl, found]
  rfl

private theorem recordRunTransition_keepsStops (found : runs.findRun run.runId = some run)
    (accepted : applyRunCommand run command context = .ok transition)
    (proof : RunCommandReplayProof) :
    KeepsStops runs (runs.recordRunTransition transition proof) := by
  intro runId stopped
  by_cases same : runId = run.runId
  · subst same
    rw [recordRunTransition_stopped found accepted]
    obtain ⟨known, knownEq, knownStopped⟩ := runIdIsStopped_iff.mp stopped
    rw [found] at knownEq
    cases knownEq
    exact applyRunCommand_stopped knownStopped accepted
  · unfold runIdIsStopped at stopped ⊢
    rw [RunRows.recordRunTransition_findRun, RunRows.findRun_updateRun,
      applyRunCommand_runId accepted, if_neg same]
    exact stopped

private theorem recordRunTransition_stopsRecorded (recorded : StopsRecorded runs)
    (found : runs.findRun run.runId = some run)
    (accepted : applyRunCommand run command context = .ok transition)
    (fresh : transition.replayed = false) (identity : RunCommandIdentity) :
    StopsRecorded (runs.recordRunTransition transition (runCommandProof run command identity)) := by
  intro proof member type
  rcases List.mem_append.mp member with known | added
  · exact recordRunTransition_keepsStops found accepted _ _ (recorded proof known type)
  · cases List.mem_singleton.mp added
    change runIdIsStopped _ run.runId = true
    rw [recordRunTransition_stopped found accepted]
    cases command with
    | requestStop reason =>
        refine applyRunCommand_requestStop ?_ accepted
        rcases applyRunCommand_ok accepted with ⟨rfl, _⟩ | ⟨given, _⟩
        · cases fresh
        · exact given
    | _ => cases type

private theorem runCommandRows_keepsStops (found : runs.findRun run.runId = some run)
    (accepted : applyRunCommand run command context = .ok transition) :
    KeepsStops runs (runCommandRows runs run command context.commandIdentity transition) := by
  unfold runCommandRows
  split
  · exact fun _ stopped => stopped
  · exact recordRunTransition_keepsStops found accepted _

private theorem runCommandRows_stopsRecorded (recorded : StopsRecorded runs)
    (found : runs.findRun run.runId = some run)
    (accepted : applyRunCommand run command context = .ok transition) :
    StopsRecorded (runCommandRows runs run command context.commandIdentity transition) := by
  unfold runCommandRows
  split
  · exact recorded
  · rename_i fresh
    exact recordRunTransition_stopsRecorded recorded found accepted (by simpa using fresh) _

end Command

private theorem storePageRun_keepsStops (runs : RunRows) (run : Run) :
    KeepsStops runs (storePageRun runs run) := by
  unfold storePageRun
  split
  · exact fun _ stopped => stopped
  · intro runId stopped
    obtain ⟨known, found, knownStopped⟩ := runIdIsStopped_iff.mp stopped
    exact runIdIsStopped_iff.mpr ⟨known, RunRows.findRun_insertRun found, knownStopped⟩

theorem StopsRecorded.storePageRun {runs : RunRows} (recorded : StopsRecorded runs) (run : Run) :
    StopsRecorded (storePageRun runs run) := by
  have journal : (Application.storePageRun runs run).commandJournal = runs.commandJournal := by
    unfold Application.storePageRun
    split <;> rfl
  intro proof member type
  exact storePageRun_keepsStops runs run _ (recorded proof (journal ▸ member) type)

/-! ## The stop of one Run -/

private theorem cancelRunInUnitOfWork_ok {environment : CancellationEnvironment}
    {runs after : RunRows}
    {runId : RunId} {request : CancelRunRequest} {success : CancelRunSuccess}
    (cancelled : cancelRunInUnitOfWork environment runs runId request = .ok (success, after)) :
    ∃ run transition, runs.findRun runId = some run ∧
      applyRunCommand run (.requestStop .requested) (cancelRunContext environment run
        (runs.findCommand runId request.idempotencyKey) request) = .ok transition ∧
        after = persistFreshCancellation runs run transition request := by
  unfold cancelRunInUnitOfWork at cancelled
  split at cancelled
  · cases cancelled
  rename_i run found
  dsimp only at cancelled
  split at cancelled
  · cases cancelled
  rename_i transition accepted
  cases cancelled
  exact ⟨run, transition, found, accepted, rfl⟩

/-- The writes of a cancellation are those of a recorded command, up to the wake-up of
the scheduler. -/
theorem persistFreshCancellation_rows {runs : RunRows} {run : Run} {transition : RunTransition}
    {request : CancelRunRequest} :
    (persistFreshCancellation runs run transition request).findRun =
        (runCommandRows runs run (.requestStop .requested) (cancelRunIdentity request)
          transition).findRun ∧
      (persistFreshCancellation runs run transition request).commandJournal =
        (runCommandRows runs run (.requestStop .requested) (cancelRunIdentity request)
          transition).commandJournal := by
  unfold persistFreshCancellation runCommandRows
  split
  · exact ⟨rfl, rfl⟩
  · dsimp only
    split <;> exact ⟨rfl, rfl⟩

section CancelRun

variable {environment : CancellationEnvironment} {runs after : RunRows} {runId : RunId}
  {request : CancelRunRequest} {success : CancelRunSuccess}

private theorem cancelRunInUnitOfWork_keepsStops
    (cancelled : cancelRunInUnitOfWork environment runs runId request = .ok (success, after)) :
    KeepsStops runs after := by
  obtain ⟨run, transition, found, accepted, rfl⟩ := cancelRunInUnitOfWork_ok cancelled
  rw [← RunRows.findRun_runId found] at found
  intro known stopped
  have kept := runCommandRows_keepsStops found accepted known stopped
  unfold runIdIsStopped at kept ⊢
  rw [persistFreshCancellation_rows.1]
  exact kept

private theorem cancelRunInUnitOfWork_stopsRecorded (recorded : StopsRecorded runs)
    (cancelled : cancelRunInUnitOfWork environment runs runId request = .ok (success, after)) :
    StopsRecorded after := by
  obtain ⟨run, transition, found, accepted, rfl⟩ := cancelRunInUnitOfWork_ok cancelled
  rw [← RunRows.findRun_runId found] at found
  have kept := runCommandRows_stopsRecorded recorded found accepted
  intro proof member type
  rw [persistFreshCancellation_rows.2] at member
  have stopped := kept proof member type
  unfold runIdIsStopped at stopped ⊢
  rw [persistFreshCancellation_rows.1]
  exact stopped

/-- A Run whose cancellation is accepted is stopped, freshly or by the request that is
replayed. -/
theorem cancelRunInUnitOfWork_stops (recorded : StopsRecorded runs)
    (cancelled : cancelRunInUnitOfWork environment runs runId request = .ok (success, after)) :
    runIdIsStopped after runId = true := by
  have kept := cancelRunInUnitOfWork_keepsStops cancelled
  obtain ⟨run, transition, found, accepted, rfl⟩ := cancelRunInUnitOfWork_ok cancelled
  cases journal : runs.findCommand runId request.idempotencyKey with
  | some proof =>
      rw [journal] at accepted
      rcases applyRunCommand_ok accepted with ⟨_, known, given, type, _⟩ | ⟨none, _⟩
      · cases given
        have same : proof.runId = runId := by
          have matched := List.find?_some journal
          simp only [Bool.and_eq_true, beq_iff_eq] at matched
          exact matched.1
        exact kept runId (same ▸ recorded proof (List.mem_of_find?_eq_some journal) type)
      · cases none
  | none =>
      rw [journal] at accepted
      have fresh : transition.replayed = false := by
        rcases applyRunCommand_ok accepted with ⟨_, _, given, _⟩ | ⟨_, _, _, _, _, rfl⟩
        · cases given
        · rfl
      have stops := applyRunCommand_requestStop rfl accepted
      have identity := RunRows.findRun_runId found
      rw [← identity] at found ⊢
      unfold runIdIsStopped
      rw [persistFreshCancellation_rows.1]
      unfold runCommandRows
      rw [fresh]
      exact (recordRunTransition_stopped found accepted _).trans stops

end CancelRun

/-! ## The stop of a generation -/

/-- Every page whose effect was not authorized has a stopped Run. -/
def UnstartedPagesStopped (rows : GenerationRows) (runs : RunRows) : Prop :=
  ∀ page ∈ rows.pages, page.state = .runCreated → runIdIsStopped runs page.runId = true

/-- No effect of the generation is authorized yet, or there is no Run left to stop. -/
def CancellationFindsPage (rows : GenerationRows) (runs : RunRows) : Prop :=
  rows.creation.generation.counters.pages = 0 ∨ UnstartedPagesStopped rows runs

section CancelActivePage

variable {environment : CancellationEnvironment} {rows : CancellationRows} {runs : RunRows}
  {request : CancelDatasetGenerationRequest}

/-- Stopping the active page leaves the Runs alone, or cancels the Run of a page that is
created but not started. -/
theorem cancelActivePage_ok (cancelled : cancelActivePage environment rows request = .ok runs) :
    (runs = rows.runs ∧ ∀ page, rows.generation.loadPage
        (activeSequence rows.generation.creation.generation) = some page →
          page.state ≠ .runCreated) ∨
      ∃ page success, rows.generation.loadPage
          (activeSequence rows.generation.creation.generation) = some page ∧
        page.state = .runCreated ∧
        cancelRunInUnitOfWork environment rows.runs page.runId (pageCancelRequest request) =
          .ok (success, runs) := by
  unfold cancelActivePage at cancelled
  split at cancelled
  · rename_i absent
    cases cancelled
    refine .inl ⟨rfl, fun page found => ?_⟩
    rw [absent] at found
    cases found
  rename_i page found
  split at cancelled
  · rename_i created
    obtain ⟨⟨success, after⟩, accepted, same⟩ := map_eq_ok.mp cancelled
    cases same
    exact .inr ⟨page, success, found, by simpa using created, accepted⟩
  · rename_i notCreated
    cases cancelled
    refine .inl ⟨rfl, fun other same => ?_⟩
    rw [found] at same
    cases same
    simpa using notCreated

private theorem cancelActivePage_keepsStops
    (cancelled : cancelActivePage environment rows request = .ok runs) :
    KeepsStops rows.runs runs := by
  rcases cancelActivePage_ok cancelled with ⟨rfl, _⟩ | ⟨page, success, _, _, accepted⟩
  · exact fun _ stopped => stopped
  · exact cancelRunInUnitOfWork_keepsStops accepted

private theorem cancelActivePage_stopsRecorded (recorded : StopsRecorded rows.runs)
    (cancelled : cancelActivePage environment rows request = .ok runs) : StopsRecorded runs := by
  rcases cancelActivePage_ok cancelled with ⟨rfl, _⟩ | ⟨page, success, _, _, accepted⟩
  · exact recorded
  · exact cancelRunInUnitOfWork_stopsRecorded recorded accepted

/-- The active page of an invariant generation is the unstarted one exactly while the
page counter is zero. -/
theorem cancelActivePage_stops_iff (invariant : PagesInvariant rows.generation)
    (recorded : StopsRecorded rows.runs)
    (cancelled : cancelActivePage environment rows request = .ok runs) :
    UnstartedPagesStopped rows.generation runs ↔
      CancellationFindsPage rows.generation rows.runs := by
  have next := invariant.next
  constructor
  · intro stopped
    by_cases none : rows.generation.creation.generation.counters.pages = 0
    · exact .inl none
    · refine .inr ?_
      rcases cancelActivePage_ok cancelled with ⟨rfl, _⟩ | ⟨page, success, found, created, _⟩
      · exact stopped
      · have active : activeSequence rows.generation.creation.generation =
            rows.generation.creation.generation.counters.pages := if_neg none
        have above := next page (loadPage_mem found) created
        rw [loadPage_sequence found, active] at above
        omega
  · rintro (none | stopped)
    · intro page member created
      have sequence : page.pageSequence = 1 := by rw [next page member created, none]; rfl
      have found := invariant.loadPage member
      rw [sequence] at found
      have active : activeSequence rows.generation.creation.generation = 1 := if_pos none
      rcases cancelActivePage_ok cancelled with ⟨_, unstarted⟩ |
        ⟨other, success, otherFound, _, accepted⟩
      · exact absurd created (unstarted page (active ▸ found))
      · rw [active, found] at otherFound
        cases otherFound
        exact cancelRunInUnitOfWork_stops recorded accepted
    · exact fun page member created =>
        cancelActivePage_keepsStops cancelled _ (stopped page member created)

end CancelActivePage

/-! ## Runs of the activity -/

section Activity

variable {Value : Type} {functions : GenerationFunctions Value}

/-- The pages keep their invariant, and every stop of a Run is recorded. -/
structure CancellationInvariant (world : GenerationWorld Value) : Prop where
  pages : PagesInvariant world.generation
  recorded : StopsRecorded world.runs

private theorem GenerationStep.cancellationInvariant {before after : GenerationWorld Value}
    {label : GenerationLabel} (invariant : CancellationInvariant before)
    (step : GenerationStep functions before label after) : CancellationInvariant after := by
  cases step with
  | authorizePage request now _ =>
      have effect := authorizeInUnitOfWork_effect functions.preparePageRun before.pageRows request
        now
      refine ⟨invariant.pages.authorized effect, ?_⟩
      revert effect
      generalize (authorizeInUnitOfWork functions.preparePageRun before.pageRows request now).2 =
        rows
      intro effect
      cases effect with
      | unchanged same => exact same ▸ invariant.recorded
      | refused run left => exact left ▸ invariant.recorded.storePageRun run
      | created _ run _ _ _ _ _ left => exact left ▸ invariant.recorded.storePageRun run
  | authorizeEffect ledger input =>
      exact ⟨invariant.pages.move (authorizeParentEffect_move _ _ ledger input), invariant.recorded⟩
  | markAmbiguous input =>
      exact ⟨invariant.pages.move (markParentEffectAmbiguous_move _ input), invariant.recorded⟩
  | checkpoint environment result after checkpointed =>
      exact ⟨invariant.pages.move (checkpointInUnitOfWork_move checkpointed), invariant.recorded⟩
  | runCommand run command context transition found _ accepted =>
      exact ⟨invariant.pages, runCommandRows_stopsRecorded invariant.recorded found accepted⟩
  | cancel environment request =>
      have effect := cancelInUnitOfWork_effect environment before.cancellationRows request
      revert effect
      generalize cancelInUnitOfWork environment before.cancellationRows request = outcome
      rcases outcome with ⟨result, rows⟩
      intro effect
      cases effect with
      | refused failure => exact invariant
      | replayed success journal _ => exact ⟨invariant.pages, invariant.recorded⟩
      | stopped plan stopped runs _ requested cancelled =>
          refine ⟨⟨invariant.pages.distinct, fun page member created => ?_⟩,
            cancelActivePage_stopsRecorded invariant.recorded cancelled⟩
          refine (invariant.pages.next page member created).trans ?_
          exact congrArg (fun counters => counters.pages + 1)
            (requestDatasetGenerationStop_pages requested).symm
  | evidence evidence => exact ⟨invariant.pages, invariant.recorded⟩

private theorem cancellationInvariant_initial {world : GenerationWorld Value}
    (start : GenerationStarts world) : CancellationInvariant world := by
  obtain ⟨_, noPages, _, _, noCommands⟩ := start
  refine ⟨⟨by rw [noPages]; exact List.nodup_nil, ?_⟩, ?_⟩
  · intro page member
    rw [noPages] at member
    cases member
  · intro proof member
    rw [noCommands] at member
    cases member

private theorem generationActivity_cancellationInvariant :
    (generationActivity functions).Invariant CancellationInvariant where
  initially _ start := cancellationInvariant_initial start
  preserved _ _ _ invariant step := GenerationStep.cancellationInvariant invariant step

/-- A fresh cancellation meets the condition under which it stops the page Runs. -/
def CancelsItsPage (world : GenerationWorld Value) (label : GenerationLabel) : Prop :=
  ∀ request success, label = .cancel request (.ok success) → success.replayed = false →
    CancellationFindsPage world.generation world.runs

/-- The generation is stopping, or it was stopped for good. -/
def GenerationIsStopped (generation : DatasetGeneration) : Prop :=
  generation.state = .stopping ∨ generation.state = .cancelled

/-- What a cancellation did, as a step of the activity. -/
theorem generationStep_cancel {before after : GenerationWorld Value}
    {request : CancelDatasetGenerationRequest} {result : CancelDatasetGenerationResult}
    (step : GenerationStep functions before (.cancel request result) after) :
    ∃ environment rows, CancellationEffect environment before.cancellationRows request result rows ∧
      after = before.withCancellationRows rows := by
  generalize labelEq : GenerationLabel.cancel request result = label at step
  cases step with
  | cancel environment request =>
      cases labelEq
      exact ⟨environment, _, cancelInUnitOfWork_effect environment before.cancellationRows request,
        rfl⟩
  | _ => cases labelEq

private theorem fresh_cancellation_stops_iff {before after : GenerationWorld Value}
    {request : CancelDatasetGenerationRequest} {success : CancelDatasetGenerationSuccess}
    (invariant : CancellationInvariant before)
    (step : GenerationStep functions before (.cancel request (.ok success)) after)
    (fresh : success.replayed = false) :
    UnstartedPagesStopped after.generation after.runs ↔
      CancellationFindsPage before.generation before.runs := by
  obtain ⟨environment, rows, effect, rfl⟩ := generationStep_cancel step
  cases effect with
  | replayed _ journal again =>
      rw [fresh] at again
      cases again
  | stopped plan stopped runs _ requested cancelled =>
      exact cancelActivePage_stops_iff invariant.pages invariant.recorded cancelled

private theorem refused_cancellation_unchanged {before after : GenerationWorld Value}
    {request : CancelDatasetGenerationRequest} {result : CancelDatasetGenerationResult}
    (step : GenerationStep functions before (.cancel request result) after)
    (unfresh : ∀ success, result = .ok success → success.replayed = true) :
    after.generation = before.generation ∧ after.runs = before.runs := by
  obtain ⟨environment, rows, effect, rfl⟩ := generationStep_cancel step
  cases effect with
  | refused failure => exact ⟨rfl, rfl⟩
  | replayed success journal _ => exact ⟨rfl, rfl⟩
  | stopped plan stopped runs _ _ _ => cases unfresh _ rfl

/-! ## The stop along a run -/

/-- While the generation is stopped, its unstarted pages have stopped Runs. -/
def StopHolds (rows : GenerationRows) (runs : RunRows) : Prop :=
  GenerationIsStopped rows.creation.generation → UnstartedPagesStopped rows runs

theorem StopHolds.move {before after : GenerationRows} {runs : RunRows}
    (holds : StopHolds before runs) (move : PageMove before after) : StopHolds after runs := by
  cases move with
  | unchanged same => exact same ▸ holds
  | started page moved plan input creation _ _ _ executing _ _ _ _ authorized left =>
      obtain ⟨rfl, _⟩ := authorizeDatasetGenerationPageEffect_ok authorized
      intro stopped
      rw [left] at stopped
      rcases stopped with state | state <;> cases state
  | concluded page moved creation _ executing _ _ moves keeps left =>
      intro stopped known member created
      rw [left] at stopped member
      rcases mem_updatePage member with rfl | ⟨kept, _⟩
      · rw [created] at moves
        simp at moves
      · exact holds (.inl (keeps.stopped stopped)) known kept created

theorem StopHolds.authorized {before after : PageRows}
    (holds : StopHolds before.generation before.runs) (effect : AuthorizationEffect before after) :
    StopHolds after.generation after.runs := by
  cases effect with
  | unchanged same => exact same ▸ holds
  | refused run left =>
      subst left
      exact fun stopped page member created =>
        storePageRun_keepsStops before.runs run _ (holds stopped page member created)
  | created page run active _ _ _ _ left =>
      subst left
      intro stopped
      change GenerationIsStopped before.generation.creation.generation at stopped
      rcases stopped with state | state <;> rw [state] at active <;> simp at active

theorem StopHolds.runs {rows : GenerationRows} {before after : RunRows}
    (holds : StopHolds rows before) (keeps : KeepsStops before after) : StopHolds rows after :=
  fun stopped page member created => keeps _ (holds stopped page member created)

private theorem GenerationStep.stopHolds {before after : GenerationWorld Value}
    {label : GenerationLabel}
    (invariant : CancellationInvariant before) (holds : StopHolds before.generation before.runs)
    (condition : CancelsItsPage before label)
    (step : GenerationStep functions before label after) :
    StopHolds after.generation after.runs := by
  have moved := step
  cases step with
  | authorizePage request now _ =>
      exact holds.authorized
        (authorizeInUnitOfWork_effect functions.preparePageRun before.pageRows request now)
  | authorizeEffect ledger input => exact holds.move (authorizeParentEffect_move _ _ ledger input)
  | markAmbiguous input => exact holds.move (markParentEffectAmbiguous_move _ input)
  | checkpoint environment result after checkpointed =>
      exact holds.move (checkpointInUnitOfWork_move checkpointed)
  | runCommand run command context transition found _ accepted =>
      exact holds.runs (runCommandRows_keepsStops found accepted)
  | cancel environment request =>
      generalize resultEq :
        (cancelInUnitOfWork environment before.cancellationRows request).1 =
          result at moved condition
      by_cases fresh : ∃ success, result = .ok success ∧ success.replayed = false
      · obtain ⟨success, rfl, again⟩ := fresh
        exact fun _ => (fresh_cancellation_stops_iff invariant moved again).mpr
          (condition request success rfl again)
      · have unchanged := refused_cancellation_unchanged moved fun success same => by
          by_contra again
          exact fresh ⟨success, same, by simpa using again⟩
        rw [unchanged.1, unchanged.2]
        exact holds
  | evidence evidence => exact holds

private theorem restricted_stopHolds :
    ((generationActivity functions).restrict CancelsItsPage).Invariant fun world =>
      CancellationInvariant world ∧ StopHolds world.generation world.runs where
  initially world start := by
    refine ⟨cancellationInvariant_initial start, fun _ page member => ?_⟩
    rw [start.2.1] at member
    cases member
  preserved before label after invariant step :=
    ⟨GenerationStep.cancellationInvariant invariant.1 step.2,
      GenerationStep.stopHolds invariant.1 invariant.2 step.1 step.2⟩

/-- **What a cancellation stops.** A fresh cancellation leaves every unstarted page with
a stopped Run exactly when no effect was authorized before it, or when there was no such
Run left to stop; a refused or replayed one changes nothing; and along every run whose
cancellations meet that condition, a stopped generation has only stopped unstarted
pages. -/
theorem generationCancellation_stops_iff (functions : GenerationFunctions Value) :
    (∀ before after request success, (generationActivity functions).Reachable before →
      (generationActivity functions).step before (.cancel request (.ok success)) after →
        success.replayed = false →
          (UnstartedPagesStopped after.generation after.runs ↔
            CancellationFindsPage before.generation before.runs)) ∧
      (∀ before after request result,
        (generationActivity functions).step before (.cancel request result) after →
          (∀ success, result = .ok success → success.replayed = true) →
            after.generation = before.generation ∧ after.runs = before.runs) ∧
      ∀ world, ((generationActivity functions).restrict CancelsItsPage).Reachable world →
        GenerationIsStopped world.generation.creation.generation →
          UnstartedPagesStopped world.generation world.runs := by
  refine ⟨?_, ?_, ?_⟩
  · intro before after request success reachable step fresh
    exact fresh_cancellation_stops_iff
      (generationActivity_cancellationInvariant.reachable reachable) step fresh
  · intro before after request result step unfresh
    exact refused_cancellation_unchanged step unfresh
  · intro world reachable stopped
    exact (restricted_stopHolds.reachable reachable).2 stopped

end Activity

/-! ## Sample cancellations -/

def sampleCancelRequest : CancelDatasetGenerationRequest :=
  ⟨"actor-1", "correlation-1", "generation-1", "cancel-1"⟩

/-- A cancellation of the sample generation. -/
def sampleCancellation (world : GenerationWorld String) :
    CancelDatasetGenerationResult × CancellationRows :=
  cancelInUnitOfWork ⟨4, fun _ => "event-4"⟩ world.cancellationRows sampleCancelRequest

/-- What the samples look at: whether the cancellation is a replay, the state it leaves,
and whether it leaves every unstarted page with a stopped Run. -/
def sampleOutcome (outcome : CancelDatasetGenerationResult × CancellationRows) :
    Option Bool × DatasetGenerationState × Bool :=
  (outcome.1.toOption.map CancelDatasetGenerationSuccess.replayed,
    outcome.2.generation.creation.generation.state,
    outcome.2.generation.pages.all fun page =>
      page.state != .runCreated || runIdIsStopped outcome.2.runs page.runId)

private theorem sampleCancellation_step {world : GenerationWorld String}
    {state : DatasetGenerationState}
    {stopped : Bool}
    (outcome : sampleOutcome (sampleCancellation world) = (some false, state, stopped)) :
    ∃ success after, (generationActivity sampleFunctions).step world
        (.cancel sampleCancelRequest (.ok success)) after ∧ success.replayed = false ∧
      after.generation.creation.generation.state = state ∧
        (UnstartedPagesStopped after.generation after.runs ↔ stopped = true) := by
  have step : (generationActivity sampleFunctions).step world _ _ :=
    GenerationStep.cancel ⟨4, fun _ => "event-4"⟩ sampleCancelRequest
  change GenerationStep _ _ (.cancel _ (sampleCancellation world).1)
    (world.withCancellationRows (sampleCancellation world).2) at step
  generalize sampleCancellation world = answer at outcome step
  rcases answer with ⟨failure | success, rows⟩
  · cases outcome
  · simp only [sampleOutcome, Except.toOption, Option.map_some, Prod.mk.injEq,
      Option.some.injEq] at outcome
    refine ⟨success, _, step, outcome.1, outcome.2.1, ?_⟩
    rw [← outcome.2.2]
    simp only [List.all_eq_true, Bool.or_eq_true, bne_iff_ne, ne_eq]
    exact forall₂_congr fun page member => imp_iff_not_or

/-- Cancelling the sample generation before any effect stops its first page. -/
theorem generationCancellation_stops_firstPage : ∃ after : GenerationWorld String,
    UnstartedPagesStopped after.generation after.runs ∧
      after.generation.creation.generation.state = .cancelled := by
  obtain ⟨success, after, step, fresh, state, _⟩ :=
    @sampleCancellation_step sampleFirstCreated .cancelled true (by with_unfolding_all decide)
  exact ⟨after, ((generationCancellation_stops_iff sampleFunctions).1 _ _ _ _
    sampleFirstCreated_reachable step fresh).mpr (.inl rfl), state⟩

/-- Cancelling it with its first page committed and its second page created ends the
generation and leaves the Run of the second page queued. -/
theorem generationCancellation_leaves_secondPage : ∃ before after success,
    (generationActivity sampleFunctions).Reachable before ∧
      (generationActivity sampleFunctions).step before
        (.cancel sampleCancelRequest (.ok success)) after ∧
        success.replayed = false ∧ after.generation.creation.generation.state = .cancelled ∧
          ¬ UnstartedPagesStopped after.generation after.runs := by
  obtain ⟨success, after, step, fresh, state, stops⟩ :=
    @sampleCancellation_step sampleSecondCreated .cancelled false (by with_unfolding_all decide)
  exact ⟨sampleSecondCreated, after, success, sampleSecondCreated_reachable, step, fresh, state,
    fun stopped => absurd (stops.mp stopped) (by decide)⟩

end Kurobara.Application
