import Kurobara.Foundation.Fallible
import Kurobara.Foundation.TransitionSystem
import Kurobara.Kernel.Run.Creation
import Kurobara.Kernel.Run.Stopping

/-! # Histories of a Run

A Run with the commands it accepted and the events they recorded, from its creation
on. The planned commands are sorted by what they do to the state and to the terminal
fields, and each field of a Run's coherence is carried along a history from there.
-/

namespace Kurobara.Kernel

open Foundation

/-! ## What a planned command does -/

/-- States that a Run holds before any stop is requested and any effect is ambiguous. -/
def runIsProgressing : RunState → Bool
  | .queued | .running | .waiting => true
  | _ => false

private def RunCommand.stopReason : RunCommand → Option StopReason
  | .requestStop reason => some reason
  | _ => none

/-- The manifest that a command concludes the Run with. -/
def RunCommand.manifest : RunCommand → Option ResultManifest
  | .completeRun manifest | .failRun manifest => some manifest
  | .resolveAmbiguity _ _ _ manifest => manifest
  | _ => none

/-- The completeness that a resolution gives a Run it cancels. -/
def RunCommand.cancelledCompleteness : RunCommand → Option ResultCompleteness
  | .resolveAmbiguity .cancelled _ resultCompleteness _ => some resultCompleteness
  | _ => none

def RunLifecycleEventDetail.cancelledReason : RunLifecycleEventDetail → Option StopReason
  | .runCancelled reason => some reason
  | _ => none

def RunConclusion.state : RunConclusion → RunState
  | .completed => .completed
  | .failed => .failed

/-- The shapes of a planned command, by the fields it writes. -/
inductive RunMove (run : Run) (command : RunCommand) (planned : RunTransitionPlan) : Prop where
  /-- The Run goes on. -/
  | progressed (before : runIsProgressing run.state = true)
      (state : planned.state = .running ∨ planned.state = .waiting)
      (completeness : planned.resultCompleteness = run.resultCompleteness)
      (pending : planned.pendingStopReason = none) (manifest : planned.resultManifest = none)
      (command : command.stopReason = none ∧ command.cancelledCompleteness = none)
  /-- A stop is requested of a Run that something in flight has still to conclude. -/
  | stopping (reason : StopReason) (command : command = .requestStop reason)
      (state : planned.state = .cancelling ∨ planned.state = .ambiguous)
      (completeness : planned.resultCompleteness = run.resultCompleteness)
      (pending : planned.pendingStopReason = some reason)
      (manifest : planned.resultManifest = none)
  /-- A queued Run is cancelled by its stop request. -/
  | stopped (reason : StopReason) (command : command = .requestStop reason)
      (state : planned.state = .cancelled)
      (completeness : planned.resultCompleteness = run.resultCompleteness)
      (manifest : planned.resultManifest = none)
      (details : planned.eventDetails = [.runStopRequested reason, .runCancelled reason])
  /-- An effect became ambiguous. -/
  | ambiguous (before : run.state = .running ∨ run.state = .cancelling)
      (state : planned.state = .ambiguous)
      (completeness : planned.resultCompleteness = run.resultCompleteness)
      (pending : planned.pendingStopReason = run.pendingStopReason)
      (manifest : planned.resultManifest = none)
      (command : command.stopReason = none ∧ command.cancelledCompleteness = none)
  /-- The Run is concluded by a manifest that identifies it. -/
  | concluded (manifest : ResultManifest) (conclusion : RunConclusion)
      (command : command.manifest = some manifest ∧ command.cancelledCompleteness = none)
      (identified : manifestIdentifiesRun run manifest conclusion = true)
      (state : planned.state = conclusion.state)
      (completeness : planned.resultCompleteness = manifest.resultCompleteness)
      (manifestRef : planned.resultManifest = some (resultManifestRef manifest))
  /-- A requested cancellation is settled. -/
  | settled (before : run.state = .cancelling) (command : command = .settleCancellation)
      (state : planned.state = .cancelled)
      (completeness : planned.resultCompleteness = run.resultCompleteness)
      (manifest : planned.resultManifest = none)
      (details : planned.eventDetails =
        [.runCancelled (run.pendingStopReason.getD .requested)])
  /-- An ambiguous Run is resolved as cancelled, as complete as the command has it. -/
  | resolved (before : run.state = .ambiguous) (resultCompleteness : ResultCompleteness)
      (command : command.stopReason = none ∧
        command.cancelledCompleteness = some resultCompleteness)
      (state : planned.state = .cancelled)
      (completeness : planned.resultCompleteness = resultCompleteness)
      (manifest : planned.resultManifest = none)
      (details : ∃ proofId, planned.eventDetails = [.ambiguityResolved .cancelled proofId,
        .runCancelled (run.pendingStopReason.getD .requested)])

theorem fromRunState_ok {run : Run} {command : RunCommandType} {state : RunState}
    {planned : Except RunTransitionFailure RunTransitionPlan} {plan : RunTransitionPlan}
    (accepted : fromRunState run command state planned = .ok plan) :
    run.state = state ∧ planned = .ok plan := by
  unfold fromRunState at accepted
  split at accepted
  · rename_i same
    exact ⟨beq_iff_eq.mp same, accepted⟩
  · cases accepted

theorem validateCompletion_ok {run : Run} {command : RunCommandType} {manifest : ResultManifest}
    {planned : RunTransitionPlan}
    (accepted : validateCompletion run command manifest = .ok planned) :
    manifestIdentifiesRun run manifest .completed = true ∧ planned.state = .completed ∧
      planned.resultCompleteness = manifest.resultCompleteness ∧
      planned.resultManifest = some (resultManifestRef manifest) := by
  unfold validateCompletion at accepted
  split at accepted
  · cases accepted
  · rename_i identified
    split at accepted
    · split at accepted
      · cases accepted
        exact ⟨by simpa using identified, rfl, rfl, rfl⟩
      · cases accepted
    · cases accepted

theorem validateFailure_ok {run : Run} {command : RunCommandType} {manifest : ResultManifest}
    {planned : RunTransitionPlan}
    (accepted : validateFailure run command manifest = .ok planned) :
    manifestIdentifiesRun run manifest .failed = true ∧ planned.state = .failed ∧
      planned.resultCompleteness = manifest.resultCompleteness ∧
      planned.resultManifest = some (resultManifestRef manifest) := by
  unfold validateFailure at accepted
  split at accepted
  · cases accepted
  · rename_i refused
    cases accepted
    have identified : manifestIdentifiesRun run manifest .failed = true := by
      by_contra unidentified
      exact refused (by simp [unidentified])
    exact ⟨identified, rfl, rfl, rfl⟩

private theorem resolveWithManifest_ok {run : Run} {resultCompleteness : ResultCompleteness}
    {missing : String} {given : Option ResultManifest}
    {validate : ResultManifest → Except RunTransitionFailure RunTransitionPlan}
    {planned : RunTransitionPlan}
    (accepted : resolveWithManifest run resultCompleteness missing given validate = .ok planned) :
    ∃ manifest, given = some manifest ∧ validate manifest = .ok planned ∧
      resultCompleteness = manifest.resultCompleteness := by
  unfold resolveWithManifest at accepted
  split at accepted
  · cases accepted
  · rename_i manifest
    split at accepted
    · cases accepted
    · rename_i validated validatedEq
      split at accepted
      · cases accepted
      · rename_i agrees
        cases accepted
        exact ⟨manifest, rfl, validatedEq, by simpa using agrees⟩

/-- A resolution concludes the Run with its manifest, or cancels it. -/
theorem resolveAmbiguity_move {run : Run} {outcome : AmbiguityRunOutcome} {proofId : String}
    {resultCompleteness : ResultCompleteness} {given : Option ResultManifest}
    {planned : RunTransitionPlan} (before : run.state = .ambiguous)
    (accepted : resolveAmbiguity run outcome proofId resultCompleteness given = .ok planned) :
    RunMove run (.resolveAmbiguity outcome proofId resultCompleteness given) planned := by
  unfold resolveAmbiguity at accepted
  split at accepted
  · cases accepted
  cases outcome with
  | completed =>
      obtain ⟨validated, validatedEq, rfl⟩ := map_eq_ok.mp accepted
      obtain ⟨manifest, rfl, accepted, agrees⟩ := resolveWithManifest_ok validatedEq
      obtain ⟨identified, state, completeness, manifestRef⟩ := validateCompletion_ok accepted
      exact .concluded manifest .completed ⟨rfl, rfl⟩ identified rfl agrees manifestRef
  | failed =>
      obtain ⟨validated, validatedEq, rfl⟩ := map_eq_ok.mp accepted
      obtain ⟨manifest, rfl, accepted, agrees⟩ := resolveWithManifest_ok validatedEq
      obtain ⟨identified, state, completeness, manifestRef⟩ := validateFailure_ok accepted
      exact .concluded manifest .failed ⟨rfl, rfl⟩ identified rfl agrees manifestRef
  | cancelled =>
      cases accepted
      exact .resolved before resultCompleteness ⟨rfl, rfl⟩ rfl rfl rfl ⟨proofId, rfl⟩

private theorem requestStop_move {run : Run} {reason : StopReason} {planned : RunTransitionPlan}
    (accepted : requestStop run reason = .ok planned) :
    RunMove run (.requestStop reason) planned := by
  unfold requestStop at accepted
  split at accepted
  · cases accepted
    exact .stopped reason rfl rfl rfl rfl rfl
  · cases accepted
    exact .stopping reason rfl (.inl rfl) rfl rfl rfl
  · cases accepted
    exact .stopping reason rfl (.inl rfl) rfl rfl rfl
  · cases accepted
    exact .stopping reason rfl (.inr rfl) rfl rfl rfl
  · cases accepted

private theorem markEffectAmbiguous_move {run : Run} {operationKey : String}
    {planned : RunTransitionPlan}
    (accepted : markEffectAmbiguous run operationKey = .ok planned) :
    RunMove run (.markEffectAmbiguous operationKey) planned := by
  unfold markEffectAmbiguous at accepted
  split at accepted
  · cases accepted
  rename_i admitted
  split at accepted
  · cases accepted
  cases accepted
  have before : run.state = .running ∨ run.state = .cancelling := by
    simpa [or_iff_not_imp_left] using admitted
  exact .ambiguous before rfl rfl rfl rfl ⟨rfl, rfl⟩

/-- Every planned command has one of the shapes. -/
theorem planRunTransition_move {run : Run} {command : RunCommand} {planned : RunTransitionPlan}
    (accepted : planRunTransition run command = .ok planned) : RunMove run command planned := by
  cases command with
  | claimRun =>
      obtain ⟨before, planEq⟩ := fromRunState_ok accepted
      cases planEq
      exact .progressed (by rw [before]; rfl) (.inl rfl) rfl rfl rfl ⟨rfl, rfl⟩
  | openInputRequest hasIndependentProgress =>
      obtain ⟨before, planEq⟩ := fromRunState_ok accepted
      cases planEq
      refine .progressed (by rw [before]; rfl) ?_ rfl rfl rfl ⟨rfl, rfl⟩
      cases hasIndependentProgress with
      | true => exact .inl rfl
      | false => exact .inr rfl
  | consumeSignal reopensGlobalProgress =>
      obtain ⟨before, planEq⟩ := fromRunState_ok accepted
      cases planEq
      refine .progressed (by rw [before]; rfl) ?_ rfl rfl rfl ⟨rfl, rfl⟩
      cases reopensGlobalProgress with
      | true => exact .inl rfl
      | false => exact .inr rfl
  | requestStop reason => exact requestStop_move accepted
  | settleCancellation =>
      obtain ⟨before, planEq⟩ := fromRunState_ok accepted
      cases planEq
      exact .settled before rfl rfl rfl rfl rfl
  | completeRun manifest =>
      obtain ⟨_, validated⟩ := fromRunState_ok accepted
      obtain ⟨identified, state, completeness, manifestRef⟩ := validateCompletion_ok validated
      exact .concluded manifest .completed ⟨rfl, rfl⟩ identified state completeness manifestRef
  | failRun manifest =>
      obtain ⟨_, validated⟩ := fromRunState_ok accepted
      obtain ⟨identified, state, completeness, manifestRef⟩ := validateFailure_ok validated
      exact .concluded manifest .failed ⟨rfl, rfl⟩ identified state completeness manifestRef
  | markEffectAmbiguous operationKey => exact markEffectAmbiguous_move accepted
  | resolveAmbiguity outcome proofId resultCompleteness manifest =>
      obtain ⟨before, resolved⟩ := fromRunState_ok accepted
      exact resolveAmbiguity_move before resolved

/-! ## Histories -/

/-- A Run with what it accepted and recorded since its creation. -/
structure RunJournal where
  run : Run
  commands : List RunCommand
  events : List RunLifecycleEvent
  deriving DecidableEq, Repr

/-- A command with the transition it was answered. -/
structure AcceptedRunCommand where
  command : RunCommand
  context : RunCommandContext
  transition : RunTransition
  deriving DecidableEq, Repr

/-- A replay adds nothing to the journal. -/
def RunJournal.record (journal : RunJournal) (accepted : AcceptedRunCommand) : RunJournal where
  run := accepted.transition.run
  commands :=
    if accepted.transition.replayed then journal.commands
    else journal.commands ++ [accepted.command]
  events := journal.events ++ accepted.transition.events

def RunJournal.created (decision : CreateRunDecision) : RunJournal where
  run := decision.run
  commands := []
  events := []

/-- The histories of a Run: created, then any commands that it accepts. -/
def runHistory : TransitionSystem RunJournal AcceptedRunCommand where
  initial journal := ∃ input decision,
    createRunFromPlan input = .ok decision ∧ journal = .created decision
  step before accepted after :=
    applyRunCommand before.run accepted.command accepted.context = .ok accepted.transition ∧
      after = before.record accepted

/-- The reason of the last stop request that the Run accepted. -/
def RunJournal.stopReason (journal : RunJournal) : Option StopReason :=
  (journal.commands.filterMap RunCommand.stopReason).getLast?

/-- The reason that the Run was cancelled for. -/
def RunJournal.cancelledReason (journal : RunJournal) : Option StopReason :=
  (journal.events.filterMap fun event => event.detail.cancelledReason).getLast?

/-- An accepted command concluded the Run with this manifest. -/
def RunJournal.IsConcludedBy (journal : RunJournal) (manifest : ResultManifest) : Prop :=
  (∃ command ∈ journal.commands, command.manifest = some manifest) ∧
    ∃ conclusion : RunConclusion, journal.run.state = conclusion.state ∧
      manifest.conclusion = conclusion ∧ manifest.runId = journal.run.runId ∧
      manifest.runPlanId = journal.run.runPlanId ∧
      manifest.workspaceId = journal.run.workspaceId

/-- The completeness that the manifest of a Run supports. -/
def RunJournal.CompletenessIsSupported (journal : RunJournal) : Prop :=
  match journal.run.resultManifest with
  | none => journal.run.resultCompleteness = .none
  | some manifestRef => ∃ manifest, journal.IsConcludedBy manifest ∧
      resultManifestRef manifest = manifestRef ∧
      manifest.resultCompleteness = journal.run.resultCompleteness

/-- What a Run, its commands and its events tell about it agree. -/
structure RunIsCoherent (journal : RunJournal) : Prop where
  contiguous : journal.events.map RunLifecycleEvent.sequence =
    List.range' 2 journal.events.length
  last : journal.run.eventSequence = journal.events.length + 1
  absorbing : runIsTerminal journal.run.state = true → ∀ command context transition,
    applyRunCommand journal.run command context = .ok transition →
      transition = ⟨journal.run, [], true⟩ ∧ ∃ proof, context.replayProof = some proof ∧
        proof.commandType = command.type ∧ proof.identity = context.commandIdentity
  manifest : journal.run.resultManifest.isSome = true ↔
    journal.run.state = .completed ∨ journal.run.state = .failed
  completeness : journal.CompletenessIsSupported
  reason : journal.run.state = .cancelled →
    journal.cancelledReason = some (journal.stopReason.getD .requested)

/-! ## The journal after a fresh command -/

private theorem sequence_toRunEvent (run : Run) (details : List RunLifecycleEventDetail)
    (context : RunCommandContext) :
    (details.mapIdx fun index detail => toRunEvent run detail context index).map
      RunLifecycleEvent.sequence = List.range' (run.eventSequence + 1) details.length := by
  apply List.ext_getElem
  · simp
  · intro index left right
    simp only [List.getElem_map, List.getElem_mapIdx, toRunEvent, List.getElem_range']
    omega

private theorem detail_toRunEvent (run : Run) (details : List RunLifecycleEventDetail)
    (context : RunCommandContext) :
    ((details.mapIdx fun index detail => toRunEvent run detail context index).filterMap
      fun event => event.detail.cancelledReason) =
        details.filterMap RunLifecycleEventDetail.cancelledReason := by
  have details_eq : (details.mapIdx fun index detail => toRunEvent run detail context index).map
      RunLifecycleEvent.detail = details := by
    apply List.ext_getElem
    · simp
    · intro index left right
      simp [toRunEvent]
  conv_rhs => rw [← details_eq]
  rw [List.filterMap_map]
  rfl

/-- The journal after a fresh command. -/
def RunJournal.fresh (journal : RunJournal) (command : RunCommand) (planned : RunTransitionPlan)
    (context : RunCommandContext) : RunJournal :=
  journal.record ⟨command, context, freshRunTransition journal.run planned context⟩

variable {journal : RunJournal} {command : RunCommand} {planned : RunTransitionPlan}
  {context : RunCommandContext}

@[simp] theorem fresh_state : (journal.fresh command planned context).run.state =
    planned.state := rfl

@[simp] theorem fresh_resultManifest :
    (journal.fresh command planned context).run.resultManifest = planned.resultManifest := rfl

@[simp] theorem fresh_resultCompleteness :
    (journal.fresh command planned context).run.resultCompleteness =
      planned.resultCompleteness := rfl

private theorem fresh_stopReason : (journal.fresh command planned context).stopReason =
    command.stopReason.or journal.stopReason := by
  cases given : command.stopReason with
  | none =>
      simp [RunJournal.stopReason, RunJournal.fresh, RunJournal.record, freshRunTransition, given]
  | some reason =>
      simp [RunJournal.stopReason, RunJournal.fresh, RunJournal.record, freshRunTransition, given]

private theorem fresh_cancelledReason : (journal.fresh command planned context).cancelledReason =
    (planned.eventDetails.filterMap RunLifecycleEventDetail.cancelledReason).getLast?.or
      journal.cancelledReason := by
  simp only [RunJournal.cancelledReason, RunJournal.fresh, RunJournal.record, freshRunTransition,
    List.filterMap_append, detail_toRunEvent, List.getLast?_append]

private theorem fresh_contiguous (last : journal.run.eventSequence = journal.events.length + 1)
    (contiguous : journal.events.map RunLifecycleEvent.sequence =
      List.range' 2 journal.events.length) :
    (journal.fresh command planned context).events.map RunLifecycleEvent.sequence =
      List.range' 2 (journal.fresh command planned context).events.length := by
  have next : journal.run.eventSequence + 1 = 2 + journal.events.length := by omega
  simp only [RunJournal.fresh, RunJournal.record, freshRunTransition, List.map_append,
    sequence_toRunEvent, contiguous, List.length_append, List.length_mapIdx, next,
    List.range'_append_1]

private theorem fresh_last (last : journal.run.eventSequence = journal.events.length + 1) :
    (journal.fresh command planned context).run.eventSequence =
      (journal.fresh command planned context).events.length + 1 := by
  simp only [RunJournal.fresh, RunJournal.record, freshRunTransition, List.length_append,
    List.length_mapIdx, last]
  omega

/-- A step of the history repeats an accepted command and changes nothing, or records
a fresh one. -/
theorem runHistory_step {before after : RunJournal} {accepted : AcceptedRunCommand}
    (moved : runHistory.step before accepted after) :
    (after = before ∧ accepted.context.replayProof ≠ none) ∨
      (accepted.context.replayProof = none ∧
        ∃ planned, RunMove before.run accepted.command planned ∧
          runIsTerminal before.run.state = false ∧
          after = before.fresh accepted.command planned accepted.context) := by
  obtain ⟨applied, rfl⟩ := moved
  obtain ⟨command, context, transition⟩ := accepted
  rcases applyRunCommand_ok applied with
    ⟨same, proof, given, _⟩ | ⟨fresh, _, planned, plannedEq, _, same⟩
  · have unchanged : transition = ⟨before.run, [], true⟩ := same
    subst unchanged
    left
    refine ⟨by simp [RunJournal.record], fun fresh => ?_⟩
    rw [fresh] at given
    cases given
  · have recorded : transition = freshRunTransition before.run planned context := same
    subst recorded
    right
    refine ⟨fresh, planned, planRunTransition_move plannedEq, ?_, rfl⟩
    by_contra terminal
    exact planRunTransition_of_terminal (by simpa using terminal) plannedEq

/-! ## What every history keeps -/

/-- The part of a Run's coherence that no command can break, and what its induction
needs about the pending stop reason. -/
structure RunHistoryInvariant (journal : RunJournal) : Prop where
  contiguous : journal.events.map RunLifecycleEvent.sequence =
    List.range' 2 journal.events.length
  last : journal.run.eventSequence = journal.events.length + 1
  manifest : journal.run.resultManifest.isSome = true ↔
    journal.run.state = .completed ∨ journal.run.state = .failed
  unstopped : runIsProgressing journal.run.state = true → journal.stopReason = none
  pending : runIsTerminal journal.run.state = false →
    journal.run.pendingStopReason = journal.stopReason
  reason : journal.run.state = .cancelled →
    journal.cancelledReason = some (journal.stopReason.getD .requested)

/-- A journal starts coherent. -/
theorem RunHistoryInvariant.created (input : CreateRunInput) :
    RunHistoryInvariant (.created ⟨queuedRun input, runQueuedEvent input⟩) where
  contiguous := rfl
  last := rfl
  manifest := by simp [RunJournal.created, queuedRun]
  unstopped _ := rfl
  pending _ := rfl
  reason state := nomatch state

/-- A fresh command keeps the journal coherent. -/
theorem RunHistoryInvariant.fresh (invariant : RunHistoryInvariant journal)
    (move : RunMove journal.run command planned)
    (live : runIsTerminal journal.run.state = false) :
    RunHistoryInvariant (journal.fresh command planned context) := by
  have contiguous := @fresh_contiguous journal command planned context invariant.last
    invariant.contiguous
  have last := @fresh_last journal command planned context invariant.last
  have pending := invariant.pending live
  have stopReason := @fresh_stopReason journal command planned context
  have cancelledReason := @fresh_cancelledReason journal command planned context
  cases move with
  | progressed before state completeness pendingNone manifest plain =>
      rw [plain.1, Option.none_or, invariant.unstopped before] at stopReason
      rcases state with state | state <;>
        exact ⟨contiguous, last, by simp [manifest, state], fun _ => stopReason,
          fun _ => pendingNone.trans stopReason.symm, fun ended => nomatch state.symm.trans ended⟩
  | stopping reason same state completeness pendingSome manifest =>
      subst same
      rcases state with state | state <;>
        exact ⟨contiguous, last, by simp [manifest, state], by simp [state, runIsProgressing],
          fun _ => pendingSome.trans stopReason.symm, fun ended => nomatch state.symm.trans ended⟩
  | stopped reason same state completeness manifest details =>
      subst same
      refine ⟨contiguous, last, by simp [manifest, state], by simp [state, runIsProgressing],
        by simp [state, runIsTerminal], fun _ => ?_⟩
      rw [cancelledReason, stopReason, details]
      rfl
  | ambiguous before state completeness pendingSame manifest plain =>
      rw [plain.1, Option.none_or] at stopReason
      exact ⟨contiguous, last, by simp [manifest, state], by simp [state, runIsProgressing],
        fun _ => pendingSame.trans (pending.trans stopReason.symm),
        fun ended => nomatch state.symm.trans ended⟩
  | concluded manifest conclusion carried identified state completeness manifestRef =>
      refine ⟨contiguous, last, ?_, ?_, ?_, ?_⟩ <;> rw [fresh_state, state]
      · rw [fresh_resultManifest, manifestRef]
        cases conclusion <;> simp [RunConclusion.state]
      all_goals cases conclusion <;> simp [RunConclusion.state, runIsProgressing, runIsTerminal]
  | settled before same state completeness manifest details =>
      subst same
      refine ⟨contiguous, last, by simp [manifest, state], by simp [state, runIsProgressing],
        by simp [state, runIsTerminal], fun _ => ?_⟩
      rw [cancelledReason, stopReason, details, pending]
      rfl
  | resolved before resultCompleteness plain state completeness manifest details =>
      obtain ⟨proofId, details⟩ := details
      refine ⟨contiguous, last, by simp [manifest, state], by simp [state, runIsProgressing],
        by simp [state, runIsTerminal], fun _ => ?_⟩
      rw [cancelledReason, stopReason, details, plain.1, pending]
      rfl

private theorem runHistoryInvariant : runHistory.Invariant RunHistoryInvariant where
  initially := by
    rintro journal ⟨input, decision, accepted, rfl⟩
    rw [createRunFromPlan_ok accepted]
    exact .created input
  preserved := by
    intro before accepted after invariant moved
    rcases runHistory_step moved with ⟨rfl, _⟩ | ⟨_, planned, move, live, rfl⟩
    · exact invariant
    · exact invariant.fresh move live

/-! ## Completeness -/

/-- A fresh resolution that cancels the Run gives it no completeness: a cancelled Run
has no manifest. -/
def AcceptedRunCommand.CancelsWithoutResult (accepted : AcceptedRunCommand) : Prop :=
  accepted.context.replayProof = none →
    ∀ resultCompleteness, accepted.command.cancelledCompleteness = some resultCompleteness →
      resultCompleteness = .none

/-- A cancelled Run that is told to be more complete than nothing. -/
def RunJournal.IsOverstated (journal : RunJournal) : Prop :=
  journal.run.state = .cancelled ∧ journal.run.resultManifest = none ∧
    journal.run.resultCompleteness ≠ .none

private theorem RunJournal.IsOverstated.not_supported (overstated : journal.IsOverstated) :
    ¬ journal.CompletenessIsSupported := by
  obtain ⟨_, manifest, completeness⟩ := overstated
  unfold RunJournal.CompletenessIsSupported
  rw [manifest]
  exact completeness

/-- A cancelled Run stays as it was cancelled. -/
theorem RunJournal.IsOverstated.run {first last : RunJournal}
    {history : List AcceptedRunCommand} (overstated : first.IsOverstated)
    (run : runHistory.Run first history last) : last.IsOverstated := by
  induction run with
  | nil journal => exact overstated
  | cons moved _ ih =>
      rcases runHistory_step moved with ⟨rfl, _⟩ | ⟨_, _, _, live, _⟩
      · exact ih overstated
      · rw [overstated.1] at live
        cases live

/-- A command that goes on from a live Run leaves it without a manifest and as complete
as it was. -/
theorem supported_of_unconcluded (invariant : RunHistoryInvariant journal)
    (supported : journal.CompletenessIsSupported)
    (live : runIsTerminal journal.run.state = false) (manifest : planned.resultManifest = none)
    (completeness : planned.resultCompleteness = journal.run.resultCompleteness) :
    (journal.fresh command planned context).CompletenessIsSupported := by
  have unconcluded : journal.run.resultManifest = none := by
    rw [← Option.not_isSome_iff_eq_none, invariant.manifest]
    rintro (state | state) <;> rw [state] at live <;> cases live
  unfold RunJournal.CompletenessIsSupported at supported ⊢
  rw [unconcluded] at supported
  rw [fresh_resultManifest, manifest]
  exact completeness.trans supported

/-- A fresh command supports the completeness it writes, unless it cancels an ambiguous
Run as more complete than nothing. -/
theorem supported_fresh (invariant : RunHistoryInvariant journal)
    (supported : journal.CompletenessIsSupported)
    (live : runIsTerminal journal.run.state = false) (move : RunMove journal.run command planned)
    (honest : ∀ resultCompleteness, command.cancelledCompleteness = some resultCompleteness →
      resultCompleteness = .none) :
    (journal.fresh command planned context).CompletenessIsSupported := by
  cases move with
  | progressed before state completeness pending manifest plain =>
      exact supported_of_unconcluded invariant supported live manifest completeness
  | stopping reason same state completeness pending manifest =>
      exact supported_of_unconcluded invariant supported live manifest completeness
  | stopped reason same state completeness manifest details =>
      exact supported_of_unconcluded invariant supported live manifest completeness
  | ambiguous before state completeness pending manifest plain =>
      exact supported_of_unconcluded invariant supported live manifest completeness
  | settled before same state completeness manifest details =>
      exact supported_of_unconcluded invariant supported live manifest completeness
  | resolved before resultCompleteness plain state completeness manifest details =>
      unfold RunJournal.CompletenessIsSupported
      rw [fresh_resultManifest, manifest]
      exact completeness.trans (honest _ plain.2)
  | concluded manifest conclusion carried identified state completeness manifestRef =>
      unfold RunJournal.CompletenessIsSupported
      rw [fresh_resultManifest, manifestRef]
      simp only [manifestIdentifiesRun, Bool.and_eq_true, beq_iff_eq] at identified
      obtain ⟨⟨⟨⟨workspace, runId⟩, plan⟩, _⟩, concluded⟩ := identified
      exact ⟨manifest, ⟨⟨command, List.mem_append_right _ (List.mem_singleton_self _), carried.1⟩,
        conclusion, state, concluded, runId, plan, workspace⟩, rfl, completeness.symm⟩

/-- The completeness of a Run is supported exactly when no resolution cancelled it as
more complete than nothing. -/
theorem completenessIsSupported_iff {first last : RunJournal} {history : List AcceptedRunCommand}
    (run : runHistory.Run first history last) (invariant : RunHistoryInvariant first)
    (supported : first.CompletenessIsSupported) :
    last.CompletenessIsSupported ↔ ∀ accepted ∈ history, accepted.CancelsWithoutResult := by
  induction run with
  | nil journal => simpa using supported
  | @cons before middle after accepted history moved rest ih =>
      have next := runHistoryInvariant.preserved _ _ _ invariant moved
      rw [List.forall_mem_cons]
      by_cases honest : accepted.CancelsWithoutResult
      · rw [and_iff_right honest]
        refine ih next ?_
        rcases runHistory_step moved with ⟨rfl, _⟩ | ⟨fresh, planned, move, live, rfl⟩
        · exact supported
        · exact supported_fresh invariant supported live move (honest fresh)
      · refine iff_of_false ?_ fun all => honest all.1
        rcases runHistory_step moved with ⟨_, replayed⟩ | ⟨_, planned, move, live, rfl⟩
        · exact absurd (fun fresh => absurd fresh replayed) honest
        · refine (RunJournal.IsOverstated.run ?_ rest).not_supported
          unfold AcceptedRunCommand.CancelsWithoutResult at honest
          obtain ⟨_, unsupported⟩ := Classical.not_imp.mp honest
          obtain ⟨resultCompleteness, refused⟩ := not_forall.mp unsupported
          obtain ⟨given, overstated⟩ := Classical.not_imp.mp refused
          cases move with
          | resolved before known plain state completeness manifest details =>
              have same : known = resultCompleteness :=
                Option.some.inj (plain.2.symm.trans given)
              exact ⟨state, manifest, by
                rw [fresh_resultCompleteness, completeness, same]
                exact overstated⟩
          | progressed before state completeness pending manifest plain =>
              exact nomatch plain.2.symm.trans given
          | ambiguous before state completeness pending manifest plain =>
              exact nomatch plain.2.symm.trans given
          | concluded manifest conclusion carried identified state completeness manifestRef =>
              exact nomatch carried.2.symm.trans given
          | stopping reason same state completeness pending manifest =>
              rw [same] at given
              cases given
          | stopped reason same state completeness manifest details =>
              rw [same] at given
              cases given
          | settled before same state completeness manifest details =>
              rw [same] at given
              cases given

/-! ## Coherence -/

/-- A terminal Run accepts only exact replays, and they change nothing. -/
theorem applyRunCommand_of_terminal {run : Run} {transition : RunTransition}
    (terminal : runIsTerminal run.state = true)
    (accepted : applyRunCommand run command context = .ok transition) :
    transition = ⟨run, [], true⟩ ∧ ∃ proof, context.replayProof = some proof ∧
      proof.commandType = command.type ∧ proof.identity = context.commandIdentity := by
  rcases applyRunCommand_ok accepted with replayed | ⟨_, _, planned, plannedEq, _, _⟩
  · exact replayed
  · exact absurd plannedEq (planRunTransition_of_terminal terminal)

/-- **Run lifecycle.** Every history of a Run leaves it coherent, exactly when no
resolution of it cancelled it as more complete than nothing: only that command writes a
completeness that it does not check. -/
theorem runHistory_isCoherent_iff {first last : RunJournal} {history : List AcceptedRunCommand}
    (start : runHistory.initial first) (run : runHistory.Run first history last) :
    RunIsCoherent last ↔ ∀ accepted ∈ history, accepted.CancelsWithoutResult := by
  have created := runHistoryInvariant.initially _ start
  have invariant := runHistoryInvariant.run run created
  have supported : first.CompletenessIsSupported := by
    obtain ⟨input, decision, accepted, rfl⟩ := start
    rw [createRunFromPlan_ok accepted]
    exact rfl
  rw [← completenessIsSupported_iff run created supported]
  constructor
  · exact RunIsCoherent.completeness
  · intro completeness
    exact ⟨invariant.contiguous, invariant.last,
      fun terminal command context transition => applyRunCommand_of_terminal terminal,
      invariant.manifest, completeness, invariant.reason⟩

/-- The creation of a Run of the sample plan. -/
def sampleRunCreation : CreateRunInput where
  plan := sampleRunPlan
  runId := "run-1"
  eventId := "event-0"
  now := 1
  actorId := "actor-1"
  correlationId := "correlation-1"
  idempotencyKey := "run-key-1"
  intentionHash := sampleHash
  requiredPermission := "datasets:plan"

theorem sampleRunCreation_ok : createRunFromPlan sampleRunCreation =
    .ok ⟨queuedRun sampleRunCreation, runQueuedEvent sampleRunCreation⟩ :=
  createRunFromPlan_of_admitted
    ⟨rfl, rfl, rfl, by decide, by decide, by decide, by with_unfolding_all decide, rfl,
      by decide, by decide⟩

/-- Plan and apply a fresh command, with as many event identifiers as it needs. -/
def RunJournal.apply (journal : RunJournal) (command : RunCommand) : Option AcceptedRunCommand :=
  match planRunTransition journal.run command with
  | .error _ => none
  | .ok planned =>
      let context : RunCommandContext := {
        commandIdentity := ⟨"run-command", sampleHash⟩
        expectedAggregateVersion := journal.run.aggregateVersion
        eventIds := List.replicate planned.eventDetails.length "event"
        occurredAt := 2
        actorId := "actor-1"
        correlationId := "correlation-1"
        replayProof := none }
      some ⟨command, context, freshRunTransition journal.run planned context⟩

private def RunJournal.applyAll (journal : RunJournal) :
    List RunCommand → Option (List AcceptedRunCommand × RunJournal)
  | [] => some ([], journal)
  | command :: commands =>
      (journal.apply command).bind fun accepted =>
        ((journal.record accepted).applyAll commands).map fun rest =>
          (accepted :: rest.1, rest.2)

private theorem RunJournal.apply_step {before : RunJournal} {command : RunCommand}
    {accepted : AcceptedRunCommand} (applied : before.apply command = some accepted) :
    accepted.command = command ∧ runHistory.step before accepted (before.record accepted) := by
  unfold RunJournal.apply at applied
  split at applied
  · cases applied
  · rename_i planned plannedEq
    cases applied
    refine ⟨rfl, ?_, rfl⟩
    simp [applyRunCommand, plannedEq]

private theorem RunJournal.applyAll_run {commands : List RunCommand} {first : RunJournal}
    {applied : List AcceptedRunCommand × RunJournal}
    (appliedEq : first.applyAll commands = some applied) :
    applied.1.map AcceptedRunCommand.command = commands ∧
      runHistory.Run first applied.1 applied.2 := by
  induction commands generalizing first applied with
  | nil =>
      cases appliedEq
      exact ⟨rfl, .nil first⟩
  | cons command commands ih =>
      obtain ⟨accepted, acceptedEq, rest⟩ := Option.bind_eq_some_iff.mp appliedEq
      obtain ⟨later, laterEq, rfl⟩ := Option.map_eq_some_iff.mp rest
      obtain ⟨same, moved⟩ := RunJournal.apply_step acceptedEq
      obtain ⟨commandsEq, run⟩ := ih laterEq
      exact ⟨by rw [List.map_cons, same, commandsEq], .cons moved run⟩

/-- A Run that is stopped while its effect is ambiguous, and cancelled by a resolution
as complete as given. -/
def sampleCancellationCommands (resultCompleteness : ResultCompleteness) : List RunCommand :=
  [.claimRun, .markEffectAmbiguous "operation-1", .requestStop .deadline,
    .resolveAmbiguity .cancelled "proof-1" resultCompleteness none]

def sampleCancelledJournal (resultCompleteness : ResultCompleteness) :
    Option (List AcceptedRunCommand × RunJournal) :=
  (RunJournal.created ⟨queuedRun sampleRunCreation, runQueuedEvent sampleRunCreation⟩).applyAll
    (sampleCancellationCommands resultCompleteness)

theorem sampleCancelledJournal_isCoherent : ∃ cancelled,
    sampleCancelledJournal .none = some cancelled ∧ RunIsCoherent cancelled.2 ∧
      cancelled.2.cancelledReason = some .deadline := by
  obtain ⟨cancelled, cancelledEq⟩ : ∃ cancelled, sampleCancelledJournal .none = some cancelled :=
    Option.isSome_iff_exists.mp (by decide)
  obtain ⟨commands, run⟩ := RunJournal.applyAll_run cancelledEq
  have coherent : RunIsCoherent cancelled.2 := by
    refine (runHistory_isCoherent_iff ⟨_, _, sampleRunCreation_ok, rfl⟩ run).mpr ?_
    intro accepted member _ resultCompleteness given
    have known : accepted.command ∈ sampleCancellationCommands .none :=
      commands ▸ List.mem_map_of_mem member
    have plain : ∀ command ∈ sampleCancellationCommands .none,
        command.cancelledCompleteness.getD .none = .none := by decide
    rw [← plain _ known, given]
    rfl
  have reason : (sampleCancelledJournal .none).bind (fun journal => journal.2.cancelledReason) =
    some .deadline := by decide
  rw [cancelledEq] at reason
  exact ⟨cancelled, cancelledEq, coherent, reason⟩

/-- A resolution that cancels the Run as complete leaves a cancelled Run without a
manifest that tells it is complete. -/
theorem cancelledRun_isOverstated : ¬ ∀ (first last : RunJournal)
    (history : List AcceptedRunCommand), runHistory.initial first →
      runHistory.Run first history last → RunIsCoherent last := by
  intro coherent
  obtain ⟨cancelled, cancelledEq⟩ :
      ∃ cancelled, sampleCancelledJournal .complete = some cancelled :=
    Option.isSome_iff_exists.mp (by decide)
  obtain ⟨_, run⟩ := RunJournal.applyAll_run cancelledEq
  have supported := (coherent _ _ _ ⟨_, _, sampleRunCreation_ok, rfl⟩ run).completeness
  have told : (sampleCancelledJournal .complete).map (fun journal =>
      (journal.2.run.resultManifest, journal.2.run.resultCompleteness)) =
        some (none, .complete) := by decide
  rw [cancelledEq] at told
  obtain ⟨manifest, completeness⟩ := Prod.mk.inj (Option.some.inj told)
  unfold RunJournal.CompletenessIsSupported at supported
  rw [manifest] at supported
  exact nomatch completeness.symm.trans supported

end Kurobara.Kernel
