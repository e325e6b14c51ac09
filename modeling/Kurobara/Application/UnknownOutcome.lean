import Kurobara.Application.StoredAmbiguity

/-! # Unknown outcomes

An unknown outcome of an effect is never guessed: not by the bridge to the plugin, not in
what an executor reports, and not in what is stored.
-/

namespace Kurobara.Application

open Foundation Kernel Persistence Plugin

variable {Value : Type}

section Pool

variable {Reply : Type} [DecidableEq Value]

/-- **An unknown outcome is never guessed.** After its `execute` was dispatched the bridge
answers definitely only what the plugin reported; an executor that saw anything unclear
reports an ambiguous attempt; over any interleaving an attempt in flight or ambiguous keeps
its reservation and stays so, or becomes ambiguous, until a transition concludes it, in
flight on the outcome of its execution, ambiguous on what a lookup found; and when an
executor that saw anything unclear has reported, the stored attempt is ambiguous with its
reservation reserved, unless another one concluded it meanwhile. -/
theorem unknownOutcome_never_guessed (hashes : CanonicalHashes Value)
    (effect : TrustedPluginLeafEffect Reply Value) :
    (∀ request exchanges outcome dispatched answer,
        (executeWithPlugin effect request).Trace exchanges outcome →
          ⟨.invoke (.execute dispatched), answer⟩ ∈ exchanges →
            (∃ reason, outcome = .outcomeUnknown reason) ∨
              ∃ final, outcome = .final final ∧ ExecutionIsReported effect request answer final) ∧
      (∀ effectAdapterKey request exchanges success,
        (executeLeafAttempt hashes effectAdapterKey request).Trace exchanges (.ok success) →
          (∃ exchange ∈ exchanges, IsUnclear exchange) → success.status = .ambiguous) ∧
      (∀ first earlier before label after attemptId state,
        (pluginPool hashes effect).initial first →
          (pluginPool hashes effect).Run first earlier before →
            (pluginPool hashes effect).step before label after →
              EffectUnsettled attemptId state before.1.stepRun →
                AttemptReserved attemptId before.1 ∧
                  ((∃ next, EffectUnsettled attemptId next after.1.stepRun ∧
                      (next = state ∨ next = .ambiguous) ∧ AttemptReserved attemptId after.1) ∨
                    ∃ input success, label = .performed (.transition input) (.ok success) ∧
                      input.attemptId = attemptId ∧ ClosingBasis effect earlier input state)) ∧
      ∀ effectAdapterKey request first exchanges labels success last, HashesTellAttempts hashes →
        LeafRowsInvariant hashes first →
          Program.Among (OwnPerforms hashes effect) (OthersMove hashes effect)
              (executeLeafAttempt hashes effectAdapterKey request) first exchanges labels
              (.ok success) last →
            (∃ exchange ∈ exchanges, IsUnclear exchange) →
              (EffectUnsettled request.attemptId .ambiguous last.stepRun ∧
                  AttemptReserved request.attemptId last) ∨
                ∃ label ∈ labels, ConcludesAttempt request.attemptId label := by
  refine ⟨?_, ?_, ?_, ?_⟩
  · intro request exchanges outcome dispatched answer traced dispatch
    rcases outcome with final | reason
    · exact .inr ⟨final, rfl, executeWithPlugin_dispatched effect traced dispatch⟩
    · exact .inl ⟨reason, rfl⟩
  · intro effectAdapterKey request exchanges success traced unclear
    exact ((executeLeafAttempt_follows effectAdapterKey request).trace traced success rfl unclear).1
  · intro first earlier before label after attemptId state start run step unsettled
    have invariant := pluginPool_invariant.run run (pluginPool_invariant.initially _ start)
    have invariantAfter := pluginPool_invariant.preserved _ _ _ invariant step
    refine ⟨invariant.attemptReserved unsettled, ?_⟩
    rcases pluginPool_unsettled_step step invariant.stepRun unsettled with
      ⟨next, stays, kind⟩ | ⟨input, success, rfl, same, closes⟩
    · exact .inl ⟨next, stays, kind, invariantAfter.attemptReserved stays⟩
    · exact .inr ⟨input, success, rfl, same, pluginPool_closingBasis start run step closes⟩
  · intro effectAdapterKey request first exchanges labels success last tells invariant among unclear
    exact ambiguity_isStored tells invariant among unclear

end Pool

/-! ## A sample execution -/

private theorem sampleExecution_dispatched : ∃ dispatched,
    ⟨.invoke (.execute dispatched), .returned "paid"⟩ ∈ sampleExecution.1 :=
  ⟨_, List.mem_of_getElem? (i := 6) rfl⟩

private theorem sampleExecution_succeeded : sampleExecution.2 =
    .final (.succeeded "value" ⟨1, requestUnit, "usage:plugin:plugin:attempt-1"⟩) := by
  decide

/-- The sample rows with the effect of the attempt started. -/
def sampleInFlightRows : StepRows String := sampleStarted.2

private theorem sampleInFlightRows_initial :
    (pluginPool sampleHashes samplePlugin).initial (sampleInFlightRows, []) := by
  refine ⟨⟨?_, ?_⟩, rfl⟩
  · have started : stepRunSystem.step sampleClaimedStep ⟨.startAttemptEffect "attempt-1",
        freshContext sampleTransitionEnvironment sampleStartInput
          ⟨sampleHashes.command (hashableCommand sampleStartInput), "start-1"⟩
          (.startAttemptEffect "attempt-1")⟩ sampleInFlightRows.stepRun := rfl
    exact sampleClaimedStep_reachable.step started
  · unfold OpenAttemptsReserved ReservationHeld
    decide

private theorem sampleInFlightRows_unsettled :
    EffectUnsettled "attempt-1" .inFlight sampleInFlightRows.stepRun := by
  unfold EffectUnsettled
  decide

/-- The sample step as an executor performs on it: it reads what is stored, its transitions
commit, and the effect is thrown. -/
def sampleHandle (rows : StepRows String) :
    (operation : LeafOperation String) → Option (operation.Answer × StepRows String)
  | .getContextByStepId .. => some (some ⟨rows.plan, none, some rows.stepRun⟩, rows)
  | .getLeafExecutionIdentity workspaceId stepRunId attemptId =>
      some (some ⟨attemptId, some "plugin", "event-1", "run-1", "start-1", stepRunId, workspaceId⟩,
        rows)
  | .transition input =>
      (transitionStepAttempt sampleHashes sampleTransitionEnvironment rows input).toOption
  | .execute _ => some (none, rows)
  | .lookup _ => some (none, rows)
  | .validate .. => some (none, rows)
  | .now => some (none, rows)

private theorem sampleHandle_performs (rows : StepRows String) (operation : LeafOperation String)
    (answer : operation.Answer) (next : StepRows String)
    (handled : sampleHandle rows operation = some (answer, next)) :
    OwnPerforms sampleHashes samplePlugin rows operation answer next := by
  cases operation with
  | transition input =>
      have committed : transitionStepAttempt sampleHashes sampleTransitionEnvironment rows input =
          .ok (answer, next) := by
        simp only [sampleHandle] at handled
        cases outcome : transitionStepAttempt sampleHashes sampleTransitionEnvironment rows
          input with
        | error error =>
            rw [outcome] at handled
            cases handled
        | ok committed =>
            rw [outcome] at handled
            exact congrArg Except.ok (Option.some.inj handled)
      exact ⟨.transition _ input answer next committed, trivial⟩
  | getContextByStepId workspaceId stepRunId =>
      cases handled
      refine ⟨.getContextByStepId workspaceId stepRunId _, ?_⟩
      rintro context stepRun ⟨⟩ ⟨⟩
      rfl
  | getLeafExecutionIdentity =>
      cases handled
      exact ⟨.getLeafExecutionIdentity _ _ _ _, trivial⟩
  | execute request =>
      cases handled
      exact ⟨.execute request none (fun _ known => by cases known), trivial⟩
  | lookup request =>
      cases handled
      exact ⟨.lookup request none (fun _ known => by cases known), trivial⟩
  | validate contract value =>
      cases handled
      exact ⟨.validate contract value none, trivial⟩
  | now =>
      cases handled
      exact ⟨.now none, trivial⟩

private theorem sampleHashes_tellAttempts : HashesTellAttempts sampleHashes := by
  intro left right type same
  simp only [sampleHashes, type] at same
  have characters := congrArg String.toList same
  simp only [String.toList_append] at characters
  exact String.ext (List.append_cancel_left (List.append_cancel_right characters))

private theorem sampleStepRows_invariant : LeafRowsInvariant sampleHashes sampleStepRows where
  stepRun := stepRunInvariant_invariant.reachable sampleClaimedStep_reachable
  reserved := by
    unfold OpenAttemptsReserved ReservationHeld
    decide
  journal proof member := by cases member

private def sampleUnclearRequest : StartLeafAttemptRequest :=
  ⟨"attempt-1", "event-1", "run-1", "start-1", "step-1", "workspace-1"⟩

/-- An execution of the sample attempt whose effect is thrown. -/
def sampleUnclearRun :=
  (executeLeafAttempt sampleHashes "plugin" sampleUnclearRequest).performedBy sampleHandle
    sampleStepRows

private theorem sampleUnclearRun_unclear : ∃ exchanges success last,
    sampleUnclearRun = some (exchanges, .ok success, last) ∧
      ∃ exchange ∈ exchanges, IsUnclear exchange :=
  ⟨_, _, _, rfl, ⟨.execute _, none⟩, List.mem_of_getElem? (i := 3) rfl,
    fun _ same => by cases same⟩

theorem unknownOutcome_never_guessed_sample :
    (∃ final, sampleExecution.2 = .final final ∧
        ExecutionIsReported samplePlugin sampleLeafRequest (.returned "paid") final) ∧
      AttemptReserved "attempt-1" sampleInFlightRows ∧
      ∃ exchanges result last, sampleUnclearRun = some (exchanges, result, last) ∧
        EffectUnsettled "attempt-1" .ambiguous last.stepRun ∧ AttemptReserved "attempt-1" last := by
  obtain ⟨dispatched, member⟩ := sampleExecution_dispatched
  have traced : (executeWithPlugin samplePlugin sampleLeafRequest).Trace sampleExecution.1
      sampleExecution.2 :=
    @Program.answeredBy_trace (pluginInterface String String) _ sampleAnswers
      (executeWithPlugin samplePlugin sampleLeafRequest)
  have untouched : (pluginPool sampleHashes samplePlugin).step (sampleInFlightRows, [])
      (.environment .rows) (sampleInFlightRows, []) :=
    .environment StepActivityLabel.rows (StepMoves.rows _ rfl rfl)
  refine ⟨?_, ?_, ?_⟩
  · rcases (unknownOutcome_never_guessed sampleHashes samplePlugin).1 _ _ _ dispatched _ traced
      member with ⟨reason, unknown⟩ | reported
    · rw [sampleExecution_succeeded] at unknown
      cases unknown
    · exact reported
  · exact ((unknownOutcome_never_guessed sampleHashes samplePlugin).2.2.1 _ [] _ _ _ "attempt-1"
      .inFlight sampleInFlightRows_initial (.nil _) untouched sampleInFlightRows_unsettled).1
  · obtain ⟨exchanges, success, last, ran, unclear⟩ := sampleUnclearRun_unclear
    refine ⟨exchanges, .ok success, last, ran, ?_⟩
    have among : Program.Among (OwnPerforms sampleHashes samplePlugin)
        (OthersMove sampleHashes samplePlugin)
        (executeLeafAttempt sampleHashes "plugin" sampleUnclearRequest) sampleStepRows exchanges []
        (.ok success) last := Program.performedBy_among sampleHandle_performs ran
    rcases (unknownOutcome_never_guessed sampleHashes samplePlugin).2.2.2 "plugin"
      sampleUnclearRequest sampleStepRows exchanges [] success last sampleHashes_tellAttempts
      sampleStepRows_invariant among unclear with ambiguous | ⟨_, member, _⟩
    · exact ambiguous
    · cases member

end Kurobara.Application
