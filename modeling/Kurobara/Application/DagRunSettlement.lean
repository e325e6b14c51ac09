import Kurobara.Application.DagRun
import Kurobara.Application.TransitionAnswer

/-! # Settlement of the attempts of a Run

The transition use case over the rows of a step moves the Run of the step as a command with
its ledger movement and its artifact does. So whatever is settled and released of a
concluded attempt adds up to what was reserved for it, and a Run that converges has spent
what its reservations settled.
-/

namespace Kurobara.Application

open Foundation Kernel Persistence

variable {Value : Type}

/-! ## What a transition leaves -/

/-- A committed transition leaves step, ledger and artifacts alone, or applies one fresh
command with the receipt that the ledger gave. -/
inductive TransitionTrace [DecidableEq Value] (hashes : CanonicalHashes Value)
    (rows after : StepRows Value) (input : TransitionStepAttemptInput Value) : Prop where
  | unchanged (stepRun : after.stepRun = rows.stepRun) (ledger : after.ledger = rows.ledger)
      (artifacts : after.artifacts = rows.artifacts)
  | applied (attempt : Attempt) (now : Instant) (retryAuthorized : Bool)
      (settlement : AppliedSettlement) (command : StepCommand) (context : StepCommandContext)
      (transition : StepTransition) (base stored : StepRows Value)
      (step : input.stepRunId = rows.stepRun.stepRunId)
      (found : targetAttempt rows.stepRun input.attemptId = some attempt)
      (valid : validateSettlement hashes.value input.request = none)
      (admitted : validateFreshTransitionContext rows attempt input = none)
      (settled : settleReservation rows.ledger input rows.stepRun attempt now =
        .ok (.ok settlement, after.ledger))
      (built : toCommand input attempt retryAuthorized settlement.proof = some command)
      (accepted : applyStepCommand rows.stepRun command context = .ok transition)
      (fresh : transition.replayed = false) (run : base.run = rows.run)
      (known : base.artifacts = rows.artifacts)
      (persisted : persistOutput hashes base input.request = .ok stored)
      (artifacts : after.artifacts = stored.artifacts)
      (stepRun : after.stepRun = transition.stepRun)

section

variable [DecidableEq Value] (hashes : CanonicalHashes Value)

/-- **Inversion of the transition use case, with its receipt and its artifact.** -/
theorem transitionStepAttempt_trace {environment : TransitionEnvironment}
    {rows after : StepRows Value} {input : TransitionStepAttemptInput Value}
    {result : TransitionStepAttemptResult}
    (committed : transitionStepAttempt hashes environment rows input = .ok (result, after)) :
    TransitionTrace hashes rows after input := by
  unfold transitionStepAttempt executeTransition at committed
  split at committed
  · cases committed
    exact .unchanged rfl rfl rfl
  rename_i valid
  split at committed
  · cases committed
    exact .unchanged rfl rfl rfl
  rename_i sameStep
  split at committed
  · cases committed
    exact .unchanged rfl rfl rfl
  rename_i attempt found
  dsimp only at committed
  split at committed
  · cases committed
    exact .unchanged rfl rfl rfl
  split at committed
  · split at committed <;> cases committed <;> exact .unchanged rfl rfl rfl
  unfold executeFreshTransition at committed
  split at committed
  · cases committed
    exact .unchanged rfl rfl rfl
  rename_i admitted
  dsimp only at committed
  split at committed
  · cases committed
    exact .unchanged rfl rfl rfl
  split at committed
  · cases committed
    exact .unchanged rfl rfl rfl
  split at committed
  · cases committed
    exact .unchanged rfl rfl rfl
  obtain ⟨generation, projectedEq⟩ :=
    projectParentEffect_rows hashes rows input attempt environment.now
  split at committed
  · rename_i failure projected answered
    rw [answered] at projectedEq
    dsimp only at projectedEq
    subst projectedEq
    cases committed
    exact .unchanged rfl rfl rfl
  rename_i projected answered
  rw [answered] at projectedEq
  dsimp only at projectedEq
  subst projectedEq
  unfold settleAndPersist at committed
  split at committed
  · cases committed
  · rename_i failure ledger settled
    cases committed
    exact .unchanged rfl ((settleReservation_frame settled).2 failure rfl) rfl
  rename_i settlement ledger settled
  split at committed
  · cases committed
  rename_i command built
  split at committed
  · cases committed
  rename_i transition accepted
  obtain ⟨persisted, done, rest⟩ := map_eq_ok.mp committed
  cases rest
  unfold persistTransition at done
  obtain ⟨stored, storedEq, attemptStored⟩ := bind_eq_ok.mp done
  obtain ⟨_, _, rfl⟩ := map_eq_ok.mp attemptStored
  have kept := persistOutput_ledger hashes storedEq
  have fresh : transition.replayed = false := by
    rcases applyStepCommand_ok accepted with ⟨_, _, given, _⟩ | ⟨_, _, planned, _, _, rfl⟩
    · cases given
    · rfl
  rw [Option.or_eq_none_iff] at admitted
  simp only [Bool.or_eq_true, not_or, bne_iff_ne, ne_eq, not_not] at sameStep
  refine .applied attempt environment.now _ settlement command _ transition _ stored
    sameStep.1 found valid admitted.2 ?_ built accepted fresh ?_ ?_ storedEq rfl rfl
  · change settleReservation rows.ledger input rows.stepRun attempt environment.now =
      .ok (.ok settlement, stored.ledger)
    rw [kept]
    exact settled
  · rfl
  · rfl

end

/-! ## The receipt -/

private theorem releaseProofFrom_receipt {reservation : CostReservation} {attempt : Attempt}
    {stepRun : StepRun} {workspaceId : WorkspaceId} {proof : AttemptSettlementProof}
    (given : releaseProofFrom reservation attempt stepRun workspaceId = .ok proof) :
    receiptOf reservation = some proof := by
  unfold releaseProofFrom at given
  split at given
  · rename_i state
    split at given
    · cases given
      simp only [receiptOf, state]
    · cases given
  · cases given

private theorem settlementProofFrom_receipt {reservation : CostReservation}
    {usage requested : UsageEntry}
    {attempt : Attempt} {stepRun : StepRun} {workspaceId : WorkspaceId}
    {proof : AttemptSettlementProof}
    (given : settlementProofFrom reservation usage requested attempt stepRun workspaceId =
      .ok proof) : receiptOf reservation = some proof := by
  unfold settlementProofFrom at given
  split at given
  · rename_i state
    split at given
    · cases given
      simp only [receiptOf, state]
    · cases given
  · cases given

/-- The receipt that a settlement of the ledger answers with. -/
inductive SettlementReceipt (ledger moved : CostLedger) (proof : AttemptSettlementProof) :
    Prop where
  | released (input : CostReservationRelease) (result : CostReservationReleaseResult)
      (concluded : CostReservation) (answered : releaseStepCost ledger input = .ok (result, moved))
      (given : result.reservation = some concluded) (receipt : receiptOf concluded = some proof)
  | settled (usage : UsageEntry) (result : CostReservationSettlementResult)
      (concluded : CostReservation) (answered : settleStepCost ledger usage = .ok (result, moved))
      (given : result.reservation = some concluded) (receipt : receiptOf concluded = some proof)

theorem settleReservation_receipt {ledger moved : CostLedger}
    {input : TransitionStepAttemptInput Value} {stepRun : StepRun} {attempt : Attempt}
    {now : Instant} {settlement : AppliedSettlement}
    (settled : settleReservation ledger input stepRun attempt now = .ok (.ok settlement, moved)) :
    (settlementOf input.request = none ∧ moved = ledger) ∨
      settlementOf input.request ≠ none ∧
        ∃ proof, settlement.proof = some proof ∧ SettlementReceipt ledger moved proof := by
  unfold settleReservation at settled
  split at settled
  · rename_i silent
    cases settled
    exact .inl ⟨silent, rfl⟩
  · rename_i asked
    refine .inr ⟨asked ▸ Option.some_ne_none _, ?_⟩
    obtain ⟨⟨result, next⟩, answered, answer⟩ := bind_eq_ok.mp settled
    cases result with
    | conflict => cases answer
    | existing reservation =>
        obtain ⟨proof, given, same⟩ := map_eq_ok.mp answer
        cases same
        exact ⟨proof, rfl, .released _ _ reservation answered rfl
          (releaseProofFrom_receipt given)⟩
    | released reservation =>
        obtain ⟨proof, given, same⟩ := map_eq_ok.mp answer
        cases same
        exact ⟨proof, rfl, .released _ _ reservation answered rfl
          (releaseProofFrom_receipt given)⟩
  · rename_i usage asked
    refine .inr ⟨asked ▸ Option.some_ne_none _, ?_⟩
    obtain ⟨⟨result, next⟩, answered, answer⟩ := bind_eq_ok.mp settled
    cases result with
    | conflict => cases answer
    | amountExceeded => cases answer
    | existing reservation recorded =>
        obtain ⟨proof, given, same⟩ := map_eq_ok.mp answer
        cases same
        exact ⟨proof, rfl, .settled _ _ reservation answered rfl
          (settlementProofFrom_receipt given)⟩
    | settled reservation recorded =>
        obtain ⟨proof, given, same⟩ := map_eq_ok.mp answer
        cases same
        exact ⟨proof, rfl, .settled _ _ reservation answered rfl
          (settlementProofFrom_receipt given)⟩

/-- An effect that is resolved as failed has no output. -/
theorem validateSettlement_failed {evidence : ContentEvidence Value} {outcome : AmbiguityOutcome}
    {proofId : String} {output : Option (StepOutputMaterialization Value)}
    {settlement : StepCostSettlement}
    (valid : validateSettlement evidence
      (.resolveAttemptAmbiguity outcome proofId output settlement) = none)
    (failed : outcome ≠ .succeeded) : output = none := by
  unfold validateSettlement at valid
  split at valid
  · cases valid
  cases output with
  | none => rfl
  | some output =>
      cases outcome with
      | succeeded => exact absurd rfl failed
      | failedRetryable =>
          dsimp only at valid
          split at valid <;> cases valid
      | failedTerminal =>
          dsimp only at valid
          split at valid <;> cases valid

/-- A command carries the receipt that it was built with, and the output of its request. -/
theorem toCommand_carries {evidence : ContentEvidence Value}
    {input : TransitionStepAttemptInput Value} {attempt : Attempt} {retryAuthorized : Bool}
    {durableSettlement : Option AttemptSettlementProof} {command : StepCommand}
    (valid : validateSettlement evidence input.request = none)
    (built : toCommand input attempt retryAuthorized durableSettlement = some command) :
    command.type ≠ .claimStepAttempt ∧
    (settlementOf input.request = none → command.settlement = none) ∧
    (∀ proof, durableSettlement = some proof → settlementOf input.request ≠ none →
      command.settlement = some proof) ∧
    command.output = (outputOf input.request).map StepOutputMaterialization.ref := by
  unfold toCommand at built
  cases request : input.request <;> rw [request] at valid <;> simp only [request] at built
  case recordAttemptNotStarted retryable =>
    split at built
    · rename_i proof durable
      cases built
      refine ⟨StepCommandType.noConfusion, nofun, ?_, rfl⟩
      rintro given rfl _
      exact congrArg some durable.symm
    · cases built
  case cancelAttemptBeforeEffect =>
    split at built
    · rename_i proof durable
      cases built
      refine ⟨StepCommandType.noConfusion, nofun, ?_, rfl⟩
      rintro given rfl _
      exact congrArg some durable.symm
    · cases built
  case startAttemptEffect =>
    cases built
    exact ⟨StepCommandType.noConfusion, fun _ => rfl, fun _ _ asked => absurd rfl asked, rfl⟩
  case markAttemptAmbiguous =>
    cases built
    exact ⟨StepCommandType.noConfusion, fun _ => rfl, fun _ _ asked => absurd rfl asked, rfl⟩
  case authorizeRetry =>
    cases built
    exact ⟨StepCommandType.noConfusion, fun _ => rfl, fun _ _ asked => absurd rfl asked, rfl⟩
  case recordAttemptFailure retryable requested =>
    cases built
    refine ⟨StepCommandType.noConfusion, nofun, ?_, rfl⟩
    rintro given rfl _
    rfl
  case recordAttemptSucceeded output usage =>
    cases built
    refine ⟨StepCommandType.noConfusion, nofun, ?_, rfl⟩
    rintro given rfl _
    rfl
  case resolveAttemptAmbiguity outcome proofId output requested =>
    cases built
    refine ⟨StepCommandType.noConfusion, nofun, ?_, ?_⟩
    · rintro given rfl _
      rfl
    · have unmaterialized : outcome ≠ .succeeded → output = none :=
        validateSettlement_failed valid
      cases outcome with
      | succeeded => rfl
      | failedRetryable =>
          cases unmaterialized AmbiguityOutcome.noConfusion
          rfl
      | failedTerminal =>
          cases unmaterialized AmbiguityOutcome.noConfusion
          rfl

/-! ## The artifact -/

/-- An artifact that is stored, or was stored before. -/
theorem insertArtifact_artifacts [DecidableEq Value] {evidence : ContentEvidence Value}
    {rows stored : StepRows Value} {artifact : Artifact} {value : Value}
    (inserted : rows.insertArtifact evidence artifact value = .ok stored) :
    (artifact.workspaceId = rows.run.workspaceId ∧ artifact.sizeBytes ≤ 65536) ∧
      ((stored.artifacts = rows.artifacts ∧ (artifact, value) ∈ rows.artifacts) ∨
        (stored.artifacts = rows.artifacts ++ [(artifact, value)] ∧
          ∀ known ∈ rows.artifacts, known.1.artifactId ≠ artifact.artifactId)) := by
  unfold StepRows.insertArtifact at inserted
  split at inserted
  · cases inserted
  rename_i matched
  simp only [Bool.or_eq_true, not_or, bne_iff_ne, ne_eq, not_not, decide_eq_true_eq, not_lt]
    at matched
  refine ⟨⟨matched.1.1.1, matched.2⟩, ?_⟩
  split at inserted
  · rename_i unknown
    cases inserted
    refine .inr ⟨rfl, fun known member => ?_⟩
    have different := List.filter_eq_nil_iff.mp unknown known member
    simp only [Bool.or_eq_true, not_or, beq_iff_eq] at different
    exact different.1
  · rename_i existing only
    split at inserted
    · rename_i same
      cases inserted
      refine .inl ⟨rfl, ?_⟩
      rw [← same]
      exact List.mem_of_mem_filter (only ▸ List.mem_singleton_self existing)
    · cases inserted
  · cases inserted

private theorem validateSettlement_output {evidence : ContentEvidence Value}
    {request : TransitionRequest Value} {output : StepOutputMaterialization Value}
    (valid : validateSettlement evidence request = none) (given : outputOf request = some output) :
    outputIsExact evidence output = true := by
  unfold validateSettlement at valid
  split at valid
  · cases valid
  split at valid
  · cases valid
  split at valid
  · cases valid
  · rename_i exact
    rw [given, Option.any_some, Bool.not_eq_true, Bool.not_eq_false'] at exact
    exact exact

private theorem validateFreshTransitionContext_output {rows : StepRows Value} {attempt : Attempt}
    {input : TransitionStepAttemptInput Value} {output : StepOutputMaterialization Value}
    (admitted : validateFreshTransitionContext rows attempt input = none)
    (given : outputOf input.request = some output) :
    outputIsBoundToSink rows attempt input.stepRunId input.workspaceId output.artifact = true := by
  unfold validateFreshTransitionContext at admitted
  split at admitted
  · cases admitted
  split at admitted
  · cases admitted
  · rename_i bound
    rw [given, Option.any_some, Bool.not_eq_true, Bool.not_eq_false'] at bound
    exact bound

/-- A validated output answers for its attempt. -/
theorem artifactMatchesOutput_of_valid {evidence : ContentEvidence Value} {rows : StepRows Value}
    {attempt : Attempt} {stepRunId : StepRunId} {workspaceId : WorkspaceId}
    {output : StepOutputMaterialization Value} (valid : outputIsExact evidence output = true)
    (bound : outputIsBoundToSink rows attempt stepRunId workspaceId output.artifact = true)
    (step : stepRunId = rows.stepRun.stepRunId)
    (workspace : output.artifact.workspaceId = rows.stepRun.workspaceId)
    (runId : rows.run.runId = rows.stepRun.runId) (size : output.artifact.sizeBytes ≤ 65536) :
    artifactMatchesOutput output.artifact output.ref rows.stepRun attempt = true ∧
      output.ref.contract = rows.plan.outputContract := by
  have safe : isSafeInteger output.artifact.sizeBytes = true := by
    rw [isSafeInteger_iff]
    unfold maxSafeInteger
    omega
  simp only [outputIsExact, Bool.and_eq_true, beq_iff_eq, decide_eq_true_eq] at valid
  simp only [outputIsBoundToSink, Bool.and_eq_true, beq_iff_eq] at bound
  obtain ⟨⟨⟨⟨⟨⟨⟨reference, contract⟩, validatedAt⟩, version⟩, named⟩, _⟩, _⟩, finalized⟩ := valid
  obtain ⟨⟨⟨⟨⟨⟨_, planned⟩, _⟩, ofRun⟩, ofStep⟩, ofAttempt⟩, operation⟩ := bound
  refine ⟨?_, contract.trans planned⟩
  simp only [artifactMatchesOutput, Bool.and_eq_true, beq_iff_eq, decide_eq_true_eq]
  refine ⟨⟨⟨⟨⟨⟨⟨⟨⟨⟨⟨⟨?_, ?_⟩, contract.symm⟩, workspace⟩, ofRun.trans runId⟩, ofStep.trans step⟩,
    ofAttempt⟩, operation⟩, safe⟩, validatedAt.symm⟩, version.symm⟩, named⟩,
      validatedAt ▸ finalized⟩
  · rw [reference]
    rfl
  · rw [reference]
    rfl

/-! ## Runs of the transition use case -/

/-- Every move of the Run but the commands on an attempt that is claimed. -/
def DagRunMove.isAside : DagRunMove → Bool
  | .commanded _ command _ => command.type == .claimStepAttempt
  | .scheduled _ | .skipped _ | .ran _ _ => true

/-- A transition of an attempt by the use case, or another move of the Run. -/
inductive TransitionRunMove (Value : Type) where
  | aside (move : DagRunMove)
  | transitioned (rows : StepRows Value) (environment : TransitionEnvironment)
      (input : TransitionStepAttemptInput Value)

/-- The moves of a Run whose attempts, once they are claimed, are moved by the transition use
case alone: over the rows of the step with the plan, the Run, the ledger and the artifacts,
and with whatever the other rows hold. -/
inductive TransitionRunStep [DecidableEq Value] (hashes : CanonicalHashes Value) :
    DagRun → TransitionRunMove Value → DagRun → Prop where
  | aside {dagRun next : DagRun} (move : DagRunMove) (moved : DagRunStep dagRun move next)
      (aside : move.isAside = true) :
      TransitionRunStep hashes dagRun (.aside move) next
  | transitioned {dagRun : DagRun} (before after : List StepRun) (rows committed : StepRows Value)
      (environment : TransitionEnvironment) (input : TransitionStepAttemptInput Value)
      (result : TransitionStepAttemptResult) (plan : rows.plan = dagRun.plan)
      (run : rows.run = dagRun.run) (located : dagRun.stepRuns = before ++ rows.stepRun :: after)
      (ledger : rows.ledger = dagRun.ledger)
      (artifacts : rows.artifacts.map Prod.fst = dagRun.artifacts)
      (ran : transitionStepAttempt hashes environment rows input = .ok (result, committed)) :
      TransitionRunStep hashes dagRun (.transitioned rows environment input)
        { dagRun with
          stepRuns := before ++ committed.stepRun :: after
          ledger := committed.ledger
          artifacts := committed.artifacts.map Prod.fst }

def transitionRuns [DecidableEq Value] (hashes : CanonicalHashes Value) :
    TransitionSystem DagRun (TransitionRunMove Value) where
  initial := IsCreatedDagRun
  step := TransitionRunStep hashes

/-- **The transition use case refines the commands of the Run.** -/
theorem transitioned_moves [DecidableEq Value] {hashes : CanonicalHashes Value} {dagRun : DagRun}
    {before after : List StepRun} {rows committed : StepRows Value}
    {input : TransitionStepAttemptInput Value} (plan : rows.plan = dagRun.plan)
    (located : dagRun.stepRuns = before ++ rows.stepRun :: after)
    (ledger : rows.ledger = dagRun.ledger)
    (artifacts : rows.artifacts.map Prod.fst = dagRun.artifacts)
    (workspaceId : rows.stepRun.workspaceId = rows.run.workspaceId)
    (runId : rows.stepRun.runId = rows.run.runId)
    (trace : TransitionTrace hashes rows committed input) :
    { dagRun with
      stepRuns := before ++ committed.stepRun :: after
      ledger := committed.ledger
      artifacts := committed.artifacts.map Prod.fst } = dagRun ∨
    ∃ move, DagRunStep dagRun move { dagRun with
      stepRuns := before ++ committed.stepRun :: after
      ledger := committed.ledger
      artifacts := committed.artifacts.map Prod.fst } := by
  cases trace with
  | unchanged sameStep sameLedger sameArtifacts =>
      left
      rw [sameStep, sameLedger, sameArtifacts, ledger, artifacts, ← located]
  | applied attempt now retryAuthorized settlement command context transition base stored step found
      valid admitted settled built accepted fresh baseRun known persisted storedArtifacts moved =>
      right
      obtain ⟨unclaimed, silent, carries, records⟩ := toCommand_carries valid built
      have ledgerMoved : LedgerMove dagRun.plan.budget rows.stepRun dagRun.ledger command
          committed.ledger := by
        rw [← ledger]
        rcases settleReservation_receipt settled with
          ⟨none, kept⟩ | ⟨asked, proof, given, receipt⟩
        · rw [kept]
          exact .silent command unclaimed (silent none)
        · have carried := carries proof given asked
          cases receipt with
          | released release result concluded answered granted receipt =>
              exact .released command release concluded result _ answered granted
                (carried.trans receipt.symm)
          | settled usage result concluded answered granted receipt =>
              exact .settled command usage concluded result _ answered granted
                (carried.trans receipt.symm)
      have recorded : OutputMove dagRun.plan rows.stepRun dagRun.artifacts command
          (committed.artifacts.map Prod.fst) := by
        rw [storedArtifacts, ← plan, ← artifacts, ← known]
        unfold persistOutput at persisted
        cases given : outputOf input.request with
        | none =>
            rw [given] at persisted records
            cases persisted
            exact .silent command records
        | some output =>
            rw [given] at persisted records
            have owned : attempt ∈ rows.stepRun.attempts := List.mem_of_find?_eq_some found
            have named : attempt.attemptId = input.attemptId := by
              simpa using List.find?_some found
            have target : command.target = some attempt.attemptId :=
              named ▸ (toCommand_some built).2
            obtain ⟨⟨workspace, size⟩, rest⟩ := insertArtifact_artifacts persisted
            obtain ⟨matched, contract⟩ := artifactMatchesOutput_of_valid
              (validateSettlement_output valid given)
              (validateFreshTransitionContext_output admitted given) step
              (workspace.trans (baseRun ▸ workspaceId.symm)) runId.symm size
            rcases rest with ⟨kept, member⟩ | ⟨grown, unknown⟩
            · rw [kept]
              exact .known command output.ref output.artifact attempt records owned target matched
                contract (List.mem_map_of_mem member)
            · rw [grown, List.map_append]
              refine .stored command output.ref output.artifact attempt records owned target matched
                contract ?_
              intro listed
              obtain ⟨⟨artifact, value⟩, member, same⟩ := List.mem_map.mp
                (List.map_map ▸ listed)
              exact unknown _ member same
      rw [moved]
      exact ⟨_, .commanded before after rows.stepRun command context transition _ _ located accepted
        fresh ledgerMoved recorded⟩

/-- A move of the transition use case leaves a Run that accepted commands reach. -/
theorem TransitionRunStep.reachable [DecidableEq Value] {hashes : CanonicalHashes Value}
    {dagRun next : DagRun} {move : TransitionRunMove Value}
    (moved : TransitionRunStep hashes dagRun move next) (reachable : dagRuns.Reachable dagRun) :
    dagRuns.Reachable next := by
  cases moved with
  | aside move moved aside => exact reachable.step moved
  | transitioned before after rows committed environment input result plan run located ledger
      artifacts ran =>
      have invariant := dagRunInvariant.reachable reachable
      have member : rows.stepRun ∈ _ := located ▸ List.mem_append_right _ List.mem_cons_self
      obtain ⟨_, workspaceId, runId⟩ :=
        stepIdentityIsValid_known (invariant.steps.identified _ member)
      rcases transitioned_moves plan located ledger artifacts (workspaceId.trans (run ▸ rfl))
        (runId.trans (run ▸ rfl)) (transitionStepAttempt_trace hashes ran) with
        same | ⟨move, moved⟩
      · rw [same]
        exact reachable
      · exact reachable.step moved

/-- A Run moved by the transition use case is a Run moved by accepted commands. -/
theorem transitionRuns_reachable [DecidableEq Value] {hashes : CanonicalHashes Value}
    {dagRun : DagRun} (reachable : (transitionRuns hashes).Reachable dagRun) :
    dagRuns.Reachable dagRun := by
  induction reachable with
  | initial created => exact .initial created
  | step _ moved ih => exact moved.reachable ih

/-! ## Conservation -/

/-- The one reservation of a concluded attempt, with nothing lost of what it reserved. -/
theorem concluded_conserved {dagRun : DagRun} (invariant : DagRunInvariant dagRun)
    {stepRun : StepRun} {attempt : Attempt} (member : stepRun ∈ dagRun.stepRuns)
    (owned : attempt ∈ stepRun.attempts) (concluded : attemptIsTerminal attempt.state = true) :
    ∃ reservation ∈ dagRun.ledger.reservations,
      ReservationBinds stepRun attempt reservation ∧
      (∀ other ∈ dagRun.ledger.reservations, other.attemptId = attempt.attemptId →
        other = reservation) ∧
      settledAmountOf reservation + releasedAmountOf reservation = attempt.reservedAmount ∧
      0 ≤ settledAmountOf reservation ∧
      settledAmountOf reservation ≤ attempt.reservedAmount := by
  have receipts := invariant.ledger.receipts
  obtain ⟨reservation, inside, binds⟩ := receipts.of_attempt member owned
  have receipt := receipts.exact reservation inside
  have total := receipt.total (binds.concluded.mpr concluded)
  rw [binds.amount] at total
  refine ⟨reservation, inside, binds, ?_, total, receipt.settled, ?_⟩
  · intro other otherInside same
    exact List.inj_on_of_nodup_map receipts.unshared otherInside inside
      (same.trans binds.attemptId.symm)
  · rw [← total]
    exact le_add_of_nonneg_right receipt.released

/-- **Settlement conserves what was reserved.** In every Run whose claimed attempts are moved
by the transition use case, a concluded attempt has one reservation, whose settled and
released amounts add up to what was reserved; and an accepted settlement proof reports the
spend of the plan with what the reservations settled, one settlement for each attempt. -/
theorem transitionRuns_settlement_conserved [DecidableEq Value] {hashes : CanonicalHashes Value}
    {dagRun : DagRun} (reachable : (transitionRuns hashes).Reachable dagRun) :
    (∀ stepRun ∈ dagRun.stepRuns, ∀ attempt ∈ stepRun.attempts,
      attemptIsTerminal attempt.state = true →
        ∃ reservation ∈ dagRun.ledger.reservations,
          ReservationBinds stepRun attempt reservation ∧
          (∀ other ∈ dagRun.ledger.reservations, other.attemptId = attempt.attemptId →
            other = reservation) ∧
          settledAmountOf reservation + releasedAmountOf reservation = attempt.reservedAmount ∧
          0 ≤ settledAmountOf reservation ∧
          settledAmountOf reservation ≤ attempt.reservedAmount) ∧
    ∀ createdAt orderedSteps settlements,
      evaluateSettlementConvergenceProof (dagRun.convergence createdAt) orderedSteps =
          .ok (.proved settlements) →
        dagRun.ledger.cost.spent = dagRun.plan.budget.spent + settledTotal settlements ∧
        settledTotal settlements = (dagRun.ledger.reservations.map settledAmountOf).sum ∧
        settlements.map ResultManifestAttemptSettlement.attemptId =
          (orderedSteps.flatMap StepRun.attempts).map Attempt.attemptId ∧
        (settlements.map ResultManifestAttemptSettlement.attemptId).Perm
          (dagRun.ledger.reservations.map CostReservation.attemptId) ∧
        (settlements.map ResultManifestAttemptSettlement.attemptId).Nodup := by
  have invariant := dagRunInvariant.reachable (transitionRuns_reachable reachable)
  refine ⟨fun stepRun member attempt owned => concluded_conserved invariant member owned, ?_⟩
  intro createdAt orderedSteps settlements accepted
  have proof := evaluateSettlementConvergenceProof_proved accepted
  have counted := proof.attempts
  rw [← proof.attemptIds] at counted
  have spent : dagRun.ledger.cost.spent = dagRun.plan.budget.spent + settledTotal settlements :=
    invariant.ledger.balanced.spent.trans (congrArg _ proof.total.symm)
  exact ⟨spent, proof.total, proof.attemptIds, counted, counted.nodup_iff.mpr proof.unshared⟩

/-! ## A sample settlement -/

/-- The rows of the claimed sample step, bound to a leaf message that was dispatched. -/
def sampleClaimedRows : StepRows String :=
  { sampleStepRows with
    plan := sampleClaimedDagRun.plan
    run := sampleClaimedDagRun.run
    ledger := sampleClaimedDagRun.ledger }

def sampleStartedRows : StepRows String := (sampleCommit sampleClaimedRows sampleStartInput).2

/-- Half of what was reserved is used. -/
def sampleUsageInput : TransitionStepAttemptInput String :=
  sampleTransitionInput "settle-1" 3 (.recordAttemptSucceeded none ⟨1, "credit", "usage-1"⟩)

def sampleSettledRows : StepRows String := (sampleCommit sampleStartedRows sampleUsageInput).2

def sampleSettledDagRun : DagRun :=
  { sampleClaimedDagRun with
    stepRuns := [sampleSettledRows.stepRun]
    ledger := sampleSettledRows.ledger
    artifacts := sampleSettledRows.artifacts.map Prod.fst }

private theorem sampleClaimedDagRun_transitions : (transitionRuns sampleHashes).Reachable
    sampleClaimedDagRun := by
  have running : (transitionRuns sampleHashes).Reachable sampleRunningDagRun :=
    (TransitionSystem.Reachable.initial sampleDagRun_created).step
      (.aside _ sampleRunningDagRun_moved rfl)
  have ready : (transitionRuns sampleHashes).Reachable sampleReadyDagRun :=
    running.step (.aside _ sampleReadyDagRun_moved rfl)
  exact ready.step (.aside _ sampleClaimedDagRun_moved rfl)

/-- A transition that commits is the one that the sample commits. -/
theorem sampleCommit_eq {rows : StepRows String} {input : TransitionStepAttemptInput String}
    (committed : (transitionStepAttempt sampleHashes sampleTransitionEnvironment rows input).isOk =
      true) :
    transitionStepAttempt sampleHashes sampleTransitionEnvironment rows input =
      .ok (sampleCommit rows input) := by
  unfold sampleCommit
  cases answer : transitionStepAttempt sampleHashes sampleTransitionEnvironment rows input with
  | ok committed => rfl
  | error thrown =>
      rw [answer] at committed
      cases committed

/-- The sample Run with the effect of its attempt started. -/
def sampleStartedDagRun : DagRun :=
  { sampleClaimedDagRun with
    stepRuns := [sampleStartedRows.stepRun]
    ledger := sampleStartedRows.ledger
    artifacts := sampleStartedRows.artifacts.map Prod.fst }

private theorem sampleStartedDagRun_transitions : (transitionRuns sampleHashes).Reachable
    sampleStartedDagRun :=
  sampleClaimedDagRun_transitions.step (@TransitionRunStep.transitioned String _ sampleHashes
    sampleClaimedDagRun [] [] sampleClaimedRows sampleStartedRows sampleTransitionEnvironment
    sampleStartInput _ rfl rfl rfl rfl rfl (sampleCommit_eq (by decide)))

private theorem sampleSettledDagRun_transitions : (transitionRuns sampleHashes).Reachable
    sampleSettledDagRun :=
  sampleStartedDagRun_transitions.step (@TransitionRunStep.transitioned String _ sampleHashes
    sampleStartedDagRun [] [] sampleStartedRows sampleSettledRows sampleTransitionEnvironment
    sampleUsageInput _ rfl rfl rfl rfl rfl (sampleCommit_eq (by with_unfolding_all decide)))

private theorem sampleSettledRows_concluded : ∃ attempt, sampleSettledRows.stepRun.attempts =
    [attempt] ∧
    attemptIsTerminal attempt.state = true ∧ attempt.reservedAmount = 2 := by
  have concluded : (sampleSettledRows.stepRun.attempts.map fun attempt =>
      (attemptIsTerminal attempt.state, attempt.reservedAmount)) = [(true, 2)] := by
    with_unfolding_all decide
  obtain ⟨attempt, single, same⟩ := List.map_eq_singleton_iff.mp concluded
  exact ⟨attempt, single, congrArg Prod.fst same, congrArg Prod.snd same⟩

theorem transitionRuns_settlement_conserved_used :
    ∃ reservation ∈ sampleSettledDagRun.ledger.reservations,
      settledAmountOf reservation + releasedAmountOf reservation = 2 ∧
        settledAmountOf reservation ≤ 2 := by
  obtain ⟨attempt, single, terminal, amount⟩ := sampleSettledRows_concluded
  obtain ⟨reservation, inside, -, -, total, -, bound⟩ :=
    (transitionRuns_settlement_conserved sampleSettledDagRun_transitions).1
      sampleSettledRows.stepRun (List.mem_singleton_self _) attempt
      (single ▸ List.mem_singleton_self _) terminal
  rw [amount] at total bound
  exact ⟨reservation, inside, total, bound⟩

end Kurobara.Application
