import Kurobara.Persistence.StepRows
import Kurobara.Persistence.RunRows

/-! # The Run proof of a generation page

`readRunProof`: what the database tells a checkpoint about the Run that executes a
page. A Run that is still moving is pending; an unknown effect is ambiguous; a Run
without success is failed; and a success comes with its attempt, route, settlement,
artifact and manifest, which must agree with one another.
-/

namespace Kurobara.Persistence

open Kernel

/-- The evidence of a page Run that succeeded. -/
structure SuccessfulPageRun (Value : Type) where
  artifact : Artifact
  artifactValue : Value
  attempt : Attempt
  manifest : ResultManifest
  routingDecision : RoutingDecision
  run : Run
  runPlan : RunPlan
  stepRun : StepRun
  usage : UsageEntry

/-- What the store proves of a page's Run. -/
inductive DatasetGenerationPageRunProof (Value : Type) where
  | pending
  | ambiguous
  | failed (reason : String)
  | succeeded (proof : SuccessfulPageRun Value)

/-- The rows of one page Run: its plan, its only step, its cost ledger, its artifacts
and its result manifest. -/
structure PageRunEvidence (Value : Type) where
  runPlan : RunPlan
  stepRun : Option StepRun
  ledger : CostLedger
  artifacts : List (Artifact × Value)
  manifest : Option ResultManifest

/-- The step of a page Run is not closed yet. -/
def stepIsOpen (stepRun : StepRun) : Bool :=
  stepRun.state == .pending || stepRun.state == .ready || stepRun.state == .active

/-- The last attempt of a page Run is still moving. -/
def attemptIsOpen (attempt : Attempt) : Bool :=
  attempt.state == .prepared || attempt.state == .claimed || attempt.state == .inFlight

private def runIsMoving (run : Run) : Bool :=
  run.state == .queued || run.state == .running

/-- What a Run proves that has not succeeded. -/
def unsuccessfulProof {Value : Type} (run : Run) (stepRun : StepRun) (attempt : Option Attempt) :
    Except PersistenceError (DatasetGenerationPageRunProof Value) :=
  if runIsMoving run || stepIsOpen stepRun || attempt.any attemptIsOpen then .ok .pending
  else if run.state == .failed || run.state == .cancelled || stepRun.state == .failed ||
      stepRun.state == .cancelled then
    .ok (.failed (if run.state == .cancelled || stepRun.state == .cancelled then
      "page-run-cancelled" else "page-run-failed"))
  else .error .databaseIdentityMismatch

section Evidence

variable {Value : Type} (evidence : PageRunEvidence Value)

/-- The attempt that the page names, as the database joins it to the step. -/
def findPageAttempt (stepRun : StepRun) (page : DatasetGenerationPage) : Option Attempt :=
  stepRun.attempts.find? fun attempt => page.attemptId == some attempt.attemptId

private def findRoutingDecision (attempt : Attempt) : Option RoutingDecision :=
  evidence.ledger.routingDecisions.find? fun decision =>
    decision.stepRunId == attempt.stepRunId &&
      decision.routingDecisionId == attempt.routingDecisionId

def findReservation (attempt : Attempt) : Option CostReservation :=
  evidence.ledger.reservations.find? fun reservation =>
    reservation.attemptId == attempt.attemptId &&
      reservation.reservationId == attempt.costReservationId

private def findUsage (reservation : CostReservation) : Option UsageEntry :=
  evidence.ledger.usageEntries.find? fun usage =>
    usage.reservationId == reservation.reservationId

private def findArtifact (attempt : Attempt) : Option (Artifact × Value) :=
  evidence.artifacts.find? fun artifact => artifact.1.attemptId == attempt.attemptId

/-- The reservation was settled by exactly this usage. -/
def reservationIsSettledBy (reservation : CostReservation) (usage : UsageEntry) : Bool :=
  match reservation.state with
  | .settled settledAmount _ _ usageEntryId =>
      usageEntryId == usage.usageEntryId && amountsEqual settledAmount usage.amount
  | _ => false

/-- The rows of a successful Run name one another. -/
def successIsConsistent (contentEvidence : ContentEvidence Value) (workspaceId : WorkspaceId)
    (lastAttempt : Attempt) (reservation : CostReservation) (proof : SuccessfulPageRun Value) :
    Bool :=
  let attempt := proof.attempt
  let artifact := proof.artifact
  let usage := proof.usage
  let decision := proof.routingDecision
  attempt.attemptId == lastAttempt.attemptId && attempt.stepRunId == proof.stepRun.stepRunId &&
    attempt.routingDecisionId == decision.routingDecisionId &&
    attempt.costReservationId == reservation.reservationId &&
    attempt.operationKey == reservation.operationKey &&
    attempt.operationKey == usage.operationKey && attempt.operationKey == artifact.operationKey &&
    reservation.attemptId == attempt.attemptId &&
    reservation.stepRunId == proof.stepRun.stepRunId && reservation.runId == proof.run.runId &&
    reservationIsSettledBy reservation usage && usage.attemptId == attempt.attemptId &&
    usage.reservationId == reservation.reservationId && usage.runId == proof.run.runId &&
    decision.runId == proof.run.runId && decision.stepRunId == proof.stepRun.stepRunId &&
    artifact.runId == proof.run.runId && artifact.stepRunId == proof.stepRun.stepRunId &&
    artifact.attemptId == attempt.attemptId &&
    artifact.contentHash == contentEvidence.contentHash proof.artifactValue &&
    artifact.sizeBytes == contentEvidence.byteSize proof.artifactValue &&
    proof.manifest.runId == proof.run.runId &&
    proof.manifest.runPlanId == proof.runPlan.runPlanId && proof.manifest.workspaceId == workspaceId

/-- The rows of a Run that succeeded, or nothing when one of them is missing. -/
def collectSuccess (run : Run) (stepRun : StepRun) (page : DatasetGenerationPage) :
    Option (CostReservation × SuccessfulPageRun Value) := do
  let attempt ← findPageAttempt stepRun page
  let decision ← findRoutingDecision evidence attempt
  let reservation ← findReservation evidence attempt
  let usage ← findUsage evidence reservation
  let artifact ← findArtifact evidence attempt
  let manifest ← evidence.manifest
  some (reservation,
    ⟨artifact.1, artifact.2, attempt, manifest, decision, run, evidence.runPlan, stepRun, usage⟩)

private def successfulProof (contentEvidence : ContentEvidence Value) (run : Run)
    (stepRun : StepRun)
    (lastAttempt : Attempt) (page : DatasetGenerationPage) :
    Except PersistenceError (DatasetGenerationPageRunProof Value) :=
  match collectSuccess evidence run stepRun page with
  | none => .error .databaseIdentityMismatch
  | some (reservation, proof) =>
      if successIsConsistent contentEvidence page.workspaceId lastAttempt reservation proof then
        .ok (.succeeded proof)
      else .error .databaseIdentityMismatch

end Evidence

/-- The Run has an unknown effect. -/
def pageRunIsAmbiguous (stepRun : StepRun) : Bool :=
  stepRun.state == .ambiguous || stepRun.attempts.getLast?.any (·.state == .ambiguous)

def readRunProof {Value : Type} (contentEvidence : ContentEvidence Value) (runs : RunRows)
    (evidence : RunId → Option (PageRunEvidence Value)) (page : DatasetGenerationPage) :
    Except PersistenceError (DatasetGenerationPageRunProof Value) :=
  match runs.findRun page.runId, evidence page.runId with
  | some run, some rows =>
      if run.runPlanId != page.runPlanId then .error .databaseIdentityMismatch
      else
        match rows.stepRun with
        | none => if runIsMoving run then .ok .pending else .error .databaseIdentityMismatch
        | some stepRun =>
            if pageRunIsAmbiguous stepRun then .ok .ambiguous
            else
              match stepRun.attempts.getLast? with
              | none => unsuccessfulProof run stepRun none
              | some lastAttempt =>
                  if run.state == .completed && stepRun.state == .succeeded &&
                      lastAttempt.state == .succeeded then
                    successfulProof rows contentEvidence run stepRun lastAttempt page
                  else unsuccessfulProof run stepRun (some lastAttempt)
  | _, _ => .error .databaseIdentityMismatch

/-- The rows of a Run that succeeded are its proof. -/
theorem readRunProof_succeeded {Value : Type} {contentEvidence : ContentEvidence Value}
    {runs : RunRows} {evidence : RunId → Option (PageRunEvidence Value)}
    {page : DatasetGenerationPage} {run : Run} {rows : PageRunEvidence Value} {stepRun : StepRun}
    {lastAttempt : Attempt} {reservation : CostReservation} {proof : SuccessfulPageRun Value}
    (found : runs.findRun page.runId = some run) (recorded : evidence page.runId = some rows)
    (planned : run.runPlanId = page.runPlanId) (stepped : rows.stepRun = some stepRun)
    (last : stepRun.attempts.getLast? = some lastAttempt) (completed : run.state = .completed)
    (succeeded : stepRun.state = .succeeded) (attempted : lastAttempt.state = .succeeded)
    (collected : collectSuccess rows run stepRun page = some (reservation, proof))
    (consistent : successIsConsistent contentEvidence page.workspaceId lastAttempt reservation
      proof = true) :
    readRunProof contentEvidence runs evidence page = .ok (.succeeded proof) := by
  simp [readRunProof, found, recorded, planned, stepped, pageRunIsAmbiguous, last, completed,
    succeeded, attempted, successfulProof, collected, consistent]

end Kurobara.Persistence
