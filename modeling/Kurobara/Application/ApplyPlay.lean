import Kurobara.Application.GtmPlay
import Kurobara.Foundation.TransitionSystem

/-! # Applying a Play

`applyPlay` stores a revision of a Play under the lifecycle of its action. The store takes
any row with the same content and lifecycle for the revision to be written, however old, so
the answered revision is the latest one exactly while no older row has both.
-/

namespace Kurobara.Application

open Kurobara.Kernel Kurobara.Persistence Kurobara.Foundation

/-! ## The service -/

/-- A stored context revision, with the questions its document leaves blocking for an
agentic outbound Play. -/
structure StoredGtmContextRevision where
  reference : GtmContextRevisionRef
  blockingQuestionIds : List String
  workspaceId : WorkspaceId
deriving DecidableEq, Repr

private def getContextRevision (contexts : List StoredGtmContextRevision)
    (workspaceId : WorkspaceId)
    (contextId : String) (revision : ℤ) : Option StoredGtmContextRevision :=
  contexts.find? fun row => row.workspaceId == workspaceId &&
    row.reference.contextId == contextId && row.reference.revision == revision

structure GtmPlayPreview where
  compilation : GtmPlayCompilation
  definition : GtmPlayDefinition
  fingerprint : ContentHash
  issues : List GtmValidationIssue
  lifecycle : GtmPlayLifecycle
  requiresHumanApproval : Bool
deriving DecidableEq, Repr

private def contextNotFoundIssue : GtmValidationIssue where
  code := .contextNotFound
  message := "The Play must pin an exact context revision in the authenticated workspace."

private def contextIncompatibleIssue : GtmValidationIssue where
  code := .contextIncompatible
  message := "The pinned context is not ready for an agentic outbound Play."

private def permissionMissingIssue (permission : String) : GtmValidationIssue where
  code := .permissionMissing
  message := "The API key does not grant " ++ permission ++ "."

private def fingerprintIssue : GtmValidationIssue where
  code := .playInvalid
  message := "The applied Play does not match the exact reviewed preview fingerprint."

private def confirmationIssue : GtmValidationIssue where
  code := .confirmationRequired
  message := "Provider spend, sensitive reveal, or export gates require matching Play " ++
    "approvals and explicit human confirmation."

private def idempotencyKeyIssue : GtmValidationIssue where
  code := .playInvalid
  message := "The Play idempotency key is invalid."

private def baseRevisionIssue : GtmValidationIssue where
  code := .revisionConflict
  message := "The Play base revision changed; preview the latest revision before applying."

private def intentionIssue : GtmValidationIssue where
  code := .revisionConflict
  message := "The idempotency key is already bound to a different Play intention."

private def contextIssues (contexts : List StoredGtmContextRevision) (actor : VerifiedApiKey)
    (contextRef : GtmContextRevisionRef) : List GtmValidationIssue :=
  match getContextRevision contexts actor.workspaceId contextRef.contextId contextRef.revision with
  | none => [contextNotFoundIssue]
  | some context =>
      if context.reference.fingerprint != contextRef.fingerprint then [contextNotFoundIssue]
      else if !context.blockingQuestionIds.isEmpty then [contextIncompatibleIssue]
      else []

inductive GtmPlayAction where
  | approve
  | pause
  | retire
  | start
deriving DecidableEq, Repr

/-- The lifecycle that an action asks for. -/
def lifecycleByAction : GtmPlayAction → GtmPlayLifecycle
  | .approve => .approved
  | .pause => .paused
  | .retire => .retired
  | .start => .active

structure ApplyPlayInput where
  action : GtmPlayAction
  approvedByHuman : Bool
  definition : GtmPlayDefinition
  expectedBaseRevision : Option ℤ
  idempotencyKey : String
  previewFingerprint : ContentHash
deriving DecidableEq, Repr

/-- What one call is given: the actor, the input, the stored contexts, the clock and the
next run identity. -/
structure ApplyPlayRequest where
  actor : VerifiedApiKey
  input : ApplyPlayInput
  contexts : List StoredGtmContextRevision
  nowMs : Instant
  nextPlayRunId : String
deriving DecidableEq, Repr

/-- The issues that refuse a request, the stored revision with its run, or an exception. -/
inductive ApplyPlayAnswer where
  | refused (issues : List GtmValidationIssue)
  | applied (revision : StoredGtmPlayRevision) (run : Option StoredGtmPlayRun)
  | thrown
deriving DecidableEq, Repr

/-- The revision that a successful action answers. -/
def ApplyPlayAnswer.appliedRevision : ApplyPlayAnswer → Option StoredGtmPlayRevision
  | .applied revision _ => some revision
  | _ => none

section Hashed

variable (canonicalContentHash : PlayContent → ContentHash)

private def previewPlay (contexts : List StoredGtmContextRevision) (actor : VerifiedApiKey)
    (definition : GtmPlayDefinition) : GtmPlayPreview :=
  let compilation := compilePlay canonicalContentHash definition
  let issues := validatePlayDefinition definition ++
    contextIssues contexts actor definition.contextRef ++
    (compilation.permissions.filter fun permission => !hasPermission actor permission).map
      permissionMissingIssue
  { compilation := compilation
    definition := definition
    fingerprint := previewFingerprint canonicalContentHash definition
    issues := issues
    lifecycle :=
      if !issues.isEmpty then .draft
      else if compilation.humanGates.isEmpty then .previewed else .awaitingApproval
    requiresHumanApproval := !compilation.humanGates.isEmpty }

/-- The issues that keep an action from being applied. -/
def applyPlayIssues (request : ApplyPlayRequest) : List GtmValidationIssue :=
  let actor := request.actor
  let input := request.input
  let preview := previewPlay canonicalContentHash request.contexts actor input.definition
  preview.issues ++
    (if preview.fingerprint != input.previewFingerprint then [fingerprintIssue] else []) ++
    (if (input.action == .approve || input.action == .start) && preview.requiresHumanApproval &&
        (!input.approvedByHuman || preview.compilation.humanGates.any fun gate =>
          !playGateIsApproved input.definition gate) then
      [confirmationIssue]
    else []) ++
    (if !identifierPattern input.idempotencyKey ||
        (input.action == .start && !hasPermission actor "plays:execute") then
      [if input.action == .start then permissionMissingIssue "plays:execute"
        else idempotencyKeyIssue]
    else [])

/-- The revision that a request stores. -/
def playRevisionWrite (request : ApplyPlayRequest) : GtmPlayRevisionWrite where
  compilation := compilePlay canonicalContentHash request.input.definition
  createdAtMs := request.nowMs
  createdByActorId := request.actor.actorId
  definition := request.input.definition
  expectedBaseRevision := request.input.expectedBaseRevision
  fingerprint := previewFingerprint canonicalContentHash request.input.definition
  lifecycle := lifecycleByAction request.input.action

/-- The run that starting a Play creates. -/
def playRunWrite (request : ApplyPlayRequest) (playRevision : ℕ) : GtmPlayRunWrite where
  compilation := compilePlay canonicalContentHash request.input.definition
  createdAtMs := request.nowMs
  definition := request.input.definition
  execution := initialPlayRunExecution request.input.definition
    (compilePlay canonicalContentHash request.input.definition)
  executionActor :=
    { actorId := request.actor.actorId
      permissions := request.actor.permissions }
  idempotencyKey := request.input.idempotencyKey
  playId := request.input.definition.playId
  playRevision := playRevision
  runId := request.nextPlayRunId

/-- What an action answers once its revision is written; `start` also creates the run. -/
def answerRevision (request : ApplyPlayRequest) (runs : List PlayRunRow)
    (revision : StoredGtmPlayRevision) : List PlayRunRow × ApplyPlayAnswer :=
  if request.input.action != .start then (runs, .applied revision none)
  else
    match createPlayRun runs request.actor.workspaceId
        (playRunWrite canonicalContentHash request revision.revision) with
    | (runs, .created run) => (runs, .applied revision (some run))
    | (runs, .existing run) => (runs, .applied revision (some run))
    | (runs, .conflict) => (runs, .refused [intentionIssue])
    | (runs, .violation) => (runs, .thrown)

/-- The checks of a request in their order, then its revision and, on a start, its run. -/
def applyPlay (tables : GtmPlayTables) (request : ApplyPlayRequest) :
    GtmPlayTables × ApplyPlayAnswer :=
  if !hasPermission request.actor "plays:write" then
    (tables, .refused [permissionMissingIssue "plays:write"])
  else
    let issues := applyPlayIssues canonicalContentHash request
    if !issues.isEmpty then (tables, .refused issues)
    else
      match putPlayRevision tables.plays request.actor.workspaceId
          (playRevisionWrite canonicalContentHash request) with
      | (plays, .conflict) =>
          ({ tables with plays := plays }, .refused [baseRevisionIssue])
      | (plays, .existing revision) =>
          let (runs, answer) := answerRevision canonicalContentHash request tables.runs revision
          ({ plays := plays, runs := runs }, answer)
      | (plays, .created revision) =>
          let (runs, answer) := answerRevision canonicalContentHash request tables.runs revision
          ({ plays := plays, runs := runs }, answer)

end Hashed

/-- A call for the sample Play. -/
def sampleRequest (action : GtmPlayAction) : ApplyPlayRequest where
  actor := sampleActor
  input :=
    { action := action
      approvedByHuman := true
      definition := samplePlay
      expectedBaseRevision := none
      idempotencyKey := "key-1"
      previewFingerprint := previewFingerprint sampleContentHash samplePlay }
  contexts :=
    [{ reference := samplePlay.contextRef
       blockingQuestionIds := []
       workspaceId := "workspace-1" }]
  nowMs := 1
  nextPlayRunId := "run-1"

end Kurobara.Application
