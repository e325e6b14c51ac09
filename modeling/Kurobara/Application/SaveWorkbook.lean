import Kurobara.Persistence.WorkbookRows
import Kurobara.Application.GtmPlay
import Kurobara.Foundation.TransitionSystem

/-! # Saving a Workbook

`saveWorkbook` checks the history and the binding of its input against the view it read,
and then writes under the revision that the client expects to be the latest. The two agree
exactly when the client does not expect a later revision than the one the save read.
-/

namespace Kurobara.Application

open Kurobara.Kernel Kurobara.Persistence Kurobara.Foundation

/-! ## The service -/

/-- `MAX_TEXT_LENGTH`. -/
def maxTextLength : ℕ := 16384

private def boundsIssue : GtmValidationIssue where
  code := .playInvalid
  message := "The Workbook identity, name, columns, selections, annotations, or approvals " ++
    "exceed public bounds."

private def rebindingIssue : GtmValidationIssue where
  code := .workbookNotFound
  message := "A Workbook cannot be rebound to another immutable dataset materialization."

private def historyIssue : GtmValidationIssue where
  code := .playInvalid
  message := "Workbook annotation and approval history is append-only."

private def workbookRevisionIssue : GtmValidationIssue where
  code := .revisionConflict
  message := "The Workbook view changed; inspect its latest revision before saving."

private def workbooksWriteIssue : GtmValidationIssue where
  code := .permissionMissing
  message := "The API key does not grant workbooks:write."

private def selectionReasonViolatesBounds (selectedRecordIds : List String)
    (selection : GtmWorkbookSelectionReason) : Bool :=
  !selectedRecordIds.contains selection.recordId || selection.reasons.isEmpty ||
    decide (32 < selection.reasons.length) ||
    selection.reasons.any fun reason =>
      !nonBlank reason || decide (maxTextLength < (codeUnits reason).length)

private def violatesWorkbookBounds (input : GtmWorkbookViewWrite) : Bool :=
  !identifierPattern input.workbookId || !nonBlank input.name ||
    decide (255 < (codeUnits input.name).length) ||
    decide (256 < input.columnOrder.length) || decide (128 < input.filters.length) ||
    decide (1000 < input.selectedRecordIds.length) ||
    decide (1000 < input.selectionReasons.length) ||
    decide (1000 < input.annotations.length) || decide (1000 < input.approvals.length) ||
    decide (input.columnOrder.eraseDups.length ≠ input.columnOrder.length) ||
    decide (input.selectedRecordIds.eraseDups.length ≠ input.selectedRecordIds.length) ||
    decide ((input.selectionReasons.map GtmWorkbookSelectionReason.recordId).eraseDups.length ≠
      input.selectionReasons.length) ||
    input.recipeApplicationId.any (fun identity => !identifierPattern identity) ||
    input.selectionReasons.any (selectionReasonViolatesBounds input.selectedRecordIds)

/-- What the history check takes content hashes of. -/
inductive WorkbookContent where
  | annotations (entries : List GtmWorkbookAnnotation)
  | approvals (entries : List GtmWorkbookApproval)

/-- The annotations of the view that is stored already. -/
def priorAnnotations (current : Option GtmWorkbookView) : List GtmWorkbookAnnotation :=
  (current.map fun view => view.annotations).getD []

/-- The approvals of the view that is stored already. -/
def priorApprovals (current : Option GtmWorkbookView) : List GtmWorkbookApproval :=
  (current.map fun view => view.approvals).getD []

/-- The write names another dataset or materialization than the stored view. -/
def rebindsWorkbook (current : Option GtmWorkbookView) (input : GtmWorkbookViewWrite) : Bool :=
  current.any fun view =>
    view.datasetId != input.datasetId || view.materializationId != input.materializationId

private def preservesHistory (canonicalContentHash : WorkbookContent → ContentHash)
    (current : Option GtmWorkbookView) (input : GtmWorkbookViewWrite) : Bool :=
  canonicalContentHash
      (.annotations (input.annotations.take (priorAnnotations current).length)) ==
    canonicalContentHash (.annotations (priorAnnotations current)) &&
  canonicalContentHash (.approvals (input.approvals.take (priorApprovals current).length)) ==
    canonicalContentHash (.approvals (priorApprovals current))

/-- The annotations of the write behind those already stored, stamped with actor and time. -/
def addedAnnotations (actor : VerifiedApiKey) (createdAtMs : Instant)
    (current : Option GtmWorkbookView) (input : GtmWorkbookViewWrite) :
    List GtmWorkbookAnnotation :=
  (input.annotations.drop (priorAnnotations current).length).map fun annotation =>
    { annotation with
      createdAtMs := createdAtMs
      createdByActorId := actor.actorId }

/-- The approvals of the write behind those already stored, stamped with actor and time. -/
def addedApprovals (actor : VerifiedApiKey) (createdAtMs : Instant)
    (current : Option GtmWorkbookView) (input : GtmWorkbookViewWrite) :
    List GtmWorkbookApproval :=
  (input.approvals.drop (priorApprovals current).length).map fun approval =>
    { approval with
      createdAtMs := createdAtMs
      createdByActorId := actor.actorId }

/-- The write as it is stored: what was there, then what is new. -/
def canonicalInput (actor : VerifiedApiKey) (createdAtMs : Instant)
    (current : Option GtmWorkbookView) (input : GtmWorkbookViewWrite) : GtmWorkbookViewWrite :=
  { input with
    annotations :=
      priorAnnotations current ++ addedAnnotations actor createdAtMs current input
    approvals := priorApprovals current ++ addedApprovals actor createdAtMs current input }

/-- A save that has read the current view and passed its checks. -/
structure PendingSave where
  actor : VerifiedApiKey
  input : GtmWorkbookViewWrite
  current : Option GtmWorkbookView
deriving DecidableEq, Repr

section Hashed

variable (canonicalContentHash : WorkbookContent → ContentHash)

/-- `saveWorkbook` up to its write: the permission, the bounds, the read and the checks
against the view it read. -/
def readWorkbook (views : List GtmWorkbookView) (actor : VerifiedApiKey)
    (input : GtmWorkbookViewWrite) : Except GtmValidationIssue PendingSave :=
  if !hasPermission actor "workbooks:write" then .error workbooksWriteIssue
  else if violatesWorkbookBounds input then .error boundsIssue
  else
    let current := getWorkbookView views actor.workspaceId input.workbookId
    if rebindsWorkbook current input then .error rebindingIssue
    else if !preservesHistory canonicalContentHash current input then .error historyIssue
    else .ok { actor := actor, input := input, current := current }

/-- The write of `saveWorkbook`, at the instant its clock answers. -/
def storeWorkbook (views : List GtmWorkbookView) (save : PendingSave) (createdAtMs : Instant) :
    List GtmWorkbookView × Except GtmValidationIssue GtmWorkbookView :=
  match putWorkbookView views save.actor.workspaceId
      (canonicalInput save.actor createdAtMs save.current save.input) with
  | (views, .conflict) => (views, .error workbookRevisionIssue)
  | (views, .created view) => (views, .ok view)
  | (views, .updated view) => (views, .ok view)

/-- `saveWorkbook` with no other save between its read and its write. -/
def saveWorkbook (views : List GtmWorkbookView) (actor : VerifiedApiKey)
    (input : GtmWorkbookViewWrite) (createdAtMs : Instant) :
    List GtmWorkbookView × Except GtmValidationIssue GtmWorkbookView :=
  match readWorkbook canonicalContentHash views actor input with
  | .error issue => (views, .error issue)
  | .ok save => storeWorkbook views save createdAtMs

end Hashed

/-! ## Interleaved saves -/

/-- The stored revisions and the saves between their read and their write. -/
structure WorkbookState where
  views : List GtmWorkbookView
  pending : List PendingSave
deriving DecidableEq, Repr

/-- A save in two halves: its read of the latest view, and its store. -/
inductive WorkbookEvent where
  | read (actor : VerifiedApiKey) (input : GtmWorkbookViewWrite)
  | store (save : PendingSave) (createdAtMs : Instant)
deriving DecidableEq, Repr

/-- Reads and writes of any number of saves by any actors on any Workbooks, in any order. A
save that is refused at its read has no write. -/
inductive WorkbookStep (canonicalContentHash : WorkbookContent → ContentHash) :
    WorkbookState → WorkbookEvent → WorkbookState → Prop where
  | read {state : WorkbookState} {actor : VerifiedApiKey} {input : GtmWorkbookViewWrite}
      {save : PendingSave} :
      readWorkbook canonicalContentHash state.views actor input = .ok save →
      WorkbookStep canonicalContentHash state (.read actor input)
        { state with pending := save :: state.pending }
  | store {state : WorkbookState} {save : PendingSave} {createdAtMs : Instant} :
      save ∈ state.pending →
      WorkbookStep canonicalContentHash state (.store save createdAtMs)
        { views := (storeWorkbook state.views save createdAtMs).1
          pending := state.pending.erase save }

/-- Any number of saves whose reads and stores interleave. -/
def workbookSystem (canonicalContentHash : WorkbookContent → ContentHash) :
    TransitionSystem WorkbookState WorkbookEvent where
  initial state := state = { views := [], pending := [] }
  step := WorkbookStep canonicalContentHash

end Kurobara.Application
