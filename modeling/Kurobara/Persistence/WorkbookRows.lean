import Kurobara.Persistence.GtmRows

/-! # Workbook rows

The revisions of Workbook views. A view is read as its latest revision and written under
the number that the writer expects the latest revision to have.
-/

namespace Kurobara.Persistence

open Kurobara.Kernel Kurobara.Foundation

inductive WorkbookFilterValue where
  | boolean (value : Bool)
  | number (value : ℚ)
  | text (value : String)
deriving DecidableEq, Repr

/-- A filter of a view. -/
inductive GtmWorkbookFilter where
  | equals (fieldKey : String) (value : Option WorkbookFilterValue)
  | isNotNull (fieldKey : String) (value : Option WorkbookFilterValue)
deriving DecidableEq, Repr

/-- A note on a record. -/
structure GtmWorkbookAnnotation where
  createdAtMs : Instant
  createdByActorId : ActorId
  note : String
  recordId : String
deriving DecidableEq, Repr

inductive GtmWorkbookDecision where
  | approved
  | rejected
deriving DecidableEq, Repr

/-- A decision on a record. -/
structure GtmWorkbookApproval where
  createdAtMs : Instant
  createdByActorId : ActorId
  decision : GtmWorkbookDecision
  recordId : String
deriving DecidableEq, Repr

/-- What a view and a write of it have in common. -/
structure GtmWorkbookFields where
  annotations : List GtmWorkbookAnnotation
  approvals : List GtmWorkbookApproval
  columnOrder : List String
  contextRef : Option GtmContextRevisionRef
  datasetId : DatasetId
  filters : List GtmWorkbookFilter
  materializationId : DatasetMaterializationId
  name : String
  playId : Option String
  playRevision : Option ℤ
  playRunId : Option String
  recipeApplicationId : Option String
  selectionReasons : List GtmWorkbookSelectionReason
  selectedRecordIds : List String
  workbookId : String
deriving DecidableEq, Repr

/-- A stored revision of a workbook. -/
structure GtmWorkbookView extends GtmWorkbookFields where
  revision : ℕ
  workspaceId : WorkspaceId
deriving DecidableEq, Repr

/-- What is written of a workbook. -/
structure GtmWorkbookViewWrite extends GtmWorkbookFields where
  expectedRevision : ℤ
deriving DecidableEq, Repr

/-- What the store answers to a write. -/
inductive GtmWorkbookViewWriteResult where
  | conflict
  | created (view : GtmWorkbookView)
  | updated (view : GtmWorkbookView)
deriving DecidableEq, Repr

/-- The revisions of one Workbook of a workspace. -/
def workbookRows (views : List GtmWorkbookView) (workspaceId : WorkspaceId)
    (workbookId : String) : List GtmWorkbookView :=
  views.filter fun row => row.workspaceId == workspaceId && row.workbookId == workbookId

/-- The latest revision of a workbook. -/
def getWorkbookView (views : List GtmWorkbookView) (workspaceId : WorkspaceId)
    (workbookId : String) : Option GtmWorkbookView :=
  latestRow GtmWorkbookView.revision (workbookRows views workspaceId workbookId)

/-- The number of the latest revision. -/
def workbookRevision (views : List GtmWorkbookView) (workspaceId : WorkspaceId)
    (workbookId : String) : ℕ :=
  latestRevision GtmWorkbookView.revision (workbookRows views workspaceId workbookId)

/-- The row that a write is stored as. -/
def workbookRow (workspaceId : WorkspaceId) (input : GtmWorkbookViewWrite) (revision : ℕ) :
    GtmWorkbookView where
  toGtmWorkbookFields := input.toGtmWorkbookFields
  revision := revision
  workspaceId := workspaceId

/-- `putWorkbookView`: the next revision, where the latest one is the one expected. -/
def putWorkbookView (views : List GtmWorkbookView) (workspaceId : WorkspaceId)
    (input : GtmWorkbookViewWrite) : List GtmWorkbookView × GtmWorkbookViewWriteResult :=
  let latest := workbookRevision views workspaceId input.workbookId
  if (latest : ℤ) ≠ input.expectedRevision then (views, .conflict)
  else
    let view := workbookRow workspaceId input (latest + 1)
    (views ++ [view], if latest = 0 then .created view else .updated view)

theorem workbookRows_append_self {views : List GtmWorkbookView} {view : GtmWorkbookView} :
    workbookRows (views ++ [view]) view.workspaceId view.workbookId =
      workbookRows views view.workspaceId view.workbookId ++ [view] := by
  simp [workbookRows]

theorem workbookRows_append_other {views : List GtmWorkbookView} {view : GtmWorkbookView}
    {workspaceId : WorkspaceId} {workbookId : String}
    (other : ¬(view.workspaceId = workspaceId ∧ view.workbookId = workbookId)) :
    workbookRows (views ++ [view]) workspaceId workbookId =
      workbookRows views workspaceId workbookId := by
  simpa [workbookRows] using other

/-- Writing a view either finds another latest revision or appends the next one. -/
theorem putWorkbookView_cases (views : List GtmWorkbookView) (workspaceId : WorkspaceId)
    (input : GtmWorkbookViewWrite) :
    putWorkbookView views workspaceId input = (views, .conflict) ∨
    ((workbookRevision views workspaceId input.workbookId : ℤ) = input.expectedRevision ∧
      (putWorkbookView views workspaceId input).1 = views ++
        [workbookRow workspaceId input
          (workbookRevision views workspaceId input.workbookId + 1)]) := by
  by_cases current :
      (workbookRevision views workspaceId input.workbookId : ℤ) = input.expectedRevision
  · exact .inr ⟨current, by simp [putWorkbookView, current]⟩
  · exact .inl (by simp [putWorkbookView, current])

end Kurobara.Persistence
