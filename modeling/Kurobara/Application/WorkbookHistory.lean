import Kurobara.Application.SaveWorkbook
import Mathlib.Data.List.Chain

/-! # The history of a Workbook

Over any interleaving of saves, a stored revision extends the one it follows as long as no
accepted write expects a later revision than the one its save read. A client that guesses the
number of a revision stored in between erases its entries.
-/

namespace Kurobara.Application

open Kurobara.Kernel Kurobara.Persistence Kurobara.Foundation

/-- A revision keeps the entries, in order, and the binding of the one before it. -/
structure FollowsView (view next : GtmWorkbookView) : Prop where
  annotations : view.annotations <+: next.annotations
  approvals : view.approvals <+: next.approvals
  datasetId : next.datasetId = view.datasetId
  materializationId : next.materializationId = view.materializationId

private def PendingSave.readRevision (save : PendingSave) : ℕ :=
  (save.current.map GtmWorkbookView.revision).getD 0

/-- The revision that the view of a pending save was read as is stored, and the input is
bound to the same materialization. -/
structure PendingSave.WasRead (save : PendingSave) (views : List GtmWorkbookView) : Prop where
  stored : ∀ view, save.current = some view →
    view ∈ workbookRows views save.actor.workspaceId save.input.workbookId
  bound : ∀ view, save.current = some view →
    save.input.datasetId = view.datasetId ∧ save.input.materializationId = view.materializationId

variable {canonicalContentHash : WorkbookContent → ContentHash} {views : List GtmWorkbookView}
  {save : PendingSave} {createdAtMs : Instant}

private theorem readWorkbook_ok {actor : VerifiedApiKey} {input : GtmWorkbookViewWrite}
    (read : readWorkbook canonicalContentHash views actor input = .ok save) :
    save = { actor := actor
             input := input
             current := getWorkbookView views actor.workspaceId input.workbookId } ∧
      rebindsWorkbook save.current input = false := by
  unfold readWorkbook at read
  dsimp only at read
  split at read
  · cases read
  · split at read
    · cases read
    · split at read
      · cases read
      · rename_i bound
        split at read
        · cases read
        · obtain rfl := Except.ok.inj read
          exact ⟨rfl, by simpa using bound⟩

private theorem readWorkbook_wasRead {actor : VerifiedApiKey} {input : GtmWorkbookViewWrite}
    (read : readWorkbook canonicalContentHash views actor input = .ok save) :
    save.WasRead views := by
  obtain ⟨rfl, bound⟩ := readWorkbook_ok read
  constructor
  · intro view current
    exact latestRow_mem current
  · intro view current
    dsimp only at current bound
    have kept : view.datasetId = input.datasetId ∧
        view.materializationId = input.materializationId := by
      simpa only [current, rebindsWorkbook, Option.any_some, Bool.or_eq_false_iff,
        bne_eq_false_iff_eq] using bound
    exact ⟨kept.1.symm, kept.2.symm⟩

theorem PendingSave.WasRead.append (read : save.WasRead views) (view : GtmWorkbookView) :
    save.WasRead (views ++ [view]) where
  stored prior current := by
    rw [workbookRows, List.filter_append]
    exact List.mem_append_left _ (read.stored prior current)
  bound := read.bound

/-- The revision that a save writes when its client expects the latest one. -/
def savedView (save : PendingSave) (createdAtMs : Instant) (views : List GtmWorkbookView) :
    GtmWorkbookView :=
  workbookRow save.actor.workspaceId
    (canonicalInput save.actor createdAtMs save.current save.input)
    (workbookRevision views save.actor.workspaceId save.input.workbookId + 1)

private theorem storeWorkbook_cases (views : List GtmWorkbookView) (save : PendingSave)
    (createdAtMs : Instant) :
    (storeWorkbook views save createdAtMs).1 = views ∨
    ((workbookRevision views save.actor.workspaceId save.input.workbookId : ℤ) =
        save.input.expectedRevision ∧
      (storeWorkbook views save createdAtMs).1 = views ++ [savedView save createdAtMs views]) := by
  have stored : (storeWorkbook views save createdAtMs).1 =
      (putWorkbookView views save.actor.workspaceId
        (canonicalInput save.actor createdAtMs save.current save.input)).1 := by
    unfold storeWorkbook
    split <;> rename_i put <;> rw [put]
  rw [stored]
  rcases putWorkbookView_cases views save.actor.workspaceId
      (canonicalInput save.actor createdAtMs save.current save.input) with conflict | appended
  · exact .inl (congrArg Prod.fst conflict)
  · exact .inr appended

/-- Every revision of a Workbook is numbered after and extends the one before it, and every
pending save read one of them. -/
structure WorkbookLog (state : WorkbookState) : Prop where
  contiguous : ∀ workspaceId workbookId,
    Contiguous GtmWorkbookView.revision (workbookRows state.views workspaceId workbookId)
  follows : ∀ workspaceId workbookId,
    (workbookRows state.views workspaceId workbookId).IsChain FollowsView
  read : ∀ save ∈ state.pending, save.WasRead state.views

/-- A view read under the latest number is the latest view. -/
theorem PendingSave.WasRead.isLatest (read : save.WasRead views)
    (contiguous : Contiguous GtmWorkbookView.revision
      (workbookRows views save.actor.workspaceId save.input.workbookId))
    (latest : workbookRevision views save.actor.workspaceId save.input.workbookId ≤
      save.readRevision) :
    getWorkbookView views save.actor.workspaceId save.input.workbookId = save.current := by
  cases current : save.current with
  | some view =>
      rw [PendingSave.readRevision, current] at latest
      exact contiguous.latestRow_of_revision (read.stored view current) latest
  | none =>
      rw [PendingSave.readRevision, current] at latest
      have numbers := contiguous.latestRevision_eq
      rw [workbookRevision, numbers, Option.map_none, Option.getD_none] at latest
      rw [getWorkbookView, latestRow_eq_none_iff]
      exact List.eq_nil_of_length_eq_zero (Nat.le_zero.mp latest)

/-- What a save writes extends the view it read. -/
theorem PendingSave.WasRead.follows (read : save.WasRead views) {view : GtmWorkbookView}
    (current : save.current = some view) : FollowsView view (savedView save createdAtMs views) where
  annotations := by
    simp only [savedView, workbookRow, canonicalInput, priorAnnotations, current, Option.map_some,
      Option.getD_some]
    exact List.prefix_append _ _
  approvals := by
    simp only [savedView, workbookRow, canonicalInput, priorApprovals, current, Option.map_some,
      Option.getD_some]
    exact List.prefix_append _ _
  datasetId := (read.bound view current).1
  materializationId := (read.bound view current).2

/-- The entries that a save adds to the latest revision carry its actor and its instant. -/
structure SaveAppends (views : List GtmWorkbookView) (save : PendingSave) (createdAtMs : Instant)
    (view : GtmWorkbookView) : Prop where
  workspaceId : view.workspaceId = save.actor.workspaceId
  workbookId : view.workbookId = save.input.workbookId
  revision : view.revision =
    workbookRevision views save.actor.workspaceId save.input.workbookId + 1
  annotations : ∃ added, view.annotations =
      priorAnnotations (getWorkbookView views save.actor.workspaceId save.input.workbookId) ++
        added ∧
    ∀ annotation ∈ added, annotation.createdByActorId = save.actor.actorId ∧
      annotation.createdAtMs = createdAtMs
  approvals : ∃ added, view.approvals =
      priorApprovals (getWorkbookView views save.actor.workspaceId save.input.workbookId) ++
        added ∧
    ∀ approval ∈ added, approval.createdByActorId = save.actor.actorId ∧
      approval.createdAtMs = createdAtMs
  follows : ∀ latest,
    getWorkbookView views save.actor.workspaceId save.input.workbookId = some latest →
      FollowsView latest view

private theorem savedView_appends (read : save.WasRead views)
    (isLatest : getWorkbookView views save.actor.workspaceId save.input.workbookId =
      save.current) :
    SaveAppends views save createdAtMs (savedView save createdAtMs views) where
  workspaceId := rfl
  workbookId := rfl
  revision := rfl
  annotations := by
    refine ⟨addedAnnotations save.actor createdAtMs save.current save.input,
      by rw [isLatest]; rfl, ?_⟩
    intro annotation member
    obtain ⟨entry, _, rfl⟩ := List.mem_map.mp member
    exact ⟨rfl, rfl⟩
  approvals := by
    refine ⟨addedApprovals save.actor createdAtMs save.current save.input,
      by rw [isLatest]; rfl, ?_⟩
    intro approval member
    obtain ⟨entry, _, rfl⟩ := List.mem_map.mp member
    exact ⟨rfl, rfl⟩
  follows latest found := read.follows (isLatest ▸ found)

/-- A write is refused, or expects no later revision than the one its save read. -/
def PendingSave.ExpectsReadRevision (save : PendingSave) (views : List GtmWorkbookView) : Prop :=
  (workbookRevision views save.actor.workspaceId save.input.workbookId : ℤ) =
      save.input.expectedRevision →
    save.input.expectedRevision ≤ save.readRevision

/-- **One write.** A save whose write is refused writes nothing, and any other appends to the
latest revision when it expects no later one than it read. -/
theorem storeWorkbook_appends (createdAtMs : Instant) (read : save.WasRead views)
    (contiguous : Contiguous GtmWorkbookView.revision
      (workbookRows views save.actor.workspaceId save.input.workbookId))
    (expects : save.ExpectsReadRevision views) :
    (storeWorkbook views save createdAtMs).1 = views ∨
    ∃ view, (storeWorkbook views save createdAtMs).1 = views ++ [view] ∧
      SaveAppends views save createdAtMs view := by
  rcases storeWorkbook_cases views save createdAtMs with same | ⟨latest, appended⟩
  · exact .inl same
  · have bound : workbookRevision views save.actor.workspaceId save.input.workbookId ≤
        save.readRevision := by
      have expected := expects latest
      omega
    exact .inr ⟨_, appended, savedView_appends read (read.isLatest contiguous bound)⟩

/-- Appending a save's revision keeps the log. -/
theorem WorkbookLog.append {state : WorkbookState} (log : WorkbookLog state)
    {view : GtmWorkbookView} (appends : SaveAppends state.views save createdAtMs view)
    {pending : List PendingSave} (kept : ∀ other ∈ pending, other ∈ state.pending) :
    WorkbookLog { views := state.views ++ [view], pending := pending } := by
  refine ⟨?_, ?_, fun other member => (log.read other (kept other member)).append view⟩
  · intro workspaceId workbookId
    by_cases own : view.workspaceId = workspaceId ∧ view.workbookId = workbookId
    · obtain ⟨rfl, rfl⟩ := own
      rw [workbookRows_append_self]
      refine ((log.contiguous _ _).append ?_).1
      rw [appends.revision, appends.workspaceId, appends.workbookId]
      rfl
    · rw [workbookRows_append_other own]
      exact log.contiguous workspaceId workbookId
  · intro workspaceId workbookId
    by_cases own : view.workspaceId = workspaceId ∧ view.workbookId = workbookId
    · obtain ⟨rfl, rfl⟩ := own
      rw [workbookRows_append_self]
      refine List.isChain_append.mpr ⟨log.follows _ _, .singleton _, ?_⟩
      intro last isLast next isNext
      obtain rfl : view = next := by simpa using isNext
      refine appends.follows last ?_
      rw [← appends.workspaceId, ← appends.workbookId, getWorkbookView,
        (log.contiguous _ _).latestRow_eq]
      exact isLast
    · rw [workbookRows_append_other own]
      exact log.follows workspaceId workbookId

private def FreeOfForesight (state : WorkbookState) : WorkbookEvent → Prop
  | .read _ _ => True
  | .store save _ => save.ExpectsReadRevision state.views

/-- The interleavings in which no accepted write expects a later revision than its save read. -/
def foresightFreeSystem (canonicalContentHash : WorkbookContent → ContentHash) :
    TransitionSystem WorkbookState WorkbookEvent :=
  (workbookSystem canonicalContentHash).restrict FreeOfForesight

private theorem workbookLog_invariant :
    (foresightFreeSystem canonicalContentHash).Invariant WorkbookLog where
  initially state start := by
    obtain rfl : state = { views := [], pending := [] } := start
    exact ⟨fun _ _ => Contiguous.nil, fun _ _ => .nil, fun _ member => by cases member⟩
  preserved before event after log moved := by
    obtain ⟨expects, moved⟩ := moved
    cases moved with
    | read read =>
        refine ⟨log.contiguous, log.follows, fun other member => ?_⟩
        rcases List.mem_cons.mp member with rfl | earlier
        · exact readWorkbook_wasRead read
        · exact log.read other earlier
    | @store save createdAtMs waiting =>
        have kept : ∀ other ∈ before.pending.erase save, other ∈ before.pending :=
          fun other member => List.mem_of_mem_erase member
        rcases storeWorkbook_appends createdAtMs (log.read save waiting) (log.contiguous _ _)
          expects with same | ⟨view, appended, appends⟩
        · rw [same]
          exact ⟨log.contiguous, log.follows, fun other member =>
            log.read other (kept other member)⟩
        · rw [appended]
          exact log.append appends kept

/-- With no other save between its read and its write, a save writes nothing or is a read and
a write of the interleaving, and appends to the latest revision whatever its client expects. -/
theorem saveWorkbook_appends (state : WorkbookState) (actor : VerifiedApiKey)
    (input : GtmWorkbookViewWrite) (createdAtMs : Instant) :
    (saveWorkbook canonicalContentHash state.views actor input createdAtMs).1 = state.views ∨
    ∃ save view, save.actor = actor ∧ save.input = input ∧
      (foresightFreeSystem canonicalContentHash).Run state
        [.read actor input, .store save createdAtMs]
        { state with
          views := (saveWorkbook canonicalContentHash state.views actor input createdAtMs).1 } ∧
      (saveWorkbook canonicalContentHash state.views actor input createdAtMs).1 =
        state.views ++ [view] ∧
      SaveAppends state.views save createdAtMs view := by
  unfold saveWorkbook
  cases read : readWorkbook canonicalContentHash state.views actor input with
  | error issue => exact .inl rfl
  | ok save =>
      have latest : save.current = getWorkbookView state.views actor.workspaceId input.workbookId ∧
          save.actor = actor ∧ save.input = input := by
        obtain ⟨rfl, _⟩ := readWorkbook_ok read
        exact ⟨rfl, rfl, rfl⟩
      obtain ⟨current, rfl, rfl⟩ := latest
      rcases storeWorkbook_cases state.views save createdAtMs with same | ⟨expected, appended⟩
      · exact .inl same
      have foresightFree : save.ExpectsReadRevision state.views := by
        intro _
        rw [PendingSave.readRevision, current]
        exact le_of_eq expected.symm
      have stored : WorkbookStep canonicalContentHash
          { state with pending := save :: state.pending } (.store save createdAtMs)
          { views := (storeWorkbook state.views save createdAtMs).1
            pending := (save :: state.pending).erase save } :=
        .store List.mem_cons_self
      rw [List.erase_cons_head] at stored
      refine .inr ⟨save, _, rfl, rfl, ?_, appended,
        savedView_appends (readWorkbook_wasRead read) current.symm⟩
      exact .cons ⟨trivial, .read read⟩ (.single ⟨foresightFree, stored⟩)

/-- **Append-only.** In every interleaving of saves none of whose accepted writes expects a
later revision than its save read, the revisions of each Workbook are numbered from one, each
extends the one before it, and what a write adds carries the actor of its save. A save without
another one between its read and its write is always such an interleaving. -/
theorem saveWorkbook_appendOnly (canonicalContentHash : WorkbookContent → ContentHash) :
    (∀ state, (foresightFreeSystem canonicalContentHash).Reachable state →
      ∀ workspaceId workbookId,
        Contiguous GtmWorkbookView.revision (workbookRows state.views workspaceId workbookId) ∧
        (workbookRows state.views workspaceId workbookId).IsChain FollowsView) ∧
    (∀ before save createdAtMs after,
      (foresightFreeSystem canonicalContentHash).Reachable before →
      (foresightFreeSystem canonicalContentHash).step before (.store save createdAtMs) after →
        after.views = before.views ∨
        ∃ view, after.views = before.views ++ [view] ∧
          SaveAppends before.views save createdAtMs view) ∧
    ∀ state actor input createdAtMs,
      (saveWorkbook canonicalContentHash state.views actor input createdAtMs).1 = state.views ∨
      ∃ save view, save.actor = actor ∧ save.input = input ∧
        (foresightFreeSystem canonicalContentHash).Run state
          [.read actor input, .store save createdAtMs]
          { state with
            views := (saveWorkbook canonicalContentHash state.views actor input createdAtMs).1 } ∧
        (saveWorkbook canonicalContentHash state.views actor input createdAtMs).1 =
          state.views ++ [view] ∧
        SaveAppends state.views save createdAtMs view := by
  refine ⟨?_, ?_, saveWorkbook_appends⟩
  · intro state reachable workspaceId workbookId
    have log := workbookLog_invariant.reachable reachable
    exact ⟨log.contiguous workspaceId workbookId, log.follows workspaceId workbookId⟩
  · intro before save createdAtMs after reachable moved
    have log := workbookLog_invariant.reachable reachable
    obtain ⟨expects, moved⟩ := moved
    cases moved with
    | store waiting =>
        exact storeWorkbook_appends createdAtMs (log.read save waiting) (log.contiguous _ _)
          expects

/-! ## Two actors -/

private def sampleWorkbookActor (actorId : ActorId) : VerifiedApiKey where
  actorId := actorId
  permissions := ["workbooks:read", "workbooks:write"]
  workspaceId := "workspace-1"

private def sampleNote : GtmWorkbookAnnotation where
  createdAtMs := 1
  createdByActorId := "actor-1"
  note := "Call first"
  recordId := "record-1"

private def sampleWorkbook (annotations : List GtmWorkbookAnnotation) (expectedRevision : ℤ) :
    GtmWorkbookViewWrite where
  annotations := annotations
  approvals := []
  columnOrder := ["domain"]
  contextRef := none
  datasetId := "dataset-1"
  filters := []
  materializationId := "materialization-1"
  name := "Review"
  playId := none
  playRevision := none
  playRunId := none
  recipeApplicationId := none
  selectionReasons := []
  selectedRecordIds := []
  workbookId := "workbook-1"
  expectedRevision := expectedRevision

/-- The content hashes of no entries and of the sample annotation. -/
def sampleWorkbookHash : WorkbookContent → ContentHash
  | .annotations [] =>
      "sha256:4f53cda18c2baa0c0354bb5f9a3ecbe5ed12ab4d8e11ba873c2f11161202b945"
  | .approvals [] => "sha256:4f53cda18c2baa0c0354bb5f9a3ecbe5ed12ab4d8e11ba873c2f11161202b945"
  | _ => "sha256:4f8527700b2ca7d233188605827338cc47706024d1e136ae11689bb24c5deb7f"

/-- The first save of the sample Workbook, by an actor who annotates a record. -/
def firstSave : PendingSave where
  actor := sampleWorkbookActor "actor-1"
  input := sampleWorkbook [sampleNote] 0
  current := none

/-- A save by another actor that reads no revision and expects the given one. -/
def secondSave (expectedRevision : ℤ) : PendingSave where
  actor := sampleWorkbookActor "actor-2"
  input := sampleWorkbook [] expectedRevision
  current := none

/-- The Workbooks after the first save, and after the second one wrote under the number of
the first one's revision. -/
def firstViews : List GtmWorkbookView := (storeWorkbook [] firstSave 1).1

private def secondViews : List GtmWorkbookView := (storeWorkbook firstViews (secondSave 1) 2).1

/-- A save by another actor that reads the first revision and adds to its annotations. -/
def followingSave : PendingSave where
  actor := sampleWorkbookActor "actor-2"
  input := sampleWorkbook [sampleNote, { sampleNote with note := "Called" }] 1
  current := some (savedView firstSave 1 [])

/-- The second of two saves appends to the history that the first one left. -/
theorem saveWorkbook_appendOnly_sample :
    ∃ view, (storeWorkbook firstViews followingSave 2).1 = firstViews ++ [view] ∧
      SaveAppends firstViews followingSave 2 view ∧ view.annotations.length = 2 := by
  have firstRead : (foresightFreeSystem sampleWorkbookHash).step { views := [], pending := [] }
      (.read firstSave.actor firstSave.input) { views := [], pending := [firstSave] } :=
    ⟨trivial, .read (by decide)⟩
  have firstStored : (foresightFreeSystem sampleWorkbookHash).step
      { views := [], pending := [firstSave] } (.store firstSave 1)
      { views := firstViews, pending := [firstSave].erase firstSave } :=
    ⟨fun _ => by decide, .store List.mem_cons_self⟩
  have read : (foresightFreeSystem sampleWorkbookHash).step
      { views := firstViews, pending := [firstSave].erase firstSave }
      (.read followingSave.actor followingSave.input)
      { views := firstViews, pending := followingSave :: [firstSave].erase firstSave } :=
    ⟨trivial, .read (by decide)⟩
  have stored : (foresightFreeSystem sampleWorkbookHash).step
      { views := firstViews, pending := followingSave :: [firstSave].erase firstSave }
      (.store followingSave 2)
      { views := (storeWorkbook firstViews followingSave 2).1
        pending := (followingSave :: [firstSave].erase firstSave).erase followingSave } :=
    ⟨fun _ => by decide, .store List.mem_cons_self⟩
  rcases (saveWorkbook_appendOnly sampleWorkbookHash).2.1 _ _ _ _
      (((TransitionSystem.Reachable.initial rfl).step firstRead).step firstStored |>.step read)
      stored with same | ⟨view, appended, appends⟩
  · exact absurd same (by decide)
  · have written : (storeWorkbook firstViews followingSave 2).1 =
        firstViews ++ [savedView followingSave 2 firstViews] := by decide
    obtain rfl : savedView followingSave 2 firstViews = view :=
      List.singleton_injective (List.append_cancel_left (written.symm.trans appended))
    exact ⟨_, appended, appends, by decide⟩

/-- Two saves read the Workbook before it has a revision. The second one's client expects
revision one, which the first has stored meanwhile: its write succeeds without the first
one's annotation. -/
theorem saveWorkbook_foresight_losesEntries :
    ∃ state, (workbookSystem sampleWorkbookHash).Reachable state ∧
      ¬ (workbookRows state.views "workspace-1" "workbook-1").IsChain FollowsView := by
  have first : (workbookSystem sampleWorkbookHash).step { views := [], pending := [] }
      (.read firstSave.actor firstSave.input) { views := [], pending := [firstSave] } :=
    .read (by decide)
  have second : (workbookSystem sampleWorkbookHash).step { views := [], pending := [firstSave] }
      (.read (secondSave 1).actor (secondSave 1).input)
      { views := [], pending := [secondSave 1, firstSave] } :=
    .read (by decide)
  have stored : (workbookSystem sampleWorkbookHash).step
      { views := [], pending := [secondSave 1, firstSave] } (.store firstSave 1)
      { views := firstViews, pending := [secondSave 1, firstSave].erase firstSave } :=
    .store (List.mem_cons_of_mem _ List.mem_cons_self)
  have overwritten : (workbookSystem sampleWorkbookHash).step
      { views := firstViews, pending := [secondSave 1, firstSave].erase firstSave }
      (.store (secondSave 1) 2)
      { views := secondViews
        pending := ([secondSave 1, firstSave].erase firstSave).erase (secondSave 1) } :=
    .store (by decide)
  refine ⟨_, ((((TransitionSystem.Reachable.initial rfl).step first).step second).step
    stored).step overwritten, ?_⟩
  intro chain
  have rows : workbookRows secondViews "workspace-1" "workbook-1" =
      [savedView firstSave 1 [], savedView (secondSave 1) 2 firstViews] := by decide
  rw [rows, List.isChain_pair] at chain
  have lost : sampleNote ∈ (savedView (secondSave 1) 2 firstViews).annotations :=
    chain.annotations.subset List.mem_cons_self
  cases lost

end Kurobara.Application
