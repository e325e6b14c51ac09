import Kurobara.Application.ApplyPlay
import Mathlib.Data.Set.Function

/-! # The lifecycle of a Play

Over runs of `applyPlay`, the latest revision of a Play is the one its last action answered,
as long as no answered action has the content and the lifecycle of an older revision. Without that
condition a Play that was approved, paused and approved again answers as approved while its
latest revision is paused.
-/

namespace Kurobara.Application

open Kurobara.Kernel Kurobara.Persistence Kurobara.Foundation

/-! ## One action -/

private def ApplyPlayRequest.isOn (request : ApplyPlayRequest) (workspaceId : WorkspaceId)
    (playId : String) : Bool :=
  request.actor.workspaceId == workspaceId && request.input.definition.playId == playId

/-- The latest revision of the Play that a request acts on. -/
def ApplyPlayRequest.latest (request : ApplyPlayRequest) (tables : GtmPlayTables) :
    Option StoredGtmPlayRevision :=
  latestPlayRevision tables.plays request.actor.workspaceId request.input.definition.playId

/-- A revision has the lifecycle and the definition of a request's action. -/
def ApplyPlayRequest.IsAppliedBy (request : ApplyPlayRequest) (revision : StoredGtmPlayRevision) :
    Prop :=
  revision.lifecycle = lifecycleByAction request.input.action ∧
    revision.definition = request.input.definition

variable {canonicalContentHash : PlayContent → ContentHash} {tables : GtmPlayTables}
  {request : ApplyPlayRequest}

private theorem answerRevision_applied {runs : List PlayRunRow}
    {revision answered : StoredGtmPlayRevision}
    (applied : (answerRevision canonicalContentHash request runs revision).2.appliedRevision =
      some answered) : answered = revision := by
  unfold answerRevision at applied
  split at applied
  · exact (Option.some.inj applied).symm
  · split at applied
    · exact (Option.some.inj applied).symm
    · exact (Option.some.inj applied).symm
    · cases applied
    · cases applied

/-- **What one action does to the Plays.** It is refused without a write, answers a stored
revision of the same content and lifecycle, or appends the revision after the latest one. -/
theorem applyPlay_cases (canonicalContentHash : PlayContent → ContentHash)
    (tables : GtmPlayTables) (request : ApplyPlayRequest) :
    ((applyPlay canonicalContentHash tables request).1.plays = tables.plays ∧
      (applyPlay canonicalContentHash tables request).2.appliedRevision = none) ∨
    (∃ row, existingPlayRevision tables.plays request.actor.workspaceId
        (playRevisionWrite canonicalContentHash request) = some row ∧
      (applyPlay canonicalContentHash tables request).1.plays = tables.plays ∧
      ∀ answered, (applyPlay canonicalContentHash tables request).2.appliedRevision =
        some answered → answered = row) ∨
    ∃ row, row = playRevisionRow request.actor.workspaceId
        (playRevisionWrite canonicalContentHash request)
        (latestRevision StoredGtmPlayRevision.revision (playRows tables.plays
          request.actor.workspaceId request.input.definition.playId) + 1) ∧
      existingPlayRevision tables.plays request.actor.workspaceId
        (playRevisionWrite canonicalContentHash request) = none ∧
      (∀ base, request.input.expectedBaseRevision = some base →
        base = latestRevision StoredGtmPlayRevision.revision (playRows tables.plays
          request.actor.workspaceId request.input.definition.playId)) ∧
      (applyPlay canonicalContentHash tables request).1.plays = tables.plays ++ [row] ∧
      ∀ answered, (applyPlay canonicalContentHash tables request).2.appliedRevision =
        some answered → answered = row := by
  unfold applyPlay
  by_cases permitted : hasPermission request.actor "plays:write" = true
  · by_cases clean : (applyPlayIssues canonicalContentHash request).isEmpty = true
    · simp only [permitted, clean, Bool.not_true, Bool.false_eq_true, ↓reduceIte]
      rcases putPlayRevision_cases tables.plays request.actor.workspaceId
          (playRevisionWrite canonicalContentHash request) with
        ⟨row, found, put⟩ | put | ⟨row, rowEq, absent, base, put⟩
      · rw [put]
        exact .inr (.inl ⟨row, found, rfl, fun answered => answerRevision_applied⟩)
      · rw [put]
        exact .inl ⟨rfl, rfl⟩
      · rw [put]
        exact .inr (.inr ⟨row, rowEq, absent, base, rfl,
          fun answered => answerRevision_applied⟩)
    · simp [permitted, clean, ApplyPlayAnswer.appliedRevision]
  · simp [permitted, ApplyPlayAnswer.appliedRevision]

/-! ## What the store keeps -/

variable {definitions : Set GtmPlayDefinition}

/-- The revisions of each Play are numbered from one, and each has the fingerprint of its
definition, one of the definitions in use. -/
structure PlayLog (canonicalContentHash : PlayContent → ContentHash)
    (definitions : Set GtmPlayDefinition) (tables : GtmPlayTables) : Prop where
  contiguous : ∀ workspaceId playId,
    Contiguous StoredGtmPlayRevision.revision (playRows tables.plays workspaceId playId)
  recorded : ∀ row ∈ tables.plays, row.definition ∈ definitions ∧
    row.fingerprint = previewFingerprint canonicalContentHash row.definition

theorem PlayLog.empty : PlayLog canonicalContentHash definitions GtmPlayTables.empty where
  contiguous _ _ := Contiguous.nil
  recorded _ member := by cases member

/-- An action keeps the log of revisions. -/
theorem PlayLog.applyPlay (log : PlayLog canonicalContentHash definitions tables)
    (used : request.input.definition ∈ definitions) :
    PlayLog canonicalContentHash definitions (applyPlay canonicalContentHash tables request).1 := by
  rcases applyPlay_cases canonicalContentHash tables request with
    ⟨same, _⟩ | ⟨_, _, same, _⟩ | ⟨row, rowEq, _, _, appended, _⟩
  · exact ⟨same ▸ log.contiguous, same ▸ log.recorded⟩
  · exact ⟨same ▸ log.contiguous, same ▸ log.recorded⟩
  · constructor
    · intro workspaceId playId
      rw [appended]
      by_cases own : row.workspaceId = workspaceId ∧ row.playId = playId
      · obtain ⟨rfl, rfl⟩ := own
        rw [playRows_append_self]
        refine ((log.contiguous _ _).append ?_).1
        rw [rowEq]
        rfl
      · rw [playRows_append_other own]
        exact log.contiguous workspaceId playId
    · intro other member
      rw [appended, List.mem_append, List.mem_singleton] at member
      rcases member with stored | rfl
      · exact log.recorded other stored
      · rw [rowEq]
        exact ⟨used, rfl⟩

/-- No revision but the latest has the content and the lifecycle of the action. -/
def NoOlderTwin (canonicalContentHash : PlayContent → ContentHash) (tables : GtmPlayTables)
    (request : ApplyPlayRequest) : Prop :=
  ∀ row ∈ playRows tables.plays request.actor.workspaceId request.input.definition.playId,
    row.fingerprint = previewFingerprint canonicalContentHash request.input.definition →
      row.lifecycle = lifecycleByAction request.input.action → request.latest tables = some row

/-- The latest revision after an action, as the answer, the revisions before it and the
expected base promise it. -/
structure LatestWins (canonicalContentHash : PlayContent → ContentHash) (before : GtmPlayTables)
    (request : ApplyPlayRequest) (answer : ApplyPlayAnswer) (after : GtmPlayTables) : Prop where
  answered : ∀ revision, answer.appliedRevision = some revision →
    request.latest after = some revision ∧ request.IsAppliedBy revision
  changed : ∀ revision, answer.appliedRevision = some revision →
    (∀ latest, request.latest before = some latest → ¬ request.IsAppliedBy latest) →
      after.plays = before.plays ++ [revision]
  unchanged : ∀ latest, request.latest before = some latest → request.IsAppliedBy latest →
    after.plays = before.plays
  repeated : ∀ revision, answer.appliedRevision = some revision → ∀ again : ApplyPlayRequest,
    again.actor.workspaceId = request.actor.workspaceId →
      again.input.definition = request.input.definition →
      again.input.action = request.input.action →
      (applyPlay canonicalContentHash after again).1.plays = after.plays
  staleBase : ∀ base, request.input.expectedBaseRevision = some base →
    base ≠ latestRevision StoredGtmPlayRevision.revision (playRows before.plays
      request.actor.workspaceId request.input.definition.playId) →
    request.latest after = request.latest before

private theorem latestPlayRevision_mem {plays : List StoredGtmPlayRevision}
    {workspaceId : WorkspaceId}
    {playId : String} {revision : StoredGtmPlayRevision}
    (latest : latestPlayRevision plays workspaceId playId = some revision) :
    revision ∈ playRows plays workspaceId playId :=
  latestRow_mem latest

/-- An action of the latest revision's content and lifecycle writes nothing. -/
theorem applyPlay_unchanged (log : PlayLog canonicalContentHash definitions tables)
    {latest : StoredGtmPlayRevision} (isLatest : request.latest tables = some latest)
    (applied : request.IsAppliedBy latest) :
    (applyPlay canonicalContentHash tables request).1.plays = tables.plays := by
  rcases applyPlay_cases canonicalContentHash tables request with
    ⟨same, _⟩ | ⟨_, _, same, _⟩ | ⟨row, rowEq, absent, _, appended, _⟩
  · exact same
  · exact same
  · have member := latestPlayRevision_mem isLatest
    have stored := log.recorded latest (List.mem_of_mem_filter member)
    refine absurd applied.1 (existingPlayRevision_eq_none absent member ?_)
    rw [stored.2, applied.2]
    rfl

/-- **Latest wins, one action.** -/
theorem applyPlay_latestWins_step
    (distinguishes : definitions.InjOn (previewFingerprint canonicalContentHash))
    (log : PlayLog canonicalContentHash definitions tables)
    (used : request.input.definition ∈ definitions)
    (noTwin : (applyPlay canonicalContentHash tables request).2.appliedRevision.isSome = true →
      NoOlderTwin canonicalContentHash tables request) :
    LatestWins canonicalContentHash tables request
      (applyPlay canonicalContentHash tables request).2
      (applyPlay canonicalContentHash tables request).1 := by
  have answered : ∀ revision,
      (applyPlay canonicalContentHash tables request).2.appliedRevision = some revision →
        request.latest (applyPlay canonicalContentHash tables request).1 = some revision ∧
          request.IsAppliedBy revision := by
    intro revision answer
    rcases applyPlay_cases canonicalContentHash tables request with
      ⟨_, refused⟩ | ⟨row, found, same, only⟩ | ⟨row, rowEq, _, _, appended, only⟩
    · exact absurd (refused.symm.trans answer) (Option.some_ne_none _).symm
    · rw [only revision answer]
      obtain ⟨member, content, lifecycle⟩ := existingPlayRevision_eq_some found
      have stored := log.recorded row (List.mem_of_mem_filter member)
      refine ⟨?_, lifecycle, distinguishes stored.1 used (stored.2.symm.trans content)⟩
      rw [ApplyPlayRequest.latest, same]
      exact noTwin (by rw [answer]; rfl) row member content lifecycle
    · rw [only revision answer]
      refine ⟨?_, by rw [rowEq]; rfl, by rw [rowEq]; rfl⟩
      have own : request.actor.workspaceId = row.workspaceId ∧
          request.input.definition.playId = row.playId := by
        rw [rowEq]
        exact ⟨rfl, rfl⟩
      rw [ApplyPlayRequest.latest, latestPlayRevision, appended, own.1, own.2,
        playRows_append_self]
      refine ((log.contiguous _ _).append ?_).2
      rw [rowEq]
      rfl
  refine ⟨answered, ?_, fun latest isLatest applied => applyPlay_unchanged log isLatest applied,
    ?_, ?_⟩
  · intro revision answer differs
    rcases applyPlay_cases canonicalContentHash tables request with
      ⟨_, refused⟩ | ⟨row, found, same, only⟩ | ⟨row, _, _, _, appended, only⟩
    · exact absurd (refused.symm.trans answer) (Option.some_ne_none _).symm
    · obtain ⟨isLatest, applied⟩ := answered revision answer
      rw [ApplyPlayRequest.latest, same] at isLatest
      exact absurd applied (differs revision isLatest)
    · rw [only revision answer, appended]
  · intro revision answer again workspace definition action
    obtain ⟨isLatest, applied⟩ := answered revision answer
    refine applyPlay_unchanged (log.applyPlay used) (show _ = some revision from ?_) ?_
    · rw [ApplyPlayRequest.latest, workspace, definition]
      exact isLatest
    · rw [ApplyPlayRequest.IsAppliedBy, definition, action]
      exact applied
  · intro base expected stale
    rcases applyPlay_cases canonicalContentHash tables request with
      ⟨same, _⟩ | ⟨_, _, same, _⟩ | ⟨_, _, _, current, _, _⟩
    · rw [ApplyPlayRequest.latest, same, ApplyPlayRequest.latest]
    · rw [ApplyPlayRequest.latest, same, ApplyPlayRequest.latest]
    · exact absurd (current base expected) stale

/-! ## Runs -/

/-- Calls of `applyPlay` on any Plays by any actors, each with its answer. -/
def applyPlaySystem (canonicalContentHash : PlayContent → ContentHash) :
    TransitionSystem GtmPlayTables (ApplyPlayRequest × ApplyPlayAnswer) where
  initial tables := tables = GtmPlayTables.empty
  step before label after := applyPlay canonicalContentHash before label.1 = (after, label.2)

/-- The runs whose actions use the given definitions and in which no action is answered that
finds an older revision of its content and lifecycle. -/
def twinFreeSystem (canonicalContentHash : PlayContent → ContentHash)
    (definitions : Set GtmPlayDefinition) :
    TransitionSystem GtmPlayTables (ApplyPlayRequest × ApplyPlayAnswer) :=
  (applyPlaySystem canonicalContentHash).restrict fun before label =>
    label.1.input.definition ∈ definitions ∧
      (label.2.appliedRevision.isSome = true → NoOlderTwin canonicalContentHash before label.1)

private theorem playLog_invariant :
    (twinFreeSystem canonicalContentHash definitions).Invariant
      (PlayLog canonicalContentHash definitions) where
  initially tables start := by
    rw [show tables = GtmPlayTables.empty from start]
    exact PlayLog.empty
  preserved before label after log moved := by
    have used := moved.1.1
    have stepped : (Application.applyPlay canonicalContentHash before label.1).1 = after :=
      congrArg Prod.fst moved.2
    rw [← stepped]
    exact log.applyPlay used

/-- An action on another Play leaves a Play's latest revision. -/
theorem applyPlay_other {workspaceId : WorkspaceId} {playId : String}
    (other : request.isOn workspaceId playId = false) :
    latestPlayRevision (applyPlay canonicalContentHash tables request).1.plays workspaceId playId =
      latestPlayRevision tables.plays workspaceId playId := by
  rcases applyPlay_cases canonicalContentHash tables request with
    ⟨same, _⟩ | ⟨_, _, same, _⟩ | ⟨row, rowEq, _, _, appended, _⟩
  · rw [same]
  · rw [same]
  · rw [appended, latestPlayRevision, playRows_append_other]
    · rfl
    · rw [rowEq]
      simpa [ApplyPlayRequest.isOn, playRevisionRow, playRevisionWrite] using other

/-- The actions of a run on one Play, in order. -/
def actionsOn (workspaceId : WorkspaceId) (playId : String)
    (labels : List (ApplyPlayRequest × ApplyPlayAnswer)) :
    List (ApplyPlayRequest × ApplyPlayAnswer) :=
  labels.filter fun label => label.1.isOn workspaceId playId

/-- The last action of a run on a Play, or the latest revision that the run started with. -/
theorem run_latest (distinguishes : definitions.InjOn (previewFingerprint canonicalContentHash))
    {first last : GtmPlayTables} {labels : List (ApplyPlayRequest × ApplyPlayAnswer)}
    (run : (twinFreeSystem canonicalContentHash definitions).Run first labels last)
    (log : PlayLog canonicalContentHash definitions first) {workspaceId : WorkspaceId}
    {playId : String}
    (succeeded : ∀ label ∈ actionsOn workspaceId playId labels,
      label.2.appliedRevision.isSome) :
    match (actionsOn workspaceId playId labels).getLast? with
    | none => latestPlayRevision last.plays workspaceId playId =
        latestPlayRevision first.plays workspaceId playId
    | some label => ∃ revision, label.2.appliedRevision = some revision ∧
        latestPlayRevision last.plays workspaceId playId = some revision ∧
        label.1.IsAppliedBy revision := by
  induction run with
  | nil state => rfl
  | @cons before middle after label labels moved rest ih =>
      obtain ⟨⟨used, noTwin⟩, stepped⟩ := moved
      have afterEq : (applyPlay canonicalContentHash before label.1).1 = middle :=
        congrArg Prod.fst stepped
      have answerEq : (applyPlay canonicalContentHash before label.1).2 = label.2 :=
        congrArg Prod.snd stepped
      have later := ih (afterEq ▸ log.applyPlay used) fun other member => succeeded other <| by
        rw [actionsOn, List.filter_cons]
        split
        · exact List.mem_cons_of_mem _ member
        · exact member
      by_cases own : label.1.isOn workspaceId playId = true
      · have actions : actionsOn workspaceId playId (label :: labels) =
            label :: actionsOn workspaceId playId labels := by
          simp only [actionsOn, List.filter_cons, own, ↓reduceIte]
        rw [actions] at succeeded ⊢
        rw [List.getLast?_cons]
        cases found : (actionsOn workspaceId playId labels).getLast? with
        | some lastLabel =>
            rw [found] at later
            exact later
        | none =>
            rw [found] at later
            obtain ⟨revision, answer⟩ := Option.isSome_iff_exists.mp
              (succeeded label List.mem_cons_self)
            have wins := (applyPlay_latestWins_step distinguishes log used
              (answerEq ▸ noTwin)).answered revision (answerEq ▸ answer)
            simp only [ApplyPlayRequest.isOn, Bool.and_eq_true, beq_iff_eq] at own
            refine ⟨revision, answer, ?_, wins.2⟩
            rw [later, ← own.1, ← own.2, ← afterEq]
            exact wins.1
      · have actions : actionsOn workspaceId playId (label :: labels) =
            actionsOn workspaceId playId labels := by
          simp only [actionsOn, List.filter_cons, own, Bool.false_eq_true, ↓reduceIte]
        rw [actions]
        cases found : (actionsOn workspaceId playId labels).getLast? with
        | some lastLabel =>
            rw [found] at later
            exact later
        | none =>
            rw [found] at later
            rw [Bool.not_eq_true] at own
            change latestPlayRevision after.plays workspaceId playId = _
            rw [later, ← afterEq]
            exact applyPlay_other own

/-- **Latest wins.** In every run whose answered actions find no older revision of their content
and lifecycle, revisions stay numbered from one, each action keeps the promises of `LatestWins`,
and the latest revision of a Play is the one that its last action answered. -/
theorem applyPlay_latestWins (canonicalContentHash : PlayContent → ContentHash)
    (definitions : Set GtmPlayDefinition)
    (distinguishes : definitions.InjOn (previewFingerprint canonicalContentHash)) :
    (∀ tables, (twinFreeSystem canonicalContentHash definitions).Reachable tables →
      ∀ workspaceId playId, Contiguous StoredGtmPlayRevision.revision
        (playRows tables.plays workspaceId playId)) ∧
    (∀ before label after, (twinFreeSystem canonicalContentHash definitions).Reachable before →
      (twinFreeSystem canonicalContentHash definitions).step before label after →
        LatestWins canonicalContentHash before label.1 label.2 after) ∧
    ∀ tables labels,
      (twinFreeSystem canonicalContentHash definitions).Run GtmPlayTables.empty labels tables →
      ∀ workspaceId playId,
        (∀ label ∈ actionsOn workspaceId playId labels, label.2.appliedRevision.isSome) →
        ∀ last, (actionsOn workspaceId playId labels).getLast? = some last →
          ∃ revision, last.2.appliedRevision = some revision ∧
            latestPlayRevision tables.plays workspaceId playId = some revision ∧
            last.1.IsAppliedBy revision := by
  refine ⟨fun tables reachable => (playLog_invariant.reachable reachable).contiguous, ?_, ?_⟩
  · intro before label after reachable moved
    obtain ⟨⟨used, noTwin⟩, stepped⟩ := moved
    have answerEq : (applyPlay canonicalContentHash before label.1).2 = label.2 :=
      congrArg Prod.snd stepped
    have wins := applyPlay_latestWins_step distinguishes (playLog_invariant.reachable reachable)
      used (answerEq ▸ noTwin)
    rw [stepped] at wins
    exact wins
  · intro tables labels run workspaceId playId succeeded last isLast
    have latest := run_latest distinguishes run PlayLog.empty succeeded
    rw [isLast] at latest
    exact latest

/-- The tables and the answer after the given actions on the sample Play. -/
def afterActions (actions : List GtmPlayAction) : GtmPlayTables :=
  actions.foldl (fun tables action =>
    (applyPlay sampleContentHash tables (sampleRequest action)).1) GtmPlayTables.empty

/-- The label of an action taken after others. -/
def actionLabel (earlier : List GtmPlayAction) (action : GtmPlayAction) :
    ApplyPlayRequest × ApplyPlayAnswer :=
  (sampleRequest action,
    (applyPlay sampleContentHash (afterActions earlier) (sampleRequest action)).2)

private theorem sample_step (earlier : List GtmPlayAction) (action : GtmPlayAction) :
    (applyPlaySystem sampleContentHash).step (afterActions earlier) (actionLabel earlier action)
      (afterActions (earlier ++ [action])) := by
  simp only [applyPlaySystem, afterActions, actionLabel, List.foldl_append, List.foldl_cons,
    List.foldl_nil]

theorem applyPlay_latestWins_sample :
    ∃ revision, (actionLabel [.approve] .pause).2.appliedRevision = some revision ∧
      latestPlayRevision (afterActions [.approve, .pause]).plays "workspace-1" "play-1" =
        some revision ∧
      (sampleRequest .pause).IsAppliedBy revision := by
  have approved : (twinFreeSystem sampleContentHash {samplePlay}).step GtmPlayTables.empty
      (actionLabel [] .approve) (afterActions [.approve]) := by
    refine ⟨⟨rfl, fun _ => ?_⟩, sample_step [] .approve⟩
    intro row member
    cases member
  have paused : (twinFreeSystem sampleContentHash {samplePlay}).step (afterActions [.approve])
      (actionLabel [.approve] .pause) (afterActions [.approve, .pause]) := by
    refine ⟨⟨rfl, fun _ => ?_⟩, sample_step [.approve] .pause⟩
    unfold NoOlderTwin
    with_unfolding_all decide
  exact (applyPlay_latestWins sampleContentHash {samplePlay} (Set.injOn_singleton _ _)).2.2 _ _
    (.cons approved (.cons paused (.nil _))) "workspace-1" "play-1"
    (by with_unfolding_all decide) _ rfl

/-- After an approval and a pause, approving again answers the old approval; the latest
revision stays paused. -/
theorem applyPlay_reapproval_staysPaused :
    ∃ labels tables last,
      (applyPlaySystem sampleContentHash).Run GtmPlayTables.empty labels tables ∧
      (∀ label ∈ labels, label.2.appliedRevision.isSome) ∧
      (actionsOn "workspace-1" "play-1" labels).getLast? = some last ∧
      last.2.appliedRevision.map StoredGtmPlayRevision.lifecycle = some .approved ∧
      (latestPlayRevision tables.plays "workspace-1" "play-1").map
        StoredGtmPlayRevision.lifecycle = some .paused :=
  ⟨_, _, actionLabel [.approve, .pause] .approve,
    .cons (sample_step [] .approve) (.cons (sample_step [.approve] .pause)
      (.cons (sample_step [.approve, .pause] .approve) (.nil _))),
    by with_unfolding_all decide, rfl, by with_unfolding_all decide⟩

end Kurobara.Application
