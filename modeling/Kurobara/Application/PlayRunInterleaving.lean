import Kurobara.Application.PlayRunProgression
import Kurobara.Application.ApplyPlay

/-! # Workers on Play runs

Any number of workers claim Play runs, advance the run they read, and store its progress
under their claim, with leases that expire and workers that stop in between. Every stored
run keeps its invariant, a worker changes only runs that may be claimed, and each revision
of a run is replaced at most once.
-/

namespace Kurobara.Application

open Kurobara.Kernel Kurobara.Persistence Kurobara.Foundation

/-- A claim whose progress is not stored yet, with the instant its worker read. -/
structure PlayFlight where
  claim : GtmPlayRunClaim
  nowMs : Instant
deriving DecidableEq, Repr

/-- The stored Play runs and the updates that workers have in flight on them. -/
structure PlayRunStore where
  rows : List PlayRunRow
  flights : List PlayFlight
deriving DecidableEq, Repr

/-- A step of the store: a creation, a claim, a worker's update. -/
inductive PlayRunEvent where
  | create (request : ApplyPlayRequest) (playRevision : ℕ)
  | claim (run : StoredGtmPlayRun) (lease : PlayRunLease) (nowMs : Instant)
  | update (flight : PlayFlight) (effects : PlayStageEffects) (result : GtmPlayRunUpdateResult)
  | abandon (flight : PlayFlight)

/-- The steps of `applyPlay` and of any number of workers: a run is created for a started
Play, claimed, advanced and stored, or its worker stops. -/
inductive PlayRunStep (canonicalContentHash : PlayContent → ContentHash) :
    PlayRunStore → PlayRunEvent → PlayRunStore → Prop where
  | create {store : PlayRunStore} (request : ApplyPlayRequest) (playRevision : ℕ) :
      PlayRunStep canonicalContentHash store (.create request playRevision)
        { store with
          rows := (createPlayRun store.rows request.actor.workspaceId
            (playRunWrite canonicalContentHash request playRevision)).1 }
  | claim {store : PlayRunStore} {row : PlayRunRow} {lease : PlayRunLease} {nowMs : Instant} :
      row ∈ store.rows → row.isClaimable nowMs = true →
      PlayRunStep canonicalContentHash store (.claim row.run lease nowMs)
        { rows := claimPlayRun store.rows row.run lease
          flights := { claim := { lease := lease, run := row.run }, nowMs := nowMs } ::
            store.flights }
  | update {store : PlayRunStore} {flight : PlayFlight} {effects : PlayStageEffects} :
      flight ∈ store.flights →
      PlayRunStep canonicalContentHash store
        (.update flight effects (updatePlayRun store.rows flight.claim.run.workspaceId
          (progressUpdate effects flight.claim flight.nowMs)).2)
        { rows := (updatePlayRun store.rows flight.claim.run.workspaceId
            (progressUpdate effects flight.claim flight.nowMs)).1
          flights := store.flights.erase flight }
  | abandon {store : PlayRunStore} {flight : PlayFlight} :
      PlayRunStep canonicalContentHash store (.abandon flight)
        { store with flights := store.flights.erase flight }

/-- Any number of workers over one store of Play runs. -/
def playRunSystem (canonicalContentHash : PlayContent → ContentHash) :
    TransitionSystem PlayRunStore PlayRunEvent where
  initial store := store = { rows := [], flights := [] }
  step := PlayRunStep canonicalContentHash

variable {canonicalContentHash : PlayContent → ContentHash}

/-! ## A created run -/

private theorem compilePlay_operations (canonicalContentHash : PlayContent → ContentHash)
    (definition : GtmPlayDefinition) :
    (compilePlay canonicalContentHash definition).stages.map GtmCompiledStage.operationId =
      operationIds definition := by
  refine List.ext_getElem (by simp [compilePlay]) fun index _ _ => ?_
  simp [compilePlay, compiledStage]

private theorem compilePlay_ordinals (canonicalContentHash : PlayContent → ContentHash)
    (definition : GtmPlayDefinition) :
    (compilePlay canonicalContentHash definition).stages.map GtmCompiledStage.ordinal =
      List.range' 1 (compilePlay canonicalContentHash definition).stages.length := by
  refine List.ext_getElem (by simp) fun index _ _ => ?_
  simp [compilePlay, compiledStage, Nat.add_comm]

private theorem sum_initial (definition : GtmPlayDefinition) (stages : List GtmCompiledStage)
    {amount : GtmPlayRunStageReceipt → ℚ}
    (unspent : ∀ stage, amount (initialStageReceipt definition stage) = 0) :
    ((stages.map (initialStageReceipt definition)).map amount).sum = 0 := by
  induction stages with
  | nil => rfl
  | cons stage stages ih =>
      rw [List.map_cons, List.map_cons, List.sum_cons, unspent, ih, zero_add]

/-- A started Play's run begins with every stage pending. -/
theorem playRunRow_invariant (workspaceId : WorkspaceId) (request : ApplyPlayRequest)
    (playRevision : ℕ) :
    PlayRunInvariant (playRunRow workspaceId
      (playRunWrite canonicalContentHash request playRevision)) := by
  have stages : (playRunRow workspaceId
      (playRunWrite canonicalContentHash request playRevision)).execution.stages =
        (compilePlay canonicalContentHash request.input.definition).stages.map
          (initialStageReceipt request.input.definition) :=
    rfl
  have operations : ((compilePlay canonicalContentHash request.input.definition).stages.map
      (initialStageReceipt request.input.definition)).map GtmPlayRunStageReceipt.operationId =
        operationIds request.input.definition := by
    rw [List.map_map]
    exact compilePlay_operations canonicalContentHash request.input.definition
  have waiting : ∀ stage ∈ (compilePlay canonicalContentHash
      request.input.definition).stages.map (initialStageReceipt request.input.definition),
      stage.state = .pending := by
    intro stage member
    obtain ⟨compiled, _, rfl⟩ := List.mem_map.mp member
    rfl
  constructor
  · rw [stages, StagesNumbered, List.map_map, List.length_map]
    exact compilePlay_ordinals canonicalContentHash request.input.definition
  · rw [stages, operations]
    rfl
  · rw [stages]
    exact inStageOrder_pending waiting
  · rw [stages]
    exact fun stage member _ => .inl (waiting stage member)
  · rw [stages, sum_initial request.input.definition _ fun _ => rfl]
    rfl
  · rw [stages, sum_initial request.input.definition _ fun _ => rfl]
    rfl
  · rw [stages, sum_initial request.input.definition _ fun _ => rfl]
    rfl
  · rw [stages]
    refine ⟨fun wrong => absurd wrong (by simp [playRunRow]), fun all => ?_⟩
    obtain ⟨earlier, listed, _⟩ := operationIds_split request.input.definition
    have last : "workbooks.project" ∈ operationIds request.input.definition := by simp [listed]
    rw [← operations] at last
    obtain ⟨stage, member, _⟩ := List.mem_map.mp last
    have finished := all stage member
    rw [waiting stage member] at finished
    cases finished

/-! ## What a step does to a row -/

/-- A row is kept, claimed while it may be, or advanced under its revision. -/
inductive RowSucceeds (row : PlayRunRow) : PlayRunRow → Prop where
  | kept : RowSucceeds row row
  | claimed (lease : PlayRunLease) : IsActive row.run →
      RowSucceeds row { row with claim := some lease }
  | advanced {progress : PlayProgress} (nowMs : Instant) : IsActive row.run →
      Progresses row.run progress →
      RowSucceeds row { run := progressedRun row.run progress nowMs, claim := none }

private theorem PlayRunRow.isActive_of_isClaimable {row : PlayRunRow} {nowMs : Instant}
    (claimable : row.isClaimable nowMs = true) : IsActive row.run := by
  simp only [PlayRunRow.isClaimable, Bool.and_eq_true, Bool.or_eq_true, beq_iff_eq] at claimable
  exact claimable.1

theorem RowSucceeds.key {row next : PlayRunRow} (succeeds : RowSucceeds row next) :
    next.key = row.key := by
  cases succeeds with
  | kept => rfl
  | claimed lease active => rfl
  | advanced nowMs active progresses => rfl

theorem RowSucceeds.invariant {row next : PlayRunRow} (succeeds : RowSucceeds row next)
    (invariant : PlayRunInvariant row.run) : PlayRunInvariant next.run := by
  cases succeeds with
  | kept => exact invariant
  | claimed lease active => exact invariant
  | advanced nowMs active progresses => exact progresses.invariant nowMs

theorem RowSucceeds.run {row next : PlayRunRow} (succeeds : RowSucceeds row next) :
    next.run = row.run ∨ next.run.revision = row.run.revision + 1 := by
  cases succeeds with
  | kept => exact .inl rfl
  | claimed lease active => exact .inl rfl
  | advanced nowMs active progresses => exact .inr rfl

theorem RowSucceeds.stages {row next : PlayRunRow} (succeeds : RowSucceeds row next) :
    StagesMove row.run.execution.stages next.run.execution.stages := by
  cases succeeds with
  | kept => exact stagesMove_refl _
  | claimed lease active => exact stagesMove_refl _
  | advanced nowMs active progresses => exact progresses.moves

theorem RowSucceeds.stopped {row next : PlayRunRow} (succeeds : RowSucceeds row next)
    (inactive : ¬ IsActive row.run) : next = row := by
  cases succeeds with
  | kept => rfl
  | claimed lease active => exact absurd active inactive
  | advanced nowMs active progresses => exact absurd active inactive

/-- The run of a flight is active, and is still the stored one at its revision. -/
structure PlayFlight.IsKnown (flight : PlayFlight) (rows : List PlayRunRow) : Prop where
  active : IsActive flight.claim.run
  stored : ∃ row ∈ rows, row.key = flight.claim.run.key ∧
    flight.claim.run.revision ≤ row.run.revision ∧
    (row.run.revision = flight.claim.run.revision → row.run = flight.claim.run)

/-- The keys are distinct, every stored run is well formed, every flight is of a run the store has
had. -/
structure PlayRunStoreInvariant (store : PlayRunStore) : Prop where
  distinct : (store.rows.map PlayRunRow.key).Nodup
  runs : ∀ row ∈ store.rows, PlayRunInvariant row.run
  flights : ∀ flight ∈ store.flights, flight.IsKnown store.rows

/-- Rows that succeed those before, and new ones under new keys. -/
structure RowsMove (before : List PlayRunRow) (move : PlayRunRow → PlayRunRow)
    (added after : List PlayRunRow) : Prop where
  after : after = before.map move ++ added
  succeeds : ∀ row ∈ before, RowSucceeds row (move row)
  fresh : (added.map PlayRunRow.key).Nodup ∧
    ∀ row ∈ added, row.key ∉ before.map PlayRunRow.key
  invariant : ∀ row ∈ added, PlayRunInvariant row.run

variable {before after : PlayRunStore} {event : PlayRunEvent}

private theorem rowsMove_refl (rows : List PlayRunRow) : RowsMove rows id [] rows where
  after := by simp
  succeeds row _ := .kept
  fresh := ⟨List.nodup_nil, fun _ member => by cases member⟩
  invariant _ member := by cases member

private theorem createPlayRun_moves (rows : List PlayRunRow) (request : ApplyPlayRequest)
    (playRevision : ℕ) :
    ∃ added, RowsMove rows id added (createPlayRun rows request.actor.workspaceId
      (playRunWrite canonicalContentHash request playRevision)).1 := by
  unfold createPlayRun
  split
  · split
    · exact ⟨[], rowsMove_refl rows⟩
    · exact ⟨[], rowsMove_refl rows⟩
  · split
    · exact ⟨[], rowsMove_refl rows⟩
    · rename_i unused
      refine ⟨[{ run := playRunRow request.actor.workspaceId
                   (playRunWrite canonicalContentHash request playRevision)
                 claim := none }],
        by simp, fun row _ => .kept, ⟨List.nodup_singleton _, ?_⟩, ?_⟩
      · intro row member taken
        obtain rfl := List.mem_singleton.mp member
        obtain ⟨other, stored, same⟩ := List.mem_map.mp taken
        refine unused (List.any_eq_true.mpr ⟨other, stored, ?_⟩)
        simp only [PlayRunRow.key, StoredGtmPlayRun.key, playRunRow, Prod.mk.injEq] at same
        simpa using same
      · intro row member
        obtain rfl := List.mem_singleton.mp member
        exact playRunRow_invariant _ request playRevision

/-- **What a step does to the rows.** -/
theorem playRunStep_moves (invariant : PlayRunStoreInvariant before)
    (moved : PlayRunStep canonicalContentHash before event after) :
    ∃ move added, RowsMove before.rows move added after.rows := by
  cases moved with
  | create request playRevision =>
      obtain ⟨added, moves⟩ := createPlayRun_moves before.rows request playRevision
      exact ⟨id, added, moves⟩
  | @claim row lease nowMs stored claimable =>
      refine ⟨_, [], (List.append_nil _).symm, ?_,
        ⟨List.nodup_nil, fun _ member => by cases member⟩,
        fun _ member => by cases member⟩
      intro other member
      by_cases same : other.key = row.run.key
      · obtain rfl : other = row := List.inj_on_of_nodup_map invariant.distinct member stored same
        rw [if_pos same]
        exact .claimed lease (PlayRunRow.isActive_of_isClaimable claimable)
      · rw [if_neg same]
        exact .kept
  | @update flight effects waiting =>
      have known := invariant.flights flight waiting
      have rows : (updatePlayRun before.rows flight.claim.run.workspaceId
          (progressUpdate effects flight.claim flight.nowMs)).1 =
            before.rows.map fun row =>
              if matchesUpdate flight.claim.run.workspaceId
                  (progressUpdate effects flight.claim flight.nowMs) row then
                { run := updatedRun (progressUpdate effects flight.claim flight.nowMs) row.run
                  claim := none }
              else row := by
        unfold updatePlayRun
        dsimp only
        split
        · rfl
        · rfl
      refine ⟨_, [], rows.trans (List.append_nil _).symm, ?_,
        ⟨List.nodup_nil, fun _ member => by cases member⟩, fun _ member => by cases member⟩
      intro row member
      by_cases found : matchesUpdate flight.claim.run.workspaceId
          (progressUpdate effects flight.claim flight.nowMs) row = true
      · rw [if_pos found]
        simp only [matchesUpdate, Bool.and_eq_true, beq_iff_eq] at found
        obtain ⟨⟨sameKey, sameRevision⟩, _⟩ := found
        obtain ⟨active, other, stored, otherKey, _, unchanged⟩ := known
        obtain rfl : row = other :=
          List.inj_on_of_nodup_map invariant.distinct member stored (sameKey.trans otherKey.symm)
        have same : row.run = flight.claim.run := unchanged sameRevision
        have progresses := advanceClaimedRun_progresses effects flight.nowMs
          (invariant.runs row member) (same ▸ active)
        have next : updatedRun (progressUpdate effects flight.claim flight.nowMs) row.run =
            progressedRun row.run (advanceClaimedRun effects row.run flight.nowMs)
              flight.nowMs := by
          rw [same]
          rfl
        rw [next]
        exact .advanced flight.nowMs (same ▸ active) progresses
      · rw [if_neg found]
        exact .kept
  | abandon => exact ⟨id, [], rowsMove_refl before.rows⟩

/-! ## Reachable stores -/

theorem PlayFlight.IsKnown.moves {flight : PlayFlight} {rows moved added : List PlayRunRow}
    {move : PlayRunRow → PlayRunRow} (known : flight.IsKnown rows)
    (moves : RowsMove rows move added moved) : flight.IsKnown moved := by
  obtain ⟨active, row, stored, key, revision, unchanged⟩ := known
  have succeeds := moves.succeeds row stored
  refine ⟨active, move row, ?_, succeeds.key.trans key, ?_, ?_⟩
  · rw [moves.after]
    exact List.mem_append_left _ (List.mem_map_of_mem stored)
  · rcases succeeds.run with same | next
    · rw [same]
      exact revision
    · omega
  · intro sameRevision
    rcases succeeds.run with same | next
    · rw [same] at sameRevision ⊢
      exact unchanged sameRevision
    · omega

theorem RowsMove.keys {rows moved added : List PlayRunRow} {move : PlayRunRow → PlayRunRow}
    (moves : RowsMove rows move added moved) :
    moved.map PlayRunRow.key = rows.map PlayRunRow.key ++ added.map PlayRunRow.key := by
  rw [moves.after, List.map_append, List.map_map]
  congr 1
  exact List.map_congr_left fun row member => (moves.succeeds row member).key

private theorem playRunStore_invariant :
    (playRunSystem canonicalContentHash).Invariant PlayRunStoreInvariant where
  initially store start := by
    obtain rfl : store = { rows := [], flights := [] } := start
    exact ⟨List.nodup_nil, fun _ member => (by cases member), fun _ member => (by cases member)⟩
  preserved before event after invariant moved := by
    obtain ⟨move, added, moves⟩ := playRunStep_moves invariant moved
    refine ⟨?_, ?_, ?_⟩
    · rw [moves.keys, List.nodup_append]
      refine ⟨invariant.distinct, moves.fresh.1, ?_⟩
      intro key old other new same
      obtain ⟨row, member, rfl⟩ := List.mem_map.mp new
      exact moves.fresh.2 row member (same ▸ old)
    · intro row member
      rw [moves.after] at member
      rcases List.mem_append.mp member with old | new
      · obtain ⟨earlier, stored, rfl⟩ := List.mem_map.mp old
        exact (moves.succeeds earlier stored).invariant (invariant.runs earlier stored)
      · exact moves.invariant row new
    · intro flight member
      cases moved with
      | create request playRevision => exact (invariant.flights flight member).moves moves
      | @claim row lease nowMs stored claimable =>
          rcases List.mem_cons.mp member with rfl | earlier
          · have known : PlayFlight.IsKnown
                { claim := { lease := lease, run := row.run }, nowMs := nowMs } before.rows :=
              ⟨PlayRunRow.isActive_of_isClaimable claimable, row, stored, rfl, Nat.le_refl _,
                fun _ => rfl⟩
            exact known.moves moves
          · exact (invariant.flights flight earlier).moves moves
      | update waiting =>
          exact (invariant.flights flight (List.mem_of_mem_erase member)).moves moves
      | abandon => exact invariant.flights flight (List.mem_of_mem_erase member)

/-- The event replaces the given revision of a run. -/
def replacesRevision (key : WorkspaceId × String) (revision : ℕ) : PlayRunEvent → Bool
  | .update flight _ (.updated _) =>
      flight.claim.run.key == key && flight.claim.run.revision == revision
  | _ => false

/-- A run's row has left a revision behind. -/
def IsReplaced (key : WorkspaceId × String) (revision : ℕ) (store : PlayRunStore) : Prop :=
  ∃ row ∈ store.rows, row.key = key ∧ revision < row.run.revision

private theorem isReplaced_kept {key : WorkspaceId × String} {revision : ℕ}
    (invariant : PlayRunStoreInvariant before)
    (moved : PlayRunStep canonicalContentHash before event after)
    (replaced : IsReplaced key revision before) : IsReplaced key revision after := by
  obtain ⟨move, added, moves⟩ := playRunStep_moves invariant moved
  obtain ⟨row, stored, sameKey, later⟩ := replaced
  have succeeds := moves.succeeds row stored
  refine ⟨move row, ?_, succeeds.key.trans sameKey, ?_⟩
  · rw [moves.after]
    exact List.mem_append_left _ (List.mem_map_of_mem stored)
  · rcases succeeds.run with same | next
    · rw [same]
      exact later
    · omega

/-- An accepted update finds its revision stored and leaves it behind. -/
theorem replacesRevision_spends {key : WorkspaceId × String} {revision : ℕ}
    (invariant : PlayRunStoreInvariant before)
    (moved : PlayRunStep canonicalContentHash before event after)
    (replaces : replacesRevision key revision event = true) :
    ¬ IsReplaced key revision before ∧ IsReplaced key revision after := by
  cases moved with
  | create request playRevision => cases replaces
  | claim stored claimable => cases replaces
  | abandon => cases replaces
  | @update flight effects waiting =>
      unfold updatePlayRun at replaces ⊢
      dsimp only at replaces ⊢
      split at replaces
      · rename_i row found
        simp only [replacesRevision, Bool.and_eq_true, beq_iff_eq] at replaces
        obtain ⟨flightKey, flightRevision⟩ := replaces
        have stored := List.mem_of_find?_eq_some found
        have matched := List.find?_some found
        have fields := matched
        simp only [matchesUpdate, Bool.and_eq_true, beq_iff_eq] at fields
        have rowKey : row.key = key := fields.1.1.trans flightKey
        have rowRevision : row.run.revision = revision := fields.1.2.trans flightRevision
        constructor
        · rintro ⟨other, otherStored, otherKey, later⟩
          obtain rfl : other = row := List.inj_on_of_nodup_map invariant.distinct otherStored stored
            (otherKey.trans rowKey.symm)
          omega
        · refine ⟨_, List.mem_map_of_mem stored, ?_, ?_⟩
          · rw [if_pos matched]
            exact rowKey
          · rw [if_pos matched]
            change revision < row.run.revision + 1
            omega
      · split at replaces
        · cases replaces
        · cases replaces

/-- What any step leaves of a stored row: its key, its completed stages, and all of it once
the run is completed, failed, cancelled or paused. -/
structure WorkerChange (row next : PlayRunRow) : Prop where
  key : next.key = row.key
  run : next.run = row.run ∨ next.run.revision = row.run.revision + 1
  stages : StagesMove row.run.execution.stages next.run.execution.stages
  stopped : ¬ IsActive row.run → next = row

/-- **Play run progression.** Over any interleaving of workers, every stored run keeps its
invariant, a step changes only active runs and in them only the first stage that is not
completed, and each revision of a run is replaced at most once. -/
theorem playRun_progression (canonicalContentHash : PlayContent → ContentHash) :
    (∀ store, (playRunSystem canonicalContentHash).Reachable store →
      ∀ row ∈ store.rows, PlayRunInvariant row.run) ∧
    (∀ before event after, (playRunSystem canonicalContentHash).Reachable before →
      (playRunSystem canonicalContentHash).step before event after →
        ∀ row ∈ before.rows, ∃ next ∈ after.rows, WorkerChange row next) ∧
    ∀ store events, (playRunSystem canonicalContentHash).Run { rows := [], flights := [] } events
      store → ∀ key revision, events.countP (replacesRevision key revision) ≤ 1 := by
  refine ⟨fun store reachable => (playRunStore_invariant.reachable reachable).runs, ?_, ?_⟩
  · intro before event after reachable moved row stored
    obtain ⟨move, added, moves⟩ :=
      playRunStep_moves (playRunStore_invariant.reachable reachable) moved
    have succeeds := moves.succeeds row stored
    refine ⟨move row, ?_, succeeds.key, succeeds.run, succeeds.stages, succeeds.stopped⟩
    rw [moves.after]
    exact List.mem_append_left _ (List.mem_map_of_mem stored)
  · intro store events run key revision
    have invariant : (playRunSystem canonicalContentHash).Invariant PlayRunStoreInvariant :=
      playRunStore_invariant
    refine run.countP_le_one invariant
      (fun before event after kept moved replaced => isReplaced_kept kept moved replaced)
      (fun before event after kept moved => replacesRevision_spends kept moved)
      (invariant.initially _ rfl)

/-- The first version of `samplePlay`'s run. -/
def sampleFirstVersion : StoredGtmPlayRun :=
  playRunRow "workspace-1" (playRunWrite sampleContentHash (sampleRequest .start) 1)

/-- What the executor reports of the completed organization stage. -/
def sampleOrganizationSnapshot (spent : Amount) : GtmPlayGenerationSnapshot where
  cost := { reserved := 0, spent := spent, unit := "credits" }
  datasetId := some "play_org_1"
  error := none
  generationId := "generation-1"
  materializationId := some "materialization-1"
  provenance := ["organizations.discover@1.0.0"]
  providerCalls := 1
  recordCount := some 1
  selectedRecordIds := none
  selectionReasons := none
  state := .completed

def sampleStageEffects (spent : Amount) : PlayStageEffects where
  inspectGeneration _ _ := none
  projectWorkbook _ _ := none
  startStage _ _ := some (sampleOrganizationSnapshot spent)

/-- The claim of a worker that read the first version at an instant. -/
def sampleFlight (workerId : String) (nowMs : Instant) : PlayFlight where
  claim :=
    { lease := { claimExpiresAtMs := nowMs + 10, claimToken := workerId, workerId := workerId }
      run := sampleFirstVersion }
  nowMs := nowMs

private def sampleCreatedStore : PlayRunStore where
  rows := [{ run := sampleFirstVersion, claim := none }]
  flights := []

/-- The run under a claim that expires before its worker stores any progress. -/
def sampleClaimedStore : PlayRunStore where
  rows := claimPlayRun sampleCreatedStore.rows sampleFirstVersion
    (sampleFlight "worker-1" 2).claim.lease
  flights := [sampleFlight "worker-1" 2]

/-- The run, claimed again while the first worker is still at work. -/
def sampleReclaimedStore : PlayRunStore where
  rows := claimPlayRun sampleClaimedStore.rows sampleFirstVersion
    (sampleFlight "worker-2" 20).claim.lease
  flights := [sampleFlight "worker-2" 20, sampleFlight "worker-1" 2]

def sampleUpdatedStore : PlayRunStore where
  rows := (updatePlayRun sampleReclaimedStore.rows "workspace-1"
    (progressUpdate (sampleStageEffects 1) (sampleFlight "worker-2" 20).claim 20)).1
  flights := sampleReclaimedStore.flights.erase (sampleFlight "worker-2" 20)

/-- The run after both workers: the first one's update finds another revision. -/
def sampleRefusedStore : PlayRunStore where
  rows := (updatePlayRun sampleUpdatedStore.rows "workspace-1"
    (progressUpdate (sampleStageEffects 1) (sampleFlight "worker-1" 2).claim 2)).1
  flights := sampleUpdatedStore.flights.erase (sampleFlight "worker-1" 2)

/-- A worker's answer to the store it updates. -/
def sampleUpdate (store : PlayRunStore) (flight : PlayFlight) : PlayRunEvent :=
  .update flight (sampleStageEffects 1) (updatePlayRun store.rows flight.claim.run.workspaceId
    (progressUpdate (sampleStageEffects 1) flight.claim flight.nowMs)).2

def sampleInterleavingEvents : List PlayRunEvent :=
  [.create (sampleRequest .start) 1,
    .claim sampleFirstVersion (sampleFlight "worker-1" 2).claim.lease 2,
    .claim sampleFirstVersion (sampleFlight "worker-2" 20).claim.lease 20,
    sampleUpdate sampleReclaimedStore (sampleFlight "worker-2" 20),
    sampleUpdate sampleUpdatedStore (sampleFlight "worker-1" 2)]

/-- What the stores of the interleaving hold. -/
theorem sampleInterleaving_rows :
    sampleClaimedStore.rows =
        [{ run := sampleFirstVersion, claim := some (sampleFlight "worker-1" 2).claim.lease }] ∧
      sampleReclaimedStore.rows =
        [{ run := sampleFirstVersion, claim := some (sampleFlight "worker-2" 20).claim.lease }] ∧
      sampleUpdatedStore.rows.map (fun row => row.run.revision) = [2] ∧
      sampleRefusedStore.rows = sampleUpdatedStore.rows := by
  decide +kernel

private theorem sampleInterleaving_claimable :
    (PlayRunRow.mk sampleFirstVersion none).isClaimable 2 = true ∧
      (PlayRunRow.mk sampleFirstVersion
        (some (sampleFlight "worker-1" 2).claim.lease)).isClaimable 20 = true := by
  decide

private theorem sampleInterleaving_claim :
    (playRunSystem sampleContentHash).step sampleCreatedStore
      (.claim sampleFirstVersion (sampleFlight "worker-1" 2).claim.lease 2) sampleClaimedStore :=
  .claim List.mem_cons_self sampleInterleaving_claimable.1

private theorem sampleInterleaving_reclaim :
    (playRunSystem sampleContentHash).step sampleClaimedStore
      (.claim sampleFirstVersion (sampleFlight "worker-2" 20).claim.lease 20)
      sampleReclaimedStore := by
  have stored :
      { run := sampleFirstVersion, claim := some (sampleFlight "worker-1" 2).claim.lease } ∈
        sampleClaimedStore.rows := by
    rw [sampleInterleaving_rows.1]
    exact List.mem_cons_self
  exact .claim stored sampleInterleaving_claimable.2

private theorem sampleInterleaving_update :
    (playRunSystem sampleContentHash).step sampleReclaimedStore
      (sampleUpdate sampleReclaimedStore (sampleFlight "worker-2" 20)) sampleUpdatedStore :=
  .update List.mem_cons_self

private theorem sampleInterleaving_refused :
    (playRunSystem sampleContentHash).step sampleUpdatedStore
      (sampleUpdate sampleUpdatedStore (sampleFlight "worker-1" 2)) sampleRefusedStore := by
  have waiting : sampleFlight "worker-1" 2 ∈ sampleUpdatedStore.flights := by
    rw [sampleUpdatedStore, sampleReclaimedStore, List.erase_cons_head]
    exact List.mem_cons_self
  exact .update waiting

private theorem sampleInterleaving_claims :
    (playRunSystem sampleContentHash).Run { rows := [], flights := [] }
      (sampleInterleavingEvents.take 3) sampleReclaimedStore :=
  .cons (.create (sampleRequest .start) 1)
    (.cons sampleInterleaving_claim (.single sampleInterleaving_reclaim))

private theorem sampleInterleaving_run :
    (playRunSystem sampleContentHash).Run { rows := [], flights := [] } sampleInterleavingEvents
      sampleRefusedStore :=
  sampleInterleaving_claims.append
    (.cons sampleInterleaving_update (.single sampleInterleaving_refused))

/-- Two workers advance the version they both claimed: the stored progress of one is the
change of the row, and the other worker's is refused. -/
theorem playRun_progression_sample :
    (∀ row ∈ sampleRefusedStore.rows, PlayRunInvariant row.run) ∧
      (∃ next ∈ sampleUpdatedStore.rows, next.run.revision = 2 ∧
        WorkerChange
          { run := sampleFirstVersion, claim := some (sampleFlight "worker-2" 20).claim.lease }
          next) ∧
      sampleInterleavingEvents.countP (replacesRevision sampleFirstVersion.key 1) = 1 ∧
      sampleInterleavingEvents.countP (replacesRevision sampleFirstVersion.key 1) ≤ 1 := by
  obtain ⟨_, claimed, revisions, _⟩ := sampleInterleaving_rows
  obtain ⟨invariant, changes, once⟩ := playRun_progression sampleContentHash
  have begun : (playRunSystem sampleContentHash).Reachable sampleReclaimedStore :=
    (TransitionSystem.Reachable.initial rfl).run sampleInterleaving_claims
  obtain ⟨next, stored, change⟩ := changes _ _ _ begun sampleInterleaving_update
    { run := sampleFirstVersion, claim := some (sampleFlight "worker-2" 20).claim.lease }
    (by rw [claimed]; exact List.mem_cons_self)
  have revision : next.run.revision ∈
      sampleUpdatedStore.rows.map fun row => row.run.revision := List.mem_map_of_mem stored
  rw [revisions, List.mem_singleton] at revision
  exact ⟨invariant _ ((TransitionSystem.Reachable.initial rfl).run sampleInterleaving_run),
    ⟨next, stored, revision, change⟩,
    by decide, once _ _ sampleInterleaving_run _ _⟩

end Kurobara.Application
