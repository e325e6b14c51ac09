import Kurobara.Application.CreateRecipeCellRun
import Kurobara.Application.ExportRecipeApplication
import Kurobara.Foundation.TransitionSystem
import Kurobara.Persistence.RecipeCellMoves

/-! # The life of recipe cells

The transactions that create, prepare, claim and finalize recipe cells, in any order and each
over evidence of its own. Every one of them is a move of the rows, so the cache is safe in every
state they reach.
-/

namespace Kurobara.Application

open Foundation Kernel Persistence

/-- The transactions on recipe cells, with their answers. -/
inductive CellTransaction where
  | create (environment : RecipeCellRunEnvironment) (request : CreateRecipeCellRunRequest)
      (answer : CreateRecipeCellRunResult)
  | prepare (environment : RecipeCellRunEnvironment) (request : PrepareRecipeCellRequest)
      (answer : PrepareRecipeCellResult)
  | claim (runId : RunId)
  | finalize (finalization : RecipeCellFinalization)

section Steps

variable (canonical : RecipeCanonicalization) (scope : WorkspaceId)

/-- A transaction that is committed. Those of a cell hold the lock of its cache slot: another
transaction can come between their reads before the lock and what they do under it. -/
inductive CellStep : RecipeCellRows → CellTransaction → RecipeCellRows → Prop where
  | create {rows after : RecipeCellRows} {environment : RecipeCellRunEnvironment}
      {request : CreateRecipeCellRunRequest} {input : ExactRecipeCellInput}
      {answer : CreateRecipeCellRunResult} (sameHash : environment.canonical = canonical)
      (requested : requestedInput environment request = .ok (some input))
      (done : createUnderCacheLock environment scope rows request input = .ok (answer, after)) :
      CellStep rows (.create environment request answer) after
  | prepare {rows after : RecipeCellRows} {environment : RecipeCellRunEnvironment}
      {request : PrepareRecipeCellRequest} {input : ExactRecipeCellInput}
      {answer : PrepareRecipeCellResult}
      (done : prepareFromCache environment scope rows input = .ok (answer, after)) :
      CellStep rows (.prepare environment request answer) after
  | claim {rows after : RecipeCellRows} {evidence : RecipeEvidence} {runId : RunId}
      (done : markBoundCellRunning evidence rows runId = .ok (.ok after)) :
      CellStep rows (.claim runId) after
  | finalize {rows after : RecipeCellRows} {evidence : RecipeEvidence} {run : Option Run}
      {finalization : RecipeCellFinalization}
      (done : finalizeCell canonical evidence scope rows run finalization = .ok after) :
      CellStep rows (.finalize finalization) after

/-- The recipe cells of a workspace, which begin without rows. -/
def recipeCells : TransitionSystem RecipeCellRows CellTransaction where
  initial rows := rows = ⟨[], [], []⟩
  step := CellStep canonical scope

end Steps

variable {canonical : RecipeCanonicalization} {scope : WorkspaceId}
  {environment : RecipeCellRunEnvironment} {request : CreateRecipeCellRunRequest}
  {input : ExactRecipeCellInput} {rows after : RecipeCellRows} {cellResultId : CellResultId}

/-! ## Inputs -/

private theorem resolveExactRecipeCellInput_ok {application : RecipeApplication} {dataset : Dataset}
    {recipe : EnrichmentRecipe} {record : DatasetRecord} {recordContentHash : ContentHash}
    (resolved : resolveExactRecipeCellInput canonical application dataset recipe record
      recordContentHash = .ok input) :
    input = exactRecipeCellInput canonical application dataset recipe record recordContentHash := by
  unfold resolveExactRecipeCellInput at resolved
  split at resolved
  · cases resolved
  · exact (Except.ok.inj resolved).symm

/-- Evidence that is found resolves an input. -/
theorem resolveExactInput_found {evidence : RecipeEvidence} {applicationId : RecipeApplicationId}
    {recordId : RecordId} (application : RecipeApplication) (context : DatasetContext)
    (recipe : EnrichmentRecipe) (stored : StoredRecord)
    (applicationFound : evidence.loadApplication applicationId = some application)
    (listed : application.graph.recordIds.contains recordId = true)
    (contextFound : evidence.loadDatasetContext application.datasetId = some context)
    (recipeFound : evidence.loadRecipe application.datasetId application.recipeId
      application.recipeRevision = some recipe)
    (recordFound : evidence.loadRecord context recordId = some stored) :
    resolveExactInput canonical evidence applicationId recordId =
      (resolveExactRecipeCellInput canonical application context.dataset recipe stored.record
        stored.contentHash).map some := by
  unfold resolveExactInput
  rw [applicationFound]
  dsimp only
  rw [listed, Bool.not_true, if_neg Bool.false_ne_true, contextFound]
  dsimp only
  rw [recipeFound, recordFound]

/-- A resolved input has the key of its identity. -/
theorem resolveExactInput_keyed {evidence : RecipeEvidence}
    {applicationId : RecipeApplicationId} {recordId : RecordId}
    (resolved : resolveExactInput canonical evidence applicationId recordId = .ok (some input)) :
    input.cacheKey = recipeCellCacheKey canonical input.toRecipeCellCacheIdentity := by
  unfold resolveExactInput at resolved
  split at resolved
  · cases resolved
  split at resolved
  · cases resolved
  split at resolved
  · cases resolved
  split at resolved
  · obtain ⟨found, foundEq, same⟩ := map_eq_ok.mp resolved
    obtain rfl := Option.some.inj same
    rw [resolveExactRecipeCellInput_ok foundEq]
    rfl
  · cases resolved

private theorem requestedInput_keyed
    (requested : requestedInput environment request = .ok (some input)) :
    input.cacheKey =
      recipeCellCacheKey environment.canonical input.toRecipeCellCacheIdentity := by
  obtain ⟨stored, storedEq, filtered⟩ := map_eq_ok.mp requested
  obtain ⟨rfl, -⟩ := Option.filter_eq_some_iff.mp filtered
  exact resolveExactInput_keyed storedEq

/-! ## Reuse -/

/-- A valid result is bound before it expires. -/
structure CachedPin (rows after : RecipeCellRows) (input : ExactRecipeCellInput) (now : Instant)
    (cellResultId : CellResultId) (slot : RecipeCellCacheSnapshot) (row : CellRow)
    (validUntil : Instant) (ordinal : ℕ) : Prop where
  pin : PinFound rows input cellResultId slot row
  valid : slot.validCellResultId = some cellResultId
  expiry : slot.validUntil = some validUntil
  succeeded : row.cellResult.status = .succeeded
  fresh : now < validUntil
  added : BindingAdded rows after ⟨input.recipeApplicationId, input.columns, ordinal,
    input.cacheKey, cellResultId, .cached⟩

/-- A result in flight is bound. -/
structure ActivePin (rows after : RecipeCellRows) (input : ExactRecipeCellInput)
    (cellResultId : CellResultId) (slot : RecipeCellCacheSnapshot) (row : CellRow)
    (ordinal : ℕ) : Prop where
  pin : PinFound rows input cellResultId slot row
  active : slot.activeCellResultId = some cellResultId
  inFlight : row.IsInFlight
  added : BindingAdded rows after ⟨input.recipeApplicationId, input.columns, ordinal,
    input.cacheKey, cellResultId, .executed⟩

/-- Every result that a slot names as valid has expired at an instant. -/
def ValidIsExpired (slot : RecipeCellCacheSnapshot) (now : Instant) : Prop :=
  ∀ cellResultId validUntil, slot.validCellResultId = some cellResultId →
    slot.validUntil = some validUntil → validUntil ≤ now

private theorem validResult_eq_some {slot : RecipeCellCacheSnapshot} :
    validResult slot = some cellResultId ↔
      slot.validCellResultId = some cellResultId ∧
        ∃ validUntil, slot.validUntil = some validUntil := by
  unfold validResult
  cases slot.validUntil <;> simp

private theorem pinValid_ok {slot : RecipeCellCacheSnapshot} {pinned : Option CellResultId}
    (located : rows.findSlot input.cacheKey = some slot)
    (done : pinValid environment scope rows input slot = .ok (pinned, after)) :
    (pinned = none ∧ after = rows ∧ ValidIsExpired slot environment.pinnedAt) ∨
      ∃ cellResultId row validUntil ordinal, pinned = some cellResultId ∧
        CachedPin rows after input environment.pinnedAt cellResultId slot row validUntil
          ordinal := by
  unfold pinValid at done
  split at done
  · rename_i none
    obtain ⟨rfl, rfl⟩ := Prod.mk.inj (Except.ok.inj done)
    refine .inl ⟨rfl, rfl, fun cellResultId validUntil named expiry => ?_⟩
    rw [validResult_eq_some.mpr ⟨named, validUntil, expiry⟩] at none
    cases none
  · rename_i cellResultId named
    obtain ⟨⟨flag, next⟩, pinnedEq, same⟩ := map_eq_ok.mp done
    obtain ⟨found, row, validUntil, pin, valid, expiry, succeeded, outcome⟩ := pinCached_ok pinnedEq
    obtain rfl := Option.some.inj (located.symm.trans pin.located)
    rcases outcome with ⟨rfl, expired, rfl⟩ | ⟨rfl, fresh, inserted⟩
    · obtain ⟨rfl, rfl⟩ := Prod.mk.inj same
      refine .inl ⟨rfl, rfl, fun _ other _ otherExpiry => ?_⟩
      rw [← Option.some.inj (expiry.symm.trans otherExpiry)]
      exact expired
    · obtain ⟨rfl, rfl⟩ := Prod.mk.inj same
      obtain ⟨ordinal, added⟩ := insertApplicationCell_ok inserted
      exact .inr ⟨cellResultId, row, validUntil, ordinal, rfl,
        ⟨pin, valid, expiry, succeeded, fresh, added⟩⟩

private theorem pinActive_pin {evidence : RecipeEvidence} {slot : RecipeCellCacheSnapshot}
    (located : rows.findSlot input.cacheKey = some slot)
    (done : pinActive canonical evidence scope rows input cellResultId = .ok after) :
    ∃ row ordinal, ActivePin rows after input cellResultId slot row ordinal := by
  obtain ⟨found, row, pin, active, inFlight, inserted⟩ := pinActive_ok done
  obtain rfl := Option.some.inj (located.symm.trans pin.located)
  obtain ⟨ordinal, added⟩ := insertApplicationCell_ok inserted
  exact ⟨row, ordinal, pin, active, inFlight, added⟩

theorem CachedPin.move {now validUntil : Instant} {slot : RecipeCellCacheSnapshot}
    {row : CellRow} {ordinal : ℕ}
    (cached : CachedPin rows after input now cellResultId slot row validUntil ordinal) :
    RecipeCellMove canonical rows after :=
  .pinned cached.pin (fun _ => cached.succeeded) cached.added

theorem ActivePin.move {slot : RecipeCellCacheSnapshot} {row : CellRow} {ordinal : ℕ}
    (active : ActivePin rows after input cellResultId slot row ordinal) :
    RecipeCellMove canonical rows after := by
  refine .pinned active.pin (fun cached => ?_) active.added
  cases cached

/-- A slot that names nothing in flight, and nothing valid at an instant. -/
def SlotIsOpen (rows : RecipeCellRows) (cacheKey : ContentHash) (now : Instant) : Prop :=
  ∀ slot, rows.findSlot cacheKey = some slot →
    slot.activeCellResultId = none ∧ ValidIsExpired slot now

/-- The binding of the pending cell that a Run is created for. -/
def pendingBinding (environment : RecipeCellRunEnvironment) (request : CreateRecipeCellRunRequest)
    (input : ExactRecipeCellInput) (run : Run) : RecipeCellRunBinding :=
  ⟨pendingCell environment.canonical input run.runId, input, request.inputId, request.runPlanId⟩

/-- What happens under the lock of a cache slot. -/
inductive CreateOutcome (environment : RecipeCellRunEnvironment)
    (request : CreateRecipeCellRunRequest) (scope : WorkspaceId) (rows : RecipeCellRows)
    (input : ExactRecipeCellInput) : CreateRecipeCellRunResult → RecipeCellRows → Prop where
  | rejected (failure : CreateRecipeCellRunFailure) :
      CreateOutcome environment request scope rows input (.error failure) rows
  | cached {after : RecipeCellRows} {cellResultId : CellResultId} {slot : RecipeCellCacheSnapshot}
      {row : CellRow} {validUntil : Instant} {ordinal : ℕ}
      (cached : CachedPin rows after input environment.pinnedAt cellResultId slot row validUntil
        ordinal) :
      CreateOutcome environment request scope rows input (.ok (.cached cellResultId)) after
  | active {after : RecipeCellRows} {cellResultId : CellResultId} {slot : RecipeCellCacheSnapshot}
      {row : CellRow} {ordinal : ℕ}
      (active : ActivePin rows after input cellResultId slot row ordinal)
      (expired : ValidIsExpired slot environment.pinnedAt) :
      CreateOutcome environment request scope rows input (.ok (.active cellResultId)) after
  | created {after : RecipeCellRows} {run : Run} {replayed : Bool}
      (slotIsOpen : SlotIsOpen rows input.cacheKey environment.pinnedAt)
      (stored : storePending environment.canonical environment.evidence scope rows
        (pendingBinding environment request input run) environment.claimedAt = .ok after) :
      CreateOutcome environment request scope rows input
        (.ok (.created (deterministicCellResultId environment.canonical input) replayed run)) after

/-- The slot of an input binds its cell, rejects it, or is open. -/
theorem resolveCachedApplicationCell_ok (request : CreateRecipeCellRunRequest)
    {answer : Option CreateRecipeCellRunResult}
    {slot : Option RecipeCellCacheSnapshot} (located : rows.findSlot input.cacheKey = slot)
    (done : resolveCachedApplicationCell environment scope rows input slot = .ok (answer, after)) :
    (answer = none ∧ after = rows ∧ SlotIsOpen rows input.cacheKey environment.pinnedAt) ∨
      ∃ result, answer = some result ∧
        CreateOutcome environment request scope rows input result after := by
  unfold resolveCachedApplicationCell at done
  split at done
  · obtain ⟨rfl, rfl⟩ := Prod.mk.inj (Except.ok.inj done)
    refine .inl ⟨rfl, rfl, fun slot found => ?_⟩
    rw [located] at found
    cases found
  rename_i slot
  split at done
  · obtain ⟨rfl, rfl⟩ := Prod.mk.inj (Except.ok.inj done)
    exact .inr ⟨_, rfl, .rejected _⟩
  obtain ⟨⟨pinned, next⟩, pinnedEq, bound⟩ := bind_eq_ok.mp done
  rcases pinValid_ok located pinnedEq with
    ⟨rfl, rfl, expired⟩ | ⟨id, row, validUntil, ordinal, rfl, cached⟩
  · dsimp only at bound
    split at bound
    · rename_i inactive
      obtain ⟨rfl, rfl⟩ := Prod.mk.inj (Except.ok.inj bound)
      refine .inl ⟨rfl, rfl, fun found foundEq => ?_⟩
      obtain rfl := Option.some.inj (located.symm.trans foundEq)
      exact ⟨inactive, expired⟩
    · obtain ⟨final, finalEq, same⟩ := map_eq_ok.mp bound
      obtain ⟨rfl, rfl⟩ := Prod.mk.inj same
      obtain ⟨row, ordinal, active⟩ := pinActive_pin located finalEq
      exact .inr ⟨_, rfl, .active active expired⟩
  · obtain ⟨rfl, rfl⟩ := Prod.mk.inj (Except.ok.inj bound)
    exact .inr ⟨_, rfl, .cached cached⟩

private theorem createUnderCacheLock_ok {answer : CreateRecipeCellRunResult}
    (done : createUnderCacheLock environment scope rows request input = .ok (answer, after)) :
    CreateOutcome environment request scope rows input answer after := by
  obtain ⟨slot, loaded, locked⟩ := bind_eq_ok.mp done
  obtain ⟨⟨result, next⟩, resolved, bound⟩ := bind_eq_ok.mp locked
  rcases resolveCachedApplicationCell_ok request (loadCache_ok loaded) resolved with
    ⟨rfl, rfl, slotIsOpen⟩ | ⟨result, rfl, outcome⟩
  · change createAndBindRecipeCellRun environment scope _ request input = _ at bound
    unfold createAndBindRecipeCellRun at bound
    split at bound
    · obtain ⟨rfl, rfl⟩ := Prod.mk.inj (Except.ok.inj bound)
      exact .rejected _
    · obtain ⟨final, stored, same⟩ := map_eq_ok.mp bound
      obtain ⟨rfl, rfl⟩ := Prod.mk.inj same
      exact .created slotIsOpen (bindPending_ok stored)
  · obtain ⟨rfl, rfl⟩ := Prod.mk.inj (Except.ok.inj bound)
    exact outcome

/-! ## Every transaction is a move -/

/-- Over an open slot of a safe cache the pending cell is new. -/
theorem pendingStored_of_open (safe : CacheIsSafe canonical rows) {run : Run}
    (slotIsOpen : SlotIsOpen rows input.cacheKey environment.pinnedAt)
    (stored : storePending environment.canonical environment.evidence scope rows
      (pendingBinding environment request input run) environment.claimedAt = .ok after) :
    ∃ snapshot ordinal, PendingStored rows after (pendingBinding environment request input run)
      environment.claimedAt snapshot ordinal := by
  have inactive : ∀ slot, rows.findSlot input.cacheKey = some slot →
      slot.activeCellResultId = none := fun slot located => (slotIsOpen slot located).1
  rcases storePending_ok (pendingBinding environment request input run) inactive stored
    with ⟨row, found, sameKey, sameCell⟩ | written
  · obtain ⟨member, -⟩ := findCell_mem found
    obtain ⟨slot, located, active⟩ := safe.inFlight row member (by
      rw [CellRow.IsInFlight, sameCell]
      rfl)
    rw [inactive slot (sameKey ▸ located)] at active
    cases active
  · exact written

theorem CreateOutcome.move (safe : CacheIsSafe canonical rows)
    (keyed : input.cacheKey = recipeCellCacheKey canonical input.toRecipeCellCacheIdentity)
    {answer : CreateRecipeCellRunResult}
    (outcome : CreateOutcome environment request scope rows input answer after) :
    RecipeCellMove canonical rows after := by
  cases outcome with
  | rejected => exact .unchanged
  | cached cached => exact cached.move
  | active active => exact active.move
  | created slotIsOpen stored =>
      obtain ⟨snapshot, ordinal, written⟩ := pendingStored_of_open safe slotIsOpen stored
      exact .stored keyed rfl (fun slot located => (slotIsOpen slot located).1) written

private theorem prepareFromCache_move {answer : PrepareRecipeCellResult}
    (done : prepareFromCache environment scope rows input = .ok (answer, after)) :
    RecipeCellMove canonical rows after := by
  obtain ⟨slot, loaded, done⟩ := bind_eq_ok.mp done
  have located := loadCache_ok loaded
  split at done
  · obtain ⟨-, rfl⟩ := Prod.mk.inj (Except.ok.inj done)
    exact .unchanged
  split at done
  · obtain ⟨-, rfl⟩ := Prod.mk.inj (Except.ok.inj done)
    exact .unchanged
  obtain ⟨⟨pinned, next⟩, pinnedEq, bound⟩ := bind_eq_ok.mp done
  rcases pinValid_ok located pinnedEq with
    ⟨rfl, rfl, -⟩ | ⟨id, row, validUntil, ordinal, rfl, cached⟩
  · dsimp only at bound
    split at bound
    · obtain ⟨-, rfl⟩ := Prod.mk.inj (Except.ok.inj bound)
      exact .unchanged
    · obtain ⟨final, finalEq, same⟩ := map_eq_ok.mp bound
      obtain ⟨-, rfl⟩ := Prod.mk.inj same
      obtain ⟨row, ordinal, active⟩ := pinActive_pin located finalEq
      exact active.move
  · obtain ⟨-, rfl⟩ := Prod.mk.inj (Except.ok.inj bound)
    exact cached.move

private theorem markRunning_move {evidence : RecipeEvidence} {runId : RunId} {proposed : CellResult}
    (done : markRunning evidence rows runId proposed = .ok after) :
    RecipeCellMove canonical rows after := by
  rcases markRunning_ok done with rfl | ⟨row, replaced, running, pending, rfl⟩
  · exact .unchanged
  · exact .started replaced running pending

private theorem markBoundCellRunning_move {evidence : RecipeEvidence} {runId : RunId}
    (done : markBoundCellRunning evidence rows runId = .ok (.ok after)) :
    RecipeCellMove canonical rows after := by
  obtain ⟨found, _, done⟩ := bind_eq_ok.mp done
  split at done
  · obtain rfl := Except.ok.inj (Except.ok.inj done)
    exact .unchanged
  split at done
  · cases Except.ok.inj done
  split at done
  · obtain rfl := Except.ok.inj (Except.ok.inj done)
    exact .unchanged
  · obtain ⟨next, marked, same⟩ := map_eq_ok.mp done
    obtain rfl := Except.ok.inj same
    exact markRunning_move marked

private theorem finalizeCell_move {evidence : RecipeEvidence} {run : Option Run}
    {finalization : RecipeCellFinalization}
    (done : finalizeCell canonical evidence scope rows run finalization = .ok after) :
    RecipeCellMove canonical rows after := by
  rcases finalizeCell_ok done with rfl | ⟨row, replaced, inFlight, settled⟩
  · exact .unchanged
  · obtain ⟨current, located, active, -, written⟩ := settleCacheForTerminalCell_ok settled
    exact .settled replaced inFlight finalization.terminal located active written

theorem CellStep.move (safe : CacheIsSafe canonical rows) {transaction : CellTransaction}
    (step : CellStep canonical scope rows transaction after) :
    RecipeCellMove canonical rows after := by
  cases step with
  | create sameHash requested done =>
      exact (createUnderCacheLock_ok done).move safe (sameHash ▸ requestedInput_keyed requested)
  | prepare done => exact prepareFromCache_move done
  | claim done => exact markBoundCellRunning_move done
  | finalize done => exact finalizeCell_move done

/-- A transaction that creates a Run for a cell leaves the rows, or is a step. -/
theorem createRecipeCellRunInUnitOfWork_step {answer : CreateRecipeCellRunResult}
    (sameHash : environment.canonical = canonical)
    (done : createRecipeCellRunInUnitOfWork environment scope rows request = .ok (answer, after)) :
    after = rows ∨
      CellStep canonical scope rows (.create environment request answer) after := by
  unfold createRecipeCellRunInUnitOfWork at done
  split at done
  · exact .inl (Prod.mk.inj (Except.ok.inj done)).2.symm
  obtain ⟨requested, requestedEq, resolved⟩ := bind_eq_ok.mp done
  split at resolved
  · exact .inl (Prod.mk.inj (Except.ok.inj resolved)).2.symm
  obtain ⟨existing, _, locked⟩ := bind_eq_ok.mp resolved
  split at locked
  · exact .inl (Prod.mk.inj (Except.ok.inj locked)).2.symm
  · exact .inr (.create sameHash requestedEq locked)

/-- A transaction that prepares a cell leaves the rows, or is a step. -/
theorem prepareRecipeCellInUnitOfWork_step {prepared : PrepareRecipeCellRequest}
    {answer : PrepareRecipeCellResult}
    (done : prepareRecipeCellInUnitOfWork environment scope rows prepared = .ok (answer, after)) :
    after = rows ∨
      CellStep canonical scope rows (.prepare environment prepared answer) after := by
  obtain ⟨existing, _, resolving⟩ := bind_eq_ok.mp done
  split at resolving
  · exact .inl (Prod.mk.inj (Except.ok.inj resolving)).2.symm
  obtain ⟨resolved, _, locked⟩ := bind_eq_ok.mp resolving
  split at locked
  · exact .inl (Prod.mk.inj (Except.ok.inj locked)).2.symm
  · exact .inr (.prepare locked)

private theorem prepareRecipeCell_step {prepared : PrepareRecipeCellRequest}
    {answer : PrepareRecipeCellResult}
    (done : prepareRecipeCell environment rows prepared = .ok (answer, after)) :
    after = rows ∨ CellStep canonical prepared.actor.workspaceId rows
      (.prepare environment prepared answer) after := by
  unfold prepareRecipeCell at done
  split at done
  · exact .inl (Prod.mk.inj (Except.ok.inj done)).2.symm
  · exact prepareRecipeCellInUnitOfWork_step done

/-! ## A sample cell -/

section Sample

open ExportRecipeApplication (sampleApplication sampleRecipe sampleFields sampleDataset)

private def mixed (hash value : ℕ) : ℕ :=
  (hash * 1000003 + value) % 2 ^ 64

private def mixedText (hash : ℕ) (text : String) : ℕ :=
  text.toList.foldl (fun hash character => mixed hash character.toNat) hash

mutual

def mixedJson (hash : ℕ) : NormalizedJsonValue → ℕ
  | .null => mixed hash 1
  | .boolean value => mixed hash (if value then 3 else 2)
  | .number value => mixed (mixed (mixed hash 4) value.num.toNat) value.den
  | .string value => mixedText (mixed hash 5) value
  | .array entries => mixedEntries (mixed hash 6) entries
  | .object properties => mixedProperties (mixed hash 7) properties

def mixedEntries (hash : ℕ) : List NormalizedJsonValue → ℕ
  | [] => mixed hash 8
  | entry :: entries => mixedEntries (mixedJson hash entry) entries

def mixedProperties (hash : ℕ) : List (String × NormalizedJsonValue) → ℕ
  | [] => mixed hash 9
  | (key, value) :: properties =>
      mixedProperties (mixedJson (mixedText hash key) value) properties

end

/-- A hash that reads every key and every value. -/
def sampleCanonicalization : RecipeCanonicalization where
  digest value := toString (mixedJson 0 value)

private def sampleCellRecord : DatasetRecord :=
  ⟨"dataset-1", "record-1", [⟨"field-1", .string "Acme"⟩], "workspace-1"⟩

private def sampleEvidence : RecipeEvidence where
  datasets := [⟨sampleDataset, sampleFields⟩]
  records := [⟨"record-content", sampleCellRecord⟩]
  recipes := [sampleRecipe]
  applications := [sampleApplication]

def sampleCellEnvironment : RecipeCellRunEnvironment where
  canonical := sampleCanonicalization
  evidence := sampleEvidence
  requiredPermission := "recipes.run"
  pinnedAt := 1
  claimedAt := 2
  createRun := fun _ => .ok ⟨sampleRun, false⟩

def sampleCellInput : ExactRecipeCellInput :=
  exactRecipeCellInput sampleCanonicalization sampleApplication sampleDataset sampleRecipe
    sampleCellRecord "record-content"

def sampleCellRequest : CreateRecipeCellRunRequest where
  actor := ⟨"actor-1", ["recipes.run"], "workspace-1"⟩
  input := sampleCellInput
  inputId := "input-1"
  runPlanId := "plan-1"

def sampleCellBinding : RecipeCellRunBinding :=
  pendingBinding sampleCellEnvironment sampleCellRequest sampleCellInput sampleRun

/-- The rows after the first cell is created. -/
def samplePendingRows : RecipeCellRows where
  cells := [sampleCellBinding.row]
  cache := [⟨some sampleCellBinding.cellResult.cellResultId,
    sampleCellInput.toRecipeCellCacheIdentity, sampleCellInput.cacheKey, 1, none, none⟩]
  applicationCells := [⟨"application-1", sampleCellInput.columns, 0, sampleCellInput.cacheKey,
    sampleCellBinding.cellResult.cellResultId, .executed⟩]

private theorem sampleCell_requested :
    requestedInput sampleCellEnvironment sampleCellRequest = .ok (some sampleCellInput) := by
  have resolved : resolveExactRecipeCellInput sampleCanonicalization sampleApplication
      sampleDataset sampleRecipe sampleCellRecord "record-content" = .ok sampleCellInput :=
    if_neg (by decide)
  have stored : resolveExactInput sampleCanonicalization sampleEvidence "application-1"
      "record-1" = .ok (some sampleCellInput) := by
    rw [resolveExactInput_found sampleApplication ⟨sampleDataset, sampleFields⟩ sampleRecipe
      ⟨"record-content", sampleCellRecord⟩ (by decide) (by decide)
      (by decide) (by decide) (by decide), resolved]
    rfl
  have same : exactInputMatches sampleCellInput sampleCellInput = true := by
    set_option maxRecDepth 4000 in
    with_unfolding_all decide
  show (resolveExactInput sampleCanonicalization sampleEvidence "application-1" "record-1").map
    (Option.filter fun stored => exactInputMatches stored sampleCellInput) = _
  rw [stored, Except.map, Option.filter_some, if_pos same]

private theorem sampleCell_created :
    createUnderCacheLock sampleCellEnvironment "workspace-1" ⟨[], [], []⟩ sampleCellRequest
        sampleCellInput =
      .ok (.ok (.created sampleCellBinding.cellResult.cellResultId false sampleRun),
        samplePendingRows) := by
  set_option maxRecDepth 4000 in
  with_unfolding_all decide

private theorem samplePendingRows_reachable :
    (recipeCells sampleCanonicalization "workspace-1").Reachable samplePendingRows :=
  (TransitionSystem.Reachable.initial rfl).step
    (.create rfl sampleCell_requested sampleCell_created)

/-- The rows after the Run of the cell is claimed. -/
def sampleRunningRows : RecipeCellRows :=
  { samplePendingRows with
    cells := [{ sampleCellBinding.row with
      cellResult := { sampleCellBinding.cellResult with status := .running } }] }

private theorem sampleCell_claimed :
    (recipeCells sampleCanonicalization "workspace-1").step samplePendingRows
      (.claim sampleRun.runId) sampleRunningRows := by
  have marked : markBoundCellRunning sampleEvidence samplePendingRows sampleRun.runId =
      .ok (.ok sampleRunningRows) := by
    set_option maxRecDepth 8000 in
    with_unfolding_all decide
  exact .claim marked

/-- Another application of the recipe to the record. -/
def sampleOtherEnvironment : RecipeCellRunEnvironment :=
  { sampleCellEnvironment with
    evidence := { sampleEvidence with
      applications := [sampleApplication,
        { sampleApplication with recipeApplicationId := "application-2" }] } }

def sampleOtherInput : ExactRecipeCellInput :=
  { sampleCellInput with recipeApplicationId := "application-2" }

def sampleOtherRequest : CreateRecipeCellRunRequest :=
  { sampleCellRequest with input := sampleOtherInput }

/-- The rows after the cell of the other application is bound to the result in flight. -/
def sampleSharedRows : RecipeCellRows :=
  { sampleRunningRows with
    applicationCells := sampleRunningRows.applicationCells ++
      [⟨"application-2", sampleCellInput.columns, 0, sampleCellInput.cacheKey,
        sampleCellBinding.cellResult.cellResultId, .executed⟩] }

private theorem sampleCell_shared :
    createUnderCacheLock sampleOtherEnvironment "workspace-1" sampleRunningRows sampleOtherRequest
        sampleOtherInput =
      .ok (.ok (.active sampleCellBinding.cellResult.cellResultId), sampleSharedRows) := by
  set_option maxRecDepth 8000 in
  with_unfolding_all decide

end Sample

/-! ## Every reachable state -/

private theorem cacheIsSafe_empty (canonical : RecipeCanonicalization) :
    CacheIsSafe canonical ⟨[], [], []⟩ where
  distinct := List.nodup_nil
  keyed := fun row member => absurd member List.not_mem_nil
  active := by
    intro cacheKey slot cellResultId located
    cases located
  inFlight := fun row member => absurd member List.not_mem_nil
  valid := by
    intro cacheKey slot cellResultId located
    cases located
  pinned := fun known member => absurd member List.not_mem_nil

private theorem cacheIsSafe_invariant (canonical : RecipeCanonicalization) (scope : WorkspaceId) :
    (recipeCells canonical scope).Invariant (CacheIsSafe canonical) where
  initially := by
    rintro rows rfl
    exact cacheIsSafe_empty canonical
  preserved := fun _ _ _ safe step => (step.move safe).safe safe

/-- **Cache safety.** After any transactions in any order the active result of a slot is in
flight for its key, a result in flight is the active one of its slot, and a valid one succeeded
and expires with its slot. A cell is bound to a result of its own exact input, as cached only to
one that succeeded. At most one result is in flight for an exact input. What
`createRecipeCellRun` and `prepareRecipeCell` commit is such a transaction. -/
theorem recipeCellCache_isSafe (canonical : RecipeCanonicalization) (scope : WorkspaceId)
    {rows : RecipeCellRows} (reachable : (recipeCells canonical scope).Reachable rows) :
    CacheIsSafe canonical rows ∧
      (∀ row ∈ rows.cells, ∀ other ∈ rows.cells, row.IsInFlight → other.IsInFlight →
        row.identity = other.identity → row = other) ∧
      (∀ environment request answer after, environment.canonical = canonical →
        createRecipeCellRunInUnitOfWork environment scope rows request = .ok (answer, after) →
          after = rows ∨ (recipeCells canonical scope).step rows
            (.create environment request answer) after) ∧
      ∀ environment request answer after, request.actor.workspaceId = scope →
        prepareRecipeCell environment rows request = .ok (answer, after) →
          after = rows ∨ (recipeCells canonical scope).step rows
            (.prepare environment request answer) after := by
  have safe := (cacheIsSafe_invariant canonical scope).reachable reachable
  refine ⟨safe, fun row member other otherMember open_ otherOpen same => ?_,
    fun environment request answer after => createRecipeCellRunInUnitOfWork_step,
    fun environment request answer after ofScope done => ?_⟩
  swap
  · have stepped : after = rows ∨ CellStep canonical request.actor.workspaceId rows
        (.prepare environment request answer) after := prepareRecipeCell_step done
    rwa [ofScope] at stepped
  refine safe.inFlight_unique member otherMember open_ otherOpen ?_
  rw [safe.keyed row member, safe.keyed other otherMember, same]

theorem recipeCellCache_isSafe_running :
    CacheIsSafe sampleCanonicalization sampleRunningRows ∧
      ∀ row ∈ sampleRunningRows.cells, ∀ other ∈ sampleRunningRows.cells, row.IsInFlight →
        other.IsInFlight → row.identity = other.identity → row = other :=
  have safe := recipeCellCache_isSafe sampleCanonicalization "workspace-1"
    (samplePendingRows_reachable.step sampleCell_claimed)
  ⟨safe.1, safe.2.1⟩

/-- The cell of an input is bound to a result. -/
def CellIsBound (rows : RecipeCellRows) (input : ExactRecipeCellInput)
    (cellResultId : CellResultId) (binding : RecipeCellBinding) : Prop :=
  ∃ ordinal, rows.findApplicationCell input.recipeApplicationId input.recordId =
    some ⟨input.recipeApplicationId, input.columns, ordinal, input.cacheKey, cellResultId, binding⟩

/-- What an answer says of the results before and the cell after. -/
def ReuseIsExact (environment : RecipeCellRunEnvironment) (request : CreateRecipeCellRunRequest)
    (input : ExactRecipeCellInput) (rows after : RecipeCellRows) :
    CreateRecipeCellRunResult → Prop
  | .error _ => after = rows
  | .ok (.cached cellResultId) =>
      (∃ row expiresAt, rows.findCell cellResultId = some row ∧ row.cacheKey = input.cacheKey ∧
        row.identity.columns = input.columns ∧ row.cellResult.status = .succeeded ∧
          row.cellResult.freshness.bind CellResultFreshness.expiresAt = some expiresAt ∧
            environment.pinnedAt < expiresAt) ∧
        after.cells = rows.cells ∧ after.cache = rows.cache ∧
          CellIsBound after input cellResultId .cached
  | .ok (.active cellResultId) =>
      (∃ row, rows.findCell cellResultId = some row ∧ row.cacheKey = input.cacheKey ∧
        row.identity.columns = input.columns ∧ row.IsInFlight ∧
          ∀ other ∈ rows.cells, other.IsInFlight → other.cacheKey = input.cacheKey → other = row) ∧
        after.cells = rows.cells ∧ after.cache = rows.cache ∧
          CellIsBound after input cellResultId .executed
  | .ok (.created cellResultId _ run) =>
      (∀ row ∈ rows.cells, row.IsInFlight → row.cacheKey ≠ input.cacheKey) ∧
        (∀ slot, rows.findSlot input.cacheKey = some slot →
          ValidIsExpired slot environment.pinnedAt) ∧
        (∀ row ∈ rows.cells, row.cellResult.cellResultId ≠ cellResultId ∧
          row.cellResult.runId ≠ run.runId) ∧
        after.cells = rows.cells ++ [(pendingBinding environment request input run).row] ∧
          (∃ slot, after.findSlot input.cacheKey = some slot ∧
            slot.activeCellResultId = some cellResultId) ∧
          CellIsBound after input cellResultId .executed
  | .ok (.bound _ _) => False

/-- **Exact reuse.** In every reachable state, a request under the lock of its slot is answered
with a cached result only when it is a result of the exact input that has not expired, with an
active one only when it is the one result in flight for the input, and with a new Run only when
none is in flight and the valid one expired; then the new cell is in flight. The cell is bound
to the result of the answer. A failure writes nothing. -/
theorem createUnderCacheLock_reuse (canonical : RecipeCanonicalization) (scope : WorkspaceId)
    {rows after : RecipeCellRows} {environment : RecipeCellRunEnvironment}
    {request : CreateRecipeCellRunRequest} {input : ExactRecipeCellInput}
    {answer : CreateRecipeCellRunResult}
    (reachable : (recipeCells canonical scope).Reachable rows)
    (done : createUnderCacheLock environment scope rows request input = .ok (answer, after)) :
    ReuseIsExact environment request input rows after answer := by
  have safe := (cacheIsSafe_invariant canonical scope).reachable reachable
  cases createUnderCacheLock_ok done with
  | rejected => rfl
  | cached cached =>
      obtain ⟨row, found, sameKey, succeeded, expiry⟩ :=
        safe.valid _ _ _ cached.pin.located cached.valid
      obtain rfl := Option.some.inj (cached.pin.found.symm.trans found)
      exact ⟨⟨_, _, found, sameKey, cached.pin.sameColumns, succeeded,
        expiry.trans cached.expiry, cached.fresh⟩, cached.added.cells, cached.added.cache, _,
        cached.added.bound⟩
  | active active =>
      have pin := active.pin
      refine ⟨⟨_, pin.found, pin.sameKey, pin.sameColumns, active.inFlight, ?_⟩,
        active.added.cells, active.added.cache, _, active.added.bound⟩
      intro other member open_ sameKey
      exact safe.inFlight_unique member (findCell_mem pin.found).1 open_ active.inFlight
        (sameKey.trans pin.sameKey.symm)
  | created slotIsOpen stored =>
      obtain ⟨snapshot, ordinal, written⟩ := pendingStored_of_open safe slotIsOpen stored
      refine ⟨?_, fun slot located => (slotIsOpen slot located).2, written.fresh, written.cells,
        ⟨snapshot, ?_, written.claimed.active⟩, ordinal, written.bound⟩
      · intro row member open_ sameKey
        obtain ⟨slot, located, active⟩ := safe.inFlight row member open_
        rw [(slotIsOpen slot (sameKey ▸ located)).1] at active
        cases active
      · exact written.claimed.cacheKey ▸ written.slot

/-- A new Run for the first application, and its result for the second one while it runs. -/
theorem createUnderCacheLock_reuse_sample :
    ReuseIsExact sampleCellEnvironment sampleCellRequest sampleCellInput ⟨[], [], []⟩
        samplePendingRows
        (.ok (.created sampleCellBinding.cellResult.cellResultId false sampleRun)) ∧
      ReuseIsExact sampleOtherEnvironment sampleOtherRequest sampleOtherInput sampleRunningRows
        sampleSharedRows (.ok (.active sampleCellBinding.cellResult.cellResultId)) :=
  ⟨createUnderCacheLock_reuse sampleCanonicalization "workspace-1" (.initial rfl)
      sampleCell_created,
    createUnderCacheLock_reuse sampleCanonicalization "workspace-1"
      (samplePendingRows_reachable.step sampleCell_claimed) sampleCell_shared⟩

private theorem recipeCells_preserve {first last : RecipeCellRows}
    {transactions : List CellTransaction}
    (run : (recipeCells canonical scope).Run first transactions last)
    (safe : CacheIsSafe canonical first) : RowsPreserved first last :=
  (cacheIsSafe_invariant canonical scope).run_rel RowsPreserved.refl
    (fun _ _ _ earlier later => earlier.trans later)
    (fun _ _ _ safe step => (step.move safe).preserves safe.toCellsAreKeyed) run safe

/-- **Immutable history.** Over any transactions the bindings of cells are only appended to, a
result keeps its input and once it is settled its row never changes, and a slot keeps its
identity and is the same slot as long as it has the same revision. -/
theorem recipeCells_history (canonical : RecipeCanonicalization) (scope : WorkspaceId)
    {first last : RecipeCellRows} {transactions : List CellTransaction}
    (reachable : (recipeCells canonical scope).Reachable first)
    (run : (recipeCells canonical scope).Run first transactions last) :
    first.applicationCells <+: last.applicationCells ∧
      (∀ cellResultId row, first.findCell cellResultId = some row →
        ∃ later, last.findCell cellResultId = some later ∧ later.identity = row.identity ∧
          (cellStatusIsTerminal row.cellResult.status = true → later = row)) ∧
      ∀ cacheKey slot, first.findSlot cacheKey = some slot →
        ∃ later, last.findSlot cacheKey = some later ∧
          later.cacheIdentity = slot.cacheIdentity ∧ slot.revision ≤ later.revision ∧
            (later.revision = slot.revision → later = slot) := by
  have preserved := recipeCells_preserve run
    ((cacheIsSafe_invariant canonical scope).reachable reachable)
  refine ⟨preserved.bindings, fun cellResultId row found => ?_, fun cacheKey slot located => ?_⟩
  · obtain ⟨later, laterFound, evolves⟩ := preserved.results cellResultId row found
    exact ⟨later, laterFound, evolves.same.2, evolves.terminal⟩
  · obtain ⟨later, laterLocated, evolves⟩ := preserved.slots cacheKey slot located
    refine ⟨later, laterLocated, ?_⟩
    rcases evolves with rfl | ⟨identity, -, revision⟩
    · exact ⟨rfl, le_rfl, fun _ => rfl⟩
    · exact ⟨identity.symm, revision.le, fun same => absurd same revision.ne'⟩

theorem recipeCells_history_claimed :
    samplePendingRows.applicationCells <+: sampleRunningRows.applicationCells ∧
      (∀ cellResultId row, samplePendingRows.findCell cellResultId = some row →
        ∃ later, sampleRunningRows.findCell cellResultId = some later ∧
          later.identity = row.identity ∧
          (cellStatusIsTerminal row.cellResult.status = true → later = row)) ∧
      ∀ cacheKey slot, samplePendingRows.findSlot cacheKey = some slot →
        ∃ later, sampleRunningRows.findSlot cacheKey = some later ∧
          later.cacheIdentity = slot.cacheIdentity ∧ slot.revision ≤ later.revision ∧
            (later.revision = slot.revision → later = slot) :=
  recipeCells_history sampleCanonicalization "workspace-1" samplePendingRows_reachable
    (.single sampleCell_claimed)

end Kurobara.Application
