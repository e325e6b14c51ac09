import Kurobara.Kernel.Generation.Transitions
import Mathlib.Tactic.Linarith

/-! # Whole-run invariants of a generation

A generation has at most one page in flight, reserves budget only for that page,
never commits more than its hard execution cap, stays within the limits of its
plan, accounts for every returned record and keeps its provider lock
(`GenerationBounds`). The bounds hold of a new generation and every accepted
operation keeps them: the validator of the next snapshot excludes a second page
in flight, which is what makes the old reservation zero when a new one is added.
-/

namespace Kurobara.Kernel

/-- Pages whose effect was authorized and that no checkpoint has committed. -/
def pagesInFlight (generation : DatasetGeneration) : ℤ :=
  generation.counters.pages - generation.lastPageSequence.getD 0

/-- What holds of a generation of `plan` throughout its life. -/
structure GenerationBounds (plan : DatasetGenerationPlan) (creation : DatasetGenerationCreation) :
    Prop where
  onePageInFlight : pagesInFlight creation.generation = 0 ∨ pagesInFlight creation.generation = 1
  reservedInFlight : pagesInFlight creation.generation = 0 → creation.generation.cost.reserved = 0
  hardCap : creation.generation.cost.spent + creation.generation.cost.reserved ≤
    plan.hardExecutionCap
  pagesFit : creation.generation.counters.pages ≤ plan.limits .maxPages
  callsFit : creation.generation.counters.calls ≤ plan.limits .maxCalls
  recordsFit : creation.generation.counters.accepted ≤ datasetGenerationAcceptedRecordLimit plan
  returnedFit : creation.generation.counters.returned ≤ plan.limits .maxResults
  returned : creation.generation.counters.returned = creation.generation.counters.accepted +
    creation.generation.counters.duplicates + creation.generation.counters.rejected
  accepted : creation.generation.counters.accepted = creation.materialization.recordCount
  ready : creation.materialization.state = .ready ↔ creation.generation.state = .completed

/-! ## Facts of valid plans and snapshots -/

theorem createDatasetGenerationPlan_checks {plan : DatasetGenerationPlan}
    (valid : planIsValid plan = true) :
    budgetSnapshotIsValid plan = true ∧ routeSnapshotsAreValid plan plan.requestIntent = true := by
  unfold planIsValid createDatasetGenerationPlan at valid
  simp only at valid
  split at valid
  · simp [Except.toBool] at valid
  split at valid
  · simp [Except.toBool] at valid
  repeat (split at valid; · simp [Except.toBool] at valid)
  simp_all

private theorem planIsValid_hardExecutionCap {plan : DatasetGenerationPlan}
    (valid : planIsValid plan = true) : 0 ≤ plan.hardExecutionCap := by
  have budget := (createDatasetGenerationPlan_checks valid).1
  simp only [budgetSnapshotIsValid, Bool.and_eq_true, isAmount_iff] at budget
  tauto

private theorem planIsValid_limits {plan : DatasetGenerationPlan} (valid : planIsValid plan = true)
    (name : DatasetGenerationLimitName) : 0 ≤ plan.limits name := by
  have budget := (createDatasetGenerationPlan_checks valid).1
  simp only [budgetSnapshotIsValid, Bool.and_eq_true] at budget
  have limits : limitsAreValid plan.limits = true := by tauto
  have named := List.all_eq_true.mp limits name (mem_datasetGenerationLimitNames name)
  exact (nonNegativeSafeInteger_iff.mp named).1

private theorem acceptedRecordLimit_nonneg {plan : DatasetGenerationPlan}
    (valid : planIsValid plan = true) : 0 ≤ datasetGenerationAcceptedRecordLimit plan := by
  unfold datasetGenerationAcceptedRecordLimit
  split
  · exact planIsValid_limits valid _
  · split <;> exact planIsValid_limits valid _

theorem generationCountersAreValid.pages {counters : DatasetGenerationCounters}
    (valid : generationCountersAreValid counters = true) : 0 ≤ counters.pages := by
  simp only [generationCountersAreValid, Bool.and_eq_true, nonNegativeSafeInteger_iff] at valid
  tauto

/-- A valid snapshot has no committed page or its last page is the current page
or the one before it. -/
theorem SnapshotValid.lastPage {creation : DatasetGenerationCreation}
    {plan : DatasetGenerationPlan} (valid : SnapshotValid creation plan) :
    (creation.generation.lastPageSequence = none ∧ creation.generation.counters.pages ≤ 1) ∨
      (0 < creation.generation.counters.pages ∧
        (creation.generation.lastPageSequence = some creation.generation.counters.pages ∨
          creation.generation.lastPageSequence =
            some (creation.generation.counters.pages - 1))) := by
  have bound := valid.facts.pages
  unfold pagesAreBound at bound
  split at bound
  · simp only [Bool.and_eq_true, Option.isNone_iff_eq_none, decide_eq_true_eq] at bound
    exact .inl bound
  · simp only [Bool.and_eq_true, Bool.or_eq_true, beq_iff_eq, decide_eq_true_eq] at bound
    obtain ⟨⟨last, positive⟩, _⟩ := bound
    exact .inr ⟨positive, last.imp id And.right⟩

/-- **At most one page in flight.** -/
theorem SnapshotValid.pagesInFlight {creation : DatasetGenerationCreation}
    {plan : DatasetGenerationPlan} (valid : SnapshotValid creation plan) :
    pagesInFlight creation.generation = 0 ∨ pagesInFlight creation.generation = 1 := by
  have nonNegative := generationCountersAreValid.pages valid.facts.counters
  unfold Kernel.pagesInFlight
  rcases valid.lastPage with ⟨last, atMost⟩ | ⟨positive, last | last⟩
  · rw [last, Option.getD_none]
    omega
  · rw [last, Option.getD_some]
    omega
  · rw [last, Option.getD_some]
    omega

private theorem materializationStateForGeneration_eq_ready {state : DatasetGenerationState} :
    materializationStateForGeneration state = .ready ↔ state = .completed := by
  cases state <;> simp [materializationStateForGeneration]

/-- A valid snapshot has every bound except the two on its cost. -/
theorem SnapshotValid.bounds {creation : DatasetGenerationCreation} {plan : DatasetGenerationPlan}
    (valid : SnapshotValid creation plan)
    (reservedInFlight :
      Kernel.pagesInFlight creation.generation = 0 → creation.generation.cost.reserved = 0)
    (hardCap : creation.generation.cost.spent + creation.generation.cost.reserved ≤
      plan.hardExecutionCap) : GenerationBounds plan creation where
  onePageInFlight := valid.pagesInFlight
  reservedInFlight := reservedInFlight
  hardCap := hardCap
  pagesFit := valid.facts.pagesFit
  callsFit := valid.facts.callsFit
  recordsFit := valid.facts.acceptedFit
  returnedFit := valid.facts.returnedFit
  returned := valid.facts.returned
  accepted := valid.facts.acceptedRecords
  ready := by rw [valid.facts.materialized, materializationStateForGeneration_eq_ready]

/-! ## What one operation does to the cost -/

/-- The reservation and the spending after an operation, given the bounds before it. -/
theorem operationResult_cost {creation : DatasetGenerationCreation} {plan : DatasetGenerationPlan}
    {operation : DatasetGenerationOperation} (bounds : GenerationBounds plan creation)
    (valid : SnapshotValid creation plan)
    (admitted : operationIsAdmitted creation plan operation = true)
    (nextValid : SnapshotValid (operationResult creation operation) plan) :
    let next := (operationResult creation operation).generation
    (pagesInFlight next = 0 → next.cost.reserved = 0) ∧
      next.cost.spent + next.cost.reserved ≤ plan.hardExecutionCap := by
  have reservedNonNegative := valid.facts.reserved
  have hardCap := bounds.hardCap
  cases operation with
  | authorizePageEffect input =>
      -- A second page in flight is excluded by the next snapshot, so nothing was reserved.
      have inFlight : pagesInFlight
        (operationResult creation (.authorizePageEffect input)).generation
          = pagesInFlight creation.generation + 1 := by
        simp only [pagesInFlight, operationResult, pageEffectAuthorized]
        omega
      have settled : pagesInFlight creation.generation = 0 := by
        have before := valid.pagesInFlight
        have after := nextValid.pagesInFlight
        omega
      have nothingReserved := bounds.reservedInFlight settled
      simp only [operationIsAdmitted, pageEffectIsAdmitted, Bool.and_eq_true, Bool.not_eq_true',
        amountExceeds_eq_false_iff] at admitted
      refine ⟨fun none => by omega, ?_⟩
      simp only [operationResult, pageEffectAuthorized, nothingReserved, zero_add]
      tauto
  | checkpointPageProgress input =>
      simp only [operationIsAdmitted, pageCheckpointIsAdmitted, Bool.and_eq_true,
        Bool.not_eq_true', amountExceeds_eq_false_iff] at admitted
      have covered : input.costAmount ≤ creation.generation.cost.reserved := by tauto
      refine ⟨fun _ => rfl, ?_⟩
      simp only [operationResult, pageProgressCheckpointed]
      linarith
  | complete input => exact ⟨bounds.reservedInFlight, hardCap⟩
  | fail input =>
      refine ⟨fun _ => rfl, ?_⟩
      simp only [operationResult, generationFailed]
      linarith
  | markAmbiguous => exact ⟨bounds.reservedInFlight, hardCap⟩
  | requestStop input =>
      by_cases recorded : stopIsRecorded creation.generation = true
      · simp only [operationResult, recorded, ↓reduceIte]
        exact ⟨bounds.reservedInFlight, hardCap⟩
      · simp only [operationResult, recorded, Bool.false_eq_true, ↓reduceIte]
        exact ⟨bounds.reservedInFlight, hardCap⟩
  | cancelAfterStop completedAt =>
      refine ⟨fun _ => rfl, ?_⟩
      simp only [operationResult, cancelledAfterStop]
      linarith

/-- A provider lock is kept by every operation. -/
theorem operationResult_lockedProvider {creation : DatasetGenerationCreation}
    (operation : DatasetGenerationOperation) {provider : String}
    (locked : creation.generation.lockedProvider = some provider) :
    (operationResult creation operation).generation.lockedProvider = some provider := by
  cases operation with
  | checkpointPageProgress input => simp [operationResult, pageProgressCheckpointed, locked]
  | requestStop input =>
      simp only [operationResult]
      split <;> exact locked
  | _ => exact locked

/-! ## Runs -/

private theorem validateDatasetGenerationCreation_ok {creation result : DatasetGenerationCreation}
    {plan : DatasetGenerationPlan}
    (accepted : validateDatasetGenerationCreation creation plan = .ok result) :
    result = creation ∧ planIsValid plan = true ∧ generationIsInitial creation = true ∧
      initialBindingMatchesPlan creation plan = true := by
  unfold validateDatasetGenerationCreation at accepted
  split at accepted
  · cases accepted
  · rename_i planned plannedEq
    split at accepted
    · cases accepted
    split at accepted
    · cases accepted
    split at accepted
    · cases accepted
    cases accepted
    exact ⟨rfl, by simp [planIsValid, plannedEq, Except.toBool], by simp_all, by simp_all⟩

/-- A valid snapshot without progress is accepted as a new generation. -/
theorem SnapshotValid.validateCreation {creation : DatasetGenerationCreation}
    {plan : DatasetGenerationPlan} (valid : SnapshotValid creation plan)
    (initial : generationIsInitial creation = true)
    (bound : initialBindingMatchesPlan creation plan = true) :
    validateDatasetGenerationCreation creation plan = .ok creation := by
  have planValid := valid.planValid
  unfold validateDatasetGenerationCreation
  rw [createDatasetMaterialization_of_valid valid.materializationValid]
  cases accepted : createDatasetGenerationPlan plan with
  | error failure => simp [planIsValid, accepted, Except.toBool] at planValid
  | ok value => simp [initial, bound]

/-- The generation of a plan, once its first snapshot is valid. -/
theorem SnapshotValid.created {input : CreateDatasetGenerationInput}
    {materializationId : DatasetMaterializationId}
    (valid : SnapshotValid (initialCreation input materializationId) input.plan)
    (identified : datasetMaterializationId input.plan.requestIntent.targetDataset.datasetId =
      some materializationId)
    (initial : generationIsInitial (initialCreation input materializationId) = true)
    (bound : initialBindingMatchesPlan (initialCreation input materializationId) input.plan =
      true) :
    createDatasetGeneration input = some (.ok (initialCreation input materializationId)) := by
  unfold createDatasetGeneration
  rw [identified]
  exact congrArg some (valid.validateCreation initial bound)

/-- A new generation has no progress, so its bounds are those of the plan. -/
theorem initialCreation_bounds {plan : DatasetGenerationPlan} {creation : DatasetGenerationCreation}
    (start : (generationSystem plan).initial creation) : GenerationBounds plan creation := by
  obtain ⟨input, rfl, created⟩ := start
  obtain ⟨materializationId, _, accepted⟩ := Option.map_eq_some_iff.mp created
  obtain ⟨rfl, valid, _, _⟩ := validateDatasetGenerationCreation_ok accepted
  exact {
    onePageInFlight := .inl rfl
    reservedInFlight := fun _ => rfl
    hardCap := by simpa [initialCreation] using planIsValid_hardExecutionCap valid
    pagesFit := planIsValid_limits valid _
    callsFit := planIsValid_limits valid _
    recordsFit := acceptedRecordLimit_nonneg valid
    returnedFit := planIsValid_limits valid _
    returned := rfl
    accepted := rfl
    ready := by simp [initialCreation] }

/-- Every accepted operation keeps the bounds. -/
theorem generationBounds_step {plan : DatasetGenerationPlan}
    {before after : DatasetGenerationCreation} {operation : DatasetGenerationOperation}
    (bounds : GenerationBounds plan before)
    (moved : (generationSystem plan).step before operation after) :
    GenerationBounds plan after := by
  obtain ⟨rfl, valid, admitted, nextValid⟩ := applyDatasetGenerationOperation_ok.mp moved
  obtain ⟨reservedInFlight, hardCap⟩ := operationResult_cost bounds valid admitted nextValid
  exact nextValid.bounds reservedInFlight hardCap

private theorem generationBounds_invariant (plan : DatasetGenerationPlan) :
    (generationSystem plan).Invariant (GenerationBounds plan) where
  initially _ start := initialCreation_bounds start
  preserved _ _ _ bounds moved := generationBounds_step bounds moved

private theorem lockedProvider_run {plan : DatasetGenerationPlan}
    {first last : DatasetGenerationCreation}
    {operations : List DatasetGenerationOperation} {provider : String}
    (run : (generationSystem plan).Run first operations last)
    (locked : first.generation.lockedProvider = some provider) :
    last.generation.lockedProvider = some provider := by
  induction run with
  | nil state => exact locked
  | cons moved _ ih =>
      obtain ⟨rfl, _⟩ := applyDatasetGenerationOperation_ok.mp moved
      exact ih (operationResult_lockedProvider _ locked)

/-- **Whole-run invariant.** A generation that any sequence of accepted operations
reaches has its bounds, and any further sequence keeps its provider lock. -/
theorem reachable_generation_bounds (plan : DatasetGenerationPlan)
    (creation : DatasetGenerationCreation)
    (reachable : (generationSystem plan).Reachable creation) :
    GenerationBounds plan creation ∧
      ∀ operations later provider, (generationSystem plan).Run creation operations later →
        creation.generation.lockedProvider = some provider →
          later.generation.lockedProvider = some provider :=
  ⟨(generationBounds_invariant plan).reachable reachable,
    fun _ _ _ run locked => lockedProvider_run run locked⟩

/-! ## A sample run -/

def sampleCreation : DatasetGenerationCreation :=
  initialCreation ⟨0, "generation-1", samplePlan⟩ "dataset-1"

/-- The sample generation with its first page in flight. -/
def sampleFirstPage : DatasetGenerationCreation :=
  operationResult sampleCreation (.authorizePageEffect ⟨1, 1, 2, "credit"⟩)

/-- The sample generation after its first page. -/
def sampleCheckpointed : DatasetGenerationCreation :=
  operationResult sampleFirstPage
    (.checkpointPageProgress ⟨1, 1, "credit", 0, 1, "provider-1", 0, 1⟩)

/-- The sample generation with its second page in flight. -/
def sampleSecondPage : DatasetGenerationCreation :=
  operationResult sampleCheckpointed (.authorizePageEffect ⟨2, 2, 2, "credit"⟩)

example : [sampleCreation, sampleFirstPage, sampleCheckpointed, sampleSecondPage].map
    (fun creation => pagesInFlight creation.generation) = [0, 1, 0, 1] := by
  decide

theorem sampleCreation_valid : SnapshotValid sampleCreation samplePlan :=
  ⟨samplePlan_valid, by decide, by decide, by with_unfolding_all decide, by decide⟩

/-- The effect leaves the materialization as it is. -/
theorem sampleFirstPage_valid : SnapshotValid sampleFirstPage samplePlan :=
  ⟨samplePlan_valid, sampleCreation_valid.materializationValid, by decide,
    by with_unfolding_all decide, by with_unfolding_all decide⟩

theorem sampleCheckpointed_valid : SnapshotValid sampleCheckpointed samplePlan :=
  ⟨samplePlan_valid, by decide, by decide, by with_unfolding_all decide, by decide⟩

theorem sampleSecondPage_valid : SnapshotValid sampleSecondPage samplePlan :=
  ⟨samplePlan_valid, sampleCheckpointed_valid.materializationValid, by decide,
    by with_unfolding_all decide, by with_unfolding_all decide⟩

private theorem sampleCreation_reachable : (generationSystem samplePlan).Reachable sampleCreation :=
  .initial ⟨⟨0, "generation-1", samplePlan⟩, rfl,
    sampleCreation_valid.created (by decide) (by decide) (by decide)⟩

private theorem sampleFirstPage_reachable :
    (generationSystem samplePlan).Reachable sampleFirstPage :=
  sampleCreation_reachable.step
    (applyDatasetGenerationOperation_ok.mpr
      ⟨rfl, sampleCreation_valid, by with_unfolding_all decide, sampleFirstPage_valid⟩)

theorem sampleSecondPage_reachable : (generationSystem samplePlan).Reachable sampleSecondPage := by
  have checkpointed : (generationSystem samplePlan).Reachable sampleCheckpointed :=
    sampleFirstPage_reachable.step
      (applyDatasetGenerationOperation_ok.mpr
        ⟨rfl, sampleFirstPage_valid, by with_unfolding_all decide, sampleCheckpointed_valid⟩)
  exact checkpointed.step
    (applyDatasetGenerationOperation_ok.mpr
      ⟨rfl, sampleCheckpointed_valid, by with_unfolding_all decide, sampleSecondPage_valid⟩)

/-- The bounds at a generation whose second page is in flight. -/
theorem reachable_generation_bounds_secondPage :
    pagesInFlight sampleSecondPage.generation = 1 ∧ GenerationBounds samplePlan sampleSecondPage ∧
      ∀ operations later provider,
        (generationSystem samplePlan).Run sampleSecondPage operations later →
          sampleSecondPage.generation.lockedProvider = some provider →
            later.generation.lockedProvider = some provider :=
  ⟨by decide, reachable_generation_bounds samplePlan sampleSecondPage sampleSecondPage_reachable⟩

end Kurobara.Kernel
