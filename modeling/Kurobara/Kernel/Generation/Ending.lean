import Kurobara.Kernel.Generation.Ambiguity

/-! # Ending a generation

The completion of a checkpointed generation, its certain failure and the end of its stop
keep all progress. So they succeed exactly when the clock is a valid instant that is not
before the instants it must follow, the texts they store are bounded, and the next
materialization revision is a safe integer.
-/

namespace Kurobara.Kernel

/-! ## Materializations -/

/-- The materialization with the proof of a new state. -/
def materializationMoved (materialization : DatasetMaterialization)
    (state : DatasetMaterializationState) (completedAt : Option Instant)
    (completionReason : Option String) (contentHash : Option ContentHash)
    (coverage : Option DatasetMaterializationCoverage) : DatasetMaterialization :=
  { materialization with
    completedAt := completedAt
    completionReason := completionReason
    contentHash := contentHash
    coverage := coverage
    revision := materialization.revision + 1
    state := state }

section Materialization

variable {materialization : DatasetMaterialization} {state : DatasetMaterializationState}
  {completedAt : Option Instant} {completionReason : Option String}
  {contentHash : Option ContentHash} {coverage : Option DatasetMaterializationCoverage}

private theorem materializationMoved_valid_iff
    (valid : materializationIsValid materialization = true) :
    materializationIsValid (materializationMoved materialization state completedAt completionReason
        contentHash coverage) = true ↔
      materialization.revision < maxSafeInteger ∧
        terminalProofIsValid (materializationMoved materialization state completedAt
          completionReason contentHash coverage) = true := by
  have bounds := materializationProgressIsValid.revision (materializationIsValid.progress valid)
  simp only [materializationIsValid, materializationProgressIsValid, Bool.and_eq_true] at valid
  obtain ⟨⟨⟨identity, origin⟩, ⟨⟨⟨⟨created, records⟩, rejected⟩, total⟩, _⟩, _⟩, _⟩ := valid
  have next : isSafeInteger (materialization.revision + 1) = true ↔
      materialization.revision < maxSafeInteger := by
    rw [isSafeInteger_iff]
    simp only [maxSafeInteger] at bounds ⊢
    omega
  have positive : 1 ≤ materialization.revision + 1 := by omega
  have progress : materializationProgressIsValid (materializationMoved materialization state
      completedAt completionReason contentHash coverage) = true ↔
        materialization.revision < maxSafeInteger := by
    rw [← next]
    simp only [materializationProgressIsValid, Bool.and_eq_true]
    constructor
    · intro progressed
      exact progressed.1.2
    · intro safe
      exact ⟨⟨⟨⟨⟨created, records⟩, rejected⟩, total⟩, safe⟩, decide_eq_true positive⟩
  rw [← progress]
  simp only [materializationIsValid, Bool.and_eq_true]
  constructor
  · intro moved
    exact ⟨moved.1.2, moved.2⟩
  · intro moved
    exact ⟨⟨⟨identity, origin⟩, moved.1⟩, moved.2⟩

end Materialization

section Ending

variable {plan : DatasetGenerationPlan} {creation : DatasetGenerationCreation}

/-- A running generation has no stop request. -/
theorem SnapshotValid.unstopped (valid : SnapshotValid creation plan)
    (running : creation.generation.state = .running) : creation.generation.stop = none := by
  have stop := valid.facts.stop
  cases requested : creation.generation.stop with
  | none => rfl
  | some request => simp [generationStopIsValid, requested, running] at stop

theorem SnapshotValid.createdAt (valid : SnapshotValid creation plan) :
    creation.materialization.createdAt = creation.generation.createdAt := by
  have binding := valid.binding
  simp only [generationBindingMatchesPlan, Bool.and_eq_true, beq_iff_eq] at binding
  exact binding.1.2

theorem SnapshotValid.origin (valid : SnapshotValid creation plan) :
    creation.materialization.origin = .generation creation.generation.generationId := by
  have binding := valid.binding
  simp only [generationBindingMatchesPlan, Bool.and_eq_true, beq_iff_eq] at binding
  exact binding.2

/-- A generation whose pages are all committed has a locked provider. -/
theorem SnapshotValid.pagesAreBound_completed (valid : SnapshotValid creation plan)
    (last : creation.generation.lastPageSequence = some creation.generation.counters.pages) :
    ∃ provider, creation.generation.lockedProvider = some provider ∧
      0 < creation.generation.counters.pages ∧ boundedText provider = true := by
  have pages := valid.facts.pages
  unfold pagesAreBound at pages
  split at pages
  · simp [last] at pages
  · rename_i provider locked
    simp only [Bool.and_eq_true, decide_eq_true_eq] at pages
    exact ⟨provider, locked, pages.1.2, pages.2⟩

/-! ## Completion -/

/-- The clock and the texts that a completion stores. -/
structure CompletionFits (creation : DatasetGenerationCreation)
    (input : CompleteDatasetGenerationInput) : Prop where
  clock : instantIsValid input.completedAt = true
  createdAt : creation.generation.createdAt ≤ input.completedAt
  contentHash : contentHashIsValid input.contentHash = true
  revision : creation.materialization.revision < maxSafeInteger

/-- A generation whose last page is checkpointed. -/
structure IsCheckpointed (plan : DatasetGenerationPlan) (creation : DatasetGenerationCreation) :
    Prop where
  valid : SnapshotValid creation plan
  settled : creation.generation.cost.reserved = 0
  last : creation.generation.lastPageSequence = some creation.generation.counters.pages

private theorem generationCompleted_materializationIsValid
    (checkpointed : IsCheckpointed plan creation)
    {input : CompleteDatasetGenerationInput} (fits : CompletionFits creation input) :
    materializationIsValid (generationCompleted creation input).materialization = true := by
  have valid := checkpointed.valid
  refine (materializationMoved_valid_iff valid.materializationValid).mpr ⟨fits.revision, ?_⟩
  have completedAt : creation.materialization.createdAt ≤ input.completedAt := by
    rw [valid.createdAt]
    exact fits.createdAt
  have reason : boundedText input.completionReason.text 128 = true := by
    cases input.completionReason <;> decide
  have coverage : coverageIsValid (generationCompleted creation input).materialization = true := by
    simp only [coverageIsValid, generationCompleted, valid.origin]
    cases input.coverageStatus <;> rfl
  change (completedAtIsValid (generationCompleted creation input).materialization && _ && _ &&
    coverageIsValid (generationCompleted creation input).materialization) = true
  rw [coverage]
  simp [completedAtIsValid, completionReasonIsValid, generationCompleted, fits.clock, completedAt,
    materializationMoved, reason, fits.contentHash]

private theorem generationCompleted_valid (checkpointed : IsCheckpointed plan creation)
    (running : creation.generation.state = .running) {input : CompleteDatasetGenerationInput}
    (fits : CompletionFits creation input) :
    SnapshotValid (generationCompleted creation input) plan := by
  have valid := checkpointed.valid
  have facts := valid.facts
  obtain ⟨provider, locked, positive, bounded⟩ :=
    valid.pagesAreBound_completed checkpointed.last
  have pages : pagesAreBound (generationCompleted creation input).generation = true := by
    simp [pagesAreBound, generationCompleted, locked, checkpointed.last, positive, bounded]
  have stop : generationStopIsValid (generationCompleted creation input).generation = true := by
    simp [generationStopIsValid, generationCompleted, valid.unstopped running]
  exact {
    planValid := valid.planValid
    materializationValid := generationCompleted_materializationIsValid checkpointed fits
    binding := valid.binding
    progress := progressIsExact_iff.mpr { facts with
      version := by
        have version := facts.version
        change 1 ≤ creation.generation.aggregateVersion + 1
        omega
      stop := stop
      pages := pages
      materialized := rfl }
    planned := rfl }

/-- A running generation whose last page is checkpointed can be completed exactly when the
clock and the texts fit. -/
theorem completeDatasetGeneration_iff (checkpointed : IsCheckpointed plan creation)
    (running : creation.generation.state = .running) {input : CompleteDatasetGenerationInput}
    (coherent : (input.completionReason == .sourceCompleted) =
      (input.coverageStatus == .completeForDeclaredSource)) :
    (∃ next, completeDatasetGeneration creation plan input = .ok next) ↔
      CompletionFits creation input := by
  constructor
  · rintro ⟨next, completed⟩
    obtain ⟨_, valid, admitted, nextValid⟩ := guardedTransition_ok.mp completed
    simp only [completionIsAdmitted, Bool.and_eq_true, decide_eq_true_eq] at admitted
    have moved := (materializationMoved_valid_iff valid.materializationValid).mp
      nextValid.materializationValid
    exact ⟨admitted.1.1.1.2, admitted.1.1.2, admitted.1.2, moved.1⟩
  · intro fits
    have building : creation.materialization.state = .building := by
      rw [checkpointed.valid.facts.materialized, running]
      rfl
    have admitted : completionIsAdmitted creation input = true := by
      simp [completionIsAdmitted, running, building, checkpointed.settled, checkpointed.last,
        fits.clock, fits.createdAt, fits.contentHash, coherent]
    exact ⟨_, guardedTransition_ok.mpr ⟨rfl, checkpointed.valid, admitted,
      generationCompleted_valid checkpointed running fits⟩⟩

/-! ## Certain failures -/

/-- A materialization that still builds has no terminal proof. -/
theorem SnapshotValid.unproved (valid : SnapshotValid creation plan)
    (building : creation.materialization.state = .building) :
    creation.materialization.contentHash = none ∧ creation.materialization.coverage = none := by
  have proof := valid.materializationValid
  simp only [materializationIsValid, terminalProofIsValid, building, terminalProofIsAbsent,
    Bool.and_eq_true, Option.isNone_iff_eq_none] at proof
  exact ⟨proof.2.1.2, proof.2.2⟩

/-- The page counters and the provider lock are those of the earlier snapshot. -/
structure KeepsPages (before after : DatasetGeneration) : Prop where
  counters : after.counters = before.counters
  lastPageSequence : after.lastPageSequence = before.lastPageSequence
  lockedProvider : after.lockedProvider = before.lockedProvider

/-- The bound of the pages does not tell the states apart in which one may be in flight. -/
theorem pagesAreBound_inFlight {before after : DatasetGeneration}
    (bound : pagesAreBound before = true) (keeps : KeepsPages before after)
    (inFlight : pageMayBeInFlight after.state = true) : pagesAreBound after = true := by
  unfold pagesAreBound at bound ⊢
  rw [keeps.lockedProvider, keeps.lastPageSequence, keeps.counters, inFlight]
  cases locked : before.lockedProvider with
  | none => simpa [locked] using bound
  | some provider =>
      simp only [locked, Bool.and_eq_true, Bool.or_eq_true] at bound ⊢
      exact ⟨⟨bound.1.1.imp_right fun last => ⟨trivial, last.2⟩, bound.1.2⟩, bound.2⟩

/-! ## Stops -/

/-- The clock that ends a stop. -/
structure StopEndFits (creation : DatasetGenerationCreation) (completedAt : Instant) : Prop where
  clock : instantIsValid completedAt = true
  requestedAt : ∀ stop, creation.generation.stop = some stop → stop.requestedAt ≤ completedAt
  revision : creation.materialization.revision < maxSafeInteger

/-- A stopping generation has a stop request for the only reason there is. -/
theorem SnapshotValid.stopRequest (valid : SnapshotValid creation plan)
    (stopping : creation.generation.state = .stopping) :
    ∃ stop, creation.generation.stop = some stop ∧ stop.reason = "requested" ∧
      instantIsValid stop.requestedAt = true ∧
      creation.generation.createdAt ≤ stop.requestedAt := by
  have stop := valid.facts.stop
  cases requested : creation.generation.stop with
  | none => simp [generationStopIsValid, requested, stopping] at stop
  | some request =>
      simp only [generationStopIsValid, requested, Bool.and_eq_true, beq_iff_eq,
        decide_eq_true_eq] at stop
      exact ⟨request, rfl, stop.1.1.1.1.1.1, stop.1.1.1.1.1.2, stop.1.1.1.1.2⟩

private theorem cancelledAfterStop_valid (valid : SnapshotValid creation plan)
    (stopping : creation.generation.state = .stopping) {completedAt : Instant}
    (fits : StopEndFits creation completedAt) :
    SnapshotValid (cancelledAfterStop creation completedAt) plan := by
  have facts := valid.facts
  obtain ⟨stop, requested, reason, requestedAt, created⟩ := valid.stopRequest stopping
  have building : creation.materialization.state = .building := by
    rw [facts.materialized, stopping]
    rfl
  obtain ⟨contentHash, coverage⟩ := valid.unproved building
  have ended : creation.materialization.createdAt ≤ completedAt := by
    rw [valid.createdAt]
    exact created.trans (fits.requestedAt stop requested)
  have bounded : boundedText "requested" 128 = true := by decide
  have materialization :
      materializationIsValid (cancelledAfterStop creation completedAt).materialization = true := by
    refine (materializationMoved_valid_iff valid.materializationValid).mpr ⟨fits.revision, ?_⟩
    simp [terminalProofIsValid, materializationMoved, completedAtIsValid, completionReasonIsValid,
      fits.clock, ended, requested, reason, bounded, contentHash, coverage]
  have pages : pagesAreBound (cancelledAfterStop creation completedAt).generation = true :=
    pagesAreBound_inFlight facts.pages ⟨rfl, rfl, rfl⟩ rfl
  have stopValid : generationStopIsValid (cancelledAfterStop creation completedAt).generation =
      true := by
    simp [generationStopIsValid, cancelledAfterStop, requested, reason, requestedAt, created]
  exact {
    planValid := valid.planValid
    materializationValid := materialization
    binding := valid.binding
    progress := progressIsExact_iff.mpr { facts with
      version := by
        have version := facts.version
        change 1 ≤ creation.generation.aggregateVersion + 1
        omega
      reserved := le_refl _
      budget := by
        have budget := facts.budget
        have reserved := facts.reserved
        change 0 + creation.generation.cost.spent ≤ plan.budget.limit
        linarith
      stop := stopValid
      pages := pages
      materialized := rfl }
    planned := rfl }

/-- The stop of a generation can end exactly when the clock fits. -/
theorem cancelDatasetGenerationAfterStop_iff (valid : SnapshotValid creation plan)
    (stopping : creation.generation.state = .stopping) {completedAt : Instant} :
    (∃ next, cancelDatasetGenerationAfterStop creation plan completedAt = .ok next) ↔
      StopEndFits creation completedAt := by
  obtain ⟨stop, requested, _⟩ := valid.stopRequest stopping
  constructor
  · rintro ⟨next, cancelled⟩
    obtain ⟨_, _, admitted, nextValid⟩ := guardedTransition_ok.mp cancelled
    simp only [cancellationIsAdmitted, requested, Bool.and_eq_true, decide_eq_true_eq] at admitted
    have moved := (materializationMoved_valid_iff valid.materializationValid).mp
      nextValid.materializationValid
    refine ⟨admitted.2.1, ?_, moved.1⟩
    intro known same
    rw [requested] at same
    cases same
    exact admitted.2.2
  · intro fits
    have admitted : cancellationIsAdmitted creation completedAt = true := by
      simp [cancellationIsAdmitted, stopping, requested, fits.clock,
        fits.requestedAt stop requested]
    exact ⟨_, guardedTransition_ok.mpr ⟨rfl, valid, admitted,
      cancelledAfterStop_valid valid stopping fits⟩⟩

end Ending

end Kurobara.Kernel
