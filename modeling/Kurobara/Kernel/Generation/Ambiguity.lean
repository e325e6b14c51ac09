import Kurobara.Kernel.Generation.Invariant

/-! # Marking a generation ambiguous

`markDatasetGenerationAmbiguous` keeps all progress, so the only checks that can
refuse the snapshot it builds are those that mention the state: an ambiguous
generation may not have a page in flight behind a committed one, while a running
or stopping one may. With a page in flight, the operation therefore succeeds
exactly when no page was committed before it.
-/

namespace Kurobara.Kernel

/-- A page of any number is in flight: the one after the last committed page, or
the first one. -/
def PageIsInFlight (generation : DatasetGeneration) : Prop :=
  match generation.lastPageSequence with
  | none => generation.counters.pages = 1
  | some last => generation.counters.pages = last + 1 ∧ generation.lockedProvider.isSome

instance (generation : DatasetGeneration) : Decidable (PageIsInFlight generation) := by
  unfold PageIsInFlight
  cases generation.lastPageSequence <;> infer_instance

/-- A running or stopping generation, with a building materialization, whose page
of any number is in flight. -/
structure ActiveInFlight (plan : DatasetGenerationPlan) (creation : DatasetGenerationCreation) :
    Prop where
  valid : SnapshotValid creation plan
  active : creation.generation.state = .running ∨ creation.generation.state = .stopping
  building : creation.materialization.state = .building
  inFlight : PageIsInFlight creation.generation

/-- Progress counters, cost and provider lock are those of the earlier snapshot. -/
structure KeepsProgress (before after : DatasetGeneration) : Prop where
  counters : after.counters = before.counters
  lastPageSequence : after.lastPageSequence = before.lastPageSequence
  cost : after.cost = before.cost
  lockedProvider : after.lockedProvider = before.lockedProvider

theorem generationAmbiguous_keepsProgress (creation : DatasetGenerationCreation) :
    KeepsProgress creation.generation (generationAmbiguous creation).generation :=
  ⟨rfl, rfl, rfl, rfl⟩

theorem ActiveInFlight.admitted {plan : DatasetGenerationPlan}
    {creation : DatasetGenerationCreation} (flight : ActiveInFlight plan creation) :
    ambiguityIsAdmitted creation = true := by
  simp only [ambiguityIsAdmitted, flight.building, beq_self_eq_true, Bool.and_true,
    Bool.or_eq_true, beq_iff_eq]
  exact flight.active

theorem materializationProgressIsValid.revision {materialization : DatasetMaterialization}
    (valid : materializationProgressIsValid materialization = true) :
    1 ≤ materialization.revision ∧ materialization.revision ≤ maxSafeInteger := by
  simp only [materializationProgressIsValid, Bool.and_eq_true, isSafeInteger_iff,
    decide_eq_true_eq] at valid
  tauto

theorem materializationIsValid.progress {materialization : DatasetMaterialization}
    (valid : materializationIsValid materialization = true) :
    materializationProgressIsValid materialization = true := by
  simp only [materializationIsValid, Bool.and_eq_true] at valid
  tauto

/-- A materialization that still builds stays valid when it becomes ambiguous, as
long as its next revision is a safe integer. -/
theorem generationAmbiguous_materializationIsValid {plan : DatasetGenerationPlan}
    {creation : DatasetGenerationCreation} (flight : ActiveInFlight plan creation)
    (revision : creation.materialization.revision < maxSafeInteger) :
    materializationIsValid (generationAmbiguous creation).materialization = true := by
  have valid := flight.valid.materializationValid
  have bounds := materializationProgressIsValid.revision (materializationIsValid.progress valid)
  have next : isSafeInteger (creation.materialization.revision + 1) = true := by
    rw [isSafeInteger_iff]
    simp only [maxSafeInteger] at revision ⊢
    omega
  have positive : 1 ≤ creation.materialization.revision + 1 := by omega
  simp only [materializationIsValid, materializationProgressIsValid, terminalProofIsValid,
    flight.building, Bool.and_eq_true] at valid
  obtain ⟨⟨⟨identity, origin⟩, ⟨⟨⟨⟨created, records⟩, rejected⟩, total⟩, _⟩, _⟩, absent⟩ := valid
  have progress : materializationProgressIsValid (generationAmbiguous creation).materialization =
      true := by
    simp only [materializationProgressIsValid, Bool.and_eq_true]
    exact ⟨⟨⟨⟨⟨created, records⟩, rejected⟩, total⟩, next⟩, decide_eq_true positive⟩
  simp only [materializationIsValid, progress, Bool.and_true, Bool.and_eq_true]
  exact ⟨⟨identity, origin⟩, absent⟩

/-- A first page in flight leaves no provider locked. -/
theorem ActiveInFlight.unlocked {plan : DatasetGenerationPlan}
    {creation : DatasetGenerationCreation} (flight : ActiveInFlight plan creation)
    (first : creation.generation.lastPageSequence = none) :
    creation.generation.lockedProvider = none := by
  have bound := flight.valid.facts.pages
  unfold pagesAreBound at bound
  split at bound
  · assumption
  · simp [first] at bound

/-- A first page in flight can be marked ambiguous. -/
theorem generationAmbiguous_valid {plan : DatasetGenerationPlan}
    {creation : DatasetGenerationCreation} (flight : ActiveInFlight plan creation)
    (first : creation.generation.lastPageSequence = none)
    (revision : creation.materialization.revision < maxSafeInteger) :
    SnapshotValid (generationAmbiguous creation) plan := by
  have facts := flight.valid.facts
  have version := facts.version
  have unlocked := flight.unlocked first
  have stop : generationStopIsValid (generationAmbiguous creation).generation = true := by
    have before := facts.stop
    cases requested : creation.generation.stop with
    | none => simp [generationStopIsValid, generationAmbiguous, requested]
    | some stop =>
        simp only [generationStopIsValid, requested, Bool.and_eq_true] at before
        simp only [generationStopIsValid, generationAmbiguous, requested, Bool.and_eq_true]
        exact ⟨⟨⟨⟨⟨⟨before.1.1.1.1.1.1, before.1.1.1.1.1.2⟩, before.1.1.1.1.2⟩, rfl⟩, rfl⟩, rfl⟩,
          rfl⟩
  have pages : pagesAreBound (generationAmbiguous creation).generation = true := by
    have before := facts.pages
    simp only [pagesAreBound, unlocked] at before
    simpa only [pagesAreBound, generationAmbiguous, unlocked] using before
  exact {
    planValid := flight.valid.planValid
    materializationValid := generationAmbiguous_materializationIsValid flight revision
    binding := flight.valid.binding
    progress := progressIsExact_iff.mpr { facts with
      version := by
        change 1 ≤ creation.generation.aggregateVersion + 1
        omega
      stop := stop
      pages := pages
      materialized := rfl }
    planned := rfl }

/-- **Ambiguity is recordable on the first page only.** With a page in flight, the
operation succeeds exactly when no page was committed before it and the next
materialization revision is still a safe integer. -/
theorem markDatasetGenerationAmbiguous_iff {plan : DatasetGenerationPlan}
    {creation : DatasetGenerationCreation} (flight : ActiveInFlight plan creation) :
    (∃ next, markDatasetGenerationAmbiguous creation plan = .ok next) ↔
      creation.generation.lastPageSequence = none ∧
        creation.materialization.revision < maxSafeInteger := by
  constructor
  · rintro ⟨next, marked⟩
    obtain ⟨_, _, _, nextValid⟩ := guardedTransition_ok.mp marked
    constructor
    · -- An ambiguous generation with a locked provider must have committed its last page.
      cases last : creation.generation.lastPageSequence with
      | none => rfl
      | some sequence =>
          have inFlight := flight.inFlight
          simp only [PageIsInFlight, last] at inFlight
          obtain ⟨provider, locked⟩ := Option.isSome_iff_exists.mp inFlight.2
          have bound := nextValid.facts.pages
          simp only [pagesAreBound, generationAmbiguous, locked, pageMayBeInFlight, last,
            Bool.false_and, Bool.or_false, Bool.and_eq_true, beq_iff_eq, Option.some.injEq] at bound
          omega
    · have next := (materializationProgressIsValid.revision
        (materializationIsValid.progress nextValid.materializationValid)).2
      change creation.materialization.revision + 1 ≤ maxSafeInteger at next
      omega
  · rintro ⟨first, revision⟩
    exact ⟨_, guardedTransition_ok.mpr
      ⟨rfl, flight.valid, flight.admitted, generationAmbiguous_valid flight first revision⟩⟩

end Kurobara.Kernel
