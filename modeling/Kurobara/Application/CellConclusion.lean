import Kurobara.Application.MaterializeNextDagRun
import Kurobara.Kernel.Run.History

/-! # The recipe cell of a concluded Run

An open cell is a valid result that its Run has not concluded. A cancelled Run skips it, a
failed one fails it with its cost, and a completed one fills it with the accepted output,
if the value is of the type of the target field.
-/

namespace Kurobara.Application

open Foundation Kernel Persistence

/-! ## Open cells -/

/-- A cell that its Run has not concluded: a valid result of the recipe on the record, bound
to the Run. -/
structure CellIsOpen (cell : DagRecipeCell) (run : Run) : Prop where
  valid : createCellResult cell.dataset cell.fields cell.record cell.recipe cell.current =
    .ok cell.current
  workspaceId : cell.current.workspaceId = run.workspaceId
  runId : cell.current.runId = run.runId
  status : cell.current.status = .pending ∨ cell.current.status = .running

/-- What a cancelled Run projects onto its cell. -/
def skippedCell (current : CellResult) : CellResult :=
  { baseCellResult current with
    reason := some ⟨"run-cancelled", "The canonical run was cancelled.", false⟩
    status := .skipped }

private theorem indexFieldsFrom_eq {dataset : Dataset} {known fields indexed : List Field}
    (accepted : indexFieldsFrom dataset known fields = .ok indexed) :
    indexed = known ++ fields := by
  induction fields generalizing known with
  | nil =>
      cases accepted
      exact (List.append_nil _).symm
  | cons field rest ih =>
      unfold indexFieldsFrom at accepted
      split at accepted
      · cases accepted
      split at accepted
      · cases accepted
      · rw [ih accepted, List.append_assoc]
        rfl

private theorem indexFields_eq {dataset : Dataset} {fields indexed : List Field}
    (accepted : indexFields dataset fields = .ok indexed) : indexed = fields := by
  unfold indexFields at accepted
  split at accepted
  · cases accepted
  · exact indexFieldsFrom_eq accepted

/-- The field that a recipe fills. -/
def targetField (fields : List Field) (recipe : EnrichmentRecipe) : Option Field :=
  fields.find? fun field => field.fieldId == recipe.targetFieldId

/-- Of a result with the identities of a valid one, only the content is left to check. -/
theorem createCellResult_content {dataset : Dataset} {fields : List Field} {record : DatasetRecord}
    {recipe : EnrichmentRecipe} {current : CellResult}
    (valid : createCellResult dataset fields record recipe current = .ok current) :
    ∃ target, targetField fields recipe = some target ∧
      validateCellContent current target = .ok () ∧
      ∀ next, hasSameIdentity current next = true →
        createCellResult dataset fields record recipe next =
          (validateCellContent next target).map fun _ => next := by
  unfold createCellResult cellScopeMatches at valid
  split at valid
  · cases valid
  rename_i identity
  split at valid
  · cases valid
  rename_i scope
  split at valid
  · cases valid
  rename_i revised
  split at valid
  · cases valid
  rename_i indexed indexedEq
  split at valid
  · cases valid
  rename_i target found
  split at valid
  · cases valid
  rename_i targeted
  obtain ⟨_, checked, -⟩ := map_eq_ok.mp valid
  refine ⟨target, ?_, checked, ?_⟩
  · rw [bne_iff_ne, ne_eq, not_not] at targeted
    rw [targetField, ← targeted, ← indexFields_eq indexedEq]
    exact found
  · intro next same
    simp only [hasSameIdentity, Bool.and_eq_true, beq_iff_eq] at same
    obtain ⟨⟨⟨⟨⟨⟨⟨cellResultId, datasetId⟩, recipeId⟩, fieldId⟩, revision⟩, recordId⟩, runId⟩,
      workspaceId⟩ := same
    rw [cellResultId, runId] at identity
    rw [datasetId, workspaceId, recordId, recipeId] at scope
    rw [revision] at revised
    rw [fieldId] at found targeted
    unfold createCellResult cellScopeMatches
    rw [if_neg identity, if_neg scope, if_neg revised, indexedEq]
    dsimp only
    rw [found]
    dsimp only
    rw [if_neg targeted]

private theorem validateCellContent_skipped (current : CellResult) (target : Field) :
    validateCellContent (skippedCell current) target = .ok () := by
  have reason : reasonIsValid ⟨"run-cancelled", "The canonical run was cancelled.", false⟩ =
      true := by decide
  have status : validateCellStatus (skippedCell current) target = .ok () := by
    simp [validateCellStatus, skippedCell, baseCellResult, reason]
  simp only [validateCellContent, status]
  rfl

/-- **A cancelled Run skips its cell.** -/
theorem CellIsOpen.projects {cell : DagRecipeCell} {run : Run} (opened : CellIsOpen cell run)
    (evidence : ContentEvidence NormalizedJsonValue) (cancelled : run.state = .cancelled)
    (unconcluded : run.resultManifest = none) :
    projectCellResult evidence (projectionRequest cell run none none) =
      .ok ⟨skippedCell cell.current, false⟩ := by
  have same : hasSameIdentity cell.current (skippedCell cell.current) = true := by
    simp [hasSameIdentity, skippedCell, baseCellResult]
  have skipped : createCellResult cell.dataset cell.fields cell.record cell.recipe
      (skippedCell cell.current) = .ok (skippedCell cell.current) := by
    obtain ⟨target, _, _, content⟩ := createCellResult_content opened.valid
    rw [content _ same, validateCellContent_skipped]
    rfl
  have requested : requestedForRun evidence (projectionRequest cell run none none) =
      .ok (skippedCell cell.current) := by
    simp [requestedForRun, projectionRequest, cancelled, skippedCell]
  have moved : transitionCellResult cell.current (skippedCell cell.current) =
      .ok ⟨skippedCell cell.current, false⟩ := by
    have different : cell.current ≠ skippedCell cell.current := by
      intro equal
      have statuses := congrArg CellResult.status equal
      rcases opened.status with status | status <;> rw [status] at statuses <;> cases statuses
    have open_ : cellStatusIsTerminal cell.current.status = false ∧
        cellTransitionIsAllowed cell.current.status (skippedCell cell.current).status = true := by
      rcases opened.status with status | status <;> rw [status] <;> exact ⟨rfl, rfl⟩
    simp [transitionCellResult, same, different, open_.1, open_.2]
  unfold projectCellResult
  rw [show createCellResult (projectionRequest cell run none none).dataset
    (projectionRequest cell run none none).fields (projectionRequest cell run none none).record
    (projectionRequest cell run none none).recipe (projectionRequest cell run none none).current =
      .ok cell.current from opened.valid]
  dsimp only
  rw [if_neg (by simp [projectionRequest, opened.workspaceId, opened.runId]),
    if_neg (by simp [projectionRequest, unconcluded]), requested]
  dsimp only
  rw [show createCellResult (projectionRequest cell run none none).dataset
    (projectionRequest cell run none none).fields (projectionRequest cell run none none).record
    (projectionRequest cell run none none).recipe (skippedCell cell.current) =
      .ok (skippedCell cell.current) from skipped]
  dsimp only
  rw [moved]

private theorem validateCellStatus_running (current : CellResult) (target : Field)
    (pending : current.status = .pending) :
    validateCellStatus { current with status := .running } target =
      validateCellStatus current target := by
  unfold validateCellStatus
  rw [pending]
  rfl

/-- The claim of a Run marks its cell as running. -/
theorem CellIsOpen.claimed {cell : DagRecipeCell} {run : Run} (opened : CellIsOpen cell run)
    {transition : CellResultTransition}
    (moved : transitionCellResult cell.current { cell.current with status := .running } =
      .ok transition) : CellIsOpen { cell with current := transition.cellResult } run := by
  unfold transitionCellResult at moved
  split at moved
  · cases moved
  rename_i same
  split at moved
  · cases moved
    exact opened
  rename_i different
  split at moved
  · cases moved
  split at moved
  · cases moved
  cases moved
  rcases opened.status with pending | running
  · refine ⟨?_, opened.workspaceId, opened.runId, .inr rfl⟩
    obtain ⟨target, _, checked, content⟩ := createCellResult_content opened.valid
    have valid : validateCellContent { cell.current with status := .running } target = .ok () := by
      simp only [validateCellContent, validateCellStatus_running _ _ pending] at checked ⊢
      exact checked
    dsimp only
    rw [content _ (by simpa using same), valid]
    rfl
  · exact absurd (by rw [← running]) different

/-- A cell is marked as running when its Run is, and concluded with it. -/
inductive CellMove (run : Run) : Option DagRecipeCell → Option DagRecipeCell → Prop where
  | kept (cell : Option DagRecipeCell) : CellMove run cell cell
  | claimed (cell : DagRecipeCell) (transition : CellResultTransition)
      (running : run.state = .running)
      (moved : transitionCellResult cell.current { cell.current with status := .running } =
        .ok transition) :
      CellMove run (some cell) (some { cell with current := transition.cellResult })
  | concluded (cell next : Option DagRecipeCell) (terminal : runIsTerminal run.state = true) :
      CellMove run cell next

theorem CellIsOpen.of_identity {cell : DagRecipeCell} {before after : Run}
    (opened : CellIsOpen cell before) (workspaceId : after.workspaceId = before.workspaceId)
    (runId : after.runId = before.runId) : CellIsOpen cell after :=
  ⟨opened.valid, opened.workspaceId.trans workspaceId.symm, opened.runId.trans runId.symm,
    opened.status⟩

/-- Until its Run is terminal, an open cell stays open. -/
theorem CellMove.opened {run : Run} {cell next : Option DagRecipeCell}
    (follows : CellMove run cell next) (live : runIsTerminal run.state = false)
    (opened : ∀ known, cell = some known → CellIsOpen known run) :
    ∀ known, next = some known → CellIsOpen known run := by
  intro known given
  cases follows with
  | kept => exact opened known given
  | claimed cell transition running claimed =>
      cases given
      exact (opened cell rfl).claimed claimed
  | concluded _ _ terminal =>
      rw [live] at terminal
      cases terminal

/-! ## The envelope of an accepted output -/

private theorem parseReference_bounded {value : NormalizedJsonValue} {reference : String}
    (parsed : parseReference value = some reference) :
    isBoundedText reference maxProvenanceReferenceLength = true := by
  unfold parseReference at parsed
  split at parsed
  · split at parsed
    · rename_i bounded
      cases parsed
      exact bounded
    · cases parsed
  · cases parsed

private theorem parseReferences_valid {value : NormalizedJsonValue} {references : List String}
    (parsed : parseReferences value = some references) :
    validateProvenance (some ⟨references⟩) = .ok () := by
  unfold parseReferences at parsed
  split at parsed
  · rename_i entries
    split at parsed
    · cases parsed
    rename_i sized
    obtain ⟨mapped, distinct⟩ := Option.filter_eq_some_iff.mp parsed
    have listed := mapM_eq_some_iff.mp mapped
    have lengths := congrArg List.length listed
    rw [List.length_map, List.length_map] at lengths
    have bounded : ∀ reference ∈ references,
        isBoundedText reference maxProvenanceReferenceLength = true := by
      intro reference member
      have inside : some reference ∈ entries.map parseReference :=
        listed ▸ List.mem_map_of_mem member
      obtain ⟨entry, _, parsedEntry⟩ := List.mem_map.mp inside
      exact parseReference_bounded parsedEntry
    simp only [Bool.or_eq_true, not_or, List.isEmpty_iff, decide_eq_true_eq, Nat.not_lt] at sized
    have filled : references ≠ [] := by
      rintro rfl
      exact sized.1 (List.length_eq_zero_iff.mp lengths)
    unfold validateProvenance
    dsimp only
    rw [if_neg]
    simp only [Bool.or_eq_true, not_or, List.isEmpty_iff, decide_eq_true_eq, Nat.not_lt,
      Bool.not_eq_true', decide_eq_false_iff_not, not_not, List.any_eq_true, not_exists, not_and,
      Bool.not_eq_false]
    exact ⟨⟨⟨filled, lengths ▸ sized.2⟩, of_decide_eq_true distinct⟩, bounded⟩
  · cases parsed

private theorem parseProvenance_valid {value : NormalizedJsonValue}
    {provenance : CellResultProvenance}
    (parsed : parseProvenance value = some provenance) :
    validateProvenance (some provenance) = .ok () := by
  simp only [parseProvenance, Option.bind_eq_bind, Option.bind_eq_some_iff, Option.pure_def,
    Option.some.injEq] at parsed
  obtain ⟨_, _, _, _, references, referencesEq, rfl⟩ := parsed
  exact parseReferences_valid referencesEq

private theorem safeIntegerOf_safe {value : NormalizedJsonValue} {integer : ℤ}
    (parsed : safeIntegerOf value = some integer) : isSafeInteger integer = true := by
  unfold safeIntegerOf at parsed
  split at parsed
  · split at parsed
    · rename_i safe
      cases parsed
      exact (Bool.and_eq_true_iff.mp safe).2
    · cases parsed
  · cases parsed

private theorem parseFreshness_valid {value : NormalizedJsonValue} {freshness : CellResultFreshness}
    (parsed : parseFreshness value = some freshness) :
    validateFreshness (some freshness) = .ok () := by
  simp only [parseFreshness, Option.bind_eq_bind, Option.bind_eq_some_iff, Option.pure_def,
    Option.some.injEq, Option.filter_eq_some_iff, decide_eq_true_eq] at parsed
  obtain ⟨properties, _, _, _, observedAt, ⟨observed, positive⟩, expiresAt, expires, rfl⟩ := parsed
  have expiration : expiresAt.all (fun expiresAt => isSafeInteger expiresAt &&
      decide (observedAt ≤ expiresAt)) = true := by
    unfold parseExpiration at expires
    split at expires
    · cases expires
      rfl
    · obtain ⟨instant, parsedInstant, rfl⟩ := Option.map_eq_some_iff.mp expires
      obtain ⟨safe, later⟩ := Option.filter_eq_some_iff.mp parsedInstant
      rw [Option.all_some, safeIntegerOf_safe safe, later]
      rfl
  have valid : freshnessIsValid ⟨observedAt, expiresAt⟩ = true := by
    rw [freshnessIsValid, nonNegativeSafeInteger, safeIntegerOf_safe observed,
      decide_eq_true positive, expiration]
    rfl
  rw [validateFreshness, if_pos valid]

private theorem parseConfidence_valid {value : NormalizedJsonValue} {confidence : ℚ}
    (parsed : parseConfidence value = some confidence) :
    validateConfidence (some confidence) = .ok () := by
  unfold parseConfidence at parsed
  split at parsed
  · split at parsed
    · rename_i valid
      cases parsed
      rw [validateConfidence, if_pos valid]
    · cases parsed
  · cases parsed

private theorem parseClaimed_valid {Claimed : Type} {properties : JsonProperties} {key : String}
    {parse : NormalizedJsonValue → Option Claimed} {claimed : Option Claimed}
    {validate : Option Claimed → Except ProductFailure Unit} (absent : validate none = .ok ())
    (present : ∀ value parsed, parse value = some parsed → validate (some parsed) = .ok ())
    (parsed : parseClaimed properties key parse = some claimed) : validate claimed = .ok () := by
  unfold parseClaimed at parsed
  split at parsed
  · cases parsed
    exact absent
  · obtain ⟨inner, innerEq, rfl⟩ := Option.map_eq_some_iff.mp parsed
    exact present _ inner innerEq

/-- What a parsed envelope holds passes the checks of a cell result. -/
structure EnvelopeIsValid (envelope : ParsedSinkEnvelope) : Prop where
  value : isBoundedScalar envelope.value = true
  provenance : validateProvenance envelope.provenance = .ok ()
  freshness : validateFreshness envelope.freshness = .ok ()
  confidence : validateConfidence envelope.confidence = .ok ()

private theorem parseSinkEnvelope_valid {value : NormalizedJsonValue}
    {envelope : ParsedSinkEnvelope}
    (parsed : parseSinkEnvelope value = some envelope) : EnvelopeIsValid envelope := by
  simp only [parseSinkEnvelope, Option.bind_eq_bind, Option.bind_eq_some_iff, Option.pure_def,
    Option.some.injEq, Option.filter_eq_some_iff] at parsed
  obtain ⟨properties, _, _, _, scalar, ⟨_, bounded⟩, provenance, provenanceEq, freshness,
    freshnessEq, confidence, confidenceEq, rfl⟩ := parsed
  exact ⟨bounded,
    parseClaimed_valid rfl (fun _ _ => parseProvenance_valid) provenanceEq,
    parseClaimed_valid rfl (fun _ _ => parseFreshness_valid) freshnessEq,
    parseClaimed_valid rfl (fun _ _ => parseConfidence_valid) confidenceEq⟩

/-! ## The cell of a concluded Run -/

/-- The cell that a completed Run fills. -/
def succeededCell (current : CellResult) (envelope : ParsedSinkEnvelope)
    (manifest : ResultManifest) : CellResult :=
  { baseCellResult current with
    value := some envelope.value
    confidence := envelope.confidence
    freshness := envelope.freshness
    provenance := envelope.provenance
    cost := some (manifestCost manifest)
    status := .succeeded }

/-- The cell that a failed Run fails. -/
def failedCell (current : CellResult) (manifest : ResultManifest) : CellResult :=
  { baseCellResult current with
    cost := some (manifestCost manifest)
    reason := some ⟨"run-failed", "The canonical run failed.", false⟩
    status := .failed }

private theorem validateCost_iff {cost : CellResultCost} :
    validateCost (some cost) = .ok () ↔ costIsValid cost = true := by
  unfold validateCost
  dsimp only
  split
  · simp [*]
  · simp [*]

private theorem validateCellContent_succeeded {envelope : ParsedSinkEnvelope}
    (valid : EnvelopeIsValid envelope) (current : CellResult) (manifest : ResultManifest)
    (target : Field) :
    validateCellContent (succeededCell current envelope manifest) target = .ok () ↔
      valueMatchesField envelope.value target = true ∧
      costIsValid (manifestCost manifest) = true := by
  have status : validateCellStatus (succeededCell current envelope manifest) target = .ok () ↔
      valueMatchesField envelope.value target = true := by
    cases typed : valueMatchesField envelope.value target <;>
      simp [validateCellStatus, succeededCell, baseCellResult, valid.value, typed]
  rw [← status, ← validateCost_iff]
  unfold validateCellContent
  cases validateCellStatus (succeededCell current envelope manifest) target with
  | error failure =>
      refine ⟨fun checked => ?_, fun both => ?_⟩
      · cases checked
      · cases both.1
  | ok checked =>
      rw [show (succeededCell current envelope manifest).provenance = envelope.provenance from rfl,
        show (succeededCell current envelope manifest).freshness = envelope.freshness from rfl,
        show (succeededCell current envelope manifest).confidence = envelope.confidence from rfl,
        show (succeededCell current envelope manifest).cost = some (manifestCost manifest) from rfl,
        valid.provenance, valid.freshness, valid.confidence]
      exact ⟨fun checked => ⟨rfl, checked⟩, fun both => both.2⟩

private theorem validateCellContent_failed (current : CellResult) (manifest : ResultManifest)
    (target : Field) :
    validateCellContent (failedCell current manifest) target = .ok () ↔
      costIsValid (manifestCost manifest) = true := by
  have reason : reasonIsValid ⟨"run-failed", "The canonical run failed.", false⟩ = true := by
    decide
  have status : validateCellStatus (failedCell current manifest) target = .ok () := by
    simp [validateCellStatus, failedCell, baseCellResult, reason]
  rw [← validateCost_iff, validateCellContent, status]
  exact Iff.rfl

section

variable {evidence : ContentEvidence NormalizedJsonValue} {cell : DagRecipeCell} {run : Run}
  {manifest : ResultManifest} {payload : Option NormalizedJsonValue}

/-- The open cell of a concluded Run takes every result whose content is valid. -/
theorem CellIsOpen.projects_requested (opened : CellIsOpen cell run)
    (concluded : run.state = .completed ∨ run.state = .failed) {requested : CellResult}
    (requestedEq : requestedForRun evidence (projectionRequest cell run (some manifest) payload) =
      .ok requested)
    (same : hasSameIdentity cell.current requested = true)
    (terminal : cellStatusIsTerminal requested.status = true) {target : Field}
    (content : ∀ next, hasSameIdentity cell.current next = true →
      createCellResult cell.dataset cell.fields cell.record cell.recipe next =
        (validateCellContent next target).map fun _ => next) :
    (∃ projection, projectCellResult evidence (projectionRequest cell run (some manifest) payload) =
      .ok projection) ↔ validateCellContent requested target = .ok () := by
  have different : cell.current ≠ requested := by
    rintro rfl
    rcases opened.status with status | status <;> rw [status] at terminal <;> cases terminal
  have moved : transitionCellResult cell.current requested = .ok ⟨requested, false⟩ := by
    have open_ : cellStatusIsTerminal cell.current.status = false ∧
        cellTransitionIsAllowed cell.current.status requested.status = true := by
      rcases opened.status with status | status <;> rw [status]
      · exact ⟨rfl, by simp [cellTransitionIsAllowed, terminal]⟩
      · exact ⟨rfl, terminal⟩
    simp [transitionCellResult, same, different, open_.1, open_.2]
  unfold projectCellResult
  rw [show createCellResult (projectionRequest cell run (some manifest) payload).dataset
    (projectionRequest cell run (some manifest) payload).fields
    (projectionRequest cell run (some manifest) payload).record
    (projectionRequest cell run (some manifest) payload).recipe
    (projectionRequest cell run (some manifest) payload).current =
      .ok cell.current from opened.valid]
  dsimp only
  rw [if_neg (by simp [projectionRequest, opened.workspaceId, opened.runId]),
    if_neg (by rcases concluded with state | state <;> simp [projectionRequest, state]),
      requestedEq]
  dsimp only
  rw [show createCellResult (projectionRequest cell run (some manifest) payload).dataset
    (projectionRequest cell run (some manifest) payload).fields
    (projectionRequest cell run (some manifest) payload).record
    (projectionRequest cell run (some manifest) payload).recipe requested =
      (validateCellContent requested target).map fun _ => requested from content requested same]
  cases validateCellContent requested target with
  | error failure => simp [Except.map]
  | ok checked => simp [Except.map, moved]

private theorem projectCellResult_requested {request : ProjectCellResultRequest}
    {projection : CellResultTransition}
    (projected : projectCellResult evidence request = .ok projection) :
    ∃ requested, requestedForRun evidence request = .ok requested := by
  unfold projectCellResult at projected
  split at projected
  · cases projected
  split at projected
  · cases projected
  split at projected
  · cases projected
  split at projected
  · cases projected
  rename_i requested requestedEq
  exact ⟨requested, requestedEq⟩

private theorem requestedForCompletedRun_ok {request : ProjectCellResultRequest}
    {base requested : CellResult}
    (accepted : requestedForCompletedRun evidence request base = .ok requested) :
    ∃ manifest value envelope output, request.manifest = some manifest ∧
      request.normalizedSinkPayload = some value ∧ parseSinkEnvelope value = some envelope ∧
      manifest.output = .accepted output ∧
      evidence.contentHash (envelopeJson envelope) = output.artifact.contentHash := by
  unfold requestedForCompletedRun at accepted
  split at accepted
  · cases accepted
  rename_i manifest given
  split at accepted
  · cases accepted
  split at accepted
  · cases accepted
  rename_i value payload
  split at accepted
  · cases accepted
  rename_i envelope parsed
  split at accepted
  · cases accepted
  rename_i output outputEq
  split at accepted
  · cases accepted
  rename_i hashed
  rw [bne_iff_ne, ne_eq, not_not] at hashed
  exact ⟨manifest, value, envelope, output, given, payload, parsed, outputEq, hashed⟩

/-- The accepted output fits the cell: its payload is a sink envelope with the hash of the
accepted artifact, and the value is absent or of the type of the target field. -/
def OutputFitsCell (evidence : ContentEvidence NormalizedJsonValue) (cell : DagRecipeCell)
    (artifact : ArtifactRef) (payload : Option NormalizedJsonValue) : Prop :=
  ∃ value envelope target, payload = some value ∧ parseSinkEnvelope value = some envelope ∧
    evidence.contentHash (envelopeJson envelope) = artifact.contentHash ∧
      targetField cell.fields cell.recipe = some target ∧
        valueMatchesField envelope.value target = true

/-- **A completed Run fills its cell** exactly when its output fits and its cost is a cell
cost. -/
theorem CellIsOpen.completed_iff (opened : CellIsOpen cell run) (completed : run.state = .completed)
    (matched : manifestMatchesRun run manifest .completed = true) {output : ValidatedOutputRef}
    (accepted : manifest.output = .accepted output) :
    (∃ projection, projectCellResult evidence (projectionRequest cell run (some manifest) payload) =
      .ok projection) ↔
        costIsValid (manifestCost manifest) = true ∧
          OutputFitsCell evidence cell output.artifact payload := by
  obtain ⟨target, found, _, content⟩ := createCellResult_content opened.valid
  have requests : requestedForRun evidence (projectionRequest cell run (some manifest) payload) =
      requestedForCompletedRun evidence (projectionRequest cell run (some manifest) payload)
        (baseCellResult cell.current) := by
    simp [requestedForRun, projectionRequest, completed]
  have fills : ∀ value envelope, payload = some value → parseSinkEnvelope value = some envelope →
      evidence.contentHash (envelopeJson envelope) = output.artifact.contentHash →
        requestedForRun evidence (projectionRequest cell run (some manifest) payload) =
          .ok (succeededCell cell.current envelope manifest) := by
    rintro value envelope rfl parsed hashed
    rw [requests]
    simp [requestedForCompletedRun, projectionRequest, matched, parsed, accepted, hashed,
      succeededCell]
  have takes : ∀ value envelope, payload = some value → parseSinkEnvelope value = some envelope →
      evidence.contentHash (envelopeJson envelope) = output.artifact.contentHash →
        ((∃ projection, projectCellResult evidence
            (projectionRequest cell run (some manifest) payload) = .ok projection) ↔
          valueMatchesField envelope.value target = true ∧
            costIsValid (manifestCost manifest) = true) := by
    intro value envelope given parsed hashed
    rw [← validateCellContent_succeeded (parseSinkEnvelope_valid parsed) cell.current]
    exact opened.projects_requested (.inl completed) (fills value envelope given parsed hashed)
      (by simp [hasSameIdentity, succeededCell, baseCellResult]) rfl content
  constructor
  · rintro ⟨projection, projected⟩
    obtain ⟨requested, requestedEq⟩ := projectCellResult_requested projected
    rw [requests] at requestedEq
    obtain ⟨known, value, envelope, accepts, knownEq, given, parsed, acceptsEq, hashed⟩ :=
      requestedForCompletedRun_ok requestedEq
    cases knownEq
    cases accepted.symm.trans acceptsEq
    obtain ⟨typed, cost⟩ := (takes value envelope given parsed hashed).mp ⟨projection, projected⟩
    exact ⟨cost, value, envelope, target, given, parsed, hashed, found, typed⟩
  · rintro ⟨cost, value, envelope, known, given, parsed, hashed, knownFound, typed⟩
    cases found.symm.trans knownFound
    exact (takes value envelope given parsed hashed).mpr ⟨typed, cost⟩

/-- **A failed Run fails its cell** exactly when its cost is a cell cost. -/
theorem CellIsOpen.failed_iff (opened : CellIsOpen cell run) (failed : run.state = .failed)
    (matched : manifestMatchesRun run manifest .failed = true) :
    (∃ projection, projectCellResult evidence (projectionRequest cell run (some manifest) none) =
      .ok projection) ↔ costIsValid (manifestCost manifest) = true := by
  obtain ⟨target, _, _, content⟩ := createCellResult_content opened.valid
  rw [← validateCellContent_failed cell.current manifest target]
  refine opened.projects_requested (.inr failed) ?_ ?_ rfl content
  · simp [requestedForRun, requestedForFailedRun, projectionRequest, failed, matched, failedCell]
  · simp [hasSameIdentity, failedCell, baseCellResult]

end

end Kurobara.Application
