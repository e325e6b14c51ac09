import Kurobara.Persistence.GenerationRows
import Kurobara.Persistence.CostLedger
import Kurobara.Kernel.Generation.Ambiguity
import Kurobara.Kernel.Run.Lifecycle

/-! # Parent effects of generation pages

A step transition of a page Run is projected onto the generation before it is
persisted: the effect threshold authorizes the page on the generation, and an
unknown effect marks page and generation ambiguous. A denied projection rejects
the step transition and writes nothing.
-/

namespace Kurobara.Persistence

open Kernel

/-- The step transition that is projected. -/
structure StepParentEffectInput where
  attempt : Attempt
  now : Instant
  plan : RunPlan
  run : Run
  stepRun : StepRun

/-- What the owner of a Run answers to an effect of its step. -/
inductive StepParentEffectResult where
  | notParented
  | authorized
  | replayed
  | denied (code message : String)
  deriving DecidableEq, Repr

private def StepParentEffectResult.isDenied : StepParentEffectResult → Bool
  | .denied .. => true
  | _ => false

/-- The routing decision and the reservation of the projected attempt. -/
structure EffectEvidence where
  decision : RoutingDecision
  reservation : CostReservation

def loadDecisionAndReservation (ledger : CostLedger) (input : StepParentEffectInput) :
    Option EffectEvidence :=
  let decision := ledger.routingDecisions.find? fun decision =>
    decision.runId == input.run.runId && decision.stepRunId == input.stepRun.stepRunId &&
      decision.routingDecisionId == input.attempt.routingDecisionId
  let reservation := ledger.reservations.find? fun reservation =>
    reservation.attemptId == input.attempt.attemptId &&
      reservation.reservationId == input.attempt.costReservationId
  match decision, reservation with
  | some decision, some reservation => some ⟨decision, reservation⟩
  | _, _ => none

section RouteHash

/-! The content hash of a selected route, over the canonical JSON of the candidate,
the run plan's hash, the Run and the step. -/

variable (routeSnapshotHash : RunPlanRouteSnapshot → ContentHash → RunId → StepRunId → ContentHash)

def routeMatches (plan : DatasetGenerationPlan) (input : StepParentEffectInput) : Bool :=
  let route := plan.routeSnapshots.find? fun candidate =>
    candidate.routeKey == input.attempt.routeKey
  let runRoute := (input.plan.routeSnapshots.getD []).find? fun candidate =>
    candidate.routeKey == input.attempt.routeKey
  match route, runRoute with
  | some route, some runRoute =>
      runRoute.nodeKey == "page" && route.routeKey == runRoute.routeKey &&
        route.effectAdapterKey == runRoute.effectAdapterKey &&
        capabilityMatches route.capability runRoute.capability &&
        route.factsHash == runRoute.factsHash && route.pricingVersion == runRoute.pricingVersion &&
        route.reservationUnit == runRoute.reservationUnit &&
        (decide (runRoute.reservableUpperBound < route.reservableUpperBound) ||
          amountsEqual route.reservableUpperBound runRoute.reservableUpperBound) &&
        input.attempt.routeSnapshotHash ==
          routeSnapshotHash runRoute input.plan.planHash input.run.runId input.stepRun.stepRunId
  | _, _ => false

/-- The page was started by this attempt. -/
def effectIdentityMatches (page : DatasetGenerationPage) (input : StepParentEffectInput)
    (evidence : EffectEvidence) : Bool :=
  let attempt := input.attempt
  let run := input.run
  let stepRun := input.stepRun
  let decision := evidence.decision
  let reservation := evidence.reservation
  page.runId == run.runId && page.runPlanId == input.plan.runPlanId &&
    run.runPlanId == page.runPlanId && run.workspaceId == page.workspaceId &&
    stepRun.runId == run.runId && stepRun.nodeKey == "page" &&
    attempt.stepRunId == stepRun.stepRunId &&
    attempt.routingDecisionId == decision.routingDecisionId &&
    attempt.costReservationId == reservation.reservationId &&
    attempt.operationKey == reservation.operationKey &&
    page.operationKey == some attempt.operationKey && attempt.routeKey == decision.routeKey &&
    attempt.effectAdapterKey == decision.effectAdapterKey &&
    attempt.routeSnapshotHash == decision.routeSnapshotHash &&
    amountsEqual attempt.reservedAmount decision.reservedAmount &&
    attempt.reservationUnit == decision.reservationUnit && decision.runId == run.runId &&
    decision.stepRunId == stepRun.stepRunId && reservation.state == .reserved &&
    reservation.runId == run.runId && reservation.stepRunId == stepRun.stepRunId &&
    reservation.attemptId == attempt.attemptId &&
    amountsEqual reservation.amount attempt.reservedAmount &&
    reservation.unit == attempt.reservationUnit

def startPageInput (input : StepParentEffectInput) (evidence : EffectEvidence) :
    StartDatasetGenerationPageInput where
  attemptId := input.attempt.attemptId
  costUnit := input.attempt.reservationUnit
  operationKey := input.attempt.operationKey
  providerKey := evidence.decision.effectAdapterKey
  reservationId := input.attempt.costReservationId
  reservedAmount := input.attempt.reservedAmount
  routeKey := input.attempt.routeKey
  routeSnapshotHash := input.attempt.routeSnapshotHash
  routingDecisionId := input.attempt.routingDecisionId
  stepRunId := input.stepRun.stepRunId

/-- The page as the threshold leaves it; an executing page is taken as it is. -/
def startedPage (page : DatasetGenerationPage) (input : StepParentEffectInput)
    (evidence : EffectEvidence) : Except DatasetGenerationPageFailure DatasetGenerationPage :=
  if page.state == .runCreated then startDatasetGenerationPage page (startPageInput input evidence)
  else .ok page

/-- Write the generation and the page that a projection moved. -/
def writeProjection (rows : GenerationRows) (creation : DatasetGenerationCreation)
    (page : DatasetGenerationPage) : StepParentEffectResult × GenerationRows :=
  (.authorized, (rows.updateGeneration creation).updatePage page)

/-- `authorize`, with the rows it leaves. -/
def authorizeParentEffect (rows : GenerationRows) (ledger : CostLedger)
    (input : StepParentEffectInput) :
    StepParentEffectResult × GenerationRows :=
  match rows.findGenerationPageByRun input.run.runId with
  | none => (.notParented, rows)
  | some pageSequence =>
  match rows.loadPage pageSequence with
  | none => (.denied "generation-page-proof-missing"
      "The parent generation page lost its durable binding.", rows)
  | some page =>
  match loadDecisionAndReservation ledger input with
  | none => (.denied "generation-page-route-proof-missing"
      "The generation page route or reservation is not durable.", rows)
  | some evidence =>
  match rows.storedPlan.filter fun plan => routeMatches routeSnapshotHash plan input &&
      (page.state == .runCreated || page.state == .executing) with
  | none => (.denied "generation-page-route-proof-invalid"
      "The generation page route is not the exact admitted durable route.", rows)
  | some plan =>
  match startedPage page input evidence with
  | .error failure => (.denied failure.code.text failure.message, rows)
  | .ok expectedPage =>
      if !effectIdentityMatches expectedPage input evidence then
        (.denied "generation-page-effect-identity-invalid"
          "The generation page effect identity is inconsistent.", rows)
      else if page.state == .executing then (.replayed, rows)
      else
        match authorizeDatasetGenerationPageEffect rows.creation plan
          ⟨input.now, page.pageSequence, input.attempt.reservedAmount,
            input.attempt.reservationUnit⟩ with
        | .error failure => (.denied failure.code.text failure.message, rows)
        | .ok authorized => writeProjection rows authorized expectedPage

/-- An effect crosses the threshold of the page that was created for its Run. -/
theorem authorizeParentEffect_authorized {routeSnapshotHash} {rows : GenerationRows}
    {ledger : CostLedger} {input : StepParentEffectInput} {pageSequence : ℤ}
    {page expectedPage : DatasetGenerationPage} {evidence : EffectEvidence}
    {plan : DatasetGenerationPlan} {authorized : DatasetGenerationCreation}
    (byRun : rows.findGenerationPageByRun input.run.runId = some pageSequence)
    (loaded : rows.loadPage pageSequence = some page)
    (recorded : loadDecisionAndReservation ledger input = some evidence)
    (stored : rows.storedPlan = some plan)
    (routed : routeMatches routeSnapshotHash plan input = true)
    (created : page.state = .runCreated)
    (started : startDatasetGenerationPage page (startPageInput input evidence) = .ok expectedPage)
    (identity : effectIdentityMatches expectedPage input evidence = true)
    (accepted : authorizeDatasetGenerationPageEffect rows.creation plan
      ⟨input.now, page.pageSequence, input.attempt.reservedAmount,
        input.attempt.reservationUnit⟩ = .ok authorized) :
    authorizeParentEffect routeSnapshotHash rows ledger input =
      writeProjection rows authorized expectedPage := by
  simp [authorizeParentEffect, byRun, loaded, recorded, stored, Option.filter, routed, created,
    startedPage, started, identity, accepted]

end RouteHash

/-- The executing page of exactly this attempt. -/
def ambiguityIdentityMatches (page : DatasetGenerationPage) (input : StepParentEffectInput) :
    Bool :=
  page.state == .executing && page.runId == input.run.runId &&
    page.stepRunId == some input.stepRun.stepRunId &&
    page.attemptId == some input.attempt.attemptId &&
    page.operationKey == some input.attempt.operationKey

/-- `markAmbiguous`, with the rows it leaves. -/
def markParentEffectAmbiguous (rows : GenerationRows) (input : StepParentEffectInput) :
    StepParentEffectResult × GenerationRows :=
  match rows.findGenerationPageByRun input.run.runId with
  | none => (.notParented, rows)
  | some pageSequence =>
  match rows.loadPage pageSequence with
  | none => (.denied "generation-page-proof-missing"
      "The parent generation page lost its durable binding.", rows)
  | some page =>
  if page.state == .ambiguous then (.replayed, rows)
  else if !ambiguityIdentityMatches page input then
    (.denied "generation-page-ambiguity-conflict"
      "Only the exact executing page can become ambiguous.", rows)
  else
    match rows.storedPlan with
    | none => (.denied "generation-plan-not-found"
        "The immutable generation plan is unavailable.", rows)
    | some plan =>
    match markDatasetGenerationAmbiguous rows.creation plan with
    | .error failure => (.denied failure.code.text failure.message, rows)
    | .ok ambiguous =>
    match markDatasetGenerationPageAmbiguous page with
    | .error failure => (.denied failure.code.text failure.message, rows)
    | .ok ambiguousPage => writeProjection rows ambiguous ambiguousPage

/-! ## Recording an ambiguity -/

/-- The rows hold the generation in flight and the page that the projected attempt
executes, as the effect threshold left it. -/
structure ProjectsPage (plan : DatasetGenerationPlan) (creation : DatasetGenerationCreation)
    (rows : GenerationRows) (input : StepParentEffectInput) (page : DatasetGenerationPage) :
    Prop where
  creation : rows.creation = creation
  plan : rows.storedPlan = some plan
  byRun : rows.findGenerationPageByRun input.run.runId = some page.pageSequence
  loaded : rows.loadPage page.pageSequence = some page
  started : ∃ created start, startDatasetGenerationPage created start = .ok page
  identity : ambiguityIdentityMatches page input = true

/-- The generation can be marked ambiguous with its progress kept, and no page attempt
of it is refused when its effect is unknown. -/
def AmbiguityIsRecordable (plan : DatasetGenerationPlan) (creation : DatasetGenerationCreation) :
    Prop :=
  (∃ next, markDatasetGenerationAmbiguous creation plan = .ok next ∧
      KeepsProgress creation.generation next.generation ∧
        validateDatasetGenerationSnapshot next plan = .ok next) ∧
    ∀ rows input page, ProjectsPage plan creation rows input page →
      (markParentEffectAmbiguous rows input).1.isDenied = false

/-- The page that the threshold starts has its second version. -/
theorem startDatasetGenerationPage_version {created page : DatasetGenerationPage}
    {start : StartDatasetGenerationPageInput}
    (started : startDatasetGenerationPage created start = .ok page) :
    pageIsValid page = true ∧ page.aggregateVersion = 2 := by
  obtain ⟨rfl, valid, inState, nextValid⟩ := pageTransition_ok.mp started
  refine ⟨nextValid, ?_⟩
  simp only [pageIsValid, pageEvidenceIsValid, inState, Bool.and_eq_true, beq_iff_eq] at valid
  change created.aggregateVersion + 1 = 2
  omega

/-- A started page of an attempt whose effect is unknown can become ambiguous. -/
theorem ProjectsPage.markPage {plan : DatasetGenerationPlan} {creation : DatasetGenerationCreation}
    {rows : GenerationRows} {input : StepParentEffectInput} {page : DatasetGenerationPage}
    (projects : ProjectsPage plan creation rows input page) :
    markDatasetGenerationPageAmbiguous page = .ok (pageMoved page .ambiguous) := by
  obtain ⟨created, start, started⟩ := projects.started
  obtain ⟨valid, version⟩ := startDatasetGenerationPage_version started
  have executing : page.state = .executing := by
    have identity := projects.identity
    simp only [ambiguityIdentityMatches, Bool.and_eq_true, beq_iff_eq] at identity
    exact identity.1.1.1.1
  have safe : isSafeInteger (page.aggregateVersion + 1) = true := by
    rw [version]
    decide
  exact pageTransition_ok.mpr
    ⟨rfl, valid, executing, pageMoved_valid valid executing safe (.inr rfl)⟩

/-- The projection is refused exactly when the generation refuses. -/
theorem ProjectsPage.isDenied {plan : DatasetGenerationPlan}
    {creation : DatasetGenerationCreation} {rows : GenerationRows}
    {input : StepParentEffectInput} {page : DatasetGenerationPage}
    (projects : ProjectsPage plan creation rows input page) :
    (markParentEffectAmbiguous rows input).1.isDenied = false ↔
      ∃ next, markDatasetGenerationAmbiguous creation plan = .ok next := by
  have executing : (page.state == .ambiguous) = false := by
    have identity := projects.identity
    simp only [ambiguityIdentityMatches, Bool.and_eq_true, beq_iff_eq] at identity
    rw [identity.1.1.1.1]
    rfl
  simp only [markParentEffectAmbiguous, projects.byRun, projects.loaded, executing,
    projects.identity, projects.plan, projects.creation, projects.markPage, Bool.not_true,
    Bool.false_eq_true, if_false]
  cases markDatasetGenerationAmbiguous creation plan with
  | error failure => simp [StepParentEffectResult.isDenied]
  | ok next => simp [StepParentEffectResult.isDenied, writeProjection]

/-- **Ambiguity is recordable on the first page only.** With a page in flight, the
generation records an unknown effect exactly when no page was committed before it
and the next materialization revision is still a safe integer. -/
theorem ambiguityIsRecordable_iff {plan : DatasetGenerationPlan}
    {creation : DatasetGenerationCreation} (flight : ActiveInFlight plan creation) :
    AmbiguityIsRecordable plan creation ↔
      creation.generation.lastPageSequence = none ∧
        creation.materialization.revision < maxSafeInteger := by
  rw [← markDatasetGenerationAmbiguous_iff flight]
  constructor
  · rintro ⟨⟨next, marked, _⟩, _⟩
    exact ⟨next, marked⟩
  · rintro ⟨next, marked⟩
    obtain ⟨nextEq, _, _, nextValid⟩ := guardedTransition_ok.mp marked
    refine ⟨⟨next, marked, ?_, ?_⟩, ?_⟩
    · rw [nextEq]
      exact generationAmbiguous_keepsProgress creation
    · rw [nextEq]
      exact nextValid.validate
    · intro rows input page projects
      exact projects.isDenied.mpr ⟨next, marked⟩

private theorem sampleFirstPage_activeInFlight : ActiveInFlight samplePlan sampleFirstPage where
  valid := sampleFirstPage_valid
  active := .inl (by decide)
  building := by decide
  inFlight := by decide

private theorem sampleSecondPage_activeInFlight : ActiveInFlight samplePlan sampleSecondPage where
  valid := sampleSecondPage_valid
  active := .inl (by decide)
  building := by decide
  inFlight := by decide

theorem sampleFirstPage_ambiguityIsRecordable :
    AmbiguityIsRecordable samplePlan sampleFirstPage :=
  (ambiguityIsRecordable_iff sampleFirstPage_activeInFlight).mpr (by decide)

/-- A reachable generation whose second page is in flight refuses to become ambiguous. -/
theorem sampleSecondPage_ambiguityIsNotRecordable :
    (generationSystem samplePlan).Reachable sampleSecondPage ∧
      ActiveInFlight samplePlan sampleSecondPage ∧
        ¬ AmbiguityIsRecordable samplePlan sampleSecondPage := by
  refine ⟨sampleSecondPage_reachable, sampleSecondPage_activeInFlight, ?_⟩
  rintro ⟨⟨next, marked, _⟩, _⟩
  have first := (markDatasetGenerationAmbiguous_iff sampleSecondPage_activeInFlight).mp
    ⟨next, marked⟩
  exact absurd first.1 (by decide)

end Kurobara.Persistence
