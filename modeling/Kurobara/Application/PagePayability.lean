import Kurobara.Application.CheckpointDatasetGenerationPage
import Kurobara.Application.PageAuthorizationOnce
import Kurobara.Kernel.Run.Routing
import Kurobara.Plugin.LeafEffect

/-! # When an authorized page can be paid for

A page reserves for each admitted route the smaller of the route's own bound and of what
is left of the hard execution cap. The effect adapter admits a quote up to the
reservation. So a page can be paid for exactly when what is left covers its routes; the
checkpoint that leaves the generation running compares the cap with the spent cost only.
-/

namespace Kurobara.Application

open Engine Foundation Kernel Persistence Plugin

/-! ## Reservations and quotes -/

/-- Every quote within the bound of a route that the effect adapter admits for the bound,
it admits for what the routing of the page reserves. -/
def QuotesAreCovered (bound : Amount) (reserved : RunPlanRouteSnapshot) : Prop :=
  ∀ (input : RoutingDecisionInput) (decision : RoutingDecision), input.candidate = reserved →
    createRoutingDecision input = .ok decision →
      ∀ (Value : Type) (request : LeafEffectRequest Value) (quote : PluginQuote)
        (context : PluginContext Value) (now : ℤ),
        request.reservedAmount = decision.reservedAmount → quote.upperBound.all (· ≤ bound) →
          quoteIsAuthorized quote { request with reservedAmount := bound } context now = true →
            quoteIsAuthorized quote request context now = true

/-- A route of a page reserves at least the bound of the route that it was made from. -/
structure RouteIsPaid (route : DatasetGenerationRouteSnapshot) (reserved : RunPlanRouteSnapshot) :
    Prop where
  routeKey : reserved.routeKey = route.routeKey
  effectAdapterKey : reserved.effectAdapterKey = route.effectAdapterKey
  bound : route.reservableUpperBound ≤ reserved.reservableUpperBound
  quotes : QuotesAreCovered route.reservableUpperBound reserved

private theorem quotesAreCovered_of_le {bound : Amount} {reserved : RunPlanRouteSnapshot}
    (covered : bound ≤ reserved.reservableUpperBound) : QuotesAreCovered bound reserved := by
  intro input decision candidate decided Value request quote context now reservedEq within admitted
  obtain rfl := createRoutingDecision_ok decided
  have reservation : request.reservedAmount = reserved.reservableUpperBound := by
    rw [reservedEq, ← candidate]
    rfl
  unfold quoteIsAuthorized at admitted ⊢
  cases upperBound : quote.upperBound with
  | none => simp [upperBound] at admitted
  | some amount =>
      have fits : amount ≤ request.reservedAmount := by
        rw [reservation]
        exact (by simpa [upperBound] using within : amount ≤ bound).trans covered
      simp only [upperBound, Option.any_some, Bool.and_eq_true, decide_eq_true_eq] at admitted ⊢
      tauto

/-- The routes of a page, in the order of the routes that it was made from. -/
def RoutesArePaid (admitted : List DatasetGenerationRouteSnapshot)
    (routes : List RunPlanRouteSnapshot) : Prop :=
  List.Forall₂ RouteIsPaid admitted routes

/-- What is left of the cap covers the bound of every route that the lock leaves. -/
def RemainderCovers (plan : DatasetGenerationPlan) (creation : DatasetGenerationCreation) : Prop :=
  ∀ route ∈ admittedSourceRoutes plan creation,
    route.reservableUpperBound ≤ remainingExecutionCap plan creation

instance (plan : DatasetGenerationPlan) (creation : DatasetGenerationCreation) :
    Decidable (RemainderCovers plan creation) :=
  inferInstanceAs (Decidable (∀ route ∈ admittedSourceRoutes plan creation, _ ≤ _))

private theorem pageRoute_isPaid_iff {plan : DatasetGenerationPlan}
    {creation : DatasetGenerationCreation}
    {route : DatasetGenerationRouteSnapshot} :
    RouteIsPaid route (pageRoute plan creation route) ↔
      route.reservableUpperBound ≤ remainingExecutionCap plan creation := by
  constructor
  · intro paid
    exact paid.bound.trans (min_le_right _ _)
  · intro covers
    have bound : route.reservableUpperBound ≤
        (pageRoute plan creation route).reservableUpperBound := le_min le_rfl covers
    exact ⟨rfl, rfl, bound, quotesAreCovered_of_le bound⟩

private theorem admittedRoutes_arePaid_iff {plan : DatasetGenerationPlan}
    {creation : DatasetGenerationCreation} :
    RoutesArePaid (admittedSourceRoutes plan creation) (admittedRoutes plan creation) ↔
      RemainderCovers plan creation := by
  rw [RoutesArePaid, admittedRoutes, List.forall₂_map_right_iff, List.forall₂_same]
  exact forall₂_congr fun _ _ => pageRoute_isPaid_iff

section Pages

variable {Value : Type} {environment : PageAuthorizationEnvironment Value}
  {canonical : PageCanonicalization Value} {rows : PageCreationRows Value}
  {request : AuthorizePageRequest} {plan : DatasetGenerationPlan} {inputCursor : Option String}
  {planned : PlannedPageRun Value}

/-- The Run plan of a page pays for the routes that it admits. -/
def PlannedPageIsPaid (plan : DatasetGenerationPlan) (creation : DatasetGenerationCreation)
    (planned : PlannedPageRun Value) : Prop :=
  ∃ routes, planned.runPlan.routeSnapshots = some routes ∧
    RoutesArePaid (admittedSourceRoutes plan creation) routes

theorem PageIsPlanned.routeSnapshots
    (page : PageIsPlanned environment rows request plan inputCursor planned) :
    planned.runPlan.routeSnapshots = some (admittedRoutes plan rows.generation.creation) := by
  obtain ⟨_, draft, _, rfl, runPlan⟩ := page.prepared.draft
  rw [runPlan]
  rfl

/-- An authorized page can be paid for exactly when what is left covers its routes. -/
theorem PageIsPlanned.isPaid_iff
    (page : PageIsPlanned environment rows request plan inputCursor planned) :
    PlannedPageIsPaid plan rows.generation.creation planned ↔
      RemainderCovers plan rows.generation.creation := by
  unfold PlannedPageIsPaid
  rw [page.routeSnapshots, ← admittedRoutes_arePaid_iff]
  simp

/-! ## Stored pages -/

/-- The stored Run plan of a page pays for the routes of the generation plan that it was
made from. -/
def StoredPageIsPaid (rows : PageCreationRows Value) (page : DatasetGenerationPage) : Prop :=
  ∀ plan, rows.generation.storedPlan = some plan →
    ∃ stored routes admitted, rows.creation.getRunPlan page.runPlanId = some stored ∧
      stored.plan.routeSnapshots = some routes ∧ List.Sublist admitted plan.routeSnapshots ∧
        RoutesArePaid admitted routes

/-- Stored Run plans stay as they are, whether consumed or not. -/
def KeepsRunPlans (before after : RunCreationRows Value) : Prop :=
  ∀ runPlanId stored, before.getRunPlan runPlanId = some stored →
    ∃ kept, after.getRunPlan runPlanId = some kept ∧ kept.plan = stored.plan

namespace KeepsRunPlans

variable {before middle after : RunCreationRows Value}

theorem of_eq (same : after.runPlans = before.runPlans) : KeepsRunPlans before after := by
  intro runPlanId stored found
  refine ⟨stored, ?_, rfl⟩
  rw [RunCreationRows.getRunPlan, same]
  exact found

theorem trans (left : KeepsRunPlans before middle) (right : KeepsRunPlans middle after) :
    KeepsRunPlans before after := by
  intro runPlanId stored found
  obtain ⟨kept, keptFound, same⟩ := left runPlanId stored found
  obtain ⟨last, lastFound, sameLast⟩ := right runPlanId kept keptFound
  exact ⟨last, lastFound, sameLast.trans same⟩

theorem insertRunPlan {runPlan : RunPlan} (inserted : before.insertRunPlan runPlan = .ok after) :
    KeepsRunPlans before after := by
  rcases RunCreationRows.insertRunPlan_ok inserted with ⟨_, rfl⟩ | ⟨_, _, _, rfl⟩
  · intro runPlanId stored found
    refine ⟨stored, ?_, rfl⟩
    rw [RunCreationRows.getRunPlan, List.find?_append]
    exact Option.or_eq_some_iff.mpr (.inl found)
  · exact of_eq rfl

theorem storePlannedRun [DecidableEq Value]
    (accepted : storePlannedRun before planned = .ok after) :
    KeepsRunPlans before after := by
  unfold Application.storePlannedRun at accepted
  split at accepted
  · cases accepted
  rename_i inserted insertedEq
  refine (insertRunPlan insertedEq).trans ?_
  rcases RunCreationRows.insertRunInput_ok accepted with rfl | rfl <;> exact of_eq rfl

theorem recordRunCreation (input : CreateRunInUnitOfWorkInput) (runPlan : RunPlan)
    (decision : CreateRunDecision) :
    KeepsRunPlans before (recordRunCreation before input runPlan decision) := by
  intro runPlanId stored found
  change ∃ kept, (before.runPlans.map _).find? _ = some kept ∧ _
  rw [List.find?_map]
  have same : ((fun stored : StoredRunPlan => stored.plan.runPlanId == runPlanId) ∘ fun stored =>
      if stored.plan.runPlanId == input.command.runPlanId then
        { stored with
          consumedBy :=
            some ⟨input.command.idempotencyKey, input.command.intentionHash, decision.run⟩ }
      else stored) = fun stored => stored.plan.runPlanId == runPlanId := by
    funext stored
    simp only [Function.comp_apply]
    split <;> rfl
  rw [same, show before.runPlans.find? (fun stored => stored.plan.runPlanId == runPlanId) =
    some stored from found]
  refine ⟨_, rfl, ?_⟩
  dsimp only
  split <;> rfl

theorem created {input : CreateRunInUnitOfWorkInput} {result : CreateRunResult}
    (created : createRunInUnitOfWork before input = .ok (result, after)) :
    KeepsRunPlans before after := by
  cases result with
  | error failure =>
      obtain rfl := createRunInUnitOfWork_refused created
      exact of_eq rfl
  | ok success =>
      cases createRunInUnitOfWork_ok created with
      | replayed _ same => exact same ▸ of_eq rfl
      | created stored _ _ _ _ persisted =>
          obtain ⟨rfl, _⟩ := persistRunCreation_ok persisted
          exact recordRunCreation _ _ _

end KeepsRunPlans

/-- What the writes after the plan of a page leave: the stored plans, and at most the page. -/
theorem persistPageRun_pages {pageSequence : ℤ} {stored : RunCreationRows Value}
    {result : AuthorizePageResult} {after : PageCreationRows Value}
    (persisted : persistPageRun environment rows request pageSequence inputCursor planned stored =
      .ok (result, after)) :
    KeepsRunPlans stored after.creation ∧ (after.generation = rows.generation ∨
      ∃ run, after.generation = rows.generation.insertPage
        (createdPage environment request pageSequence inputCursor planned run)) := by
  unfold persistPageRun at persisted
  split at persisted
  · cases persisted
  · rename_i failure creation refused
    cases persisted
    exact ⟨.created refused, .inl rfl⟩
  · rename_i success creation created
    split at persisted
    · cases persisted
      exact ⟨.created created, .inl rfl⟩
    · rename_i page validated
      cases persisted
      obtain ⟨rfl, _⟩ := validateDatasetGenerationPageSnapshot_ok.mp validated
      exact ⟨.created created, .inr ⟨success.run, rfl⟩⟩

/-! ## Runs whose fresh pages are covered -/

/-- Every stored page has a stored plan whose hard quote covers its routes. -/
def PagesArePaid (rows : PageCreationRows Value) : Prop :=
  ∀ page ∈ rows.generation.pages, StoredPageIsPaid rows page

/-- When a page is authorized afresh, what is left of the cap covers its routes. -/
def CoversFreshPages (before : PageCreationRows Value) (label : PageAuthorizationLabel) : Prop :=
  ∀ request result, label = .authorizePage request result →
    before.generation.loadPage (nextPageSequence before) = none →
      ∀ plan, before.generation.storedPlan = some plan →
        RemainderCovers plan before.generation.creation

theorem StoredPageIsPaid.keep {before after : PageCreationRows Value}
    {page moved : DatasetGenerationPage} (paid : StoredPageIsPaid before page)
    (runPlanId : moved.runPlanId = page.runPlanId)
    (plan : after.generation.storedPlan = before.generation.storedPlan)
    (keeps : KeepsRunPlans before.creation after.creation) : StoredPageIsPaid after moved := by
  intro generationPlan storedPlan
  obtain ⟨stored, routes, admitted, found, same, sublist, arePaid⟩ :=
    paid generationPlan (plan.symm.trans storedPlan)
  obtain ⟨kept, keptFound, samePlan⟩ := keeps _ _ found
  refine ⟨kept, routes, admitted, ?_, ?_, sublist, arePaid⟩
  · rw [runPlanId]
    exact keptFound
  · rw [samePlan]
    exact same

namespace PagesArePaid

variable {before after : PageCreationRows Value}

theorem keep (paid : PagesArePaid before) (pages : after.generation.pages = before.generation.pages)
    (plan : after.generation.storedPlan = before.generation.storedPlan)
    (keeps : KeepsRunPlans before.creation after.creation) : PagesArePaid after := by
  intro page member
  rw [pages] at member
  exact (paid page member).keep rfl plan keeps

theorem authorized [DecidableEq Value] (paid : PagesArePaid before)
    (covers : before.generation.loadPage (nextPageSequence before) = none →
      ∀ plan, before.generation.storedPlan = some plan →
        RemainderCovers plan before.generation.creation)
    {result : AuthorizePageResult}
    (authorized : authorizePage environment before request = .ok (result, after)) :
    PagesArePaid after := by
  rcases authorizePage_ok authorized with ⟨same, _⟩ | ⟨plan, inputCursor, planned, stored, page,
    accepted, persisted⟩
  · exact same ▸ paid
  obtain ⟨keeps, left⟩ := persistPageRun_pages persisted
  have keepsAll := (KeepsRunPlans.storePlannedRun accepted).trans keeps
  rcases left with unchanged | ⟨run, inserted⟩
  · exact paid.keep (by rw [unchanged]) (by rw [unchanged]) keepsAll
  · have samePlan : after.generation.storedPlan = before.generation.storedPlan := by
      rw [inserted]
      rfl
    intro known member
    rw [inserted] at member
    rcases List.mem_append.mp member with kept | added
    · exact (paid known kept).keep rfl samePlan keepsAll
    · rw [List.mem_singleton.mp added]
      intro generationPlan storedPlan
      have authorizing := (authorizingPlan_ok page.authorizing).1
      have sameGeneration : some generationPlan = some plan :=
        (samePlan.symm.trans storedPlan).symm.trans authorizing
      cases sameGeneration
      obtain ⟨keptPlan, keptFound, same⟩ := keeps _ _ (storePlannedRun_ok accepted).found
      refine ⟨keptPlan, _, _, keptFound, ?_, List.filter_sublist, admittedRoutes_arePaid_iff.mpr
        (covers page.absent _ authorizing)⟩
      rw [same]
      exact page.routeSnapshots

end PagesArePaid

/-- **Step lemma.** A step whose fresh page is covered keeps every page paid for. -/
theorem pagesArePaid_step [DecidableEq Value] {before after : PageCreationRows Value}
    {label : PageAuthorizationLabel} (paid : PagesArePaid before)
    (covers : CoversFreshPages before label)
    (moved : PageAuthorizationStep canonical before label after) : PagesArePaid after := by
  cases moved with
  | authorizePage request identifiers now result _ named authorized =>
      exact paid.authorized (covers request result rfl) authorized
  | createRun input result creation created => exact paid.keep rfl rfl (.created created)
  | storeRunPlan draft creation stored => exact paid.keep rfl rfl (.insertRunPlan stored)
  | runCommand run command context transition found accepted =>
      exact paid.keep rfl rfl (.of_eq rfl)
  | moveGeneration plan operation creation accepted =>
      refine paid.keep rfl ?_ (.of_eq rfl)
      exact moveGeneration_storedPlan accepted
  | movePage page moved loaded transition =>
      intro known member
      rcases mem_updatePage member with rfl | ⟨kept, _⟩
      · exact (paid page (loadPage_mem loaded)).keep transition.keepsIdentity.runPlanId rfl
          (.of_eq rfl)
      · exact (paid known kept).keep rfl rfl (.of_eq rfl)

/-- **Run lemma.** Along runs whose fresh pages are covered, every page is paid for. -/
theorem pagesArePaid_invariant [DecidableEq Value] (canonical : PageCanonicalization Value) :
    ((pageAuthorizationSystem canonical).restrict CoversFreshPages).Invariant PagesArePaid where
  initially rows start page member := by
    rw [start.1] at member
    cases member
  preserved _ _ _ paid moved := pagesArePaid_step paid moved.1 moved.2

end Pages

/-! ## The checkpoint -/

section Checkpoint

variable {Value : Type} {environment : CheckpointEnvironment} {rows after : CheckpointRows}
  {context : CheckpointContext} {proof : SuccessfulPageRun Value}
  {parsed : DatasetGenerationPageArtifact} {checkpointHash : ContentHash}
  {success : CheckpointSuccess}

/-- A checkpoint that leaves less than every admitted bound ends the generation. -/
def EndsWhenUncovered (rows : CheckpointRows) (context : CheckpointContext)
    (proof : SuccessfulPageRun Value) (parsed : DatasetGenerationPageArtifact)
    (after : CheckpointRows) : Prop :=
  (∀ route ∈ admittedSourceRoutes context.plan (checkpointedGeneration rows context proof parsed),
      remainingExecutionCap context.plan (checkpointedGeneration rows context proof parsed) <
        route.reservableUpperBound) →
    after.generation.creation.generation.state = .completed

/-- With more pages announced and no stop requested, a checkpoint ends the generation
exactly when a cap is reached. -/
theorem checkpoint_completed_iff
    (persisted : persistSuccessfulCheckpoint environment rows context proof parsed checkpointHash =
      .ok (.ok success, after))
    (more : parsed.hasMore = true) (active : context.generation.generation.state = .running) :
    after.generation.creation.generation.state = .completed ↔
      capsReached (checkpointedGeneration rows context proof parsed).generation context.plan =
        true := by
  obtain ⟨contentHash, ended⟩ := persistSuccessfulCheckpoint_generation persisted
  have running : (checkpointedGeneration rows context proof parsed).generation.state = .running :=
    active
  unfold generationAfterCheckpoint at ended
  simp only [running, more, Bool.not_true, Bool.false_or] at ended
  rw [if_neg (by decide)] at ended
  by_cases capped : capsReached (checkpointedGeneration rows context proof parsed).generation
      context.plan = true
  · rw [if_pos capped] at ended
    obtain ⟨completed, _⟩ := guardedTransition_ok.mp ended
    rw [completed]
    exact iff_of_true rfl capped
  · rw [if_neg capped] at ended
    rw [← Except.ok.inj ended]
    exact iff_of_false (by rw [running]; decide) capped

/-- A page uses up a cap of the generation it is checkpointed in. -/
def PageReachesCap (rows : CheckpointRows) (context : CheckpointContext)
    (proof : SuccessfulPageRun Value) (parsed : DatasetGenerationPageArtifact) : Prop :=
  context.plan.limits .maxPages ≤ context.generation.generation.counters.pages ∨
    context.plan.limits .maxCalls ≤ context.generation.generation.counters.calls ∨
    context.plan.limits .maxResults ≤
      context.generation.generation.counters.returned + parsed.items.length ∨
    datasetGenerationAcceptedRecordLimit context.plan ≤
      context.generation.generation.counters.accepted + (acceptedByPage rows parsed).length ∨
    context.plan.hardExecutionCap ≤
      context.generation.generation.cost.spent + proof.usage.amount

/-- What is spent with a page leaves the bound of some route of its provider. -/
def PageLeavesBound (context : CheckpointContext) (proof : SuccessfulPageRun Value) : Prop :=
  ∃ route ∈ context.plan.routeSnapshots,
    context.generation.generation.lockedProvider.getD proof.routingDecision.effectAdapterKey =
        route.effectAdapterKey ∧
      context.generation.generation.cost.spent + proof.usage.amount + route.reservableUpperBound ≤
        context.plan.hardExecutionCap

private theorem capsReached_checkpointed_iff :
    capsReached (checkpointedGeneration rows context proof parsed).generation context.plan = true ↔
      PageReachesCap rows context proof parsed := by
  simp only [capsReached, Bool.or_eq_true, decide_eq_true_iff, or_assoc]
  rfl

private theorem covered_checkpointed_iff :
    (∃ route ∈ admittedSourceRoutes context.plan (checkpointedGeneration rows context proof parsed),
      route.reservableUpperBound ≤
        remainingExecutionCap context.plan (checkpointedGeneration rows context proof parsed)) ↔
      PageLeavesBound context proof := by
  have remaining (bound : Amount) : bound ≤
      remainingExecutionCap context.plan (checkpointedGeneration rows context proof parsed) ↔
        context.generation.generation.cost.spent + proof.usage.amount + bound ≤
          context.plan.hardExecutionCap := by
    change bound ≤ context.plan.hardExecutionCap -
      (context.generation.generation.cost.spent + proof.usage.amount) ↔ _
    rw [le_sub_iff_add_le, add_comm]
  have admitted (route : DatasetGenerationRouteSnapshot) :
      route ∈ admittedSourceRoutes context.plan (checkpointedGeneration rows context proof parsed) ↔
        route ∈ context.plan.routeSnapshots ∧
          context.generation.generation.lockedProvider.getD
            proof.routingDecision.effectAdapterKey = route.effectAdapterKey := by
    have locked : (checkpointedGeneration rows context proof parsed).generation.lockedProvider =
        some (context.generation.generation.lockedProvider.getD
          proof.routingDecision.effectAdapterKey) := rfl
    rw [admittedSourceRoutes, List.mem_filter, locked, Option.all_some, beq_iff_eq, eq_comm]
  constructor
  · rintro ⟨route, member, covered⟩
    obtain ⟨known, locked⟩ := (admitted route).mp member
    exact ⟨route, known, locked, (remaining _).mp covered⟩
  · rintro ⟨route, known, locked, covered⟩
    exact ⟨route, (admitted route).mpr ⟨known, locked⟩, (remaining _).mpr covered⟩

private theorem endsWhenUncovered_iff
    (persisted : persistSuccessfulCheckpoint environment rows context proof parsed checkpointHash =
      .ok (.ok success, after))
    (more : parsed.hasMore = true) (active : context.generation.generation.state = .running) :
    EndsWhenUncovered rows context proof parsed after ↔
      PageReachesCap rows context proof parsed ∨ PageLeavesBound context proof := by
  unfold EndsWhenUncovered
  have covered : PageLeavesBound context proof ↔ ∃ route ∈ admittedSourceRoutes context.plan
      (checkpointedGeneration rows context proof parsed), route.reservableUpperBound ≤
        remainingExecutionCap context.plan (checkpointedGeneration rows context proof parsed) :=
    covered_checkpointed_iff.symm
  rw [checkpoint_completed_iff persisted more active, ← capsReached_checkpointed_iff, covered]
  constructor
  · intro ends
    by_contra neither
    push Not at neither
    exact neither.1 (ends fun route member => neither.2 route member)
  · rintro (capped | ⟨route, member, covered⟩) uncovered
    · exact capped
    · exact absurd (uncovered route member) (not_lt.mpr covered)

end Checkpoint

/-- **When authorized pages can be paid for.** Exactly when what is left of the hard cap
covers the admitted routes, at each authorization and along runs; and a checkpoint that
leaves too little ends the generation exactly when its page reaches a cap or leaves the bound
of some route. -/
theorem authorizedPages_paid_iff {Value : Type} [DecidableEq Value]
    (canonical : PageCanonicalization Value) :
    (∀ (identifiers : RunIdentifiers) (now : Instant) (rows : PageCreationRows Value)
        (request : AuthorizePageRequest) (plan : DatasetGenerationPlan)
        (inputCursor : Option String) (planned : PlannedPageRun Value),
      PageIsPlanned ⟨canonical, identifiers, now⟩ rows request plan inputCursor planned →
        (PlannedPageIsPaid plan rows.generation.creation planned ↔
          RemainderCovers plan rows.generation.creation)) ∧
    (∀ rows, ((pageAuthorizationSystem canonical).restrict CoversFreshPages).Reachable rows →
      PagesArePaid rows) ∧
    (∀ (environment : CheckpointEnvironment) (rows after : CheckpointRows)
        (context : CheckpointContext) (proof : SuccessfulPageRun Value)
        (parsed : DatasetGenerationPageArtifact) (checkpointHash : ContentHash)
        (success : CheckpointSuccess),
      persistSuccessfulCheckpoint environment rows context proof parsed checkpointHash =
          .ok (.ok success, after) →
        parsed.hasMore = true → context.generation.generation.state = .running →
          (EndsWhenUncovered rows context proof parsed after ↔
            PageReachesCap rows context proof parsed ∨ PageLeavesBound context proof)) :=
  ⟨fun _ _ _ _ _ _ _ page => page.isPaid_iff,
    fun _ reachable => (pagesArePaid_invariant canonical).reachable reachable,
    fun _ _ _ _ _ _ _ _ persisted more active => endsWhenUncovered_iff persisted more active⟩

/-! ## A generation paid in requests -/

/-- The sample generation paid in requests, under a cap of one and a half. -/
def sampleRequestPlan : DatasetGenerationPlan :=
  { samplePlan with
    authority := { samplePlan.authority with budgetLimit := ⟨"requests", 20, 0, 0⟩ }
    budget := ⟨"requests", 3 / 2, 0, 0⟩
    hardExecutionCap := 3 / 2
    quote := { samplePlan.quote with
      unit := "requests"
      upperBound := some (3 / 2) }
    requestIntent := { samplePlan.requestIntent with requestedBudget := ⟨3 / 2, "requests"⟩ }
    routeSnapshots := samplePlan.routeSnapshots.map fun route =>
      { route with
        reservableUpperBound := 1
        reservationUnit := "requests" } }

def sampleRequestCreation : DatasetGenerationCreation :=
  initialCreation ⟨0, "generation-1", sampleRequestPlan⟩ "dataset-1"

private def sampleRequestFirstPage : DatasetGenerationCreation :=
  operationResult sampleRequestCreation (.authorizePageEffect ⟨1, 1, 1, "requests"⟩)

/-- After its first page, half a request is left. -/
def sampleRequestCheckpointed : DatasetGenerationCreation :=
  operationResult sampleRequestFirstPage
    (.checkpointPageProgress ⟨1, 1, "requests", 0, 1, "provider-1", 0, 1⟩)

example : [sampleRequestCreation, sampleRequestFirstPage, sampleRequestCheckpointed].map
    (fun creation => pagesInFlight creation.generation) = [0, 1, 0] := by
  decide

private theorem sampleRequestPlan_valid : planIsValid sampleRequestPlan = true := by
  with_unfolding_all decide

/-- What the plan pays in is not in the materialization. -/
theorem sampleRequestCreation_valid : SnapshotValid sampleRequestCreation sampleRequestPlan :=
  ⟨sampleRequestPlan_valid, sampleCreation_valid.materializationValid, by decide,
    by with_unfolding_all decide, by with_unfolding_all decide⟩

private theorem sampleRequestCheckpointed_valid :
    SnapshotValid sampleRequestCheckpointed sampleRequestPlan :=
  ⟨sampleRequestPlan_valid, sampleCheckpointed_valid.materializationValid, by decide,
    by with_unfolding_all decide, by with_unfolding_all decide⟩

private theorem sampleRequestCheckpointed_reachable :
    (generationSystem sampleRequestPlan).Reachable sampleRequestCheckpointed := by
  have firstPage : SnapshotValid sampleRequestFirstPage sampleRequestPlan :=
    ⟨sampleRequestPlan_valid, sampleFirstPage_valid.materializationValid, by decide,
      by with_unfolding_all decide, by with_unfolding_all decide⟩
  have created : (generationSystem sampleRequestPlan).Reachable sampleRequestCreation :=
    .initial ⟨⟨0, "generation-1", sampleRequestPlan⟩, rfl, sampleRequestCreation_valid.created
      (by decide) (by decide) (by decide)⟩
  have started : (generationSystem sampleRequestPlan).Reachable sampleRequestFirstPage :=
    created.step (applyDatasetGenerationOperation_ok.mpr
      ⟨rfl, sampleRequestCreation_valid, by with_unfolding_all decide, firstPage⟩)
  exact started.step (applyDatasetGenerationOperation_ok.mpr
    ⟨rfl, firstPage, by with_unfolding_all decide, sampleRequestCheckpointed_valid⟩)

/-- The rows of that generation with these pages and Runs. -/
def sampleRequestRows (creation : DatasetGenerationCreation) (pages : List DatasetGenerationPage)
    (runs : List Run) : PageCreationRows String :=
  ⟨⟨[sampleRequestPlan], creation, pages⟩, ⟨sampleRunRows runs, [], [], [], [], []⟩⟩

private def sampleRequestCommittedPage : DatasetGenerationPage :=
  { samplePageCommittedPage with
    costAmount := some 1
    costUnit := some "requests"
    reservedAmount := some 1 }

/-- The start of that page. -/
def sampleRequestStart : StartDatasetGenerationPageInput :=
  ⟨"attempt-1", "requests", "operation-1", "provider-1", "reservation-1", 1, "route-1", sampleHash,
    "decision-1", "step-1"⟩

private theorem sampleRequestStart_effect :
    pageEffectEvidenceIsPresent (pageStarted (samplePage 1 none) sampleRequestStart) = true := by
  have route : (pageStarted (samplePage 1 none) sampleRequestStart).routeSnapshotHash =
      some sampleHash := rfl
  have hash : (pageStarted (samplePage 1 none) sampleRequestStart).routeSnapshotHash.any
      contentHashIsValid = true := by
    rw [route, Option.any_some, sampleHash_valid]
  unfold pageEffectEvidenceIsPresent
  rw [hash]
  decide

private theorem sampleRequestCommittedPage_valid :
    pageIsValid sampleRequestCommittedPage = true := by
  have fits : CommitFits (pageStarted (samplePage 1 none) sampleRequestStart)
      { sampleFirstCommit with costAmount := 1 } :=
    sampleFirstCommit_fits (by decide) (by decide) (by decide) (by
      rintro reserved ⟨⟩
      decide)
  obtain ⟨next, committed⟩ := (commitDatasetGenerationPage_iff
    (pageStarted_valid samplePage_valid rfl sampleRequestStart_effect) rfl).mpr fits
  have same : sampleRequestCommittedPage = pageCommitted
      (pageStarted (samplePage 1 none) sampleRequestStart)
        { sampleFirstCommit with costAmount := 1 } := rfl
  rw [same]
  exact (pageTransition_ok.mp committed).2.2.2

/-- A page never costs more than its reservation. -/
example : pageIsValid { sampleRequestCommittedPage with costAmount := some 2 } = false := by
  decide

/-- The identifiers of the second page. -/
def sampleLaterEnvironment : PageAuthorizationEnvironment String :=
  ⟨samplePageCanonicalization, ⟨"run-2", "event-2", "message-2"⟩, 4⟩

private theorem sampleRequest_authorizingPlan {creation : DatasetGenerationCreation}
    (valid : SnapshotValid creation sampleRequestPlan)
    (named : creation.generation.generationPlanId = sampleRequestPlan.generationPlanId)
    (active : generationIsTerminal creation.generation.state = false)
    (pages : List DatasetGenerationPage) (runs : List Run) :
    authorizingPlan (sampleRequestRows creation pages runs) samplePageRequest =
      .ok sampleRequestPlan := by
  have stored : (sampleRequestRows creation pages runs).generation.storedPlan =
      some sampleRequestPlan := by
    simp [sampleRequestRows, GenerationRows.storedPlan, named]
  have caller : validateCallerAuthorization samplePageRequest sampleRequestPlan = .ok () := by
    decide
  have rows : (sampleRequestRows creation pages runs).generation.creation = creation := rfl
  simp [authorizingPlan, stored, caller, rows, valid.validate, active]

/-- The first page of that generation is paid for. -/
theorem authorizedPages_paid_first : ∃ planned,
    PageIsPlanned samplePageEnvironment (sampleRequestRows sampleRequestCreation [] [])
        samplePageRequest sampleRequestPlan none planned ∧
      PlannedPageIsPaid sampleRequestPlan sampleRequestCreation planned := by
  obtain ⟨planned, plannedEq, _⟩ := eq_ok_of_view
    (show (planPageRun samplePageEnvironment (sampleRequestRows sampleRequestCreation [] [])
      samplePageRequest sampleRequestPlan 1 none).toOption.map (fun _ => ()) = some () by
        with_unfolding_all decide)
  have page : PageIsPlanned samplePageEnvironment (sampleRequestRows sampleRequestCreation [] [])
      samplePageRequest sampleRequestPlan none planned :=
    ⟨sampleRequest_authorizingPlan sampleRequestCreation_valid rfl rfl [] [], rfl, rfl,
      by with_unfolding_all decide, plannedEq⟩
  exact ⟨planned, page, ((authorizedPages_paid_iff samplePageCanonicalization).1 _ _ _ _ _ _ _
    page).mpr (by with_unfolding_all decide)⟩

/-- A quote of the full bound. -/
def sampleRequestQuote : PluginQuote :=
  ⟨.hard, some 1, requestUnit, "1.0.0", 50⟩

def samplePluginContext : PluginContext String :=
  ⟨samplePlan.requestIntent.capability, ⟨sampleHash, "configuration"⟩, 100⟩

example : quoteIsAuthorized sampleRequestQuote { sampleLeafRequest with reservedAmount := 3 }
    samplePluginContext 20 = true := by
  decide

/-- The second page of that generation is authorized with half a request for a route that
asks for a whole one, and the effect adapter refuses its quote. -/
theorem authorizedPages_unpaid_second : ∃ rows : PageCreationRows String,
    (generationSystem sampleRequestPlan).Reachable rows.generation.creation ∧
      rows.generation.creation.generation.state = .running ∧
      (∃ success after, authorizePage sampleLaterEnvironment rows samplePageRequest =
        .ok (.ok success, after)) ∧
      ∃ planned, PageIsPlanned sampleLaterEnvironment rows samplePageRequest sampleRequestPlan
          (some "cursor-1") planned ∧
        planned.runPlan.routeSnapshots.map (List.map RunPlanRouteSnapshot.reservableUpperBound) =
          some [1 / 2] ∧
        ¬ PlannedPageIsPaid sampleRequestPlan rows.generation.creation planned ∧
        quoteIsAuthorized sampleRequestQuote { sampleLeafRequest with reservedAmount := 1 / 2 }
            samplePluginContext 20 = false ∧
          quoteIsAuthorized sampleRequestQuote { sampleLeafRequest with reservedAmount := 1 }
            samplePluginContext 20 = true := by
  let rows := sampleRequestRows sampleRequestCheckpointed [sampleRequestCommittedPage]
    [samplePageRun 1]
  obtain ⟨planned, plannedEq, _⟩ := eq_ok_of_view
    (show (planPageRun sampleLaterEnvironment rows samplePageRequest sampleRequestPlan 2
      (some "cursor-1")).toOption.map (fun _ => ()) = some () by with_unfolding_all decide)
  have page : PageIsPlanned sampleLaterEnvironment rows samplePageRequest sampleRequestPlan
      (some "cursor-1") planned :=
    ⟨sampleRequest_authorizingPlan sampleRequestCheckpointed_valid rfl rfl _ _,
      by with_unfolding_all decide, by with_unfolding_all decide,
      by with_unfolding_all decide, plannedEq⟩
  have pages : ∀ known ∈ rows.generation.pages, pageIsValid known = true := by
    intro known member
    rw [List.mem_singleton.mp member]
    exact sampleRequestCommittedPage_valid
  have byKey : rows.creation.findCreation (creationKey "generation-1" 2) = none := by
    decide
  have bounded : newPageIsBounded samplePageRequest 4 "run-2" = true := by decide
  have creatable : pageIsCreatable sampleLaterEnvironment rows samplePageRequest planned =
    true := by
    change (intentionIsFree (rows.creation.findCreation (creationKey "generation-1" 2)) none _ &&
      newPageIsBounded samplePageRequest 4
        (((rows.creation.findCreation (creationKey "generation-1" 2)).or none).elim "run-2" _)) =
          true
    rw [byKey]
    exact bounded
  have fresh : FreshIdentifiers rows.creation sampleLaterEnvironment.identifiers :=
    ⟨by decide, rfl, rfl⟩
  refine ⟨rows, sampleRequestCheckpointed_reachable, rfl, ?_, planned, page, ?_, ?_, ?_, ?_⟩
  · exact authorizePage_created rfl pages fresh page rfl creatable
  · rw [page.routeSnapshots]
    with_unfolding_all decide
  · rw [page.isPaid_iff]
    with_unfolding_all decide
  · with_unfolding_all decide
  · decide

end Kurobara.Application
