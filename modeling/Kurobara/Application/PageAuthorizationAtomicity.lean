import Kurobara.Application.PageAuthorization
import Kurobara.Kernel.Generation.Invariant

/-! # When a refused page authorization leaves no row

The checks that precede the first write imply all checks of the Run creation except
those of the idempotency key and of the plan's consumption, and all checks of the page
except those of the workspace identity, the Run identity and the clock. Exactly when
these fit, a refused authorization leaves the rows as they were.
-/

namespace Kurobara.Application

open Engine Kernel Persistence

/-! ## What a valid plan grants -/

private theorem planIsValid_authority {plan : DatasetGenerationPlan}
    (valid : planIsValid plan = true) :
    plan.workspaceId = plan.authority.workspaceId ∧ authorityCoversRequest plan = true := by
  unfold planIsValid createDatasetGenerationPlan at valid
  simp only at valid
  split at valid
  · simp [Except.toBool] at valid
  split at valid
  · simp [Except.toBool] at valid
  repeat (split at valid; · simp [Except.toBool] at valid)
  rename_i sameScope _ _ _ covered _ _
  simp only [Bool.or_eq_true, bne_iff_ne, ne_eq, not_or, not_not] at sameScope
  exact ⟨sameScope.2, by simpa using covered⟩

/-- The budget of a valid plan: its cap and its unit are covered by its authority. -/
structure PlanBudgetFacts (plan : DatasetGenerationPlan) : Prop where
  unit : plan.budget.unit = plan.authority.budgetLimit.unit
  quoteUnit : plan.budget.unit = plan.quote.unit
  cap : plan.hardExecutionCap ≤ plan.authority.budgetLimit.limit
  pages : plan.limits .maxPages ≤ maxSafeInteger

private theorem planIsValid_budget {plan : DatasetGenerationPlan}
    (valid : planIsValid plan = true) :
    PlanBudgetFacts plan := by
  have budget := (createDatasetGenerationPlan_checks valid).1
  simp only [budgetSnapshotIsValid, Bool.and_eq_true, Bool.not_eq_true',
    amountExceeds_eq_false_iff, beq_iff_eq] at budget
  obtain ⟨⟨⟨⟨⟨⟨⟨⟨⟨⟨⟨⟨⟨⟨⟨⟨⟨⟨limits, _⟩, _⟩, _⟩, authorityBudget⟩, _⟩, _⟩, _⟩, _⟩, _⟩, capFits⟩,
    quoteUnit⟩,
    _⟩, unit⟩, _⟩, available⟩, _⟩, _⟩, _⟩ := budget
  have named := List.all_eq_true.mp limits .maxPages (mem_datasetGenerationLimitNames _)
  simp only [budgetIsValid, Bool.and_eq_true, isAmount_iff] at authorityBudget
  obtain ⟨⟨⟨⟨⟨_, reserved⟩, spent⟩, _⟩, _⟩, _⟩ := authorityBudget
  refine ⟨unit, quoteUnit, ?_, (nonNegativeSafeInteger_iff.mp named).2⟩
  have grant : availableBudget plan.authority.budgetLimit ≤ plan.authority.budgetLimit.limit := by
    unfold availableBudget
    linarith
  exact (capFits.trans available).trans grant

private theorem capabilityMatches_comm (left right : CapabilityRef) :
    capabilityMatches left right = capabilityMatches right left := by
  unfold capabilityMatches
  rw [@Bool.beq_comm _ _ _ left.capabilityId, @Bool.beq_comm _ _ _ left.capabilityVersion]

section Authorization

variable {Value : Type} {environment : PageAuthorizationEnvironment Value}
  {rows : PageCreationRows Value} {request : AuthorizePageRequest} {plan : DatasetGenerationPlan}
  {inputCursor : Option String} {planned : PlannedPageRun Value}

/-- What an authorization has checked when it stores the plan and the input of a page. -/
structure PageIsPlanned (environment : PageAuthorizationEnvironment Value)
    (rows : PageCreationRows Value) (request : AuthorizePageRequest) (plan : DatasetGenerationPlan)
    (inputCursor : Option String) (planned : PlannedPageRun Value) : Prop where
  authorizing : authorizingPlan rows request = .ok plan
  absent : rows.generation.loadPage (nextPageSequence rows) = none
  fresh : freshPage rows (nextPageSequence rows) = .ok inputCursor
  admitted : validateAuthorization request plan rows.generation.creation environment.now = .ok ()
  planned : planPageRun environment rows request plan (nextPageSequence rows) inputCursor =
    .ok planned

/-- The plan an authorization goes by is the stored one, of a valid generation. -/
theorem authorizingPlan_ok (accepted : authorizingPlan rows request = .ok plan) :
    rows.generation.storedPlan = some plan ∧ SnapshotValid rows.generation.creation plan ∧
      validateCallerAuthorization request plan = .ok () ∧
        generationIsTerminal rows.generation.creation.generation.state = false := by
  unfold authorizingPlan at accepted
  split at accepted
  · cases accepted
  rename_i stored storedEq
  split at accepted
  · cases accepted
  rename_i validated validatedEq
  split at accepted
  · cases accepted
  rename_i caller
  split at accepted
  · cases accepted
  rename_i active
  cases accepted
  exact ⟨storedEq, (validateDatasetGenerationSnapshot_ok.mp validatedEq).2, caller,
    Bool.eq_false_iff.mpr active⟩

theorem validateCallerAuthorization_ok
    (accepted : validateCallerAuthorization request plan = .ok ()) :
    request.workspaceId = plan.workspaceId ∧
      request.actorId = plan.authority.subjectActorId := by
  unfold validateCallerAuthorization at accepted
  split at accepted
  · cases accepted
  rename_i sameScope
  simpa using sameScope

/-- What `validateAuthorization` checks beyond the caller. -/
structure PageIsAdmitted (plan : DatasetGenerationPlan) (creation : DatasetGenerationCreation)
    (now : Instant) : Prop where
  deadline : now < plan.deadline
  authorityDeadline : now < plan.authority.deadline
  quote : now < plan.quote.expiresAt
  pages : creation.generation.counters.pages < plan.limits .maxPages
  calls : creation.generation.counters.calls < plan.limits .maxCalls
  returned : creation.generation.counters.returned < plan.limits .maxResults
  accepted : creation.generation.counters.accepted < datasetGenerationAcceptedRecordLimit plan
  cap : creation.generation.cost.spent < plan.hardExecutionCap

private theorem validateAuthorization_ok {creation : DatasetGenerationCreation} {now : Instant}
    (accepted : validateAuthorization request plan creation now = .ok ()) :
    PageIsAdmitted plan creation now := by
  unfold validateAuthorization at accepted
  dsimp only at accepted
  split at accepted
  · cases accepted
  split at accepted
  · cases accepted
  rename_i timely
  split at accepted
  · cases accepted
  rename_i within
  split at accepted
  · cases accepted
  rename_i affordable
  simp only [Bool.or_eq_true, decide_eq_true_eq, not_or, not_le] at timely within affordable
  exact ⟨timely.1.1, timely.1.2, timely.2, within.1.1.1, within.1.1.2, within.1.2, within.2,
    affordable.1.1⟩

namespace PageIsPlanned

theorem prepared (page : PageIsPlanned environment rows request plan inputCursor planned) :
    PageRunPrepared environment.canonical request.generationId plan rows.generation.creation
      (nextPageSequence rows) inputCursor request.actorPermissions environment.now planned :=
  preparePageRun_ok page.planned

/-- The checks of a page authorization imply those of the Run creation. -/
theorem runIsAdmitted (page : PageIsPlanned environment rows request plan inputCursor planned) :
    RunIsAdmitted (createRunInput (pageRunCreation environment request (nextPageSequence rows)
      planned) planned.runPlan) := by
  obtain ⟨_, valid, caller, _⟩ := authorizingPlan_ok page.authorizing
  obtain ⟨workspace, covers⟩ := planIsValid_authority valid.planValid
  have budget := planIsValid_budget valid.planValid
  have admitted := validateAuthorization_ok page.admitted
  have spent := valid.facts.spent
  obtain ⟨compiled, draft, compiledEq, rfl, runPlan⟩ := page.prepared.draft
  simp only [authorityCoversRequest, Bool.and_eq_true, beq_iff_eq] at covers
  obtain ⟨⟨⟨⟨_, version⟩, _⟩, permission⟩, capability⟩ := covers
  rw [runPlan]
  refine ⟨workspace, (validateCallerAuthorization_ok caller).2, version, admitted.quote,
    admitted.deadline, admitted.authorityDeadline, ?_, budget.quoteUnit.symm, ?_, permission⟩
  · -- What is left of the cap is an amount within the limit of the authority.
    have left : 0 ≤ plan.hardExecutionCap - rows.generation.creation.generation.cost.spent := by
      linarith [admitted.cap]
    have fits : plan.hardExecutionCap - rows.generation.creation.generation.cost.spent ≤
        plan.authority.budgetLimit.limit := by
      linarith [budget.cap]
    change runBudgetIsValid ⟨plan.budget.unit, remainingExecutionCap plan rows.generation.creation,
      0, 0⟩ plan.authority.budgetLimit = true
    simp only [runBudgetIsValid, remainingExecutionCap, Bool.and_eq_true, isAmount_iff,
      decide_eq_true_eq, beq_iff_eq, add_zero, le_refl, and_true]
    exact ⟨⟨⟨left, left⟩, budget.unit⟩, decide_eq_true fits⟩
  · refine List.all_eq_true.mpr fun node member => ?_
    obtain ⟨source, sourceMember, _, same⟩ := compileWorkflow_nodes compiledEq node member
    rw [page.prepared.workflow] at sourceMember
    obtain rfl := List.mem_singleton.mp sourceMember
    obtain ⟨authorized, authorizedMember, matched⟩ := List.any_eq_true.mp capability
    refine List.any_eq_true.mpr ⟨authorized, authorizedMember, ?_⟩
    rw [same, capabilityMatches_comm]
    exact matched

/-- The drafted plan is bound to the input and the workflow that the creation expects. -/
theorem bound (page : PageIsPlanned environment rows request plan inputCursor planned) :
    validateExpectedPlanBinding planned.runPlan (pageRunCreation environment request
      (nextPageSequence rows) planned).expectedPlanBinding = .ok () := by
  obtain ⟨compiled, draft, compiledEq, rfl, runPlan⟩ := page.prepared.draft
  obtain ⟨specId, revision, hash⟩ := compileWorkflow_identity compiledEq
  have workflow : planned.runPlan.compiledWorkflow = compiled := by rw [runPlan]; rfl
  have input : planned.runPlan.normalizedInputHash = planned.validatedInput.contentHash := by
    rw [runPlan]; rfl
  simp [validateExpectedPlanBinding, pageRunCreation, workflow, input, specId, revision, hash]

end PageIsPlanned

/-! ## The page that is created -/

/-- What the page validator checks beyond the checks of the authorization. -/
def newPageIsBounded (request : AuthorizePageRequest) (now : Instant) (runId : RunId) : Bool :=
  boundedIdentity request.workspaceId && instantIsValid now && boundedText runId 512

private theorem predecessorCursor_ok {pageSequence : ℤ} {cursor : String}
    (found : predecessorCursor rows.pageRows pageSequence = some cursor) :
    ∃ previous ∈ rows.generation.pages, previous.state = .committed ∧
      previous.hasMore = some true ∧ previous.nextCursor = some (some cursor) := by
  unfold predecessorCursor at found
  split at found
  · cases found
  rename_i previous loaded
  split at found
  · rename_i committed
    simp only [Bool.and_eq_true, beq_iff_eq] at committed
    exact ⟨previous, List.mem_of_find?_eq_some loaded, committed.1, committed.2,
      Option.join_eq_some_iff.mp found⟩
  · cases found

private theorem committedPage_cursor {page : DatasetGenerationPage} {cursor : String}
    (valid : pageIsValid page = true) (committed : page.state = .committed)
    (more : page.hasMore = some true) (next : page.nextCursor = some (some cursor)) :
    boundedText cursor = true := by
  simp only [pageIsValid, pageEvidenceIsValid, committed, Bool.and_eq_true] at valid
  have present := valid.2.2
  unfold pageResultEvidenceIsPresent at present
  split at present
  · rename_i hasMore nextCursor _ _ _ _ _ _ _ moreEq nextEq _ _
    rw [more] at moreEq
    rw [next] at nextEq
    cases moreEq
    cases nextEq
    simp only [Bool.and_eq_true, cursorIsCoherent, if_true, Option.any_some] at present
    tauto
  · cases present

private theorem freshPage_ok (accepted : freshPage rows (nextPageSequence rows) = .ok inputCursor) :
    (nextPageSequence rows = 1 ∧ inputCursor = none) ∨
      nextPageSequence rows ≠ 1 ∧ ∃ cursor, inputCursor = some cursor ∧
        predecessorCursor rows.pageRows (nextPageSequence rows) = some cursor := by
  unfold freshPage at accepted
  dsimp only at accepted
  split at accepted
  · rename_i first
    split at accepted
    · cases accepted
      exact .inl ⟨first, rfl⟩
    · cases accepted
  · rename_i later
    split at accepted
    · rename_i cursor cursorEq
      split at accepted
      · cases accepted
        exact .inr ⟨later, cursor, rfl, cursorEq⟩
      · cases accepted
    · cases accepted

/-- A label in front of the digits of a hash is a bounded identity. -/
theorem boundedText_hashDigits {label : String} {hash : ContentHash}
    (visible : ∃ character ∈ label.toList, isTrimmedCharacter character = false)
    (fits : codePointLength label ≤ 448) (valid : contentHashIsValid hash = true) :
    boundedText (label ++ hashDigits hash) 512 = true := by
  refine boundedText_append visible ?_
  have digits : codePointLength (hashDigits hash) = 64 := by
    simp [codePointLength, hashDigits, contentHashIsValid_digits valid]
  omega

namespace PageIsPlanned

theorem sequence_safe (page : PageIsPlanned environment rows request plan inputCursor planned) :
    isSafeInteger (nextPageSequence rows) = true ∧ 1 ≤ nextPageSequence rows := by
  obtain ⟨_, valid, _, _⟩ := authorizingPlan_ok page.authorizing
  have most := (planIsValid_budget valid.planValid).pages
  have within := (validateAuthorization_ok page.admitted).pages
  have least := generationCountersAreValid.pages valid.facts.counters
  unfold nextPageSequence
  rw [isSafeInteger_iff]
  simp only [maxSafeInteger] at most ⊢
  omega

private theorem cursorIsValid
    (page : PageIsPlanned environment rows request plan inputCursor planned)
    (pages : ∀ known ∈ rows.generation.pages, pageIsValid known = true) (run : Run) :
    pageCursorIsValid (createdPage environment request (nextPageSequence rows) inputCursor planned
      run) = true := by
  rcases freshPage_ok page.fresh with ⟨first, rfl⟩ | ⟨later, cursor, rfl, found⟩
  · rw [first]
    rfl
  · obtain ⟨previous, member, committed, more, next⟩ := predecessorCursor_ok found
    have bounded := committedPage_cursor (pages previous member) committed more next
    change (if nextPageSequence rows = 1 then _ else boundedText cursor 4096) = true
    rw [if_neg later, boundedText_iff]
    rw [boundedText_iff] at bounded
    exact ⟨bounded.1, bounded.2.trans (by decide)⟩

/-- Of all checks of the page, the authorization leaves three open. -/
theorem createdPage_valid_iff
    (page : PageIsPlanned environment rows request plan inputCursor planned)
    (named : request.generationId = rows.generation.creation.generation.generationId)
    (pages : ∀ known ∈ rows.generation.pages, pageIsValid known = true) (run : Run) :
    pageIsValid (createdPage environment request (nextPageSequence rows) inputCursor planned run) =
      newPageIsBounded request environment.now run.runId := by
  obtain ⟨_, valid, _, _⟩ := authorizingPlan_ok page.authorizing
  obtain ⟨safe, positive⟩ := page.sequence_safe
  have cursor := page.cursorIsValid pages run
  have generation : boundedIdentity request.generationId = true := by
    have checked := valid.progress
    simp only [progressIsExact, Bool.and_eq_true] at checked
    rw [named]
    exact checked.1.1.1.1.1.1.1.1.1.1.1.1.1.1.1
  obtain ⟨compiled, draft, _, rfl, runPlan⟩ := page.prepared.draft
  have runPlanId : boundedText planned.runPlan.runPlanId 512 = true := by
    rw [runPlan]
    exact boundedText_hashDigits ⟨'d', by decide, by decide⟩ (by decide)
      (environment.canonical.pageIdentity_valid _ _)
  have inputId : boundedText planned.validatedInput.inputId 512 = true := by
    rw [page.prepared.input]
    exact boundedText_hashDigits ⟨'r', by decide, by decide⟩ (by decide)
      (environment.canonical.inputIdentity_valid _ _ _ _)
  have hash : contentHashIsValid planned.validatedInput.contentHash = true := by
    rw [page.prepared.input]
    exact environment.canonical.evidence_valid _
  have evidence : pageEvidenceIsValid (createdPage environment request (nextPageSequence rows)
      inputCursor planned run) = true := rfl
  have identity : pageIdentityIsValid (createdPage environment request (nextPageSequence rows)
      inputCursor planned run) = (boundedIdentity request.workspaceId &&
        boundedText run.runId 512 && instantIsValid environment.now) := by
    unfold pageIdentityIsValid
    rw [cursor]
    change (isSafeInteger (nextPageSequence rows) && decide (1 ≤ nextPageSequence rows) && true &&
      boundedIdentity request.workspaceId && boundedIdentity request.generationId &&
      boundedText planned.runPlan.runPlanId 512 && boundedText run.runId 512 &&
      boundedText planned.validatedInput.inputId 512 &&
      contentHashIsValid planned.validatedInput.contentHash && instantIsValid environment.now &&
      isSafeInteger 1 && decide ((1 : ℤ) ≤ 1)) = _
    have one : isSafeInteger 1 = true := by decide
    simp only [safe, positive, decide_true, generation, runPlanId, inputId, hash, one,
      Bool.and_true, Bool.true_and, le_refl]
  unfold pageIsValid newPageIsBounded
  rw [evidence, identity, Bool.and_true, Bool.and_right_comm]

end PageIsPlanned

/-! ## The stored plan and input -/

section Stored

variable {stored : RunCreationRows Value}

/-- Storing the plan and the input of a page touches nothing else. -/
structure StoresPlannedRun (before after : RunCreationRows Value) (planned : PlannedPageRun Value) :
    Prop where
  runs : after.runs = before.runs
  queuedEvents : after.queuedEvents = before.queuedEvents
  outbox : after.outbox = before.outbox
  found : after.getRunPlan planned.runPlan.runPlanId = some ⟨planned.runPlan,
    (before.getRunPlan planned.runPlan.runPlanId).bind StoredRunPlan.consumedBy⟩

/-- Storing a planned Run leaves exactly its plan and its input behind. -/
theorem storePlannedRun_ok [DecidableEq Value] {before : RunCreationRows Value}
    (accepted : storePlannedRun before planned = .ok stored) :
    StoresPlannedRun before stored planned := by
  unfold storePlannedRun at accepted
  split at accepted
  · cases accepted
  rename_i inserted insertedEq
  have found := RunCreationRows.insertRunPlan_getRunPlan insertedEq
  have frame : inserted.runs = before.runs ∧ inserted.queuedEvents = before.queuedEvents ∧
      inserted.outbox = before.outbox := by
    rcases RunCreationRows.insertRunPlan_ok insertedEq with ⟨_, rfl⟩ | ⟨_, _, _, rfl⟩ <;>
      exact ⟨rfl, rfl, rfl⟩
  rcases RunCreationRows.insertRunInput_ok accepted with rfl | rfl <;>
    exact ⟨frame.1, frame.2.1, frame.2.2, found⟩

namespace StoresPlannedRun

variable {before : RunCreationRows Value} {input : CreateRunInUnitOfWorkInput}

theorem findCreation (stores : StoresPlannedRun before stored planned) (key : IdempotencyKey) :
    stored.findCreation key = before.findCreation key := by
  unfold RunCreationRows.findCreation
  rw [stores.runs]

theorem knownCreation (stores : StoresPlannedRun before stored planned)
    (named : input.command.runPlanId = planned.runPlan.runPlanId) :
    Application.knownCreation stored input.command =
      Application.knownCreation before input.command := by
  unfold Application.knownCreation
  rw [stores.findCreation, named, stores.found, Option.bind_some]

theorem intentionIsFree (stores : StoresPlannedRun before stored planned)
    (named : input.command.runPlanId = planned.runPlan.runPlanId) :
    intentionIsFreeIn stored input.command = intentionIsFreeIn before input.command := by
  unfold intentionIsFreeIn
  rw [stores.findCreation, named, stores.found, Option.bind_some]

private theorem freshIdentifiers (stores : StoresPlannedRun before stored planned)
    {identifiers : RunIdentifiers} (fresh : FreshIdentifiers before identifiers) :
    FreshIdentifiers stored identifiers where
  run := by rw [stores.runs]; exact fresh.run
  event := by rw [stores.queuedEvents]; exact fresh.event
  message := by rw [stores.outbox]; exact fresh.message

end StoresPlannedRun

private theorem knownCreation_of_taken {creation : RunCreationRows Value}
    {command : CreateRunCommand}
    (taken : intentionIsFreeIn creation command = false) :
    (Application.knownCreation creation command).isSome = true := by
  unfold intentionIsFreeIn intentionIsFree at taken
  unfold Application.knownCreation
  cases byKey : creation.findCreation command.idempotencyKey with
  | some prior => rfl
  | none =>
      cases consumed : (creation.getRunPlan command.runPlanId).bind StoredRunPlan.consumedBy with
      | some other => rfl
      | none => simp [byKey, consumed] at taken

/-! ## The condition -/

/-- The Run that the page will have: the one that its key or plan already has, or a new one. -/
def pageRunId (environment : PageAuthorizationEnvironment Value) (rows : PageCreationRows Value)
    (request : AuthorizePageRequest) (planned : PlannedPageRun Value) : RunId :=
  (knownCreation rows.creation (pageRunCreation environment request (nextPageSequence rows)
    planned).command).elim environment.identifiers.nextRunId (·.run.runId)

/-- The key and the plan of the page are not used for another intention, and the page that
is created passes the checks that the authorization leaves open. -/
def pageIsCreatable (environment : PageAuthorizationEnvironment Value)
    (rows : PageCreationRows Value) (request : AuthorizePageRequest)
    (planned : PlannedPageRun Value) : Bool :=
  intentionIsFreeIn rows.creation (pageRunCreation environment request (nextPageSequence rows)
      planned).command &&
    newPageIsBounded request environment.now (pageRunId environment rows request planned)

/-- The plan and the input of the page are stored, and its key or plan has a Run. -/
def PageIsStored [DecidableEq Value] (environment : PageAuthorizationEnvironment Value)
    (rows : PageCreationRows Value)
    (request : AuthorizePageRequest) (planned : PlannedPageRun Value) : Prop :=
  storePlannedRun rows.creation planned = .ok rows.creation ∧
    (knownCreation rows.creation (pageRunCreation environment request (nextPageSequence rows)
      planned).command).isSome = true

/-- Whenever the plan and the input of a page can be stored, the page is creatable, or
nothing of it is left to store. -/
def AuthorizationFits [DecidableEq Value] (environment : PageAuthorizationEnvironment Value)
    (rows : PageCreationRows Value) (request : AuthorizePageRequest) : Prop :=
  ∀ plan inputCursor planned, PageIsPlanned environment rows request plan inputCursor planned →
    ∀ stored, storePlannedRun rows.creation planned = .ok stored →
      pageIsCreatable environment rows request planned = true ∨
        PageIsStored environment rows request planned

/-- A refused authorization, whose transaction commits, leaves the rows as they were. -/
def RefusalLeavesRows [DecidableEq Value] (environment : PageAuthorizationEnvironment Value)
    (rows : PageCreationRows Value) (request : AuthorizePageRequest) : Prop :=
  ∀ failure after, authorizePage environment rows request = .ok (.error failure, after) →
    after = rows

/-! ## The three ends of a page Run -/

section Ends

variable (page : PageIsPlanned environment rows request plan inputCursor planned)

include page

private theorem pageCreation_admitted (stores : StoresPlannedRun rows.creation stored planned) :
    CreationIsAdmitted stored (pageRunCreation environment request (nextPageSequence rows) planned)
      ⟨planned.runPlan, (rows.creation.getRunPlan planned.runPlan.runPlanId).bind
        StoredRunPlan.consumedBy⟩ :=
  ⟨stores.found, rfl, page.bound, page.runIsAdmitted⟩

private theorem persistPageRun_taken (stores : StoresPlannedRun rows.creation stored planned)
    (taken : intentionIsFreeIn rows.creation (pageRunCreation environment request
      (nextPageSequence rows) planned).command = false) :
    ∃ failure, persistPageRun environment rows request (nextPageSequence rows) inputCursor planned
      stored = .ok (.error failure, ⟨rows.generation, stored⟩) := by
  obtain ⟨failure, refused⟩ := (pageCreation_admitted page stores).refused
    ((stores.intentionIsFree rfl).trans taken)
  exact ⟨mapRunFailure failure, by rw [persistPageRun, refused]⟩

/-- A page of a Run is stored, or refused with the rows that its Run left. -/
theorem persistPageRun_run {run : Run} {runId : RunId} {replayed : Bool}
    {creation : RunCreationRows Value} (identified : run.runId = runId)
    (named : request.generationId = rows.generation.creation.generation.generationId)
    (pages : ∀ known ∈ rows.generation.pages, pageIsValid known = true)
    (created : createRunInUnitOfWork stored (pageRunCreation environment request
      (nextPageSequence rows) planned) = .ok (.ok ⟨run, replayed⟩, creation)) :
    if newPageIsBounded request environment.now runId then
      ∃ success after, persistPageRun environment rows request (nextPageSequence rows) inputCursor
        planned stored = .ok (.ok success, after)
    else
      ∃ failure, persistPageRun environment rows request (nextPageSequence rows) inputCursor planned
        stored = .ok (.error failure, ⟨rows.generation, creation⟩) := by
  have valid := page.createdPage_valid_iff named pages run
  rw [identified] at valid
  by_cases bounded : newPageIsBounded request environment.now runId = true
  · rw [if_pos bounded]
    rw [bounded] at valid
    rw [persistPageRun, created]
    simp only [validateDatasetGenerationPageSnapshot_ok.mpr ⟨rfl, valid⟩]
    exact ⟨_, _, rfl⟩
  · rw [if_neg bounded]
    rw [persistPageRun, created]
    dsimp only
    cases validated : validateDatasetGenerationPageSnapshot (createdPage environment request
        (nextPageSequence rows) inputCursor planned run) with
    | error failure => exact ⟨_, rfl⟩
    | ok result =>
        have accepted := (validateDatasetGenerationPageSnapshot_ok.mp validated).2
        rw [valid] at accepted
        exact absurd accepted bounded

end Ends

/-! ## The equivalence -/

private theorem replayPriorPage_ok {rows : PageRows} {request : AuthorizePageRequest}
    {prior : DatasetGenerationPage} {success : AuthorizePageSuccess}
    (replayed : replayPriorPage rows request prior = .ok success) : success = ⟨prior, true⟩ := by
  unfold replayPriorPage at replayed
  dsimp only at replayed
  split at replayed
  · cases replayed
    rfl
  · cases replayed

section Equivalence

variable [DecidableEq Value]

/-- A planned page is what the authorization stores and creates. -/
theorem PageIsPlanned.authorizePage
    (page : PageIsPlanned environment rows request plan inputCursor planned)
    (accepted : storePlannedRun rows.creation planned = .ok stored) :
    authorizePage environment rows request = persistPageRun environment rows request
      (nextPageSequence rows) inputCursor planned stored := by
  simp only [Application.authorizePage, page.authorizing, page.absent, page.fresh,
    persistFreshPageRun, page.admitted, page.planned, accepted]

/-- **What an authorization comes to.** It leaves the rows as they were, at most with the
answer of a stored page, or it stores a planned page and creates its Run. -/
theorem authorizePage_ok {result : AuthorizePageResult} {after : PageCreationRows Value}
    (authorized : authorizePage environment rows request = .ok (result, after)) :
    (after = rows ∧ ∀ success, result = .ok success →
      success.replayed = true ∧ success.page ∈ rows.generation.pages) ∨
    ∃ plan inputCursor planned stored,
      PageIsPlanned environment rows request plan inputCursor planned ∧
        storePlannedRun rows.creation planned = .ok stored ∧
          persistPageRun environment rows request (nextPageSequence rows) inputCursor planned
            stored = .ok (result, after) := by
  unfold authorizePage at authorized
  split at authorized
  · cases authorized
    exact .inl ⟨rfl, by simp⟩
  rename_i plan authorizing
  split at authorized
  · rename_i prior loaded
    cases authorized
    refine .inl ⟨rfl, fun success replayed => ?_⟩
    obtain rfl := replayPriorPage_ok replayed
    exact ⟨rfl, List.mem_of_find?_eq_some loaded⟩
  rename_i absent
  split at authorized
  · cases authorized
    exact .inl ⟨rfl, by simp⟩
  rename_i inputCursor fresh
  unfold persistFreshPageRun at authorized
  split at authorized
  · cases authorized
    exact .inl ⟨rfl, by simp⟩
  rename_i admitted
  split at authorized
  · cases authorized
    exact .inl ⟨rfl, by simp⟩
  rename_i planned plannedEq
  split at authorized
  · cases authorized
  rename_i stored storedEq
  exact .inr ⟨plan, inputCursor, planned, stored,
    ⟨authorizing, absent, fresh, admitted, plannedEq⟩, storedEq, authorized⟩

variable (named : request.generationId = rows.generation.creation.generation.generationId)
  (pages : ∀ known ∈ rows.generation.pages, pageIsValid known = true)
  (fresh : FreshIdentifiers rows.creation environment.identifiers)

include named pages fresh

/-- What a planned page comes to: its key or plan is taken, or it has the Run that these
have, or a new Run. -/
theorem authorizePage_planned
    (page : PageIsPlanned environment rows request plan inputCursor planned)
    (accepted : storePlannedRun rows.creation planned = .ok stored) :
    if pageIsCreatable environment rows request planned then
      ∃ success after, authorizePage environment rows request = .ok (.ok success, after)
    else
      ∃ failure creation, authorizePage environment rows request =
          .ok (.error failure, ⟨rows.generation, creation⟩) ∧
        ((knownCreation rows.creation (pageRunCreation environment request (nextPageSequence rows)
            planned).command).isSome = true ∧ creation = stored ∨
          knownCreation rows.creation (pageRunCreation environment request (nextPageSequence rows)
            planned).command = none ∧ creation.runs ≠ rows.creation.runs) := by
  have stores := storePlannedRun_ok accepted
  have admitted := pageCreation_admitted page stores
  rw [page.authorizePage accepted]
  by_cases free : intentionIsFreeIn rows.creation (pageRunCreation environment request
      (nextPageSequence rows) planned).command = true
  · cases known : knownCreation rows.creation (pageRunCreation environment request
        (nextPageSequence rows) planned).command with
    | some creation =>
        have replayed := admitted.replayed ((stores.intentionIsFree rfl).trans free)
          ((stores.knownCreation rfl).trans known)
        have ended := persistPageRun_run page rfl named pages replayed
        have runId : pageRunId environment rows request planned = creation.run.runId := by
          simp [pageRunId, known]
        by_cases bounded : newPageIsBounded request environment.now creation.run.runId = true
        · rw [if_pos bounded] at ended
          rw [if_pos (by simp [pageIsCreatable, free, runId, bounded])]
          exact ended
        · rw [if_neg bounded] at ended
          rw [if_neg (by simp [pageIsCreatable, runId, bounded])]
          obtain ⟨failure, refused⟩ := ended
          exact ⟨failure, stored, refused, .inl ⟨rfl, rfl⟩⟩
    | none =>
        have unknown := (stores.knownCreation rfl).trans known
        have created := admitted.created unknown
        rw [persistRunCreation_fresh (stores.freshIdentifiers fresh) stores.found
          unknown] at created
        have ended := @persistPageRun_run _ environment rows request plan inputCursor planned stored
          page _ environment.identifiers.nextRunId _ _ rfl named pages created
        have runId : pageRunId environment rows request planned =
            environment.identifiers.nextRunId := by
          simp [pageRunId, known]
        by_cases bounded : newPageIsBounded request environment.now
            environment.identifiers.nextRunId = true
        · rw [if_pos bounded] at ended
          rw [if_pos (by simp [pageIsCreatable, free, runId, bounded])]
          exact ended
        · rw [if_neg bounded] at ended
          rw [if_neg (by simp [pageIsCreatable, runId, bounded])]
          obtain ⟨failure, refused⟩ := ended
          refine ⟨failure, _, refused, .inr ⟨rfl, fun same => ?_⟩⟩
          -- The refused page leaves one Run more than there was.
          have longer := congrArg (fun runs : RunRows => runs.runs.length) same
          simp [recordRunCreation, RunRows.insertRun, stores.runs] at longer
  · have taken := Bool.eq_false_iff.mpr free
    rw [if_neg (by simp [pageIsCreatable, taken])]
    obtain ⟨failure, refused⟩ := persistPageRun_taken page stores taken
    exact ⟨failure, stored, refused, .inl ⟨knownCreation_of_taken taken, rfl⟩⟩

/-- A creatable page is authorized. -/
theorem authorizePage_created
    (page : PageIsPlanned environment rows request plan inputCursor planned)
    (accepted : storePlannedRun rows.creation planned = .ok stored)
    (creatable : pageIsCreatable environment rows request planned = true) :
    ∃ success after, authorizePage environment rows request = .ok (.ok success, after) := by
  have ends := authorizePage_planned named pages fresh page accepted
  rw [if_pos creatable] at ends
  exact ends

/-- **When a refused page authorization leaves no row.** Exactly when every page whose plan
and input it could store is creatable, or has nothing left to be stored. -/
theorem refusalLeavesRows_iff :
    RefusalLeavesRows environment rows request ↔ AuthorizationFits environment rows request := by
  constructor
  · intro leaves plan inputCursor planned page stored accepted
    have ends := authorizePage_planned named pages fresh page accepted
    by_cases creatable : pageIsCreatable environment rows request planned = true
    · exact .inl creatable
    · rw [if_neg creatable] at ends
      obtain ⟨failure, creation, refused, known⟩ := ends
      have same := leaves failure _ refused
      have sameCreation : creation = rows.creation := congrArg PageCreationRows.creation same
      rcases known with ⟨isKnown, rfl⟩ | ⟨_, changed⟩
      · rw [sameCreation] at accepted
        exact .inr ⟨accepted, isKnown⟩
      · exact absurd (congrArg RunCreationRows.runs sameCreation) changed
  · intro fits failure after refused
    rcases authorizePage_ok refused with ⟨same, _⟩ | ⟨plan, inputCursor, planned, stored, page,
      accepted, _⟩
    · exact same
    · have ends := authorizePage_planned named pages fresh page accepted
      by_cases creatable : pageIsCreatable environment rows request planned = true
      · rw [if_pos creatable] at ends
        obtain ⟨success, left, ok⟩ := ends
        rw [refused] at ok
        cases ok
      · rw [if_neg creatable] at ends
        obtain ⟨other, creation, again, known⟩ := ends
        rw [refused] at again
        cases again
        have isStored := (fits plan inputCursor planned page stored accepted).resolve_left creatable
        have unchanged : stored = rows.creation := by
          have both := accepted.symm.trans isStored.1
          cases both
          rfl
        rcases known with ⟨_, rfl⟩ | ⟨unknown, _⟩
        · rw [unchanged]
        · have isKnown := isStored.2
          rw [unknown] at isKnown
          cases isKnown

end Equivalence

end Stored

end Authorization

end Kurobara.Application
