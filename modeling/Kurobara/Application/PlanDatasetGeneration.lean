import Kurobara.Engine.SourcingBudgetPreflight

/-! # Planning a dataset generation

The planner takes a resolved snapshot that covers the request, hands its facts to the budget
preflight, and drafts the plan of what the preflight allows. The kernel then checks the budget of
the draft again; it alone bounds the texts of the quote.
-/

namespace Kurobara.Application.PlanDatasetGeneration

open Kurobara.Kernel Kurobara.Engine

/-- What the resolver reads once for a plan: authority, budget, policy, routes and quote identity.
-/
structure DatasetGenerationPlanningSnapshot where
  authority : AuthorityEnvelope
  budget : BudgetLimit
  deadline : Instant
  policy : DatasetGenerationPolicySnapshot
  quote : CostQuote
  routeSnapshots : List DatasetGenerationRouteSnapshot
  unknownCostPolicy : DatasetGenerationUnknownCostPolicy
  deriving DecidableEq, Repr

/-- What is left of a budget: its limit less what is spent and reserved. -/
def availableBudget (budget : BudgetLimit) : Amount :=
  budget.limit - budget.spent - budget.reserved

/-- The resolved policy on unknown costs may only be stricter than the requested one. -/
def unknownPolicyIsMonotone (requested resolved : DatasetGenerationUnknownCostPolicy) : Bool :=
  match resolved, requested with
  | .deny, _ => true
  | .explicitNonInteractive resolvedCap, .explicitNonInteractive requestedCap =>
      decide (resolvedCap ≤ requestedCap)
  | .explicitNonInteractive _, .deny => false

/-- `snapshotCoversRequest`: the snapshot grants what the intent asks for, and no more. -/
def snapshotCoversRequest (intent : DatasetGenerationRequestIntent)
    (snapshot : DatasetGenerationPlanningSnapshot) : Bool :=
  let authority := snapshot.authority
  isSupportedAuthorityEnvelopeVersion authority.version &&
    authority.workspaceId == intent.workspaceId && authority.subjectActorId == intent.actorId &&
    authority.authorityEnvelopeId == intent.authorityEnvelopeId &&
    authority.capabilities.any (fun candidate => capabilityMatches candidate intent.capability) &&
    authority.permissions.contains snapshot.policy.requiredPermission &&
    decide (snapshot.deadline ≤ intent.requestedDeadline) &&
    decide (snapshot.deadline ≤ authority.deadline) &&
    snapshot.budget.unit == intent.requestedBudget.unit &&
    snapshot.budget.unit == authority.budgetLimit.unit &&
    decide (availableBudget snapshot.budget ≤ intent.requestedBudget.limit) &&
    decide (availableBudget snapshot.budget ≤ availableBudget authority.budgetLimit) &&
    unknownPolicyIsMonotone intent.unknownCostPolicy snapshot.unknownCostPolicy

/-! ## The facts of the preflight -/

/-- An object literal with these properties. -/
def objectLiteral (entries : List (String × JsValue)) : JsValue :=
  .record {
    read := fun key =>
      match entries.lookup key with
      | some value => .value value
      | none => .missing
    ownKeys := some (entries.map fun entry => .name entry.1) }

private def amountValue (amount : Amount) : JsValue :=
  .number (.finite amount)

private def planLimitName : SourcingLimitName → DatasetGenerationLimitName
  | .maxCompanies => .maxCompanies
  | .maxContactsPerCompany => .maxContactsPerCompany
  | .maxContactsTotal => .maxContactsTotal
  | .maxEnrichments => .maxEnrichments
  | .maxPhones => .maxPhones
  | .maxResults => .maxResults
  | .maxPages => .maxPages
  | .maxCalls => .maxCalls

private def limitRead (limits : DatasetGenerationLimitRequest) (name : SourcingLimitName) :
    OwnValueRead JsValue :=
  match limits (planLimitName name) with
  | some limit => .value (amountValue limit)
  | none => .missing

/-- The requested limits as an object: a limit that is not requested is no property. -/
def limitsObject (limits : DatasetGenerationLimitRequest) : JsObject JsValue where
  read := fun key =>
    match sourcingLimitNames.find? fun name => name.text == key with
    | some name => limitRead limits name
    | none => .missing
  ownKeys := some ((sourcingLimitNames.filter fun name => (limits (planLimitName name)).isSome).map
    fun name => .name name.text)

private def guaranteeText : QuoteGuarantee → String
  | .hard => "hard"
  | .estimated => "estimated"
  | .unknown => "unknown"

private def quoteValue (quote : CostQuote) : JsValue :=
  objectLiteral ([("expiresAt", amountValue quote.expiresAt),
    ("guarantee", .text (guaranteeText quote.guarantee)),
    ("pricingVersion", .text quote.pricingVersion), ("quoteId", .text quote.quoteId),
    ("unit", .text quote.unit)] ++
      quote.upperBound.toList.map fun upperBound => ("upperBound", amountValue upperBound))

private def unknownCostPolicyValue : DatasetGenerationUnknownCostPolicy → JsValue
  | .deny => objectLiteral [("mode", .text "deny")]
  | .explicitNonInteractive hardCap =>
      objectLiteral [("hardCap", amountValue hardCap), ("mode", .text "explicit-non-interactive")]

/-- What the planner hands to the preflight. -/
def preflightFacts (limits : DatasetGenerationLimitRequest)
    (snapshot : DatasetGenerationPlanningSnapshot) (now : Instant) : JsValue :=
  objectLiteral [
    ("budget", objectLiteral [("limit", amountValue snapshot.budget.limit),
      ("reserved", amountValue snapshot.budget.reserved),
      ("spent", amountValue snapshot.budget.spent), ("unit", .text snapshot.budget.unit)]),
    ("deadline", amountValue snapshot.deadline),
    ("limits", .record (limitsObject limits)),
    ("now", amountValue now),
    ("quote", quoteValue snapshot.quote),
    ("unknownCostPolicy", unknownCostPolicyValue snapshot.unknownCostPolicy)]

/-! ## The drafted plan -/

/-- The amount of a number; the preflight allows amounts only. -/
def amountOf : JsNumber → Amount
  | .finite value => value
  | _ => 0

/-- The parts of a draft that neither the snapshot nor the preflight decides. -/
structure DraftParts where
  generationPlanId : DatasetGenerationPlanId
  idempotencyKey : IdempotencyKey
  normalizedQuery : DatasetGenerationQueryValue
  normalizerVersion : String
  planHash : ContentHash
  queryContract : ContractRef
  queryHash : ContentHash
  requestIntentHash : ContentHash
  routeSnapshots : List DatasetGenerationRouteSnapshot
  schemaHash : ContentHash
  workspaceId : WorkspaceId

private def sourcingLimitName : DatasetGenerationLimitName → SourcingLimitName
  | .maxCompanies => .maxCompanies
  | .maxContactsPerCompany => .maxContactsPerCompany
  | .maxContactsTotal => .maxContactsTotal
  | .maxEnrichments => .maxEnrichments
  | .maxPhones => .maxPhones
  | .maxResults => .maxResults
  | .maxPages => .maxPages
  | .maxCalls => .maxCalls

/-- The plan of what the preflight approved. -/
def draftPlan (intent : DatasetGenerationRequestIntent)
    (snapshot : DatasetGenerationPlanningSnapshot) (approved : SourcingBudgetPreflightSnapshot)
    (parts : DraftParts) : DatasetGenerationPlan where
  authority := snapshot.authority
  budget := {
    unit := approved.budget.unit
    limit := amountOf approved.budget.limit
    spent := amountOf approved.budget.spent
    reserved := amountOf approved.budget.reserved }
  deadline := approved.deadline
  generationPlanId := parts.generationPlanId
  hardExecutionCap := approved.hardExecutionCap
  idempotencyKey := parts.idempotencyKey
  limits := fun name => approved.limits (sourcingLimitName name)
  normalizedQuery := parts.normalizedQuery
  normalizerVersion := parts.normalizerVersion
  planHash := parts.planHash
  policy := snapshot.policy
  queryContract := parts.queryContract
  queryHash := parts.queryHash
  quote := approved.quote
  requestIntent := intent
  requestIntentHash := parts.requestIntentHash
  routeSnapshots := parts.routeSnapshots
  schemaHash := parts.schemaHash
  workspaceId := parts.workspaceId

/-! ## Reading the facts back -/

private def limitInput (limits : DatasetGenerationLimitRequest) : NormalizedLimitInput where
  hasUnknown := false
  values := fun name =>
    match limits (planLimitName name) with
    | some limit => amountValue limit
    | none => .undefined

private theorem limitsObject_read (limits : DatasetGenerationLimitRequest)
    (name : SourcingLimitName) :
    (limitsObject limits).readOwnValue name.text = .ok (limitRead limits name) := by
  have read : (limitsObject limits).read name.text = limitRead limits name := by
    cases name <;> rfl
  unfold JsObject.readOwnValue
  rw [read]
  unfold limitRead
  cases limits (planLimitName name) with
  | none => rfl
  | some limit => rfl

private theorem normalizeLimits_limitsObject (limits : DatasetGenerationLimitRequest) :
    normalizeLimits (limitsObject limits) = .ok (some (limitInput limits)) := by
  have reads : (sourcingLimitNames.mapM fun name =>
      ((limitsObject limits).readOwnValue name.text).map fun read => (name, read)) =
        Except.ok (sourcingLimitNames.map fun name => (name, limitRead limits name)) := by
    simp only [limitsObject_read]
    rfl
  have known : (((sourcingLimitNames.filter fun name => (limits (planLimitName name)).isSome).map
      fun name => PropertyKey.name name.text).any fun key => !knownLimitNames.contains key) =
        false := by
    rw [List.any_eq_false]
    intro key member
    obtain ⟨name, listed, rfl⟩ := List.mem_map.mp member
    rw [Bool.not_eq_true, Bool.not_eq_false', List.contains_iff_mem]
    exact List.mem_map_of_mem (List.mem_filter.mp listed).1
  have found : ∀ name, (sourcingLimitNames.map fun name => (name, limitRead limits name)).find?
      (fun read => read.1 == name) = some (name, limitRead limits name) := by
    intro name
    cases name <;> rfl
  unfold normalizeLimits
  rw [reads]
  change (if _ then _ else _) = _
  rw [if_neg]
  · change Except.ok (some _) = _
    rw [known]
    congr 3
    funext name
    rw [found name]
    unfold limitRead
    cases limits (planLimitName name) with
    | none => rfl
    | some limit => rfl
  · intro accessor
    obtain ⟨read, member, isAccessor⟩ := List.any_eq_true.mp accessor
    obtain ⟨name, _, rfl⟩ := List.mem_map.mp member
    unfold limitRead at isAccessor
    cases given : limits (planLimitName name) with
    | none => simp [given] at isAccessor
    | some limit => simp [given] at isAccessor

/-- The facts as the preflight reads them. -/
def plannedFacts (limits : DatasetGenerationLimitRequest)
    (snapshot : DatasetGenerationPlanningSnapshot) (now : Instant) :
    NormalizedSourcingBudgetPreflightFacts where
  budget := ⟨.finite snapshot.budget.limit, .finite snapshot.budget.reserved,
    .finite snapshot.budget.spent, snapshot.budget.unit⟩
  deadline := .finite snapshot.deadline
  limits := limitInput limits
  now := .finite now
  quote := ⟨.finite snapshot.quote.expiresAt, guaranteeText snapshot.quote.guarantee,
    snapshot.quote.pricingVersion, snapshot.quote.quoteId, snapshot.quote.unit,
    snapshot.quote.upperBound.map JsNumber.finite⟩
  unknownCostPolicy :=
    match snapshot.unknownCostPolicy with
    | .deny => ⟨none, .deny⟩
    | .explicitNonInteractive hardCap => ⟨some (.finite hardCap), .explicitNonInteractive⟩

private theorem normalizeFacts_preflightFacts (limits : DatasetGenerationLimitRequest)
    (snapshot : DatasetGenerationPlanningSnapshot) (now : Instant) :
    normalizeFacts (preflightFacts limits snapshot now) =
      .ok (some (plannedFacts limits snapshot now)) := by
  have read := normalizeLimits_limitsObject limits
  obtain ⟨authority, budget, deadline, policy, quote, routeSnapshots, unknownCostPolicy⟩ := snapshot
  obtain ⟨quoteId, guarantee, unit, upperBound, pricingVersion, expiresAt⟩ := quote
  unfold normalizeFacts
  cases unknownCostPolicy with
  | deny =>
      cases upperBound with
      | none =>
          change (normalizeLimits (limitsObject limits) >>= fun _ => _) = _
          rw [read]
          rfl
      | some upperBound =>
          change (normalizeLimits (limitsObject limits) >>= fun _ => _) = _
          rw [read]
          rfl
  | explicitNonInteractive hardCap =>
      cases upperBound with
      | none =>
          change (normalizeLimits (limitsObject limits) >>= fun _ => _) = _
          rw [read]
          rfl
      | some upperBound =>
          change (normalizeLimits (limitsObject limits) >>= fun _ => _) = _
          rw [read]
          rfl

/-! ## The budget of the draft -/

section

variable {intent : DatasetGenerationRequestIntent} {snapshot : DatasetGenerationPlanningSnapshot}
  {now : Instant} {approved : SourcingBudgetPreflightSnapshot}

private theorem instant?_cast {number value : Instant}
    (read : JsNumber.instant? (.finite (number : ℚ)) = some value) :
    value = number ∧ isSafeInteger value = true ∧ 0 ≤ value := by
  have same := JsNumber.instant?_finite read
  rw [JsNumber.finite.injEq, Int.cast_inj] at same
  simp only [JsNumber.instant?, Option.filter_eq_some_iff, JsNumber.safeInteger?] at read
  obtain ⟨safe, nonneg⟩ := read
  split at safe
  · rename_i integral
    obtain rfl := Option.some.inj safe
    exact ⟨same.symm, integral.2, of_decide_eq_true nonneg⟩
  · cases safe

private theorem quoteGuarantee_text (guarantee : QuoteGuarantee) :
    quoteGuarantee (guaranteeText guarantee) = some guarantee := by
  cases guarantee <;> rfl

/-- The preflight hands back the quote that it validated. -/
theorem validatedQuote_planned {limits : DatasetGenerationLimitRequest} {quote : CostQuote}
    (validated : validatedQuote (plannedFacts limits snapshot now).quote = some quote) :
    quote = snapshot.quote ∧ isSafeInteger quote.expiresAt = true ∧ 0 ≤ quote.expiresAt ∧
      quote.upperBound.all isAmount = true := by
  unfold validatedQuote plannedFacts at validated
  dsimp only at validated
  rw [quoteGuarantee_text] at validated
  split at validated
  · rename_i guarantee expiresAt guaranteeEq expiresAtEq
    obtain rfl := Option.some.inj guaranteeEq
    obtain ⟨rfl, safe, nonneg⟩ := instant?_cast expiresAtEq
    split at validated
    · rename_i valid
      obtain rfl := Option.some.inj validated
      have bound : (snapshot.quote.upperBound.map JsNumber.finite).bind JsNumber.amount? =
            snapshot.quote.upperBound ∧ snapshot.quote.upperBound.all isAmount = true := by
        cases given : snapshot.quote.upperBound with
        | none => exact ⟨rfl, rfl⟩
        | some upperBound =>
            rw [given, Bool.and_eq_true] at valid
            have amount : isAmount upperBound = true := by
              have read := valid.2
              simp only [Option.map_some, Option.all_some, JsNumber.amount?] at read
              by_contra none
              rw [if_neg none] at read
              cases read
            simp [JsNumber.amount?, amount]
      rw [bound.1]
      exact ⟨rfl, safe, nonneg, bound.2⟩
    · cases validated
  · cases validated

/-- What an approved preflight of a covering snapshot has checked of the budget. -/
structure ApprovalHolds (intent : DatasetGenerationRequestIntent)
    (snapshot : DatasetGenerationPlanningSnapshot) (approved : SourcingBudgetPreflightSnapshot) :
    Prop where
  budget : approved.budget = ⟨.finite snapshot.budget.limit, .finite snapshot.budget.reserved,
    .finite snapshot.budget.spent, snapshot.budget.unit⟩
  budgetValid : budgetIsValid snapshot.budget = true
  deadline : approved.deadline = snapshot.deadline ∧ isSafeInteger snapshot.deadline = true ∧
    0 ≤ snapshot.deadline
  limits : ∀ name, intent.limits (planLimitName name) = some (approved.limits name) ∧
    nonNegativeSafeInteger (approved.limits name) = true
  quote : approved.quote = snapshot.quote ∧ isSafeInteger snapshot.quote.expiresAt = true ∧
    0 ≤ snapshot.quote.expiresAt ∧ snapshot.quote.upperBound.all isAmount = true
  bounded : snapshot.quote.guarantee ≠ .unknown → snapshot.quote.upperBound.isSome = true
  unit : snapshot.quote.unit = snapshot.budget.unit
  cap : 0 ≤ approved.hardExecutionCap ∧
    approved.hardExecutionCap ≤ availableBudget snapshot.budget
  hard : snapshot.quote.guarantee = .hard →
    snapshot.quote.upperBound = some approved.hardExecutionCap
  unknown : snapshot.quote.guarantee = .unknown →
    snapshot.unknownCostPolicy = .explicitNonInteractive approved.hardExecutionCap

private theorem budgetRemaining_planned {limits : DatasetGenerationLimitRequest}
    {remaining : Amount}
    (given : budgetRemaining (plannedFacts limits snapshot now).budget = some remaining) :
    remaining = availableBudget snapshot.budget ∧ budgetIsValid snapshot.budget = true ∧
      0 ≤ remaining := by
  unfold budgetRemaining plannedFacts at given
  dsimp only [JsNumber.amount?] at given
  split at given
  · rename_i limit spent reserved limitEq spentEq reservedEq
    split at limitEq
    · rename_i limitAmount
      split at spentEq
      · rename_i spentAmount
        split at reservedEq
        · rename_i reservedAmount
          obtain rfl := Option.some.inj limitEq
          obtain rfl := Option.some.inj spentEq
          obtain rfl := Option.some.inj reservedEq
          split at given
          · rename_i valid
            obtain rfl := Option.some.inj given
            rw [Bool.and_eq_true, decide_eq_true_iff] at valid
            rw [isAmount_iff] at limitAmount spentAmount reservedAmount
            refine ⟨rfl, ?_, by linarith [valid.2]⟩
            unfold budgetIsValid
            have within : snapshot.budget.reserved + snapshot.budget.spent ≤
                snapshot.budget.limit := by linarith [valid.2]
            have committed : 0 ≤ snapshot.budget.reserved + snapshot.budget.spent := by linarith
            simp [limitAmount, spentAmount, reservedAmount, committed, within, valid.1]
          · cases given
        · cases reservedEq
      · cases spentEq
    · cases limitEq
  · cases given

private theorem approvalHolds {decision : SourcingBudgetPreflightDecision}
    (decided : evaluateSourcingBudgetPreflight (preflightFacts intent.limits snapshot now) =
      .ok decision)
    (allowed : decision.allowed = true) (given : decision.snapshot = some approved) :
    ApprovalHolds intent snapshot approved := by
  rw [evaluate_readable (normalizeFacts_preflightFacts intent.limits snapshot now)] at decided
  obtain ⟨other, otherDecided, clearIff, _, approvedParts⟩ :=
    evaluateSafe_decides (plannedFacts intent.limits snapshot now)
  obtain rfl := Except.ok.inj (otherDecided.symm.trans decided)
  have clear := denialReasons_eq_nil.mp (clearIff.mp allowed)
  obtain ⟨budget, deadlineRead, limitsRead⟩ := evaluateSafe_snapshot decided given
  obtain ⟨remaining, quote, snapshotOther, snapshotEq, remainingEq, validated, quoteEq, isCap⟩ :=
    approvedParts allowed
  obtain rfl := Option.some.inj (given.symm.trans snapshotEq)
  obtain ⟨remainingIs, budgetValid, remainingNonneg⟩ := budgetRemaining_planned remainingEq
  obtain ⟨quoteIs, quoteRest⟩ := validatedQuote_planned validated
  obtain ⟨otherRemaining, otherQuote, otherRemainingEq, otherValidated, cost⟩ := clear.cost
  obtain rfl := Option.some.inj (remainingEq.symm.trans otherRemainingEq)
  obtain rfl := Option.some.inj (validated.symm.trans otherValidated)
  obtain ⟨deadline, deadlineSafe, deadlineNonneg⟩ := instant?_cast deadlineRead
  subst quoteIs
  refine ⟨budget, budgetValid, ⟨deadline, deadline ▸ deadlineSafe, deadline ▸ deadlineNonneg⟩,
    fun name => ?_, ⟨quoteEq, quoteRest⟩, fun known => ?_, clear.unit, ⟨?_, ?_⟩, isCap.hard,
    fun unknown => ?_⟩
  · have value := readLimits_values limitsRead name
    change limitOf (match intent.limits (planLimitName name) with
      | some limit => amountValue limit
      | none => .undefined) = _ at value
    cases requested : intent.limits (planLimitName name) with
    | none =>
        rw [requested] at value
        cases value
    | some limit =>
        rw [requested] at value
        obtain ⟨same, safe, nonneg⟩ := instant?_cast value
        refine ⟨by rw [same], ?_⟩
        rw [nonNegativeSafeInteger, safe, Bool.true_and]
        exact decide_eq_true nonneg
  · obtain ⟨upperBound, boundEq⟩ := cost.known known
    rw [boundEq, Option.isSome_some]
  · cases guarantee : snapshot.quote.guarantee with
    | hard =>
        have amount := quoteRest.2.2
        rw [isCap.hard guarantee, Option.all_some, isAmount_iff] at amount
        exact amount
    | estimated =>
        rw [isCap.estimated guarantee]
        exact remainingNonneg
    | unknown =>
        obtain ⟨hardCap, _, amount⟩ := isCap.unknown guarantee
        unfold JsNumber.amount? at amount
        split at amount
        · split at amount
          · rename_i value isValue
            obtain rfl := Option.some.inj amount
            exact isAmount_iff.mp isValue
          · cases amount
        · cases amount
  · rw [← remainingIs]
    exact isCap.within
  · obtain ⟨hardCap, policyCap, amount⟩ := isCap.unknown unknown
    unfold plannedFacts at policyCap
    dsimp only at policyCap
    cases policy : snapshot.unknownCostPolicy with
    | deny =>
        rw [policy] at policyCap
        cases policyCap
    | explicitNonInteractive cap =>
        rw [policy] at policyCap
        obtain rfl := Option.some.inj policyCap
        dsimp only [JsNumber.amount?] at amount
        split at amount
        · rw [Option.some.inj amount]
        · cases amount

/-- The texts of a quote are bounded as the kernel asks. -/
structure QuoteTextsAreBounded (quote : CostQuote) : Prop where
  quoteId : boundedText quote.quoteId = true
  pricingVersion : boundedText quote.pricingVersion = true
  unit : boundedText quote.unit 64 = true

/-- The budget authority of a snapshot is a budget, until an instant. -/
structure AuthorityIsValid (authority : AuthorityEnvelope) : Prop where
  budgetLimit : budgetIsValid authority.budgetLimit = true
  deadline : isSafeInteger authority.deadline = true

private theorem draftBudget_iff {parts : DraftParts}
    (covers : snapshotCoversRequest intent snapshot = true)
    (authority : AuthorityIsValid snapshot.authority)
    (holds : ApprovalHolds intent snapshot approved) :
    budgetSnapshotIsValid (draftPlan intent snapshot approved parts) = true ↔
      QuoteTextsAreBounded snapshot.quote := by
  unfold snapshotCoversRequest at covers
  simp only [Bool.and_eq_true, decide_eq_true_iff, beq_iff_eq] at covers
  obtain ⟨⟨⟨⟨⟨⟨⟨_, deadlineRequested⟩, deadlineAuthority⟩, unitRequested⟩, unitAuthority⟩,
    availableRequested⟩, availableAuthority⟩, monotone⟩ := covers
  have budget : (draftPlan intent snapshot approved parts).budget = snapshot.budget := by
    unfold draftPlan
    dsimp only
    rw [holds.budget]
    rfl
  have available : ∀ budget : BudgetLimit, Kernel.availableBudget budget = availableBudget budget :=
    fun budget => sub_right_comm _ _ _
  have within : ∀ {value limit : Amount}, value ≤ limit → amountExceeds value limit = false :=
    fun fits => amountExceeds_eq_false_iff.mpr fits
  have limits : limitsAreValid (draftPlan intent snapshot approved parts).limits = true ∧
      limitsDoNotExceedRequest (draftPlan intent snapshot approved parts).limits intent.limits =
        true := by
    unfold limitsAreValid limitsDoNotExceedRequest
    rw [List.all_eq_true, List.all_eq_true]
    refine ⟨fun name _ => (holds.limits (sourcingLimitName name)).2, fun name _ => ?_⟩
    have requested := (holds.limits (sourcingLimitName name)).1
    have same : planLimitName (sourcingLimitName name) = name := by cases name <;> rfl
    rw [same] at requested
    rw [requested]
    exact decide_eq_true (le_refl _)
  have deadlineNonneg : 0 ≤ snapshot.authority.deadline :=
    holds.deadline.2.2.trans deadlineAuthority
  have admits : quoteAdmitsHardCap (draftPlan intent snapshot approved parts) = true := by
    unfold quoteAdmitsHardCap draftPlan
    dsimp only
    rw [holds.quote.1]
    cases guarantee : snapshot.quote.guarantee with
    | hard => simp [holds.hard guarantee, within (le_refl _)]
    | estimated => simp
    | unknown =>
        rw [holds.unknown guarantee] at monotone
        cases requested : intent.unknownCostPolicy with
        | deny =>
            rw [requested] at monotone
            cases monotone
        | explicitNonInteractive cap =>
            rw [requested] at monotone
            simp [within (of_decide_eq_true monotone)]
  have quote : quoteIsValid snapshot.quote = true ↔ QuoteTextsAreBounded snapshot.quote := by
    have known : (snapshot.quote.guarantee == .unknown || snapshot.quote.upperBound.isSome) =
        true := by
      by_cases unknown : snapshot.quote.guarantee = .unknown
      · simp [unknown]
      · simp [holds.bounded unknown]
    unfold quoteIsValid
    rw [known, holds.quote.2.1, holds.quote.2.2.2, decide_eq_true holds.quote.2.2.1]
    simp only [Bool.and_true, Bool.and_eq_true]
    exact ⟨fun bounded => ⟨bounded.1.1, bounded.1.2, bounded.2⟩,
      fun bounded => ⟨⟨bounded.quoteId, bounded.pricingVersion⟩, bounded.unit⟩⟩
  rw [← quote]
  unfold budgetSnapshotIsValid
  dsimp only
  have cap : isAmount (draftPlan intent snapshot approved parts).hardExecutionCap = true :=
    isAmount_iff.mpr holds.cap.1
  have deadline : (draftPlan intent snapshot approved parts).deadline = snapshot.deadline :=
    holds.deadline.1
  have sameQuote : (draftPlan intent snapshot approved parts).quote = snapshot.quote :=
    holds.quote.1
  have authorityEq : (draftPlan intent snapshot approved parts).authority = snapshot.authority :=
    rfl
  have intentEq : (draftPlan intent snapshot approved parts).requestIntent = intent := rfl
  rw [intentEq, authorityEq, budget, deadline, sameQuote, limits.1, limits.2, admits, cap,
    available,
    available, holds.budgetValid, authority.budgetLimit, authority.deadline, holds.deadline.2.1,
    decide_eq_true holds.deadline.2.2, decide_eq_true deadlineNonneg,
    decide_eq_true deadlineRequested, decide_eq_true deadlineAuthority,
    within (show (draftPlan intent snapshot approved parts).hardExecutionCap ≤ _ from holds.cap.2),
    within availableRequested, within availableAuthority, beq_iff_eq.mpr holds.unit.symm,
    beq_iff_eq.mpr unitRequested, beq_iff_eq.mpr unitAuthority]
  simp only [Bool.and_true, Bool.true_and, Bool.not_false]

/-- **An allowed preflight is constructible exactly when the texts of its quote are bounded.**
Every other check of the plan's budget is settled by the coverage and the preflight. -/
theorem allowedPreflight_isConstructible_iff (intent : DatasetGenerationRequestIntent)
    (snapshot : DatasetGenerationPlanningSnapshot) (now : Instant) (parts : DraftParts)
    (decision : SourcingBudgetPreflightDecision) (approved : SourcingBudgetPreflightSnapshot)
    (covers : snapshotCoversRequest intent snapshot = true)
    (authority : AuthorityIsValid snapshot.authority)
    (decided : evaluateSourcingBudgetPreflight (preflightFacts intent.limits snapshot now) =
      .ok decision)
    (allowed : decision.allowed = true) (given : decision.snapshot = some approved) :
    budgetSnapshotIsValid (draftPlan intent snapshot approved parts) = true ↔
      QuoteTextsAreBounded snapshot.quote :=
  draftBudget_iff covers authority (approvalHolds decided allowed given)

end

/-! ## A sample request -/

/-- The snapshot of the sample plan, with a quote under some pricing version. -/
def samplePlanningSnapshot (pricingVersion : String) : DatasetGenerationPlanningSnapshot where
  authority := samplePlan.authority
  budget := samplePlan.budget
  deadline := samplePlan.deadline
  policy := samplePlan.policy
  quote := { samplePlan.quote with pricingVersion := pricingVersion }
  routeSnapshots := samplePlan.routeSnapshots
  unknownCostPolicy := .deny

def sampleParts : DraftParts where
  generationPlanId := samplePlan.generationPlanId
  idempotencyKey := samplePlan.idempotencyKey
  normalizedQuery := samplePlan.normalizedQuery
  normalizerVersion := samplePlan.normalizerVersion
  planHash := samplePlan.planHash
  queryContract := samplePlan.queryContract
  queryHash := samplePlan.queryHash
  requestIntentHash := samplePlan.requestIntentHash
  routeSnapshots := samplePlan.routeSnapshots
  schemaHash := samplePlan.schemaHash
  workspaceId := samplePlan.workspaceId

/-- A pricing version that is longer than the kernel admits. -/
def longPricingVersion : String :=
  String.ofList (List.replicate 256 '9')

private theorem samplePlan_authority : AuthorityIsValid samplePlan.authority :=
  ⟨by with_unfolding_all decide, by with_unfolding_all decide⟩

/-- Coverage does not read the quote. -/
theorem samplePlanning_covers (pricingVersion : String) :
    snapshotCoversRequest samplePlan.requestIntent (samplePlanningSnapshot pricingVersion) =
      true := by
  have covered : snapshotCoversRequest samplePlan.requestIntent
      (samplePlanningSnapshot "1.0.0") = true := by with_unfolding_all decide
  exact covered

/-- The preflight reads of the quote's pricing version only whether it is blank. -/
theorem denialReasons_pricingVersion (facts : NormalizedSourcingBudgetPreflightFacts)
    {pricingVersion : String}
    (same : nonBlank pricingVersion = nonBlank facts.quote.pricingVersion) :
    denialReasons { facts with quote := { facts.quote with pricingVersion := pricingVersion } } =
      denialReasons facts := by
  have quoted : (evaluateQuote
    { facts with quote := { facts.quote with pricingVersion := pricingVersion } }
      (budgetRemaining facts.budget)).reasonCodes =
        (evaluateQuote facts (budgetRemaining facts.budget)).reasonCodes := by
    unfold evaluateQuote validatedQuote
    simp only [same]
    rcases quoteGuarantee facts.quote.guarantee with _ | guarantee
    · rfl
    rcases facts.quote.expiresAt.instant? with _ | expiresAt
    · rfl
    dsimp only
    split_ifs
    · cases guarantee <;> rfl
    · rfl
  exact congrArg ((readLimits facts.limits).1 ++ deadlineReasons facts ++
    Foundation.reportedWhen (budgetRemaining facts.budget).isNone .budgetInvalid ++ ·) quoted

private theorem samplePlanning_clear {pricingVersion : String}
    (shown : nonBlank pricingVersion = true) :
    denialReasons (plannedFacts samplePlan.requestIntent.limits
      (samplePlanningSnapshot pricingVersion) 10) = [] := by
  have clear : denialReasons (plannedFacts samplePlan.requestIntent.limits
      (samplePlanningSnapshot "1.0.0") 10) = [] := by with_unfolding_all decide
  have known : nonBlank "1.0.0" = true := by decide
  exact (denialReasons_pricingVersion (plannedFacts samplePlan.requestIntent.limits
    (samplePlanningSnapshot "1.0.0") 10) (shown.trans known.symm)).trans clear

private theorem samplePlanning_allowed {pricingVersion : String}
    (clear : denialReasons (plannedFacts samplePlan.requestIntent.limits
      (samplePlanningSnapshot pricingVersion) 10) = []) :
    ∃ decision approved, evaluateSourcingBudgetPreflight (preflightFacts
        samplePlan.requestIntent.limits (samplePlanningSnapshot pricingVersion) 10) = .ok decision ∧
      decision.allowed = true ∧ decision.snapshot = some approved := by
  obtain ⟨decision, decided, clearIff, _, parts⟩ := evaluateSafe_decides
    (plannedFacts samplePlan.requestIntent.limits (samplePlanningSnapshot pricingVersion) 10)
  have allowed := clearIff.mpr clear
  obtain ⟨_, _, approved, given, _⟩ := parts allowed
  rw [evaluate_readable (normalizeFacts_preflightFacts _ _ _)]
  exact ⟨decision, approved, decided, allowed, given⟩

/-- A quote under a pricing version of 256 characters is covered and allowed, and its budget is
refused. -/
theorem allowedPreflight_refusedByPlan :
    ¬ ∀ (intent : DatasetGenerationRequestIntent) (snapshot : DatasetGenerationPlanningSnapshot)
      (now : Instant) (parts : DraftParts) (decision : SourcingBudgetPreflightDecision)
      (approved : SourcingBudgetPreflightSnapshot),
      snapshotCoversRequest intent snapshot = true → AuthorityIsValid snapshot.authority →
      evaluateSourcingBudgetPreflight (preflightFacts intent.limits snapshot now) =
        .ok decision →
      decision.allowed = true → decision.snapshot = some approved →
      budgetSnapshotIsValid (draftPlan intent snapshot approved parts) = true := by
  intro constructible
  have characters : longPricingVersion.toList = List.replicate 256 '9' := String.toList_ofList
  have shown : nonBlank longPricingVersion = true :=
    nonBlank_iff.mpr ⟨'9', characters ▸ List.mem_replicate.mpr ⟨by decide, rfl⟩, by decide⟩
  have covers := samplePlanning_covers longPricingVersion
  obtain ⟨decision, approved, decided, allowed, given⟩ :=
    samplePlanning_allowed (samplePlanning_clear shown)
  have valid := constructible _ _ 10 sampleParts decision approved covers samplePlan_authority
    decided allowed given
  have bounded := (draftBudget_iff covers samplePlan_authority
    (approvalHolds decided allowed given)).mp valid
  have short : codePointLength longPricingVersion ≤ 255 :=
    (boundedText_iff.mp bounded.pricingVersion).2
  rw [codePointLength, characters, List.length_replicate] at short
  omega

/-- The sample request is planned. -/
theorem allowedPreflight_isConstructible_sample :
    ∃ decision approved, evaluateSourcingBudgetPreflight (preflightFacts
        samplePlan.requestIntent.limits (samplePlanningSnapshot "1.0.0") 10) = .ok decision ∧
      decision.snapshot = some approved ∧
      budgetSnapshotIsValid (draftPlan samplePlan.requestIntent (samplePlanningSnapshot "1.0.0")
        approved sampleParts) = true := by
  have shown : nonBlank "1.0.0" = true := by decide
  obtain ⟨decision, approved, decided, allowed, given⟩ :=
    samplePlanning_allowed (samplePlanning_clear shown)
  refine ⟨decision, approved, decided, given, ?_⟩
  exact (allowedPreflight_isConstructible_iff _ _ 10 sampleParts decision approved
    (samplePlanning_covers "1.0.0") samplePlan_authority decided allowed given).mpr
      ⟨by decide, by decide, by decide⟩

end Kurobara.Application.PlanDatasetGeneration
