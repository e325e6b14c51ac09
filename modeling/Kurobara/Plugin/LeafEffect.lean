import Kurobara.Plugin.Provider

/-! # Plugins as leaf effects

The bridge from a trusted plugin adapter to the leaf effect port. Before `execute` is
called every failure is definite and releases the reservation; afterwards only a
usable reply is, and everything else leaves the outcome unknown.
-/

namespace Kurobara.Plugin

open Application Foundation Kernel Persistence

variable {Reply Value : Type}

/-! ## Deadlines -/

/-- How a call under a deadline ended. -/
inductive DeadlineCall (Value : Type) where
  | completed (value : Value)
  | deadlineExceeded
  | rejected
  deriving DecidableEq, Repr

def DeadlineCall.ofSettled {Answer : Type} : Settled Answer → DeadlineCall Answer
  | .returned value => .completed value
  | .threw => .rejected
  | .late => .deadlineExceeded

def callWithinDeadline {Answer : Type} (operation : PluginProgram Reply Value (Settled Answer))
    (deadlineAtMs : ℤ) : PluginProgram Reply Value (DeadlineCall Answer) := do
  let now : ℤ ← ask .clock
  if decide (deadlineAtMs - now ≤ 0) then pure .deadlineExceeded
  else
    let settled ← operation
    pure (.ofSettled settled)

def validClockReading (value : ℤ) : Bool :=
  isSafeInteger value && decide (0 ≤ value)

/-! ## Settlements -/

def requestUnit : String := "requests"
def maxRequestsPerEffect : Amount := 1

def fixedFailure {Output : Type} (reason : String) (retryable : Bool)
    (settlement : StepCostSettlement := .release) : LeafEffectFinalOutcome Output :=
  .failed reason retryable settlement

def retryableError : PluginReasonCode → Bool
  | .rateLimited | .transportFailed | .providerUnavailable => true
  | _ => false

def pluginFailure {Output : Type} (error : PluginReasonCode)
    (settlement : StepCostSettlement := .release) : LeafEffectFinalOutcome Output :=
  fixedFailure ("plugin-" ++ error.text) (retryableError error) settlement

def stableUsageEntryId (adapterKey : String) (request : LeafEffectRequest Value) : UsageEntryId :=
  s!"usage:plugin:{adapterKey}:{request.attemptId}"

def stableProofId (adapterKey : String) (request : LeafEffectRequest Value) : String :=
  s!"proof:plugin:{adapterKey}:{request.attemptId}"

/-- Only an exact usage in the request unit and within the reservation settles, and
only a usage that is reported as unavailable releases. -/
def settlementFor (adapterKey : String) (request : LeafEffectRequest Value) :
    PluginUsage → Option StepCostSettlement
  | .unavailable _ => some .release
  | .estimated .. => none
  | .exact amount unit =>
      if unit != requestUnit || !isAmount amount || decide (request.reservedAmount < amount) ||
          decide (maxRequestsPerEffect < amount) then none
      else some (.settle ⟨amount, requestUnit, stableUsageEntryId adapterKey request⟩)

/-- What a success settles, by the usage that the plugin reports. -/
def successSettlementFor (adapterKey : String) (request : LeafEffectRequest Value)
    (usage : PluginUsage) : Option StepUsage :=
  match settlementFor adapterKey request usage with
  | some (.settle settlement) => some settlement
  | _ => none

/-! ## The bridge -/

inductive PluginLeafEffectConfigurationReason where
  | adapterKeyInvalid
  | capabilityContractMismatch
  | manifestEconomicsUnsupported
  | manifestLookupUnsupported
  deriving DecidableEq, Repr

def validateFactoryBinding (manifest : PluginManifest) (adapterKey : String)
    (capability : CapabilityRef) (inputContract outputContract : ContractRef) :
    Option PluginLeafEffectConfigurationReason :=
  if adapterKey.isEmpty || trim adapterKey != adapterKey.toList then some .adapterKeyInvalid
  else if !(capabilityFor manifest capability).any fun known =>
      known.inputContract == inputContract && known.outputContract == outputContract then
    some .capabilityContractMismatch
  else if manifest.unit != requestUnit || manifest.estimateGuarantee != .hard ||
      manifest.usageReporting != .exact then
    some .manifestEconomicsUnsupported
  else if manifest.lookupMode == .byExternalOperationId then some .manifestLookupUnsupported
  else none

/-- A leaf effect that the factory accepts, with the manifest of its adapter. -/
structure TrustedPluginLeafEffect (Reply Value : Type) where
  protocol : PluginProtocol Reply Value
  manifest : PluginManifest
  adapterKey : String
  hasBeforeExecute : Bool
  capability : CapabilityRef
  configuration : PluginConfiguration Value
  inputContract : ContractRef
  outputContract : ContractRef
  accepted : validateFactoryBinding manifest adapterKey capability inputContract outputContract =
    none

def requestFailure (request : LeafEffectRequest Value) : Option String :=
  if request.reservationUnit != requestUnit || !isAmount request.reservedAmount ||
      decide (maxRequestsPerEffect < request.reservedAmount) then
    some "plugin-budget-invalid"
  else if request.runInput.isNone then some "plugin-run-input-missing"
  else none

/-- `quoteIsAuthorized`: hard, in force, one request in unit and within the reserved amount. -/
def quoteIsAuthorized (quote : PluginQuote) (request : LeafEffectRequest Value)
    (context : PluginContext Value) (now : ℤ) : Bool :=
  quote.guarantee == .hard && quote.unit == requestUnit &&
    (quote.upperBound.any fun bound => isAmount bound && decide (bound ≤ request.reservedAmount) &&
      decide (bound ≤ maxRequestsPerEffect)) &&
    decide (now < quote.expiresAtMs) && decide (quote.expiresAtMs ≤ context.deadlineAtMs)

section

variable (effect : TrustedPluginLeafEffect Reply Value)

/-- The context of a plugin call, where the clock and the deadline give one. -/
def contextFor (request : LeafEffectRequest Value) (timeoutMs : ℤ) :
    PluginProgram Reply Value (Option (PluginContext Value)) := do
  let now : ℤ ← ask .clock
  match ← ask (.deadlineAtMs request) with
  | none => pure none
  | some requestedDeadline =>
      if !(validClockReading now && validClockReading requestedDeadline) ||
          decide (requestedDeadline ≤ now) then
        pure none
      else
        pure (some ⟨effect.capability, effect.configuration,
          min requestedDeadline (now + timeoutMs)⟩)

/-- The normalized output of a success. -/
def normalizeSucceeded (context : PluginContext Value) (operationKey : OperationKey)
    (providerPayload : Reply) : PluginProgram Reply Value (Option Value) := do
  match ← callWithinDeadline (sdkNormalize effect.protocol effect.manifest context operationKey
      effect.outputContract providerPayload) context.deadlineAtMs with
  | .completed (.normalized output) => pure (effect.protocol.json output)
  | _ => pure none

/-- `mapExecuteFinalOutcome` and `mapLookupFoundOutcome`: a final outcome that cannot be
settled has no leaf outcome, only the name of what is wrong with it. -/
def mapFinalOutcome (context : PluginContext Value) (request : LeafEffectRequest Value)
    (outcome : PluginFinalOutcome Reply) :
    PluginProgram Reply Value (Except String (LeafEffectFinalOutcome Value)) := do
  match settlementFor effect.adapterKey request outcome.usage with
  | none => pure (.error "plugin-usage-incoherent")
  | some settlement =>
      match outcome with
      | .failed error _ => pure (.ok (pluginFailure error settlement))
      | .succeeded providerPayload _ usage =>
          match successSettlementFor effect.adapterKey request usage with
          | none => pure (.error "plugin-success-usage-unavailable")
          | some successSettlement =>
              match ← normalizeSucceeded effect context request.operationKey providerPayload with
              | some output => pure (.ok (.succeeded output successSettlement))
              | none =>
                  pure (.ok (fixedFailure "plugin-output-invalid" false
                    (.settle successSettlement)))

/-- What the bridge decides before `execute` is called. -/
inductive ExecutionAuthorization (Value : Type) where
  | refused (outcome : LeafEffectFinalOutcome Value)
  | authorized (context : PluginContext Value) (input : ValidatedRunInput Value)
      (quote : PluginQuote)

private def authorizeQuote (request : LeafEffectRequest Value) (context : PluginContext Value)
    (input : ValidatedRunInput Value) (quote : PluginQuote) :
    PluginProgram Reply Value (ExecutionAuthorization Value) := do
  let now : ℤ ← ask .clock
  if !quoteIsAuthorized quote request context now then
    pure (.refused (fixedFailure "plugin-quote-incoherent" false))
  else if !effect.hasBeforeExecute then pure (.authorized context input quote)
  else
    match ← callWithinDeadline (ask (.beforeExecute request)) context.deadlineAtMs with
    | .completed none => pure (.authorized context input quote)
    | .completed (some outcome) => pure (.refused outcome)
    | _ => pure (.refused (fixedFailure "plugin-effect-authorization-failed" false))

/-- `authorizeExecution`: the request, the run input and the estimate, each of which may refuse. -/
def authorizeExecution (request : LeafEffectRequest Value) :
    PluginProgram Reply Value (ExecutionAuthorization Value) := do
  match requestFailure request, request.runInput with
  | some reason, _ => pure (.refused (fixedFailure reason false))
  | none, none => pure (.refused (fixedFailure "plugin-run-input-missing" false))
  | none, some input =>
      if input.contract != effect.inputContract then
        pure (.refused (fixedFailure "plugin-input-contract-mismatch" false))
      else
        match ← contextFor effect request effect.manifest.executeTimeoutMs with
        | none => pure (.refused (fixedFailure "plugin-deadline-invalid" false))
        | some context =>
            match ← callWithinDeadline (sdkEstimate effect.protocol effect.manifest context input)
                context.deadlineAtMs with
            | .deadlineExceeded =>
                pure (.refused (fixedFailure "plugin-estimate-deadline-exceeded" false))
            | .rejected => pure (.refused (fixedFailure "plugin-estimate-failed" true))
            | .completed (.unavailable error) => pure (.refused (pluginFailure error))
            | .completed (.quoted quote) => authorizeQuote effect request context input quote

private def executeRequest (request : LeafEffectRequest Value) (context : PluginContext Value)
    (input : ValidatedRunInput Value) (quote : PluginQuote) : PluginExecuteRequest Value where
  context := context
  costLimitAmount := request.reservedAmount
  costLimitUnit := requestUnit
  input := input
  operationKey := request.operationKey
  quote := quote

/-- What the bridge makes of the end of an `execute` call. -/
def concludeExecution (request : LeafEffectRequest Value) (context : PluginContext Value) :
    DeadlineCall (PluginExecuteResult Reply) →
      PluginProgram Reply Value (ExecuteLeafEffectOutcome Value)
  | .completed (.final outcome) => do
      match ← mapFinalOutcome effect context request outcome with
      | .ok outcome => pure (.final outcome)
      | .error reason => pure (.outcomeUnknown reason)
  | _ => pure (.outcomeUnknown "plugin-execution-outcome-unknown")

/-- `execute` of the adapter. -/
def executeWithPlugin (request : LeafEffectRequest Value) :
    PluginProgram Reply Value (ExecuteLeafEffectOutcome Value) := do
  match ← authorizeExecution effect request with
  | .refused outcome => pure (.final outcome)
  | .authorized context input quote =>
      let execution ← callWithinDeadline
        (sdkExecute effect.protocol effect.manifest (executeRequest request context input quote))
        context.deadlineAtMs
      concludeExecution effect request context execution

/-- What the bridge makes of the end of a `lookup` call. -/
def concludeLookup (request : LeafEffectRequest Value) (context : PluginContext Value) :
    DeadlineCall (PluginLookupResult Reply) →
      PluginProgram Reply Value (LookupLeafEffectOutcome Value)
  | .completed (.found outcome) => do
      match ← mapFinalOutcome effect context request outcome with
      | .ok outcome => pure (.found outcome (stableProofId effect.adapterKey request))
      | .error _ => pure (.outcomeUnknown "plugin-lookup-incoherent")
  | .completed .eventualNotFound | .completed .authoritativeAbsent =>
      pure (.notFound (stableProofId effect.adapterKey request))
  | _ => pure (.outcomeUnknown "plugin-lookup-outcome-unknown")

/-- `lookup` of the adapter. -/
def lookupWithPlugin (request : LeafEffectRequest Value) :
    PluginProgram Reply Value (LookupLeafEffectOutcome Value) := do
  match requestFailure request with
  | some reason => pure (.outcomeUnknown reason)
  | none =>
      match ← contextFor effect request effect.manifest.lookupTimeoutMs with
      | none => pure (.outcomeUnknown "plugin-deadline-invalid")
      | some context =>
          let lookup ← callWithinDeadline
            (sdkLookup effect.protocol effect.manifest context request.operationKey)
            context.deadlineAtMs
          concludeLookup effect request context lookup

end

/-! ## A sample plugin -/

/-- A protocol over reply texts: it accepts one quote, one paid success and one output. -/
def sampleProtocol : PluginProtocol String String where
  acceptsCall _ := true
  estimateResult reply :=
    if reply == "quote" then some (.quoted ⟨.hard, some 1, requestUnit, "1.0.0", 50⟩) else none
  executeResult reply :=
    if reply == "paid" then some (.final (.succeeded "payload" none (.exact 1 requestUnit)))
    else none
  lookupResult _ := none
  normalizeResult reply := if reply == "output" then some (.normalized "value") else none
  externalOperationReference _ := none
  json := some

def samplePlugin : TrustedPluginLeafEffect String String where
  protocol := sampleProtocol
  manifest := {
    capabilities := [⟨⟨"organizations.discover", "1.0.0"⟩, sampleContract, sampleContract⟩]
    estimateGuarantee := .hard
    usageReporting := .exact
    unit := requestUnit
    lookupMode := .byOperationKey
    authoritativeNotFound := false
    executeTimeoutMs := 40
    lookupTimeoutMs := 40 }
  adapterKey := "plugin"
  hasBeforeExecute := false
  capability := ⟨"organizations.discover", "1.0.0"⟩
  configuration := ⟨sampleHash, "configuration"⟩
  inputContract := sampleContract
  outputContract := sampleContract
  accepted := by decide

def sampleLeafRequest : LeafEffectRequest String where
  attemptId := "attempt-1"
  operationKey := "operation-1"
  reservedAmount := 1
  reservationUnit := requestUnit
  routeSnapshotHash := sampleHash
  routingDecisionId := "decision-1"
  runId := "run-1"
  runInput := some {
    classification := "internal"
    contentHash := sampleHash
    contract := sampleContract
    finalizedAt := 0
    inputId := "input-1"
    mediaType := "application/json"
    sizeBytes := 5
    validatedAt := 0
    validatorVersion := "1.0.0"
    value := "input" }
  stepRunId := "step-1"
  workspaceId := "workspace-1"

/-- A plugin that quotes, charges one request and normalizes, all in time. -/
def sampleAnswers : (operation : PluginOperation String String) → operation.Answer
  | .clock => (20 : ℤ)
  | .deadlineAtMs _ => some 100
  | .beforeExecute _ => .returned none
  | .invoke (.estimate ..) => .returned "quote"
  | .invoke (.execute _) => .returned "paid"
  | .invoke (.lookup ..) => .threw
  | .invoke (.normalize ..) => .returned "output"

/-- The exchanges and the outcome of the sample execution. -/
def sampleExecution : List (Exchange (pluginInterface String String)) ×
    ExecuteLeafEffectOutcome String :=
  (executeWithPlugin samplePlugin sampleLeafRequest).answeredBy sampleAnswers

end Kurobara.Plugin
