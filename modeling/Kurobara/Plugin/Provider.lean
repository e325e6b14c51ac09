import Kurobara.Application.ExecuteLeafAttempt

/-! # Plugin adapters

The calls that the SDK makes to a trusted plugin adapter and what it makes of the
replies. A plugin may reply anything, throw, or reply too late. The protocol
validator is a parameter: it turns a reply that it accepts into the payload of the
message, and a payload is well formed by its type.
-/

namespace Kurobara.Plugin

open Application Foundation Kernel Persistence

/-! ## Messages -/

inductive PluginReasonCode where
  | authenticationFailed
  | authorizationFailed
  | configurationInvalid
  | inputInvalid
  | rateLimited
  | quotaExhausted
  | deadlineExceeded
  | transportFailed
  | providerUnavailable
  | providerRejected
  | providerResponseInvalid
  | adapterFault
  | unclassified
  deriving DecidableEq, Repr

def PluginReasonCode.text : PluginReasonCode → String
  | .authenticationFailed => "authentication-failed"
  | .authorizationFailed => "authorization-failed"
  | .configurationInvalid => "configuration-invalid"
  | .inputInvalid => "input-invalid"
  | .rateLimited => "rate-limited"
  | .quotaExhausted => "quota-exhausted"
  | .deadlineExceeded => "deadline-exceeded"
  | .transportFailed => "transport-failed"
  | .providerUnavailable => "provider-unavailable"
  | .providerRejected => "provider-rejected"
  | .providerResponseInvalid => "provider-response-invalid"
  | .adapterFault => "adapter-fault"
  | .unclassified => "unclassified"

/-- The usage of an effect. Only an exact or estimated usage has an amount. -/
inductive PluginUsage where
  | exact (amount : Amount) (unit : String)
  | estimated (amount : Amount) (unit : String)
  | unavailable (unit : String)
  deriving DecidableEq, Repr

def PluginUsage.unit : PluginUsage → String
  | .exact _ unit | .estimated _ unit | .unavailable unit => unit

/-- A final outcome; the payload of a success is not yet normalized. -/
inductive PluginFinalOutcome (Reply : Type) where
  | succeeded (providerPayload : Reply) (externalOperationReference : Option String)
      (usage : PluginUsage)
  | failed (error : PluginReasonCode) (usage : PluginUsage)
  deriving DecidableEq, Repr

def PluginFinalOutcome.usage {Reply : Type} : PluginFinalOutcome Reply → PluginUsage
  | .succeeded _ _ usage | .failed _ usage => usage

/-- What `execute` of a plugin answers. -/
inductive PluginExecuteResult (Reply : Type) where
  | final (outcome : PluginFinalOutcome Reply)
  | outcomeUnknown (error : PluginReasonCode) (externalOperationReference : Option String)
  deriving DecidableEq, Repr

/-- What `lookup` of a plugin answers. -/
inductive PluginLookupResult (Reply : Type) where
  | found (outcome : PluginFinalOutcome Reply)
  | eventualNotFound
  | authoritativeAbsent
  | outcomeUnknown (error : PluginReasonCode)
  deriving DecidableEq, Repr

/-- What a plugin quotes. -/
structure PluginQuote where
  guarantee : QuoteGuarantee
  upperBound : Option Amount
  unit : String
  pricingVersion : String
  expiresAtMs : ℤ
  deriving DecidableEq, Repr

inductive PluginEstimateResult where
  | quoted (quote : PluginQuote)
  | unavailable (error : PluginReasonCode)
  deriving DecidableEq, Repr

inductive PluginNormalizeResult (Reply : Type) where
  | normalized (output : Reply)
  | failed (error : PluginReasonCode)
  deriving DecidableEq, Repr

structure PluginConfiguration (Value : Type) where
  contentHash : ContentHash
  value : Value
  deriving DecidableEq, Repr

/-- What every call of a plugin is given. -/
structure PluginContext (Value : Type) where
  capability : CapabilityRef
  configuration : PluginConfiguration Value
  deadlineAtMs : ℤ
  deriving DecidableEq, Repr

/-- The request of `execute`. -/
structure PluginExecuteRequest (Value : Type) where
  context : PluginContext Value
  costLimitAmount : Amount
  costLimitUnit : String
  input : ValidatedRunInput Value
  operationKey : OperationKey
  quote : PluginQuote
  deriving DecidableEq, Repr

/-- A call of an adapter method. -/
inductive PluginCall (Reply Value : Type) where
  | estimate (context : PluginContext Value) (input : ValidatedRunInput Value)
  | execute (request : PluginExecuteRequest Value)
  | lookup (context : PluginContext Value) (operationKey : OperationKey)
  | normalize (context : PluginContext Value) (operationKey : OperationKey)
      (outputContract : ContractRef) (providerPayload : Reply)
  deriving DecidableEq, Repr

/-! ## Manifests -/

inductive PluginLookupMode where
  | byOperationKey
  | byExternalOperationId
  | none
  deriving DecidableEq, Repr

structure PluginCapability where
  capability : CapabilityRef
  inputContract : ContractRef
  outputContract : ContractRef
  deriving DecidableEq, Repr

inductive PluginUsageReporting where
  | exact
  | estimated
  | unavailable
  deriving DecidableEq, Repr

/-- What a plugin says of itself. -/
structure PluginManifest where
  capabilities : List PluginCapability
  estimateGuarantee : QuoteGuarantee
  usageReporting : PluginUsageReporting
  unit : String
  lookupMode : PluginLookupMode
  authoritativeNotFound : Bool
  executeTimeoutMs : ℤ
  lookupTimeoutMs : ℤ
  deriving DecidableEq, Repr

/-- `validatePluginProtocolMessage` for the messages of these methods, the reference
that `qualifiedExternalOperationReference` reads from an arbitrary reply, and
`validatePluginJson`. -/
structure PluginProtocol (Reply Value : Type) where
  acceptsCall : PluginCall Reply Value → Bool
  estimateResult : Reply → Option PluginEstimateResult
  executeResult : Reply → Option (PluginExecuteResult Reply)
  lookupResult : Reply → Option (PluginLookupResult Reply)
  normalizeResult : Reply → Option (PluginNormalizeResult Reply)
  externalOperationReference : Reply → Option String
  json : Reply → Option Value

/-! ## Calls -/

/-- How a call ends for a caller that waits until a deadline. -/
inductive Settled (Value : Type) where
  | returned (value : Value)
  | threw
  | late
  deriving DecidableEq, Repr

/-- What an adapter asks of its surroundings. -/
inductive PluginOperation (Reply Value : Type) where
  | clock
  | deadlineAtMs (request : LeafEffectRequest Value)
  | beforeExecute (request : LeafEffectRequest Value)
  | invoke (call : PluginCall Reply Value)

/-- The type of the answer to an operation. -/
def PluginOperation.Answer {Reply Value : Type} : PluginOperation Reply Value → Type
  | .clock => ℤ
  | .deadlineAtMs _ => Option ℤ
  | .beforeExecute _ => Settled (Option (LeafEffectFinalOutcome Value))
  | .invoke _ => Settled Reply

/-- The plugin and the clock, as the adapter calls them. -/
def pluginInterface (Reply Value : Type) : Interface :=
  ⟨PluginOperation Reply Value, PluginOperation.Answer⟩

/-- A program that calls the plugin. -/
abbrev PluginProgram (Reply Value Result : Type) := Program (pluginInterface Reply Value) Result

variable {Reply Value : Type}

def ask (operation : PluginOperation Reply Value) :
    PluginProgram Reply Value operation.Answer :=
  @Program.call (pluginInterface Reply Value) operation

/-! ## The SDK around an adapter -/

section

variable (protocol : PluginProtocol Reply Value) (manifest : PluginManifest)

def executeOutcomeUnknown : PluginExecuteResult Reply :=
  .outcomeUnknown .adapterFault none

def lookupOutcomeUnknown : PluginLookupResult Reply :=
  .outcomeUnknown .adapterFault

/-- An unusable reply keeps at most its external reference. -/
def ambiguousExecuteResult (reply : Reply) : PluginExecuteResult Reply :=
  .outcomeUnknown .adapterFault (protocol.externalOperationReference reply)

/-- The capability of the manifest. -/
def capabilityFor (capability : CapabilityRef) : Option PluginCapability :=
  manifest.capabilities.find? fun candidate => candidate.capability == capability

private def inputIsBound (capability : CapabilityRef) (input : ValidatedRunInput Value) : Bool :=
  (capabilityFor manifest capability).any fun known => known.inputContract == input.contract

private def executeAuthorityIsValid (request : PluginExecuteRequest Value) : Bool :=
  inputIsBound manifest request.context.capability request.input &&
    request.quote.unit == request.costLimitUnit && request.quote.unit == manifest.unit &&
    request.quote.guarantee == manifest.estimateGuarantee &&
    request.quote.upperBound.all fun bound => decide (bound ≤ request.costLimitAmount)

private def lookupAuthorityIsValid (context : PluginContext Value) : Bool :=
  (capabilityFor manifest context.capability).isSome &&
    manifest.lookupMode != .byExternalOperationId

/-- The result of a reply to `execute`: an invalid message, or a usage in another unit
than the cost limit, leaves the outcome unknown. -/
def acceptedExecuteResult (unit : String) (reply : Reply) : PluginExecuteResult Reply :=
  match protocol.executeResult reply with
  | none => ambiguousExecuteResult protocol reply
  | some (.outcomeUnknown error reference) => .outcomeUnknown error reference
  | some (.final outcome) =>
      if outcome.usage.unit != unit then
        .outcomeUnknown .adapterFault
          (match outcome with
            | .succeeded _ reference _ => reference
            | .failed .. => none)
      else .final outcome

/-- The bridge sends no external reference with a lookup. -/
def lookupResultMatchesManifest : PluginLookupResult Reply → Bool
  | .authoritativeAbsent => manifest.authoritativeNotFound
  | .found outcome =>
      outcome.usage.unit == manifest.unit &&
        (manifest.lookupMode != .byExternalOperationId ||
          match outcome with
          | .succeeded _ reference _ => reference.isNone
          | .failed .. => false)
  | _ => true

def acceptedLookupResult (reply : Reply) : PluginLookupResult Reply :=
  match protocol.lookupResult reply with
  | none => lookupOutcomeUnknown
  | some result =>
      if lookupResultMatchesManifest manifest result then result else lookupOutcomeUnknown

/-- `estimate` of the SDK around the plugin. -/
def sdkEstimate (context : PluginContext Value) (input : ValidatedRunInput Value) :
    PluginProgram Reply Value (Settled PluginEstimateResult) := do
  if !protocol.acceptsCall (.estimate context input) ||
      !inputIsBound manifest context.capability input then
    pure .threw
  else
    match ← ask (.invoke (.estimate context input)) with
    | .late => pure .late
    | .threw => pure .threw
    | .returned reply =>
        match protocol.estimateResult reply with
        | none => pure .threw
        | some (.quoted quote) =>
            if quote.unit != manifest.unit || quote.guarantee != manifest.estimateGuarantee then
              pure .threw
            else pure (.returned (.quoted quote))
        | some result => pure (.returned result)

/-- `execute` of the SDK around the plugin. -/
def sdkExecute (request : PluginExecuteRequest Value) :
    PluginProgram Reply Value (Settled (PluginExecuteResult Reply)) := do
  if !protocol.acceptsCall (.execute request) || !executeAuthorityIsValid manifest request then
    pure .threw
  else
    match ← ask (.invoke (.execute request)) with
    | .late => pure .late
    | .threw => pure (.returned executeOutcomeUnknown)
    | .returned reply =>
        pure (.returned (acceptedExecuteResult protocol request.costLimitUnit reply))

/-- `lookup` of the SDK around the plugin. -/
def sdkLookup (context : PluginContext Value) (operationKey : OperationKey) :
    PluginProgram Reply Value (Settled (PluginLookupResult Reply)) := do
  if !protocol.acceptsCall (.lookup context operationKey) ||
      !lookupAuthorityIsValid manifest context then
    pure .threw
  else if manifest.lookupMode == .none then
    pure (.returned lookupOutcomeUnknown)
  else
    match ← ask (.invoke (.lookup context operationKey)) with
    | .late => pure .late
    | .threw => pure (.returned lookupOutcomeUnknown)
    | .returned reply => pure (.returned (acceptedLookupResult protocol manifest reply))

private def normalizeAuthorityIsValid (context : PluginContext Value)
    (outputContract : ContractRef) :
    Bool :=
  (capabilityFor manifest context.capability).any fun known =>
    known.outputContract == outputContract

/-- `normalize` of the SDK around the plugin. -/
def sdkNormalize (context : PluginContext Value) (operationKey : OperationKey)
    (outputContract : ContractRef) (providerPayload : Reply) :
    PluginProgram Reply Value (Settled (PluginNormalizeResult Reply)) := do
  if !protocol.acceptsCall (.normalize context operationKey outputContract providerPayload) ||
      !normalizeAuthorityIsValid manifest context outputContract then
    pure .threw
  else
    match ← ask (.invoke (.normalize context operationKey outputContract providerPayload)) with
    | .late => pure .late
    | .threw => pure .threw
    | .returned reply =>
        match protocol.normalizeResult reply with
        | none => pure .threw
        | some result => pure (.returned result)

end

end Kurobara.Plugin
