import Kurobara.Persistence.GtmRows
import Kurobara.Application.VerifiedApiKey
import Kurobara.Kernel.CodeUnits
import Mathlib.Data.List.Sort

/-! # GTM Plays

A Play definition is validated and compiled into stages, permissions and human gates; its
preview fingerprint is the content hash of both. The questionnaire enters only through the
questions that a context document leaves blocking.
-/

namespace Kurobara.Application

open Kurobara.Kernel Kurobara.Persistence

inductive GtmValidationIssueCode where
  | confirmationRequired
  | contextIncompatible
  | contextNotFound
  | permissionMissing
  | playInvalid
  | revisionConflict
  | workbookNotFound
deriving DecidableEq, Repr

structure GtmValidationIssue where
  code : GtmValidationIssueCode
  message : String
deriving DecidableEq, Repr

/-! ## Patterns -/

private def isAsciiLower (character : Char) : Bool :=
  'a' ≤ character && character ≤ 'z'

private def isAsciiUpper (character : Char) : Bool :=
  'A' ≤ character && character ≤ 'Z'

private def isAsciiDigit (character : Char) : Bool :=
  '0' ≤ character && character ≤ '9'

private def isAsciiAlphanumeric (character : Char) : Bool :=
  isAsciiLower character || isAsciiUpper character || isAsciiDigit character

/-- A first character and up to a number of later ones, each of its class. -/
def matchesPattern (first later : Char → Bool) (maximum : ℕ) (value : String) : Bool :=
  match value.toList with
  | [] => false
  | head :: tail => first head && decide (tail.length ≤ maximum) && tail.all later

/-- `/^[a-zA-Z0-9][a-zA-Z0-9._:-]{0,254}$/u`. -/
def identifierPattern : String → Bool :=
  matchesPattern isAsciiAlphanumeric
    (fun character => isAsciiAlphanumeric character || "._:-".toList.contains character) 254

/-- `/^[a-z][a-z0-9_]{0,127}$/u`. -/
def fieldKeyPattern : String → Bool :=
  matchesPattern isAsciiLower
    (fun character => isAsciiLower character || isAsciiDigit character || character == '_') 127

/-- `/^[A-Z]{2}$/u`. -/
def countryPattern (value : String) : Bool :=
  value.toList.length == 2 && value.toList.all isAsciiUpper

/-- `/^[a-z][a-z0-9._-]{0,63}$/u`. -/
def unitPattern : String → Bool :=
  matchesPattern isAsciiLower
    (fun character => isAsciiLower character || isAsciiDigit character ||
      "._-".toList.contains character) 63

private def includesText (value searched : String) : Bool :=
  value.toList.tails.any searched.toList.isPrefixOf

private def startsWithText (value start : String) : Bool :=
  start.toList.isPrefixOf value.toList

/-! ## Validation -/

/-- The capabilities that a Play may ask for. -/
def playCapabilities : List String :=
  ["contacts.discover", "contacts.identity.reveal", "contacts.work-email.resolve",
    "contacts.work-email.verify"]

def enrichmentOperations : List String :=
  ["contacts.identity.reveal", "contacts.work-email.resolve", "contacts.work-email.verify"]

/-- The enrichments that the requested capabilities imply: each work email needs a revealed
identity, and a verification needs a resolution. -/
def impliedCapabilities (capabilities : List String) : List String :=
  let revealed :=
    if capabilities.contains "contacts.work-email.resolve" ||
        capabilities.contains "contacts.work-email.verify" then
      capabilities ++ ["contacts.identity.reveal"]
    else capabilities
  if revealed.contains "contacts.work-email.verify" then
    revealed ++ ["contacts.work-email.resolve"]
  else revealed

/-- The enrichments of a Play, with those that they imply, in their fixed order. -/
def enrichmentOperationIds (definition : GtmPlayDefinition) : List String :=
  enrichmentOperations.filter (impliedCapabilities definition.capabilities).contains

def effectiveEnrichmentStageCount (definition : GtmPlayDefinition) : ℕ :=
  (enrichmentOperationIds definition).length

def isOrganizationSearch : GtmPlaySource → Bool
  | .organizationSearch _ _ _ => true
  | .importedDataset _ _ _ _ => false

/-- A call for the search, one for the contacts, and one for each contact and enrichment. -/
def requiredProviderCallsFor (definition : GtmPlayDefinition) : ℚ :=
  (if isOrganizationSearch definition.source then 1 else 0) + 1 +
    definition.preview.maxContactsTotal * effectiveEnrichmentStageCount definition

private def playBoundsIssue : GtmValidationIssue where
  code := .playInvalid
  message := "The Play violates an identity, authority, objective, capability, budget, " ++
    "deadline, no-send, provider-call, preview, or selection bound."

private def organizationCountriesIssue : GtmValidationIssue where
  code := .playInvalid
  message := "Organization search requires at least one canonical ISO-2 country."

private def importedDatasetIssue : GtmValidationIssue where
  code := .playInvalid
  message := "Imported dataset Plays require bounded dataset, materialization, and " ++
    "domain-field identities."

/-- The bounds of the definition itself; numbers are finite by type. -/
def violatesPlayBounds (definition : GtmPlayDefinition) : Bool :=
  let preview := definition.preview
  let requiredProviderCalls := requiredProviderCallsFor definition
  !(identifierPattern definition.playId &&
      identifierPattern definition.authorityEnvelopeId &&
      identifierPattern definition.contextRef.contextId &&
      contentHashIsValid definition.contextRef.fingerprint &&
      isSafeInteger definition.contextRef.revision) ||
    decide (definition.contextRef.revision < 1) ||
    !nonBlank definition.objective.text ||
    !nonBlank definition.objective.metric ||
    decide (definition.objective.target ≤ 0) ||
    decide (definition.budget.limit ≤ 0) ||
    !unitPattern definition.budget.unit ||
    !isSafeInteger definition.deadlineMs ||
    decide (definition.deadlineMs < 0) ||
    definition.capabilities.isEmpty ||
    decide (definition.capabilities.eraseDups.length ≠ definition.capabilities.length) ||
    definition.capabilities.any (fun capability => !playCapabilities.contains capability) ||
    decide (preview.sampleSize < 1) || decide (100 < preview.sampleSize) ||
    decide (preview.maxCompanies < 1) || decide (100 < preview.maxCompanies) ||
    decide (preview.maxContactsPerCompany < 1) || decide (10 < preview.maxContactsPerCompany) ||
    decide (preview.maxContactsTotal < 1) || decide (1000 < preview.maxContactsTotal) ||
    decide (preview.maxProviderCalls < 0) || decide (1000 < preview.maxProviderCalls) ||
    decide (preview.maxProviderCalls < requiredProviderCalls) ||
    (definition.budget.unit == "requests" &&
      decide (definition.budget.limit < requiredProviderCalls)) ||
    (decide (0 < effectiveEnrichmentStageCount definition) &&
      decide (3 < preview.maxContactsTotal)) ||
    decide (definition.selection.minimumScore < 0) ||
    decide (100 < definition.selection.minimumScore) ||
    decide (definition.selection.minimumScore ≠ 0) ||
    decide (0 < definition.selection.requiredSignals.length)

private def sourceIssues : GtmPlaySource → List GtmValidationIssue
  | .organizationSearch countries _ _ =>
      if countries.isEmpty || countries.any (fun country => !countryPattern country) then
        [organizationCountriesIssue]
      else []
  | .importedDataset datasetId _ fieldMapping materializationId =>
      if !(identifierPattern datasetId && identifierPattern materializationId &&
          fieldKeyPattern fieldMapping.domain) then
        [importedDatasetIssue]
      else []

/-- The issues of a definition; a Play without any is valid. -/
def validatePlayDefinition (definition : GtmPlayDefinition) : List GtmValidationIssue :=
  (if violatesPlayBounds definition then [playBoundsIssue] else []) ++
    sourceIssues definition.source

/-! ## Compilation -/

/-- What an actor needs for a capability. -/
def permissionsForCapability (capability : String) : List String :=
  if capability == "contacts.discover" then
    ["contacts:discover", "datasets:generate", "plans:quote"]
  else if capability == "contacts.identity.reveal" then
    ["contacts:enrich", "datasets:generate", "plans:quote", "steps:execute"]
  else if capability == "contacts.work-email.resolve" ||
      capability == "contacts.work-email.verify" then
    ["contacts:enrich", "datasets:generate", "plans:quote", "steps:execute"]
  else ["datasets:generate", "plans:quote"]

/-- What a content hash is taken of. -/
inductive PlayContent where
  | stageInput (contextRef : GtmContextRevisionRef) (operationId : String) (ordinal : ℕ)
      (playId : String) (source : GtmPlaySource)
  | definition (definition : GtmPlayDefinition)
  | preview (compilation : GtmPlayCompilation) (definition : GtmPlayDefinition)
deriving DecidableEq

def sourceOperation (definition : GtmPlayDefinition) : String :=
  if isOrganizationSearch definition.source then "organizations.discover"
  else "contacts.discover"

/-- The stages of a Play, in their order. -/
def operationIds (definition : GtmPlayDefinition) : List String :=
  [sourceOperation definition] ++
    (if isOrganizationSearch definition.source then ["contacts.discover"] else []) ++
    enrichmentOperationIds definition ++ ["workbooks.project"]

private def playPermissions (definition : GtmPlayDefinition) : List String :=
  ((if isOrganizationSearch definition.source then ["datasets:generate", "plans:quote"]
    else ["datasets:read"]) ++
    definition.capabilities.flatMap permissionsForCapability ++
    ["plays:execute", "workbooks:read", "workbooks:write"] ++
    (if definition.privateExport then ["contacts:export", "datasets:export"] else []))
  |>.eraseDups.insertionSort fun left right => textIsAtMost left right

private def playHumanGates (definition : GtmPlayDefinition) : List String :=
  (if 0 < definition.preview.maxProviderCalls then ["provider_spend"] else []) ++
    (if definition.capabilities.any fun capability =>
        capability == "contacts.identity.reveal" || includesText capability "work-email" then
      ["sensitive_data_reveal"]
    else []) ++
    (if definition.privateExport then ["private_export"] else [])

private def playAssumptions (definition : GtmPlayDefinition) : List String :=
  ["Provider routes are selected only from the admitted capability catalog at execution time.",
    if definition.budget.unit == "requests" then
      "The preview upper bound is the exact provider-request ceiling implied by the approved " ++
        "cardinality and capability chain."
    else
      "The preview upper bound is the human-approved budget cap because no provider-free " ++
        "conversion from requests to this unit is available; each execution stage records " ++
        "its admitted quote and settled cost.",
    if definition.broadening = .forbidden then "Audience broadening is forbidden."
    else "Audience broadening requires a new human approval."]

section Hashed

variable (canonicalContentHash : PlayContent → ContentHash)

def compiledStage (definition : GtmPlayDefinition) (operationId : String) (index : ℕ) :
    GtmCompiledStage where
  capability := if startsWithText operationId "contacts." then some operationId else none
  inputFingerprint := canonicalContentHash
    (.stageInput definition.contextRef operationId (index + 1) definition.playId definition.source)
  operationId := operationId
  ordinal := index + 1

/-- The plan of a Play: its stages, permissions and gates. -/
def compilePlay (definition : GtmPlayDefinition) : GtmPlayCompilation where
  assumptions := playAssumptions definition
  humanGates := playHumanGates definition
  permissions := playPermissions definition
  budget :=
    { limit := definition.budget.limit
      quotedUpperBound :=
        if definition.budget.unit == "requests" then requiredProviderCallsFor definition
        else definition.budget.limit
      unit := definition.budget.unit }
  deadlineMs := definition.deadlineMs
  intentionHash := canonicalContentHash (.definition definition)
  stages := (operationIds definition).mapIdx fun index operationId =>
    compiledStage canonicalContentHash definition operationId index

/-- The hash that an approval names. -/
def previewFingerprint (definition : GtmPlayDefinition) : ContentHash :=
  canonicalContentHash
    (.preview (compilePlay canonicalContentHash definition) definition)

end Hashed

/-- A person approved what the gate guards. -/
def playGateIsApproved (definition : GtmPlayDefinition) (gate : String) : Bool :=
  if gate == "provider_spend" then definition.approvals.providerSpend
  else if gate == "sensitive_data_reveal" then definition.approvals.reveal
  else if gate == "private_export" then definition.approvals.exportData
  else false

private def unspentCost (unit : String) : GtmPlayCost where
  reserved := 0
  spent := 0
  unit := unit

def initialStageReceipt (definition : GtmPlayDefinition) (stage : GtmCompiledStage) :
    GtmPlayRunStageReceipt where
  cost := unspentCost definition.budget.unit
  datasetId := none
  generationId := none
  materializationId := none
  operationId := stage.operationId
  ordinal := stage.ordinal
  providerCalls := 0
  recordCount := none
  state := .pending

/-- A run starts with every stage pending. -/
def initialPlayRunExecution (definition : GtmPlayDefinition) (compilation : GtmPlayCompilation) :
    GtmPlayRunExecution where
  cost := unspentCost definition.budget.unit
  currentStageOrdinal := none
  error := none
  providerCalls := 0
  provenance := []
  result := none
  selectedRecordIds := []
  selectionReasons := []
  stages := compilation.stages.map (initialStageReceipt definition)

/-! ## A Play -/

/-- An organization search for one contact of one company, within two credits. -/
def samplePlay : GtmPlayDefinition where
  approvals := { exportData := false, providerSpend := true, reveal := false }
  authorityEnvelopeId := "envelope-1"
  audience :=
    { companyCountries := ["FR"]
      departments := []
      personCountries := ["FR"]
      seniorities := ["director"]
      titles := [] }
  broadening := .forbidden
  budget := { limit := 2, unit := "credits" }
  capabilities := ["contacts.discover"]
  contextRef :=
    { contextId := "context-1"
      fingerprint := "sha256:8e8530b958004a64b338741829ed6b0444e736fa75d03ed41c3a084c0bea877f"
      revision := 1 }
  deadlineMs := 1800000000000
  privateExport := false
  exclusions := []
  objective := { metric := "meetings", target := 1, text := "Book meetings" }
  playId := "play-1"
  preview :=
    { maxCompanies := 1
      maxContactsPerCompany := 1
      maxContactsTotal := 1
      maxProviderCalls := 2
      sampleSize := 1 }
  selection := { minimumScore := 0, requiredSignals := [] }
  source := .organizationSearch ["FR"] ["software"] []
  stopConditions := []

/-- The content hashes of `samplePlay`. -/
def sampleContentHash : PlayContent → ContentHash
  | .stageInput _ operationId _ _ _ =>
      if operationId == "organizations.discover" then
        "sha256:685843aa34dd59392a6c5b725cd4ee45404a2b2ab72dad03d97b352ea5af4ec6"
      else if operationId == "contacts.discover" then
        "sha256:b8ce4e661d0d5ca6dfb2d29344a947f3b1c498b041f5b3cc166b553f453cab60"
      else "sha256:04aed61de0f97252ff2eb5e52a4d3ae37e903b02ff6c6adf263dbda92f454572"
  | .definition _ => "sha256:9aaffe2d99d4a3ca07302fb9f94f74df366606e7ed0ff69480d87f624f3914ba"
  | .preview _ _ => "sha256:76efb2bb7747cf4edb5da35bf128b71a903374d02341a3bf256b66c1094a83f3"

/-- An actor with every permission that the stages of a Play need. -/
def sampleActor : VerifiedApiKey where
  actorId := "actor-1"
  permissions := ["contacts:discover", "contacts:enrich", "datasets:generate", "datasets:read",
    "plans:quote", "plays:execute", "plays:write", "steps:execute", "workbooks:read",
    "workbooks:write"]
  workspaceId := "workspace-1"

end Kurobara.Application
