import Kurobara.Foundation.Fallible
import Kurobara.Kernel.CellResult
import Kurobara.Kernel.NormalizedJson
import Kurobara.Kernel.Run.Lifecycle
import Kurobara.Persistence.StepRows

/-! # Projection of a Run onto its recipe cell

`projectCellResult`: the cell result that the state of a recipe-cell Run determines. A
completed Run projects the envelope of its sink output, a failed one its manifest, and
each is validated again as a cell result before the current result moves.
-/

namespace Kurobara.Application

open Foundation Kernel Persistence

/-! ## The sink envelope -/

/-- The sink output of a cell Run, read from JSON. -/
structure ParsedSinkEnvelope where
  value : ScalarValue
  confidence : Option ℚ
  freshness : Option CellResultFreshness
  provenance : Option CellResultProvenance
  deriving DecidableEq, Repr

/-- Of `plainDataDescriptors`; none of the allowed keys is a forbidden one. -/
def plainDataDescriptors (value : NormalizedJsonValue) (allowedKeys : List String) :
    Option JsonProperties :=
  match value with
  | .object properties =>
      if properties.any fun entry => !allowedKeys.contains entry.1 then none else some properties
  | _ => none

private def scalarOf : NormalizedJsonValue → Option ScalarValue
  | .null => some .null
  | .boolean value => some (.boolean value)
  | .number value => some (.number value)
  | .string value => some (.string value)
  | .array _ | .object _ => none

/-- A number that `Number.isSafeInteger` admits, as the integer it is. -/
def safeIntegerOf : NormalizedJsonValue → Option ℤ
  | .number value => if value.den = 1 && isSafeInteger value.num then some value.num else none
  | _ => none

/-- One provenance reference, within its length. -/
def parseReference : NormalizedJsonValue → Option String
  | .string reference =>
      if isBoundedText reference maxProvenanceReferenceLength then some reference else none
  | _ => none

/-- A list of distinct references, neither empty nor too long. -/
def parseReferences : NormalizedJsonValue → Option (List String)
  | .array entries =>
      if entries.isEmpty || decide (maxProvenanceReferences < entries.length) then none
      else (entries.mapM parseReference).filter fun references => decide references.Nodup
  | _ => none

def parseProvenance (value : NormalizedJsonValue) : Option CellResultProvenance := do
  let properties ← plainDataDescriptors value ["references"]
  let references ← parseReferences (← properties.property "references")
  pure ⟨references⟩

/-- The `expiresAt` of a freshness: absent, or an instant that is not before the observation. -/
def parseExpiration (properties : JsonProperties) (observedAt : ℤ) : Option (Option Instant) :=
  match properties.property "expiresAt" with
  | none => some none
  | some value => ((safeIntegerOf value).filter fun expiresAt =>
      decide (observedAt ≤ expiresAt)).map
      some

def parseFreshness (value : NormalizedJsonValue) : Option CellResultFreshness := do
  let properties ← plainDataDescriptors value ["expiresAt", "observedAt"]
  let observedAt ← (safeIntegerOf (← properties.property "observedAt")).filter fun observedAt =>
    decide (0 ≤ observedAt)
  let expiresAt ← parseExpiration properties observedAt
  pure ⟨observedAt, expiresAt⟩

/-- `parseConfidence`: a number from 0 to 1. -/
def parseConfidence : NormalizedJsonValue → Option ℚ
  | .number confidence => if confidenceIsValid confidence then some confidence else none
  | _ => none

/-- A property that an envelope claims has to parse. -/
def parseClaimed {Claimed : Type} (properties : JsonProperties) (key : String)
    (parse : NormalizedJsonValue → Option Claimed) : Option (Option Claimed) :=
  match properties.property key with
  | none => some none
  | some value => (parse value).map some

/-- `parseSinkEnvelope`: the value, and what is claimed of it. -/
def parseSinkEnvelope (value : NormalizedJsonValue) : Option ParsedSinkEnvelope := do
  let properties ← plainDataDescriptors value ["confidence", "freshness", "provenance", "value"]
  let scalar ← (scalarOf (← properties.property "value")).filter isBoundedScalar
  let provenance ← parseClaimed properties "provenance" parseProvenance
  let freshness ← parseClaimed properties "freshness" parseFreshness
  let confidence ← parseClaimed properties "confidence" parseConfidence
  pure ⟨scalar, confidence, freshness, provenance⟩

private def freshnessJson (freshness : CellResultFreshness) : NormalizedJsonValue :=
  .object ((freshness.expiresAt.map fun expiresAt => ("expiresAt", .number expiresAt)).toList ++
    [("observedAt", .number freshness.observedAt)])

private def provenanceJson (provenance : CellResultProvenance) : NormalizedJsonValue :=
  .object [("references", .array (provenance.references.map .string))]

/-- The parsed envelope as the value that is hashed, its keys in canonical order. -/
def envelopeJson (envelope : ParsedSinkEnvelope) : NormalizedJsonValue :=
  .object (
    (envelope.confidence.map fun confidence => ("confidence", .number confidence)).toList ++
    (envelope.freshness.map fun freshness => ("freshness", freshnessJson freshness)).toList ++
    (envelope.provenance.map fun provenance => ("provenance", provenanceJson provenance)).toList ++
    [("value", scalarJson envelope.value)])

/-! ## The projection -/

/-- The input of `projectCellResult`: the current cell, its target and the Run's manifest. -/
structure ProjectCellResultRequest where
  current : CellResult
  dataset : Dataset
  fields : List Field
  manifest : Option ResultManifest
  normalizedSinkPayload : Option NormalizedJsonValue
  recipe : EnrichmentRecipe
  record : DatasetRecord
  run : Run

inductive ProjectCellResultFailureCode where
  | cellResultInvalid
  | cellResultRunBindingMismatch
  | cellResultTransitionRejected
  | resultManifestMismatch
  | resultManifestMissing
  | sinkOutputInvalid
  | sinkOutputMismatch
  | sinkOutputMissing
  | sinkOutputUnexpected
  deriving DecidableEq, Repr

inductive CellResultDomainCode where
  | product (code : ProductFailureCode)
  | transition (code : CellResultTransitionFailureCode)
  deriving DecidableEq, Repr

structure ProjectCellResultFailure where
  code : ProjectCellResultFailureCode
  message : String
  domainCode : Option CellResultDomainCode
  deriving DecidableEq, Repr

private def projectionFailure (code : ProjectCellResultFailureCode) (message : String) :
    ProjectCellResultFailure :=
  ⟨code, message, none⟩

/-- The accepted output of a completed Run, by one of its entries. -/
def completionMatches (run : Run) (manifest : ResultManifest) : Bool :=
  match manifest.output with
  | .missing _ => false
  | .accepted output =>
      run.resultCompleteness == .complete && nonBlank output.validatorVersion &&
        output.contract == manifest.outputContract &&
        manifest.entries.any fun entry => entry.state == .succeeded &&
          match entry.result with
          | .accepted result => result.artifact == output.artifact &&
              result.contract == output.contract
          | .missing _ => false

/-- The manifest says that the Run failed, and has a failed entry. -/
def failureMatches (manifest : ResultManifest) : Bool :=
  manifest.output == .missing .runFailed && manifest.entries.any (·.state == .failed)

/-- `manifestMatchesRun`: the manifest is the one the Run was concluded with. -/
def manifestMatchesRun (run : Run) (manifest : ResultManifest)
    (expectedConclusion : RunConclusion) : Bool :=
  run.resultManifest == some (resultManifestRef manifest) &&
    manifest.workspaceId == run.workspaceId && manifest.runId == run.runId &&
    manifest.runPlanId == run.runPlanId && manifest.conclusion == expectedConclusion &&
    manifest.resultCompleteness == run.resultCompleteness &&
    manifest.sourceRunAggregateVersion + 1 == run.aggregateVersion &&
    match expectedConclusion with
    | .completed => completionMatches run manifest
    | .failed => failureMatches manifest

/-- The current cell without what it holds. -/
def baseCellResult (current : CellResult) : CellResult :=
  { current with
    confidence := none
    cost := none
    freshness := none
    provenance := none
    reason := none
    value := none }

/-- The exact cost a cell takes over from a manifest. -/
def manifestCost (manifest : ResultManifest) : CellResultCost :=
  ⟨manifest.cost.spent, .exact, manifest.cost.unit⟩

section

variable (evidence : ContentEvidence NormalizedJsonValue)

/-- The cell of a completed Run: its sink payload, whose envelope has the hash of the
accepted output. -/
def requestedForCompletedRun (request : ProjectCellResultRequest) (base : CellResult) :
    Except ProjectCellResultFailure CellResult :=
  match request.manifest with
  | none => .error (projectionFailure .resultManifestMissing
      "A completed run requires its exact durable result manifest.")
  | some manifest =>
      if !manifestMatchesRun request.run manifest .completed then
        .error (projectionFailure .resultManifestMismatch
          "The result manifest does not match the canonical run.")
      else
        match request.normalizedSinkPayload with
        | none => .error (projectionFailure .sinkOutputMissing
            "A completed run requires its normalized sink output.")
        | some payload =>
            match parseSinkEnvelope payload with
            | none => .error (projectionFailure .sinkOutputInvalid
                "The normalized sink output is not a valid bounded cell-result envelope.")
            | some parsed =>
                match manifest.output with
                | .missing _ => .error (projectionFailure .sinkOutputMismatch
                    "The normalized sink output does not match the accepted output artifact.")
                | .accepted output =>
                    if evidence.contentHash (envelopeJson parsed) !=
                      output.artifact.contentHash then
                      .error (projectionFailure .sinkOutputMismatch
                        "The normalized sink output does not match the accepted output artifact.")
                    else .ok { base with
                      value := some parsed.value
                      confidence := parsed.confidence
                      freshness := parsed.freshness
                      provenance := parsed.provenance
                      cost := some (manifestCost manifest)
                      status := .succeeded }

/-- The cell a failed Run asks for. -/
def requestedForFailedRun (request : ProjectCellResultRequest) (base : CellResult) :
    Except ProjectCellResultFailure CellResult :=
  match request.manifest with
  | none => .error (projectionFailure .resultManifestMissing
      "A failed run requires its exact durable result manifest.")
  | some manifest =>
      if !manifestMatchesRun request.run manifest .failed then
        .error (projectionFailure .resultManifestMismatch
          "The result manifest does not match the canonical run.")
      else .ok { base with
        cost := some (manifestCost manifest)
        reason := some ⟨"run-failed", "The canonical run failed.", false⟩
        status := .failed }

/-- The cell that the Run's ending asks for, by its state. -/
def requestedForRun (request : ProjectCellResultRequest) :
    Except ProjectCellResultFailure CellResult :=
  let base := baseCellResult request.current
  if request.run.state != .completed && request.normalizedSinkPayload.isSome then
    .error (projectionFailure .sinkOutputUnexpected
      "Only a completed run can project a normalized sink output.")
  else
    match request.run.state with
    | .queued => .ok { base with status := .pending }
    | .running | .waiting | .cancelling | .ambiguous => .ok { base with status := .running }
    | .cancelled => .ok { base with
        reason := some ⟨"run-cancelled", "The canonical run was cancelled.", false⟩
        status := .skipped }
    | .failed => requestedForFailedRun request base
    | .completed => requestedForCompletedRun evidence request base

/-- `projectCellResult`: the cell that the Run asks for, taken through `transitionCellResult`. -/
def projectCellResult (request : ProjectCellResultRequest) :
    Except ProjectCellResultFailure CellResultTransition :=
  match createCellResult request.dataset request.fields request.record request.recipe
    request.current with
  | .error failure => .error ⟨.cellResultInvalid,
      "The current cell result is not valid for the supplied product identities.",
      some (.product failure.code)⟩
  | .ok current =>
      if request.run.workspaceId != current.workspaceId || request.run.runId != current.runId then
        .error (projectionFailure .cellResultRunBindingMismatch
          "The current cell result is not bound to the canonical run.")
      else if request.run.state != .completed && request.run.state != .failed &&
          (request.manifest.isSome || request.run.resultManifest.isSome) then
        .error (projectionFailure .resultManifestMismatch
          "A non-manifest run state cannot project a result manifest.")
      else
        match requestedForRun evidence request with
        | .error failure => .error failure
        | .ok requested =>
            match createCellResult request.dataset request.fields request.record request.recipe
              requested with
            | .error failure => .error ⟨.cellResultInvalid,
                "The projected cell result failed domain validation.",
                some (.product failure.code)⟩
            | .ok validated =>
                match transitionCellResult current validated with
                | .error failure => .error ⟨.cellResultTransitionRejected, "The canonical run " ++
                    "cannot move the current cell result through that transition.",
                    some (.transition failure.code)⟩
                | .ok transition => .ok transition

end

end Kurobara.Application
