import Kurobara.Application.ExportRecipeApplication
import Kurobara.Engine.EvaluateContactPrivacy

/-! # Export deliveries

A delivery of an export binds its content to an immutable manifest: the proof of the content,
the owner, and the privacy policy, provider rights and observations that authorize it, each with
an expiry of its own.
-/

namespace Kurobara.Application

open Kurobara.Kernel Kurobara.Engine

abbrev ExportDeliveryId := String

inductive ExportProviderRightsMode where
  | operatorAuthorizedByok
  | syntheticFixture
  deriving DecidableEq, Repr

structure ExportDeliveryPurposeSnapshot where
  policyExpiresAt : Instant
  policyVersion : String
  purposeRef : String
  territory : String
  deriving DecidableEq, Repr

structure ExportDeliveryProviderRightsSnapshot where
  expiresAt : Instant
  mode : ExportProviderRightsMode
  version : String
  deriving DecidableEq, Repr

structure ExportDeliveryObservedExpiry where
  dataClass : ContactDataClass
  expiresAt : Instant
  observedAt : Instant
  deriving DecidableEq, Repr

structure GeneratedDatasetExportDeliverySource where
  capabilityId : String
  capabilityVersion : String
  generationId : String
  generationPlanId : String
  planHash : ContentHash
  deriving DecidableEq, Repr

/-- Where the exported records come from: the two forms of a manifest. -/
inductive ExportDeliverySource where
  | recipeApplication (applicationId recipeId recipeRevision : String)
  | generatedDataset (source : GeneratedDatasetExportDeliverySource)
  deriving DecidableEq, Repr

/-- What a delivery promises of its file, with the decisions that allowed it. -/
structure ExportDeliveryManifest where
  contentHash : ContentHash
  contentLength : ℤ
  dataClasses : List ContactDataClass
  datasetId : DatasetId
  fieldIds : List FieldId
  format : ExportRecipeApplication.DatasetImportFormat
  observedExpiries : List ExportDeliveryObservedExpiry
  ownerActorId : ActorId
  policyPurpose : ExportDeliveryPurposeSnapshot
  providerRights : ExportDeliveryProviderRightsSnapshot
  source : ExportDeliverySource
  workspaceId : WorkspaceId
  deriving DecidableEq, Repr

inductive ExportDeliveryState where
  | delivered
  | prepared
  | revoked
  deriving DecidableEq, Repr

/-- A delivery, with the effective expiry that durable adapters populate. -/
structure ExportDelivery where
  deliveryId : ExportDeliveryId
  effectiveExpiresAt : Option Instant
  intentHash : ContentHash
  manifest : ExportDeliveryManifest
  preparedAt : Instant
  state : ExportDeliveryState
  deliveredAt : Option Instant
  revokedAt : Option Instant
  deriving DecidableEq, Repr

/-! ## The authorization of privacy -/

inductive PrepareExportDeliveryFailureCode where
  | deliveryIdempotencyConflict
  | deliveryRevoked
  | exportScopeInvalid
  | privacyAuthorizationDenied
  | privacySubjectsInvalid
  | providerRightsDenied
  | retentionExpired
  deriving DecidableEq, Repr

structure PrepareExportDeliveryFailure where
  code : PrepareExportDeliveryFailureCode
  message : String
  deriving DecidableEq, Repr

structure AuthorizeContactEffectSuccess where
  decision : ContactPrivacyDecision
  matchedTombstoneIds : List String
  deriving DecidableEq, Repr

/-- Its only failure is an invalid subject. -/
abbrev AuthorizeContactEffectResult := Option AuthorizeContactEffectSuccess

/-- The facts of a privacy request, without the action and the time. -/
structure ExportDeliveryPrivacyFacts where
  purposeRef : Option String
  requestedData : List RequestedContactData
  territory : Option String
  deriving DecidableEq, Repr

/-- A privacy request for subjects of some type; its groups default to one for each subject. -/
structure ExportDeliveryPrivacyRequest (Subject : Type) where
  facts : ExportDeliveryPrivacyFacts
  policyExpiresAt : Instant
  policyVersion : String
  subjectGroups : Option (List (List Subject))
  subjects : List Subject
  deriving DecidableEq, Repr

variable {Subject : Type}

/-- Without groups, each subject stands for itself. -/
def privacySubjectGroups (privacy : ExportDeliveryPrivacyRequest Subject) :
    List (List Subject) :=
  privacy.subjectGroups.getD (privacy.subjects.map fun subject => [subject])

/-- What one authorization is answered: the effect of every subject, and the clock, which is
read behind them and again when the manifest is compared with it. -/
structure PrivacyAnswers where
  results : List AuthorizeContactEffectResult
  now : Instant
  manifestNow : Instant
  deriving DecidableEq, Repr

/-- An effect that denies an export, or that a tombstone of its subject restricts. -/
def deniesExport (result : AuthorizeContactEffectResult) : Bool :=
  match result with
  | none => true
  | some success => !success.decision.allowed || !success.matchedTombstoneIds.isEmpty

private def observedExpiry (decision : ContactPrivacyDecision)
    (requested : ContactDataClass × RequestedContactData) : Option ExportDeliveryObservedExpiry :=
  match requested.2.observedAt,
      decision.retentionLimits.find? fun limit => limit.dataClass == requested.1 with
  | some observedAt, some limit => some ⟨requested.1, limit.expiresAt, observedAt⟩
  | _, _ => none

/-- One permitted decision for each subject group, with the expiries it was based on. -/
def authorizePrivacy (privacy : ExportDeliveryPrivacyRequest Subject)
    (expectedSubjectCount : ℤ) (answers : PrivacyAnswers) :
    Except PrepareExportDeliveryFailure (List ExportDeliveryObservedExpiry) :=
  let subjectGroups := privacySubjectGroups privacy
  let requestedData := privacy.facts.requestedData
  if subjectGroups.isEmpty || (subjectGroups.length : ℤ) != expectedSubjectCount ||
      subjectGroups.any List.isEmpty || requestedData.isEmpty ||
      !decide (requestedData.map RequestedContactData.dataClass).Nodup then
    .error ⟨.privacySubjectsInvalid, "Contact exports require one exact privacy subject per " ++
      "exported record and a unique data-class request."⟩
  else if !(privacy.facts.purposeRef.any nonBlank && privacy.facts.territory.any nonBlank) then
    .error ⟨.privacyAuthorizationDenied,
      "Contact exports require an explicit purpose and territory."⟩
  else if answers.results.any deniesExport then
    .error ⟨.privacyAuthorizationDenied, "The contact privacy policy or a durable subject " ++
      "restriction denies this export."⟩
  else
    match answers.results with
    | some first :: _ =>
        let observedExpiries := (requestedDataInCanonicalOrder requestedData).filterMap
          (observedExpiry first.decision)
        if observedExpiries.length != requestedData.length || observedExpiries.any fun
            observation => decide (observation.expiresAt ≤ answers.now) then
          .error ⟨.retentionExpired, "Every exported contact data class must have a current " ++
            "observed-at and retention expiry."⟩
        else .ok observedExpiries
    | _ =>
        .error ⟨.privacyAuthorizationDenied,
          "The contact privacy policy did not authorize this export."⟩

/-! ## What is exported -/

structure GeneratedDatasetDeliveryExport where
  contentHash : ContentHash
  contentLength : ℤ
  dataset : Dataset
  fields : List Field
  format : ExportRecipeApplication.DatasetImportFormat
  recordCount : ℤ
  source : GeneratedDatasetExportDeliverySource
  deriving DecidableEq, Repr

/-- The export that a delivery is prepared for. -/
inductive DeliveryExport where
  | generatedDataset (exported : GeneratedDatasetDeliveryExport)
  | recipeApplication (exported : ExportRecipeApplication.RecipeApplicationExport)
  deriving DecidableEq, Repr

structure PrepareExportDeliveryRequest (Subject : Type) where
  actor : VerifiedApiKey
  exported : DeliveryExport
  privacy : ExportDeliveryPrivacyRequest Subject
  deriving DecidableEq, Repr

def exportedRecordCount : DeliveryExport → ℤ
  | .generatedDataset exported => exported.recordCount
  | .recipeApplication exported => exported.metadata.application.graph.recordIds.length

/-! ## The currency of a manifest -/

/-- One class that the manifest observes, at its place among the data classes. -/
def observationIsCurrentAt (now : Instant)
    (entry : ContactDataClass × ExportDeliveryObservedExpiry) : Bool :=
  entry.2.dataClass == entry.1 && decide (entry.2.observedAt < entry.2.expiresAt) &&
    decide (entry.2.observedAt ≤ now) && decide (now < entry.2.expiresAt)

/-- Nothing that the manifest rests on has expired. -/
def manifestIsCurrentAt (manifest : ExportDeliveryManifest) (now : Instant) : Bool :=
  isSafeInteger manifest.contentLength && decide (0 ≤ manifest.contentLength) &&
    !manifest.fieldIds.isEmpty && decide manifest.fieldIds.Nodup &&
    decide manifest.dataClasses.Nodup &&
    decide (manifest.observedExpiries.map ExportDeliveryObservedExpiry.dataClass).Nodup &&
    decide (now < manifest.policyPurpose.policyExpiresAt) &&
    decide (now < manifest.providerRights.expiresAt) &&
    manifest.observedExpiries.length == manifest.dataClasses.length &&
    (manifest.dataClasses.zip manifest.observedExpiries).all (observationIsCurrentAt now)

/-- The privacy decisions, taken again, still allow the delivery. -/
def privacyIsCurrent (request : PrepareExportDeliveryRequest Subject)
    (manifest : ExportDeliveryManifest) (answers : PrivacyAnswers) : Bool :=
  (authorizePrivacy request.privacy (exportedRecordCount request.exported) answers).toBool &&
    manifestIsCurrentAt manifest answers.manifestNow

/-- The time of completion, when the delivery is still allowed at it. -/
def completionTimeIfAuthorized (request : PrepareExportDeliveryRequest Subject)
    (manifest : ExportDeliveryManifest) (answers : PrivacyAnswers) : Option Instant :=
  if privacyIsCurrent request manifest answers then some answers.manifestNow else none

end Kurobara.Application
