import Kurobara.Application.ReadyGenerationCandidatePage
import Kurobara.Application.VerifiedApiKey

/-! # Listed contacts

`listContactCandidates`: a page of a ready contact generation, answered only where the privacy
guard allows the subjects behind each of its records. A page lists at most its limit.
-/

namespace Kurobara.Application

open Kurobara.Kernel Kurobara.Application.ReadyGenerationCandidatePage

/-- Whom a privacy restriction is about. -/
inductive ContactPrivacySubject where
  | email (value : String)
  | providerSubject (providerKey value : String)
  deriving DecidableEq, Repr

structure ContactDatasetExportRecordAuthorization where
  recordId : RecordId
  subjects : List ContactPrivacySubject
  deriving DecidableEq, Repr

structure ListContactCandidatesRequest where
  actor : VerifiedApiKey
  afterOrdinal : ℤ
  generationId : DatasetGenerationId
  limit : ℤ
  deriving DecidableEq, Repr

inductive ListContactCandidatesFailureCode where
  | contactPrivacyCheckFailed
  | contactPrivacyRestricted
  | page (code : ReadyGenerationCandidatePageFailureCode)
  | permissionMissing
  deriving DecidableEq, Repr

structure ListContactCandidatesFailure where
  code : ListContactCandidatesFailureCode
  message : String
  deriving DecidableEq, Repr

/-- What the ports answer, or nothing where one fails, and which records are contacts. -/
structure ContactListing where
  isContact : DatasetRecordPageEntry → FieldMap → Bool
  stored : Option DatasetGenerationCreation
  page : Option DatasetRecordPage
  authorization : Option (Option (List ContactDatasetExportRecordAuthorization))
  allows : List ContactPrivacySubject → Option Bool

/-- `contactCandidateProjection`; of a candidate only its identity is read. -/
def contactCandidateProjection (listing : ContactListing) :
    GeneratedCandidateProjection RecordId where
  capabilityId := "contacts.discover"
  capabilityVersion := "1.0.0"
  fields := [("department", .string), ("display_name", .string),
    ("identity_completeness", .string), ("job_title", .string), ("observed_at_ms", .number),
    ("organization_domain", .string), ("organization_id", .string),
    ("organization_name", .string), ("person_country_code", .string), ("profile_url", .string),
    ("seniority", .string)]
  label := "Contact"
  project := fun entry fields =>
    if listing.isContact entry fields then some entry.record.recordId else none

private def privacyCheckFailed (message : String) : ListContactCandidatesFailure where
  code := .contactPrivacyCheckFailed
  message := message

private def authorizationOf (records : List ContactDatasetExportRecordAuthorization)
    (candidate : ListedCandidate RecordId) : Option ContactDatasetExportRecordAuthorization :=
  records.find? fun record => record.recordId == candidate.candidate

/-- The privacy of a page that lists contacts. -/
def checkPagePrivacy (listing : ContactListing)
    (result : ReadyGenerationCandidatePageSuccess RecordId) :
    Except ListContactCandidatesFailure (ReadyGenerationCandidatePageSuccess RecordId) :=
  match listing.authorization with
  | none => .error (privacyCheckFailed "Contact privacy lineage could not be verified.")
  | some none => .error (privacyCheckFailed "Contact privacy lineage is unavailable.")
  | some (some records) =>
      let authorizations := result.items.map (authorizationOf records)
      if decide (records.map ContactDatasetExportRecordAuthorization.recordId).Nodup &&
          authorizations.all fun record => record.any fun known => !known.subjects.isEmpty then
        match listing.allows (authorizations.reduceOption.flatMap
            ContactDatasetExportRecordAuthorization.subjects) with
        | none =>
            .error (privacyCheckFailed "Contact privacy restrictions could not be verified.")
        | some true => .ok result
        | some false =>
            .error ⟨.contactPrivacyRestricted,
              "Contact privacy restrictions block this result page."⟩
      else
        .error (privacyCheckFailed "Contact privacy lineage does not cover the requested page.")

/-- The permission is checked before the page is read, its privacy after. -/
def listContactCandidates (requiredPermission : String) (listing : ContactListing)
    (request : ListContactCandidatesRequest) :
    Except ListContactCandidatesFailure (ReadyGenerationCandidatePageSuccess RecordId) :=
  if hasPermission request.actor requiredPermission then
    match readReadyGenerationCandidatePage (contactCandidateProjection listing)
        maxGeneratedCandidatePageSize ⟨request.afterOrdinal, request.generationId, request.limit,
          request.actor.workspaceId⟩ listing.stored listing.page with
    | .error failure => .error ⟨.page failure.code, failure.message⟩
    | .ok result => if result.items.isEmpty then .ok result else checkPagePrivacy listing result
  else
    .error ⟨.permissionMissing,
      "Contact candidate reads require " ++ requiredPermission ++ "."⟩

private theorem checkPagePrivacy_ok {listing : ContactListing}
    {result answered : ReadyGenerationCandidatePageSuccess RecordId}
    (checked : checkPagePrivacy listing result = .ok answered) : answered = result := by
  unfold checkPagePrivacy at checked
  split at checked
  · cases checked
  · cases checked
  · dsimp only at checked
    split at checked
    · split at checked
      · cases checked
      · exact (Except.ok.inj checked).symm
      · cases checked
    · cases checked

/-- **A page of contacts holds at most its limit.** -/
theorem listContactCandidates_length {requiredPermission : String} {listing : ContactListing}
    {request : ListContactCandidatesRequest}
    {answered : ReadyGenerationCandidatePageSuccess RecordId}
    (listed : listContactCandidates requiredPermission listing request = .ok answered) :
    (answered.items.length : ℤ) ≤ request.limit := by
  unfold listContactCandidates at listed
  split at listed
  · split at listed
    · cases listed
    · rename_i result read
      have same : answered = result := by
        split at listed
        · exact (Except.ok.inj listed).symm
        · exact checkPagePrivacy_ok listed
      rw [same]
      exact readPage_length read
  · cases listed

end Kurobara.Application
