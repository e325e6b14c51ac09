import Kurobara.Foundation.Fallible
import Kurobara.Foundation.Keyed
import Kurobara.Kernel.Values
import Mathlib.Data.List.Dedup

/-! # Evaluating contact privacy

`evaluateContactPrivacy` of the policy engine: the reasons for which a privacy policy denies
an action on contact data, the denied classes, and how long each class may be retained. Data
is requested and restrictions are reported by name, so an unknown name is a reason of its own.
-/

namespace Kurobara.Engine

open Foundation Kernel

/-- The classes of contact data that a policy rules. -/
inductive ContactDataClass where
  | contactIdentity
  | employment
  | professionalSocialProfile
  | professionalEmail
  | personalEmail
  | phone
  deriving DecidableEq, Repr

def ContactDataClass.text : ContactDataClass → String
  | .contactIdentity => "contact-identity"
  | .employment => "employment"
  | .professionalSocialProfile => "professional-social-profile"
  | .professionalEmail => "professional-email"
  | .personalEmail => "personal-email"
  | .phone => "phone"

def contactDataClasses : List ContactDataClass :=
  [.contactIdentity, .employment, .professionalSocialProfile, .professionalEmail, .personalEmail,
    .phone]

/-- What is to be done with the data. -/
inductive ContactDataAction where
  | discover
  | enrich
  | export
  deriving DecidableEq, Repr

/-- The restrictions on a contact. -/
inductive ContactPrivacyRestriction where
  | providerOptOut
  | providerDeletion
  | providerClaimedEmail
  | operatorSubjectRequest
  | privacyTombstone
  | territoryRestriction
  deriving DecidableEq, Repr

def ContactPrivacyRestriction.text : ContactPrivacyRestriction → String
  | .providerOptOut => "provider-opt-out"
  | .providerDeletion => "provider-deletion"
  | .providerClaimedEmail => "provider-claimed-email"
  | .operatorSubjectRequest => "operator-subject-request"
  | .privacyTombstone => "privacy-tombstone"
  | .territoryRestriction => "territory-restriction"

def contactPrivacyRestrictions : List ContactPrivacyRestriction :=
  [.providerOptOut, .providerDeletion, .providerClaimedEmail, .operatorSubjectRequest,
    .privacyTombstone, .territoryRestriction]

/-- What a policy allows of one class, and for how long. -/
structure ContactDataRule where
  allowedActions : List ContactDataAction
  maxRetentionMilliseconds : ℤ
  deriving DecidableEq, Repr

/-- The policy an evaluation goes by. -/
structure ContactPrivacyPolicySnapshot where
  version : String
  purposeRefs : List String
  territories : List String
  expiresAt : Instant
  rules : ContactDataClass → Option ContactDataRule

/-- A class of data asked for; its name is not trusted to be known. -/
structure RequestedContactData where
  dataClass : String
  observedAt : Option Instant
  deriving DecidableEq, Repr

/-- The facts an evaluation goes by. -/
structure ContactPrivacyFacts where
  action : ContactDataAction
  purposeRef : Option String
  territory : Option String
  requestedData : List RequestedContactData
  explicitlyEnabledDataClasses : List ContactDataClass
  activeRestrictions : List String
  now : Instant
  deriving DecidableEq, Repr

inductive ContactPrivacyReasonCode where
  | restricted (restriction : ContactPrivacyRestriction)
  | policyExpired
  | purposeUnresolved
  | purposeDenied
  | territoryUnresolved
  | territoryDenied
  | dataClassMissing
  | dataClassUnknown
  | dataClassDuplicate
  | dataClassDisabled
  | restrictionUnknown
  | explicitOptInRequired
  | actionDenied
  | retentionLimitInvalid
  | observationTimeMissing
  | observationTimeInvalid
  | ttlExpired
  | allowed
  deriving DecidableEq, Repr

/-- How long data of a class may be kept. -/
structure ContactDataRetentionLimit where
  dataClass : ContactDataClass
  maxRetentionMilliseconds : ℤ
  expiresAt : Instant
  deriving DecidableEq, Repr

/-- The answer of an evaluation. -/
structure ContactPrivacyDecision where
  allowed : Bool
  policyVersion : String
  reasonCodes : List ContactPrivacyReasonCode
  deniedDataClasses : List ContactDataClass
  retentionLimits : List ContactDataRetentionLimit
  stopExternalEffects : Bool
  stopFallback : Bool
  deriving DecidableEq, Repr

/-! ## The evaluation of one class -/

private def needsExplicitOptIn : ContactDataClass → Bool
  | .personalEmail | .phone => true
  | _ => false

/-- Appends a value that is not there yet. -/
def pushUnique {Value : Type} [BEq Value] (values : List Value) (value : Value) : List Value :=
  if values.contains value then values else values ++ [value]

/-- The request of each known class, in the order of the classes. -/
def requestedDataInCanonicalOrder (requests : List RequestedContactData) :
    List (ContactDataClass × RequestedContactData) :=
  contactDataClasses.flatMap fun dataClass =>
    match requests.find? fun candidate => candidate.dataClass == dataClass.text with
    | none => []
    | some request => [(dataClass, request)]

/-- `effectiveExpiry`: the earlier of retention end and policy end, none where it is no safe
instant. -/
def effectiveExpiry (observedAt : Instant) (maxRetentionMilliseconds : ℤ)
    (policyExpiresAt : Instant) : Option Instant :=
  let retainedUntil := observedAt + maxRetentionMilliseconds
  if isSafeInteger retainedUntil then some (min retainedUntil policyExpiresAt) else none

/-- `MutableContactPrivacyDecision`. -/
structure ContactPrivacyEvaluation where
  deniedDataClasses : List ContactDataClass
  reasonCodes : List ContactPrivacyReasonCode
  retentionLimits : List ContactDataRetentionLimit
  deriving DecidableEq, Repr

namespace ContactPrivacyEvaluation

/-- Denies a class with one more reason. -/
def denyDataClass (evaluation : ContactPrivacyEvaluation) (dataClass : ContactDataClass)
    (reasonCode : ContactPrivacyReasonCode) : ContactPrivacyEvaluation :=
  { evaluation with
    reasonCodes := pushUnique evaluation.reasonCodes reasonCode
    deniedDataClasses := pushUnique evaluation.deniedDataClasses dataClass }

private def denyWhen (evaluation : ContactPrivacyEvaluation) (condition : Bool)
    (dataClass : ContactDataClass) (reasonCode : ContactPrivacyReasonCode) :
    ContactPrivacyEvaluation :=
  if condition then evaluation.denyDataClass dataClass reasonCode else evaluation

private def retain (evaluation : ContactPrivacyEvaluation) (limit : ContactDataRetentionLimit) :
    ContactPrivacyEvaluation :=
  { evaluation with retentionLimits := evaluation.retentionLimits ++ [limit] }

end ContactPrivacyEvaluation

/-- The part of `evaluateRequestedData` that a valid retention limit leads to. -/
def evaluateRetention (policy : ContactPrivacyPolicySnapshot) (facts : ContactPrivacyFacts)
    (dataClass : ContactDataClass) (maxRetentionMilliseconds : ℤ) (observedAt : Option Instant)
    (evaluation : ContactPrivacyEvaluation) : ContactPrivacyEvaluation :=
  match observedAt with
  | none =>
      if facts.action == .export then evaluation.denyDataClass dataClass .observationTimeMissing
      else evaluation.retain ⟨dataClass, maxRetentionMilliseconds, policy.expiresAt⟩
  | some observedAt =>
      if facts.now < observedAt then evaluation.denyDataClass dataClass .observationTimeInvalid
      else
        match effectiveExpiry observedAt maxRetentionMilliseconds policy.expiresAt with
        | none => evaluation.denyDataClass dataClass .retentionLimitInvalid
        | some expiresAt =>
            (evaluation.retain ⟨dataClass, maxRetentionMilliseconds, expiresAt⟩).denyWhen
              (decide (expiresAt ≤ facts.now)) dataClass .ttlExpired

/-- One requested class against its rule. -/
def evaluateRequestedData (policy : ContactPrivacyPolicySnapshot) (facts : ContactPrivacyFacts)
    (evaluation : ContactPrivacyEvaluation) (request : ContactDataClass × RequestedContactData) :
    ContactPrivacyEvaluation :=
  let dataClass := request.1
  match policy.rules dataClass with
  | none => evaluation.denyDataClass dataClass .dataClassDisabled
  | some rule =>
      let evaluation := (evaluation.denyWhen
        (needsExplicitOptIn dataClass && !facts.explicitlyEnabledDataClasses.contains dataClass)
        dataClass .explicitOptInRequired).denyWhen
        (!rule.allowedActions.contains facts.action) dataClass .actionDenied
      if !(isSafeInteger rule.maxRetentionMilliseconds &&
          decide (0 < rule.maxRetentionMilliseconds)) then
        evaluation.denyDataClass dataClass .retentionLimitInvalid
      else
        evaluateRetention policy facts dataClass rule.maxRetentionMilliseconds
          request.2.observedAt evaluation

/-! ## The decision -/

/-- An unresolved reference has a reason of its own. -/
def unresolvedOrDenied (reference : Option String) (admitted : List String)
    (unresolved denied : ContactPrivacyReasonCode) : List ContactPrivacyReasonCode :=
  match reference.filter nonBlank with
  | none => [unresolved]
  | some resolved => reportedWhen (!admitted.contains resolved) denied

private def globalReasons (policy : ContactPrivacyPolicySnapshot) (facts : ContactPrivacyFacts) :
    List ContactPrivacyReasonCode :=
  reportedWhen (facts.activeRestrictions.any fun restriction =>
      !(contactPrivacyRestrictions.map ContactPrivacyRestriction.text).contains restriction)
    .restrictionUnknown ++
  (contactPrivacyRestrictions.filter fun restriction =>
    facts.activeRestrictions.contains restriction.text).map .restricted ++
  reportedWhen (decide (policy.expiresAt ≤ facts.now)) .policyExpired ++
  unresolvedOrDenied facts.purposeRef policy.purposeRefs .purposeUnresolved .purposeDenied ++
  unresolvedOrDenied facts.territory policy.territories .territoryUnresolved .territoryDenied ++
  reportedWhen (facts.requestedData.any fun request =>
      !(contactDataClasses.map ContactDataClass.text).contains request.dataClass)
    .dataClassUnknown ++
  reportedWhen ((facts.requestedData.map RequestedContactData.dataClass).dedup.length !=
    facts.requestedData.length) .dataClassDuplicate ++
  reportedWhen (requestedDataInCanonicalOrder facts.requestedData).isEmpty .dataClassMissing

/-- The evaluation that the requested classes leave. -/
def evaluateFacts (policy : ContactPrivacyPolicySnapshot) (facts : ContactPrivacyFacts) :
    ContactPrivacyEvaluation :=
  let requestedData := requestedDataInCanonicalOrder facts.requestedData
  let reasonCodes := globalReasons policy facts
  -- A global denial denies every requested class.
  let deniedDataClasses := if reasonCodes.isEmpty then [] else requestedData.map Prod.fst
  requestedData.foldl (evaluateRequestedData policy facts) ⟨deniedDataClasses, reasonCodes, []⟩

def evaluateContactPrivacy (policy : ContactPrivacyPolicySnapshot)
    (facts : ContactPrivacyFacts) : ContactPrivacyDecision :=
  let evaluation := evaluateFacts policy facts
  let allowed := evaluation.reasonCodes.isEmpty
  { allowed
    deniedDataClasses := contactDataClasses.filter evaluation.deniedDataClasses.contains
    policyVersion := policy.version
    reasonCodes := if allowed then [.allowed] else evaluation.reasonCodes
    retentionLimits := evaluation.retentionLimits
    stopExternalEffects := !allowed
    stopFallback := !allowed }

/-! ## What is permitted -/

/-- How long the data may be kept: until the policy expires, and for data that was observed
no longer than its retention. -/
def retentionExpiry (policy : ContactPrivacyPolicySnapshot) (rule : ContactDataRule)
    (observedAt : Option Instant) : Instant :=
  match observedAt with
  | none => policy.expiresAt
  | some observedAt => min (observedAt + rule.maxRetentionMilliseconds) policy.expiresAt

/-- What was observed is retained beyond now, and only known observations are exported. -/
structure RetentionIsOpen (policy : ContactPrivacyPolicySnapshot) (facts : ContactPrivacyFacts)
    (rule : ContactDataRule) (observedAt : Option Instant) : Prop where
  observed : observedAt = none → facts.action ≠ .export
  past : ∀ observed, observedAt = some observed → observed ≤ facts.now ∧
    isSafeInteger (observed + rule.maxRetentionMilliseconds) = true ∧
      facts.now < min (observed + rule.maxRetentionMilliseconds) policy.expiresAt

/-- A class that the policy has a rule for, which admits the action now. -/
structure DataIsPermitted (policy : ContactPrivacyPolicySnapshot) (facts : ContactPrivacyFacts)
    (dataClass : ContactDataClass) (observedAt : Option Instant) (rule : ContactDataRule) :
    Prop where
  ruled : policy.rules dataClass = some rule
  optIn : needsExplicitOptIn dataClass = true → dataClass ∈ facts.explicitlyEnabledDataClasses
  action : facts.action ∈ rule.allowedActions
  retention : isSafeInteger rule.maxRetentionMilliseconds = true
  positive : 0 < rule.maxRetentionMilliseconds
  retained : RetentionIsOpen policy facts rule observedAt

/-- Nothing restricts the contact, the policy is current and admits the purpose and the
territory, and each requested class is known, requested once and permitted. -/
structure ContactIsPermitted (policy : ContactPrivacyPolicySnapshot)
    (facts : ContactPrivacyFacts) : Prop where
  unrestricted : facts.activeRestrictions = []
  current : facts.now < policy.expiresAt
  purpose : ∃ purpose ∈ policy.purposeRefs, facts.purposeRef = some purpose ∧
    nonBlank purpose = true
  territory : ∃ territory ∈ policy.territories, facts.territory = some territory ∧
    nonBlank territory = true
  requested : facts.requestedData ≠ []
  distinct : (facts.requestedData.map RequestedContactData.dataClass).Nodup
  permitted : ∀ request ∈ facts.requestedData, ∃ dataClass rule,
    ContactDataClass.text dataClass = request.dataClass ∧
      DataIsPermitted policy facts dataClass request.observedAt rule

/-! ## One class -/

namespace ContactPrivacyEvaluation

variable {evaluation : ContactPrivacyEvaluation} {dataClass : ContactDataClass}
  {reasonCode : ContactPrivacyReasonCode}

private theorem denyDataClass_reasons :
    (evaluation.denyDataClass dataClass reasonCode).reasonCodes ≠ [] := by
  change pushUnique evaluation.reasonCodes reasonCode ≠ []
  unfold pushUnique
  split
  · rename_i listed
    intro empty
    rw [empty] at listed
    cases listed
  · exact List.append_ne_nil_of_right_ne_nil _ (List.cons_ne_nil _ _)

private theorem denyWhen_reasons {condition : Bool} :
    (evaluation.denyWhen condition dataClass reasonCode).reasonCodes = [] ↔
      evaluation.reasonCodes = [] ∧ condition = false := by
  cases condition with
  | false => simp [denyWhen]
  | true => simpa [denyWhen] using denyDataClass_reasons

private theorem denyWhen_limits {condition : Bool} :
    (evaluation.denyWhen condition dataClass reasonCode).retentionLimits =
      evaluation.retentionLimits := by
  cases condition <;> rfl

end ContactPrivacyEvaluation

section Data

variable {policy : ContactPrivacyPolicySnapshot} {facts : ContactPrivacyFacts}
  {evaluation : ContactPrivacyEvaluation} {dataClass : ContactDataClass} {rule : ContactDataRule}

open ContactPrivacyEvaluation

private theorem evaluateRetention_clear {observedAt : Option Instant} :
    (evaluateRetention policy facts dataClass rule.maxRetentionMilliseconds observedAt
        evaluation).reasonCodes = [] ↔
      evaluation.reasonCodes = [] ∧ RetentionIsOpen policy facts rule observedAt := by
  unfold evaluateRetention
  cases observedAt with
  | none =>
      dsimp only
      split
      · rename_i exported
        refine ⟨fun clear => absurd clear denyDataClass_reasons, ?_⟩
        rintro ⟨_, permitted⟩
        exact absurd (beq_iff_eq.mp exported) (permitted.observed rfl)
      · rename_i kept
        constructor
        · intro clear
          exact ⟨clear, fun _ exported => kept (beq_iff_eq.mpr exported), nofun⟩
        · exact fun permitted => permitted.1
  | some observed =>
      dsimp only
      split
      · rename_i future
        refine ⟨fun clear => absurd clear denyDataClass_reasons, ?_⟩
        rintro ⟨_, permitted⟩
        exact absurd (permitted.past observed rfl).1 (not_le.mpr future)
      rename_i past
      unfold effectiveExpiry
      dsimp only
      by_cases safe : isSafeInteger (observed + rule.maxRetentionMilliseconds) = true
      · rw [if_pos safe]
        dsimp only
        rw [denyWhen_reasons, decide_eq_false_iff_not, not_le]
        constructor
        · rintro ⟨clear, open_⟩
          refine ⟨clear, nofun, ?_⟩
          rintro _ ⟨⟩
          exact ⟨not_lt.mp past, safe, open_⟩
        · rintro ⟨clear, permitted⟩
          exact ⟨clear, (permitted.past observed rfl).2.2⟩
      · rw [if_neg safe]
        refine ⟨fun clear => absurd clear denyDataClass_reasons, ?_⟩
        rintro ⟨_, permitted⟩
        exact absurd (permitted.past observed rfl).2.1 safe

/-- A permitted class is retained until it expires. -/
theorem evaluateRetention_limits {observedAt : Option Instant}
    (permitted : RetentionIsOpen policy facts rule observedAt) :
    (evaluateRetention policy facts dataClass rule.maxRetentionMilliseconds observedAt
        evaluation).retentionLimits =
      evaluation.retentionLimits ++ [⟨dataClass, rule.maxRetentionMilliseconds,
        retentionExpiry policy rule observedAt⟩] := by
  unfold evaluateRetention
  cases observedAt with
  | none =>
      dsimp only
      rw [if_neg (by simpa using permitted.observed rfl)]
      rfl
  | some observed =>
      obtain ⟨past, safe, _⟩ := permitted.past observed rfl
      dsimp only
      rw [if_neg (not_lt.mpr past)]
      simp only [effectiveExpiry, safe, if_true]
      exact denyWhen_limits

/-- **One class adds no reason exactly when it is permitted**, and then it is retained. -/
theorem evaluateRequestedData_clear {request : ContactDataClass × RequestedContactData} :
    (evaluateRequestedData policy facts evaluation request).reasonCodes = [] ↔
      evaluation.reasonCodes = [] ∧
        ∃ rule, DataIsPermitted policy facts request.1 request.2.observedAt rule := by
  unfold evaluateRequestedData
  dsimp only
  cases ruled : policy.rules request.1 with
  | none =>
      refine ⟨fun clear => absurd clear denyDataClass_reasons, ?_⟩
      rintro ⟨_, rule, permitted⟩
      exact absurd (permitted.ruled.symm.trans ruled) (Option.some_ne_none _)
  | some rule =>
      have only : ∀ other, DataIsPermitted policy facts request.1 request.2.observedAt other →
          other = rule := by
        intro other permitted
        exact Option.some.inj (permitted.ruled.symm.trans ruled)
      dsimp only
      split
      · rename_i invalid
        refine ⟨fun clear => absurd clear denyDataClass_reasons, ?_⟩
        rintro ⟨_, other, permitted⟩
        obtain rfl := only other permitted
        simp [permitted.retention, permitted.positive] at invalid
      · rename_i valid
        simp only [Bool.not_eq_true', Bool.not_eq_false, Bool.and_eq_true, decide_eq_true_eq]
          at valid
        rw [evaluateRetention_clear, denyWhen_reasons, denyWhen_reasons]
        simp only [Bool.and_eq_false_iff, Bool.not_eq_false', List.contains_iff_mem]
        constructor
        · rintro ⟨⟨⟨clear, optIn⟩, action⟩, retained⟩
          refine ⟨clear, rule, ruled, fun needs => ?_, action, valid.1, valid.2, retained⟩
          rcases optIn with none | enabled
          · rw [needs] at none
            cases none
          · exact enabled
        · rintro ⟨clear, other, permitted⟩
          obtain rfl := only other permitted
          refine ⟨⟨⟨clear, ?_⟩, permitted.action⟩, permitted.retained⟩
          cases needs : needsExplicitOptIn request.1 with
          | false => exact .inl rfl
          | true => exact .inr (permitted.optIn needs)

private theorem evaluateRequestedData_limits {request : ContactDataClass × RequestedContactData}
    (permitted : DataIsPermitted policy facts request.1 request.2.observedAt rule) :
    (evaluateRequestedData policy facts evaluation request).retentionLimits =
      evaluation.retentionLimits ++ [⟨request.1, rule.maxRetentionMilliseconds,
        retentionExpiry policy rule request.2.observedAt⟩] := by
  simp only [evaluateRequestedData, permitted.ruled, permitted.retention, permitted.positive,
    decide_true, Bool.and_self, Bool.not_true, Bool.false_eq_true, if_false]
  rw [evaluateRetention_limits permitted.retained, denyWhen_limits, denyWhen_limits]

/-- The classes add no reason exactly when each of them is permitted. -/
theorem foldl_evaluateRequestedData_clear
    {requests : List (ContactDataClass × RequestedContactData)} :
    (requests.foldl (evaluateRequestedData policy facts) evaluation).reasonCodes = [] ↔
      evaluation.reasonCodes = [] ∧ ∀ request ∈ requests,
        ∃ rule, DataIsPermitted policy facts request.1 request.2.observedAt rule := by
  induction requests generalizing evaluation with
  | nil => simp
  | cons request requests ih =>
      rw [List.foldl_cons, ih, evaluateRequestedData_clear, and_assoc, List.forall_mem_cons]

/-- A limit of a permitted class. -/
def IsRetained (policy : ContactPrivacyPolicySnapshot) (facts : ContactPrivacyFacts)
    (request : ContactDataClass × RequestedContactData) (limit : ContactDataRetentionLimit) :
    Prop :=
  ∃ rule, DataIsPermitted policy facts request.1 request.2.observedAt rule ∧
    limit = ⟨request.1, rule.maxRetentionMilliseconds,
      retentionExpiry policy rule request.2.observedAt⟩

private theorem foldl_evaluateRequestedData_limits
    {requests : List (ContactDataClass × RequestedContactData)}
    (permitted : ∀ request ∈ requests,
      ∃ rule, DataIsPermitted policy facts request.1 request.2.observedAt rule) :
    ∃ limits, (requests.foldl (evaluateRequestedData policy facts) evaluation).retentionLimits =
        evaluation.retentionLimits ++ limits ∧
      List.Forall₂ (IsRetained policy facts) requests limits := by
  induction requests generalizing evaluation with
  | nil => exact ⟨[], (List.append_nil _).symm, .nil⟩
  | cons request requests ih =>
      rw [List.forall_mem_cons] at permitted
      obtain ⟨⟨rule, here⟩, later⟩ := permitted
      obtain ⟨limits, grown, retained⟩ :=
        @ih (evaluateRequestedData policy facts evaluation request) later
      refine ⟨_ :: limits, ?_, .cons ⟨rule, here, rfl⟩ retained⟩
      rw [List.foldl_cons, grown, evaluateRequestedData_limits here, List.append_assoc]
      rfl

end Data

/-! ## All requested data -/

private theorem mem_contactDataClasses (dataClass : ContactDataClass) :
    dataClass ∈ contactDataClasses := by
  cases dataClass <;> decide

/-- A reference is admitted when it is resolved and listed. -/
theorem unresolvedOrDenied_eq_nil {reference : Option String} {admitted : List String}
    {unresolved denied : ContactPrivacyReasonCode} :
    unresolvedOrDenied reference admitted unresolved denied = [] ↔
      ∃ resolved ∈ admitted, reference = some resolved ∧ nonBlank resolved = true := by
  unfold unresolvedOrDenied
  cases found : reference.filter nonBlank with
  | none =>
      simp only [List.cons_ne_nil, false_iff, not_exists, not_and]
      rintro resolved _ rfl resolvedEq
      rw [Option.filter_some, if_pos resolvedEq] at found
      cases found
  | some resolved =>
      obtain ⟨rfl, nonblank⟩ := Option.filter_eq_some_iff.mp found
      simp only [reportedWhen_eq_nil, Bool.not_eq_false', List.contains_iff_mem]
      constructor
      · exact fun listed => ⟨resolved, listed, rfl, nonblank⟩
      · rintro ⟨other, listed, ⟨⟩, _⟩
        exact listed

/-- The canonical order lists the first request of each known class. -/
theorem mem_requestedDataInCanonicalOrder {requests : List RequestedContactData}
    {request : ContactDataClass × RequestedContactData} :
    request ∈ requestedDataInCanonicalOrder requests ↔
      requests.find? (fun candidate => candidate.dataClass == request.1.text) =
        some request.2 := by
  obtain ⟨dataClass, request⟩ := request
  simp only [requestedDataInCanonicalOrder, List.mem_flatMap]
  constructor
  · rintro ⟨known, _, listed⟩
    split at listed
    · cases listed
    · rename_i found
      cases List.mem_singleton.mp listed
      exact found
  · intro found
    refine ⟨dataClass, mem_contactDataClasses dataClass, ?_⟩
    rw [found]
    exact List.mem_singleton_self _

private theorem length_dedup_eq_iff {Value : Type} [DecidableEq Value] {values : List Value} :
    values.dedup.length = values.length ↔ values.Nodup := by
  constructor
  · intro same
    rw [← (List.dedup_sublist values).eq_of_length same]
    exact List.nodup_dedup values
  · intro distinct
    rw [distinct.dedup]

/-- Restrictions that are all known, none of which is active. -/
theorem restrictions_eq_nil {restrictions : List String} :
    (reportedWhen (restrictions.any fun restriction =>
        !(contactPrivacyRestrictions.map ContactPrivacyRestriction.text).contains restriction)
      ContactPrivacyReasonCode.restrictionUnknown = [] ∧
      (contactPrivacyRestrictions.filter fun restriction =>
        restrictions.contains restriction.text).map ContactPrivacyReasonCode.restricted = []) ↔
      restrictions = [] := by
  constructor
  · rintro ⟨known, inactive⟩
    simp only [reportedWhen_eq_nil, List.any_eq_false, Bool.not_eq_true', Bool.not_eq_false,
      List.contains_iff_mem, List.mem_map] at known
    rw [List.map_eq_nil_iff, List.filter_eq_nil_iff] at inactive
    refine List.eq_nil_iff_forall_not_mem.mpr fun name member => ?_
    obtain ⟨restriction, listed, rfl⟩ := known name member
    exact inactive restriction listed (List.contains_iff_mem.mpr member)
  · rintro rfl
    exact ⟨rfl, by simp⟩

variable {policy : ContactPrivacyPolicySnapshot} {facts : ContactPrivacyFacts}

/-- The reasons that do not depend on the rule of a class. -/
theorem globalReasons_eq_nil :
    globalReasons policy facts = [] ↔
      facts.activeRestrictions = [] ∧ facts.now < policy.expiresAt ∧
      (∃ purpose ∈ policy.purposeRefs, facts.purposeRef = some purpose ∧
        nonBlank purpose = true) ∧
      (∃ territory ∈ policy.territories, facts.territory = some territory ∧
        nonBlank territory = true) ∧
      (∀ request ∈ facts.requestedData, ∃ dataClass,
        ContactDataClass.text dataClass = request.dataClass) ∧
      (facts.requestedData.map RequestedContactData.dataClass).Nodup ∧
      requestedDataInCanonicalOrder facts.requestedData ≠ [] := by
  simp only [globalReasons, List.append_eq_nil_iff]
  rw [restrictions_eq_nil, unresolvedOrDenied_eq_nil, unresolvedOrDenied_eq_nil]
  simp only [reportedWhen_eq_nil, decide_eq_false_iff_not, not_le, bne_eq_false_iff_eq,
    List.any_eq_false, Bool.not_eq_true', Bool.not_eq_false, List.contains_iff_mem, List.mem_map,
    and_assoc, List.isEmpty_eq_false_iff]
  rw [← length_dedup_eq_iff, List.length_map]
  refine and_congr_right fun _ => and_congr_right fun _ => and_congr_right fun _ =>
    and_congr_right fun _ => and_congr_left fun _ => ?_
  refine forall₂_congr fun request _ => ?_
  constructor
  · rintro ⟨dataClass, _, named⟩
    exact ⟨dataClass, named⟩
  · rintro ⟨dataClass, named⟩
    exact ⟨dataClass, mem_contactDataClasses dataClass, named⟩

/-- Under distinct classes every request of a known class is evaluated. -/
theorem mem_canonical_of_distinct
    (distinct : (facts.requestedData.map RequestedContactData.dataClass).Nodup)
    {dataClass : ContactDataClass} {request : RequestedContactData} :
    (dataClass, request) ∈ requestedDataInCanonicalOrder facts.requestedData ↔
      request ∈ facts.requestedData ∧ request.dataClass = dataClass.text :=
  mem_requestedDataInCanonicalOrder.trans (find?_key_eq_some_iff distinct)

/-- **No reason is reported exactly when the contact is permitted.** -/
theorem evaluateFacts_clear :
    (evaluateFacts policy facts).reasonCodes = [] ↔ ContactIsPermitted policy facts := by
  unfold evaluateFacts
  dsimp only
  rw [foldl_evaluateRequestedData_clear, globalReasons_eq_nil]
  constructor
  · rintro ⟨⟨unrestricted, current, purpose, territory, known, distinct, listed⟩, permitted⟩
    refine ⟨unrestricted, current, purpose, territory, ?_, distinct, ?_⟩
    · intro empty
      rw [empty] at listed
      exact listed rfl
    · intro request member
      obtain ⟨dataClass, named⟩ := known request member
      obtain ⟨rule, allowed⟩ :=
        permitted (dataClass, request)
          ((mem_canonical_of_distinct distinct).mpr ⟨member, named.symm⟩)
      exact ⟨dataClass, rule, named, allowed⟩
  · intro permitted
    have known : ∀ request ∈ facts.requestedData, ∃ dataClass,
        ContactDataClass.text dataClass = request.dataClass := by
      intro request member
      obtain ⟨dataClass, _, named, _⟩ := permitted.permitted request member
      exact ⟨dataClass, named⟩
    refine ⟨⟨permitted.unrestricted, permitted.current, permitted.purpose, permitted.territory,
      known, permitted.distinct, ?_⟩, ?_⟩
    · obtain ⟨request, member⟩ := List.exists_mem_of_ne_nil _ permitted.requested
      obtain ⟨dataClass, named⟩ := known request member
      exact List.ne_nil_of_mem
        ((mem_canonical_of_distinct permitted.distinct).mpr ⟨member, named.symm⟩)
    · rintro ⟨dataClass, request⟩ listed
      obtain ⟨member, named⟩ := (mem_canonical_of_distinct permitted.distinct).mp listed
      obtain ⟨other, rule, otherNamed, allowed⟩ := permitted.permitted request member
      have same : other = dataClass := by
        have text := otherNamed.trans named
        cases other <;> cases dataClass <;> first | rfl | exact absurd text (by decide)
      exact ⟨rule, same ▸ allowed⟩

/-! ## Antitone decisions -/

/-- The second facts add restrictions or requested data, or are evaluated later. -/
structure RestrictsMore (facts stricter : ContactPrivacyFacts) : Prop where
  action : stricter.action = facts.action
  purposeRef : stricter.purposeRef = facts.purposeRef
  territory : stricter.territory = facts.territory
  enabled : stricter.explicitlyEnabledDataClasses = facts.explicitlyEnabledDataClasses
  restrictions : facts.activeRestrictions ⊆ stricter.activeRestrictions
  requested : facts.requestedData ⊆ stricter.requestedData
  later : facts.now ≤ stricter.now

/-- Facts that request some data, none of it twice and none observed in the future. -/
structure RequestIsTimely (facts : ContactPrivacyFacts) : Prop where
  requested : facts.requestedData ≠ []
  distinct : (facts.requestedData.map RequestedContactData.dataClass).Nodup
  past : ∀ request ∈ facts.requestedData, ∀ observed, request.observedAt = some observed →
    observed ≤ facts.now

theorem ContactIsPermitted.antitone {stricter : ContactPrivacyFacts}
    (permitted : ContactIsPermitted policy stricter) (more : RestrictsMore facts stricter)
    (timely : RequestIsTimely facts) : ContactIsPermitted policy facts := by
  refine ⟨?_, more.later.trans_lt permitted.current, ?_, ?_, timely.requested, timely.distinct, ?_⟩
  · have none := more.restrictions
    rw [permitted.unrestricted] at none
    exact List.subset_nil.mp none
  · exact more.purposeRef ▸ permitted.purpose
  · exact more.territory ▸ permitted.territory
  · intro request member
    obtain ⟨dataClass, rule, named, allowed⟩ :=
      permitted.permitted request (more.requested member)
    refine ⟨dataClass, rule, named, allowed.ruled, more.enabled ▸ allowed.optIn,
      more.action ▸ allowed.action, allowed.retention, allowed.positive,
      more.action ▸ allowed.retained.observed, ?_⟩
    intro observed given
    obtain ⟨_, safe, open_⟩ := allowed.retained.past observed given
    exact ⟨timely.past request member observed given, safe, more.later.trans_lt open_⟩

private theorem evaluateContactPrivacy_allowed_iff :
    (evaluateContactPrivacy policy facts).allowed = true ↔ ContactIsPermitted policy facts := by
  rw [← evaluateFacts_clear]
  exact List.isEmpty_iff

/-- What an allowed decision retains, for each request in the order of the classes. -/
theorem evaluateContactPrivacy_limits
    (allowed : (evaluateContactPrivacy policy facts).allowed = true) :
    List.Forall₂ (IsRetained policy facts) (requestedDataInCanonicalOrder facts.requestedData)
      (evaluateContactPrivacy policy facts).retentionLimits := by
  have clear : (evaluateFacts policy facts).reasonCodes = [] := List.isEmpty_iff.mp allowed
  have permitted := foldl_evaluateRequestedData_clear.mp clear
  obtain ⟨limits, grown, retained⟩ := foldl_evaluateRequestedData_limits permitted.2
  have same : (evaluateContactPrivacy policy facts).retentionLimits = limits :=
    grown.trans (List.nil_append limits)
  rw [same]
  exact retained

/-- The expiry of a permitted class is after now, within the policy and within the retention of
what was observed. -/
theorem DataIsPermitted.expiry {dataClass : ContactDataClass} {observedAt : Option Instant}
    {rule : ContactDataRule} (permitted : DataIsPermitted policy facts dataClass observedAt rule)
    (current : facts.now < policy.expiresAt) :
    facts.now < retentionExpiry policy rule observedAt ∧
      retentionExpiry policy rule observedAt ≤ policy.expiresAt ∧
      ∀ observed, observedAt = some observed →
        retentionExpiry policy rule observedAt ≤ observed + rule.maxRetentionMilliseconds := by
  cases observedAt with
  | none => exact ⟨current, le_refl _, nofun⟩
  | some observed =>
      refine ⟨(permitted.retained.past observed rfl).2.2, min_le_right _ _, ?_⟩
      rintro _ ⟨⟩
      exact min_le_left _ _

/-- **Contact privacy decisions are antitone in restrictions.** A decision for data that is
requested once and was not observed in the future stays allowed when restrictions or requests
are taken away or the instant is earlier; and every class of an allowed decision expires after
the instant, within the policy and within the retention of its observation. -/
theorem contactPrivacy_isAntitone (policy : ContactPrivacyPolicySnapshot) :
    (∀ facts stricter, RestrictsMore facts stricter → RequestIsTimely facts →
      (evaluateContactPrivacy policy stricter).allowed = true →
        (evaluateContactPrivacy policy facts).allowed = true) ∧
    ∀ facts, (evaluateContactPrivacy policy facts).allowed = true →
      (∀ limit ∈ (evaluateContactPrivacy policy facts).retentionLimits,
        ∃ request ∈ facts.requestedData, ∃ rule, request.dataClass = limit.dataClass.text ∧
          policy.rules limit.dataClass = some rule ∧ facts.now < limit.expiresAt ∧
          limit.expiresAt ≤ policy.expiresAt ∧ ∀ observed, request.observedAt = some observed →
            limit.expiresAt ≤ observed + rule.maxRetentionMilliseconds) ∧
      ∀ request ∈ facts.requestedData,
        ∃ limit ∈ (evaluateContactPrivacy policy facts).retentionLimits,
          limit.dataClass.text = request.dataClass := by
  refine ⟨?_, ?_⟩
  · intro facts stricter more timely allowed
    exact evaluateContactPrivacy_allowed_iff.mpr
      ((evaluateContactPrivacy_allowed_iff.mp allowed).antitone more timely)
  · intro facts allowed
    have permitted := evaluateContactPrivacy_allowed_iff.mp allowed
    have retained := evaluateContactPrivacy_limits allowed
    refine ⟨?_, ?_⟩
    · intro limit member
      obtain ⟨index, inside, rfl⟩ := List.getElem_of_mem member
      have bound := retained.length_eq ▸ inside
      obtain ⟨rule, ruled, limitEq⟩ := (List.forall₂_iff_get.mp retained).2 index bound inside
      obtain ⟨requested, named⟩ := (mem_canonical_of_distinct permitted.distinct).mp
        (List.getElem_mem bound)
      rw [List.get_eq_getElem, List.get_eq_getElem] at limitEq
      rw [limitEq]
      exact ⟨_, requested, rule, named, ruled.ruled, ruled.expiry permitted.current⟩
    · intro request member
      obtain ⟨dataClass, _, named, _⟩ := permitted.permitted request member
      have listed := (mem_canonical_of_distinct permitted.distinct).mpr ⟨member, named.symm⟩
      obtain ⟨index, inside, same⟩ := List.getElem_of_mem listed
      have bound := retained.length_eq ▸ inside
      obtain ⟨rule, _, limitEq⟩ := (List.forall₂_iff_get.mp retained).2 index inside bound
      refine ⟨_, List.getElem_mem bound, ?_⟩
      rw [List.get_eq_getElem, List.get_eq_getElem, same] at limitEq
      rw [limitEq]
      exact named

/-! ## A sample policy -/

def samplePrivacyPolicy : ContactPrivacyPolicySnapshot where
  version := "1.0.0"
  purposeRefs := ["prospecting"]
  territories := ["FR"]
  expiresAt := 100
  rules := fun
    | .employment => some ⟨[.enrich], 10⟩
    | _ => none

/-- Facts on the employment of a contact, observed at the instant 5. -/
def samplePrivacyFacts (requestedData : List RequestedContactData) (now : Instant) :
    ContactPrivacyFacts where
  action := .enrich
  purposeRef := some "prospecting"
  territory := some "FR"
  requestedData := requestedData
  explicitlyEnabledDataClasses := []
  activeRestrictions := []
  now := now

def sampleEmployment : RequestedContactData := ⟨"employment", some 5⟩

/-- A decision is denied when nothing is requested, when the same data is requested twice and
when it was observed in the future. -/
theorem contactPrivacy_notAntitone :
    ¬ (∀ policy facts stricter, RestrictsMore facts stricter →
      (evaluateContactPrivacy policy stricter).allowed = true →
        (evaluateContactPrivacy policy facts).allowed = true) ∧
    (RestrictsMore (samplePrivacyFacts [] 6) (samplePrivacyFacts [sampleEmployment] 6) ∧
      (evaluateContactPrivacy samplePrivacyPolicy (samplePrivacyFacts [] 6)).reasonCodes =
        [.dataClassMissing]) ∧
    (RestrictsMore (samplePrivacyFacts [sampleEmployment, sampleEmployment] 6)
        (samplePrivacyFacts [sampleEmployment] 6) ∧
      (evaluateContactPrivacy samplePrivacyPolicy
        (samplePrivacyFacts [sampleEmployment, sampleEmployment] 6)).reasonCodes =
          [.dataClassDuplicate]) ∧
    (RestrictsMore (samplePrivacyFacts [sampleEmployment] 4)
        (samplePrivacyFacts [sampleEmployment] 6) ∧
      (evaluateContactPrivacy samplePrivacyPolicy
        (samplePrivacyFacts [sampleEmployment] 4)).reasonCodes = [.observationTimeInvalid]) ∧
    (evaluateContactPrivacy samplePrivacyPolicy
      (samplePrivacyFacts [sampleEmployment] 6)).allowed = true := by
  have nothing : RestrictsMore (samplePrivacyFacts [] 6)
      (samplePrivacyFacts [sampleEmployment] 6) :=
    ⟨rfl, rfl, rfl, rfl, List.Subset.refl _, List.nil_subset _, le_refl _⟩
  have twice : RestrictsMore (samplePrivacyFacts [sampleEmployment, sampleEmployment] 6)
      (samplePrivacyFacts [sampleEmployment] 6) :=
    ⟨rfl, rfl, rfl, rfl, List.Subset.refl _, by simp [samplePrivacyFacts], le_refl _⟩
  have earlier : RestrictsMore (samplePrivacyFacts [sampleEmployment] 4)
      (samplePrivacyFacts [sampleEmployment] 6) :=
    ⟨rfl, rfl, rfl, rfl, List.Subset.refl _, List.Subset.refl _, by decide⟩
  have allowed : (evaluateContactPrivacy samplePrivacyPolicy
      (samplePrivacyFacts [sampleEmployment] 6)).allowed = true := by
    decide
  refine ⟨?_, ⟨nothing, by decide⟩, ⟨twice, by decide⟩,
    ⟨earlier, by decide⟩, allowed⟩
  intro antitone
  have denied : (evaluateContactPrivacy samplePrivacyPolicy
      (samplePrivacyFacts [] 6)).allowed = false := by
    decide
  rw [antitone _ _ _ nothing allowed] at denied
  cases denied

/-- The sample decision without its restrictions, at an earlier instant. -/
theorem contactPrivacy_isAntitone_employment :
    (evaluateContactPrivacy samplePrivacyPolicy
      (samplePrivacyFacts [sampleEmployment] 5)).allowed = true :=
  (contactPrivacy_isAntitone samplePrivacyPolicy).1 (samplePrivacyFacts [sampleEmployment] 5)
    (samplePrivacyFacts [sampleEmployment] 6)
    ⟨rfl, rfl, rfl, rfl, List.Subset.refl _, List.Subset.refl _, by decide⟩
    ⟨List.cons_ne_nil _ _, List.nodup_singleton _, by
      intro request member observed given
      rw [List.mem_singleton.mp member] at given
      cases given
      decide⟩
    (by decide)

end Kurobara.Engine
