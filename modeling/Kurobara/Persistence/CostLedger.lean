import Kurobara.Foundation.Fallible
import Kurobara.Foundation.Keyed
import Kurobara.Kernel.Run.Manifest

/-! # The cost ledger of a Run

Reservations, usage entries and the Run's running cost. A reservation leaves the
reserved state once, by a settlement or by a release; asking again for the same
movement answers with the recorded one, and any other movement is a conflict.
-/

namespace Kurobara.Persistence

open Kernel

/-- A transaction that throws one of these is rolled back. -/
inductive PersistenceError where
  | costLedgerInvariantViolation
  | databaseIdentityMismatch
  | immutableRecordConflict
  | runPlanConsumptionConflict
  | stepAttemptConflict
  | stepSettlementReceiptMismatch
  | uniqueViolation
  deriving DecidableEq, Repr

/-- The cost rows of a Run. -/
structure CostLedger where
  cost : ResultManifestCost
  reservations : List CostReservation
  usageEntries : List UsageEntry
  routingDecisions : List RoutingDecision
  deriving DecidableEq, Repr

/-- The input of a release. -/
structure CostReservationRelease where
  amount : Amount
  attemptId : AttemptId
  operationKey : OperationKey
  releasedAt : Instant
  reservationId : CostReservationId
  runId : RunId
  unit : String
  workspaceId : WorkspaceId
  deriving DecidableEq, Repr

/-- What the store answers to a reservation. -/
inductive CostReservationResult where
  | budgetExceeded
  | conflict
  | existing (reservation : CostReservation)
  | created (reservation : CostReservation)
  deriving DecidableEq, Repr

/-- What the store answers to a release. -/
inductive CostReservationReleaseResult where
  | conflict
  | existing (reservation : CostReservation)
  | released (reservation : CostReservation)
  deriving DecidableEq, Repr

/-- What the store answers to a settlement. -/
inductive CostReservationSettlementResult where
  | conflict
  | amountExceeded
  | existing (reservation : CostReservation) (usage : UsageEntry)
  | settled (reservation : CostReservation) (usage : UsageEntry)
  deriving DecidableEq, Repr

/-- What a reservation still holds back. -/
def reservedAmountOf (reservation : CostReservation) : Amount :=
  if reservation.state == .reserved then reservation.amount else 0

/-- What a reservation was settled at. -/
def settledAmountOf (reservation : CostReservation) : Amount :=
  match reservation.state with
  | .settled settledAmount .. => settledAmount
  | .reserved | .released _ => 0

/-- What a reservation gave back. -/
def releasedAmountOf (reservation : CostReservation) : Amount :=
  match reservation.state with
  | .reserved => 0
  | .settled _ releasedAmount .. => releasedAmount
  | .released _ => reservation.amount

/-- The receipt of a reservation that left the reserved state. -/
def receiptOf (reservation : CostReservation) : Option AttemptSettlementProof :=
  let identity : AttemptSettlementIdentity :=
    ⟨reservation.attemptId, reservation.operationKey, reservation.reservationId, reservation.unit⟩
  match reservation.state with
  | .reserved => none
  | .released _ => some (.released ⟨identity, reservation.amount⟩)
  | .settled settledAmount releasedAmount _ usageEntryId =>
      some (.settled identity releasedAmount settledAmount usageEntryId)

/-- The stored reservation is the requested one. -/
def reservationMatches (existing requested : CostReservation) : Bool :=
  existing.workspaceId == requested.workspaceId && existing.runId == requested.runId &&
    existing.attemptId == requested.attemptId &&
    existing.reservationId == requested.reservationId &&
    existing.operationKey == requested.operationKey &&
    existing.stepRunId == requested.stepRunId && existing.unit == requested.unit &&
    existing.amount == requested.amount

/-- The release is of this reservation. -/
def reservationMatchesRelease (reservation : CostReservation) (input : CostReservationRelease) :
    Bool :=
  reservation.workspaceId == input.workspaceId && reservation.runId == input.runId &&
    reservation.attemptId == input.attemptId &&
    reservation.reservationId == input.reservationId &&
    reservation.operationKey == input.operationKey && reservation.unit == input.unit &&
    reservation.amount == input.amount

/-- The usage is of this reservation. -/
def reservationMatchesUsage (reservation : CostReservation) (usage : UsageEntry) : Bool :=
  reservation.workspaceId == usage.workspaceId && reservation.runId == usage.runId &&
    reservation.attemptId == usage.attemptId &&
    reservation.reservationId == usage.reservationId &&
    reservation.operationKey == usage.operationKey && reservation.unit == usage.unit

/-- Two usage entries that agree on everything but the time of recording. -/
def usageMatches (existing requested : UsageEntry) : Bool :=
  existing.workspaceId == requested.workspaceId && existing.runId == requested.runId &&
    existing.attemptId == requested.attemptId &&
    existing.reservationId == requested.reservationId &&
    existing.operationKey == requested.operationKey &&
    existing.usageEntryId == requested.usageEntryId && existing.unit == requested.unit &&
    existing.amount == requested.amount &&
    existing.reconciliationProofId == requested.reconciliationProofId

namespace CostLedger

/-- The recorded reservation with the identity or for the attempt of a requested one. -/
def findReservation (ledger : CostLedger) (reservation : CostReservation) :
    Option CostReservationResult :=
  match ledger.reservations.filter fun known =>
      known.reservationId == reservation.reservationId ||
        known.attemptId == reservation.attemptId with
  | [] => none
  | [exact] => some (if reservationMatches exact reservation then .existing exact else .conflict)
  | _ => some .conflict

/-- Spent, reserved and requested together stay within the limit, in the same unit. -/
def fitsReservationBudget (ledger : CostLedger) (budget : BudgetLimit)
    (reservation : CostReservation) : Bool :=
  ledger.cost.unit == reservation.unit && budget.unit == reservation.unit &&
    isAmount ledger.cost.spent && isAmount ledger.cost.reserved && isAmount reservation.amount &&
    isAmount budget.limit &&
    decide (ledger.cost.spent + ledger.cost.reserved + reservation.amount ≤ budget.limit)

/-- `bindStepOperation`: an operation key is bound to the step of its first reservation. -/
def bindsStepOperation (ledger : CostLedger) (reservation : CostReservation) : Bool :=
  ledger.reservations.all fun known => known.operationKey != reservation.operationKey ||
    known.stepRunId == reservation.stepRunId

/-- Stores a reservation and adds it to the totals. -/
def persistReservation (ledger : CostLedger) (reservation : CostReservation) : CostLedger :=
  { ledger with
    reservations := ledger.reservations ++ [reservation]
    cost := { ledger.cost with reserved := ledger.cost.reserved + reservation.amount } }

def getReservationForSettlement (ledger : CostLedger) (reservationId : CostReservationId) :
    Option CostReservation :=
  ledger.reservations.find? fun reservation => reservation.reservationId == reservationId

/-- Move a reservation out of the Run's reserved cost. -/
def updateRunCostAfterReservation (ledger : CostLedger) (reservation : CostReservation)
    (spentDelta : Amount) : Except PersistenceError CostLedger :=
  if ledger.cost.unit == reservation.unit && decide (reservation.amount ≤ ledger.cost.reserved) then
    .ok { ledger with cost := { ledger.cost with
      reserved := ledger.cost.reserved - reservation.amount
      spent := ledger.cost.spent + spentDelta } }
  else .error .costLedgerInvariantViolation

private def replaceReservation (ledger : CostLedger) (replacement : CostReservation) : CostLedger :=
  { ledger with reservations := ledger.reservations.map fun known =>
      if known.reservationId == replacement.reservationId && known.state == .reserved then
        replacement
      else known }

/-- The usage entries with this identity or for this reservation. -/
def usageForSettlement (ledger : CostLedger) (usage : UsageEntry) : List UsageEntry :=
  ledger.usageEntries.filter fun entry =>
    entry.usageEntryId == usage.usageEntryId || entry.reservationId == usage.reservationId

def findUsageForSettlement (ledger : CostLedger) (usage : UsageEntry) : Option UsageEntry :=
  match ledger.usageForSettlement usage with
  | [exact] => some exact
  | _ => none

/-- Both identities of a usage entry are unique. -/
def insertUsage (ledger : CostLedger) (usage : UsageEntry) : Except PersistenceError CostLedger :=
  if (ledger.usageForSettlement usage).isEmpty then
    .ok { ledger with usageEntries := ledger.usageEntries ++ [usage] }
  else .error .immutableRecordConflict

end CostLedger

def reserveStepCost (ledger : CostLedger) (budget : BudgetLimit) (reservation : CostReservation) :
    CostReservationResult × CostLedger :=
  match ledger.findReservation reservation with
  | some result => (result, ledger)
  | none =>
      if !ledger.fitsReservationBudget budget reservation then (.budgetExceeded, ledger)
      else if !ledger.bindsStepOperation reservation then (.conflict, ledger)
      else (.created reservation, ledger.persistReservation reservation)

def releaseStepCost (ledger : CostLedger) (input : CostReservationRelease) :
    Except PersistenceError (CostReservationReleaseResult × CostLedger) :=
  match ledger.getReservationForSettlement input.reservationId with
  | none => .ok (.conflict, ledger)
  | some reservation =>
      if !isAmount input.amount || !reservationMatchesRelease reservation input then
        .ok (.conflict, ledger)
      else
        match reservation.state with
        | .settled .. => .ok (.conflict, ledger)
        | .released _ => .ok (.existing reservation, ledger)
        | .reserved =>
            let released := { reservation with state := .released input.releasedAt }
            (ledger.updateRunCostAfterReservation reservation 0).map fun moved =>
              (.released released, moved.replaceReservation released)

def settleStepCost (ledger : CostLedger) (usage : UsageEntry) :
    Except PersistenceError (CostReservationSettlementResult × CostLedger) :=
  match ledger.getReservationForSettlement usage.reservationId with
  | none => .ok (.conflict, ledger)
  | some reservation =>
      if !isAmount usage.amount || !reservationMatchesUsage reservation usage then
        .ok (.conflict, ledger)
      else
        match reservation.state with
        | .released _ => .ok (.conflict, ledger)
        | .settled .. =>
            if reservation.amount < usage.amount then .ok (.amountExceeded, ledger)
            else
              match ledger.findUsageForSettlement usage with
              | some existing =>
                  if usageMatches existing usage then .ok (.existing reservation existing, ledger)
                  else .ok (.conflict, ledger)
              | none => .ok (.conflict, ledger)
        | .reserved =>
            if reservation.amount < usage.amount then .ok (.amountExceeded, ledger)
            else if (ledger.findUsageForSettlement usage).isSome then .ok (.conflict, ledger)
            else
              let settled := { reservation with
                state := .settled usage.amount (reservation.amount - usage.amount)
                  usage.recordedAt usage.usageEntryId }
              (ledger.insertUsage usage).bind fun recorded =>
                (recorded.updateRunCostAfterReservation reservation usage.amount).map fun moved =>
                  (.settled settled usage, moved.replaceReservation settled)

/-! ## What a movement does -/

/-- The reservation that a movement answers with. -/
def CostReservationResult.reservation : CostReservationResult → Option CostReservation
  | .budgetExceeded | .conflict => none
  | .existing reservation | .created reservation => some reservation

def CostReservationReleaseResult.reservation : CostReservationReleaseResult →
    Option CostReservation
  | .conflict => none
  | .existing reservation | .released reservation => some reservation

def CostReservationSettlementResult.reservation : CostReservationSettlementResult →
    Option CostReservation
  | .conflict | .amountExceeded => none
  | .existing reservation _ | .settled reservation _ => some reservation

/-- What was settled and released of a reservation adds up to it. -/
structure ReceiptIsExact (reservation : CostReservation) : Prop where
  amount : 0 ≤ reservation.amount
  settled : 0 ≤ settledAmountOf reservation
  released : 0 ≤ releasedAmountOf reservation
  total : reservation.state ≠ .reserved →
    settledAmountOf reservation + releasedAmountOf reservation = reservation.amount

/-- A movement finds its reservation concluded, or concludes it and moves the cost of the
Run by its amounts. -/
inductive CostConclusion (before : CostLedger) (concluded : CostReservation) :
    CostLedger → Prop where
  | existing (member : concluded ∈ before.reservations) (done : concluded.state ≠ .reserved) :
      CostConclusion before concluded before
  | fresh (reservation : CostReservation) (after : CostLedger)
      (member : reservation ∈ before.reservations) (reserved : reservation.state = .reserved)
      (terms : concluded = { reservation with state := concluded.state })
      (done : concluded.state ≠ .reserved) (exact : ReceiptIsExact concluded)
      (moved : after.reservations = (before.replaceReservation concluded).reservations)
      (cost : after.cost = { before.cost with
        reserved := before.cost.reserved - reservation.amount
        spent := before.cost.spent + settledAmountOf concluded }) :
      CostConclusion before concluded after

private theorem updateRunCostAfterReservation_ok {ledger moved : CostLedger}
    {reservation : CostReservation}
    {spentDelta : Amount}
    (updated : ledger.updateRunCostAfterReservation reservation spentDelta = .ok moved) :
    moved = { ledger with cost := { ledger.cost with
      reserved := ledger.cost.reserved - reservation.amount
      spent := ledger.cost.spent + spentDelta } } := by
  unfold CostLedger.updateRunCostAfterReservation at updated
  split at updated
  · exact (Except.ok.inj updated).symm
  · cases updated

/-- A release concludes the reservation, or it has been concluded so before. -/
theorem releaseStepCost_conclusion {ledger after : CostLedger} {input : CostReservationRelease}
    {result : CostReservationReleaseResult} {concluded : CostReservation}
    (released : releaseStepCost ledger input = .ok (result, after))
    (answered : result.reservation = some concluded) : CostConclusion ledger concluded after := by
  unfold releaseStepCost at released
  split at released
  · cases released
    cases answered
  rename_i reservation found
  have member := List.mem_of_find?_eq_some found
  split at released
  · cases released
    cases answered
  rename_i matched
  split at released
  · cases released
    cases answered
  · rename_i state
    cases released
    cases answered
    exact .existing member (by rw [state]; exact CostReservationState.noConfusion)
  · rename_i state
    obtain ⟨moved, updated, answer⟩ := Foundation.map_eq_ok.mp released
    cases answer
    cases answered
    rw [updateRunCostAfterReservation_ok updated]
    simp only [reservationMatchesRelease, Bool.or_eq_true, not_or, Bool.not_eq_true',
      Bool.not_eq_false, Bool.and_eq_true, isAmount_iff, beq_iff_eq] at matched
    have nonneg : 0 ≤ reservation.amount := by
      rw [matched.2.2]
      exact matched.1
    exact .fresh reservation _ member state rfl CostReservationState.noConfusion
      ⟨nonneg, le_refl _, nonneg, fun _ => zero_add _⟩ rfl rfl

/-- A settlement concludes the reservation, or it has been concluded so before. -/
theorem settleStepCost_conclusion {ledger after : CostLedger} {usage : UsageEntry}
    {result : CostReservationSettlementResult} {concluded : CostReservation}
    (settled : settleStepCost ledger usage = .ok (result, after))
    (answered : result.reservation = some concluded) : CostConclusion ledger concluded after := by
  unfold settleStepCost at settled
  split at settled
  · cases settled
    cases answered
  rename_i reservation found
  have member := List.mem_of_find?_eq_some found
  split at settled
  · cases settled
    cases answered
  rename_i matched
  split at settled
  · cases settled
    cases answered
  · rename_i state
    split at settled
    · cases settled
      cases answered
    split at settled
    · split at settled
      · cases settled
        cases answered
        exact .existing member (by rw [state]; exact CostReservationState.noConfusion)
      · cases settled
        cases answered
    · cases settled
      cases answered
  · rename_i state
    split at settled
    · cases settled
      cases answered
    rename_i fits
    split at settled
    · cases settled
      cases answered
    obtain ⟨recorded, inserted, rest⟩ := Foundation.bind_eq_ok.mp settled
    obtain ⟨moved, updated, answer⟩ := Foundation.map_eq_ok.mp rest
    cases answer
    cases answered
    rw [updateRunCostAfterReservation_ok updated]
    unfold CostLedger.insertUsage at inserted
    split at inserted
    · cases inserted
      simp only [Bool.or_eq_true, not_or, Bool.not_eq_true', Bool.not_eq_false, isAmount_iff]
        at matched
      exact .fresh reservation _ member state rfl CostReservationState.noConfusion
        ⟨matched.1.trans (not_lt.mp fits), matched.1, sub_nonneg.mpr (not_lt.mp fits),
          fun _ => add_sub_cancel _ _⟩ rfl rfl
    · cases inserted

/-- Under distinct identifiers one reservation is replaced. -/
theorem replaceReservation_split {ledger : CostLedger} {reservation concluded : CostReservation}
    (distinct : (ledger.reservations.map CostReservation.reservationId).Nodup)
    (member : reservation ∈ ledger.reservations) (reserved : reservation.state = .reserved)
    (identity : concluded.reservationId = reservation.reservationId) :
    ∃ earlier later, ledger.reservations = earlier ++ reservation :: later ∧
      (ledger.replaceReservation concluded).reservations = earlier ++ concluded :: later := by
  obtain ⟨earlier, later, split, others⟩ := Foundation.exists_split_of_mem distinct member
  refine ⟨earlier, later, split, ?_⟩
  have kept : ∀ known ∈ earlier ++ later,
      (if known.reservationId == concluded.reservationId && known.state == .reserved then concluded
        else known) = known := by
    intro known inside
    have different : known.reservationId ≠ concluded.reservationId := by
      rw [identity]
      exact others known inside
    simp [different]
  have keptAll : ∀ entries, entries ⊆ earlier ++ later → entries.map (fun known =>
      if known.reservationId == concluded.reservationId && known.state == .reserved then concluded
        else known) = entries := by
    intro entries inside
    exact (List.map_congr_left fun known member => kept known (inside member)).trans
      (List.map_id entries)
  simp only [CostLedger.replaceReservation, split, List.map_append, List.map_cons,
    keptAll earlier (List.subset_append_left _ _), keptAll later (List.subset_append_right _ _)]
  simp [identity, reserved]

private theorem findReservation_none {ledger : CostLedger} {reservation : CostReservation}
    (absent : ledger.findReservation reservation = none) :
    ∀ known ∈ ledger.reservations, known.reservationId ≠ reservation.reservationId ∧
      known.attemptId ≠ reservation.attemptId := by
  unfold CostLedger.findReservation at absent
  split at absent
  · rename_i empty
    intro known member
    simpa using List.filter_eq_nil_iff.mp empty known member
  · cases absent
  · cases absent

private theorem findReservation_existing {ledger : CostLedger}
    {reservation existing : CostReservation}
    {result : CostReservationResult} (found : ledger.findReservation reservation = some result)
    (answered : result.reservation = some existing) :
    existing ∈ ledger.reservations ∧ reservationMatches existing reservation = true := by
  unfold CostLedger.findReservation at found
  split at found
  · cases found
  · rename_i exact only
    have member : exact ∈ ledger.reservations :=
      List.mem_of_mem_filter (only ▸ List.mem_singleton_self exact)
    by_cases matched : reservationMatches exact reservation = true
    · rw [if_pos matched] at found
      cases found
      cases answered
      exact ⟨member, matched⟩
    · rw [if_neg matched] at found
      cases found
      cases answered
  · cases found
    cases answered

/-- A reservation that is granted was recorded before, or is recorded for a fresh identity
and attempt. -/
inductive CostGrant (before : CostLedger) (reservation : CostReservation) : CostLedger → Prop where
  | existing (existing : CostReservation) (member : existing ∈ before.reservations)
      (matched : reservationMatches existing reservation = true) :
      CostGrant before reservation before
  | created (amount : 0 ≤ reservation.amount)
      (fresh : ∀ known ∈ before.reservations, known.reservationId ≠ reservation.reservationId ∧
        known.attemptId ≠ reservation.attemptId) :
      CostGrant before reservation (before.persistReservation reservation)

/-- A granted reservation is new and within the budget, or it is the stored one. -/
theorem reserveStepCost_grant {ledger after : CostLedger} {budget : BudgetLimit}
    {reservation granted : CostReservation} {result : CostReservationResult}
    (reserved : reserveStepCost ledger budget reservation = (result, after))
    (answered : result.reservation = some granted) : CostGrant ledger reservation after := by
  unfold reserveStepCost at reserved
  split at reserved
  · rename_i found
    cases reserved
    obtain ⟨member, matched⟩ := findReservation_existing found answered
    exact .existing granted member matched
  rename_i absent
  split at reserved
  · cases reserved
    cases answered
  rename_i fits
  split at reserved
  · cases reserved
    cases answered
  cases reserved
  simp only [CostLedger.fitsReservationBudget, Bool.not_eq_true', Bool.not_eq_false,
    Bool.and_eq_true, isAmount_iff] at fits
  exact .created fits.1.1.2 (findReservation_none absent)

end Kurobara.Persistence
