import Kurobara.Foundation.Fallible
import Kurobara.Kernel.Generation.Plan
import Mathlib.Tactic.Linarith

/-! # The preflight of a sourcing budget

`evaluateSourcingBudgetPreflight` of the policy engine, over an arbitrary runtime value: the
facts are read property by property, each check reports its reasons, and only facts without
a reason are allowed, with a hard cap on what the execution may cost.
-/

namespace Kurobara.Engine

open Foundation Kernel

/-! ## Runtime values -/

/-- A number as the runtime has it; finite numbers stand as their exact values. -/
inductive JsNumber where
  | finite (value : ℚ)
  | infinite (negative : Bool)
  | nan
  deriving DecidableEq, Repr

/-- What reading an own property gives; a hostile object throws. -/
inductive OwnValueRead (Value : Type) where
  | missing
  | accessor
  | value (value : Value)
  | thrown

/-- A property key of a plain object. -/
inductive PropertyKey where
  | name (key : String)
  | symbol (description : String)
  deriving DecidableEq, Repr

/-- An object as its reads answer, and the keys that it lists, unless listing throws. -/
structure JsObject (Value : Type) where
  read : String → OwnValueRead Value
  ownKeys : Option (List PropertyKey)

/-- A value that is no record is `other` unless the checks tell it apart. -/
inductive JsValue where
  | undefined
  | number (value : JsNumber)
  | text (value : String)
  | record (object : JsObject JsValue)
  | other

/-- A trap or a constructor threw. -/
structure JsThrown where
  deriving DecidableEq, Repr

namespace JsNumber

/-- The integer of a number for which `Number.isSafeInteger` holds. -/
def safeInteger? : JsNumber → Option ℤ
  | .finite value => if value.den = 1 ∧ isSafeInteger value.num then some value.num else none
  | _ => none

/-- The instant of a non-negative safe integer. -/
def instant? (number : JsNumber) : Option Instant :=
  number.safeInteger?.filter fun value => decide (0 ≤ value)

/-- The amount of a number for which `isAmount` holds. -/
def amount? : JsNumber → Option Amount
  | .finite value => if isAmount value then some value else none
  | _ => none

/-- `left <= right`; nothing compares with NaN. -/
def lessEqual : JsNumber → JsNumber → Bool
  | .nan, _ | _, .nan => false
  | .infinite true, _ | _, .infinite false => true
  | .infinite false, _ | _, .infinite true => false
  | .finite left, .finite right => decide (left ≤ right)

end JsNumber

/-- `instant`, which throws on a number that is no instant. -/
def instant (number : JsNumber) : Except JsThrown Instant :=
  match number.instant? with
  | some value => .ok value
  | none => .error {}

namespace JsObject

variable (object : JsObject JsValue)

/-- Reads an own property; a getter may throw. -/
def readOwnValue (key : String) : Except JsThrown (OwnValueRead JsValue) :=
  match object.read key with
  | .thrown => .error {}
  | read => .ok read

def ownValue (key : String) : Except JsThrown JsValue :=
  (object.readOwnValue key).map fun
    | .value value => value
    | _ => .undefined

end JsObject

namespace JsValue

private def number? : JsValue → Option JsNumber
  | .number value => some value
  | _ => none

private def text? : JsValue → Option String
  | .text value => some value
  | _ => none

def isUndefined : JsValue → Bool
  | .undefined => true
  | _ => false

end JsValue

/-! ## Facts -/

/-- The limits of a sourcing request. -/
inductive SourcingLimitName where
  | maxCompanies
  | maxContactsPerCompany
  | maxContactsTotal
  | maxEnrichments
  | maxPhones
  | maxResults
  | maxPages
  | maxCalls
  deriving DecidableEq, Repr

def SourcingLimitName.text : SourcingLimitName → String
  | .maxCompanies => "maxCompanies"
  | .maxContactsPerCompany => "maxContactsPerCompany"
  | .maxContactsTotal => "maxContactsTotal"
  | .maxEnrichments => "maxEnrichments"
  | .maxPhones => "maxPhones"
  | .maxResults => "maxResults"
  | .maxPages => "maxPages"
  | .maxCalls => "maxCalls"

def sourcingLimitNames : List SourcingLimitName :=
  [.maxCompanies, .maxContactsPerCompany, .maxContactsTotal, .maxEnrichments, .maxPhones,
    .maxResults, .maxPages, .maxCalls]

abbrev SourcingCardinalityLimits := SourcingLimitName → ℤ

/-- The limits as they were given, before any check of the numbers. -/
structure NormalizedLimitInput where
  hasUnknown : Bool
  values : SourcingLimitName → JsValue

/-- The budget as it was given. -/
structure NormalizedBudget where
  limit : JsNumber
  reserved : JsNumber
  spent : JsNumber
  unit : String
  deriving DecidableEq, Repr

/-- The quote as it was given. -/
structure NormalizedQuote where
  expiresAt : JsNumber
  guarantee : String
  pricingVersion : String
  quoteId : String
  unit : String
  upperBound : Option JsNumber
  deriving DecidableEq, Repr

inductive UnknownSourcingCostMode where
  | deny
  | explicitNonInteractive
  deriving DecidableEq, Repr

/-- The policy on unknown costs as it was given. -/
structure NormalizedUnknownCostPolicy where
  hardCap : Option JsNumber
  mode : UnknownSourcingCostMode
  deriving DecidableEq, Repr

/-- The facts once every property was read. -/
structure NormalizedSourcingBudgetPreflightFacts where
  budget : NormalizedBudget
  deadline : JsNumber
  limits : NormalizedLimitInput
  now : JsNumber
  quote : NormalizedQuote
  unknownCostPolicy : NormalizedUnknownCostPolicy

inductive SourcingBudgetPreflightReasonCode where
  | inputInvalid
  | limitUnknown
  | limitMissing
  | limitInvalid
  | limitOverflow
  | limitsInconsistent
  | deadlineInvalid
  | deadlineElapsed
  | budgetInvalid
  | quoteInvalid
  | quoteExpired
  | quoteUnitMismatch
  | quoteUpperBoundRequired
  | quoteExceedsBudget
  | unknownCostAuthorizationRequired
  | unknownCostHardCapRequired
  | unknownCostHardCapInvalid
  | allowed
  deriving DecidableEq, Repr

/-- What an allowed preflight lets the caller rely on. -/
structure SourcingBudgetPreflightSnapshot where
  budget : NormalizedBudget
  deadline : Instant
  hardExecutionCap : Amount
  limits : SourcingCardinalityLimits
  quote : CostQuote

/-- The answer of a preflight. -/
structure SourcingBudgetPreflightDecision where
  allowed : Bool
  reasonCodes : List SourcingBudgetPreflightReasonCode
  snapshot : Option SourcingBudgetPreflightSnapshot
  stopExternalEffects : Bool
  stopFallback : Bool

/-! ## Reading the facts -/

/-- An own number, or none at all; anything else is refused. -/
def readOptionalNumber (source : JsObject JsValue) (key : String) :
    Except JsThrown (Option (Option JsNumber)) :=
  (source.readOwnValue key).map fun
    | .missing => some none
    | .value (.number value) => some (some value)
    | _ => none

def knownLimitNames : List PropertyKey :=
  sourcingLimitNames.map fun name => .name name.text

/-- The reads of all limits, in the order of the source, and the keys of the limits. -/
def normalizeLimits (source : JsObject JsValue) :
    Except JsThrown (Option NormalizedLimitInput) := do
  let reads ← sourcingLimitNames.mapM fun name =>
    (source.readOwnValue name.text).map fun read => (name, read)
  if reads.any fun read => read.2 matches .accessor then return none
  match source.ownKeys with
  | none => throw {}
  | some keys =>
      return some {
        hasUnknown := keys.any fun key => !knownLimitNames.contains key
        values := fun name =>
          match reads.find? fun read => read.1 == name with
          | some (_, .value value) => value
          | _ => .undefined }

private def unknownCostMode : JsValue → Option UnknownSourcingCostMode
  | .text "deny" => some .deny
  | .text "explicit-non-interactive" => some .explicitNonInteractive
  | _ => none

/-- `normalizeFacts`: none where a shape is wrong, an exception where a getter throws. -/
def normalizeFacts (value : JsValue) :
    Except JsThrown (Option NormalizedSourcingBudgetPreflightFacts) := do
  let .record facts := value | return none
  let .record budgetSource ← facts.ownValue "budget" | return none
  let .record limitsSource ← facts.ownValue "limits" | return none
  let .record quoteSource ← facts.ownValue "quote" | return none
  let .record policySource ← facts.ownValue "unknownCostPolicy" | return none
  let some deadline := (← facts.ownValue "deadline").number? | return none
  let some now := (← facts.ownValue "now").number? | return none
  let some limit := (← budgetSource.ownValue "limit").number? | return none
  let some reserved := (← budgetSource.ownValue "reserved").number? | return none
  let some spent := (← budgetSource.ownValue "spent").number? | return none
  let some budgetUnit := (← budgetSource.ownValue "unit").text? | return none
  let some expiresAt := (← quoteSource.ownValue "expiresAt").number? | return none
  let some guarantee := (← quoteSource.ownValue "guarantee").text? | return none
  let some pricingVersion := (← quoteSource.ownValue "pricingVersion").text? | return none
  let some quoteId := (← quoteSource.ownValue "quoteId").text? | return none
  let some quoteUnit := (← quoteSource.ownValue "unit").text? | return none
  let some mode := unknownCostMode (← policySource.ownValue "mode") | return none
  let some upperBound ← readOptionalNumber quoteSource "upperBound" | return none
  let some hardCap ← readOptionalNumber policySource "hardCap" | return none
  let some limits ← normalizeLimits limitsSource | return none
  if mode == .deny && hardCap.isSome then return none
  return some {
    budget := ⟨limit, reserved, spent, budgetUnit⟩
    deadline
    limits
    now
    quote := ⟨expiresAt, guarantee, pricingVersion, quoteId, quoteUnit, upperBound⟩
    unknownCostPolicy := ⟨hardCap, mode⟩ }

/-! ## Checks -/

/-- The value of a limit that is a non-negative safe integer. -/
def limitOf : JsValue → Option ℤ
  | .number value => value.instant?
  | _ => none

private def limitsAreInconsistent (limits : SourcingCardinalityLimits) : Bool :=
  let contactCapacity := limits .maxCompanies * limits .maxContactsPerCompany
  let companies := decide (0 < limits .maxCompanies)
  let contactsPerCompany := decide (0 < limits .maxContactsPerCompany)
  let contacts := decide (0 < limits .maxContactsTotal)
  (decide (limits .maxCompanies = 0) && contactsPerCompany) ||
    (contacts && companies != contactsPerCompany) ||
    (companies && contactsPerCompany && decide (contactCapacity < limits .maxContactsTotal)) ||
    decide (limits .maxContactsTotal < limits .maxEnrichments) ||
    decide (limits .maxEnrichments < limits .maxPhones) ||
    decide (limits .maxCalls < limits .maxPages)

/-- The reasons against the limits, and the limits when they are complete. -/
def readLimits (input : NormalizedLimitInput) :
    List SourcingBudgetPreflightReasonCode × Option SourcingCardinalityLimits :=
  let unknown := reportedWhen input.hasUnknown .limitUnknown
  let missing := sourcingLimitNames.any fun name => (input.values name).isUndefined
  let invalid := sourcingLimitNames.any fun name =>
    !(input.values name).isUndefined && (limitOf (input.values name)).isNone
  if missing || invalid then
    (unknown ++ reportedWhen missing .limitMissing ++ reportedWhen invalid .limitInvalid, none)
  else
    let limits name := (limitOf (input.values name)).getD 0
    if !isSafeInteger (limits .maxCompanies * limits .maxContactsPerCompany) then
      (unknown ++ [.limitOverflow], none)
    else
      (unknown ++ reportedWhen (limitsAreInconsistent limits) .limitsInconsistent, some limits)

/-- The reasons against the deadline. -/
def deadlineReasons (facts : NormalizedSourcingBudgetPreflightFacts) :
    List SourcingBudgetPreflightReasonCode :=
  match facts.now.instant?, facts.deadline.instant? with
  | some now, some deadline => reportedWhen (decide (deadline ≤ now)) .deadlineElapsed
  | _, _ => [.deadlineInvalid]

/-- What is left of the budget, where its numbers are amounts. -/
def budgetRemaining (budget : NormalizedBudget) : Option Amount :=
  match budget.limit.amount?, budget.spent.amount?, budget.reserved.amount? with
  | some limit, some spent, some reserved =>
      if nonBlank budget.unit && decide (spent + reserved ≤ limit) then
        some (limit - spent - reserved)
      else none
  | _, _, _ => none

def quoteGuarantee : String → Option QuoteGuarantee
  | "hard" => some .hard
  | "estimated" => some .estimated
  | "unknown" => some .unknown
  | _ => none

/-- The quote with its numbers checked. -/
def validatedQuote (quote : NormalizedQuote) : Option CostQuote :=
  match quoteGuarantee quote.guarantee, quote.expiresAt.instant? with
  | some guarantee, some expiresAt =>
      if nonBlank quote.quoteId && nonBlank quote.unit && nonBlank quote.pricingVersion &&
          quote.upperBound.all fun bound => bound.amount?.isSome then
        some ⟨quote.quoteId, guarantee, quote.unit, quote.upperBound.bind JsNumber.amount?,
          quote.pricingVersion, expiresAt⟩
      else none
  | _, _ => none

/-- The cap under which an unknown cost may be executed, or the reason against it. -/
def unknownCostCap (policy : NormalizedUnknownCostPolicy) (remainingBudget : Option Amount) :
    List SourcingBudgetPreflightReasonCode × Option Amount :=
  match policy.mode, policy.hardCap with
  | .deny, _ => ([.unknownCostAuthorizationRequired], none)
  | .explicitNonInteractive, none => ([.unknownCostHardCapRequired], none)
  | .explicitNonInteractive, some hardCap =>
      match hardCap.amount? with
      | none => ([.unknownCostHardCapInvalid], none)
      | some cap =>
          if remainingBudget.any fun remaining => decide (remaining < cap) then
            ([.unknownCostHardCapInvalid], none)
          else ([], some cap)

/-- The reasons against the quote, with the cap it gives. -/
structure QuoteEvaluation where
  reasonCodes : List SourcingBudgetPreflightReasonCode
  hardExecutionCap : Option Amount
  quote : Option CostQuote

/-- The reasons against a valid quote, whatever its guarantee. -/
def quoteReasons (facts : NormalizedSourcingBudgetPreflightFacts) (quote : CostQuote)
    (remainingBudget : Option Amount) : List SourcingBudgetPreflightReasonCode :=
  reportedWhen (facts.quote.expiresAt.lessEqual facts.now) .quoteExpired ++
  reportedWhen (facts.quote.unit != facts.budget.unit) .quoteUnitMismatch ++
  reportedWhen (quote.guarantee != .unknown && quote.upperBound.isNone)
    .quoteUpperBoundRequired ++
  reportedWhen (remainingBudget.any fun remaining =>
    quote.upperBound.any fun upperBound => decide (remaining < upperBound)) .quoteExceedsBudget

/-- The quote against the remaining budget and the policy on unknown costs. -/
def evaluateQuote (facts : NormalizedSourcingBudgetPreflightFacts)
    (remainingBudget : Option Amount) : QuoteEvaluation :=
  match validatedQuote facts.quote with
  | none => ⟨[.quoteInvalid], none, none⟩
  | some quote =>
      let reasonCodes := quoteReasons facts quote remainingBudget
      match quote.guarantee with
      | .unknown =>
          let (unknown, cap) := unknownCostCap facts.unknownCostPolicy remainingBudget
          ⟨reasonCodes ++ unknown, cap, some quote⟩
      | .hard => ⟨reasonCodes, (quote.upperBound.bind fun upperBound =>
          remainingBudget.map fun remaining => min upperBound remaining), some quote⟩
      | .estimated =>
          ⟨reasonCodes, (quote.upperBound.bind fun _ => remainingBudget), some quote⟩

/-! ## The decision -/

private def deniedDecision (reasonCodes : List SourcingBudgetPreflightReasonCode) :
    SourcingBudgetPreflightDecision :=
  ⟨false, reasonCodes, none, true, true⟩

/-- All reasons against the facts, in the order in which they are found. -/
def denialReasons (facts : NormalizedSourcingBudgetPreflightFacts) :
    List SourcingBudgetPreflightReasonCode :=
  let remainingBudget := budgetRemaining facts.budget
  (readLimits facts.limits).1 ++ deadlineReasons facts ++
    reportedWhen remainingBudget.isNone .budgetInvalid ++
    (evaluateQuote facts remainingBudget).reasonCodes

/-- The decision on facts that could be read. -/
def evaluateSafeSourcingBudgetPreflight (facts : NormalizedSourcingBudgetPreflightFacts) :
    Except JsThrown SourcingBudgetPreflightDecision :=
  let reasonCodes := denialReasons facts
  let evaluated := evaluateQuote facts (budgetRemaining facts.budget)
  match reasonCodes.isEmpty, (readLimits facts.limits).2, evaluated.hardExecutionCap,
      evaluated.quote with
  | true, some limits, some hardExecutionCap, some quote =>
      (instant facts.deadline).map fun deadline =>
        ⟨true, [.allowed], some ⟨facts.budget, deadline, hardExecutionCap, limits, quote⟩,
          false, false⟩
  | _, _, _, _ => .ok (deniedDecision reasonCodes)

def invalidInputDecision : SourcingBudgetPreflightDecision :=
  deniedDecision [.inputInvalid]

/-- Whatever throws is caught, and denied as invalid input. -/
def evaluateSourcingBudgetPreflight (facts : JsValue) :
    Except JsThrown SourcingBudgetPreflightDecision :=
  let evaluated := (normalizeFacts facts).bind fun
    | some normalized => evaluateSafeSourcingBudgetPreflight normalized
    | none => .ok invalidInputDecision
  match evaluated with
  | .ok decision => .ok decision
  | .error _ => .ok invalidInputDecision

/-! ## Facts without a reason -/

/-- The cost of the quote fits the remaining budget: a known cost by its upper bound, an
unknown one by the cap that authorizes it. -/
structure CostIsAffordable (facts : NormalizedSourcingBudgetPreflightFacts) (remaining : Amount)
    (quote : CostQuote) : Prop where
  bound : ∀ upperBound, quote.upperBound = some upperBound → upperBound ≤ remaining
  known : quote.guarantee ≠ .unknown → ∃ upperBound, quote.upperBound = some upperBound
  unknown : quote.guarantee = .unknown → facts.unknownCostPolicy.mode = .explicitNonInteractive ∧
    ∃ hardCap cap, facts.unknownCostPolicy.hardCap = some hardCap ∧ hardCap.amount? = some cap ∧
      cap ≤ remaining

/-- Facts that the preflight allows. -/
structure PreflightIsClear (facts : NormalizedSourcingBudgetPreflightFacts) : Prop where
  limits : (readLimits facts.limits).1 = []
  instants : ∃ now deadline, facts.now.instant? = some now ∧
    facts.deadline.instant? = some deadline ∧ now < deadline
  current : facts.quote.expiresAt.lessEqual facts.now = false
  unit : facts.quote.unit = facts.budget.unit
  cost : ∃ remaining quote, budgetRemaining facts.budget = some remaining ∧
    validatedQuote facts.quote = some quote ∧ CostIsAffordable facts remaining quote

variable {facts : NormalizedSourcingBudgetPreflightFacts}

private theorem readLimits_complete {input : NormalizedLimitInput}
    (clear : (readLimits input).1 = []) :
    ∃ limits, (readLimits input).2 = some limits := by
  unfold readLimits at clear ⊢
  dsimp only at clear ⊢
  split
  · rename_i refused
    rw [if_pos refused] at clear
    simp only [List.append_eq_nil_iff, reportedWhen_eq_nil] at clear
    rw [clear.1.2, clear.2] at refused
    cases refused
  · rename_i complete
    rw [if_neg complete] at clear
    split
    · rename_i overflow
      rw [if_pos overflow] at clear
      exact absurd (List.append_eq_nil_iff.mp clear).2 (List.cons_ne_nil _ _)
    · exact ⟨_, rfl⟩

private theorem deadlineReasons_eq_nil :
    deadlineReasons facts = [] ↔ ∃ now deadline, facts.now.instant? = some now ∧
      facts.deadline.instant? = some deadline ∧ now < deadline := by
  unfold deadlineReasons
  split
  · rename_i now deadline nowEq deadlineEq
    rw [reportedWhen_eq_nil, decide_eq_false_iff_not, not_le]
    constructor
    · exact fun before => ⟨now, deadline, nowEq, deadlineEq, before⟩
    · rintro ⟨other, later, otherEq, laterEq, before⟩
      rw [nowEq] at otherEq
      rw [deadlineEq] at laterEq
      cases otherEq
      cases laterEq
      exact before
  · rename_i invalid
    refine ⟨fun clear => absurd clear (List.cons_ne_nil _ _), ?_⟩
    rintro ⟨now, deadline, nowEq, deadlineEq, _⟩
    exact absurd deadlineEq (invalid now deadline nowEq)

private theorem unknownCostCap_clear {policy : NormalizedUnknownCostPolicy} {remaining : Amount} :
    (unknownCostCap policy (some remaining)).1 = [] ↔
      policy.mode = .explicitNonInteractive ∧ ∃ hardCap cap, policy.hardCap = some hardCap ∧
        hardCap.amount? = some cap ∧ cap ≤ remaining := by
  obtain ⟨hardCap, mode⟩ := policy
  cases mode with
  | deny => simp [unknownCostCap]
  | explicitNonInteractive =>
      cases hardCap with
      | none => simp [unknownCostCap]
      | some hardCap =>
          cases given : hardCap.amount? with
          | none => simp [unknownCostCap, given]
          | some cap =>
              by_cases fits : remaining < cap
              · simp [unknownCostCap, given, fits]
              · simp [unknownCostCap, given, fits, not_lt.mp fits]

private theorem quoteReasons_clear {quote : CostQuote} {remaining : Amount} :
    quoteReasons facts quote (some remaining) = [] ↔
      facts.quote.expiresAt.lessEqual facts.now = false ∧
        facts.quote.unit = facts.budget.unit ∧
        (quote.guarantee ≠ .unknown → ∃ upperBound, quote.upperBound = some upperBound) ∧
        ∀ upperBound, quote.upperBound = some upperBound → upperBound ≤ remaining := by
  simp only [quoteReasons, List.append_eq_nil_iff, reportedWhen_eq_nil, bne_eq_false_iff_eq,
    and_assoc, Option.any_some]
  refine and_congr_right fun _ => and_congr_right fun _ => ?_
  cases quote.upperBound with
  | none => simp
  | some upperBound => simp

/-- The quote adds no reason exactly when it is current, in the unit of the budget and
affordable. -/
theorem evaluateQuote_clear {remaining : Amount} :
    (evaluateQuote facts (some remaining)).reasonCodes = [] ↔
      facts.quote.expiresAt.lessEqual facts.now = false ∧
        facts.quote.unit = facts.budget.unit ∧
        ∃ quote, validatedQuote facts.quote = some quote ∧
          CostIsAffordable facts remaining quote := by
  unfold evaluateQuote
  cases validated : validatedQuote facts.quote with
  | none => simp
  | some quote =>
      have reasons := @quoteReasons_clear facts quote remaining
      have affordable : ∀ allowed : quote.guarantee ≠ .unknown,
          quoteReasons facts quote (some remaining) = [] ↔
            facts.quote.expiresAt.lessEqual facts.now = false ∧
              facts.quote.unit = facts.budget.unit ∧
              ∃ other, some quote = some other ∧ CostIsAffordable facts remaining other := by
        intro known
        rw [reasons]
        constructor
        · rintro ⟨current, unit, bounded, bound⟩
          exact ⟨current, unit, quote, rfl, bound, bounded, fun unknown => absurd unknown known⟩
        · rintro ⟨current, unit, other, same, cost⟩
          cases same
          exact ⟨current, unit, cost.known, cost.bound⟩
      dsimp only
      cases guarantee : quote.guarantee with
      | unknown =>
          simp only [List.append_eq_nil_iff, reasons, unknownCostCap_clear]
          constructor
          · rintro ⟨⟨current, unit, known, bound⟩, unknown⟩
            exact ⟨current, unit, quote, rfl, bound, known, fun _ => unknown⟩
          · rintro ⟨current, unit, other, same, cost⟩
            cases same
            exact ⟨⟨current, unit, cost.known, cost.bound⟩, cost.unknown guarantee⟩
      | hard => exact affordable (by rw [guarantee]; decide)
      | estimated => exact affordable (by rw [guarantee]; decide)

/-- **No reason is found exactly when the preflight is clear.** -/
theorem denialReasons_eq_nil : denialReasons facts = [] ↔ PreflightIsClear facts := by
  simp only [denialReasons, List.append_eq_nil_iff, reportedWhen_eq_nil, deadlineReasons_eq_nil]
  cases remainingEq : budgetRemaining facts.budget with
  | none =>
      refine ⟨fun clear => Bool.noConfusion clear.1.2, ?_⟩
      rintro ⟨_, _, _, _, remaining, quote, given, _⟩
      rw [remainingEq] at given
      cases given
  | some remaining =>
      rw [evaluateQuote_clear]
      constructor
      · rintro ⟨⟨⟨limits, instants⟩, _⟩, current, unit, quote, validated, cost⟩
        exact ⟨limits, instants, current, unit, remaining, quote, remainingEq, validated, cost⟩
      · rintro ⟨limits, instants, current, unit, other, quote, given, validated, cost⟩
        rw [remainingEq] at given
        cases given
        exact ⟨⟨⟨limits, instants⟩, rfl⟩, current, unit, quote, validated, cost⟩

/-! ## The cap -/

/-- The cap of affordable costs: the upper bound of a hard quote, what remains under an
estimated one, and the authorized cap of an unknown one. -/
structure IsExecutionCap (facts : NormalizedSourcingBudgetPreflightFacts) (remaining : Amount)
    (quote : CostQuote) (cap : Amount) : Prop where
  within : cap ≤ remaining
  hard : quote.guarantee = .hard → quote.upperBound = some cap
  estimated : quote.guarantee = .estimated → cap = remaining
  unknown : quote.guarantee = .unknown → ∃ hardCap,
    facts.unknownCostPolicy.hardCap = some hardCap ∧ hardCap.amount? = some cap

private theorem evaluateQuote_cap {remaining : Amount} {quote : CostQuote}
    (validated : validatedQuote facts.quote = some quote)
    (cost : CostIsAffordable facts remaining quote) :
    (evaluateQuote facts (some remaining)).quote = some quote ∧
      ∃ cap, (evaluateQuote facts (some remaining)).hardExecutionCap = some cap ∧
        IsExecutionCap facts remaining quote cap := by
  unfold evaluateQuote
  rw [validated]
  dsimp only
  cases guarantee : quote.guarantee with
  | unknown =>
      obtain ⟨mode, hardCap, cap, given, amount, fits⟩ := cost.unknown guarantee
      refine ⟨rfl, cap, ?_, fits, ?_, ?_, fun _ => ⟨hardCap, given, amount⟩⟩
      · simp [unknownCostCap, mode, given, amount, not_lt.mpr fits]
      all_goals
        intro other
        rw [guarantee] at other
        cases other
  | hard =>
      obtain ⟨upperBound, bounded⟩ := cost.known (by rw [guarantee]; decide)
      have fits := cost.bound upperBound bounded
      refine ⟨rfl, upperBound, ?_, fits, fun _ => bounded, ?_, ?_⟩
      · simp [bounded, min_eq_left fits]
      all_goals
        intro other
        rw [guarantee] at other
        cases other
  | estimated =>
      obtain ⟨upperBound, bounded⟩ := cost.known (by rw [guarantee]; decide)
      refine ⟨rfl, remaining, ?_, le_refl _, ?_, fun _ => rfl, ?_⟩
      · simp [bounded]
      all_goals
        intro other
        rw [guarantee] at other
        cases other

/-! ## The decision over facts and over values -/

/-- Facts are allowed exactly when nothing speaks against them, and denied with all that
does. -/
theorem evaluateSafe_decides (facts : NormalizedSourcingBudgetPreflightFacts) :
    ∃ decision, evaluateSafeSourcingBudgetPreflight facts = .ok decision ∧
      (decision.allowed = true ↔ denialReasons facts = []) ∧
      (decision.allowed = false → decision = deniedDecision (denialReasons facts)) ∧
      (decision.allowed = true → ∃ remaining quote snapshot,
        decision.snapshot = some snapshot ∧ budgetRemaining facts.budget = some remaining ∧
        validatedQuote facts.quote = some quote ∧ snapshot.quote = quote ∧
        IsExecutionCap facts remaining quote snapshot.hardExecutionCap) := by
  unfold evaluateSafeSourcingBudgetPreflight
  dsimp only
  cases reasons : denialReasons facts with
  | cons reason rest =>
      refine ⟨deniedDecision (reason :: rest), rfl, ?_, fun _ => rfl, ?_⟩
      · exact ⟨fun allowed => Bool.noConfusion allowed, fun none =>
          absurd none (List.cons_ne_nil _ _)⟩
      · exact fun allowed => Bool.noConfusion allowed
  | nil =>
      have clear := denialReasons_eq_nil.mp reasons
      obtain ⟨limits, limitsEq⟩ := readLimits_complete clear.limits
      obtain ⟨now, deadline, _, deadlineEq, _⟩ := clear.instants
      obtain ⟨remaining, quote, remainingEq, validated, cost⟩ := clear.cost
      obtain ⟨quoteEq, cap, capEq, isCap⟩ := evaluateQuote_cap validated cost
      have deadlineRead : instant facts.deadline = .ok deadline := by
        simp only [instant, deadlineEq]
      rw [remainingEq, limitsEq, capEq, quoteEq, deadlineRead]
      refine ⟨_, rfl, ⟨fun _ => rfl, fun _ => rfl⟩, fun denied => Bool.noConfusion denied, ?_⟩
      exact fun _ => ⟨remaining, quote, _, rfl, rfl, validated, rfl, isCap⟩

/-- The limits that are read are those of the input. -/
theorem readLimits_values {input : NormalizedLimitInput} {limits : SourcingCardinalityLimits}
    (read : (readLimits input).2 = some limits) (name : SourcingLimitName) :
    limitOf (input.values name) = some (limits name) := by
  unfold readLimits at read
  dsimp only at read
  split at read
  · cases read
  rename_i complete
  split at read
  · cases read
  obtain rfl := Option.some.inj read
  rw [Bool.or_eq_true, not_or, Bool.not_eq_true, Bool.not_eq_true, List.any_eq_false,
    List.any_eq_false] at complete
  have listed : name ∈ sourcingLimitNames := by cases name <;> decide
  have present := complete.1 name listed
  have valid := complete.2 name listed
  rw [Bool.not_eq_true] at present
  rw [present, Bool.not_false, Bool.true_and, Option.isNone_iff_eq_none] at valid
  obtain ⟨limit, limitEq⟩ := Option.ne_none_iff_exists'.mp valid
  dsimp only
  rw [limitEq, Option.getD_some]

/-- What an allowed snapshot repeats of the facts. -/
theorem evaluateSafe_snapshot {decision : SourcingBudgetPreflightDecision}
    {snapshot : SourcingBudgetPreflightSnapshot}
    (decided : evaluateSafeSourcingBudgetPreflight facts = .ok decision)
    (given : decision.snapshot = some snapshot) :
    snapshot.budget = facts.budget ∧ facts.deadline.instant? = some snapshot.deadline ∧
      (readLimits facts.limits).2 = some snapshot.limits := by
  unfold evaluateSafeSourcingBudgetPreflight at decided
  dsimp only at decided
  split at decided
  · rename_i limits cap quote _ limitsEq _ _
    unfold instant at decided
    split at decided
    · rename_i deadline deadlineEq
      obtain rfl := Except.ok.inj decided
      obtain rfl := Option.some.inj given
      exact ⟨rfl, deadlineEq, limitsEq⟩
    · cases decided
  · obtain rfl := Except.ok.inj decided
    cases given

/-- Whatever is read, the preflight decides; what cannot be read is denied as invalid. -/
theorem evaluate_unreadable {value : JsValue}
    (unreadable : ∀ facts, normalizeFacts value ≠ .ok (some facts)) :
    evaluateSourcingBudgetPreflight value = .ok invalidInputDecision := by
  unfold evaluateSourcingBudgetPreflight
  cases read : normalizeFacts value with
  | error thrown => rfl
  | ok normalized =>
      cases normalized with
      | none => rfl
      | some facts => exact absurd read (unreadable facts)

/-- On facts that can be read the preflight answers the decision on these facts. -/
theorem evaluate_readable {value : JsValue} {facts : NormalizedSourcingBudgetPreflightFacts}
    (read : normalizeFacts value = .ok (some facts)) :
    evaluateSourcingBudgetPreflight value = evaluateSafeSourcingBudgetPreflight facts := by
  obtain ⟨decision, evaluated, _⟩ := evaluateSafe_decides facts
  unfold evaluateSourcingBudgetPreflight
  rw [read]
  simp only [Except.bind, evaluated]

/-! ## Asking for more -/

/-- A value that stays as it is, or moves between two values that can be read. -/
def StaysOrMoves {Value Read : Type} (read : Value → Option Read)
    (moves : Read → Read → Prop) (before after : Value) : Prop :=
  before = after ∨ ∃ first second,
    read before = some first ∧ read after = some second ∧ moves first second

private theorem StaysOrMoves.readBefore {Value Read : Type} {read : Value → Option Read}
    {moves : Read → Read → Prop} [Std.Refl moves] {before after : Value} {second : Read}
    (related : StaysOrMoves read moves before after) (readAfter : read after = some second) :
    ∃ first, read before = some first ∧ moves first second := by
  rcases related with same | ⟨first, other, readBefore, readOther, moved⟩
  · exact ⟨second, same ▸ readAfter, Std.Refl.refl second⟩
  · rw [readAfter] at readOther
    cases readOther
    exact ⟨first, readBefore, moved⟩

/-- A budget of which no more is available. -/
structure BudgetIsLowered (budget lower : NormalizedBudget) : Prop where
  unit : lower.unit = budget.unit
  available : budget = lower ∨ ∃ limit spent reserved,
    budget.limit.amount? = some limit ∧ budget.spent.amount? = some spent ∧
    budget.reserved.amount? = some reserved ∧
    ∀ lowerLimit lowerSpent lowerReserved, lower.limit.amount? = some lowerLimit →
      lower.spent.amount? = some lowerSpent → lower.reserved.amount? = some lowerReserved →
      lowerLimit - lowerSpent - lowerReserved ≤ limit - spent - reserved

/-- The limits that no other limit is measured against. -/
def isTopLimit (name : SourcingLimitName) : Bool :=
  name matches .maxPhones | .maxPages | .maxResults

/-- Readable limits of which none is lowered: either they are consistent, or only limits grow
that no other is measured against. -/
structure LimitsAreEnlarged (input enlarged : NormalizedLimitInput) : Prop where
  unknown : enlarged.hasUnknown = input.hasUnknown
  grows : ∀ name, ∃ limit more, limitOf (input.values name) = some limit ∧
    limitOf (enlarged.values name) = some more ∧ limit ≤ more
  supported : limitsAreInconsistent (fun name => (limitOf (input.values name)).getD 0) = false ∨
    ∀ name, isTopLimit name = false → input.values name = enlarged.values name

/-- A later and larger request against the same policy: no more of the budget is available,
the quote and the deadline expire no later, and no limit, bound or cap is lower. -/
structure AsksMore (facts larger : NormalizedSourcingBudgetPreflightFacts) : Prop where
  budget : BudgetIsLowered facts.budget larger.budget
  now : StaysOrMoves JsNumber.instant? (· ≤ ·) facts.now larger.now
  deadline : StaysOrMoves JsNumber.instant? (· ≥ ·) facts.deadline larger.deadline
  expiresAt : StaysOrMoves JsNumber.instant? (· ≥ ·) facts.quote.expiresAt larger.quote.expiresAt
  upperBound : StaysOrMoves (·.bind JsNumber.amount?) (· ≤ ·) facts.quote.upperBound
    larger.quote.upperBound
  quote : larger.quote =
    { facts.quote with
      expiresAt := larger.quote.expiresAt
      upperBound := larger.quote.upperBound }
  hardCap : StaysOrMoves (·.bind JsNumber.amount?) (· ≤ ·) facts.unknownCostPolicy.hardCap
    larger.unknownCostPolicy.hardCap
  mode : larger.unknownCostPolicy.mode = facts.unknownCostPolicy.mode
  limits : facts.limits = larger.limits ∨ LimitsAreEnlarged facts.limits larger.limits

variable {larger : NormalizedSourcingBudgetPreflightFacts}

theorem JsNumber.instant?_finite {number : JsNumber} {value : Instant}
    (read : number.instant? = some value) : number = .finite value := by
  simp only [instant?, Option.filter_eq_some_iff, safeInteger?] at read
  obtain ⟨safe, _⟩ := read
  cases number with
  | infinite negative => cases safe
  | nan => cases safe
  | finite number =>
      dsimp only at safe
      split at safe
      · rename_i integral
        cases safe
        rw [(Rat.den_eq_one_iff number).mp integral.1]
      · cases safe

/-- Instants compare as their values. -/
theorem JsNumber.lessEqual_instant {left right : JsNumber} {first second : Instant}
    (readLeft : left.instant? = some first) (readRight : right.instant? = some second) :
    left.lessEqual right = decide (first ≤ second) := by
  rw [instant?_finite readLeft, instant?_finite readRight]
  simp only [lessEqual, Int.cast_le]

private theorem budgetRemaining_lowered {budget lower : NormalizedBudget}
    (lowered : BudgetIsLowered budget lower) {less : Amount}
    (remaining : budgetRemaining lower = some less) :
    ∃ more, budgetRemaining budget = some more ∧ less ≤ more := by
  rcases lowered.available with same |
    ⟨limit, spent, reserved, limitEq, spentEq, reservedEq, available⟩
  · exact ⟨less, same ▸ remaining, le_refl less⟩
  unfold budgetRemaining at remaining ⊢
  rw [limitEq, spentEq, reservedEq]
  split at remaining
  case h_2 => cases remaining
  rename_i lowerLimit lowerSpent lowerReserved lowerLimitEq lowerSpentEq lowerReservedEq
  split at remaining
  case isFalse => cases remaining
  rename_i valid
  cases remaining
  have bound := available _ _ _ lowerLimitEq lowerSpentEq lowerReservedEq
  rw [lowered.unit, Bool.and_eq_true, decide_eq_true_iff] at valid
  have within : spent + reserved ≤ limit := by linarith [valid.2]
  refine ⟨limit - spent - reserved, ?_, bound⟩
  simp [valid.1, within]

/-- What stands against readable limits. -/
theorem readLimits_clear {input : NormalizedLimitInput}
    (readable : ∀ name, ∃ limit, limitOf (input.values name) = some limit) :
    (readLimits input).1 = [] ↔ input.hasUnknown = false ∧
      isSafeInteger ((limitOf (input.values .maxCompanies)).getD 0 *
        (limitOf (input.values .maxContactsPerCompany)).getD 0) = true ∧
      limitsAreInconsistent (fun name => (limitOf (input.values name)).getD 0) = false := by
  have present : ∀ name, (input.values name).isUndefined = false := by
    intro name
    obtain ⟨limit, read⟩ := readable name
    cases value : input.values name with
    | undefined =>
        rw [value] at read
        cases read
    | _ => rfl
  have valid : ∀ name, (limitOf (input.values name)).isNone = false := by
    intro name
    obtain ⟨limit, read⟩ := readable name
    rw [read]
    rfl
  unfold readLimits
  dsimp only
  have complete : (sourcingLimitNames.any fun name => (input.values name).isUndefined) = false ∧
      (sourcingLimitNames.any fun name => !(input.values name).isUndefined &&
        (limitOf (input.values name)).isNone) = false := by
    simp only [present, valid, Bool.not_false, Bool.and_false]
    exact ⟨rfl, rfl⟩
  rw [complete.1, complete.2, if_neg (by decide)]
  cases safe : isSafeInteger ((limitOf (input.values .maxCompanies)).getD 0 *
      (limitOf (input.values .maxContactsPerCompany)).getD 0) with
  | false => simp
  | true => simp [reportedWhen_eq_nil]

private theorem limitOf_nonneg {value : JsValue} {limit : ℤ} (read : limitOf value = some limit) :
    0 ≤ limit := by
  cases value with
  | number number =>
      simp only [limitOf, JsNumber.instant?, Option.filter_eq_some_iff, decide_eq_true_eq] at read
      exact read.2
  | _ => cases read

/-- Capacities that fit a safe integer do so under smaller limits. -/
theorem isSafeInteger_mul_mono {left right moreLeft moreRight : ℤ} (left_nonneg : 0 ≤ left)
    (right_nonneg : 0 ≤ right) (more_left : left ≤ moreLeft) (more_right : right ≤ moreRight)
    (safe : isSafeInteger (moreLeft * moreRight) = true) : isSafeInteger (left * right) = true := by
  simp only [isSafeInteger, Bool.and_eq_true, decide_eq_true_eq] at safe ⊢
  have capacity : left * right ≤ moreLeft * moreRight :=
    mul_le_mul more_left more_right right_nonneg (left_nonneg.trans more_left)
  refine ⟨?_, capacity.trans safe.2⟩
  exact le_trans (by decide) (mul_nonneg left_nonneg right_nonneg)

/-- Enlarged limits lift no reason against the limits. -/
theorem LimitsAreEnlarged.clear {input enlarged : NormalizedLimitInput}
    (related : LimitsAreEnlarged input enlarged) (clear : (readLimits enlarged).1 = []) :
    (readLimits input).1 = [] := by
  have readable : ∀ name, ∃ limit, limitOf (input.values name) = some limit := by
    intro name
    obtain ⟨limit, _, read, _, _⟩ := related.grows name
    exact ⟨limit, read⟩
  have readableMore : ∀ name, ∃ more, limitOf (enlarged.values name) = some more := by
    intro name
    obtain ⟨_, more, _, read, _⟩ := related.grows name
    exact ⟨more, read⟩
  obtain ⟨known, safe, consistent⟩ := (readLimits_clear readableMore).mp clear
  have grows : ∀ name, 0 ≤ (limitOf (input.values name)).getD 0 ∧
      (limitOf (input.values name)).getD 0 ≤ (limitOf (enlarged.values name)).getD 0 := by
    intro name
    obtain ⟨limit, more, read, readMore, larger⟩ := related.grows name
    rw [read, readMore]
    exact ⟨limitOf_nonneg read, larger⟩
  refine (readLimits_clear readable).mpr ⟨related.unknown ▸ known, ?_, ?_⟩
  · exact isSafeInteger_mul_mono (grows _).1 (grows _).1 (grows _).2 (grows _).2 safe
  · rcases related.supported with supported | unchanged
    · exact supported
    · have phones := (grows .maxPhones).2
      have pages := (grows .maxPages).2
      simp only [limitsAreInconsistent, ← unchanged .maxCompanies rfl,
        ← unchanged .maxContactsPerCompany rfl, ← unchanged .maxContactsTotal rfl,
        ← unchanged .maxEnrichments rfl, ← unchanged .maxCalls rfl, Bool.or_eq_false_iff,
        decide_eq_false_iff_not] at consistent ⊢
      obtain ⟨⟨⟨companies, enrichments⟩, fewPhones⟩, fewPages⟩ := consistent
      exact ⟨⟨⟨companies, enrichments⟩, by omega⟩, by omega⟩

/-- A quote of a larger request is valid only when the quote of the request is. -/
theorem AsksMore.validatedQuote (more : AsksMore facts larger) {asked : CostQuote}
    (validated : validatedQuote larger.quote = some asked) :
    ∃ quote, Engine.validatedQuote facts.quote = some quote ∧
      quote.guarantee = asked.guarantee ∧
      StaysOrMoves id (· ≤ ·) quote.upperBound asked.upperBound := by
  unfold Engine.validatedQuote at validated ⊢
  rw [more.quote] at validated
  dsimp only at validated
  split at validated
  case h_2 => cases validated
  rename_i guarantee expiresAt guaranteeEq expiresEq
  split at validated
  case isFalse => cases validated
  rename_i valid
  cases validated
  obtain ⟨expiry, expiryEq, _⟩ := more.expiresAt.readBefore expiresEq
  rw [guaranteeEq, expiryEq]
  dsimp only
  simp only [Bool.and_eq_true] at valid
  rcases more.upperBound with same | ⟨bound, asked, boundEq, askedEq, smaller⟩
  · rw [same, if_pos (by simp only [Bool.and_eq_true]; exact valid)]
    exact ⟨_, rfl, rfl, .inl rfl⟩
  · have bounded : (facts.quote.upperBound.all fun bound => bound.amount?.isSome) = true := by
      cases given : facts.quote.upperBound with
      | none => rfl
      | some number =>
          rw [given] at boundEq
          exact Option.isSome_of_eq_some boundEq
    rw [if_pos (by simp only [Bool.and_eq_true]; exact ⟨valid.1, bounded⟩)]
    exact ⟨_, rfl, rfl, .inr ⟨bound, asked, boundEq, askedEq, smaller⟩⟩

private theorem validatedQuote_expiry {quote : NormalizedQuote} {valid : CostQuote}
    (validated : validatedQuote quote = some valid) :
    quote.expiresAt.instant? = some valid.expiresAt := by
  unfold validatedQuote at validated
  split at validated
  case h_2 => cases validated
  rename_i expiresEq
  split at validated
  · cases validated
    exact expiresEq
  · cases validated

/-- **A later and larger request is clear only when the request is.** -/
theorem PreflightIsClear.antitone (more : AsksMore facts larger)
    (clear : PreflightIsClear larger) : PreflightIsClear facts := by
  obtain ⟨limits, ⟨now, deadline, nowEq, deadlineEq, before⟩, current, unit, less, asked,
    lessEq, validated, cost⟩ := clear
  obtain ⟨remaining, remainingEq, lowered⟩ := budgetRemaining_lowered more.budget lessEq
  obtain ⟨quote, quoteEq, guarantee, bounds⟩ := more.validatedQuote validated
  obtain ⟨earlier, earlierEq, sooner⟩ := more.now.readBefore nowEq
  obtain ⟨later, laterEq, longer⟩ := more.deadline.readBefore deadlineEq
  refine ⟨?_, ⟨earlier, later, earlierEq, laterEq, ?_⟩, ?_, ?_, remaining, quote, remainingEq,
    quoteEq, ?_⟩
  · rcases more.limits with same | enlarged
    · rw [same]
      exact limits
    · exact enlarged.clear limits
  · exact lt_of_le_of_lt sooner (lt_of_lt_of_le before longer)
  · obtain ⟨expiry, expiryEq, longer⟩ := more.expiresAt.readBefore (validatedQuote_expiry validated)
    rw [JsNumber.lessEqual_instant (validatedQuote_expiry validated) nowEq,
      decide_eq_false_iff_not, not_le] at current
    rw [JsNumber.lessEqual_instant expiryEq earlierEq, decide_eq_false_iff_not, not_le]
    exact lt_of_le_of_lt sooner (lt_of_lt_of_le current longer)
  · rw [more.quote] at unit
    exact unit.trans more.budget.unit
  · refine ⟨?_, ?_, ?_⟩
    · intro upperBound bounded
      rcases bounds with same | ⟨bound, askedBound, boundEq, askedEq, smaller⟩
      · exact (cost.bound upperBound (same ▸ bounded)).trans lowered
      · cases bounded.symm.trans boundEq
        exact smaller.trans ((cost.bound askedBound askedEq).trans lowered)
    · intro known
      obtain ⟨upperBound, bounded⟩ := cost.known (guarantee ▸ known)
      obtain ⟨lower, lowerEq, _⟩ := bounds.readBefore bounded
      exact ⟨lower, lowerEq⟩
    · intro unknown
      obtain ⟨mode, hardCap, cap, given, amount, fits⟩ := cost.unknown (guarantee ▸ unknown)
      have capEq : larger.unknownCostPolicy.hardCap.bind JsNumber.amount? = some cap := by
        rw [given]
        exact amount
      obtain ⟨lower, lowerEq, smaller⟩ := more.hardCap.readBefore capEq
      obtain ⟨number, numberEq, numberAmount⟩ := Option.bind_eq_some_iff.mp lowerEq
      exact ⟨more.mode ▸ mode, number, lower, numberEq, numberAmount,
        smaller.trans (fits.trans lowered)⟩

/-! ## Fail-closed and antitone -/

/-- No more than the limit of a budget remains of it. -/
theorem budgetRemaining_le_limit {budget : NormalizedBudget} {remaining : Amount}
    (given : budgetRemaining budget = some remaining) :
    ∃ limit, budget.limit.amount? = some limit ∧ remaining ≤ limit := by
  have amount_nonneg : ∀ {number : JsNumber} {amount : Amount},
      number.amount? = some amount → 0 ≤ amount := by
    intro number amount read
    cases number with
    | finite value =>
        simp only [JsNumber.amount?, isAmount, Option.ite_none_right_eq_some, Option.some.injEq,
          decide_eq_true_eq] at read
        exact read.2 ▸ read.1
    | _ => cases read
  unfold budgetRemaining at given
  split at given
  case h_2 => cases given
  rename_i limit spent reserved limitEq spentEq reservedEq
  split at given
  case isFalse => cases given
  cases given
  have spent_nonneg := amount_nonneg spentEq
  have reserved_nonneg := amount_nonneg reservedEq
  exact ⟨limit, limitEq, by linarith⟩

/-- The preflight allows what it reads. -/
def IsAllowed (value : JsValue) : Prop :=
  ∃ decision, evaluateSourcingBudgetPreflight value = .ok decision ∧ decision.allowed = true

private theorem isAllowed_iff {value : JsValue} {facts : NormalizedSourcingBudgetPreflightFacts}
    (read : normalizeFacts value = .ok (some facts)) :
    IsAllowed value ↔ PreflightIsClear facts := by
  obtain ⟨decision, evaluated, allowed, _⟩ := evaluateSafe_decides facts
  rw [IsAllowed, evaluate_readable read, evaluated, ← denialReasons_eq_nil, ← allowed]
  constructor
  · rintro ⟨other, same, given⟩
    cases same
    exact given
  · exact fun given => ⟨decision, rfl, given⟩

/-- A decision on an arbitrary value: it allows exactly the facts without a reason, it denies
with every reason found, and it allows no cap above the remaining budget. -/
structure IsFailClosed (value : JsValue) (decision : SourcingBudgetPreflightDecision) : Prop where
  allowed : decision.allowed = true ↔
    ∃ facts, normalizeFacts value = .ok (some facts) ∧ denialReasons facts = []
  denied : decision.allowed = false → decision.reasonCodes ≠ [] ∧ decision.snapshot = none ∧
    ∀ facts, normalizeFacts value = .ok (some facts) →
      decision.reasonCodes = denialReasons facts
  cap : decision.allowed = true → ∃ facts limit remaining snapshot,
    normalizeFacts value = .ok (some facts) ∧ decision.snapshot = some snapshot ∧
    facts.budget.limit.amount? = some limit ∧ budgetRemaining facts.budget = some remaining ∧
    remaining ≤ limit ∧ IsExecutionCap facts remaining snapshot.quote snapshot.hardExecutionCap

private theorem evaluate_isFailClosed (value : JsValue) :
    ∃ decision, evaluateSourcingBudgetPreflight value = .ok decision ∧
      IsFailClosed value decision := by
  by_cases readable : ∃ facts, normalizeFacts value = .ok (some facts)
  · obtain ⟨facts, read⟩ := readable
    have only : ∀ {other}, normalizeFacts value = .ok (some other) → other = facts := by
      intro other given
      rw [read] at given
      cases given
      rfl
    obtain ⟨decision, evaluated, allowed, denied, capped⟩ := evaluateSafe_decides facts
    refine ⟨decision, (evaluate_readable read).trans evaluated, ?_, ?_, ?_⟩
    · rw [allowed]
      constructor
      · exact fun clear => ⟨facts, read, clear⟩
      · rintro ⟨other, given, clear⟩
        exact only given ▸ clear
    · intro refused
      have found : denialReasons facts ≠ [] := by
        intro clear
        rw [allowed.mpr clear] at refused
        cases refused
      rw [denied refused]
      refine ⟨found, rfl, ?_⟩
      intro other given
      rw [only given]
      rfl
    · intro given
      obtain ⟨remaining, quote, snapshot, snapshotEq, remainingEq, _, rfl, isCap⟩ := capped given
      obtain ⟨limit, limitEq, within⟩ := budgetRemaining_le_limit remainingEq
      exact ⟨facts, limit, remaining, snapshot, read, snapshotEq, limitEq, remainingEq, within,
        isCap⟩
  · have unreadable : ∀ facts, normalizeFacts value ≠ .ok (some facts) :=
      fun facts read => readable ⟨facts, read⟩
    refine ⟨invalidInputDecision, evaluate_unreadable unreadable, ?_, ?_, ?_⟩
    · refine ⟨fun allowed => Bool.noConfusion allowed, ?_⟩
      rintro ⟨facts, read, _⟩
      exact absurd read (unreadable facts)
    · exact fun _ => ⟨List.cons_ne_nil _ _, rfl, fun facts read => absurd read (unreadable facts)⟩
    · exact fun allowed => Bool.noConfusion allowed

/-- **The preflight is fail-closed and antitone.** Whatever value it is given, it decides, it
allows exactly the facts without a reason to deny, its denials carry their reasons, and its cap
keeps within the remaining budget; what it allows, it allows for every earlier and smaller
request. -/
theorem sourcingPreflight_isFailClosed :
    (∀ value, ∃ decision, evaluateSourcingBudgetPreflight value = .ok decision ∧
      IsFailClosed value decision) ∧
    ∀ value larger facts asked, normalizeFacts value = .ok (some facts) →
      normalizeFacts larger = .ok (some asked) → AsksMore facts asked →
      IsAllowed larger → IsAllowed value := by
  refine ⟨evaluate_isFailClosed, ?_⟩
  intro value larger facts asked read readAsked more allowed
  exact (isAllowed_iff read).mpr (((isAllowed_iff readAsked).mp allowed).antitone more)

/-! ## A sample preflight -/

/-- An ordinary object with these own properties. -/
def sampleRecord (entries : List (String × JsValue)) : JsValue :=
  .record {
    read := fun key =>
      match entries.lookup key with
      | some value => .value value
      | none => .missing
    ownKeys := some (entries.map fun entry => .name entry.1) }

private def sampleNumber (value : ℚ) : JsValue :=
  .number (.finite value)

/-- A preflight of which 60 credits remain, with a quote that bounds its cost by 50. -/
def samplePreflight (maxCompanies : ℚ) (guarantee : String) : JsValue :=
  sampleRecord [
    ("budget", sampleRecord [("limit", sampleNumber 100), ("reserved", sampleNumber 20),
      ("spent", sampleNumber 20), ("unit", .text "credits")]),
    ("limits", sampleRecord [("maxCompanies", sampleNumber maxCompanies),
      ("maxContactsPerCompany", sampleNumber 1), ("maxContactsTotal", sampleNumber 0),
      ("maxEnrichments", sampleNumber 0), ("maxPhones", sampleNumber 0),
      ("maxResults", sampleNumber 5), ("maxPages", sampleNumber 1), ("maxCalls", sampleNumber 2)]),
    ("quote", sampleRecord [("expiresAt", sampleNumber 200), ("guarantee", .text guarantee),
      ("pricingVersion", .text "v1"), ("quoteId", .text "quote-1"), ("unit", .text "credits"),
      ("upperBound", sampleNumber 50)]),
    ("unknownCostPolicy", sampleRecord [("mode", .text "deny")]),
    ("deadline", sampleNumber 300),
    ("now", sampleNumber 100)]

/-- The facts of a sample preflight. -/
def sampleFacts (maxCompanies : ℚ) (guarantee : String) :
    NormalizedSourcingBudgetPreflightFacts where
  budget := ⟨.finite 100, .finite 20, .finite 20, "credits"⟩
  deadline := .finite 300
  limits := {
    hasUnknown := false
    values := fun
      | .maxCompanies => sampleNumber maxCompanies
      | .maxContactsPerCompany => sampleNumber 1
      | .maxContactsTotal | .maxEnrichments | .maxPhones => sampleNumber 0
      | .maxResults => sampleNumber 5
      | .maxPages => sampleNumber 1
      | .maxCalls => sampleNumber 2 }
  now := .finite 100
  quote := ⟨.finite 200, guarantee, "v1", "quote-1", "credits", some (.finite 50)⟩
  unknownCostPolicy := ⟨none, .deny⟩

private theorem samplePreflight_facts (maxCompanies : ℚ) (guarantee : String) :
    normalizeFacts (samplePreflight maxCompanies guarantee) =
      .ok (some (sampleFacts maxCompanies guarantee)) := by
  let read name := OwnValueRead.value ((sampleFacts maxCompanies guarantee).limits.values name)
  have values : (fun name =>
      match (sourcingLimitNames.map fun name => (name, read name)).find?
          fun read => read.1 == name with
      | some (_, .value value) => value
      | _ => .undefined) = (sampleFacts maxCompanies guarantee).limits.values := by
    funext name
    cases name <;> rfl
  have facts : sampleFacts maxCompanies guarantee = {
      sampleFacts maxCompanies guarantee with
      limits := ⟨false, (sampleFacts maxCompanies guarantee).limits.values⟩ } := rfl
  rw [facts, ← values]
  rfl

/-- A limit on companies lifts the inconsistency of a limit on their contacts, and the cap of
an estimated quote is all that remains. -/
theorem sourcingPreflight_notAntitone :
    ¬ (∀ value larger facts asked, normalizeFacts value = .ok (some facts) →
      normalizeFacts larger = .ok (some asked) → asked = { facts with limits := asked.limits } →
      (∀ name, ∃ limit more, limitOf (facts.limits.values name) = some limit ∧
        limitOf (asked.limits.values name) = some more ∧ limit ≤ more) →
      IsAllowed larger → IsAllowed value) ∧
    (evaluateSourcingBudgetPreflight (samplePreflight 1 "estimated")).toOption.bind
        (fun decision => decision.snapshot.map fun snapshot =>
          (snapshot.quote.upperBound, snapshot.hardExecutionCap)) =
      some (some 50, 60) := by
  rw [evaluate_readable (samplePreflight_facts 1 "estimated")]
  refine ⟨?_, by with_unfolding_all decide⟩
  intro antitone
  have refused : ¬ IsAllowed (samplePreflight 0 "hard") := by
    rw [isAllowed_iff (samplePreflight_facts 0 "hard"), ← denialReasons_eq_nil]
    decide
  have allowed : IsAllowed (samplePreflight 1 "hard") := by
    rw [isAllowed_iff (samplePreflight_facts 1 "hard"), ← denialReasons_eq_nil]
    with_unfolding_all decide
  refine refused (antitone _ _ _ _ (samplePreflight_facts 0 "hard")
    (samplePreflight_facts 1 "hard") rfl ?_ allowed)
  intro name
  cases name <;> exact ⟨_, _, rfl, rfl, by decide⟩

/-- The sample request for one company, of which a request for two is denied nothing. -/
theorem sourcingPreflight_isFailClosed_companies : IsAllowed (samplePreflight 1 "hard") := by
  refine sourcingPreflight_isFailClosed.2 (samplePreflight 1 "hard") (samplePreflight 2 "hard")
    _ _ (samplePreflight_facts 1 "hard") (samplePreflight_facts 2 "hard") ?_ ?_
  · refine ⟨⟨rfl, .inl rfl⟩, .inl rfl, .inl rfl, .inl rfl, .inl rfl, rfl, .inl rfl, rfl,
      .inr ⟨rfl, ?_, .inl (by decide)⟩⟩
    intro name
    cases name <;> exact ⟨_, _, rfl, rfl, by decide⟩
  · rw [isAllowed_iff (samplePreflight_facts 2 "hard"), ← denialReasons_eq_nil]
    with_unfolding_all decide

end Kurobara.Engine
