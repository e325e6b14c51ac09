import Kurobara.Plugin.LeafEffect

/-! # What a plugin outcome is based on

Once `execute` was dispatched, the bridge answers with a definite outcome only when
the plugin returned a valid final message, and settles or releases only what that
message reports. The same holds of every outcome that a lookup finds.
-/

namespace Kurobara.Plugin

open Application Foundation Kernel Persistence

variable {Reply Value : Type}

/-! ## Justified outcomes -/

/-- A leaf outcome that a reported final outcome supports: a success or a charged
failure has an exact usage within the reservation, and a release belongs to a failure
whose usage is reported as unavailable. -/
inductive JustifiedBy (request : LeafEffectRequest Value) (reported : PluginFinalOutcome Reply) :
    LeafEffectFinalOutcome Value → Prop where
  | succeeded (payload : Reply) (reference : Option String) (amount : Amount) (unit : String)
      (output : Value) (usageEntryId : UsageEntryId)
      (success : reported = .succeeded payload reference (.exact amount unit))
      (nonNegative : 0 ≤ amount) (reserved : amount ≤ request.reservedAmount) :
      JustifiedBy request reported (.succeeded output ⟨amount, unit, usageEntryId⟩)
  | charged (amount : Amount) (unit : String) (reason : String) (retryable : Bool)
      (usageEntryId : UsageEntryId) (usage : reported.usage = .exact amount unit)
      (nonNegative : 0 ≤ amount) (reserved : amount ≤ request.reservedAmount) :
      JustifiedBy request reported (.failed reason retryable (.settle ⟨amount, unit, usageEntryId⟩))
  | released (error : PluginReasonCode) (unit : String) (reason : String) (retryable : Bool)
      (failure : reported = .failed error (.unavailable unit)) :
      JustifiedBy request reported (.failed reason retryable .release)

private theorem settlementFor_eq_some {adapterKey : String} {request : LeafEffectRequest Value}
    {usage : PluginUsage} {settlement : StepCostSettlement}
    (settles : settlementFor adapterKey request usage = some settlement) :
    (settlement = .release ∧ ∃ unit, usage = .unavailable unit) ∨
      ∃ amount, usage = .exact amount requestUnit ∧ 0 ≤ amount ∧
        amount ≤ request.reservedAmount ∧
          settlement = .settle ⟨amount, requestUnit, stableUsageEntryId adapterKey request⟩ := by
  cases usage with
  | unavailable unit =>
      cases settles
      exact .inl ⟨rfl, unit, rfl⟩
  | estimated amount unit => cases settles
  | exact amount unit =>
      simp only [settlementFor] at settles
      split at settles
      · cases settles
      · rename_i coherent
        cases settles
        simp only [Bool.or_eq_true, not_or, bne_iff_ne, ne_eq, not_not, Bool.not_eq_true',
          Bool.not_eq_false, isAmount_iff, decide_eq_true_eq, not_lt] at coherent
        obtain ⟨⟨⟨rfl, nonNegative⟩, reserved⟩, _⟩ := coherent
        exact .inr ⟨amount, rfl, nonNegative, reserved, rfl⟩

/-! ## Which calls a program makes -/

/-- Every call but `execute`. -/
def isNotExecute : PluginOperation Reply Value → Prop
  | .invoke (.execute _) => False
  | _ => True

/-- The program calls no `execute`, and its result satisfies the postcondition. -/
def WithoutExecute {Result : Type} (program : PluginProgram Reply Value Result)
    (post : Result → Prop) : Prop :=
  program.Ensures isNotExecute (fun _ _ => True) post

theorem WithoutExecute.pure {Result : Type} {result : Result} {post : Result → Prop}
    (holds : post result) :
    WithoutExecute (pure result : PluginProgram Reply Value Result) post :=
  Program.ensures_done.mpr holds

theorem WithoutExecute.ask {Result : Type} {operation : PluginOperation Reply Value}
    {next : operation.Answer → PluginProgram Reply Value Result} {post : Result → Prop}
    (other : isNotExecute operation) (continues : ∀ answer, WithoutExecute (next answer) post) :
    WithoutExecute (ask operation >>= next) post :=
  Program.ensures_call_bind.mpr ⟨other, fun answer _ => continues answer⟩

theorem WithoutExecute.bind {Result Next : Type} {program : PluginProgram Reply Value Result}
    {next : Result → PluginProgram Reply Value Next} {middle : Result → Prop}
    {post : Next → Prop} (without : WithoutExecute program middle)
    (continues : ∀ result, middle result → WithoutExecute (next result) post) :
    WithoutExecute (program >>= next) post :=
  Program.Ensures.bind without continues

private theorem callWithinDeadline_withoutExecute {Answer : Type}
    {operation : PluginProgram Reply Value (Settled Answer)} {deadlineAtMs : ℤ}
    (inner : WithoutExecute operation fun _ => True) :
    WithoutExecute (callWithinDeadline operation deadlineAtMs) fun _ => True := by
  refine .ask trivial fun now => ?_
  split
  · exact .pure trivial
  · exact inner.bind fun settled _ => .pure trivial

private theorem sdkEstimate_withoutExecute (protocol : PluginProtocol Reply Value)
    (manifest : PluginManifest) (context : PluginContext Value) (input : ValidatedRunInput Value) :
    WithoutExecute (sdkEstimate protocol manifest context input) fun _ => True := by
  unfold sdkEstimate
  split
  · exact .pure trivial
  · refine .ask trivial ?_
    rintro (reply | _ | _)
    · dsimp only
      split
      · exact .pure trivial
      · split <;> exact .pure trivial
      · exact .pure trivial
    · exact .pure trivial
    · exact .pure trivial

private theorem sdkNormalize_withoutExecute (protocol : PluginProtocol Reply Value)
    (manifest : PluginManifest) (context : PluginContext Value) (operationKey : OperationKey)
    (outputContract : ContractRef) (providerPayload : Reply) :
    WithoutExecute (sdkNormalize protocol manifest context operationKey outputContract
      providerPayload) fun _ => True := by
  unfold sdkNormalize
  split
  · exact .pure trivial
  · refine .ask trivial ?_
    rintro (reply | _ | _)
    · dsimp only
      split <;> exact .pure trivial
    · exact .pure trivial
    · exact .pure trivial

section

variable (effect : TrustedPluginLeafEffect Reply Value)

private theorem contextFor_withoutExecute (request : LeafEffectRequest Value) (timeoutMs : ℤ) :
    WithoutExecute (contextFor effect request timeoutMs) fun _ => True := by
  refine .ask trivial fun now => .ask trivial ?_
  rintro (_ | requestedDeadline)
  · exact .pure trivial
  · dsimp only
    split <;> exact .pure trivial

private theorem normalizeSucceeded_withoutExecute (context : PluginContext Value)
    (operationKey : OperationKey) (providerPayload : Reply) :
    WithoutExecute (normalizeSucceeded effect context operationKey providerPayload)
      fun _ => True := by
  refine (callWithinDeadline_withoutExecute (sdkNormalize_withoutExecute effect.protocol
    effect.manifest context operationKey effect.outputContract providerPayload)).bind ?_
  rintro (result | _ | _) _
  · cases result <;> exact .pure trivial
  · exact .pure trivial
  · exact .pure trivial

/-- A final outcome is mapped to a leaf outcome that it justifies, or to none. -/
theorem mapFinalOutcome_justified (context : PluginContext Value)
    (request : LeafEffectRequest Value) (reported : PluginFinalOutcome Reply) :
    WithoutExecute (mapFinalOutcome effect context request reported)
      fun mapped => ∀ final, mapped = .ok final → JustifiedBy request reported final := by
  unfold mapFinalOutcome
  split
  · refine .pure ?_
    rintro final ⟨⟩
  rename_i settlement settles
  split
  · rename_i error usage
    refine .pure ?_
    rintro final ⟨⟩
    rcases settlementFor_eq_some settles with ⟨rfl, unit, unavailable⟩ |
      ⟨amount, exactly, nonNegative, reserved, rfl⟩
    · exact .released error unit _ _ (congrArg (PluginFinalOutcome.failed error) unavailable)
    · exact .charged amount requestUnit _ _ _ exactly nonNegative reserved
  · rename_i payload reference usage
    split
    · refine .pure ?_
      rintro final ⟨⟩
    rename_i successSettlement successEq
    have charge : ∃ amount, usage = .exact amount requestUnit ∧ 0 ≤ amount ∧
        amount ≤ request.reservedAmount ∧ successSettlement =
          ⟨amount, requestUnit, stableUsageEntryId effect.adapterKey request⟩ := by
      unfold successSettlementFor at successEq
      rcases settlementFor_eq_some settles with ⟨rfl, unit, unavailable⟩ |
        ⟨amount, exactly, nonNegative, reserved, rfl⟩
      · rw [show settlementFor effect.adapterKey request usage = some .release from settles]
          at successEq
        cases successEq
      · rw [show settlementFor effect.adapterKey request usage = some (.settle _) from settles]
          at successEq
        cases successEq
        exact ⟨amount, exactly, nonNegative, reserved, rfl⟩
    obtain ⟨amount, rfl, nonNegative, reserved, rfl⟩ := charge
    refine (normalizeSucceeded_withoutExecute effect context request.operationKey payload).bind ?_
    rintro (_ | output) _
    · refine .pure ?_
      rintro final ⟨⟩
      exact .charged amount requestUnit _ _ _ rfl nonNegative reserved
    · refine .pure ?_
      rintro final ⟨⟩
      exact .succeeded payload reference amount requestUnit output _ rfl nonNegative reserved

private theorem requestFailure_eq_none {request : LeafEffectRequest Value}
    (admitted : requestFailure request = none) : request.reservationUnit = requestUnit := by
  unfold requestFailure at admitted
  split at admitted
  · cases admitted
  · rename_i coherent
    simp only [Bool.or_eq_true, not_or, bne_iff_ne, ne_eq, not_not] at coherent
    exact coherent.1.1

/-- Nothing is executed before the bridge authorized it, and it authorizes only
requests in its own unit. -/
theorem authorizeExecution_authorized (request : LeafEffectRequest Value) :
    WithoutExecute (authorizeExecution effect request) fun authorization =>
      ∀ context input quote, authorization = .authorized context input quote →
        request.reservationUnit = requestUnit := by
  unfold authorizeExecution
  split
  · exact .pure (by rintro _ _ _ ⟨⟩)
  · exact .pure (by rintro _ _ _ ⟨⟩)
  rename_i input admitted _
  have unit := requestFailure_eq_none admitted
  split
  · exact .pure (by rintro _ _ _ ⟨⟩)
  refine (contextFor_withoutExecute effect request effect.manifest.executeTimeoutMs).bind ?_
  rintro (_ | context) _
  · exact .pure (by rintro _ _ _ ⟨⟩)
  refine (callWithinDeadline_withoutExecute (sdkEstimate_withoutExecute effect.protocol
    effect.manifest context input)).bind ?_
  rintro ((quote | error) | _ | _) _
  · refine .ask trivial fun now => ?_
    split
    · exact .pure (by rintro _ _ _ ⟨⟩)
    split
    · exact .pure fun _ _ _ _ => unit
    have authorizes : WithoutExecute
        (ask (.beforeExecute request) : PluginProgram Reply Value _) fun _ => True :=
      .ask trivial fun _ => .pure trivial
    refine (callWithinDeadline_withoutExecute authorizes).bind ?_
    rintro ((_ | outcome) | _ | _) _
    · exact .pure fun _ _ _ _ => unit
    · exact .pure (by rintro _ _ _ ⟨⟩)
    · exact .pure (by rintro _ _ _ ⟨⟩)
    · exact .pure (by rintro _ _ _ ⟨⟩)
  · exact .pure (by rintro _ _ _ ⟨⟩)
  · exact .pure (by rintro _ _ _ ⟨⟩)
  · exact .pure (by rintro _ _ _ ⟨⟩)

/-! ## Dispatched executions -/

/-- What the SDK makes of the answer to a dispatched `execute`. -/
def executionOf (unit : String) : Settled Reply → DeadlineCall (PluginExecuteResult Reply)
  | .returned reply => .completed (acceptedExecuteResult effect.protocol unit reply)
  | .threw => .completed executeOutcomeUnknown
  | .late => .deadlineExceeded

private theorem sdkExecute_trace {call dispatched : PluginExecuteRequest Value}
    {answer : Settled Reply}
    {exchanges : List (Exchange (pluginInterface Reply Value))}
    {settled : Settled (PluginExecuteResult Reply)}
    (traced : (sdkExecute effect.protocol effect.manifest call).Trace exchanges settled)
    (member : ⟨.invoke (.execute dispatched), answer⟩ ∈ exchanges) :
    .ofSettled settled = executionOf effect call.costLimitUnit answer := by
  unfold sdkExecute at traced
  split at traced
  · obtain ⟨rfl, _⟩ := Program.trace_done.mp traced
    cases member
  · obtain ⟨given, rest, rfl, continued⟩ := Program.trace_call_bind.mp traced
    have concluded : rest = [] ∧
      .ofSettled settled = executionOf effect call.costLimitUnit given := by
      rcases given with reply | _ | _ <;>
        · obtain ⟨rfl, rfl⟩ := Program.trace_done.mp continued
          exact ⟨rfl, rfl⟩
    obtain ⟨rfl, ended⟩ := concluded
    cases List.mem_singleton.mp member
    exact ended

/-- A dispatched call ended as its answer says. -/
theorem callWithinDeadline_execute {call dispatched : PluginExecuteRequest Value}
    {deadlineAtMs : ℤ} {answer : Settled Reply}
    {exchanges : List (Exchange (pluginInterface Reply Value))}
    {execution : DeadlineCall (PluginExecuteResult Reply)}
    (traced : (callWithinDeadline (sdkExecute effect.protocol effect.manifest call)
      deadlineAtMs).Trace exchanges execution)
    (member : ⟨.invoke (.execute dispatched), answer⟩ ∈ exchanges) :
    execution = executionOf effect call.costLimitUnit answer := by
  obtain ⟨now, rest, rfl, timed⟩ := Program.trace_call_bind.mp traced
  have inRest : ⟨.invoke (.execute dispatched), answer⟩ ∈ rest := by
    rcases List.mem_cons.mp member with clock | found
    · cases clock
    · exact found
  split at timed
  · obtain ⟨rfl, _⟩ := Program.trace_done.mp timed
    cases inRest
  · obtain ⟨calling, settled, ending, rfl, called, ended⟩ := Program.trace_bind.mp timed
    obtain ⟨rfl, rfl⟩ := Program.trace_done.mp ended
    rw [List.append_nil] at inRest
    exact sdkExecute_trace effect called inRest

/-- An accepted final result is the valid message of the reply, in the unit of the limit. -/
theorem acceptedExecuteResult_final {protocol : PluginProtocol Reply Value} {unit : String}
    {reply : Reply} {reported : PluginFinalOutcome Reply}
    (accepted : acceptedExecuteResult protocol unit reply = .final reported) :
    protocol.executeResult reply = some (.final reported) ∧ reported.usage.unit = unit := by
  unfold acceptedExecuteResult at accepted
  split at accepted
  · cases accepted
  · cases accepted
  · rename_i outcome valid
    split at accepted
    · cases accepted
    · rename_i sameUnit
      cases accepted
      exact ⟨valid, by simpa using sameUnit⟩

private theorem concludeExecution_justified (request : LeafEffectRequest Value)
    (context : PluginContext Value) (execution : DeadlineCall (PluginExecuteResult Reply)) :
    WithoutExecute (concludeExecution effect request context execution) fun outcome =>
      ∀ final, outcome = .final final → ∃ reported, execution = .completed (.final reported) ∧
        JustifiedBy request reported final := by
  rcases execution with (reported | ⟨error, reference⟩) | _ | _
  · refine (mapFinalOutcome_justified effect context request reported).bind ?_
    rintro (reason | mapped) justified
    · exact .pure (by rintro _ ⟨⟩)
    · refine .pure ?_
      rintro final ⟨⟩
      exact ⟨reported, rfl, justified mapped rfl⟩
  · exact .pure (by rintro _ ⟨⟩)
  · exact .pure (by rintro _ ⟨⟩)
  · exact .pure (by rintro _ ⟨⟩)

/-- **A dispatched execution is never guessed.** When the plugin's `execute` was called,
the bridge answers with a definite outcome only for a returned reply that the protocol
accepts as a final message, in the reserved unit, and that justifies the outcome. -/
theorem executeWithPlugin_dispatched {request : LeafEffectRequest Value}
    {exchanges : List (Exchange (pluginInterface Reply Value))}
    {outcome : LeafEffectFinalOutcome Value} {dispatched : PluginExecuteRequest Value}
    {answer : Settled Reply}
    (traced : (executeWithPlugin effect request).Trace exchanges (.final outcome))
    (member : ⟨.invoke (.execute dispatched), answer⟩ ∈ exchanges) :
    ∃ reply reported, answer = .returned reply ∧
      effect.protocol.executeResult reply = some (.final reported) ∧
        reported.usage.unit = request.reservationUnit ∧ JustifiedBy request reported outcome := by
  obtain ⟨before, authorization, after, rfl, authorizing, continued⟩ := Program.trace_bind.mp traced
  obtain ⟨authorized, quiet⟩ :=
    (authorizeExecution_authorized effect request).trace authorizing fun _ _ => trivial
  have later : ⟨.invoke (.execute dispatched), answer⟩ ∈ after :=
    (List.mem_append.mp member).resolve_left fun early => quiet _ early
  rcases authorization with refusal | ⟨context, input, quote⟩
  · obtain ⟨rfl, _⟩ := Program.trace_done.mp continued
    cases later
  have unit := authorized context input quote rfl
  obtain ⟨calling, execution, concluding, rfl, called, concluded⟩ := Program.trace_bind.mp continued
  obtain ⟨justified, silent⟩ :=
    (concludeExecution_justified effect request context execution).trace concluded
      fun _ _ => trivial
  obtain ⟨reported, completed, justifies⟩ := justified outcome rfl
  have inCall : ⟨.invoke (.execute dispatched), answer⟩ ∈ calling :=
    (List.mem_append.mp later).resolve_right fun late => silent _ late
  have execution_eq := callWithinDeadline_execute effect called inCall
  rw [completed] at execution_eq
  rcases answer with reply | _ | _
  · obtain ⟨valid, sameUnit⟩ := acceptedExecuteResult_final
      (DeadlineCall.completed.inj execution_eq).symm
    exact ⟨reply, reported, rfl, valid, sameUnit.trans unit.symm, justifies⟩
  · cases execution_eq
  · cases execution_eq

/-! ## Found outcomes -/

private theorem manifest_unit : effect.manifest.unit = requestUnit := by
  have accepted := effect.accepted
  unfold validateFactoryBinding at accepted
  split at accepted
  · cases accepted
  split at accepted
  · cases accepted
  split at accepted
  · cases accepted
  · rename_i economics
    simp only [Bool.or_eq_true, not_or, bne_iff_ne, ne_eq, not_not] at economics
    exact economics.1.1

private theorem acceptedLookupResult_found {protocol : PluginProtocol Reply Value}
    {manifest : PluginManifest} {reply : Reply} {reported : PluginFinalOutcome Reply}
    (accepted : acceptedLookupResult protocol manifest reply = .found reported) :
    protocol.lookupResult reply = some (.found reported) ∧
      reported.usage.unit = manifest.unit := by
  unfold acceptedLookupResult at accepted
  split at accepted
  · cases accepted
  · rename_i result valid
    split at accepted
    · rename_i admitted
      subst accepted
      simp only [lookupResultMatchesManifest, Bool.and_eq_true, beq_iff_eq] at admitted
      exact ⟨valid, admitted.1⟩
    · cases accepted

private theorem sdkLookup_found {context : PluginContext Value} {operationKey : OperationKey}
    {exchanges : List (Exchange (pluginInterface Reply Value))}
    {reported : PluginFinalOutcome Reply}
    (traced : (sdkLookup effect.protocol effect.manifest context operationKey).Trace exchanges
      (.returned (.found reported))) :
    ∃ reply, ⟨.invoke (.lookup context operationKey), .returned reply⟩ ∈ exchanges ∧
      acceptedLookupResult effect.protocol effect.manifest reply = .found reported := by
  unfold sdkLookup at traced
  split at traced
  · obtain ⟨_, absurd⟩ := Program.trace_done.mp traced
    cases absurd
  split at traced
  · obtain ⟨_, absurd⟩ := Program.trace_done.mp traced
    cases absurd
  obtain ⟨answer, rest, rfl, continued⟩ := Program.trace_call_bind.mp traced
  rcases answer with reply | _ | _
  · obtain ⟨_, returned⟩ := Program.trace_done.mp continued
    exact ⟨reply, List.mem_cons_self, (Settled.returned.inj returned).symm⟩
  · obtain ⟨_, absurd⟩ := Program.trace_done.mp continued
    cases absurd
  · obtain ⟨_, absurd⟩ := Program.trace_done.mp continued
    cases absurd

private theorem callWithinDeadline_completed {Answer : Type}
    {operation : PluginProgram Reply Value (Settled Answer)} {deadlineAtMs : ℤ}
    {exchanges : List (Exchange (pluginInterface Reply Value))} {value : Answer}
    (traced : (callWithinDeadline operation deadlineAtMs).Trace exchanges (.completed value)) :
    ∃ inner, operation.Trace inner (.returned value) ∧
    ∀ exchange ∈ inner, exchange ∈ exchanges := by
  obtain ⟨now, rest, rfl, timed⟩ := Program.trace_call_bind.mp traced
  split at timed
  · obtain ⟨_, absurd⟩ := Program.trace_done.mp timed
    cases absurd
  · obtain ⟨inner, settled, ending, rfl, called, ended⟩ := Program.trace_bind.mp timed
    obtain ⟨_, completed⟩ := Program.trace_done.mp ended
    refine ⟨inner, ?_, fun exchange member =>
      List.mem_cons_of_mem _ (List.mem_append_left _ member)⟩
    rcases settled with given | _ | _
    · cases completed
      exact called
    · cases completed
    · cases completed

/-- **A lookup finds only reported outcomes.** A found outcome comes from a returned reply
that the protocol accepts as found, in the reserved unit, and that justifies the outcome. -/
theorem lookupWithPlugin_found {request : LeafEffectRequest Value}
    {exchanges : List (Exchange (pluginInterface Reply Value))}
    {outcome : LeafEffectFinalOutcome Value} {proofId : String}
    (traced : (lookupWithPlugin effect request).Trace exchanges (.found outcome proofId)) :
    ∃ context reply reported,
      ⟨.invoke (.lookup context request.operationKey), .returned reply⟩ ∈ exchanges ∧
        effect.protocol.lookupResult reply = some (.found reported) ∧
          reported.usage.unit = request.reservationUnit ∧ JustifiedBy request reported outcome := by
  unfold lookupWithPlugin at traced
  split at traced
  · obtain ⟨_, absurd⟩ := Program.trace_done.mp traced
    cases absurd
  rename_i admitted
  have unit := requestFailure_eq_none admitted
  obtain ⟨before, context, after, rfl, _, continued⟩ := Program.trace_bind.mp traced
  rcases context with _ | context
  · obtain ⟨_, absurd⟩ := Program.trace_done.mp continued
    cases absurd
  obtain ⟨calling, lookup, concluding, rfl, called, concluded⟩ := Program.trace_bind.mp continued
  rcases lookup with (reported | _ | _ | error) | _ | _
  case completed.found =>
    obtain ⟨mapping, mapped, ending, rfl, mappedTrace, ended⟩ := Program.trace_bind.mp concluded
    have justified := ((mapFinalOutcome_justified effect context request reported).trace mappedTrace
      fun _ _ => trivial).1
    rcases mapped with reason | mapped
    · obtain ⟨_, absurd⟩ := Program.trace_done.mp ended
      cases absurd
    obtain ⟨_, found⟩ := Program.trace_done.mp ended
    cases found
    obtain ⟨inner, innerTrace, included⟩ := callWithinDeadline_completed called
    obtain ⟨reply, member, accepted⟩ := sdkLookup_found effect innerTrace
    obtain ⟨valid, sameUnit⟩ := acceptedLookupResult_found accepted
    refine ⟨context, reply, reported, ?_, valid, ?_, justified outcome rfl⟩
    · exact List.mem_append_right _ (List.mem_append_left _ (included _ member))
    · rw [sameUnit, manifest_unit effect, unit]
  all_goals
    obtain ⟨_, absurd⟩ := Program.trace_done.mp concluded
    cases absurd

end

end Kurobara.Plugin
