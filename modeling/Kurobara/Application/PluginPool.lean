import Kurobara.Application.EffectPermission
import Kurobara.Application.ExecutorReports
import Kurobara.Plugin.Outcome

/-! # Executors with a plugin

With the plugin bridge as the effect, an attempt whose effect may have happened stays
open, with its reservation reserved, until a valid reply of the plugin justifies closing
it.
-/

namespace Kurobara.Application

open Foundation Kernel Persistence Plugin

variable {Value : Type}

/-! ## The reservation of an open attempt -/

/-- The reservation of an attempt is neither settled nor released. -/
def ReservationHeld (ledger : CostLedger) (attempt : Attempt) : Prop :=
  ∃ reservation ∈ ledger.reservations, reservation.reservationId = attempt.costReservationId ∧
    reservation.attemptId = attempt.attemptId ∧ reservation.state = .reserved

/-- Every open attempt still has its reservation. -/
def OpenAttemptsReserved (stepRun : StepRun) (ledger : CostLedger) : Prop :=
  ∀ attempt ∈ stepRun.attempts, attemptIsTerminal attempt.state = false →
    ReservationHeld ledger attempt

/-- A planned command leaves the reservations of the open attempts to those that it keeps
open; a claim brings its own. -/
theorem OpenAttemptsReserved.planned {stepRun : StepRun} {command : StepCommand}
    {plan : StepTransitionPlan} {ledger next : CostLedger}
    (reserved : OpenAttemptsReserved stepRun ledger) (move : StepMove stepRun command plan)
    (context : StepCommandContext)
    (grows : ∀ reservation ∈ ledger.reservations, reservation ∈ next.reservations)
    (claims : ∀ preparation attempt, command = .claimStepAttempt preparation →
      attempt.attemptId = preparation.attemptId →
        attempt.costReservationId = preparation.costReservationId → ReservationHeld next attempt) :
    OpenAttemptsReserved (freshTransition stepRun plan context).stepRun next := by
  have held : ∀ attempt, ReservationHeld ledger attempt → ReservationHeld next attempt := by
    rintro attempt ⟨reservation, member, identity, owner, state⟩
    exact ⟨reservation, grows reservation member, identity, owner, state⟩
  intro candidate member isOpen
  cases move with
  | claimed preparation attempt details ready inactive fresh number operationKey state identity
      reservation =>
      rcases List.mem_append.mp member with old | new
      · exact held candidate (reserved candidate old isOpen)
      · rw [List.mem_singleton.mp new]
        exact claims preparation attempt rfl identity reservation
  | moved attempt replacement details command state attemptMember active opened target same number
      operationKey reservation effect move =>
      obtain ⟨known, knownMember, rfl⟩ := List.mem_map.mp member
      split at isOpen
      · obtain ⟨kept, keptMember, identity, owner, keptState⟩ :=
          held attempt (reserved attempt attemptMember move.open_before)
        rw [if_pos ‹_›]
        exact ⟨kept, keptMember, identity.trans reservation.symm, owner.trans same.symm, keptState⟩
      · rw [if_neg ‹_›]
        exact held known (reserved known knownMember isOpen)
  | parked => exact held candidate (reserved candidate member isOpen)

private theorem TransitionEffect.openAttemptsReserved {before after : StepRows Value}
    {input : TransitionStepAttemptInput Value} {result : TransitionStepAttemptResult}
    (effect : TransitionEffect before after input result)
    (invariant : StepRunInvariant before.stepRun)
    (reserved : OpenAttemptsReserved before.stepRun before.ledger) :
    OpenAttemptsReserved after.stepRun after.ledger := by
  cases effect with
  | refused failure unchanged ledger =>
      rw [unchanged, ledger]
      exact reserved
  | replayed success unchanged ledger =>
      rw [unchanged, ledger]
      exact reserved
  | applied success command context transition type target accepted fresh moved ledger =>
      rw [moved]
      by_cases settling : settles input.request.type = true
      · intro attempt member isOpen
        have closed := terminal_of_settles invariant accepted fresh (type ▸ settling) attempt member
        rw [closed] at isOpen
        cases isOpen
      · rw [ledger (settlementOf_eq_none (by simpa using settling))]
        rcases applyStepCommand_ok accepted with ⟨rfl, _⟩ | ⟨_, _, planned, plannedEq, _, rfl⟩
        · exact reserved
        · refine reserved.planned (planTransition_move plannedEq) context (fun _ known => known) ?_
          rintro preparation attempt rfl
          cases target

/-- Steps in which every open attempt is reserved. -/
structure PluginPoolInvariant (rows : StepRows Value) : Prop where
  stepRun : StepRunInvariant rows.stepRun
  reserved : OpenAttemptsReserved rows.stepRun rows.ledger

/-- The transition use case keeps the pool's invariant. -/
theorem PluginPoolInvariant.transition {before after : StepRows Value}
    {input : TransitionStepAttemptInput Value} {result : TransitionStepAttemptResult}
    (invariant : PluginPoolInvariant before) (effect : TransitionEffect before after input result) :
    PluginPoolInvariant after :=
  ⟨effect.invariant invariant.stepRun, effect.openAttemptsReserved invariant.stepRun
    invariant.reserved⟩

/-- The attempt has its reservation. -/
def AttemptReserved (attemptId : AttemptId) (rows : StepRows Value) : Prop :=
  ∀ attempt ∈ rows.stepRun.attempts, attempt.attemptId = attemptId →
    ReservationHeld rows.ledger attempt

theorem PluginPoolInvariant.attemptReserved {rows : StepRows Value} {attemptId : AttemptId}
    {state : AttemptState} (invariant : PluginPoolInvariant rows)
    (unsettled : EffectUnsettled attemptId state rows.stepRun) :
    AttemptReserved attemptId rows := by
  obtain ⟨kind, known, knownMember, identity, inState⟩ := unsettled
  intro attempt member same
  have equal : attempt = known := List.inj_on_of_nodup_map invariant.stepRun.distinct member
    knownMember (same.trans identity.symm)
  refine invariant.reserved attempt member ?_
  rw [equal, inState]
  rcases kind with rfl | rfl <;> rfl

/-! ## Executors with a plugin -/

/-- What else happens to the step: a transition that another use case asks, a claim
with its reservation, or a change of the rows around step and ledger. -/
inductive StepActivityLabel (Value : Type) where
  | transition (input : TransitionStepAttemptInput Value) (result : TransitionStepAttemptResult)
  | claim (preparation : AttemptPreparation) (transition : StepTransition)
  | rows

section Pool

variable {Reply : Type} [DecidableEq Value] (hashes : CanonicalHashes Value)
  (effect : TrustedPluginLeafEffect Reply Value)

/-- Transitions commit on the rows of the step, and the effect is the plugin bridge with
any behaviour of the plugin; `none` is an answer that was thrown. -/
inductive PluginPerforms (before : StepRows Value) :
    (operation : LeafOperation Value) → operation.Answer → StepRows Value → Prop where
  | transition (environment : TransitionEnvironment) (input : TransitionStepAttemptInput Value)
      (result : TransitionStepAttemptResult) (after : StepRows Value)
      (committed : transitionStepAttempt hashes environment before input = .ok (result, after)) :
      PluginPerforms before (.transition input) result after
  | execute (request : LeafEffectRequest Value) (answer : Option (ExecuteLeafEffectOutcome Value))
      (bridged : ∀ outcome, answer = some outcome →
        ∃ exchanges, (executeWithPlugin effect request).Trace exchanges outcome) :
      PluginPerforms before (.execute request) answer before
  | lookup (request : LeafEffectRequest Value) (answer : Option (LookupLeafEffectOutcome Value))
      (bridged : ∀ outcome, answer = some outcome →
        ∃ exchanges, (lookupWithPlugin effect request).Trace exchanges outcome) :
      PluginPerforms before (.lookup request) answer before
  | getContextByStepId (workspaceId : WorkspaceId) (stepRunId : StepRunId)
      (answer : Option (StepExecutionContext Value)) :
      PluginPerforms before (.getContextByStepId workspaceId stepRunId) answer before
  | getLeafExecutionIdentity (workspaceId : WorkspaceId) (stepRunId : StepRunId)
      (attemptId : AttemptId) (answer : Option LeafExecutionIdentity) :
      PluginPerforms before (.getLeafExecutionIdentity workspaceId stepRunId attemptId) answer
        before
  | validate (contract : ContractRef) (value : Value) (answer : Option OutputContractValidation) :
      PluginPerforms before (.validate contract value) answer before
  | now (answer : Option Instant) : PluginPerforms before .now answer before

/-- Only the executor concludes an attempt after its effect; a claim reserves the cost
of its attempt. -/
inductive StepMoves (before : StepRows Value) : StepActivityLabel Value → StepRows Value →
    Prop where
  | transition (environment : TransitionEnvironment) (input : TransitionStepAttemptInput Value)
      (result : TransitionStepAttemptResult) (after : StepRows Value)
      (foreign : closesAfterEffect input.request.type = false)
      (committed : transitionStepAttempt hashes environment before input = .ok (result, after)) :
      StepMoves before (.transition input result) after
  | claim (preparation : AttemptPreparation) (context : StepCommandContext)
      (transition : StepTransition) (reservation : CostReservation) (after : StepRows Value)
      (accepted : applyStepCommand before.stepRun (.claimStepAttempt preparation) context =
        .ok transition)
      (moved : after.stepRun = transition.stepRun)
      (reserves : after.ledger.reservations = before.ledger.reservations ++ [reservation])
      (attempt : reservation.attemptId = preparation.attemptId)
      (identity : reservation.reservationId = preparation.costReservationId)
      (state : reservation.state = .reserved) :
      StepMoves before (.claim preparation transition) after
  | rows (after : StepRows Value) (step : after.stepRun = before.stepRun)
      (ledger : after.ledger = before.ledger) : StepMoves before .rows after

private def pluginEnvironment :
    PoolEnvironment (leafInterface Value) (StepRows Value) (StepActivityLabel Value) where
  initial rows := stepRunSystem.Reachable rows.stepRun ∧
    OpenAttemptsReserved rows.stepRun rows.ledger
  perform before operation answer after :=
    PluginPerforms hashes effect before operation answer after
  disturb before label after := StepMoves hashes before label after

/-- A step of the pool: one of an executor, or one of the transactions around it. -/
abbrev PluginPoolLabel (Value : Type) := PoolLabel (leafInterface Value) (StepActivityLabel Value)

/-- Executions and reconciliations of the attempts of one step, in any order and number. -/
def pluginPool : TransitionSystem (LeafPoolState Value) (PluginPoolLabel Value) :=
  pooled (pluginEnvironment hashes effect) fun program =>
    ∃ effectAdapterKey request, program = executeLeafAttempt hashes effectAdapterKey request

variable {hashes effect}

theorem StepMoves.invariant {before after : StepRows Value} {label : StepActivityLabel Value}
    (moves : StepMoves hashes before label after) (invariant : PluginPoolInvariant before) :
    PluginPoolInvariant after := by
  cases moves with
  | transition environment input result after foreign committed =>
      exact invariant.transition (transitionStepAttempt_effect hashes committed)
  | claim preparation context transition reservation after accepted moved reserves owner identity
      state =>
      refine ⟨moved ▸ invariant.stepRun.apply accepted, ?_⟩
      rw [moved]
      have grows : ∀ known ∈ before.ledger.reservations, known ∈ after.ledger.reservations := by
        intro known member
        rw [reserves]
        exact List.mem_append_left _ member
      rcases applyStepCommand_ok accepted with ⟨rfl, _⟩ | ⟨_, _, planned, plannedEq, _, rfl⟩
      · intro attempt member isOpen
        obtain ⟨known, knownMember, rest⟩ := invariant.reserved attempt member isOpen
        exact ⟨known, grows known knownMember, rest⟩
      · refine invariant.reserved.planned (planTransition_move plannedEq) context grows ?_
        rintro claimed attempt same attemptIdentity attemptReservation
        cases same
        refine ⟨reservation, ?_, identity.trans attemptReservation.symm,
          owner.trans attemptIdentity.symm, state⟩
        rw [reserves]
        exact List.mem_append_right _ (List.mem_singleton_self _)
  | rows after step ledger =>
      refine ⟨step ▸ invariant.stepRun, ?_⟩
      rw [step, ledger]
      exact invariant.reserved

/-- The invariant holds after any interleaving of executors, transitions and crashes. -/
theorem pluginPool_invariant :
    (pluginPool hashes effect).Invariant fun state => PluginPoolInvariant state.1 where
  initially _ start := ⟨stepRunInvariant_invariant.reachable start.1.1, start.1.2⟩
  preserved before label after invariant step := by
    cases step with
    | performed operation resume answer performs =>
        cases performs with
        | transition environment input result after committed =>
            exact invariant.transition (transitionStepAttempt_effect hashes committed)
        | _ => exact invariant
    | started program admitted => exact invariant
    | dropped program => exact invariant
    | environment label moves => exact moves.invariant invariant

/-! ## What closes an attempt -/

variable (effect) in
/-- A definite outcome of a dispatched `execute`: the plugin returned a reply that the
protocol accepts as final, in the reserved unit, and that justifies the outcome. -/
def ExecutionIsReported (request : LeafEffectRequest Value) (answer : Settled Reply)
    (outcome : LeafEffectFinalOutcome Value) : Prop :=
  ∃ reply reported, answer = .returned reply ∧
    effect.protocol.executeResult reply = some (.final reported) ∧
      reported.usage.unit = request.reservationUnit ∧ JustifiedBy request reported outcome

variable (effect) in
/-- A found outcome: the plugin returned a reply that the protocol accepts as found, in
the reserved unit, and that justifies the outcome. -/
def LookupIsReported (request : LeafEffectRequest Value) (outcome : LeafEffectFinalOutcome Value) :
    Prop :=
  ∃ reply reported, effect.protocol.lookupResult reply = some (.found reported) ∧
    reported.usage.unit = request.reservationUnit ∧ JustifiedBy request reported outcome

variable (effect) in
/-- What a transition that concludes an attempt of a state is based on: of one in flight, the
outcome of an execution, reported by the plugin if it was dispatched; of an ambiguous one, an
outcome that a lookup found. -/
def ClosingBasis (earlier : List (PluginPoolLabel Value))
    (input : TransitionStepAttemptInput Value) (state : AttemptState) : Prop :=
  (state = .inFlight ∧ ∃ request outcome exchanges,
      .performed (.execute request) (some (.final outcome)) ∈ earlier ∧
        request.attemptId = input.attemptId ∧ RecordedAs outcome input.request ∧
          (executeWithPlugin effect request).Trace exchanges (.final outcome) ∧
            ∀ dispatched answer, ⟨.invoke (.execute dispatched), answer⟩ ∈ exchanges →
              ExecutionIsReported effect request answer outcome) ∨
    state = .ambiguous ∧ ∃ request outcome proofId,
      .performed (.lookup request) (some (.found outcome proofId)) ∈ earlier ∧
        request.attemptId = input.attemptId ∧ ResolvedAs proofId outcome input.request ∧
          LookupIsReported effect request outcome

private theorem pluginPool_execute_trace {first last : LeafPoolState Value}
    {labels : List (PluginPoolLabel Value)}
    (run : (pluginPool hashes effect).Run first labels last)
    {request : LeafEffectRequest Value} {outcome : ExecuteLeafEffectOutcome Value}
    (member : .performed (.execute request) (some outcome) ∈ labels) :
    ∃ exchanges, (executeWithPlugin effect request).Trace exchanges outcome := by
  obtain ⟨before, after, step⟩ := run.exists_step member
  cases step with
  | performed operation resume answer performs =>
      cases performs with
      | execute request answer bridged => exact bridged outcome rfl

private theorem pluginPool_lookup_trace {first last : LeafPoolState Value}
    {labels : List (PluginPoolLabel Value)}
    (run : (pluginPool hashes effect).Run first labels last)
    {request : LeafEffectRequest Value} {outcome : LookupLeafEffectOutcome Value}
    (member : .performed (.lookup request) (some outcome) ∈ labels) :
    ∃ exchanges, (lookupWithPlugin effect request).Trace exchanges outcome := by
  obtain ⟨before, after, step⟩ := run.exists_step member
  cases step with
  | performed operation resume answer performs =>
      cases performs with
      | lookup request answer bridged => exact bridged outcome rfl

/-- A transition that concludes an attempt after its effect has its basis in the run. -/
theorem pluginPool_closingBasis {first before after : LeafPoolState Value}
    {earlier : List (PluginPoolLabel Value)} {input : TransitionStepAttemptInput Value}
    {result : TransitionStepAttemptResult} {state : AttemptState}
    (start : (pluginPool hashes effect).initial first)
    (run : (pluginPool hashes effect).Run first earlier before)
    (step : (pluginPool hashes effect).step before (.performed (.transition input) result) after)
    (concludes : concludesFrom state input.request.type = true) :
    ClosingBasis effect earlier input state := by
  have disciplined : ∀ program : LeafProgram Value ExecuteLeafAttemptResult,
      (∃ effectAdapterKey request, program = executeLeafAttempt hashes effectAdapterKey request) →
        program.Warranted leafWarrant [] fun _ _ => True := by
    rintro program ⟨effectAdapterKey, request, rfl⟩
    exact Program.Warranted.mono (executeLeafAttempt_follows effectAdapterKey request)
      fun _ _ _ => trivial
  obtain ⟨seen, warrant, performed⟩ := pooled_warranted disciplined run start.2 step
  change ClosingIsWarranted input seen at warrant
  unfold ClosingIsWarranted at warrant
  have executed : state = .inFlight → (∃ request outcome,
      (⟨.execute request, some (.final outcome)⟩ : LeafExchange Value) ∈ seen ∧
        request.attemptId = input.attemptId ∧ RecordedAs outcome input.request) →
      ClosingBasis effect earlier input state := by
    rintro inFlight ⟨request, outcome, known, same, recorded⟩
    have member := performed _ known
    obtain ⟨exchanges, traced⟩ := pluginPool_execute_trace run member
    exact .inl ⟨inFlight, request, outcome, exchanges, member, same, recorded, traced,
      fun dispatched answer dispatch => executeWithPlugin_dispatched effect traced dispatch⟩
  cases kind : input.request.type with
  | recordAttemptSucceeded =>
      rw [kind] at warrant concludes
      cases state <;> first | exact executed rfl warrant | cases concludes
  | recordAttemptFailure =>
      rw [kind] at warrant concludes
      cases state <;> first | exact executed rfl warrant | cases concludes
  | resolveAttemptAmbiguity =>
      rw [kind] at warrant concludes
      obtain ⟨request, outcome, proofId, known, same, resolved⟩ := warrant
      have member := performed _ known
      obtain ⟨exchanges, traced⟩ := pluginPool_lookup_trace run member
      obtain ⟨context, reply, reported, _, valid, unit, justified⟩ :=
        lookupWithPlugin_found effect traced
      have ambiguous : state = .ambiguous := by
        cases state <;> first | rfl | cases concludes
      exact .inr ⟨ambiguous, request, outcome, proofId, member, same, resolved, reply, reported,
        valid, unit, justified⟩
  | _ =>
      rw [kind] at concludes
      cases state <;> cases concludes

/-- A step of the pool keeps an attempt unsettled, or is the transition that concludes it. -/
theorem pluginPool_unsettled_step {before after : LeafPoolState Value}
    {label : PluginPoolLabel Value} {attemptId : AttemptId} {state : AttemptState}
    (step : (pluginPool hashes effect).step before label after)
    (invariant : StepRunInvariant before.1.stepRun)
    (unsettled : EffectUnsettled attemptId state before.1.stepRun) :
    (∃ next, EffectUnsettled attemptId next after.1.stepRun ∧
        (next = state ∨ next = .ambiguous)) ∨
      ∃ input success, label = .performed (.transition input) (.ok success) ∧
        input.attemptId = attemptId ∧ concludesFrom state input.request.type = true := by
  have kept : ∀ {rows : StepRows Value}, rows.stepRun = before.1.stepRun →
      ∃ next, EffectUnsettled attemptId next rows.stepRun ∧ (next = state ∨ next = .ambiguous) :=
    fun same => ⟨state, same ▸ unsettled, .inl rfl⟩
  have transitioned : ∀ {rows : StepRows Value} {input : TransitionStepAttemptInput Value}
      {result : TransitionStepAttemptResult}, TransitionEffect before.1 rows input result →
      (∃ next, EffectUnsettled attemptId next rows.stepRun ∧ (next = state ∨ next = .ambiguous)) ∨
        ∃ success, result = .ok success ∧ input.attemptId = attemptId ∧
          concludesFrom state input.request.type = true := by
    intro rows input result moved
    cases moved with
    | refused failure unchanged => exact .inl (kept unchanged)
    | replayed success unchanged => exact .inl (kept unchanged)
    | applied success command context transition type target accepted fresh moved =>
        rcases unsettled.apply invariant accepted with stays | ⟨closes, named⟩
        · exact .inl (moved ▸ stays)
        · exact .inr ⟨success, rfl, Option.some.inj (target.symm.trans named), type ▸ closes⟩
  cases step with
  | performed operation resume answer performs =>
      cases performs with
      | transition environment input _ after committed =>
          rcases transitioned (transitionStepAttempt_effect hashes committed) with
            stays | ⟨success, rfl, same, closes⟩
          · exact .inl stays
          · exact .inr ⟨input, success, rfl, same, closes⟩
      | _ => exact .inl (kept rfl)
  | started program admitted => exact .inl (kept rfl)
  | dropped program => exact .inl (kept rfl)
  | environment disturbance moves =>
      cases moves with
      | transition environment input result after foreign committed =>
          rcases transitioned (transitionStepAttempt_effect hashes committed) with
            stays | ⟨_, _, _, closes⟩
          · exact .inl stays
          · rw [closesAfterEffect_of_concludesFrom closes] at foreign
            cases foreign
      | claim preparation context transition reservation after accepted moved =>
          rcases unsettled.apply invariant accepted with stays | ⟨_, named⟩
          · exact .inl (moved ▸ stays)
          · cases named
      | rows after sameStep => exact .inl (kept sameStep)

end Pool

end Kurobara.Application
