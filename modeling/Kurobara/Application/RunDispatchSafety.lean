import Kurobara.Application.RunReconcilerDiscipline
import Mathlib.Data.List.Induction

/-! # Runs are started at most once and never lost

What the custody of queued Runs means for the runs of the pool: a Run is started again
only after a definite rejection was reset, a started binding keeps its orchestration Run,
and its message is dispatched with that Run or can still be claimed.
-/

namespace Kurobara.Application

open Kernel Persistence Foundation

/-! ## Repeated starts -/

/-- A start of the Run was definitely rejected, and its binding was then reset. -/
def IsRejectedAndReset (messageId : String) (performed : List RunDispatchExchange) : Prop :=
  ∃ before rejection between reset after,
    performed = before ++ rejection :: between ++ reset :: after ∧
      rejectsRun messageId rejection = true ∧ resetsRun messageId reset = true

/-- Between two starts of a Run, it was rejected and reset. -/
def StartsRepeatAfterReset (performed : List RunDispatchExchange) : Prop :=
  ∀ messageId earlier start middle again later,
    performed = earlier ++ start :: middle ++ again :: later →
      startsRun messageId start = true → startsRun messageId again = true →
        IsRejectedAndReset messageId (start :: middle)

/-- After a start, a startable Run was reset. -/
theorem reset_of_startable {messageId : String} {start : RunDispatchExchange}
    (starts : startsRun messageId start = true) {earlier middle : List RunDispatchExchange}
    (startable : startStatus messageId (earlier ++ start :: middle) = .startable) :
    ∃ between reset after, middle = between ++ reset :: after ∧
      resetsRun messageId reset = true := by
  induction middle using List.reverseRecOn with
  | nil =>
      rw [startStatus_append, nextStartStatus, starts] at startable
      cases startable
  | append_singleton middle last ih =>
      rw [← List.cons_append, ← List.append_assoc, startStatus_append, nextStartStatus] at startable
      split at startable
      · cases startable
      split at startable
      · rename_i resets
        exact ⟨middle, last, [], rfl, resets⟩
      · obtain ⟨between, reset, after, rfl, resets⟩ := ih startable
        refine ⟨between, reset, after ++ [last], ?_, resets⟩
        rw [List.append_assoc, List.cons_append]

/-- After a start, a Run that counts as rejected was rejected. -/
theorem rejection_of_started {messageId : String} {start : RunDispatchExchange}
    (starts : startsRun messageId start = true) {earlier middle : List RunDispatchExchange}
    (rejected : startStatus messageId (earlier ++ start :: middle) = .started true) :
    ∃ before rejection between, start :: middle = before ++ rejection :: between ∧
      rejectsRun messageId rejection = true := by
  induction middle using List.reverseRecOn with
  | nil =>
      rw [startStatus_append, nextStartStatus, starts] at rejected
      exact ⟨[], start, [], rfl, by injection rejected⟩
  | append_singleton middle last ih =>
      rw [← List.cons_append, ← List.append_assoc, startStatus_append, nextStartStatus] at rejected
      split at rejected
      · exact ⟨start :: middle, last, [], rfl, by injection rejected⟩
      split at rejected
      · cases rejected
      · obtain ⟨before, rejection, between, split, rejects⟩ := ih rejected
        refine ⟨before, rejection, between ++ [last], ?_, rejects⟩
        rw [← List.cons_append, split, List.append_assoc, List.cons_append]

/-- Warranted starts are repeated only after a reset. -/
theorem StartsAreWarranted.repeat {performed : List RunDispatchExchange}
    (warranted : StartsAreWarranted performed) : StartsRepeatAfterReset performed := by
  intro messageId earlier start middle again later split starts again_starts
  have startable := (warranted messageId _ again later split).1 again_starts
  obtain ⟨between, reset, after, rfl, resets⟩ := reset_of_startable starts startable
  have rejected : startStatus messageId (earlier ++ start :: between) = .started true := by
    refine (warranted messageId _ reset (after ++ again :: later) ?_).2 resets
    rw [split]
    simp
  obtain ⟨before, rejection, gap, same, rejects⟩ := rejection_of_started starts rejected
  refine ⟨before, rejection, gap, reset, after, ?_, rejects, resets⟩
  rw [← List.cons_append, same]

/-! ## Stale tokens -/

/-- The operation carries a token, and no lease with it is alive. -/
def RunDispatchOperation.IsStale (rows : RunOutboxRows) : RunDispatchOperation → Prop
  | .markDeadLetter input _ | .markDispatched input | .markReconciliationRequired input
  | .markRetry input _ _ | .markStarting input _ | .recordStarted input _ _
  | .resetPending input =>
      ∀ message, rows.messages input.messageId = some message →
        ¬ IsHeld message input.claimToken rows.clock
  | .confirm input _ | .release input _ _ _ =>
      ∀ binding lease, rows.bindings input.messageId = some binding →
        binding.reconciliationClaim = some lease → lease.claimToken = input.claimToken →
          lease.claimedUntil ≤ rows.clock
  | _ => False

/-- A confirmation without a lease, of the Run that its binding is started with: the message
is dispatched with this Run, when no dispatcher holds it. -/
def RepeatsConfirmation (rows after : RunOutboxRows) (operation : RunDispatchOperation) : Prop :=
  ∃ input orchestrationRunId message binding,
    operation = .confirm input orchestrationRunId ∧
      rows.messages input.messageId = some message ∧
        rows.bindings input.messageId = some binding ∧ binding.state = .started ∧
          binding.orchestrationRunId = some orchestrationRunId ∧
            message.isUnheld rows.clock = true ∧
              after = rows.setMessage input.messageId { message with
                state := .dispatched
                claim := none
                orchestrationRunId := some orchestrationRunId
                lastError := none }

private theorem reconciledBinding_none {rows : RunOutboxRows}
    {input : SettleOrchestrationReconciliationInput}
    (stale : ∀ binding lease, rows.bindings input.messageId = some binding →
      binding.reconciliationClaim = some lease → lease.claimToken = input.claimToken →
        lease.claimedUntil ≤ rows.clock) : rows.reconciledBinding input = none := by
  cases found : rows.reconciledBinding input with
  | none => rfl
  | some binding =>
      obtain ⟨has, held⟩ := Option.filter_eq_some_iff.mp found
      simp only [Bool.and_eq_true, isHeldUnder, Option.any_eq_true, beq_iff_eq,
        OutboxClaim.isAlive, decide_eq_true_eq] at held
      obtain ⟨_, lease, known, ⟨_, token⟩, alive⟩ := held
      exact absurd alive (not_lt.mpr (stale binding lease has known token))

/-- **A stale token changes nothing**, but for a repeated confirmation. -/
theorem stale_leaves_rows {rows after : RunOutboxRows} {operation : RunDispatchOperation}
    {answer : operation.Answer}
    (hasMessage : ∀ messageId binding, rows.bindings messageId = some binding →
      ∃ message, rows.messages messageId = some message)
    (stale : operation.IsStale rows)
    (performs : RunDispatchPerforms rows operation answer after) :
    after = rows ∨ RepeatsConfirmation rows after operation := by
  cases performs with
  | claimNext | noClaim | claimNextForSystem | noSystemClaim | reapExhaustedForSystem | startRun
  | findRunByStartKey => cases stale
  | thrown => exact .inl rfl
  | markDeadLetter settled =>
      obtain ⟨message, has, isHeld, _⟩ := RunOutboxRows.settle_ok settled
      exact absurd isHeld (stale message has)
  | markRetry settled =>
      obtain ⟨message, has, isHeld, _⟩ := RunOutboxRows.settle_ok settled
      exact absurd isHeld (stale message has)
  | markDispatched settled =>
      obtain ⟨message, _, has, _, isHeld, _⟩ := RunOutboxRows.markDispatched_ok settled
      exact absurd isHeld (stale message has)
  | markReconciliationRequired settled =>
      obtain ⟨message, _, has, _, isHeld, _⟩ := RunOutboxRows.settleBinding_ok settled
      exact absurd isHeld (stale message has)
  | markStarting settled =>
      obtain ⟨message, _, has, _, isHeld, _⟩ := RunOutboxRows.settleBinding_ok settled
      exact absurd isHeld (stale message has)
  | recordStarted settled =>
      obtain ⟨message, _, has, _, isHeld, _⟩ := RunOutboxRows.settleBinding_ok settled
      exact absurd isHeld (stale message has)
  | resetPending settled =>
      obtain ⟨message, _, has, _, isHeld, _⟩ := RunOutboxRows.resetPending_ok settled
      exact absurd isHeld (stale message has)
  | @confirm input orchestrationRunId =>
      have lost := reconciledBinding_none stale
      have confirmed : rows.confirm input orchestrationRunId =
          (_, (rows.confirm input orchestrationRunId).2) := rfl
      rcases confirm_cases confirmed with same | ⟨binding, found, _⟩ |
        ⟨binding, bound, started, run, same⟩
      · exact .inl same
      · rw [lost] at found
        cases found
      · obtain ⟨message, has⟩ := hasMessage _ _ bound
        rw [RunOutboxRows.dispatchUnheld] at same
        rcases updateUnheld_cases _ has with unmoved | ⟨unheld, moved⟩
        · exact .inl (same.trans unmoved)
        · exact .inr ⟨input, orchestrationRunId, message, binding, rfl, has, bound, started, run,
            unheld, same.trans moved⟩
  | @release input maxAttempts reason retryDelayMilliseconds =>
      refine .inl ?_
      rw [RunOutboxRows.release, reconciledBinding_none stale]

/-! ## Started bindings -/

/-- The binding of this message is started with this orchestration Run. -/
def RunIsStarted (rows : RunOutboxRows) (messageId orchestrationRunId : String) : Prop :=
  ∃ binding, rows.bindings messageId = some binding ∧ binding.state = .started ∧
    binding.orchestrationRunId = some orchestrationRunId

section Started

variable {rows : RunOutboxRows} {messageId orchestrationRunId : String}

private theorem RunIsStarted.of_bindings {after : RunOutboxRows}
    (started : RunIsStarted rows messageId orchestrationRunId)
    (same : after.bindings = rows.bindings) : RunIsStarted after messageId orchestrationRunId := by
  rw [RunIsStarted, same]
  exact started

/-- Only bindings that are not started are rebound. -/
theorem RunIsStarted.setBinding (started : RunIsStarted rows messageId orchestrationRunId)
    {other : String} {binding bound : RunOrchestrationBinding}
    (has : rows.bindings other = some binding)
    (kept : binding.state = .started → bound.state = .started ∧
      bound.orchestrationRunId = binding.orchestrationRunId) :
    RunIsStarted (rows.setBinding other bound) messageId orchestrationRunId := by
  obtain ⟨known, hasKnown, isStarted, run⟩ := started
  by_cases here : messageId = other
  · subst here
    rw [has] at hasKnown
    cases hasKnown
    obtain ⟨still, same⟩ := kept isStarted
    exact ⟨bound, Function.update_self .., still, same.trans run⟩
  · exact ⟨known, (Function.update_of_ne here ..).trans hasKnown, isStarted, run⟩

private theorem updateUnheld_bindings {workspaceId : WorkspaceId}
    {update : RunOutboxMessage → RunOutboxMessage} :
    (rows.updateUnheld workspaceId messageId update).bindings = rows.bindings := by
  unfold RunOutboxRows.updateUnheld
  split
  · split <;> rfl
  · rfl

theorem RunIsStarted.performs {operation : RunDispatchOperation} {answer : operation.Answer}
    {after : RunOutboxRows} (started : RunIsStarted rows messageId orchestrationRunId)
    (hasMessage : ∀ messageId binding, rows.bindings messageId = some binding →
      ∃ message, rows.messages messageId = some message)
    (performs : RunDispatchPerforms rows operation answer after) :
    RunIsStarted after messageId orchestrationRunId := by
  have unresolved : ∀ binding : RunOrchestrationBinding, binding.isUnresolved = true →
      ∀ bound : RunOrchestrationBinding, binding.state = .started → bound.state = .started ∧
        bound.orchestrationRunId = binding.orchestrationRunId :=
    fun binding unresolved _ started => absurd started (isUnresolved_ne unresolved).2
  cases performs with
  | noClaim | noSystemClaim | startRun | findRunByStartKey | thrown => exact started
  | @claimNext _ _ claimedId _ _ _ claimed =>
      rcases claimNext_cases claimed with ⟨_, rfl⟩ | ⟨message, binding, lease, reconciled, claimed⟩
      · exact started
      · have kept : RunIsStarted (rows.setBinding claimedId reconciled) messageId
            orchestrationRunId := by
          refine started.setBinding claimed.hasBinding fun isStarted => ?_
          rcases claimed.rebound with rfl | ⟨starting, _⟩
          · exact ⟨isStarted, rfl⟩
          · rw [starting] at isStarted
            cases isStarted
        exact kept.of_bindings (by rw [claimed.after]; rfl)
  | markDeadLetter settled =>
      obtain ⟨message, _, _, rfl⟩ := RunOutboxRows.settle_ok settled
      exact started
  | markRetry settled =>
      obtain ⟨message, _, _, rfl⟩ := RunOutboxRows.settle_ok settled
      exact started
  | markDispatched settled =>
      obtain ⟨message, _, _, _, _, _, rfl⟩ := RunOutboxRows.markDispatched_ok settled
      exact started
  | markReconciliationRequired settled =>
      obtain ⟨_, binding, _, bound, _, admitted, rfl⟩ := RunOutboxRows.settleBinding_ok settled
      exact started.setBinding bound (unresolved binding admitted _)
  | markStarting settled =>
      obtain ⟨_, binding, _, bound, _, admitted, rfl⟩ := RunOutboxRows.settleBinding_ok settled
      refine started.setBinding bound fun isStarted => ?_
      rw [isStarted] at admitted
      cases admitted
  | recordStarted settled =>
      obtain ⟨_, binding, _, bound, _, admitted, rfl⟩ := RunOutboxRows.settleBinding_ok settled
      rw [Bool.and_eq_true] at admitted
      exact started.setBinding bound (unresolved binding admitted.1 _)
  | resetPending settled =>
      obtain ⟨_, binding, _, bound, _, starting, _, rfl⟩ := RunOutboxRows.resetPending_ok settled
      refine started.setBinding bound fun isStarted => ?_
      rw [isStarted] at starting
      cases starting
  | claimNextForSystem _ claimed =>
      rcases claimNextForSystem_cases claimed with rfl | ⟨_, binding, _, _, bound, _, rfl⟩
      · exact started
      · exact started.setBinding bound fun isStarted => ⟨isStarted, rfl⟩
  | @confirm input runId =>
      have confirmed : rows.confirm input runId = (_, (rows.confirm input runId).2) := rfl
      rcases confirm_cases confirmed with same | ⟨binding, found, same⟩ | ⟨_, _, _, _, same⟩
      · rw [same]
        exact started
      · obtain ⟨bound, _, isUnresolved, _⟩ := reconciledBinding_some found
        rw [same]
        refine RunIsStarted.of_bindings ?_ updateUnheld_bindings
        exact started.setBinding bound (unresolved binding isUnresolved _)
      · rw [same]
        exact started.of_bindings updateUnheld_bindings
  | @release input maxAttempts reason retryDelayMilliseconds =>
      have released : rows.release input maxAttempts reason retryDelayMilliseconds =
          (_, (rows.release input maxAttempts reason retryDelayMilliseconds).2) := rfl
      rcases release_cases released with same | ⟨binding, state, found, _, same | same⟩
      · rw [same]
        exact started
      · obtain ⟨bound, _, isUnresolved, _⟩ := reconciledBinding_some found
        rw [same]
        exact started.setBinding bound (unresolved binding isUnresolved _)
      · obtain ⟨bound, _, isUnresolved, _⟩ := reconciledBinding_some found
        rw [same]
        refine RunIsStarted.of_bindings ?_ updateUnheld_bindings
        exact started.setBinding bound (unresolved binding isUnresolved _)
  | reapExhaustedForSystem selected =>
      obtain ⟨binding, bound, isStarted, run⟩ := started
      refine ⟨binding, ?_, isStarted, run⟩
      rw [reaped_bindings, if_neg, bound]
      intro reaped
      obtain ⟨message, has⟩ := hasMessage messageId binding bound
      exact (isUnresolved_ne (isReaped_some reaped has bound)).2 isStarted

theorem RunIsStarted.disturbs {label : RunDispatchDisturbance} {after : RunOutboxRows}
    (started : RunIsStarted rows messageId orchestrationRunId)
    (disturbs : RunDispatchDisturbs rows label after) :
    RunIsStarted after messageId orchestrationRunId := by
  cases disturbs with
  | timePassed => exact started
  | created appended =>
      unfold RunOutboxRows.append at appended
      split at appended
      · cases appended
      split at appended
      · cases appended
      rename_i unknown
      cases appended
      obtain ⟨binding, bound, rest⟩ := started
      refine ⟨binding, (Function.update_of_ne ?_ ..).trans bound, rest⟩
      rintro rfl
      simp [bound] at unknown

end Started

/-! ## The rows of a run -/

/-- From some instant on, a dispatcher can claim the message. -/
def IsClaimable (message : RunOutboxMessage) (binding : RunOrchestrationBinding) : Prop :=
  ∃ due, ∀ now, due ≤ now →
    isReleased binding.reconciliationClaim now = true ∧ message.isDue now = true

/-- What holds of every entry of the outbox after any run of the pool. -/
structure RunEntrySafe (rows : RunOutboxRows) (performed : List RunDispatchExchange)
    (messageId : String) (message : RunOutboxMessage) (binding : RunOrchestrationBinding) :
    Prop where
  recorded : binding.orchestrationRunId.isSome = true ↔ binding.state = .started
  dispatched : message.state = .dispatched →
    binding.state = .started ∧ message.orchestrationRunId = binding.orchestrationRunId
  exclusive : ∀ claimToken, IsHeld message claimToken rows.clock →
    isReleased binding.reconciliationClaim rows.clock = true
  deadLettered : message.state = .deadLetter → WasRejected messageId performed ∨
    binding.isUnresolved = true ∨ binding.state = .reconciliationExhausted
  deadLetteredUnstarted : message.state = .deadLetter → binding.state ≠ .started
  started : binding.state = .started → message.state = .dispatched ∨ IsClaimable message binding

theorem RunEntrySound.isClaimable {messageId : String} {message : RunOutboxMessage}
    {binding : RunOrchestrationBinding} {clock : Instant} {claimTokens : List String}
    {performed : List RunDispatchExchange}
    (entry : RunEntrySound messageId message binding clock claimTokens performed)
    (started : binding.state = .started) (undispatched : message.state ≠ .dispatched) :
    IsClaimable message binding := by
  have unleased : binding.reconciliationClaim = none := by
    by_contra leased
    exact (isUnresolved_ne (entry.leased leased)).2 started
  suffices due : ∃ due, ∀ now, due ≤ now → message.isDue now = true by
    obtain ⟨due, claimable⟩ := due
    refine ⟨due, fun now passed => ⟨?_, claimable now passed⟩⟩
    rw [unleased]
    rfl
  cases state : message.state with
  | pending => exact ⟨message.availableAt, fun now passed => by simp [RunOutboxMessage.isDue, *]⟩
  | retry => exact ⟨message.availableAt, fun now passed => by simp [RunOutboxMessage.isDue, *]⟩
  | claimed =>
      obtain ⟨lease, known⟩ := Option.ne_none_iff_exists'.mp (entry.claimed state)
      exact ⟨lease.claimedUntil, fun now passed => by
        simp [RunOutboxMessage.isDue, OutboxClaim.isAlive, *]⟩
  | dispatched => exact absurd state undispatched
  | deadLetter => exact absurd state (entry.claimable started)
  | cancelled => exact absurd state entry.uncancelled

/-- What the custody keeps of an entry is what the entry promises. -/
theorem RunEntrySound.safe {rows : RunOutboxRows} {performed : List RunDispatchExchange}
    {messageId : String} {message : RunOutboxMessage} {binding : RunOrchestrationBinding}
    (entry : RunEntrySound messageId message binding rows.clock rows.claimTokens performed) :
    RunEntrySafe rows performed messageId message binding where
  recorded := entry.recorded
  dispatched := entry.dispatched
  exclusive := entry.exclusive
  deadLettered dead := by
    cases state : binding.state with
    | pending => exact .inl (entry.deadLettered dead state)
    | starting => exact .inr (.inl (by rw [RunOrchestrationBinding.isUnresolved, state]; rfl))
    | started => exact absurd dead (entry.claimable state)
    | reconciliationRequired =>
        exact .inr (.inl (by rw [RunOrchestrationBinding.isUnresolved, state]; rfl))
    | reconciliationExhausted => exact .inr (.inr rfl)
  deadLetteredUnstarted dead started := entry.claimable started dead
  started started := by
    by_cases dispatched : message.state = .dispatched
    · exact .inl dispatched
    · exact .inr (entry.isClaimable started dispatched)

/-! ## Runs of the pool -/

private theorem isKept_of_isRunDispatchProgram {program : RunDispatchProgram RunDispatchResult}
    (admitted : isRunDispatchProgram program) : IsKept program none := by
  rcases admitted with ⟨dependencies, rfl⟩ | ⟨dependencies, rfl⟩
  · refine Program.Keeps.bind isKept_dispatchNextOutbox fun later result _ => ?_
    exact isKept_pure
  · refine (isIdle_reconcileRunOrchestrations.bind fun result => ?_).isKept
    exact isIdle_pure

/-- The rows that a run reaches are sound, with its exchanges. -/
theorem runDispatch_sound {first last : RunDispatchPoolState} {labels : List RunDispatchLabel}
    (initial : runDispatchPool.initial first) (run : runDispatchPool.Run first labels last) :
    RunDispatchSound (last.1, exchanges labels) := by
  have invariant : (pooled (recorded runDispatchEnvironment) isRunDispatchProgram).Invariant
      fun state => ∃ holdings, runDispatchCustody.PoolKept state holdings :=
    Custody.pooled_invariant fun program admitted => isKept_of_isRunDispatchProgram admitted
  have started := invariant.initially ((first.1, []), first.2) ⟨⟨initial.1, rfl⟩, initial.2⟩
  obtain ⟨_, kept⟩ := invariant.run (pooled_recorded run []) started
  exact kept.sound

/-- In every run, starts are repeated only after a reset, all entries are safe, stale tokens
change nothing but for repeated confirmations, and started bindings keep their Run. -/
structure RunDispatchIsSafe (labels : List RunDispatchLabel) (last : RunDispatchPoolState) :
    Prop where
  repeated : StartsRepeatAfterReset (exchanges labels)
  entries : ∀ messageId,
    (last.1.messages messageId = none ∧ last.1.bindings messageId = none) ∨
      ∃ message binding, last.1.messages messageId = some message ∧
        last.1.bindings messageId = some binding ∧
          RunEntrySafe last.1 (exchanges labels) messageId message binding
  stale : ∀ operation answer after, operation.IsStale last.1 →
    RunDispatchPerforms last.1 operation answer after →
      after = last.1 ∨ RepeatsConfirmation last.1 after operation
  kept : ∀ messageId binding orchestrationRunId, last.1.bindings messageId = some binding →
    binding.orchestrationRunId = some orchestrationRunId →
      ∀ more later, runDispatchPool.Run last more later →
        RunIsStarted later.1 messageId orchestrationRunId

theorem RunIsStarted.step {before after : RunDispatchPoolState} {label : RunDispatchLabel}
    {messageId orchestrationRunId : String}
    (started : RunIsStarted before.1 messageId orchestrationRunId)
    (hasMessage : ∀ messageId binding, before.1.bindings messageId = some binding →
      ∃ message, before.1.messages messageId = some message)
    (moved : runDispatchPool.step before label after) :
    RunIsStarted after.1 messageId orchestrationRunId := by
  cases moved with
  | performed _ _ _ performs => exact started.performs hasMessage performs
  | started => exact started
  | dropped => exact started
  | environment _ disturbs => exact started.disturbs disturbs

theorem RunIsStarted.run {first middle last : RunDispatchPoolState}
    {labels more : List RunDispatchLabel} {messageId orchestrationRunId : String}
    (started : RunIsStarted middle.1 messageId orchestrationRunId)
    (initial : runDispatchPool.initial first) (run : runDispatchPool.Run first labels middle)
    (rest : runDispatchPool.Run middle more last) :
    RunIsStarted last.1 messageId orchestrationRunId := by
  induction rest generalizing labels with
  | nil state => exact started
  | cons moved _ ih =>
      have sound := runDispatch_sound initial run
      exact ih (started.step (fun _ _ bound => sound.hasMessage bound) moved)
        (run.append (.single moved))

/-- **Run starts are dispatched at most once and never lost.** -/
theorem runDispatch_isSafe {first last : RunDispatchPoolState} {labels : List RunDispatchLabel}
    (initial : runDispatchPool.initial first) (run : runDispatchPool.Run first labels last) :
    RunDispatchIsSafe labels last := by
  have sound := runDispatch_sound initial run
  refine ⟨sound.warranted.repeat, fun messageId => ?_, fun operation answer after stale performs =>
    ?_,
    fun messageId binding orchestrationRunId bound recorded more later rest => ?_⟩
  · rcases sound.entries messageId with ⟨noMessage, noBinding, _⟩ |
      ⟨message, binding, has, bound, entry⟩
    · exact .inl ⟨noMessage, noBinding⟩
    · exact .inr ⟨message, binding, has, bound, entry.safe⟩
  · exact stale_leaves_rows (fun _ _ bound => sound.hasMessage bound) stale performs
  · obtain ⟨message, has⟩ := sound.hasMessage bound
    have started := (sound.entry has bound).recorded.mp (by rw [recorded]; rfl)
    have isStarted : RunIsStarted last.1 messageId orchestrationRunId :=
      ⟨binding, bound, started, recorded⟩
    exact isStarted.run initial run rest

/-! ## A repeated confirmation -/

namespace RepeatedConfirmation

def queuedRun : RunQueuedMessage where
  aggregateId := "r"
  aggregateVersion := 1
  availableAt := 0
  destination := "orchestration.run.queued"
  event := ⟨"e", "r", "p", "w", 0, "a", "c"⟩
  eventId := "e"
  messageId := "m"
  workspaceId := "w"

def dispatcher : DispatchNextOutboxDependencies where
  adapterKey := "k"
  claimLeaseMilliseconds := 1
  maxAttempts := 2
  retryDelayMilliseconds := 1
  workerId := "d"
  adapterKey_named := by decide
  claimLeaseMilliseconds_positive := by decide
  maxAttempts_positive := by decide
  retryDelayMilliseconds_positive := by decide
  workerId_named := by decide

def reconciler : ReconcileRunOrchestrationsDependencies where
  adapterKey := "k"
  batchSize := 1
  claimLeaseMilliseconds := 1
  maxAttempts := 9
  operatorId := "o"
  retryDelayMilliseconds := 1
  adapterKey_named := by decide
  batchSize_bounded := by decide
  claimLeaseMilliseconds_bounded := by decide
  maxAttempts_bounded := by decide
  operatorId_named := by decide
  retryDelayMilliseconds_bounded := by decide

def message (state : OutboxMessageState) (attempts : ℕ) (claim : Option OutboxClaim) :
    RunOutboxMessage where
  toRunQueuedMessage := queuedRun
  state := state
  attempts := attempts
  claim := claim
  orchestrationRunId := none
  lastError := none

def binding (state : RunOrchestrationBindingState) (adapterKey orchestrationRunId : Option String)
    (claim : Option OutboxClaim) (attempts : ℕ) : RunOrchestrationBinding where
  workspaceId := "w"
  runId := "r"
  startKey := "m"
  state := state
  adapterKey := adapterKey
  orchestrationRunId := orchestrationRunId
  reconciliationClaim := claim
  reconciliationAttempts := attempts
  nextReconciliationAt := 0
  lastReconciliationError := none

private def unwritten : RunOutboxRows := ⟨fun _ => none, fun _ => none, 0, []⟩

/-- The rows of the one message. -/
def rows (message : RunOutboxMessage) (binding : RunOrchestrationBinding) (clock : Instant)
    (claimTokens : List String) : RunOutboxRows where
  messages := Function.update (fun _ => none) "m" (some message)
  bindings := Function.update (fun _ => none) "m" (some binding)
  clock := clock
  claimTokens := claimTokens

/-! ### The operations -/

theorem created : RunDispatchDisturbs unwritten (.created queuedRun)
    (rows (message .pending 0 none) (binding .pending none none none 0) 0 []) := by
  refine .created ?_
  simp [RunOutboxRows.append, unwritten, rows, queuedRun, message, binding,
    RunOutboxRows.setMessage, RunOutboxRows.setBinding]

theorem claimed : RunDispatchPerforms
    (rows (message .pending 0 none) (binding .pending none none none 0) 0 [])
    (.claimNext ⟨"d", 1⟩) (.ok (some ⟨1, ⟨none, none, "m", .pending⟩, "d", "t1", queuedRun⟩))
    (rows (message .claimed 1 (some ⟨"d", "t1", 1⟩)) (binding .pending none none none 0) 0
      ["t1"]) := by
  have claimed : (rows (message .pending 0 none) (binding .pending none none none 0) 0
      []).claimNext ⟨"d", 1⟩ "t1" "m" =
        (.ok ⟨1, ⟨none, none, "m", .pending⟩, "d", "t1", queuedRun⟩,
          rows (message .claimed 1 (some ⟨"d", "t1", 1⟩)) (binding .pending none none none 0) 0
            ["t1"]) := by
    simp [RunOutboxRows.claimNext, rows, message, binding, RunOutboxRows.setMessage,
      RunOutboxRows.setBinding, RunOutboxMessage.isDue, queuedRun, isReleased, parseOutboxRow,
      runQueuedMessageIsConsistent]
    decide
  exact .claimNext (by decide) claimed

theorem starting : RunDispatchPerforms
    (rows (message .claimed 1 (some ⟨"d", "t1", 1⟩)) (binding .pending none none none 0) 0 ["t1"])
    (.markStarting ⟨"d", "t1", "m"⟩ "k") (.ok ())
    (rows (message .claimed 1 (some ⟨"d", "t1", 1⟩)) (binding .starting (some "k") none none 0) 0
      ["t1"]) := by
  refine .markStarting ?_
  simp [RunOutboxRows.markStarting, RunOutboxRows.settleBinding, RunOutboxRows.heldMessage,
    Option.filter_some, isHeldUnder, OutboxClaim.isAlive, rows, message, binding,
    RunOutboxRows.setBinding]

private theorem claimedForSystem : RunDispatchPerforms
    (rows (message .claimed 1 (some ⟨"d", "t1", 1⟩)) (binding .starting (some "k") none none 0) 1
      ["t1"])
    (.claimNextForSystem ⟨"k", "o", 1, 9⟩) (.ok (some ⟨"k", "o", "t2", "e", "m", "r", "m", "w"⟩))
    (rows (message .claimed 1 (some ⟨"d", "t1", 1⟩))
      (binding .starting (some "k") none (some ⟨"o", "t2", 2⟩) 1) 1 ["t2", "t1"]) := by
  have claimed : (rows (message .claimed 1 (some ⟨"d", "t1", 1⟩))
      (binding .starting (some "k") none none 0) 1 ["t1"]).claimNextForSystem ⟨"k", "o", 1, 9⟩ "t2"
        "m" = (.ok ⟨"k", "o", "t2", "e", "m", "r", "m", "w"⟩,
          rows (message .claimed 1 (some ⟨"d", "t1", 1⟩))
            (binding .starting (some "k") none (some ⟨"o", "t2", 2⟩) 1) 1 ["t2", "t1"]) := by
    simp [RunOutboxRows.claimNextForSystem, RunOutboxRows.awaitsReconciliation,
      RunOrchestrationBinding.isUnresolved, RunOutboxMessage.isUnheld, OutboxClaim.isAlive,
      isReleased, rows, message, binding, RunOutboxRows.setBinding,
      RunOutboxRows.parseOrchestrationReconciliationRow, queuedRun]
    decide
  exact .claimNextForSystem (by decide) claimed

private theorem claimedAgain : RunDispatchPerforms
    (rows (message .claimed 1 (some ⟨"d", "t1", 1⟩))
      (binding .starting (some "k") none (some ⟨"o", "t2", 2⟩) 1) 2 ["t2", "t1"])
    (.claimNext ⟨"d", 1⟩) (.ok (some ⟨2, ⟨some "k", none, "m", .starting⟩, "d", "t3", queuedRun⟩))
    (rows (message .claimed 2 (some ⟨"d", "t3", 3⟩))
      (binding .reconciliationRequired (some "k") none (some ⟨"o", "t2", 2⟩) 1) 2
      ["t3", "t2", "t1"]) := by
  have claimed : (rows (message .claimed 1 (some ⟨"d", "t1", 1⟩))
      (binding .starting (some "k") none (some ⟨"o", "t2", 2⟩) 1) 2 ["t2", "t1"]).claimNext
        ⟨"d", 1⟩ "t3" "m" =
          (.ok ⟨2, ⟨some "k", none, "m", .starting⟩, "d", "t3", queuedRun⟩,
            rows (message .claimed 2 (some ⟨"d", "t3", 3⟩))
              (binding .reconciliationRequired (some "k") none (some ⟨"o", "t2", 2⟩) 1) 2
              ["t3", "t2", "t1"]) := by
    simp [RunOutboxRows.claimNext, rows, message, binding, RunOutboxRows.setMessage,
      RunOutboxRows.setBinding, RunOutboxMessage.isDue, queuedRun, isReleased, parseOutboxRow,
      runQueuedMessageIsConsistent, OutboxClaim.isAlive]
    decide
  exact .claimNext (by decide) claimed

theorem started : RunDispatchPerforms
    (rows (message .claimed 2 (some ⟨"d", "t3", 3⟩))
      (binding .reconciliationRequired (some "k") none (some ⟨"o", "t2", 2⟩) 1) 2
      ["t3", "t2", "t1"])
    (.recordStarted ⟨"d", "t3", "m"⟩ "k" "x") (.ok ())
    (rows (message .claimed 2 (some ⟨"d", "t3", 3⟩)) (binding .started (some "k") (some "x") none 1)
      2 ["t3", "t2", "t1"]) := by
  refine .recordStarted ?_
  simp [RunOutboxRows.recordStarted, RunOutboxRows.settleBinding, RunOutboxRows.heldMessage,
    Option.filter_some, isHeldUnder, OutboxClaim.isAlive, rows, message, binding,
    RunOutboxRows.setBinding, RunOrchestrationBinding.isUnresolved]

theorem found (rows : RunOutboxRows) : RunDispatchPerforms rows
    (.findRunByStartKey ⟨"e", "r", "m", "w"⟩) (some (.found "x")) rows :=
  .findRunByStartKey _

theorem passed {before : RunOutboxRows} (later : Instant) (passed : before.clock ≤ later) :
    RunDispatchDisturbs before .timePassed { before with clock := later } :=
  .timePassed passed

/-! ### Their run -/

private theorem pool_performs {before after : RunOutboxRows}
    {program : RunDispatchProgram RunDispatchResult}
    {right : List (RunDispatchProgram RunDispatchResult)} {operation : RunDispatchOperation}
    {answer : operation.Answer} {resume : operation.Answer → RunDispatchProgram RunDispatchResult}
    (performs : RunDispatchPerforms before operation answer after)
    (asks : program = askRunDispatch operation >>= resume) :
    runDispatchPool.step (before, program :: right) (.performed operation answer)
      (after, resume answer :: right) := by
  subst asks
  exact @PoolStep.performed runDispatchInterface _ _ _ runDispatchEnvironment isRunDispatchProgram
    before after [] right operation resume answer performs

private theorem pool_dropped {rows : RunOutboxRows} {program : RunDispatchProgram RunDispatchResult}
    {right : List (RunDispatchProgram RunDispatchResult)} :
    runDispatchPool.step (rows, program :: right) .dropped (rows, right) :=
  @PoolStep.dropped runDispatchInterface _ _ _ runDispatchEnvironment isRunDispatchProgram rows []
    right program

private theorem pool_disturbed {before after : RunOutboxRows} {label : RunDispatchDisturbance}
    {programs : List (RunDispatchProgram RunDispatchResult)}
    (disturbs : RunDispatchDisturbs before label after) :
    runDispatchPool.step (before, programs) (.environment label) (after, programs) :=
  .environment label disturbs

theorem initial : runDispatchPool.initial (unwritten, []) :=
  ⟨⟨fun _ => rfl, fun _ => rfl⟩, rfl⟩

/-- A reconciler found the Run before its lease ended; a dispatcher recorded the same Run
and stopped before it settled the message. -/
theorem reachable : ∃ resume, runDispatchPool.Reachable
    (rows (message .claimed 2 (some ⟨"d", "t3", 3⟩)) (binding .started (some "k") (some "x") none 1)
      3 ["t3", "t2", "t1"],
      [askRunDispatch (.confirm ⟨"k", "o", "t2", "m", "w"⟩ "x") >>= resume]) := by
  have first := (TransitionSystem.Reachable.initial initial).step (pool_disturbed created)
  have marked := ((first.step (.started _ (.inl ⟨dispatcher, rfl⟩))).step
    (pool_performs claimed rfl)).step (pool_performs starting rfl)
  have abandoned := (marked.step pool_dropped).step (pool_disturbed (passed 1 (by decide)))
  have reaped := (abandoned.step (.started _ (.inr ⟨reconciler, rfl⟩))).step
    (pool_performs (.reapExhaustedForSystem []) rfl)
  have looked := (reaped.step (pool_performs claimedForSystem rfl)).step
    (pool_performs (found _) rfl)
  have delayed := looked.step (pool_disturbed (passed 2 (by decide)))
  have recorded := (((delayed.step (.started _ (.inl ⟨dispatcher, rfl⟩))).step
    (pool_performs claimedAgain rfl)).step (pool_performs (found _) rfl)).step
      (pool_performs started rfl)
  exact ⟨_, (recorded.step pool_dropped).step (pool_disturbed (passed 3 (by decide)))⟩

theorem confirmed : RunDispatchPerforms
    (rows (message .claimed 2 (some ⟨"d", "t3", 3⟩)) (binding .started (some "k") (some "x") none 1)
      3 ["t3", "t2", "t1"])
    (.confirm ⟨"k", "o", "t2", "m", "w"⟩ "x") (.ok .settled)
    (rows { message .dispatched 2 none with orchestrationRunId := some "x" }
      (binding .started (some "k") (some "x") none 1) 3 ["t3", "t2", "t1"]) := by
  have confirmed : (rows (message .claimed 2 (some ⟨"d", "t3", 3⟩))
      (binding .started (some "k") (some "x") none 1) 3 ["t3", "t2", "t1"]).confirm
        ⟨"k", "o", "t2", "m", "w"⟩ "x" = (.settled,
          rows { message .dispatched 2 none with orchestrationRunId := some "x" }
            (binding .started (some "k") (some "x") none 1) 3 ["t3", "t2", "t1"]) := by
    simp [RunOutboxRows.confirm, RunOutboxRows.reconciledBinding, Option.filter_some,
      isHeldUnder, RunOutboxRows.dispatchUnheld, RunOutboxRows.updateUnheld,
      RunOutboxMessage.isUnheld, OutboxClaim.isAlive, rows, message, binding, queuedRun,
      RunOutboxRows.setMessage, RunOrchestrationBinding.isUnresolved]
  have performs := @RunDispatchPerforms.confirm (rows (message .claimed 2 (some ⟨"d", "t3", 3⟩))
    (binding .started (some "k") (some "x") none 1) 3 ["t3", "t2", "t1"])
      ⟨"k", "o", "t2", "m", "w"⟩ "x"
  rw [confirmed] at performs
  exact performs

end RepeatedConfirmation

/-- A confirmation with a token whose lease is gone moves the message of a started binding. -/
theorem staleConfirmation_moves : ¬ ∀ first last labels operation answer after programs,
    runDispatchPool.initial first → runDispatchPool.Run first labels last →
      operation.IsStale last.1 →
        runDispatchPool.step last (.performed operation answer) (after, programs) →
          after = last.1 := by
  intro unmoved
  obtain ⟨resume, reachable⟩ := RepeatedConfirmation.reachable
  obtain ⟨first, labels, initial, run⟩ := reachable.exists_run
  have same := unmoved first _ labels (.confirm ⟨"k", "o", "t2", "m", "w"⟩ "x") _ _ _ initial run ?_
    (RepeatedConfirmation.pool_performs RepeatedConfirmation.confirmed rfl)
  · have states := congrArg (fun rows => (rows.messages "m").map RunOutboxMessage.state) same
    exact absurd states (by simp [RepeatedConfirmation.rows, RepeatedConfirmation.message])
  · intro binding lease bound leased
    simp only [RepeatedConfirmation.rows, Function.update_self] at bound
    cases bound
    cases leased

/-- The run in which a dispatcher crashed, a reconciler found its Run and a second dispatcher
recorded it. -/
theorem runDispatch_isSafe_confirmed : ∃ resume labels, RunDispatchIsSafe labels
    (RepeatedConfirmation.rows
      (RepeatedConfirmation.message .claimed 2 (some ⟨"d", "t3", 3⟩))
      (RepeatedConfirmation.binding .started (some "k") (some "x") none 1) 3 ["t3", "t2", "t1"],
      [askRunDispatch (.confirm ⟨"k", "o", "t2", "m", "w"⟩ "x") >>= resume]) := by
  obtain ⟨resume, reachable⟩ := RepeatedConfirmation.reachable
  obtain ⟨first, labels, initial, run⟩ := reachable.exists_run
  exact ⟨resume, labels, runDispatch_isSafe initial run⟩

end Kurobara.Application
