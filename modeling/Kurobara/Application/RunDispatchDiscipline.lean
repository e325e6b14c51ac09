import Kurobara.Application.RunDispatchCustody

/-! # Dispatchers and reconcilers keep their custody

One rule for each operation, from the rows before to the rows after, and from these rules
the two programs.
-/

namespace Kurobara.Application

open Kernel Persistence Foundation

variable {Value Result : Type}

/-- The program keeps the custody of queued Runs, started with a holding. -/
def IsKept (program : RunDispatchProgram Result) (holding : Option HeldRun) : Prop :=
  program.Keeps runDispatchCustody holding fun _ _ => True

theorem isKept_pure {result : Result} {holding : Option HeldRun} :
    IsKept (pure result) holding :=
  Program.keeps_done.mpr trivial

/-- Asking one operation of the recorded rows. -/
theorem isKept_ask {operation : RunDispatchOperation} {holding : Option HeldRun}
    {resume : operation.Answer → RunDispatchProgram Result}
    (rule : ∀ rows performed answer after, RunDispatchSound (rows, performed) →
      (∀ held, holding = some held → held.Holds (rows, performed)) →
        RunDispatchPerforms rows operation answer after →
          ∃ next, runDispatchCustody.Passes holding next (rows, performed)
            (after, performed ++ [⟨operation, answer⟩]) ∧ IsKept (resume answer) next) :
    IsKept (askRunDispatch operation >>= resume) holding := by
  refine Program.keeps_call_bind.mpr ?_
  rintro ⟨rows, performed⟩ answer ⟨after, grown⟩ sound holds ⟨performs, same⟩
  cases same
  exact rule rows performed answer after sound holds performs

/-! ## Operations that leave the rows alone -/

section Unmoved

variable {rows : RunOutboxRows} {performed : List RunDispatchExchange}
  {exchange : RunDispatchExchange} {holding : Option HeldRun}

private theorem holds_append_inert {held : HeldRun} (holds : held.Holds (rows, performed))
    (inert : ∀ messageId, IsInert messageId exchange) :
    held.Holds (rows, performed ++ [exchange]) := by
  refine holds.transfer (List.Subset.refl _) (List.subset_append_left _ _) ?_ ?_
  · intro message binding has bound isHeld
    exact ⟨message, binding, has, bound, isHeld, rfl⟩
  · intro _ bound has notPending
    exact ⟨⟨bound, has, notPending⟩, (inert _).startStatus _⟩

theorem passes_inert (sound : RunDispatchSound (rows, performed))
    (holds : ∀ held, holding = some held → held.Holds (rows, performed))
    (inert : ∀ messageId, IsInert messageId exchange) :
    runDispatchCustody.Passes holding holding (rows, performed)
    (rows, performed ++ [exchange]) := by
  refine ⟨⟨fun messageId => ?_, sound.warranted.append_inert inert⟩,
    fun held isHeld => holds_append_inert (holds held isHeld) inert,
    fun other apart keeps =>
      ⟨apart, fun kept isKept => holds_append_inert (keeps kept isKept) inert⟩⟩
  rcases sound.entries messageId with ⟨noMessage, noBinding, startable⟩ |
    ⟨message, binding, has, bound, entry⟩
  · exact .inl ⟨noMessage, noBinding, ((inert messageId).startStatus _).trans startable⟩
  · exact .inr ⟨message, binding, has, bound, entry.mono le_rfl (List.Subset.refl _)
      ((inert messageId).startStatus _) (List.subset_append_left _ _)⟩

end Unmoved

/-! ## Settlements -/

theorem RunDispatchSound.entry {rows : RunOutboxRows} {performed : List RunDispatchExchange}
    (sound : RunDispatchSound (rows, performed)) {messageId : String} {message : RunOutboxMessage}
    {binding : RunOrchestrationBinding} (has : rows.messages messageId = some message)
    (bound : rows.bindings messageId = some binding) :
    RunEntrySound messageId message binding rows.clock rows.claimTokens performed := by
  rcases sound.entries messageId with ⟨noMessage, _⟩ | ⟨known, state, hasKnown, hasState, entry⟩
  · rw [noMessage] at has
    cases has
  · rw [has] at hasKnown
    rw [bound] at hasState
    cases hasKnown
    cases hasState
    exact entry

/-- The messages that have rows have bindings. -/
theorem RunDispatchSound.hasBinding {rows : RunOutboxRows}
    {performed : List RunDispatchExchange} (sound : RunDispatchSound (rows, performed))
    {messageId : String} {message : RunOutboxMessage}
    (has : rows.messages messageId = some message) :
    ∃ binding, rows.bindings messageId = some binding := by
  rcases sound.entries messageId with ⟨noMessage, _⟩ | ⟨_, binding, _, hasBinding, _⟩
  · rw [noMessage] at has
    cases has
  · exact ⟨binding, hasBinding⟩

theorem RunDispatchSound.hasMessage {rows : RunOutboxRows}
    {performed : List RunDispatchExchange} (sound : RunDispatchSound (rows, performed))
    {messageId : String} {binding : RunOrchestrationBinding}
    (bound : rows.bindings messageId = some binding) :
    ∃ message, rows.messages messageId = some message := by
  rcases sound.entries messageId with ⟨_, noBinding, _⟩ | ⟨message, _, hasMessage, _⟩
  · rw [noBinding] at bound
    cases bound
  · exact ⟨message, hasMessage⟩

/-- The input of a settlement is that of the lease. -/
def Settles (input : SettleOutboxInput) (held : HeldRun) : Prop :=
  input.messageId = held.messageId ∧ input.claimToken = held.claimToken

section Settlements

variable {rows after : RunOutboxRows} {performed : List RunDispatchExchange} {held : HeldRun}
  {message : RunOutboxMessage} {binding : RunOrchestrationBinding}
  {exchange : RunDispatchExchange}

/-- A held message that is given up, with its binding left as it is. -/
theorem passes_givenUp {moved : RunOutboxMessage}
    (sound : RunDispatchSound (rows, performed)) (holds : held.Holds (rows, performed))
    (has : rows.messages held.messageId = some message)
    (bound : rows.bindings held.messageId = some binding)
    (left : after = rows.setMessage held.messageId moved)
    (inert : ∀ messageId, IsInert messageId exchange) (unclaimed : moved.state ≠ .claimed)
    (same : moved.toRunQueuedMessage.messageId = message.messageId ∧
      moved.workspaceId = message.workspaceId)
    (free : moved.claim = none) (uncancelled : moved.state ≠ .cancelled)
    (dispatched : moved.state = .dispatched →
      binding.state = .started ∧ moved.orchestrationRunId = binding.orchestrationRunId)
    (deadLettered : moved.state = .deadLetter → binding.state ≠ .started ∧
      (binding.state = .pending → held.rejected = true)) :
    runDispatchCustody.Passes (some held) (some held) (rows, performed)
      (after, performed ++ [exchange]) := by
  have entry := sound.entry has bound
  have move : DispatcherMove rows after performed exchange held held message moved binding
    binding := {
    has := has
    hasBinding := bound
    messages := by rw [left]; rfl
    bindings := by rw [left, ← bound, Function.update_eq_self]; rfl
    clock := by rw [left]; rfl
    tokens := by rw [left]; rfl
    inert := fun other _ => inert other
    lease := fun _ isHeld => absurd isHeld.1 unclaimed
    starts := by
      intro free notPending
      exact ⟨notPending, inert _, free⟩
    same := ⟨rfl, rfl⟩
    mayBe := fun isHeld => absurd isHeld.1 unclaimed
    start := by
      intro status known
      obtain ⟨state, hasState, notPending, reached⟩ := holds.start status known
      rw [bound] at hasState
      cases hasState
      exact ⟨notPending, ((inert _).startStatus _).trans reached⟩
    rejected := fun known => (holds.rejected known).mono (List.subset_append_left _ _)
    startsRun := by
      intro starts
      rw [(inert _).1] at starts
      cases starts
    resetsRun := by
      intro resets
      rw [(inert _).2] at resets
      cases resets }
  refine move.passes sound holds {
    identity := same.1.trans entry.identity
    startKey := entry.startKey
    workspaceId := entry.workspaceId.trans same.2.symm
    claimed := fun claimed => absurd claimed unclaimed
    recorded := entry.recorded
    leased := entry.leased
    drawn := by
      rw [free]
      intro lease known
      cases known
    exclusive := fun _ isHeld => absurd isHeld.1 unclaimed
    dispatched := dispatched
    claimable := fun started dead => (deadLettered dead).1 started
    uncancelled := uncancelled
    startable := fun pending => ((inert _).startStatus _).trans (entry.startable pending)
    deadLettered := fun dead pending =>
      (holds.rejected ((deadLettered dead).2 pending)).mono (List.subset_append_left _ _) }

/-- A binding that is moved under the lease of its message. -/
theorem passes_rebound {next : HeldRun} {moved : RunOrchestrationBinding}
    (sound : RunDispatchSound (rows, performed))
    (has : rows.messages held.messageId = some message)
    (bound : rows.bindings held.messageId = some binding)
    (isHeld : IsHeld message held.claimToken rows.clock)
    (holds : held.Holds (rows, performed))
    (left : after = rows.setBinding held.messageId moved)
    (inert : ∀ other, other ≠ held.messageId → IsInert other exchange)
    (same : next.messageId = held.messageId ∧ next.claimToken = held.claimToken)
    (mayBe : next.mayBe moved.state)
    (starts : held.start = none → binding.state ≠ .pending →
      moved.state ≠ .pending ∧ IsInert held.messageId exchange ∧ next.start = none)
    (start : ∀ status, next.start = some status → moved.state ≠ .pending ∧
      startStatus held.messageId (performed ++ [exchange]) = status)
    (rejected : next.rejected = held.rejected)
    (unstarted : startsRun held.messageId exchange = false)
    (reset : resetsRun held.messageId exchange = true →
      startStatus held.messageId performed = .started true)
    (key : moved.startKey = binding.startKey ∧ moved.workspaceId = binding.workspaceId)
    (recorded : moved.orchestrationRunId.isSome = true ↔ moved.state = .started)
    (leased : moved.reconciliationClaim ≠ none → moved.isUnresolved = true)
    (exclusive : isReleased moved.reconciliationClaim rows.clock = true)
    (startable : moved.state = .pending →
      startStatus held.messageId (performed ++ [exchange]) = .startable) :
    runDispatchCustody.Passes (some held) (some next) (rows, performed)
      (after, performed ++ [exchange]) := by
  have entry := sound.entry has bound
  have move : DispatcherMove rows after performed exchange held next message message binding
      moved := {
    has := has
    hasBinding := bound
    messages := by rw [left, ← has, Function.update_eq_self]; rfl
    bindings := by rw [left]; rfl
    clock := by rw [left]; rfl
    tokens := by rw [left]; rfl
    inert := inert
    lease := fun _ also => .inl (isHeld.token_unique also)
    starts := starts
    same := same
    mayBe := fun _ => mayBe
    start := start
    rejected := by
      rw [rejected]
      exact fun known => (holds.rejected known).mono (List.subset_append_left _ _)
    startsRun := by
      intro starts
      rw [unstarted] at starts
      cases starts
    resetsRun := reset }
  have claimed : ∀ state : OutboxMessageState, state ≠ .claimed → message.state ≠ state := by
    rintro state other rfl
    exact other isHeld.1
  exact move.passes sound holds {
    identity := entry.identity
    startKey := key.1.trans entry.startKey
    workspaceId := key.2.trans entry.workspaceId
    claimed := entry.claimed
    recorded := recorded
    leased := leased
    drawn := entry.drawn
    exclusive := fun _ _ => exclusive
    dispatched := fun dispatched => absurd dispatched (claimed _ (by decide))
    claimable := fun _ => claimed _ (by decide)
    uncancelled := entry.uncancelled
    startable := startable
    deadLettered := fun dead => absurd dead (claimed _ (by decide)) }

end Settlements

/-! ## The rules of a dispatcher -/

section Rules

variable {held : HeldRun} {input : SettleOutboxInput}
  {resume : RunDispatchProgram (RunDispatchOutcome Result)}

/-- An exception of the outbox ends the program. -/
theorem isKept_thrown {next : Value → RunDispatchProgram (RunDispatchOutcome Result)}
    {error : RunOutboxError} {holding : Option HeldRun} :
    IsKept (orThrow (.error error) next) holding :=
  isKept_pure

/-- A dead-lettered message needs a binding that is not started, and a definite rejection
when the binding is pending. -/
theorem isKept_markDeadLetter {reason : String} (settles : Settles input held)
    (notStarted : ¬ held.mayBe .started) (pending : held.mayBe .pending → held.rejected = true)
    (rest : IsKept resume (some held)) :
    IsKept (do
      let marked ← askRunDispatch (.markDeadLetter input reason)
      orThrow marked fun _ => resume) (some held) := by
  refine isKept_ask fun rows performed answer after sound holds performs => ?_
  have holds := holds held rfl
  have inert : ∀ answer messageId, IsInert messageId
      (⟨.markDeadLetter input reason, answer⟩ : RunDispatchExchange) := fun _ _ => ⟨rfl, rfl⟩
  cases performs with
  | thrown =>
      exact ⟨some held, passes_inert sound (fun _ same => Option.some.inj same ▸ holds)
        (inert _), isKept_thrown⟩
  | markDeadLetter settled =>
      obtain ⟨message, has, isHeld, left⟩ := RunOutboxRows.settle_ok settled
      rw [settles.1] at has left
      rw [settles.2] at isHeld
      obtain ⟨binding, bound⟩ := sound.hasBinding has
      have known := holds.state message binding has bound isHeld
      refine ⟨some held, passes_givenUp sound holds has bound left (inert _) (by simp) ⟨rfl, rfl⟩
        rfl
        (by simp) (by simp) fun _ => ⟨?_, ?_⟩, rest⟩
      · intro started
        exact notStarted (started ▸ known)
      · intro isPending
        exact pending (isPending ▸ known)

private theorem isKept_markRetry {reason : String} {retryDelayMilliseconds : ℕ}
    (settles : Settles input held) (rest : IsKept resume (some held)) :
    IsKept (do
      let marked ← askRunDispatch (.markRetry input reason retryDelayMilliseconds)
      orThrow marked fun _ => resume) (some held) := by
  refine isKept_ask fun rows performed answer after sound holds performs => ?_
  have holds := holds held rfl
  have inert : ∀ answer messageId, IsInert messageId
      (⟨.markRetry input reason retryDelayMilliseconds, answer⟩ : RunDispatchExchange) :=
    fun _ _ => ⟨rfl, rfl⟩
  cases performs with
  | thrown =>
      exact ⟨some held, passes_inert sound (fun _ same => Option.some.inj same ▸ holds)
        (inert _), isKept_thrown⟩
  | markRetry settled =>
      obtain ⟨message, has, isHeld, left⟩ := RunOutboxRows.settle_ok settled
      rw [settles.1] at has left
      obtain ⟨binding, bound⟩ := sound.hasBinding has
      exact ⟨some held, passes_givenUp sound holds has bound left (inert _) (by simp) ⟨rfl, rfl⟩ rfl
        (by simp) (by simp) (by simp), rest⟩

private theorem isKept_markDispatched (settles : Settles input held)
    (rest : IsKept resume (some held)) :
    IsKept (do
      let marked ← askRunDispatch (.markDispatched input)
      orThrow marked fun _ => resume) (some held) := by
  refine isKept_ask fun rows performed answer after sound holds performs => ?_
  have holds := holds held rfl
  have inert : ∀ answer messageId, IsInert messageId
      (⟨.markDispatched input, answer⟩ : RunDispatchExchange) := fun _ _ => ⟨rfl, rfl⟩
  cases performs with
  | thrown =>
      exact ⟨some held, passes_inert sound (fun _ same => Option.some.inj same ▸ holds)
        (inert _), isKept_thrown⟩
  | markDispatched settled =>
      obtain ⟨message, binding, has, bound, isHeld, started, left⟩ :=
        RunOutboxRows.markDispatched_ok settled
      rw [settles.1] at has bound left
      exact ⟨some held, passes_givenUp sound holds has bound left (inert _) (by simp) ⟨rfl, rfl⟩ rfl
        (by simp) (fun _ => ⟨started, rfl⟩) (by simp), rest⟩

/-- The holding, with another state of its binding. -/
def HeldRun.bindingIn (held : HeldRun) (state : RunOrchestrationBindingState) : HeldRun :=
  { held with mayBe := fun known => known = state }

private theorem isKept_markReconciliationRequired (settles : Settles input held)
    (rest : IsKept resume (some (held.bindingIn .reconciliationRequired))) :
    IsKept (do
      let marked ← askRunDispatch (.markReconciliationRequired input)
      orThrow marked fun _ => resume) (some held) := by
  refine isKept_ask fun rows performed answer after sound holds performs => ?_
  have holds := holds held rfl
  have inert : ∀ answer messageId, IsInert messageId
      (⟨.markReconciliationRequired input, answer⟩ : RunDispatchExchange) := fun _ _ => ⟨rfl, rfl⟩
  cases performs with
  | thrown =>
      exact ⟨some held, passes_inert sound (fun _ same => Option.some.inj same ▸ holds)
        (inert _), isKept_thrown⟩
  | markReconciliationRequired settled =>
      obtain ⟨message, binding, has, bound, isHeld, unresolved, left⟩ :=
        RunOutboxRows.settleBinding_ok settled
      rw [settles.1] at has bound left
      rw [settles.2] at isHeld
      have entry := sound.entry has bound
      have notStarted : binding.orchestrationRunId.isSome ≠ true := by
        intro known
        simp [RunOrchestrationBinding.isUnresolved, entry.recorded.mp known] at unresolved
      refine ⟨some (held.bindingIn .reconciliationRequired),
        passes_rebound sound has bound isHeld holds left (fun other _ => inert _ other)
        ⟨rfl, rfl⟩ rfl ?_ ?_ rfl rfl ?_ ⟨rfl, rfl⟩ ?_ ?_ (entry.exclusive _ isHeld) (by simp), rest⟩
      · intro free _
        exact ⟨by simp, inert _ _, free⟩
      · intro status known
        obtain ⟨_, _, _, reached⟩ := holds.start status known
        exact ⟨by simp, ((inert _ _).startStatus _).trans reached⟩
      · rintro ⟨⟩
      · exact iff_of_false notStarted (by simp)
      · intro _
        rfl

/-- The start is taken up: from here on, the holder alone can start the Run. -/
theorem isKept_markStarting {adapterKey : String} (settles : Settles input held)
    (rest : IsKept resume
      (some { held.bindingIn .starting with start := some .startable })) :
    IsKept (do
      let marked ← askRunDispatch (.markStarting input adapterKey)
      orThrow marked fun _ => resume) (some held) := by
  refine isKept_ask fun rows performed answer after sound holds performs => ?_
  have holds := holds held rfl
  have inert : ∀ answer messageId, IsInert messageId
      (⟨.markStarting input adapterKey, answer⟩ : RunDispatchExchange) := fun _ _ => ⟨rfl, rfl⟩
  cases performs with
  | thrown =>
      exact ⟨some held, passes_inert sound (fun _ same => Option.some.inj same ▸ holds)
        (inert _), isKept_thrown⟩
  | markStarting settled =>
      obtain ⟨message, binding, has, bound, isHeld, pending, left⟩ :=
        RunOutboxRows.settleBinding_ok settled
      rw [settles.1] at has bound left
      rw [settles.2] at isHeld
      have pending := beq_iff_eq.mp pending
      have entry := sound.entry has bound
      have notStarted : binding.orchestrationRunId.isSome ≠ true := by
        intro known
        rw [entry.recorded.mp known] at pending
        cases pending
      refine ⟨some { held.bindingIn .starting with start := some .startable },
        passes_rebound sound has bound isHeld holds left (fun other _ => inert _ other)
        ⟨rfl, rfl⟩ rfl ?_ ?_ rfl rfl ?_ ⟨rfl, rfl⟩ ?_ ?_ (entry.exclusive _ isHeld) (by simp), rest⟩
      · intro _ notPending
        exact absurd pending notPending
      · rintro status ⟨⟩
        exact ⟨by simp, ((inert _ _).startStatus _).trans (entry.startable pending)⟩
      · rintro ⟨⟩
      · exact iff_of_false notStarted (by simp)
      · intro _
        rfl

private theorem isKept_recordStarted {adapterKey orchestrationRunId : String}
    (settles : Settles input held) (rest : IsKept resume (some (held.bindingIn .started))) :
    IsKept (do
      let recorded ← askRunDispatch (.recordStarted input adapterKey orchestrationRunId)
      orThrow recorded fun _ => resume) (some held) := by
  refine isKept_ask fun rows performed answer after sound holds performs => ?_
  have holds := holds held rfl
  have inert : ∀ answer messageId, IsInert messageId
      (⟨.recordStarted input adapterKey orchestrationRunId, answer⟩ : RunDispatchExchange) :=
    fun _ _ => ⟨rfl, rfl⟩
  cases performs with
  | thrown =>
      exact ⟨some held, passes_inert sound (fun _ same => Option.some.inj same ▸ holds)
        (inert _), isKept_thrown⟩
  | recordStarted settled =>
      obtain ⟨message, binding, has, bound, isHeld, _, left⟩ :=
        RunOutboxRows.settleBinding_ok settled
      rw [settles.1] at has bound left
      rw [settles.2] at isHeld
      refine ⟨some (held.bindingIn .started),
        passes_rebound sound has bound isHeld holds left (fun other _ => inert _ other)
        ⟨rfl, rfl⟩ rfl ?_ ?_ rfl rfl ?_ ⟨rfl, rfl⟩ ?_ ?_ rfl (by simp), rest⟩
      · intro free _
        exact ⟨by simp, inert _ _, free⟩
      · intro status known
        obtain ⟨_, _, _, reached⟩ := holds.start status known
        exact ⟨by simp, ((inert _ _).startStatus _).trans reached⟩
      · rintro ⟨⟩
      · simp
      · simp

/-- The holder gives up a start that was definitely rejected. -/
theorem isKept_resetPending (settles : Settles input held)
    (started : held.start = some (.started true))
    (rest : IsKept resume (some { held.bindingIn .pending with start := none })) :
    IsKept (do
      let reset ← askRunDispatch (.resetPending input)
      orThrow reset fun _ => resume) (some held) := by
  refine isKept_ask fun rows performed answer after sound holds performs => ?_
  have holds := holds held rfl
  cases performs with
  | thrown operation error =>
      refine ⟨some held, passes_inert sound (fun _ same => Option.some.inj same ▸ holds) ?_,
        isKept_thrown⟩
      intro messageId
      exact ⟨rfl, Bool.and_false _⟩
  | resetPending settled =>
      obtain ⟨message, binding, has, bound, isHeld, starting, unleased, left⟩ :=
        RunOutboxRows.resetPending_ok settled
      rw [settles.1] at has bound left
      rw [settles.2] at isHeld
      have entry := sound.entry has bound
      have notStarted : binding.orchestrationRunId.isSome ≠ true := by
        intro known
        rw [entry.recorded.mp known] at starting
        cases starting
      have resets : ∀ messageId, resetsRun messageId
          (⟨.resetPending input, (.ok () : Except RunOutboxError Unit)⟩ : RunDispatchExchange) =
            (held.messageId == messageId) := by
        intro messageId
        rw [← settles.1]
        exact Bool.and_true _
      refine ⟨some { held.bindingIn .pending with start := none },
        passes_rebound sound has bound isHeld holds left ?_ ⟨rfl, rfl⟩ rfl ?_ ?_ rfl rfl ?_
        ⟨rfl, rfl⟩ ?_ ?_ (entry.exclusive _ isHeld) ?_, rest⟩
      · intro other away
        exact ⟨rfl, (resets other).trans (beq_eq_false_iff_ne.mpr away.symm)⟩
      · intro free
        rw [started] at free
        cases free
      · rintro status ⟨⟩
      · intro _
        obtain ⟨_, _, _, reached⟩ := holds.start _ started
        exact reached
      · exact iff_of_false notStarted (by simp)
      · intro claimed
        exact absurd unleased claimed
      · intro _
        rw [startStatus_append, nextStartStatus, resets, beq_self_eq_true]
        rfl

/-- What a dispatcher holds after its start was answered. -/
def HeldRun.answered (held : HeldRun) (answer : Option StartRunOutcome) : HeldRun :=
  if isDefiniteRejection answer then
    { held with
      start := some (.started true)
      rejected := true }
  else { held with start := none }

private theorem isKept_startRun {request : StartRunRequest}
    {resume : Option StartRunOutcome → RunDispatchProgram Result}
    (startKey : request.startKey = held.messageId) (startable : held.start = some .startable)
    (rest : ∀ answer, IsKept (resume answer) (some (held.answered answer))) :
    IsKept (askRunDispatch (.startRun request) >>= resume) (some held) := by
  refine isKept_ask fun rows performed answer after sound holds performs => ?_
  have holds := holds held rfl
  have unmoved : after = rows := by
    cases performs <;> rfl
  subst unmoved
  have starts : ∀ messageId,
    startsRun messageId (⟨.startRun request, answer⟩ : RunDispatchExchange) =
      (held.messageId == messageId) := by
    intro messageId
    rw [← startKey]
    rfl
  have rejects : rejectsRun held.messageId (⟨.startRun request, answer⟩ : RunDispatchExchange) =
      isDefiniteRejection answer := by
    change (request.startKey == held.messageId && isDefiniteRejection answer) = _
    rw [startKey, beq_self_eq_true, Bool.true_and]
  obtain ⟨binding, bound, notPending, status⟩ := holds.start _ startable
  obtain ⟨message, has⟩ := sound.hasMessage bound
  have entry := sound.entry has bound
  have move : DispatcherMove after after performed ⟨.startRun request, answer⟩ held
      (held.answered answer) message message binding binding := {
    has := has
    hasBinding := bound
    messages := by rw [← has, Function.update_eq_self]
    bindings := by rw [← bound, Function.update_eq_self]
    clock := rfl
    tokens := rfl
    inert := fun other away => ⟨(starts other).trans (beq_eq_false_iff_ne.mpr away.symm), rfl⟩
    lease := fun _ isHeld => .inr ⟨isHeld, rfl⟩
    starts := by
      intro free
      rw [startable] at free
      cases free
    same := by
      unfold HeldRun.answered
      split <;> exact ⟨rfl, rfl⟩
    mayBe := by
      intro isHeld
      have known := holds.state message binding has bound isHeld
      unfold HeldRun.answered
      split <;> exact known
    start := by
      intro status known
      refine ⟨notPending, ?_⟩
      unfold HeldRun.answered at known
      split at known
      · rename_i rejected
        cases known
        rw [startStatus_append, nextStartStatus, starts, beq_self_eq_true, rejects, rejected]
        rfl
      · cases known
    rejected := by
      intro known
      unfold HeldRun.answered at known
      split at known
      · rename_i rejected
        exact ⟨_, List.mem_append_right _ (List.mem_singleton_self _), rejects.trans rejected⟩
      · exact (holds.rejected known).mono (List.subset_append_left _ _)
    startsRun := fun _ => status
    resetsRun := nofun }
  refine ⟨_, move.passes sound holds { entry with
    startable := fun pending => absurd pending notPending
    deadLettered := fun _ pending => absurd pending notPending }, rest answer⟩

private theorem isKept_findRunByStartKey {request : StartRunRequest} {holding : Option HeldRun}
    {resume : Option FindRunByStartKeyOutcome → RunDispatchProgram Result}
    (rest : ∀ answer, IsKept (resume answer) holding) :
    IsKept (askRunDispatch (.findRunByStartKey request) >>= resume) holding := by
  refine isKept_ask fun rows performed answer after sound holds performs => ?_
  have unmoved : after = rows := by
    cases performs <;> rfl
  subst unmoved
  exact ⟨holding, passes_inert sound holds fun _ => ⟨rfl, rfl⟩, rest answer⟩

end Rules

/-! ## Claims -/

/-- What the binding may be under a claim that showed it in some state. -/
def claimedMayBe (binding : ClaimedRunBinding) (state : RunOrchestrationBindingState) :
    Prop :=
  state = binding.state ∨ binding.state = .starting ∧ state = .reconciliationRequired

/-- What a dispatcher holds with a claim. -/
def heldUnder (claim : RunOutboxClaim) : HeldRun where
  messageId := claim.message.messageId
  claimToken := claim.claimToken
  mayBe := claimedMayBe claim.binding
  start := none
  rejected := false

/-- What the rows promise of a claim. -/
structure ClaimIsSound (claim : RunOutboxClaim) : Prop where
  consistent : runQueuedMessageIsConsistent claim.message = true
  startKey : claim.binding.startKey = claim.message.messageId
  recorded : claim.binding.orchestrationRunId.isSome = true ↔ claim.binding.state = .started

section Taken

variable {rows after : RunOutboxRows} {performed : List RunDispatchExchange}
  {exchange : RunDispatchExchange} {messageId : String} {message moved : RunOutboxMessage}
  {binding bound : RunOrchestrationBinding}

/-- An entry that is moved by who held nothing of it. -/
theorem passes_taken {next : Option HeldRun}
    (sound : RunDispatchSound (rows, performed)) (has : rows.messages messageId = some message)
    (hasBinding : rows.bindings messageId = some binding)
    (entryMoved : EntryMoved messageId moved bound exchange (rows, performed)
      (after, performed ++ [exchange]))
    (inert : IsInert messageId exchange)
    (entry : RunEntrySound messageId moved bound rows.clock after.claimTokens
      (performed ++ [exchange]))
    (lease : ∀ claimToken ∈ rows.claimTokens, IsHeld moved claimToken rows.clock →
      IsHeld message claimToken rows.clock ∧ bound.state = binding.state)
    (starts : binding.state ≠ .pending → bound.state ≠ .pending)
    (holds : ∀ held, next = some held → held.Holds (after, performed ++ [exchange]) ∧
      held.claimToken ∉ rows.claimTokens ∧ held.start = none) :
    runDispatchCustody.Passes none next (rows, performed) (after, performed ++ [exchange]) := by
  refine ⟨entryMoved.sound sound entry ?_ ?_, fun held isHeld => (holds held isHeld).1, ?_⟩
  · intro starts
    rw [inert.1] at starts
    cases starts
  · intro resets
    rw [inert.2] at resets
    cases resets
  · intro other _ keeps
    refine ⟨?_, ?_⟩
    · intro held kept isHeld isKept
      obtain ⟨_, fresh, free⟩ := holds held isHeld
      refine ⟨fun same => ?_, fun _ => .inl free⟩
      rw [same] at fresh
      exact fresh (keeps kept isKept).drawn
    · intro kept isKept
      refine (keeps kept isKept).moved entryMoved ?_ ?_
      · intro _ isHeld
        obtain ⟨heldBefore, same⟩ := lease _ (keeps kept isKept).drawn isHeld
        exact ⟨message, binding, has, hasBinding, heldBefore, same⟩
      · intro _ _ known hasKnown notPending
        change rows.bindings messageId = some known at hasKnown
        rw [hasBinding] at hasKnown
        cases hasKnown
        exact ⟨starts notPending, inert⟩

end Taken

/-- What a claim leaves in the rows. -/
structure RunClaimed (rows after : RunOutboxRows) (claimToken messageId : String)
    (answer : Except RunOutboxError RunOutboxClaim) (message : RunOutboxMessage)
    (binding : RunOrchestrationBinding) (lease : OutboxClaim)
    (reconciled : RunOrchestrationBinding) :
    Prop where
  has : rows.messages messageId = some message
  hasBinding : rows.bindings messageId = some binding
  released : isReleased binding.reconciliationClaim rows.clock = true
  token : lease.claimToken = claimToken
  answer : answer = parseOutboxRow { message with
    state := .claimed
    attempts := message.attempts + 1
    claim := some lease } binding lease
  rebound : reconciled = binding ∨
    binding.state = .starting ∧ reconciled = { binding with state := .reconciliationRequired }
  after : after = { (rows.setMessage messageId { message with
    state := .claimed
    attempts := message.attempts + 1
    claim := some lease }).setBinding messageId reconciled with
      claimTokens := claimToken :: rows.claimTokens }

/-- What claiming the next message can do: nothing, a refusal, or one message claimed under a fresh
token. -/
theorem claimNext_cases {rows after : RunOutboxRows} {input : ClaimNextOutboxInput}
    {claimToken messageId : String} {answer : Except RunOutboxError RunOutboxClaim}
    (claimed : rows.claimNext input claimToken messageId = (answer, after)) :
    ((∃ error, answer = .error error) ∧ after = rows) ∨
      ∃ message binding lease reconciled,
        RunClaimed rows after claimToken messageId answer message binding lease reconciled := by
  unfold RunOutboxRows.claimNext at claimed
  split at claimed
  · rename_i message binding has hasBinding
    split at claimed
    · rename_i taken
      cases claimed
      rw [Bool.and_eq_true] at taken
      refine .inr ⟨message, binding, _, _, has, hasBinding, taken.1, rfl, rfl, ?_, rfl⟩
      by_cases starting : message.state == .claimed && binding.state == .starting
      · rw [if_pos starting]
        rw [Bool.and_eq_true, beq_iff_eq, beq_iff_eq] at starting
        exact .inr ⟨starting.2, rfl⟩
      · rw [if_neg starting]
        exact .inl rfl
    · cases claimed
      exact .inl ⟨⟨_, rfl⟩, rfl⟩
  · cases claimed
    exact .inl ⟨⟨_, rfl⟩, rfl⟩

private theorem parseOutboxRow_ok {message : RunOutboxMessage} {binding : RunOrchestrationBinding}
    {lease : OutboxClaim} {claim : RunOutboxClaim}
    (parsed : parseOutboxRow message binding lease = .ok claim) :
    runQueuedMessageIsConsistent message.toRunQueuedMessage = true ∧
      claim.message = message.toRunQueuedMessage ∧ claim.claimToken = lease.claimToken ∧
        claim.binding = ⟨binding.adapterKey, binding.orchestrationRunId, binding.startKey,
          binding.state⟩ := by
  unfold parseOutboxRow at parsed
  split at parsed
  · rename_i consistent
    cases parsed
    exact ⟨consistent, rfl, rfl, rfl⟩
  · cases parsed

section Claims

variable {rows after : RunOutboxRows} {performed : List RunDispatchExchange}
  {claimToken messageId : String} {answer : Except RunOutboxError RunOutboxClaim}
  {message : RunOutboxMessage} {binding reconciled : RunOrchestrationBinding} {lease : OutboxClaim}

/-- A claimed message is held, with its binding as the claim shows it. -/
theorem RunClaimed.passes {exchange : RunDispatchExchange}
    (claimed : RunClaimed rows after claimToken messageId answer message binding lease reconciled)
    (sound : RunDispatchSound (rows, performed)) (fresh : claimToken ∉ rows.claimTokens)
    (inert : ∀ other, IsInert other exchange) {mayBe : RunOrchestrationBindingState → Prop}
    (known : mayBe reconciled.state) :
    runDispatchCustody.Passes none (some ⟨messageId, claimToken, mayBe, none, false⟩)
      (rows, performed) (after, performed ++ [exchange]) := by
  have entry := sound.entry claimed.has claimed.hasBinding
  obtain ⟨sameKey, sameWorkspace, sameRun, sameClaim⟩ :
      reconciled.startKey = binding.startKey ∧ reconciled.workspaceId = binding.workspaceId ∧
        reconciled.orchestrationRunId = binding.orchestrationRunId ∧
          reconciled.reconciliationClaim = binding.reconciliationClaim := by
    rcases claimed.rebound with rfl | ⟨_, rfl⟩ <;> exact ⟨rfl, rfl, rfl, rfl⟩
  have sameStarted : reconciled.state = .started ↔ binding.state = .started := by
    rcases claimed.rebound with rfl | ⟨starting, rfl⟩
    · rfl
    · rw [starting]
      simp
  have samePending : reconciled.state = .pending ↔ binding.state = .pending := by
    rcases claimed.rebound with rfl | ⟨starting, rfl⟩
    · rfl
    · rw [starting]
      simp
  have unheld : ∀ other, IsHeld { message with
      state := .claimed
      attempts := message.attempts + 1
      claim := some lease } other rows.clock → other = claimToken := by
    rintro other ⟨_, _, ⟨⟩, same, _⟩
    exact same.symm.trans claimed.token
  have moved : EntryMoved messageId { message with
      state := .claimed
      attempts := message.attempts + 1
      claim := some lease } reconciled exchange (rows, performed)
      (after, performed ++ [exchange]) := by
    rw [claimed.after]
    exact ⟨rfl, rfl, rfl, List.subset_cons_self _ _, rfl, fun other _ => inert other⟩
  refine passes_taken sound claimed.has claimed.hasBinding moved (inert _) ?_ ?_ ?_ ?_
  · rw [claimed.after]
    exact {
      identity := entry.identity
      startKey := sameKey.trans entry.startKey
      workspaceId := sameWorkspace.trans entry.workspaceId
      claimed := by simp
      recorded := by rw [sameRun, sameStarted, entry.recorded]
      leased := by
        rw [sameClaim]
        intro leased
        have unresolved := entry.leased leased
        rcases claimed.rebound with same | ⟨_, same⟩
        · rw [same, unresolved]
        · rw [same]
          rfl
      drawn := by
        rintro _ ⟨⟩
        rw [claimed.token]
        exact List.mem_cons_self
      exclusive := by
        rw [sameClaim]
        exact fun _ _ => claimed.released
      dispatched := by simp
      claimable := by simp
      uncancelled := by simp
      startable := fun pending =>
        ((inert _).startStatus _).trans (entry.startable (samePending.mp pending))
      deadLettered := by simp }
  · intro other drawn isHeld
    rw [unheld other isHeld] at drawn
    exact absurd drawn fresh
  · rw [Ne, Ne, samePending]
    exact id
  · rintro _ ⟨⟩
    refine ⟨⟨?_, ?_, nofun, nofun⟩, fresh, rfl⟩
    · rw [claimed.after]
      exact List.mem_cons_self
    · rw [claimed.after]
      change ∀ _ _, Function.update _ _ _ _ = _ → Function.update _ _ _ _ = _ → _
      rw [Function.update_self, Function.update_self]
      rintro _ _ ⟨⟩ ⟨⟩ _
      exact known

end Claims

private theorem isKept_claimNext {input : ClaimNextOutboxInput}
    {resume : Option RunOutboxClaim → RunDispatchProgram (RunDispatchOutcome Result)}
    (idle : IsKept (resume none) none)
    (rest : ∀ claim, ClaimIsSound claim → IsKept (resume (some claim)) (some (heldUnder claim))) :
    IsKept (do
      let claimed ← askRunDispatch (.claimNext input)
      orThrow claimed resume) none := by
  refine isKept_ask fun rows performed answer after sound _ performs => ?_
  have inert : ∀ answer messageId, IsInert messageId
      (⟨.claimNext input, answer⟩ : RunDispatchExchange) := fun _ _ => ⟨rfl, rfl⟩
  cases performs with
  | thrown => exact ⟨none, passes_inert sound nofun (inert _), isKept_thrown⟩
  | noClaim => exact ⟨none, passes_inert sound nofun (inert _), idle⟩
  | @claimNext _ claimToken messageId answer _ fresh claimed =>
      rcases claimNext_cases claimed with ⟨⟨error, rfl⟩, rfl⟩ |
        ⟨message, binding, lease, reconciled, claimed⟩
      · exact ⟨none, passes_inert sound nofun (inert _), isKept_thrown⟩
      · cases answer with
        | error error =>
            have passes : runDispatchCustody.Passes none
                (some ⟨messageId, claimToken, fun _ => True, none, false⟩) _ _ :=
              claimed.passes sound fresh (inert (.error error)) trivial
            exact ⟨_, passes, isKept_thrown⟩
        | ok claim =>
            have entry := sound.entry claimed.has claimed.hasBinding
            obtain ⟨consistent, sameMessage, sameToken, sameBinding⟩ :=
              parseOutboxRow_ok claimed.answer.symm
            have identity : claim.message.messageId = messageId := by
              rw [sameMessage]
              exact entry.identity
            have known : claimedMayBe claim.binding reconciled.state := by
              rw [sameBinding]
              rcases claimed.rebound with rfl | ⟨starting, rfl⟩
              · exact .inl rfl
              · exact .inr ⟨starting, rfl⟩
            have passes := claimed.passes sound fresh (inert (.ok (some claim))) known
            rw [← identity, ← claimed.token, ← sameToken] at passes
            refine ⟨some (heldUnder claim), passes, rest claim ⟨?_, ?_, ?_⟩⟩
            · rw [sameMessage]
              exact consistent
            · rw [identity, sameBinding]
              exact entry.startKey
            · rw [sameBinding]
              exact entry.recorded

/-! ## The dispatcher -/

section Dispatcher

variable {dependencies : DispatchNextOutboxDependencies} {claim : RunOutboxClaim} {held : HeldRun}

private theorem isKept_settleFailure {reason : String} {retryable : Bool}
    (settles : Settles (settleInput dependencies claim) held)
    (notStarted : ¬ held.mayBe .started) (pending : held.mayBe .pending → held.rejected = true) :
    IsKept (settleFailure dependencies claim reason retryable) (some held) := by
  unfold settleFailure
  split
  · exact isKept_markDeadLetter settles notStarted pending isKept_pure
  · exact isKept_markRetry settles isKept_pure

private theorem isKept_settleStarted {outcome : StartRunOutcome} {orchestrationRunId : String}
    (settles : Settles (settleInput dependencies claim) held) :
    IsKept (settleStarted dependencies claim outcome orchestrationRunId) (some held) := by
  unfold settleStarted
  split
  · exact isKept_pure
  · refine isKept_recordStarted settles ?_
    exact isKept_markDispatched settles isKept_pure

private theorem isKept_requireReconciliation {reason : String}
    (settles : Settles (settleInput dependencies claim) held) :
    IsKept (requireReconciliation dependencies claim reason) (some held) := by
  refine isKept_markReconciliationRequired settles ?_
  refine isKept_settleFailure settles ?_ ?_
  · intro started
    cases started
  · intro pending
    cases pending

private theorem isKept_reconcileClaimedRun (settles : Settles (settleInput dependencies claim) held)
    (notStarted : ¬ held.mayBe .started) (notPending : ¬ held.mayBe .pending) :
    IsKept (reconcileClaimedRun dependencies claim) (some held) := by
  unfold reconcileClaimedRun
  split
  · exact isKept_settleFailure settles notStarted fun pending => absurd pending notPending
  · refine isKept_findRunByStartKey fun answer => ?_
    cases answer with
    | none => exact isKept_requireReconciliation settles
    | some outcome =>
        cases outcome with
        | found orchestrationRunId => exact isKept_settleStarted settles
        | notFound => exact isKept_requireReconciliation settles
        | outcomeUnknown reason => exact isKept_requireReconciliation settles

/-- A claim that is sound has a request. -/
theorem dispatchRunQueuedRequest_some (sound : ClaimIsSound claim) :
    dispatchRunQueuedRequest claim.message claim.binding.startKey =
      some ⟨claim.message.eventId, claim.message.aggregateId, claim.message.messageId,
        claim.message.workspaceId⟩ := by
  have consistent := sound.consistent
  simp only [runQueuedMessageIsConsistent, Bool.and_eq_true, beq_iff_eq] at consistent
  obtain ⟨⟨⟨⟨_, sameRun⟩, sameEvent⟩, sameWorkspace⟩, named⟩ := consistent
  rw [sound.startKey, dispatchRunQueuedRequest, if_neg]
  simp [sameRun, sameEvent, sameWorkspace, named]

private theorem isKept_startClaimedRun (sound : ClaimIsSound claim)
    (same : held.messageId = claim.message.messageId)
    (settles : Settles (settleInput dependencies claim) held) :
    IsKept (startClaimedRun dependencies claim) (some held) := by
  refine isKept_markStarting settles ?_
  rw [dispatchRunQueuedRequest_some sound]
  refine isKept_startRun same.symm rfl fun answer => ?_
  have settles : ∀ answer, Settles (settleInput dependencies claim)
      (({ held.bindingIn .starting with start := some .startable } : HeldRun).answered answer) := by
    intro answer
    unfold HeldRun.answered
    split <;> exact settles
  cases answer with
  | none => exact isKept_requireReconciliation (settles _)
  | some outcome =>
      cases outcome with
      | accepted orchestrationRunId => exact isKept_settleStarted (settles _)
      | alreadyStarted orchestrationRunId => exact isKept_settleStarted (settles _)
      | outcomeUnknown reason => exact isKept_requireReconciliation (settles _)
      | definitelyRejected reason retryable =>
          refine isKept_resetPending (settles _) rfl ?_
          refine isKept_settleFailure (settles (some (.definitelyRejected reason retryable))) ?_ ?_
          · intro started
            cases started
          · exact fun _ => rfl

private theorem isKept_dispatchClaimedRun (sound : ClaimIsSound claim) :
    IsKept (dispatchClaimedRun dependencies claim) (some (heldUnder claim)) := by
  have settles : Settles (settleInput dependencies claim) (heldUnder claim) := ⟨rfl, rfl⟩
  have shows : ∀ state known, claim.binding.state = known → state ≠ known →
      state ≠ .reconciliationRequired → ¬ (heldUnder claim).mayBe state := by
    rintro state known shown other unresolved (same | ⟨_, same⟩)
    · exact other (same.trans shown)
    · exact unresolved same
  unfold dispatchClaimedRun
  split
  · rename_i started
    split
    · rename_i noRun
      have recorded := sound.recorded.mpr started
      rw [noRun] at recorded
      cases recorded
    · exact isKept_markDispatched settles isKept_pure
  · rename_i exhausted
    exact isKept_settleFailure settles (shows _ _ exhausted (by decide) (by decide))
      fun pending => absurd pending (shows _ _ exhausted (by decide) (by decide))
  · exact isKept_startClaimedRun sound rfl settles
  · rename_i starting
    exact isKept_reconcileClaimedRun settles (shows _ _ starting (by decide) (by decide))
      (shows _ _ starting (by decide) (by decide))
  · rename_i required
    exact isKept_reconcileClaimedRun settles (shows _ _ required (by decide) (by decide))
      (shows _ _ required (by decide) (by decide))

/-- **A dispatcher keeps its custody.** -/
theorem isKept_dispatchNextOutbox : IsKept (dispatchNextOutbox dependencies) none := by
  refine isKept_claimNext isKept_pure fun claim sound => ?_
  exact isKept_dispatchClaimedRun sound

end Dispatcher

end Kurobara.Application
