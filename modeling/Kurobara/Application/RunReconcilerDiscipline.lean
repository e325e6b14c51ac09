import Kurobara.Application.RunDispatchDiscipline

/-! # Reconcilers keep the custody of queued Runs

A reconciler holds nothing: what it does under its lease of a binding leaves alone every
message that a dispatcher holds.
-/

namespace Kurobara.Application

open Kernel Persistence Foundation

variable {Value Result Next : Type}

/-- The program keeps the custody of queued Runs without holding any. -/
def IsIdle (program : RunDispatchProgram Result) : Prop :=
  program.Keeps runDispatchCustody none fun later _ => later = none

theorem isIdle_pure {result : Result} : IsIdle (pure result) :=
  Program.keeps_done.mpr rfl

theorem IsIdle.bind {program : RunDispatchProgram Result}
    {resume : Result → RunDispatchProgram Next} (idle : IsIdle program)
    (rest : ∀ result, IsIdle (resume result)) : IsIdle (program >>= resume) := by
  refine Program.Keeps.bind idle ?_
  rintro _ result rfl
  exact rest result

theorem IsIdle.isKept {program : RunDispatchProgram Result} (idle : IsIdle program) :
    IsKept program none :=
  Program.Keeps.mono idle fun _ _ _ => trivial

/-- Asking one operation of the recorded rows. -/
theorem isIdle_ask {operation : RunDispatchOperation}
    (rule : ∀ rows performed answer after, RunDispatchSound (rows, performed) →
      RunDispatchPerforms rows operation answer after →
        runDispatchCustody.Passes none none (rows, performed)
          (after, performed ++ [⟨operation, answer⟩])) :
    IsIdle (askRunDispatch operation) := by
  refine Program.keeps_ask.mpr ?_
  rintro ⟨rows, performed⟩ answer ⟨after, grown⟩ sound _ ⟨performs, same⟩
  cases same
  exact ⟨none, rule rows performed answer after sound performs, isIdle_pure⟩

private theorem isIdle_orThrow {answer : Except RunOutboxError Value}
    {next : Value → RunDispatchProgram (RunDispatchOutcome Result)}
    (rest : ∀ value, IsIdle (next value)) : IsIdle (orThrow answer next) := by
  cases answer with
  | ok value => exact rest value
  | error error => exact isIdle_pure

/-! ## Entries that nobody holds -/

section Unheld

variable {rows after : RunOutboxRows} {performed : List RunDispatchExchange}
  {exchange : RunDispatchExchange} {messageId : String} {message moved : RunOutboxMessage}
  {binding bound : RunOrchestrationBinding}

private theorem not_isHeld_of_isUnheld {claimToken : String} {now : Instant}
    (unheld : message.isUnheld now = true) : ¬ IsHeld message claimToken now := by
  rintro ⟨claimed, lease, known, _, alive⟩
  simp [RunOutboxMessage.isUnheld, claimed, known, OutboxClaim.isAlive] at unheld
  exact absurd alive (not_lt.mpr unheld)

/-- Under a lease of a reconciler, nobody holds the message. -/
theorem RunEntrySound.isUnheld
    (entry : RunEntrySound messageId message binding rows.clock rows.claimTokens performed)
    (leased : isReleased binding.reconciliationClaim rows.clock = false) :
    message.isUnheld rows.clock = true := by
  by_cases claimed : message.state = .claimed
  · obtain ⟨lease, known⟩ := Option.ne_none_iff_exists'.mp (entry.claimed claimed)
    rw [RunOutboxMessage.isUnheld, known, Option.any_some, Bool.or_eq_true]
    refine .inr ?_
    by_contra alive
    rw [Bool.not_eq_true, Bool.not_eq_false', OutboxClaim.isAlive, decide_eq_true_eq] at alive
    rw [entry.exclusive lease.claimToken ⟨claimed, lease, known, rfl, alive⟩] at leased
    cases leased
  · rw [RunOutboxMessage.isUnheld, bne_iff_ne.mpr claimed]
    rfl

/-- An entry that nobody holds, before and after it is moved. -/
theorem passes_unheld (sound : RunDispatchSound (rows, performed))
    (has : rows.messages messageId = some message)
    (hasBinding : rows.bindings messageId = some binding)
    (entryMoved : EntryMoved messageId moved bound exchange (rows, performed)
      (after, performed ++ [exchange]))
    (inert : ∀ other, IsInert other exchange)
    (unheld : ∀ claimToken, ¬ IsHeld moved claimToken rows.clock)
    (entry : RunEntrySound messageId moved bound rows.clock after.claimTokens
      (performed ++ [exchange]))
    (starts : binding.state ≠ .pending → bound.state ≠ .pending) :
    runDispatchCustody.Passes none none (rows, performed) (after, performed ++ [exchange]) :=
  passes_taken sound has hasBinding entryMoved (inert _) entry
    (fun claimToken _ isHeld => absurd isHeld (unheld claimToken)) starts nofun

end Unheld

/-! ## Claims -/

theorem isUnresolved_ne {binding : RunOrchestrationBinding}
    (unresolved : binding.isUnresolved = true) :
    binding.state ≠ .pending ∧ binding.state ≠ .started := by
  refine ⟨?_, ?_⟩ <;> intro known <;>
    simp [RunOrchestrationBinding.isUnresolved, known] at unresolved

/-- What claiming the next reconciliation can do: nothing, or one binding under a lease. -/
theorem claimNextForSystem_cases {rows after : RunOutboxRows}
    {input : ClaimNextOrchestrationReconciliationInput} {claimToken messageId : String}
    {answer : Except RunOutboxError OrchestrationReconciliationClaim}
    (claimed : rows.claimNextForSystem input claimToken messageId = (answer, after)) :
    after = rows ∨ ∃ message binding lease, rows.messages messageId = some message ∧
      rows.bindings messageId = some binding ∧
        rows.awaitsReconciliation input.adapterKey message binding = true ∧
          after = { rows.setBinding messageId { binding with
            reconciliationClaim := some lease
            reconciliationAttempts := binding.reconciliationAttempts + 1 } with
              claimTokens := claimToken :: rows.claimTokens } := by
  unfold RunOutboxRows.claimNextForSystem at claimed
  split at claimed
  · rename_i message binding has hasBinding
    split at claimed
    · rename_i taken
      cases claimed
      rw [Bool.and_eq_true, Bool.and_eq_true] at taken
      exact .inr ⟨message, binding, _, has, hasBinding, taken.1.1, rfl⟩
    · cases claimed
      exact .inl rfl
  · cases claimed
    exact .inl rfl

private theorem isIdle_claimNextForSystem {input : ClaimNextOrchestrationReconciliationInput} :
    IsIdle (askRunDispatch (.claimNextForSystem input)) := by
  refine isIdle_ask fun rows performed answer after sound performs => ?_
  have inert : ∀ messageId, IsInert messageId
      (⟨.claimNextForSystem input, answer⟩ : RunDispatchExchange) := fun _ => ⟨rfl, rfl⟩
  cases performs with
  | thrown => exact passes_inert sound nofun inert
  | noSystemClaim => exact passes_inert sound nofun inert
  | @claimNextForSystem _ claimToken messageId answer _ fresh claimed =>
      rcases claimNextForSystem_cases claimed with rfl |
        ⟨message, binding, lease, has, hasBinding, awaits, left⟩
      · exact passes_inert sound nofun inert
      · have entry := sound.entry has hasBinding
        simp only [RunOutboxRows.awaitsReconciliation, Bool.and_eq_true] at awaits
        obtain ⟨⟨⟨_, unresolved⟩, _⟩, unheld⟩ := awaits
        have moved : EntryMoved messageId message { binding with
            reconciliationClaim := some lease
            reconciliationAttempts := binding.reconciliationAttempts + 1 }
            ⟨.claimNextForSystem input, answer.map some⟩ (rows, performed)
            (after, performed ++ [⟨.claimNextForSystem input, answer.map some⟩]) := by
          rw [left]
          refine ⟨?_, rfl, rfl, List.subset_cons_self _ _, rfl, fun other _ => inert other⟩
          rw [← has, Function.update_eq_self]
          rfl
        refine passes_unheld sound has hasBinding moved inert
          (fun _ => not_isHeld_of_isUnheld unheld) ?_ id
        rw [left]
        exact { entry with
          leased := fun _ => unresolved
          drawn := fun known isLease => List.mem_cons_of_mem _ (entry.drawn known isLease)
          exclusive := fun _ isHeld => absurd isHeld (not_isHeld_of_isUnheld unheld)
          startable := fun pending => absurd pending (isUnresolved_ne unresolved).1
          deadLettered := fun _ pending => absurd pending (isUnresolved_ne unresolved).1 }

/-! ## Settlements -/

section Settlements

variable {rows : RunOutboxRows} {performed : List RunDispatchExchange}
  {exchange : RunDispatchExchange} {message : RunOutboxMessage}
  {binding : RunOrchestrationBinding}
  {input : SettleOrchestrationReconciliationInput}

theorem reconciledBinding_some (found : rows.reconciledBinding input = some binding) :
    rows.bindings input.messageId = some binding ∧ binding.workspaceId = input.workspaceId ∧
      binding.isUnresolved = true ∧
        isReleased binding.reconciliationClaim rows.clock = false := by
  obtain ⟨has, held⟩ := Option.filter_eq_some_iff.mp found
  simp only [Bool.and_eq_true, beq_iff_eq] at held
  obtain ⟨⟨⟨workspace, _⟩, unresolved⟩, leased⟩ := held
  rw [isHeldUnder, Option.any_eq_true] at leased
  obtain ⟨lease, known, leased⟩ := leased
  rw [Bool.and_eq_true] at leased
  refine ⟨has, workspace, unresolved, ?_⟩
  rw [known, isReleased, Option.all_some, leased.2]
  rfl

/-- A message that nobody holds is updated. -/
theorem updateUnheld_eq {workspaceId : WorkspaceId} {messageId : String}
    {update : RunOutboxMessage → RunOutboxMessage} (has : rows.messages messageId = some message)
    (workspace : message.workspaceId = workspaceId) (unheld : message.isUnheld rows.clock = true) :
    rows.updateUnheld workspaceId messageId update =
      rows.setMessage messageId (update message) := by
  rw [RunOutboxRows.updateUnheld, has]
  simp [workspace, unheld]

private theorem updateUnheld_setBinding {workspaceId : WorkspaceId} {messageId : String}
    {bound : RunOrchestrationBinding} {update : RunOutboxMessage → RunOutboxMessage}
    (has : rows.messages messageId = some message)
    (workspace : message.workspaceId = workspaceId) (unheld : message.isUnheld rows.clock = true) :
    (rows.setBinding messageId bound).updateUnheld workspaceId messageId update =
      (rows.setBinding messageId bound).setMessage messageId (update message) := by
  have kept : (rows.setBinding messageId bound).messages messageId = some message := has
  exact updateUnheld_eq kept workspace unheld

theorem updateUnheld_cases {workspaceId : WorkspaceId} {messageId : String}
    (update : RunOutboxMessage → RunOutboxMessage) (has : rows.messages messageId = some message) :
    rows.updateUnheld workspaceId messageId update = rows ∨
      message.isUnheld rows.clock = true ∧
        rows.updateUnheld workspaceId messageId update =
          rows.setMessage messageId (update message) := by
  rw [RunOutboxRows.updateUnheld, has]
  split
  · rename_i message known
    cases known
    split
    · rename_i unheld
      rw [Bool.and_eq_true] at unheld
      exact .inr ⟨unheld.2, rfl⟩
    · exact .inl rfl
  · exact .inl rfl

/-- A message that nobody holds is dispatched along with its started binding. -/
theorem passes_dispatched {after : RunOutboxRows} {messageId orchestrationRunId : String}
    {bound : RunOrchestrationBinding} (sound : RunDispatchSound (rows, performed))
    (has : rows.messages messageId = some message)
    (hasBinding : rows.bindings messageId = some binding)
    (inert : ∀ other, IsInert other exchange)
    (messages : after.messages = Function.update rows.messages messageId (some { message with
      state := .dispatched
      claim := none
      orchestrationRunId := some orchestrationRunId
      lastError := none }))
    (bindings : after.bindings = Function.update rows.bindings messageId (some bound))
    (rest : after.clock = rows.clock ∧ after.claimTokens = rows.claimTokens)
    (same : bound.startKey = binding.startKey ∧ bound.workspaceId = binding.workspaceId)
    (started : bound.state = .started) (run : bound.orchestrationRunId = some orchestrationRunId)
    (unleased : bound.reconciliationClaim = none) :
    runDispatchCustody.Passes none none (rows, performed) (after, performed ++ [exchange]) := by
  have entry := sound.entry has hasBinding
  have moved : EntryMoved messageId { message with
      state := .dispatched
      claim := none
      orchestrationRunId := some orchestrationRunId
      lastError := none } bound exchange (rows, performed) (after, performed ++ [exchange]) :=
    ⟨messages, bindings, rest.1, by rw [rest.2]; exact List.Subset.refl _, rfl,
      fun other _ => inert other⟩
  refine passes_unheld sound has hasBinding moved inert ?_ ?_ ?_
  · rintro _ ⟨claimed, _⟩
    cases claimed
  · exact {
      identity := entry.identity
      startKey := same.1.trans entry.startKey
      workspaceId := same.2.trans entry.workspaceId
      claimed := nofun
      recorded := by simp [run, started]
      leased := fun leased => absurd unleased leased
      drawn := nofun
      exclusive := by
        rw [unleased]
        exact fun _ _ => rfl
      dispatched := fun _ => ⟨started, run.symm⟩
      claimable := nofun
      uncancelled := nofun
      startable := by
        rw [started]
        nofun
      deadLettered := nofun }
  · rw [started]
    exact nofun

/-- An unresolved binding whose lease is given up stays without an outcome. -/
theorem passes_released {after : RunOutboxRows} {messageId : String} {moved : RunOutboxMessage}
    {bound : RunOrchestrationBinding} (sound : RunDispatchSound (rows, performed))
    (has : rows.messages messageId = some message)
    (hasBinding : rows.bindings messageId = some binding)
    (inert : ∀ other, IsInert other exchange)
    (unresolved : binding.isUnresolved = true)
    (unheld : message.isUnheld rows.clock = true)
    (messages : after.messages = Function.update rows.messages messageId (some moved))
    (bindings : after.bindings = Function.update rows.bindings messageId (some bound))
    (rest : after.clock = rows.clock ∧ after.claimTokens = rows.claimTokens)
    (settled : moved = message ∨ ∃ reason, moved = { message with
      state := .deadLetter
      claim := none
      lastError := some reason })
    (same : bound.startKey = binding.startKey ∧ bound.workspaceId = binding.workspaceId ∧
      bound.orchestrationRunId = binding.orchestrationRunId)
    (state : bound.state = .reconciliationRequired ∨ bound.state = .reconciliationExhausted)
    (unleased : bound.reconciliationClaim = none) :
    runDispatchCustody.Passes none none (rows, performed) (after, performed ++ [exchange]) := by
  have entry := sound.entry has hasBinding
  have entryMoved : EntryMoved messageId moved bound exchange (rows, performed)
      (after, performed ++ [exchange]) :=
    ⟨messages, bindings, rest.1, by rw [rest.2]; exact List.Subset.refl _, rfl,
      fun other _ => inert other⟩
  have free : ∀ claimToken, ¬ IsHeld moved claimToken rows.clock := by
    rcases settled with rfl | ⟨reason, rfl⟩
    · exact fun _ => not_isHeld_of_isUnheld unheld
    · rintro _ ⟨claimed, _⟩
      cases claimed
  have notPending : bound.state ≠ .pending := by
    rcases state with known | known <;> rw [known] <;> decide
  have notStarted : bound.state ≠ .started := by
    rcases state with known | known <;> rw [known] <;> decide
  have undispatched : message.state ≠ .dispatched := fun dispatched =>
    (isUnresolved_ne unresolved).2 (entry.dispatched dispatched).1
  refine passes_unheld sound has hasBinding entryMoved inert free ?_ fun _ => notPending
  rw [rest.2]
  refine {
    identity := ?_
    startKey := same.1.trans entry.startKey
    workspaceId := ?_
    claimed := ?_
    recorded := ?_
    leased := fun leased => absurd unleased leased
    drawn := ?_
    exclusive := by
      rw [unleased]
      exact fun _ _ => rfl
    dispatched := ?_
    claimable := fun started => absurd started notStarted
    uncancelled := ?_
    startable := fun pending => absurd pending notPending
    deadLettered := fun _ pending => absurd pending notPending }
  · rcases settled with rfl | ⟨_, rfl⟩ <;> exact entry.identity
  · rcases settled with rfl | ⟨_, rfl⟩ <;> exact same.2.1.trans entry.workspaceId
  · rcases settled with rfl | ⟨_, rfl⟩
    · exact entry.claimed
    · exact nofun
  · rw [same.2.2, entry.recorded]
    exact iff_of_false (isUnresolved_ne unresolved).2 notStarted
  · rcases settled with rfl | ⟨_, rfl⟩
    · exact entry.drawn
    · exact nofun
  · rcases settled with rfl | ⟨_, rfl⟩
    · exact fun dispatched => absurd dispatched undispatched
    · exact nofun
  · rcases settled with rfl | ⟨_, rfl⟩
    · exact entry.uncancelled
    · exact nofun

end Settlements

/-- A confirmation settles the held binding, or repeats the one that is started. -/
theorem confirm_cases {rows after : RunOutboxRows}
    {input : SettleOrchestrationReconciliationInput} {orchestrationRunId : String}
    {settlement : OrchestrationReconciliationSettlement}
    (confirmed : rows.confirm input orchestrationRunId = (settlement, after)) :
    after = rows ∨
      (∃ binding, rows.reconciledBinding input = some binding ∧
        after = (rows.setBinding input.messageId { binding with
          state := .started
          orchestrationRunId := some orchestrationRunId
          reconciliationClaim := none
          lastReconciliationError := none }).dispatchUnheld input.workspaceId input.messageId
            orchestrationRunId) ∨
      ∃ binding, rows.bindings input.messageId = some binding ∧ binding.state = .started ∧
        binding.orchestrationRunId = some orchestrationRunId ∧
          after = rows.dispatchUnheld input.workspaceId input.messageId orchestrationRunId := by
  unfold RunOutboxRows.confirm at confirmed
  split at confirmed
  · rename_i binding found
    cases confirmed
    exact .inr (.inl ⟨binding, found, rfl⟩)
  · split at confirmed
    · rename_i binding bound
      split at confirmed
      · rename_i repeated
        simp only [Bool.and_eq_true, beq_iff_eq] at repeated
        cases confirmed
        exact .inr (.inr ⟨binding, bound, repeated.1.1.2, repeated.2, rfl⟩)
      · cases confirmed
        exact .inl rfl
    · cases confirmed
      exact .inl rfl

private theorem isIdle_confirm {input : SettleOrchestrationReconciliationInput}
    {orchestrationRunId : String} :
    IsIdle (askRunDispatch (.confirm input orchestrationRunId)) := by
  refine isIdle_ask fun rows performed answer after sound performs => ?_
  have inert : ∀ messageId, IsInert messageId
      (⟨.confirm input orchestrationRunId, answer⟩ : RunDispatchExchange) := fun _ => ⟨rfl, rfl⟩
  obtain rfl | ⟨settlement, confirmed⟩ : after = rows ∨
      ∃ settlement, rows.confirm input orchestrationRunId = (settlement, after) := by
    cases performs with
    | thrown => exact .inl rfl
    | confirm => exact .inr ⟨_, rfl⟩
  · exact passes_inert sound nofun inert
  rcases confirm_cases confirmed with rfl | ⟨binding, found, rfl⟩ |
    ⟨binding, bound, started, run, rfl⟩
  · exact passes_inert sound nofun inert
  · obtain ⟨bound, workspace, _, leased⟩ := reconciledBinding_some found
    obtain ⟨message, has⟩ := sound.hasMessage bound
    have entry := sound.entry has bound
    rw [RunOutboxRows.dispatchUnheld, updateUnheld_setBinding has
      (entry.workspaceId.symm.trans workspace) (entry.isUnheld leased)]
    exact passes_dispatched sound has bound inert rfl rfl ⟨rfl, rfl⟩ ⟨rfl, rfl⟩ rfl rfl rfl
  · obtain ⟨message, has⟩ := sound.hasMessage bound
    have entry := sound.entry has bound
    have unleased : binding.reconciliationClaim = none := by
      by_contra leased
      exact (isUnresolved_ne (entry.leased leased)).2 started
    rw [RunOutboxRows.dispatchUnheld]
    rcases updateUnheld_cases _ has with same | ⟨_, same⟩
    · rw [same]
      exact passes_inert sound nofun inert
    · rw [same]
      refine passes_dispatched sound has bound inert rfl ?_ ⟨rfl, rfl⟩ ⟨rfl, rfl⟩ started run
        unleased
      rw [← bound, Function.update_eq_self]
      rfl

/-- What releasing a reconciliation can do: a retry later, or the end of the attempts. -/
theorem release_cases {rows after : RunOutboxRows}
    {input : SettleOrchestrationReconciliationInput} {maxAttempts : ℕ} {reason : String}
    {retryDelayMilliseconds : ℕ} {settlement : OrchestrationReconciliationSettlement}
    (released : rows.release input maxAttempts reason retryDelayMilliseconds =
      (settlement, after)) :
    after = rows ∨ ∃ binding state, rows.reconciledBinding input = some binding ∧
      (state = .reconciliationRequired ∨ state = .reconciliationExhausted) ∧
        let moved := rows.setBinding input.messageId { binding with
          state := state
          reconciliationClaim := none
          nextReconciliationAt := rows.clock + retryDelayMilliseconds
          lastReconciliationError := some reason }
        (after = moved ∨ after = moved.updateUnheld input.workspaceId input.messageId
          fun message => { message with
            state := .deadLetter
            claim := none
            lastError := some reason }) := by
  unfold RunOutboxRows.release at released
  split at released
  · rename_i binding found
    cases released
    by_cases exhausted : maxAttempts ≤ binding.reconciliationAttempts
    · refine .inr ⟨binding, .reconciliationExhausted, found, .inr rfl, ?_⟩
      simp only [decide_eq_true exhausted, if_true]
      exact .inr trivial
    · refine .inr ⟨binding, .reconciliationRequired, found, .inl rfl, ?_⟩
      simp only [decide_eq_false exhausted, Bool.false_eq_true, if_false]
      exact .inl trivial
  · cases released
    exact .inl rfl

private theorem isIdle_release {input : SettleOrchestrationReconciliationInput} {maxAttempts : ℕ}
    {reason : String} {retryDelayMilliseconds : ℕ} :
    IsIdle (askRunDispatch (.release input maxAttempts reason retryDelayMilliseconds)) := by
  refine isIdle_ask fun rows performed answer after sound performs => ?_
  have inert : ∀ messageId, IsInert messageId
      (⟨.release input maxAttempts reason retryDelayMilliseconds, answer⟩ : RunDispatchExchange) :=
    fun _ => ⟨rfl, rfl⟩
  obtain rfl | ⟨settlement, released⟩ : after = rows ∨ ∃ settlement,
      rows.release input maxAttempts reason retryDelayMilliseconds = (settlement, after) := by
    cases performs with
    | thrown => exact .inl rfl
    | release => exact .inr ⟨_, rfl⟩
  · exact passes_inert sound nofun inert
  rcases release_cases released with rfl | ⟨binding, state, found, known, moved⟩
  · exact passes_inert sound nofun inert
  obtain ⟨bound, workspace, unresolved, leased⟩ := reconciledBinding_some found
  obtain ⟨message, has⟩ := sound.hasMessage bound
  have entry := sound.entry has bound
  have unheld := entry.isUnheld leased
  rcases moved with rfl | rfl
  · refine passes_released sound has bound inert unresolved unheld ?_ rfl ⟨rfl, rfl⟩ (.inl rfl)
      ⟨rfl, rfl, rfl⟩ known rfl
    rw [← has, Function.update_eq_self]
    rfl
  · rw [updateUnheld_setBinding has (entry.workspaceId.symm.trans workspace) unheld]
    exact passes_released sound has bound inert unresolved unheld rfl rfl ⟨rfl, rfl⟩
      (.inr ⟨reason, rfl⟩) ⟨rfl, rfl, rfl⟩ known rfl

/-! ## The reaper -/

theorem isReaped_some {rows : RunOutboxRows} {adapterKey messageId : String} {maxAttempts : ℕ}
    {selected : List String} {message : RunOutboxMessage} {binding : RunOrchestrationBinding}
    (reaped : rows.isReaped adapterKey maxAttempts selected messageId = true)
    (has : rows.messages messageId = some message)
    (bound : rows.bindings messageId = some binding) : binding.isUnresolved = true := by
  rw [RunOutboxRows.isReaped, has, bound, Bool.and_eq_true, Bool.and_eq_true,
    RunOutboxRows.awaitsReconciliation] at reaped
  simp only [Bool.and_eq_true] at reaped
  exact reaped.2.1.1.1.2

theorem RunEntrySound.reaped {messageId : String} {message : RunOutboxMessage}
    {binding : RunOrchestrationBinding} {clock : Instant} {claimTokens : List String}
    {performed : List RunDispatchExchange}
    (entry : RunEntrySound messageId message binding clock claimTokens performed)
    (unresolved : binding.isUnresolved = true) :
    RunEntrySound messageId { message with
      state := .deadLetter
      claim := none
      lastError := some reconciliationAttemptsExhausted } (RunOutboxRows.exhaust binding) clock
      claimTokens performed where
  identity := entry.identity
  startKey := entry.startKey
  workspaceId := entry.workspaceId
  claimed := nofun
  recorded := by
    have run := not_congr entry.recorded
    exact iff_of_false (run.mpr (isUnresolved_ne unresolved).2) nofun
  leased leased := absurd rfl leased
  drawn := nofun
  exclusive _ _ := rfl
  dispatched := nofun
  claimable := nofun
  uncancelled := nofun
  startable := nofun
  deadLettered := nofun

section Reaped

variable {rows : RunOutboxRows} {adapterKey : String} {maxAttempts : ℕ} {selected : List String}

private theorem reaped_messages (messageId : String) :
    (rows.reapExhaustedForSystem adapterKey maxAttempts selected).2.messages messageId =
      if rows.isReaped adapterKey maxAttempts (selected.take 100) messageId then
        (rows.messages messageId).map fun message => { message with
          state := .deadLetter
          claim := none
          lastError := some reconciliationAttemptsExhausted }
      else rows.messages messageId := rfl

theorem reaped_bindings (messageId : String) :
    (rows.reapExhaustedForSystem adapterKey maxAttempts selected).2.bindings messageId =
      if rows.isReaped adapterKey maxAttempts (selected.take 100) messageId then
        (rows.bindings messageId).map RunOutboxRows.exhaust
      else rows.bindings messageId := rfl

end Reaped

private theorem isIdle_reapExhaustedForSystem {adapterKey : String} {maxAttempts : ℕ} :
    IsIdle (askRunDispatch (.reapExhaustedForSystem adapterKey maxAttempts)) := by
  refine isIdle_ask fun rows performed answer after sound performs => ?_
  have inert : ∀ messageId, IsInert messageId
      (⟨.reapExhaustedForSystem adapterKey maxAttempts, answer⟩ : RunDispatchExchange) :=
    fun _ => ⟨rfl, rfl⟩
  obtain rfl | ⟨selected, rfl⟩ : after = rows ∨ ∃ selected,
      after = (rows.reapExhaustedForSystem adapterKey maxAttempts selected).2 := by
    cases performs with
    | thrown => exact .inl rfl
    | reapExhaustedForSystem selected => exact .inr ⟨selected, rfl⟩
  · exact passes_inert sound nofun inert
  have still := @passes_inert rows performed _ none sound nofun inert
  refine ⟨⟨fun messageId => ?_, still.sound.warranted⟩, nofun, fun other _ keeps => ⟨nofun, ?_⟩⟩
  · rcases still.sound.entries messageId with ⟨noMessage, noBinding, startable⟩ |
      ⟨message, binding, has, bound, entry⟩
    · refine .inl ⟨?_, ?_, startable⟩
      · rw [reaped_messages, noMessage, Option.map_none, ite_self]
      · rw [reaped_bindings, noBinding, Option.map_none, ite_self]
    · by_cases reaped : rows.isReaped adapterKey maxAttempts (selected.take 100) messageId = true
      · refine .inr ⟨_, _, ?_, ?_, entry.reaped (isReaped_some reaped has bound)⟩
        · rw [reaped_messages, if_pos reaped, has, Option.map_some]
        · rw [reaped_bindings, if_pos reaped, bound, Option.map_some]
      · refine .inr ⟨message, binding, (if_neg reaped).trans has, (if_neg reaped).trans bound,
          entry⟩
  · intro kept isKept
    refine (keeps kept isKept).transfer (List.Subset.refl _) (List.subset_append_left _ _) ?_ ?_
    · intro message binding has bound isHeld
      rw [reaped_messages] at has
      rw [reaped_bindings] at bound
      split at has
      · obtain ⟨known, _, rfl⟩ := Option.map_eq_some_iff.mp has
        cases isHeld.1
      · rename_i untouched
        rw [if_neg untouched] at bound
        exact ⟨message, binding, has, bound, isHeld, rfl⟩
    · intro _ bound hasBound notPending
      refine ⟨?_, (inert _).startStatus _⟩
      rw [reaped_bindings, hasBound]
      split
      · exact ⟨_, rfl, nofun⟩
      · exact ⟨bound, rfl, notPending⟩

private theorem isIdle_findRunByStartKey {request : StartRunRequest} :
    IsIdle (askRunDispatch (.findRunByStartKey request)) := by
  refine isIdle_ask fun rows performed answer after sound performs => ?_
  have unmoved : after = rows := by
    cases performs <;> rfl
  subst unmoved
  exact passes_inert sound nofun fun _ => ⟨rfl, rfl⟩

/-! ## The reconciler -/

section Reconciler

variable {dependencies : ReconcileRunOrchestrationsDependencies}
  {claim : OrchestrationReconciliationClaim}

private theorem isIdle_releaseClaim {reason : UnresolvedReason} :
    IsIdle (releaseClaim dependencies claim reason) := by
  refine isIdle_release.bind fun answer => isIdle_orThrow fun settlement => ?_
  cases settlement <;> exact isIdle_pure

private theorem isIdle_reconcileClaim : IsIdle (reconcileClaim dependencies claim) := by
  unfold reconcileClaim
  split
  · exact isIdle_pure
  refine isIdle_findRunByStartKey.bind fun answer => ?_
  cases answer with
  | none => exact isIdle_releaseClaim
  | some outcome =>
      cases outcome with
      | notFound => exact isIdle_releaseClaim
      | outcomeUnknown reason => exact isIdle_releaseClaim
      | found orchestrationRunId =>
          change IsIdle (if _ then _ else _)
          split
          · exact isIdle_releaseClaim
          · refine isIdle_confirm.bind fun answer => isIdle_orThrow fun settlement => ?_
            cases settlement <;> exact isIdle_pure

private theorem isIdle_reconcileBatch (remaining : ℕ) (result : ReconcileRunOrchestrationsResult) :
    IsIdle (reconcileBatch dependencies remaining result) := by
  induction remaining generalizing result with
  | zero => exact isIdle_pure
  | succ remaining ih =>
      refine isIdle_claimNextForSystem.bind fun claimed => isIdle_orThrow fun known => ?_
      cases known with
      | none => exact isIdle_pure
      | some claim =>
          refine isIdle_reconcileClaim.bind fun outcome => ?_
          cases outcome with
          | error exception => exact isIdle_pure
          | ok item =>
              cases item with
              | confirmed orchestrationRunId runId => exact ih _
              | unresolved reason runId =>
                  cases reason with
                  | claimLost => exact isIdle_pure
                  | invalidRunId => exact ih _
                  | lookupFailed => exact ih _
                  | notFound => exact ih _
                  | outcomeUnknown => exact ih _

/-- **A reconciler leaves every custody alone.** -/
theorem isIdle_reconcileRunOrchestrations :
    IsIdle (reconcileRunOrchestrations dependencies) := by
  refine isIdle_reapExhaustedForSystem.bind fun reaped => isIdle_orThrow fun _ => ?_
  exact isIdle_reconcileBatch _ _

end Reconciler

end Kurobara.Application
