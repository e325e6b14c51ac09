import Kurobara.Application.RunDispatchPool

/-! # What a dispatcher holds

While its lease lives, a dispatcher knows the state of the binding of its message, as every
operation of others that could move the binding needs a lease of its own. From when a
dispatcher marked a binding as starting until it resets it, no other dispatcher can start
the Run. These holdings are a custody of the recorded rows, and every dispatcher and every
reconciler keeps it.
-/

namespace Kurobara.Application

open Kernel Persistence Foundation

/-! ## The status of a start -/

/-- What the starts and resets so far mean for the next start. -/
inductive RunStartStatus where
  | startable
  | started (rejected : Bool)
  deriving DecidableEq, Repr

/-- How one exchange with the engine or the store changes what is known of a message's start. -/
def nextStartStatus (messageId : String) (status : RunStartStatus)
    (exchange : RunDispatchExchange) : RunStartStatus :=
  if startsRun messageId exchange then .started (rejectsRun messageId exchange)
  else if resetsRun messageId exchange then .startable
  else status

/-- What the exchanges performed so far say of a message's start. -/
def startStatus (messageId : String) (performed : List RunDispatchExchange) : RunStartStatus :=
  performed.foldl (nextStartStatus messageId) .startable

/-- The status after one more exchange. -/
theorem startStatus_append (messageId : String) (performed : List RunDispatchExchange)
    (exchange : RunDispatchExchange) :
    startStatus messageId (performed ++ [exchange]) =
      nextStartStatus messageId (startStatus messageId performed) exchange := by
  rw [startStatus, List.foldl_append]
  rfl

/-- An exchange that neither starts nor resets the Run of a message. -/
def IsInert (messageId : String) (exchange : RunDispatchExchange) : Prop :=
  startsRun messageId exchange = false ∧ resetsRun messageId exchange = false

theorem IsInert.startStatus {messageId : String} {exchange : RunDispatchExchange}
    (inert : IsInert messageId exchange) (performed : List RunDispatchExchange) :
    startStatus messageId (performed ++ [exchange]) = startStatus messageId performed := by
  rw [startStatus_append, nextStartStatus, inert.1, inert.2]
  rfl

/-- A Run is started only when startable, and reset only after a definite rejection. -/
def StartsAreWarranted (performed : List RunDispatchExchange) : Prop :=
  ∀ messageId earlier exchange later, performed = earlier ++ exchange :: later →
    (startsRun messageId exchange = true → startStatus messageId earlier = .startable) ∧
      (resetsRun messageId exchange = true → startStatus messageId earlier = .started true)

theorem StartsAreWarranted.append {performed : List RunDispatchExchange}
    (warranted : StartsAreWarranted performed) {exchange : RunDispatchExchange}
    (starts : ∀ messageId, startsRun messageId exchange = true →
      startStatus messageId performed = .startable)
    (resets : ∀ messageId, resetsRun messageId exchange = true →
      startStatus messageId performed = .started true) :
    StartsAreWarranted (performed ++ [exchange]) := by
  intro messageId earlier known later split
  rcases List.eq_nil_or_concat later with rfl | ⟨others, last, rfl⟩
  · obtain ⟨rfl, same⟩ := List.append_inj' split rfl
    cases same
    exact ⟨starts messageId, resets messageId⟩
  · rw [List.concat_eq_append, ← List.cons_append, ← List.append_assoc] at split
    obtain ⟨rfl, _⟩ := List.append_inj' split rfl
    exact warranted messageId earlier known others rfl

theorem StartsAreWarranted.append_inert {performed : List RunDispatchExchange}
    (warranted : StartsAreWarranted performed) {exchange : RunDispatchExchange}
    (inert : ∀ messageId, IsInert messageId exchange) :
    StartsAreWarranted (performed ++ [exchange]) := by
  refine warranted.append (fun messageId starts => ?_) fun messageId resets => ?_
  · rw [(inert messageId).1] at starts
    cases starts
  · rw [(inert messageId).2] at resets
    cases resets

/-! ## Sound rows -/

/-- The Run of this message was definitely rejected before. -/
def WasRejected (messageId : String) (performed : List RunDispatchExchange) : Prop :=
  ∃ exchange ∈ performed, rejectsRun messageId exchange = true

/-- A message and its binding. -/
structure RunEntrySound (messageId : String) (message : RunOutboxMessage)
    (binding : RunOrchestrationBinding) (clock : Instant) (claimTokens : List String)
    (performed : List RunDispatchExchange) : Prop where
  identity : message.messageId = messageId
  startKey : binding.startKey = messageId
  workspaceId : binding.workspaceId = message.workspaceId
  claimed : message.state = .claimed → message.claim ≠ none
  recorded : binding.orchestrationRunId.isSome = true ↔ binding.state = .started
  leased : binding.reconciliationClaim ≠ none → binding.isUnresolved = true
  drawn : ∀ lease, message.claim = some lease → lease.claimToken ∈ claimTokens
  exclusive : ∀ claimToken, IsHeld message claimToken clock →
    isReleased binding.reconciliationClaim clock = true
  dispatched : message.state = .dispatched →
    binding.state = .started ∧ message.orchestrationRunId = binding.orchestrationRunId
  claimable : binding.state = .started → message.state ≠ .deadLetter
  uncancelled : message.state ≠ .cancelled
  startable : binding.state = .pending → startStatus messageId performed = .startable
  deadLettered : message.state = .deadLetter → binding.state = .pending →
    WasRejected messageId performed

/-- The rows with every exchange performed on them. -/
abbrev RecordedRuns := RunOutboxRows × List RunDispatchExchange

/-- Every entry of the outbox is accounted for by the exchanges performed. -/
structure RunDispatchSound (recorded : RecordedRuns) : Prop where
  entries : ∀ messageId,
    (recorded.1.messages messageId = none ∧ recorded.1.bindings messageId = none ∧
        startStatus messageId recorded.2 = .startable) ∨
      ∃ message binding, recorded.1.messages messageId = some message ∧
        recorded.1.bindings messageId = some binding ∧ RunEntrySound messageId message binding
          recorded.1.clock recorded.1.claimTokens recorded.2
  warranted : StartsAreWarranted recorded.2

theorem WasRejected.mono {messageId : String} {performed more : List RunDispatchExchange}
    (rejected : WasRejected messageId performed) (grown : performed ⊆ more) :
    WasRejected messageId more := by
  obtain ⟨exchange, member, rejects⟩ := rejected
  exact ⟨exchange, grown member, rejects⟩

/-- An untouched entry stays sound while time passes and other exchanges are performed. -/
theorem RunEntrySound.mono {messageId : String} {message : RunOutboxMessage}
    {binding : RunOrchestrationBinding} {clock later : Instant} {claimTokens more : List String}
    {performed grown : List RunDispatchExchange}
    (sound : RunEntrySound messageId message binding clock claimTokens performed)
    (passed : clock ≤ later) (drawn : claimTokens ⊆ more)
    (status : startStatus messageId grown = startStatus messageId performed)
    (included : performed ⊆ grown) :
    RunEntrySound messageId message binding later more grown where
  identity := sound.identity
  startKey := sound.startKey
  workspaceId := sound.workspaceId
  claimed := sound.claimed
  recorded := sound.recorded
  leased := sound.leased
  drawn lease known := drawn (sound.drawn lease known)
  exclusive claimToken held :=
    isReleased_later (sound.exclusive claimToken (held.earlier passed)) passed
  dispatched := sound.dispatched
  claimable := sound.claimable
  uncancelled := sound.uncancelled
  startable pending := status.trans (sound.startable pending)
  deadLettered dead pending := (sound.deadLettered dead pending).mono included

/-- Only the entry of one message moves, under at most one new token and one exchange. -/
structure EntryMoved (messageId : String) (message : RunOutboxMessage)
    (binding : RunOrchestrationBinding) (exchange : RunDispatchExchange)
    (before after : RecordedRuns) : Prop where
  messages : after.1.messages = Function.update before.1.messages messageId (some message)
  bindings : after.1.bindings = Function.update before.1.bindings messageId (some binding)
  clock : after.1.clock = before.1.clock
  tokens : before.1.claimTokens ⊆ after.1.claimTokens
  performed : after.2 = before.2 ++ [exchange]
  inert : ∀ other, other ≠ messageId → IsInert other exchange

/-- An entry that moved by one exchange is accounted for again. -/
theorem EntryMoved.sound {messageId : String} {message : RunOutboxMessage}
    {binding : RunOrchestrationBinding} {exchange : RunDispatchExchange}
    {before after : RecordedRuns}
    (moved : EntryMoved messageId message binding exchange before after)
    (sound : RunDispatchSound before)
    (entry : RunEntrySound messageId message binding before.1.clock after.1.claimTokens after.2)
    (starts : startsRun messageId exchange = true → startStatus messageId before.2 = .startable)
    (resets : resetsRun messageId exchange = true →
      startStatus messageId before.2 = .started true) : RunDispatchSound after where
  entries other := by
    rw [moved.messages, moved.bindings, moved.clock]
    by_cases here : other = messageId
    · subst here
      rw [Function.update_self, Function.update_self]
      exact .inr ⟨message, binding, rfl, rfl, entry⟩
    · rw [Function.update_of_ne here, Function.update_of_ne here]
      rcases sound.entries other with ⟨noMessage, noBinding, startable⟩ |
        ⟨known, bound, hasMessage, hasBinding, entrySound⟩
      · refine .inl ⟨noMessage, noBinding, ?_⟩
        rw [moved.performed, (moved.inert other here).startStatus, startable]
      · refine .inr ⟨known, bound, hasMessage, hasBinding,
          entrySound.mono le_rfl moved.tokens ?_ ?_⟩
        · rw [moved.performed, (moved.inert other here).startStatus]
        · rw [moved.performed]
          exact List.subset_append_left _ _
  warranted := by
    rw [moved.performed]
    refine sound.warranted.append (fun other => ?_) fun other => ?_
    · by_cases here : other = messageId
      · subst here
        exact starts
      · intro here'
        rw [(moved.inert other here).1] at here'
        cases here'
    · by_cases here : other = messageId
      · subst here
        exact resets
      · intro here'
        rw [(moved.inert other here).2] at here'
        cases here'

/-! ## Holdings -/

/-- What a dispatcher holds of its message: its lease with what the binding may be, the
start that it may perform or has to reset, and whether the Run was rejected. -/
structure HeldRun where
  messageId : String
  claimToken : String
  mayBe : RunOrchestrationBindingState → Prop
  start : Option RunStartStatus
  rejected : Bool

namespace HeldRun

/-- The claim of a process is its own, and what it holds of the message is true. -/
structure Holds (held : HeldRun) (recorded : RecordedRuns) : Prop where
  drawn : held.claimToken ∈ recorded.1.claimTokens
  state : ∀ message binding, recorded.1.messages held.messageId = some message →
    recorded.1.bindings held.messageId = some binding →
      IsHeld message held.claimToken recorded.1.clock → held.mayBe binding.state
  start : ∀ status, held.start = some status →
    ∃ binding, recorded.1.bindings held.messageId = some binding ∧ binding.state ≠ .pending ∧
      startStatus held.messageId recorded.2 = status
  rejected : held.rejected = true → WasRejected held.messageId recorded.2

/-- No two dispatchers share a token, or the start of a Run. -/
def Apart (one other : HeldRun) : Prop :=
  one.claimToken ≠ other.claimToken ∧
    (one.messageId = other.messageId → one.start = none ∨ other.start = none)

theorem Apart.symm {one other : HeldRun} (apart : one.Apart other) : other.Apart one :=
  ⟨apart.1.symm, fun same => (apart.2 same.symm).symm⟩

/-- A holding survives a step that leaves it the state of its binding, its tokens and its
start. -/
theorem Holds.transfer {held : HeldRun} {before after : RecordedRuns} (holds : held.Holds before)
    (tokens : before.1.claimTokens ⊆ after.1.claimTokens) (grown : before.2 ⊆ after.2)
    (state : ∀ message binding, after.1.messages held.messageId = some message →
      after.1.bindings held.messageId = some binding →
        IsHeld message held.claimToken after.1.clock →
          ∃ known bound, before.1.messages held.messageId = some known ∧
            before.1.bindings held.messageId = some bound ∧
              IsHeld known held.claimToken before.1.clock ∧ binding.state = bound.state)
    (start : held.start ≠ none → ∀ bound, before.1.bindings held.messageId = some bound →
      bound.state ≠ .pending → (∃ binding, after.1.bindings held.messageId = some binding ∧
        binding.state ≠ .pending) ∧
          startStatus held.messageId after.2 = startStatus held.messageId before.2) :
    held.Holds after where
  drawn := tokens holds.drawn
  state message binding hasMessage hasBinding isHeld := by
    obtain ⟨known, bound, hasKnown, hasBound, heldBefore, same⟩ :=
      state message binding hasMessage hasBinding isHeld
    rw [same]
    exact holds.state known bound hasKnown hasBound heldBefore
  start status known := by
    obtain ⟨bound, hasBound, moved, same⟩ := holds.start status known
    obtain ⟨⟨binding, hasBinding, still⟩, kept⟩ :=
      start (by rw [known]; exact Option.some_ne_none status) bound hasBound moved
    exact ⟨binding, hasBinding, still, kept.trans same⟩
  rejected known := (holds.rejected known).mono grown

/-- What the move of one entry must leave to a holding of its message. -/
theorem Holds.moved {held : HeldRun} {messageId : String} {message : RunOutboxMessage}
    {binding : RunOrchestrationBinding} {exchange : RunDispatchExchange}
    {before after : RecordedRuns} (holds : held.Holds before)
    (moved : EntryMoved messageId message binding exchange before after)
    (state : held.messageId = messageId → IsHeld message held.claimToken before.1.clock →
      ∃ known bound, before.1.messages messageId = some known ∧
        before.1.bindings messageId = some bound ∧
          IsHeld known held.claimToken before.1.clock ∧ binding.state = bound.state)
    (start : held.messageId = messageId → held.start ≠ none →
      ∀ bound, before.1.bindings messageId = some bound → bound.state ≠ .pending →
        binding.state ≠ .pending ∧ IsInert messageId exchange) :
    held.Holds after := by
  have grown : before.2 ⊆ after.2 := by
    rw [moved.performed]
    exact List.subset_append_left _ _
  by_cases here : held.messageId = messageId
  · refine holds.transfer moved.tokens grown ?_ ?_
    · rw [moved.messages, moved.bindings, moved.clock, here, Function.update_self,
        Function.update_self]
      intro known bound sameMessage sameBinding isHeld
      cases sameMessage
      cases sameBinding
      exact state here isHeld
    · rw [moved.bindings, moved.performed, here, Function.update_self]
      intro known bound hasBound notPending
      obtain ⟨still, inert⟩ := start here known bound hasBound notPending
      exact ⟨⟨binding, rfl, still⟩, inert.startStatus _⟩
  · refine holds.transfer moved.tokens grown ?_ ?_
    · rw [moved.messages, moved.bindings, moved.clock, Function.update_of_ne here,
        Function.update_of_ne here]
      intro known bound hasMessage hasBinding isHeld
      exact ⟨known, bound, hasMessage, hasBinding, isHeld, rfl⟩
    · rw [moved.bindings, moved.performed, Function.update_of_ne here]
      intro _ bound hasBound notPending
      exact ⟨⟨bound, hasBound, notPending⟩, (moved.inert _ here).startStatus _⟩

end HeldRun

/-! ## The custody -/

private theorem runDispatch_disturbed {before after : RecordedRuns} {label : RunDispatchDisturbance}
    (sound : RunDispatchSound before)
    (disturbs : (recorded runDispatchEnvironment).disturb before label after) :
    RunDispatchSound after ∧ ∀ held : HeldRun, held.Holds before → held.Holds after := by
  obtain ⟨disturbed, same⟩ := disturbs
  rcases before with ⟨rows, performed⟩
  rcases after with ⟨later, grown⟩
  cases same
  cases disturbed with
  | timePassed passed =>
      refine ⟨⟨fun messageId => ?_, sound.warranted⟩, fun held holds => ?_⟩
      · rcases sound.entries messageId with absent | ⟨message, binding, has, bound, entry⟩
        · exact .inl absent
        · exact .inr ⟨message, binding, has, bound,
            entry.mono passed (List.Subset.refl _) rfl (List.Subset.refl _)⟩
      · refine holds.transfer (List.Subset.refl _) (List.Subset.refl _) ?_ ?_
        · intro message binding has bound isHeld
          exact ⟨message, binding, has, bound, isHeld.earlier passed, rfl⟩
        · intro _ bound has notPending
          exact ⟨⟨bound, has, notPending⟩, rfl⟩
  | @created message after appended =>
      unfold RunOutboxRows.append at appended
      split at appended
      · cases appended
      split at appended
      · cases appended
      rename_i unknown
      cases appended
      simp only [Bool.or_eq_true, not_or, Bool.not_eq_true, Option.isSome_eq_false_iff,
        Option.isNone_iff_eq_none] at unknown
      obtain ⟨noMessage, noBinding⟩ := unknown
      have startable : startStatus message.messageId performed = .startable := by
        rcases sound.entries message.messageId with ⟨_, _, startable⟩ | ⟨known, _, has, _⟩
        · exact startable
        · rw [noMessage] at has
          cases has
      refine ⟨⟨fun messageId => ?_, sound.warranted⟩, fun held holds => ?_⟩
      · by_cases here : messageId = message.messageId
        · subst here
          refine .inr ⟨_, _, Function.update_self .., Function.update_self .., ?_⟩
          exact {
            identity := rfl
            startKey := rfl
            workspaceId := rfl
            claimed := by simp
            recorded := by simp
            leased := by simp
            drawn := by simp
            exclusive := by simp [isReleased]
            dispatched := by simp
            claimable := by simp
            uncancelled := by simp
            startable := fun _ => startable
            deadLettered := by simp }
        · simp only [RunOutboxRows.setMessage, Function.update_of_ne here]
          exact sound.entries messageId
      · by_cases here : held.messageId = message.messageId
        · refine holds.transfer (List.Subset.refl _) (List.Subset.refl _) ?_ ?_
          · intro known bound has _ isHeld
            simp only [RunOutboxRows.setMessage, here, Function.update_self] at has
            cases has
            cases isHeld.1
          · intro _ bound has
            change rows.bindings held.messageId = some bound at has
            rw [here, noBinding] at has
            cases has
        · refine holds.transfer (List.Subset.refl _) (List.Subset.refl _) ?_ ?_
          · simp only [RunOutboxRows.setMessage, Function.update_of_ne here]
            intro known bound has hasBinding isHeld
            exact ⟨known, bound, has, hasBinding, isHeld, rfl⟩
          · simp only [RunOutboxRows.setMessage, Function.update_of_ne here]
            intro _ bound has notPending
            exact ⟨⟨bound, has, notPending⟩, trivial⟩

/-- The custody of a run message: a process holds it from claim to release, and no two hold it at
once. -/
def runDispatchCustody : Custody (recorded runDispatchEnvironment) where
  Holding := Option HeldRun
  nothing := none
  sound := RunDispatchSound
  holds holding state := ∀ held, holding = some held → held.Holds state
  apart one other := ∀ held kept, one = some held → other = some kept → held.Apart kept
  symmetric apart held kept isHeld isKept := (apart kept held isKept isHeld).symm
  initially state start := by
    obtain ⟨⟨noMessages, noBindings⟩, empty⟩ := start
    rcases state with ⟨rows, performed⟩
    cases empty
    refine ⟨fun messageId => .inl ⟨noMessages messageId, noBindings messageId, rfl⟩, ?_⟩
    intro messageId earlier exchange later split
    simp at split
  holds_nothing _ _ _ none := nomatch none
  nothing_apart _ _ _ none := nomatch none
  disturbed before label after sound disturbs := by
    obtain ⟨still, keeps⟩ := runDispatch_disturbed sound disturbs
    exact ⟨still, fun holding holds held isHeld => keeps held (holds held isHeld)⟩

/-! ## Operations of a dispatcher -/

section Dispatcher

variable {rows after : RunOutboxRows} {performed : List RunDispatchExchange}
  {held next : HeldRun} {exchange : RunDispatchExchange} {message moved : RunOutboxMessage}
  {binding bound : RunOrchestrationBinding}

/-- A dispatcher moves the entry of its message from `message` and `binding` to `moved` and
`bound`, and passes to what it holds of that. -/
structure DispatcherMove (rows after : RunOutboxRows) (performed : List RunDispatchExchange)
    (exchange : RunDispatchExchange) (held next : HeldRun) (message moved : RunOutboxMessage)
    (binding bound : RunOrchestrationBinding) : Prop where
  has : rows.messages held.messageId = some message
  hasBinding : rows.bindings held.messageId = some binding
  messages : after.messages = Function.update rows.messages held.messageId (some moved)
  bindings : after.bindings = Function.update rows.bindings held.messageId (some bound)
  clock : after.clock = rows.clock
  tokens : after.claimTokens = rows.claimTokens
  inert : ∀ other, other ≠ held.messageId → IsInert other exchange
  /-- Another lease on the message, if there is one, is left alone. -/
  lease : ∀ claimToken, IsHeld moved claimToken rows.clock → claimToken = held.claimToken ∨
    IsHeld message claimToken rows.clock ∧ bound.state = binding.state
  /-- Without the start, a start of others is left alone. -/
  starts : held.start = none → binding.state ≠ .pending →
    bound.state ≠ .pending ∧ IsInert held.messageId exchange ∧ next.start = none
  same : next.messageId = held.messageId ∧ next.claimToken = held.claimToken
  mayBe : IsHeld moved held.claimToken rows.clock → next.mayBe bound.state
  start : ∀ status, next.start = some status → bound.state ≠ .pending ∧
    startStatus held.messageId (performed ++ [exchange]) = status
  rejected : next.rejected = true → WasRejected held.messageId (performed ++ [exchange])
  startsRun : startsRun held.messageId exchange = true →
    startStatus held.messageId performed = .startable
  resetsRun : resetsRun held.messageId exchange = true →
    startStatus held.messageId performed = .started true

theorem DispatcherMove.passes
    (move : DispatcherMove rows after performed exchange held next message moved binding bound)
    (sound : RunDispatchSound (rows, performed)) (holds : held.Holds (rows, performed))
    (entry : RunEntrySound held.messageId moved bound rows.clock rows.claimTokens
      (performed ++ [exchange])) :
    runDispatchCustody.Passes (some held) (some next) (rows, performed)
      (after, performed ++ [exchange]) := by
  have entryMoved : EntryMoved held.messageId moved bound exchange (rows, performed)
      (after, performed ++ [exchange]) :=
    ⟨move.messages, move.bindings, move.clock, by rw [move.tokens]; exact List.Subset.refl _, rfl,
      move.inert⟩
  refine ⟨entryMoved.sound sound (by rw [move.tokens]; exact entry) move.startsRun move.resetsRun,
    ?_, ?_⟩
  · rintro _ ⟨⟩
    refine ⟨?_, ?_, ?_, ?_⟩
    · rw [move.same.2, move.tokens]
      exact holds.drawn
    · rw [move.same.1, move.same.2, move.messages, move.bindings, move.clock, Function.update_self,
        Function.update_self]
      rintro _ _ ⟨⟩ ⟨⟩ isHeld
      exact move.mayBe isHeld
    · intro status known
      obtain ⟨notPending, reached⟩ := move.start status known
      rw [move.same.1, move.bindings, Function.update_self]
      exact ⟨bound, rfl, notPending, reached⟩
    · rw [move.same.1]
      exact move.rejected
  · intro other apart keeps
    -- A start that another dispatcher has excludes a pending binding and a start of ours.
    have others : ∀ kept : HeldRun, other = some kept → kept.messageId = held.messageId →
        kept.start ≠ none → held.start = none ∧ binding.state ≠ .pending := by
      intro kept isKept here starts
      have free := (apart held kept rfl isKept).2 here.symm
      obtain ⟨status, known⟩ := Option.ne_none_iff_exists'.mp starts
      obtain ⟨state, hasState, notPending, _⟩ := (keeps kept isKept).start status known
      rw [here, move.hasBinding] at hasState
      cases hasState
      exact ⟨free.resolve_right starts, notPending⟩
    refine ⟨?_, ?_⟩
    · rintro _ kept ⟨⟩ isKept
      rw [HeldRun.Apart, move.same.1, move.same.2]
      refine ⟨(apart held kept rfl isKept).1, fun here => ?_⟩
      by_cases starts : kept.start = none
      · exact .inr starts
      · obtain ⟨free, notPending⟩ := others kept isKept here.symm starts
        exact .inl (move.starts free notPending).2.2
    · intro kept isKept
      refine (keeps kept isKept).moved entryMoved ?_ ?_
      · intro here isHeld
        rcases move.lease _ isHeld with same | ⟨heldBefore, kept⟩
        · exact absurd same.symm (apart held kept rfl isKept).1
        · exact ⟨message, binding, move.has, move.hasBinding, heldBefore, kept⟩
      · intro here starts known hasKnown _
        obtain ⟨free, notPending⟩ := others kept isKept here starts
        exact ⟨(move.starts free notPending).1, (move.starts free notPending).2.1⟩

end Dispatcher

end Kurobara.Application
