import Kurobara.Kernel.Step.Invariant

/-! # The effect threshold of an attempt

An attempt leaves its claim once: by starting its effect, by being recorded as not
started, or by being cancelled before its effect. A step never takes a new attempt
while an earlier one is open.
-/

namespace Kurobara.Kernel

/-- The commands that move an attempt out of its claim. -/
def leavesClaim : StepCommandType → Bool
  | .startAttemptEffect | .recordAttemptNotStarted | .cancelAttemptBeforeEffect => true
  | _ => false

/-- The commands that close an attempt before its effect. -/
def closesBeforeEffect : StepCommandType → Bool
  | .recordAttemptNotStarted | .cancelAttemptBeforeEffect => true
  | _ => false

theorem leavesClaim_of_closesBeforeEffect {type : StepCommandType}
    (closes : closesBeforeEffect type = true) : leavesClaim type = true := by
  cases type <;> first | rfl | cases closes

/-- The attempt was claimed once and is no longer. -/
def LeftClaim (attemptId : AttemptId) (stepRun : StepRun) : Prop :=
  ∃ attempt ∈ stepRun.attempts, attempt.attemptId = attemptId ∧ attempt.state ≠ .claimed

private theorem AttemptMove.not_claimed {type : StepCommandType} {before after : AttemptState}
    {state : StepRunState} (move : AttemptMove type before after state) : after ≠ .claimed := by
  cases move <;> exact AttemptState.noConfusion

private theorem AttemptMove.claimed_of_leavesClaim {type : StepCommandType}
    {before after : AttemptState}
    {state : StepRunState} (move : AttemptMove type before after state)
    (leaves : leavesClaim type = true) : before = .claimed := by
  cases move <;> first | rfl | cases leaves

theorem mem_replaceAttempt {stepRun : StepRun} {attempt replacement : Attempt}
    (member : attempt ∈ stepRun.attempts) (identity : replacement.attemptId = attempt.attemptId) :
    replacement ∈ replaceAttempt stepRun replacement :=
  List.mem_map.mpr ⟨attempt, member, if_pos (beq_iff_eq.mpr identity.symm)⟩

/-- A planned command never returns an attempt to its claim. -/
theorem LeftClaim.planned {stepRun : StepRun} {command : StepCommand}
    {plan : StepTransitionPlan} {attemptId : AttemptId} (left : LeftClaim attemptId stepRun)
    (move : StepMove stepRun command plan) (context : StepCommandContext) :
    LeftClaim attemptId (freshTransition stepRun plan context).stepRun := by
  obtain ⟨known, member, identity, state⟩ := left
  cases move with
  | claimed preparation attempt =>
      exact ⟨known, List.mem_append_left _ member, identity, state⟩
  | moved attempt replacement details command stepState attemptMember active opened target same
      number operationKey reservation effect move =>
      by_cases replaced : known.attemptId = replacement.attemptId
      · exact ⟨replacement, mem_replaceAttempt attemptMember same, replaced.symm.trans identity,
          move.not_claimed⟩
      · exact ⟨known, List.mem_map.mpr ⟨known, member, if_neg (by simpa using replaced)⟩, identity,
          state⟩
  | parked => exact ⟨known, member, identity, state⟩

/-- A command that moves its attempt out of the claim finds it claimed. -/
theorem StepMove.leftClaim {stepRun : StepRun} {command : StepCommand} {plan : StepTransitionPlan}
    {attemptId : AttemptId} (move : StepMove stepRun command plan)
    (invariant : StepRunInvariant stepRun) (context : StepCommandContext)
    (leaves : leavesClaim command.type = true) (target : command.target = some attemptId) :
    ¬ LeftClaim attemptId stepRun ∧
      LeftClaim attemptId (freshTransition stepRun plan context).stepRun := by
  cases move with
  | claimed preparation attempt => cases leaves
  | moved attempt replacement details command stepState member active opened named identity
      number operationKey reservation effect move =>
      have same : attempt.attemptId = attemptId := Option.some.inj (named.symm.trans target)
      have claimed := move.claimed_of_leavesClaim leaves
      refine ⟨?_, replacement, mem_replaceAttempt member identity, identity.trans same,
        move.not_claimed⟩
      rintro ⟨known, knownMember, knownIdentity, state⟩
      have equal : known = attempt := List.inj_on_of_nodup_map invariant.distinct knownMember member
        (knownIdentity.trans same.symm)
      exact state (equal ▸ claimed)
  | parked details command state inactive before after kind =>
      rcases kind with rejected | authorized
      · rw [rejected] at leaves
        cases leaves
      · rw [authorized] at leaves
        cases leaves

/-- An accepted command keeps every attempt that left its claim out of it. -/
theorem LeftClaim.apply {stepRun : StepRun} {command : StepCommand} {context : StepCommandContext}
    {transition : StepTransition} {attemptId : AttemptId} (left : LeftClaim attemptId stepRun)
    (accepted : applyStepCommand stepRun command context = .ok transition) :
    LeftClaim attemptId transition.stepRun := by
  rcases applyStepCommand_ok accepted with ⟨rfl, _⟩ | ⟨_, _, planned, plannedEq, _, rfl⟩
  · exact left
  · exact left.planned (planTransition_move plannedEq) context

/-- A fresh command that leaves the claim takes an attempt that has not left it. -/
theorem leftClaim_of_fresh {stepRun : StepRun} {command : StepCommand}
    {context : StepCommandContext} {transition : StepTransition} {attemptId : AttemptId}
    (invariant : StepRunInvariant stepRun)
    (accepted : applyStepCommand stepRun command context = .ok transition)
    (fresh : transition.replayed = false) (leaves : leavesClaim command.type = true)
    (target : command.target = some attemptId) :
    ¬ LeftClaim attemptId stepRun ∧ LeftClaim attemptId transition.stepRun := by
  rcases applyStepCommand_ok accepted with ⟨rfl, _⟩ | ⟨_, _, planned, plannedEq, _, rfl⟩
  · cases fresh
  · exact (planTransition_move plannedEq).leftClaim invariant context leaves target

/-- A new attempt is claimed only when every earlier attempt is terminal. -/
theorem terminal_of_claimed {stepRun : StepRun} {preparation : AttemptPreparation}
    {context : StepCommandContext} {transition : StepTransition}
    (invariant : StepRunInvariant stepRun)
    (accepted : applyStepCommand stepRun (.claimStepAttempt preparation) context = .ok transition)
    (fresh : transition.replayed = false) :
    ∀ attempt ∈ stepRun.attempts, attemptIsTerminal attempt.state = true := by
  rcases applyStepCommand_ok accepted with ⟨rfl, _⟩ | ⟨_, _, planned, plannedEq, _, rfl⟩
  · cases fresh
  · have inactive : stepRun.activeAttemptId = none := by
      cases planTransition_move plannedEq with
      | claimed preparation attempt details ready inactive => exact inactive
      | moved attempt replacement details command state member active stepState target =>
          cases target
      | parked details command state inactive => exact inactive
    rcases invariant.activity with ⟨_, _, _, closed⟩ | ⟨_, _, _, active, _⟩
    · exact closed
    · rw [inactive] at active
      cases active

/-! ## Attempts whose effect may have happened -/

/-- The attempt is in flight or ambiguous. -/
def EffectUnsettled (attemptId : AttemptId) (state : AttemptState) (stepRun : StepRun) : Prop :=
  (state = .inFlight ∨ state = .ambiguous) ∧
    ∃ attempt ∈ stepRun.attempts, attempt.attemptId = attemptId ∧ attempt.state = state

/-- The commands that conclude an attempt after its effect. -/
def closesAfterEffect : StepCommandType → Bool
  | .recordAttemptSucceeded | .recordAttemptFailure | .resolveAttemptAmbiguity => true
  | _ => false

/-- The commands that conclude an attempt of a state: outcomes are recorded of an attempt in
flight, and only an ambiguous one is resolved. -/
def concludesFrom : AttemptState → StepCommandType → Bool
  | .inFlight, .recordAttemptSucceeded | .inFlight, .recordAttemptFailure
  | .ambiguous, .resolveAttemptAmbiguity => true
  | _, _ => false

theorem closesAfterEffect_of_concludesFrom {state : AttemptState} {type : StepCommandType}
    (concludes : concludesFrom state type = true) : closesAfterEffect type = true := by
  cases type <;> cases state <;> first | rfl | cases concludes

/-- An unsettled attempt can only become ambiguous or be concluded. -/
theorem AttemptMove.of_unsettled {type : StepCommandType} {before after : AttemptState}
    {state : StepRunState} (move : AttemptMove type before after state)
    (unsettled : before = .inFlight ∨ before = .ambiguous) :
    after = .ambiguous ∨ concludesFrom before type = true := by
  cases move <;> first | exact .inl rfl | exact .inr rfl | simp at unsettled

theorem AttemptMove.open_before {type : StepCommandType} {before after : AttemptState}
    {state : StepRunState} (move : AttemptMove type before after state) :
    attemptIsTerminal before = false := by
  cases move <;> rfl

/-- A planned command keeps an attempt unsettled unless it concludes it. -/
theorem EffectUnsettled.planned {stepRun : StepRun} {command : StepCommand}
    {plan : StepTransitionPlan} {attemptId : AttemptId} {state : AttemptState}
    (unsettled : EffectUnsettled attemptId state stepRun) (invariant : StepRunInvariant stepRun)
    (move : StepMove stepRun command plan) (context : StepCommandContext) :
    (∃ next, EffectUnsettled attemptId next (freshTransition stepRun plan context).stepRun ∧
        (next = state ∨ next = .ambiguous)) ∨
      (concludesFrom state command.type = true ∧ command.target = some attemptId) := by
  obtain ⟨kind, known, member, identity, inState⟩ := unsettled
  cases move with
  | claimed preparation attempt =>
      exact .inl ⟨state, ⟨kind, known, List.mem_append_left _ member, identity, inState⟩, .inl rfl⟩
  | moved attempt replacement details command stepState attemptMember active opened target same
      number operationKey reservation effect move =>
      by_cases replaced : known.attemptId = attempt.attemptId
      · have equal : known = attempt :=
          List.inj_on_of_nodup_map invariant.distinct member attemptMember replaced
        subst equal
        rcases move.of_unsettled (inState ▸ kind) with becomes | closes
        · refine .inl ⟨.ambiguous, ⟨.inr rfl, replacement, mem_replaceAttempt attemptMember same,
            same.trans identity, becomes⟩, .inr rfl⟩
        · exact .inr ⟨inState ▸ closes, identity ▸ target⟩
      · refine .inl ⟨state, ⟨kind, known, List.mem_map.mpr ⟨known, member, if_neg ?_⟩, identity,
          inState⟩, .inl rfl⟩
        rw [beq_iff_eq, same]
        exact replaced
  | parked => exact .inl ⟨state, ⟨kind, known, member, identity, inState⟩, .inl rfl⟩

/-- An accepted command keeps an attempt unsettled unless it is fresh and concludes it. -/
theorem EffectUnsettled.apply {stepRun : StepRun} {command : StepCommand}
    {context : StepCommandContext} {transition : StepTransition} {attemptId : AttemptId}
    {state : AttemptState} (unsettled : EffectUnsettled attemptId state stepRun)
    (invariant : StepRunInvariant stepRun)
    (accepted : applyStepCommand stepRun command context = .ok transition) :
    (∃ next, EffectUnsettled attemptId next transition.stepRun ∧
        (next = state ∨ next = .ambiguous)) ∨
      (concludesFrom state command.type = true ∧ command.target = some attemptId) := by
  rcases applyStepCommand_ok accepted with ⟨rfl, _⟩ | ⟨_, _, planned, plannedEq, _, rfl⟩
  · exact .inl ⟨state, unsettled, .inl rfl⟩
  · exact unsettled.planned invariant (planTransition_move plannedEq) context

/-! ## States that an attempt does not leave -/

/-- The attempt is in one of the states. -/
def AttemptIn (states : AttemptState → Bool) (attemptId : AttemptId) (stepRun : StepRun) : Prop :=
  ∃ attempt ∈ stepRun.attempts, attempt.attemptId = attemptId ∧ states attempt.state = true

/-- A planned command keeps an attempt in states that it does not move it out of. -/
theorem AttemptIn.planned {states : AttemptState → Bool} {stepRun : StepRun}
    {command : StepCommand} {plan : StepTransitionPlan} {attemptId : AttemptId}
    (inside : AttemptIn states attemptId stepRun) (move : StepMove stepRun command plan)
    (context : StepCommandContext) (invariant : StepRunInvariant stepRun)
    (closed : ∀ before after state, AttemptMove command.type before after state →
      command.target = some attemptId → states before = true → states after = true) :
    AttemptIn states attemptId (freshTransition stepRun plan context).stepRun := by
  obtain ⟨known, member, identity, state⟩ := inside
  cases move with
  | claimed preparation attempt =>
      exact ⟨known, List.mem_append_left _ member, identity, state⟩
  | moved attempt replacement details command stepState attemptMember active opened target same
      number operationKey reservation effect move =>
      by_cases replaced : known.attemptId = attempt.attemptId
      · have equal : known = attempt :=
          List.inj_on_of_nodup_map invariant.distinct member attemptMember replaced
        subst equal
        exact ⟨replacement, mem_replaceAttempt attemptMember same, same.trans identity,
          closed _ _ _ move (target.trans (congrArg some identity)) state⟩
      · refine ⟨known, List.mem_map.mpr ⟨known, member, if_neg ?_⟩, identity, state⟩
        rw [beq_iff_eq, same]
        exact replaced
  | parked => exact ⟨known, member, identity, state⟩

theorem AttemptIn.apply {states : AttemptState → Bool} {stepRun : StepRun} {command : StepCommand}
    {context : StepCommandContext} {transition : StepTransition} {attemptId : AttemptId}
    (inside : AttemptIn states attemptId stepRun) (invariant : StepRunInvariant stepRun)
    (accepted : applyStepCommand stepRun command context = .ok transition)
    (closed : ∀ before after state, AttemptMove command.type before after state →
      command.target = some attemptId → states before = true → states after = true) :
    AttemptIn states attemptId transition.stepRun := by
  rcases applyStepCommand_ok accepted with ⟨rfl, _⟩ | ⟨_, _, planned, plannedEq, _, rfl⟩
  · exact inside
  · exact inside.planned (planTransition_move plannedEq) context invariant closed

/-- Two attempts of a step with one identifier are the same. -/
theorem StepRunInvariant.attempt_inj {stepRun : StepRun} (invariant : StepRunInvariant stepRun)
    {left right : Attempt} (leftMember : left ∈ stepRun.attempts)
    (rightMember : right ∈ stepRun.attempts) (same : left.attemptId = right.attemptId) :
    left = right :=
  List.inj_on_of_nodup_map invariant.distinct leftMember rightMember same

/-- The attempts of a step are claimed before they are stored. -/
theorem StepRunInvariant.not_prepared {stepRun : StepRun} (invariant : StepRunInvariant stepRun)
    {attempt : Attempt} (member : attempt ∈ stepRun.attempts) : attempt.state ≠ .prepared := by
  intro prepared
  have terminal : attemptIsTerminal attempt.state ≠ true := by
    rw [prepared]
    exact Bool.false_ne_true
  rcases invariant.activity with ⟨_, _, _, closed⟩ | ⟨earlier, last, split, _, opened, closed⟩
  · exact terminal (closed attempt member)
  · rw [split, List.mem_append, List.mem_singleton] at member
    rcases member with old | rfl
    · exact terminal (closed attempt old)
    · rcases opened with ⟨_, state | state⟩ | ⟨_, state⟩ <;> rw [prepared] at state <;> cases state

/-- The states of an attempt whose effect was started. -/
def isStarted : AttemptState → Bool
  | .prepared | .claimed => false
  | _ => true

/-- The states of an attempt whose effect is known to be unknown, or is concluded. -/
def isPastFlight : AttemptState → Bool
  | .prepared | .claimed | .inFlight => false
  | _ => true

theorem AttemptMove.isStarted_after {type : StepCommandType} {before after : AttemptState}
    {state : StepRunState} (move : AttemptMove type before after state) :
    isStarted after = true := by
  cases move <;> rfl

theorem AttemptMove.stays_pastFlight {type : StepCommandType} {before after : AttemptState}
    {state : StepRunState} (move : AttemptMove type before after state)
    (past : isPastFlight before = true) : isPastFlight after = true := by
  cases move <;> first | rfl | cases past

theorem AttemptMove.pastFlight_of_ambiguity {before after : AttemptState} {state : StepRunState}
    (move : AttemptMove .markAttemptAmbiguous before after state) : isPastFlight after = true := by
  cases move
  rfl

/-- A fresh command leaves its attempt in a state that it moves attempts to. -/
theorem attemptIn_of_fresh {states : AttemptState → Bool} {stepRun : StepRun}
    {command : StepCommand} {context : StepCommandContext} {transition : StepTransition}
    {attemptId : AttemptId}
    (accepted : applyStepCommand stepRun command context = .ok transition)
    (fresh : transition.replayed = false) (target : command.target = some attemptId)
    (moves : command.type ≠ .authorizeRetry)
    (reached : ∀ before after state, AttemptMove command.type before after state →
      states after = true) :
    AttemptIn states attemptId transition.stepRun := by
  rcases applyStepCommand_ok accepted with ⟨rfl, _⟩ | ⟨_, _, planned, plannedEq, _, rfl⟩
  · cases fresh
  cases planTransition_move plannedEq with
  | claimed => cases target
  | moved attempt replacement details command stepState member active opened named same number
      operationKey reservation effect move =>
      exact ⟨replacement, mem_replaceAttempt member same,
        same.trans (Option.some.inj (named.symm.trans target)), reached _ _ _ move⟩
  | parked details command state inactive before after kind =>
      rcases kind with rejected | authorized
      · cases command <;> first | exact StepCommandType.noConfusion rejected | cases target
      · exact absurd authorized moves

/-! ## Settling commands -/

/-- The commands that settle or release a reservation. -/
def settles (type : StepCommandType) : Bool :=
  closesBeforeEffect type || closesAfterEffect type

theorem AttemptMove.terminal_of_settles {type : StepCommandType} {before after : AttemptState}
    {state : StepRunState} (move : AttemptMove type before after state)
    (settling : settles type = true) : attemptIsTerminal after = true := by
  cases move <;> first | rfl | cases settling

/-- Only a settling command concludes an attempt. -/
theorem AttemptMove.settles_of_terminal {type : StepCommandType} {before after : AttemptState}
    {state : StepRunState} (move : AttemptMove type before after state)
    (terminal : attemptIsTerminal after = true) : settles type = true := by
  cases move <;> first | rfl | cases terminal

/-- After a settling command no attempt of the step is open. -/
theorem terminal_of_settles {stepRun : StepRun} {command : StepCommand}
    {context : StepCommandContext} {transition : StepTransition}
    (invariant : StepRunInvariant stepRun)
    (accepted : applyStepCommand stepRun command context = .ok transition)
    (fresh : transition.replayed = false) (settling : settles command.type = true) :
    ∀ attempt ∈ transition.stepRun.attempts, attemptIsTerminal attempt.state = true := by
  have after := invariant.apply accepted
  rcases applyStepCommand_ok accepted with ⟨rfl, _⟩ | ⟨_, _, planned, plannedEq, _, rfl⟩
  · cases fresh
  · have inactive : planned.activeAttemptId = none := by
      cases planTransition_move plannedEq with
      | claimed => cases settling
      | moved attempt replacement details command state member active opened target same number
          operationKey reservation effect move =>
          exact if_pos (move.terminal_of_settles settling)
      | parked => rfl
    rcases after.activity with ⟨_, _, _, closed⟩ | ⟨_, _, _, active, _⟩
    · exact closed
    · cases inactive.symm.trans active

end Kurobara.Kernel
