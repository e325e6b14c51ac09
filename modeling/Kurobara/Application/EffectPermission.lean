import Kurobara.Application.ExecuteLeafAttempt

/-! # One effect for one attempt

Any number of leaf executors over the rows of one step, interleaved with further
transitions, with every other command on the step, with crashes, and with arbitrary
changes of the rows around it. The permission to execute the effect of an attempt
is granted at most once, because an attempt leaves its claim at most once, and an
executor executes only with a permission that it was granted.
-/

namespace Kurobara.Application

open Foundation Kernel Persistence

variable {Value : Type}

/-! ## The discipline of one executor -/

private def grantsPermission : TransitionStepAttemptResult → Bool
  | .ok success => success.effectPermission == .granted
  | .error _ => false

/-- The permission for the effect of one attempt. -/
def effectBudget (Value : Type) (attemptId : AttemptId) : Budget (leafInterface Value) where
  grants operation :=
    match operation with
    | .transition input => fun answer =>
        if input.attemptId == attemptId && grantsPermission answer then 1 else 0
    | _ => fun _ => 0
  uses operation :=
    match operation with
    | .execute request => if request.attemptId == attemptId then 1 else 0
    | _ => 0

section Executor

variable {attemptId : AttemptId} {hashes : CanonicalHashes Value}

/-- The operations that need no permission. -/
abbrev NeedsNoPermission (attemptId : AttemptId) (operation : LeafOperation Value) : Prop :=
  (effectBudget Value attemptId).uses operation = 0

/-- A program that never executes the effect. -/
def NeverExecutes {Result : Type} (attemptId : AttemptId) (program : LeafProgram Value Result) :
    Prop :=
  program.Ensures (NeedsNoPermission attemptId) (fun _ _ => True) fun _ => True

theorem NeverExecutes.pure {Result : Type} (result : Result) :
    NeverExecutes attemptId (pure result : LeafProgram Value Result) :=
  Program.ensures_done.mpr trivial

/-- Asking an operation that needs no permission, and then never executing. -/
theorem NeverExecutes.ask {Result : Type} {operation : LeafOperation Value}
    {next : operation.Answer → LeafProgram Value Result}
    (free : NeedsNoPermission attemptId operation)
    (continues : ∀ answer, NeverExecutes attemptId (next answer)) :
    NeverExecutes attemptId (ask operation >>= next) :=
  Program.ensures_call_bind.mpr ⟨free, fun answer _ => continues answer⟩

theorem NeverExecutes.bind {Result Next : Type} {program : LeafProgram Value Result}
    {next : Result → LeafProgram Value Next} (never : NeverExecutes attemptId program)
    (continues : ∀ result, NeverExecutes attemptId (next result)) :
    NeverExecutes attemptId (program >>= next) :=
  Program.Ensures.bind never fun result _ => continues result

/-- A program that never executes keeps to any permissions. -/
theorem NeverExecutes.spends {Result : Type} {program : LeafProgram Value Result}
    (never : NeverExecutes attemptId program) (held : ℕ) :
    program.Spends (effectBudget Value attemptId) held fun _ _ => True :=
  Program.Ensures.spends never held

private theorem loadLeaf_neverExecutes (effectAdapterKey : String)
    (request : StartLeafAttemptRequest) :
    NeverExecutes attemptId (loadLeaf effectAdapterKey request : LeafProgram Value _) := by
  unfold loadLeaf
  dsimp only
  split
  · exact .pure _
  · exact .ask rfl fun _ => .ask rfl fun _ => .pure _

private theorem prepareSinkOutput_neverExecutes (loaded : LoadedLeaf Value) (attempt : Attempt)
    (value : Value) : NeverExecutes attemptId (prepareSinkOutput hashes loaded attempt value) := by
  refine .ask rfl ?_
  rintro (_ | validatorVersion | reason)
  · exact .pure _
  · dsimp only
    split
    · exact .pure _
    · refine .ask rfl ?_
      rintro (_ | validatedAt) <;> exact .pure _
  · exact .pure _

private theorem recoverRecordedRetry_neverExecutes (loaded : LoadedLeaf Value) :
    NeverExecutes attemptId (recoverRecordedRetry loaded) :=
  .ask rfl fun _ => .pure _

private theorem settleFreshOutcome_neverExecutes (loaded : LoadedLeaf Value) (stepRun : StepRun)
    (outcome : LeafEffectFinalOutcome Value)
    (output : Option (StepOutputMaterialization Value)) :
    NeverExecutes attemptId (settleFreshOutcome loaded stepRun outcome output) :=
  .ask rfl fun _ => .pure _

private theorem markAmbiguous_neverExecutes (loaded : LoadedLeaf Value) (stepRun : StepRun) :
    NeverExecutes attemptId (markAmbiguous loaded stepRun) := by
  refine .ask rfl ?_
  rintro (refusal | success) <;> exact .pure _

private theorem recordAmbiguity_neverExecutes (loaded : LoadedLeaf Value)
    (current : ThresholdContinuation) :
    NeverExecutes attemptId (recordAmbiguity loaded current) := by
  unfold recordAmbiguity
  split
  · exact markAmbiguous_neverExecutes loaded current.stepRun
  · exact .pure _

private theorem resolveBeforeEffect_neverExecutes (loaded : LoadedLeaf Value)
    (refusal : TransitionStepAttemptFailure) :
    NeverExecutes attemptId (resolveBeforeEffect loaded refusal) := by
  unfold resolveBeforeEffect
  split
  · exact .ask rfl fun _ => .pure _
  · exact .ask rfl fun _ => .pure _
  · exact .pure _

private theorem resolveAs_neverExecutes (loaded : LoadedLeaf Value) (stepRun : StepRun)
    (proofId : String) (resolution : AmbiguityOutcome × StepCostSettlement)
    (output : Option (StepOutputMaterialization Value)) :
    NeverExecutes attemptId (resolveAs loaded stepRun proofId resolution output) :=
  .ask rfl fun _ => .pure _

private theorem resolveLookup_neverExecutes (loaded : LoadedLeaf Value) (stepRun : StepRun)
    (outcome : LeafEffectFinalOutcome Value) (proofId : String) :
    NeverExecutes attemptId (resolveLookup hashes loaded stepRun outcome proofId) := by
  cases outcome with
  | failed => exact resolveAs_neverExecutes loaded stepRun proofId _ none
  | succeeded value settlement =>
      dsimp only [resolveLookup]
      split
      · exact resolveAs_neverExecutes loaded stepRun proofId _ none
      · refine (prepareSinkOutput_neverExecutes loaded loaded.attempt value).bind ?_
        rintro (prepared | _ | _)
        · exact resolveAs_neverExecutes loaded stepRun proofId _ _
        · exact resolveAs_neverExecutes loaded stepRun proofId _ _
        · exact .pure _

private theorem reconcileEffect_neverExecutes (request : StartLeafAttemptRequest)
    (loaded : LoadedLeaf Value) (current : ThresholdContinuation) :
    NeverExecutes attemptId (reconcileEffect hashes request loaded current) := by
  unfold reconcileEffect
  split
  · exact .pure _
  · refine .ask rfl fun lookup => ?_
    refine (recordAmbiguity_neverExecutes loaded current).bind fun ambiguous => ?_
    split
    · exact resolveLookup_neverExecutes loaded _ _ _
    · exact .pure _

/-- Executing needs the permission of the attempt that is executed. -/
theorem executeFreshEffect_spends (request : StartLeafAttemptRequest) (loaded : LoadedLeaf Value)
    (current : ThresholdContinuation) {held : ℕ}
    (permitted : current.attempt.attemptId = attemptId → 1 ≤ held) :
    (executeFreshEffect hashes request loaded current).Spends (effectBudget Value attemptId) held
      fun _ _ => True := by
  refine Program.spends_call_bind.mpr ⟨?_, fun answer => NeverExecutes.spends ?_ _⟩
  · by_cases same : current.attempt.attemptId = attemptId
    · simpa [effectBudget, toEffectRequest, same] using permitted same
    · simp [effectBudget, toEffectRequest, same]
  · rcases answer with _ | (⟨output, settlement⟩ | ⟨reason, retryable, settlement⟩) | reason
    · exact markAmbiguous_neverExecutes loaded current.stepRun
    · dsimp only
      split
      · exact settleFreshOutcome_neverExecutes loaded current.stepRun _ none
      · refine (prepareSinkOutput_neverExecutes loaded current.attempt output).bind ?_
        rintro (prepared | _ | _)
        · exact settleFreshOutcome_neverExecutes loaded current.stepRun _ _
        · exact settleFreshOutcome_neverExecutes loaded current.stepRun _ _
        · exact markAmbiguous_neverExecutes loaded current.stepRun
    · exact settleFreshOutcome_neverExecutes loaded current.stepRun _ none
    · exact markAmbiguous_neverExecutes loaded current.stepRun

/-- The threshold lets the executor execute only under a permission it was granted. -/
theorem ensureEffectThreshold_spends (loaded : LoadedLeaf Value) (held : ℕ) :
    (ensureEffectThreshold loaded).Spends (effectBudget Value attemptId) held
      fun result left => ∀ current, result = .ok current → current.execute = true →
        current.attempt.attemptId = attemptId → 1 ≤ left := by
  unfold ensureEffectThreshold
  split
  · refine Program.spends_done.mpr ?_
    rintro current ⟨⟩ execute
    cases execute
  · refine Program.spends_call_bind.mpr ⟨Nat.zero_le held, ?_⟩
    rintro (refusal | started)
    · dsimp only
      split
      · refine (resolveBeforeEffect_neverExecutes loaded refusal).spends _ |>.bind ?_
        intro result left _
        refine Program.spends_done.mpr ?_
        rintro current ⟨⟩
      · refine Program.spends_done.mpr ?_
        rintro current ⟨⟩
    · dsimp only
      split
      · refine Program.spends_done.mpr ?_
        rintro current ⟨⟩
      · rename_i attempt found
        refine Program.spends_done.mpr ?_
        rintro current ⟨⟩ execute same
        have identity : attempt.attemptId = loaded.attempt.attemptId := by
          simpa using List.find?_some found
        have granted : (loaded.attempt.attemptId == attemptId &&
            grantsPermission (.ok started)) = true := by
          rw [Bool.and_eq_true, beq_iff_eq]
          exact ⟨identity.symm.trans same, execute⟩
        have grant : (effectBudget Value attemptId).grants
            (.transition (loaded.command "start-effect" loaded.stepRun .startAttemptEffect))
            (.ok started) = 1 := if_pos granted
        rw [grant]
        exact Nat.le_add_left 1 _

/-- An executor that starts without a permission executes only with one. -/
theorem executeLeafAttempt_spends (effectAdapterKey : String) (request : StartLeafAttemptRequest) :
    (executeLeafAttempt hashes effectAdapterKey request).Spends (effectBudget Value attemptId) 0
      fun _ _ => True := by
  unfold executeLeafAttempt
  refine ((loadLeaf_neverExecutes effectAdapterKey request).spends 0).bind ?_
  rintro (failure | loaded) held _
  · exact Program.spends_done.mpr trivial
  dsimp only
  split
  · exact (recoverRecordedRetry_neverExecutes loaded).spends held
  split
  · exact Program.spends_done.mpr trivial
  refine (ensureEffectThreshold_spends loaded held).bind ?_
  rintro (result | current) left permitted
  · exact Program.spends_done.mpr trivial
  dsimp only
  split
  · rename_i execute
    exact executeFreshEffect_spends request loaded current (permitted current rfl execute)
  · exact (reconcileEffect_neverExecutes request loaded current).spends left

end Executor

/-! ## Executors in a pool -/

/-- What happens to the rows of the step without an executor: a call of the transition
use case by anyone, any other command on the step, or a change of the rows around it. -/
inductive StepDisturbance (Value : Type) where
  | transition (input : TransitionStepAttemptInput Value) (result : TransitionStepAttemptResult)
  | command (command : StepCommand) (transition : StepTransition)
  | rows

/-! ## Observations -/

abbrev LeafPoolLabel (Value : Type) := PoolLabel (leafInterface Value) (StepDisturbance Value)

/-- The call of the transition use case that a label records. -/
def transitionOf : LeafPoolLabel Value →
    Option (TransitionStepAttemptInput Value × TransitionStepAttemptResult)
  | .performed (.transition input) answer => some (input, answer)
  | .environment (.transition input result) => some (input, result)
  | _ => none

/-- The transition use case answers with the permission to execute the attempt. -/
def grantsEffect (attemptId : AttemptId) (label : LeafPoolLabel Value) : Bool :=
  (transitionOf label).any fun call => call.1.attemptId == attemptId && grantsPermission call.2

/-- The event calls the effect of an attempt. -/
def executesEffect (attemptId : AttemptId) : LeafPoolLabel Value → Bool
  | .performed (.execute request) _ => request.attemptId == attemptId
  | _ => false

/-- The attempt is recorded as not started, or cancelled before its effect. -/
def closesUnstarted (attemptId : AttemptId) : LeafPoolLabel Value → Bool
  | .environment (.command command transition) =>
      command.target == some attemptId && closesBeforeEffect command.type && !transition.replayed
  | label => (transitionOf label).any fun call => call.1.attemptId == attemptId &&
      closesBeforeEffect call.1.request.type && isFresh call.2

/-- The attempt leaves its claim, with the permission for its effect or without. -/
def leavesClaimOf (attemptId : AttemptId) (label : LeafPoolLabel Value) : Bool :=
  grantsEffect attemptId label || closesUnstarted attemptId label

/-! ## What an observed step does to the step run -/

section Effects

variable {attemptId : AttemptId}

theorem TransitionEffect.invariant {before after : StepRows Value}
    {input : TransitionStepAttemptInput Value} {result : TransitionStepAttemptResult}
    (effect : TransitionEffect before after input result)
    (invariant : StepRunInvariant before.stepRun) :
    StepRunInvariant after.stepRun := by
  cases effect with
  | refused failure unchanged => exact unchanged ▸ invariant
  | replayed success unchanged => exact unchanged ▸ invariant
  | applied success command context transition type target accepted fresh moved =>
      exact moved ▸ invariant.apply accepted

theorem TransitionEffect.leftClaim {before after : StepRows Value}
    {input : TransitionStepAttemptInput Value} {result : TransitionStepAttemptResult}
    (effect : TransitionEffect before after input result)
    (left : LeftClaim attemptId before.stepRun) :
    LeftClaim attemptId after.stepRun := by
  cases effect with
  | refused failure unchanged => exact unchanged ▸ left
  | replayed success unchanged => exact unchanged ▸ left
  | applied success command context transition type target accepted fresh moved =>
      exact moved ▸ left.apply accepted

/-- A transition that grants the permission, or closes the attempt as new, takes the
attempt out of its claim. -/
theorem TransitionEffect.leaves {before after : StepRows Value}
    {input : TransitionStepAttemptInput Value} {result : TransitionStepAttemptResult}
    (effect : TransitionEffect before after input result)
    (invariant : StepRunInvariant before.stepRun)
    (identity : input.attemptId = attemptId)
    (leaves : grantsPermission result = true ∨
      (closesBeforeEffect input.request.type = true ∧ isFresh result = true)) :
    ¬ LeftClaim attemptId before.stepRun ∧ LeftClaim attemptId after.stepRun := by
  cases effect with
  | refused failure => rcases leaves with granted | ⟨_, fresh⟩ <;> contradiction
  | replayed success unchanged ledger flag permission =>
      rcases leaves with granted | ⟨_, fresh⟩
      · exact absurd (beq_iff_eq.mp granted) permission
      · rw [isFresh, flag] at fresh
        cases fresh
  | applied success command context transition type target accepted fresh moved ledger flag
      permission =>
      have kind : leavesClaim command.type = true := by
        rw [type]
        rcases leaves with granted | ⟨closes, _⟩
        · have granted := beq_iff_eq.mp granted
          rw [permission] at granted
          rw [effectPermission_granted_iff.mp granted]
          rfl
        · exact leavesClaim_of_closesBeforeEffect closes
      rw [moved]
      exact leftClaim_of_fresh invariant accepted fresh kind (identity ▸ target)

/-- What a step of the pool does to the step run. -/
inductive PoolEffect (before after : StepRows Value) : LeafPoolLabel Value → Prop where
  | unchanged (label : LeafPoolLabel Value) (kept : after.stepRun = before.stepRun)
      (silent : ∀ attemptId, leavesClaimOf attemptId label = false) : PoolEffect before after label
  | transition (label : LeafPoolLabel Value) (input : TransitionStepAttemptInput Value)
      (result : TransitionStepAttemptResult) (recorded : transitionOf label = some (input, result))
      (closes : ∀ attemptId, closesUnstarted attemptId label =
        (input.attemptId == attemptId && closesBeforeEffect input.request.type && isFresh result))
      (effect : TransitionEffect before after input result) : PoolEffect before after label
  | command (command : StepCommand) (context : StepCommandContext) (transition : StepTransition)
      (accepted : applyStepCommand before.stepRun command context = .ok transition)
      (moved : after.stepRun = transition.stepRun) :
      PoolEffect before after (.environment (.command command transition))

theorem PoolEffect.invariant {before after : StepRows Value} {label : LeafPoolLabel Value}
    (effect : PoolEffect before after label) (invariant : StepRunInvariant before.stepRun) :
    StepRunInvariant after.stepRun := by
  cases effect with
  | unchanged label kept => exact kept ▸ invariant
  | transition label input result recorded closes effect => exact effect.invariant invariant
  | command command context transition accepted moved => exact moved ▸ invariant.apply accepted

theorem PoolEffect.leftClaim {before after : StepRows Value} {label : LeafPoolLabel Value}
    (effect : PoolEffect before after label) (left : LeftClaim attemptId before.stepRun) :
    LeftClaim attemptId after.stepRun := by
  cases effect with
  | unchanged label kept => exact kept ▸ left
  | transition label input result recorded closes effect => exact effect.leftClaim left
  | command command context transition accepted moved => exact moved ▸ left.apply accepted

theorem PoolEffect.leaves {before after : StepRows Value} {label : LeafPoolLabel Value}
    (effect : PoolEffect before after label) (invariant : StepRunInvariant before.stepRun)
    (leaves : leavesClaimOf attemptId label = true) :
    ¬ LeftClaim attemptId before.stepRun ∧ LeftClaim attemptId after.stepRun := by
  cases effect with
  | unchanged label kept silent =>
      rw [silent attemptId] at leaves
      cases leaves
  | transition label input result recorded closes effect =>
      simp only [leavesClaimOf, grantsEffect, recorded, closes, Option.any_some, Bool.or_eq_true,
        Bool.and_eq_true, beq_iff_eq] at leaves
      rcases leaves with ⟨identity, granted⟩ | ⟨⟨identity, kind⟩, fresh⟩
      · exact effect.leaves invariant identity (.inl granted)
      · exact effect.leaves invariant identity (.inr ⟨kind, fresh⟩)
  | command command context transition accepted moved =>
      simp only [leavesClaimOf, grantsEffect, transitionOf, closesUnstarted, Option.any_none,
        Bool.false_or, Bool.and_eq_true, beq_iff_eq, Bool.not_eq_true'] at leaves
      obtain ⟨⟨target, closes⟩, fresh⟩ := leaves
      rw [moved]
      exact leftClaim_of_fresh invariant accepted fresh (leavesClaim_of_closesBeforeEffect closes)
        target

private theorem sum_uses_eq_countP (labels : List (LeafPoolLabel Value)) :
    (labels.map (PoolLabel.uses (effectBudget Value attemptId))).sum =
      labels.countP (executesEffect attemptId) := by
  induction labels with
  | nil => rfl
  | cons label labels ih =>
      have here : PoolLabel.uses (effectBudget Value attemptId) label =
          if executesEffect attemptId label then 1 else 0 := by
        rcases label with ⟨operation, answer⟩ | _ | _ | disturbance
        · cases operation <;> rfl
        all_goals rfl
      rw [List.map_cons, List.sum_cons, List.countP_cons, ih, here, Nat.add_comm]

private theorem sum_grants_le_countP (labels : List (LeafPoolLabel Value)) :
    (labels.map (PoolLabel.grants (effectBudget Value attemptId))).sum ≤
      labels.countP (grantsEffect attemptId) := by
  induction labels with
  | nil => exact le_rfl
  | cons label labels ih =>
      have here : PoolLabel.grants (effectBudget Value attemptId) label ≤
          if grantsEffect attemptId label then 1 else 0 := by
        rcases label with ⟨operation, answer⟩ | _ | _ | disturbance
        · cases operation with
          | transition input => exact le_rfl
          | _ => exact Nat.zero_le _
        all_goals exact Nat.zero_le _
      rw [List.map_cons, List.sum_cons, List.countP_cons, Nat.add_comm]
      exact Nat.add_le_add ih here

end Effects

/-! ## The pool -/

section Pool

variable [DecidableEq Value] (hashes : CanonicalHashes Value)

private def LeafOperation.isTransition : LeafOperation Value → Bool
  | .transition _ => true
  | _ => false

/-- A transition commits on the rows of the step; what the queries, the effect, the
validator and the clock answer is left open. -/
inductive LeafPerforms (before : StepRows Value) :
    (operation : LeafOperation Value) → operation.Answer → StepRows Value → Prop where
  | transition (environment : TransitionEnvironment) (input : TransitionStepAttemptInput Value)
      (result : TransitionStepAttemptResult) (after : StepRows Value)
      (committed : transitionStepAttempt hashes environment before input = .ok (result, after)) :
      LeafPerforms before (.transition input) result after
  | answered (operation : LeafOperation Value) (answer : operation.Answer)
      (foreign : operation.isTransition = false) : LeafPerforms before operation answer before

/-- What happens to the rows beside the programs of the pool. -/
inductive StepDisturbs (before : StepRows Value) :
    StepDisturbance Value → StepRows Value → Prop where
  | transition (environment : TransitionEnvironment) (input : TransitionStepAttemptInput Value)
      (result : TransitionStepAttemptResult) (after : StepRows Value)
      (committed : transitionStepAttempt hashes environment before input = .ok (result, after)) :
      StepDisturbs before (.transition input result) after
  | command (command : StepCommand) (context : StepCommandContext) (transition : StepTransition)
      (after : StepRows Value)
      (accepted : applyStepCommand before.stepRun command context = .ok transition)
      (moved : after.stepRun = transition.stepRun) :
      StepDisturbs before (.command command transition) after
  | rows (after : StepRows Value) (kept : after.stepRun = before.stepRun) :
      StepDisturbs before .rows after

private def leafEnvironment :
    PoolEnvironment (leafInterface Value) (StepRows Value) (StepDisturbance Value) where
  initial rows := stepRunSystem.Reachable rows.stepRun
  perform before operation answer after := LeafPerforms hashes before operation answer after
  disturb before disturbance after := StepDisturbs hashes before disturbance after

/-- The rows and the executors that are at work. -/
abbrev LeafPoolState (Value : Type) :=
  StepRows Value × List (LeafProgram Value ExecuteLeafAttemptResult)

/-- Executors of any attempts, started at any time, over the rows of one step. -/
def leafPool : TransitionSystem (LeafPoolState Value) (LeafPoolLabel Value) :=
  pooled (leafEnvironment hashes) fun program =>
    ∃ effectAdapterKey request, program = executeLeafAttempt hashes effectAdapterKey request

variable {hashes} {attemptId : AttemptId}

private theorem leafPool_effect {before after : LeafPoolState Value} {label : LeafPoolLabel Value}
    (step : (leafPool hashes).step before label after) :
    PoolEffect before.1 after.1 label := by
  cases step with
  | performed operation resume answer performs =>
      cases performs with
      | transition environment input _ after committed =>
          exact .transition _ input _ rfl (fun _ => rfl)
            (transitionStepAttempt_effect hashes committed)
      | answered operation answer foreign =>
          refine .unchanged _ rfl fun attemptId => ?_
          cases operation <;> first | rfl | cases foreign
  | started program admitted => exact .unchanged _ rfl fun _ => rfl
  | dropped program => exact .unchanged _ rfl fun _ => rfl
  | environment disturbance disturbs =>
      cases disturbs with
      | transition environment input result after committed =>
          exact .transition _ input result rfl (fun _ => rfl)
            (transitionStepAttempt_effect hashes committed)
      | command command context transition after accepted moved =>
          exact .command command context transition accepted moved
      | rows after kept => exact .unchanged _ kept fun _ => rfl

private theorem leafPool_invariant :
    (leafPool hashes).Invariant fun state => StepRunInvariant state.1.stepRun where
  initially _ start := stepRunInvariant_invariant.reachable start.1
  preserved _ _ _ invariant step := (leafPool_effect step).invariant invariant

/-! ## At most one effect -/

private theorem leafPool_leavesClaim_once {first last : LeafPoolState Value}
    {labels : List (LeafPoolLabel Value)} (start : (leafPool hashes).initial first)
    (run : (leafPool hashes).Run first labels last) (attemptId : AttemptId) :
    labels.countP (leavesClaimOf attemptId) ≤ 1 :=
  run.countP_le_one leafPool_invariant
    (fun _ _ _ _ step left => (leafPool_effect step).leftClaim left)
    (fun _ _ _ invariant step leaves => (leafPool_effect step).leaves invariant leaves)
    (leafPool_invariant.initially _ start)

/-- Executions of the effect of an attempt need as many grants of its permission. -/
theorem leafPool_executes_le_grants {first last : LeafPoolState Value}
    {labels : List (LeafPoolLabel Value)} (start : (leafPool hashes).initial first)
    (run : (leafPool hashes).Run first labels last) :
    labels.countP (executesEffect attemptId) ≤ labels.countP (grantsEffect attemptId) := by
  have disciplined : ∀ program : LeafProgram Value ExecuteLeafAttemptResult,
      (∃ effectAdapterKey request, program = executeLeafAttempt hashes effectAdapterKey request) →
        program.Spends (effectBudget Value attemptId) 0 fun _ _ => True := by
    rintro program ⟨effectAdapterKey, request, rfl⟩
    exact executeLeafAttempt_spends effectAdapterKey request
  have holds : PoolHolds (effectBudget Value attemptId) first.2 0 := by
    rw [start.2]
    trivial
  have balance := pooled_uses_le_grants disciplined run holds
  rw [sum_uses_eq_countP, Nat.zero_add] at balance
  exact balance.trans (sum_grants_le_countP labels)

/-- **At most one effect per attempt.** Over any interleaving of executors, transitions
and other commands, the permission for an attempt is granted at most once, its effect
is executed at most once, being closed unstarted and being granted exclude each other,
and a new attempt is claimed only when every earlier one is terminal. -/
theorem leafPool_effect_at_most_once {first last : LeafPoolState Value}
    {labels : List (LeafPoolLabel Value)} (start : (leafPool hashes).initial first)
    (run : (leafPool hashes).Run first labels last) (attemptId : AttemptId) :
    labels.countP (grantsEffect attemptId) ≤ 1 ∧
      labels.countP (executesEffect attemptId) ≤ 1 ∧
      (∀ earlier label later, labels = earlier ++ label :: later →
        (closesUnstarted attemptId label = true →
          ∀ next ∈ later, grantsEffect attemptId next = false) ∧
        (grantsEffect attemptId label = true →
          ∀ next ∈ later, closesUnstarted attemptId next = false)) ∧
      ∀ preparation context transition,
        applyStepCommand last.1.stepRun (.claimStepAttempt preparation) context = .ok transition →
          transition.replayed = false →
            ∀ attempt ∈ last.1.stepRun.attempts, attemptIsTerminal attempt.state = true := by
  have once := leafPool_leavesClaim_once start run attemptId
  have granted : labels.countP (grantsEffect attemptId) ≤ 1 := by
    refine (List.countP_mono_left ?_).trans once
    intro label _ grants
    rw [leavesClaimOf, grants, Bool.true_or]
  refine ⟨granted, (leafPool_executes_le_grants start run).trans granted, ?_, ?_⟩
  · rintro earlier label later rfl
    have silent : leavesClaimOf attemptId label = true →
        ∀ next ∈ later, leavesClaimOf attemptId next = false := by
      intro leaves next member
      by_contra notSilent
      have positive : 0 < later.countP (leavesClaimOf attemptId) :=
        List.countP_pos_iff.mpr ⟨next, member, by simpa using notSilent⟩
      rw [List.countP_append, List.countP_cons_of_pos leaves] at once
      omega
    refine ⟨fun closes next member => ?_, fun grants next member => ?_⟩
    · exact (Bool.or_eq_false_iff.mp (silent (by rw [leavesClaimOf, closes, Bool.or_true]) next
        member)).1
    · exact (Bool.or_eq_false_iff.mp (silent (by rw [leavesClaimOf, grants, Bool.true_or]) next
        member)).2
  · intro preparation context transition accepted fresh
    exact terminal_of_claimed (leafPool_invariant.run run (leafPool_invariant.initially _ start))
      accepted fresh

end Pool

/-- The start of the sample attempt, delivered twice. -/
def sampleDeliveries : List (LeafPoolLabel String) :=
  [.environment (.transition sampleStartInput sampleStarted.1),
    .environment (.transition sampleStartInput
      (sampleCommit sampleStarted.2 sampleStartInput).1)]

private theorem sampleDeliveries_run :
    (leafPool sampleHashes).Run (sampleStepRows, []) sampleDeliveries
      ((sampleCommit sampleStarted.2 sampleStartInput).2, []) := by
  have started : StepDisturbs sampleHashes sampleStepRows
      (.transition sampleStartInput sampleStarted.1) sampleStarted.2 :=
    .transition sampleTransitionEnvironment _ _ _ sampleStarted_committed
  have redelivered : StepDisturbs sampleHashes sampleStarted.2
      (.transition sampleStartInput (sampleCommit sampleStarted.2 sampleStartInput).1)
      (sampleCommit sampleStarted.2 sampleStartInput).2 :=
    .transition sampleTransitionEnvironment _ _ _ rfl
  exact .cons (.environment _ started) (.single (.environment _ redelivered))

private theorem sampleStepRows_initial : (leafPool sampleHashes).initial (sampleStepRows, []) :=
  ⟨sampleClaimedStep_reachable, rfl⟩

theorem leafPool_effect_at_most_once_redelivered :
    sampleDeliveries.countP (grantsEffect "attempt-1") = 1 ∧
      sampleDeliveries.countP (grantsEffect "attempt-1") ≤ 1 :=
  ⟨by decide, (leafPool_effect_at_most_once
    sampleStepRows_initial sampleDeliveries_run "attempt-1").1⟩

end Kurobara.Application
