import Kurobara.Application.ExecuteLeafAttempt
import Kurobara.Foundation.Warrant

/-! # What an executor saw

An executor records a success or a failure only as the final outcome of its own
execution reports it, resolves an ambiguity only as its lookup found it, and reports
an ambiguous attempt after every other answer, once it saw that the attempt is.
-/

namespace Kurobara.Application

open Foundation Kernel Persistence

variable {Value : Type}

/-! ## Warrants -/

/-- The transitions that record a final outcome of an execution; a success whose output
breaks its contract is recorded as a charged failure. -/
inductive RecordedAs : LeafEffectFinalOutcome Value → TransitionRequest Value → Prop where
  | succeeded (value : Value) (settlement : StepUsage)
      (output : Option (StepOutputMaterialization Value)) :
      RecordedAs (.succeeded value settlement) (.recordAttemptSucceeded output settlement)
  | rejectedOutput (value : Value) (settlement : StepUsage) :
      RecordedAs (.succeeded value settlement) (.recordAttemptFailure false (.settle settlement))
  | failed (reason : String) (retryable : Bool) (settlement : StepCostSettlement) :
      RecordedAs (.failed reason retryable settlement) (.recordAttemptFailure retryable settlement)

/-- The transitions that resolve an ambiguity by a found outcome. -/
inductive ResolvedAs (proofId : String) :
    LeafEffectFinalOutcome Value → TransitionRequest Value → Prop where
  | succeeded (value : Value) (settlement : StepUsage)
      (output : Option (StepOutputMaterialization Value)) :
      ResolvedAs proofId (.succeeded value settlement)
        (.resolveAttemptAmbiguity .succeeded proofId output (.settle settlement))
  | rejectedOutput (value : Value) (settlement : StepUsage) :
      ResolvedAs proofId (.succeeded value settlement)
        (.resolveAttemptAmbiguity .failedTerminal proofId none (.settle settlement))
  | failed (reason : String) (retryable : Bool) (settlement : StepCostSettlement) :
      ResolvedAs proofId (.failed reason retryable settlement)
        (.resolveAttemptAmbiguity (if retryable then .failedRetryable else .failedTerminal)
          proofId none settlement)

abbrev LeafExchange (Value : Type) := Exchange (leafInterface Value)

/-- What an executor must have seen before it closes an attempt whose effect may have
happened. -/
def ClosingIsWarranted (input : TransitionStepAttemptInput Value)
    (seen : List (LeafExchange Value)) : Prop :=
  match input.request.type with
  | .recordAttemptSucceeded | .recordAttemptFailure => ∃ request outcome,
      (⟨.execute request, some (.final outcome)⟩ : LeafExchange Value) ∈ seen ∧
        request.attemptId = input.attemptId ∧ RecordedAs outcome input.request
  | .resolveAttemptAmbiguity => ∃ request outcome proofId,
      (⟨.lookup request, some (.found outcome proofId)⟩ : LeafExchange Value) ∈ seen ∧
        request.attemptId = input.attemptId ∧ ResolvedAs proofId outcome input.request
  | _ => True

/-- A transition of the executor is warranted by what it was answered before. -/
def leafWarrant (operation : LeafOperation Value) (seen : List (LeafExchange Value)) : Prop :=
  match operation with
  | .transition input => ClosingIsWarranted input seen
  | _ => True

/-- An answer that leaves the outcome of the effect, or the validity of its output,
unknown. -/
def IsUnclear : LeafExchange Value → Prop
  | ⟨.execute _, answer⟩ => ∀ outcome, answer ≠ some (.final outcome)
  | ⟨.lookup _, answer⟩ => ∀ outcome proofId, answer ≠ some (.found outcome proofId)
  | ⟨.validate .., answer⟩ => answer = none ∨
      ∃ validatorVersion, answer = some (.accepted validatorVersion) ∧
        nonBlank validatorVersion = false
  | ⟨.now, answer⟩ => answer = none
  | _ => False

/-- The context that an executor read shows the attempt in one of the states. -/
def ShowsAttempt (attemptId : AttemptId) (states : AttemptState → Prop) :
    LeafExchange Value → Prop
  | ⟨.getContextByStepId .., answer⟩ => ∃ context stepRun attempt, answer = some context ∧
      context.stepRun = some stepRun ∧ targetAttempt stepRun attemptId = some attempt ∧
        states attempt.state
  | _ => False

/-- What an executor saw of an attempt that is not concluded. -/
def ShowsOpen (attemptId : AttemptId) : LeafExchange Value → Prop :=
  ShowsAttempt attemptId fun state => attemptIsTerminal state = false

/-- What an executor saw of an attempt whose effect is no longer in flight: it read it so, its
start was answered so, or its ambiguity was recorded. -/
def ShowsPastFlight (attemptId : AttemptId) (exchange : LeafExchange Value) : Prop :=
  ShowsAttempt attemptId (fun state => state ≠ .claimed ∧ state ≠ .inFlight) exchange ∨
    match exchange with
    | ⟨.transition input, answer⟩ => input.attemptId = attemptId ∧ ∃ success, answer = .ok success ∧
        (input.request.type = .markAttemptAmbiguous ∨
          (input.request.type = .startAttemptEffect ∧ ∃ attempt,
            targetAttempt success.stepRun attemptId = some attempt ∧ attempt.state ≠ .inFlight))
    | _ => False

/-- A transition that concludes an attempt. -/
def Concludes : LeafExchange Value → Prop
  | ⟨.transition input, _⟩ => settles input.request.type = true
  | _ => False

/-- What an executor saw when it reports an attempt as ambiguous: the attempt was open, it is
no longer in flight, and the executor has not concluded it. -/
structure AmbiguityIsShown (attemptId : AttemptId) (seen : List (LeafExchange Value)) : Prop where
  opened : ∃ exchange ∈ seen, ShowsOpen attemptId exchange
  careful : ∀ exchange ∈ seen, ¬ Concludes exchange
  past : ∃ exchange ∈ seen, ShowsPastFlight attemptId exchange

/-- An executor that saw something unclear reports an ambiguous attempt, and has seen that it
is, or fails. -/
def ReportsUnclear (attemptId : AttemptId) (seen : List (LeafExchange Value))
    (result : ExecuteLeafAttemptResult) : Prop :=
  ∀ success, result = .ok success → (∃ exchange ∈ seen, IsUnclear exchange) →
    success.status = .ambiguous ∧ AmbiguityIsShown attemptId seen

private def AllClear (seen : List (LeafExchange Value)) : Prop :=
  ∀ exchange ∈ seen, ¬ IsUnclear exchange

/-- Later exchanges conclude nothing. -/
structure Continues (seen later : List (LeafExchange Value)) : Prop where
  kept : ∀ exchange ∈ seen, exchange ∈ later
  careful : (∀ exchange ∈ seen, ¬ Concludes exchange) → ∀ exchange ∈ later, ¬ Concludes exchange

theorem Continues.refl (seen : List (LeafExchange Value)) : Continues seen seen :=
  ⟨fun _ member => member, fun careful => careful⟩

theorem Continues.trans {first middle last : List (LeafExchange Value)}
    (left : Continues first middle) (right : Continues middle last) : Continues first last :=
  ⟨fun exchange member => right.kept exchange (left.kept exchange member),
    fun careful => right.careful (left.careful careful)⟩

theorem Continues.append {seen : List (LeafExchange Value)} {exchange : LeafExchange Value}
    (free : ¬ Concludes exchange) : Continues seen (seen ++ [exchange]) := by
  refine ⟨fun _ member => List.mem_append_left _ member, fun careful other member => ?_⟩
  rcases List.mem_append.mp member with old | new
  · exact careful other old
  · rw [List.mem_singleton.mp new]
    exact free

/-- The attempt was open when it was read, and nothing concluded it since. -/
structure KnowsOpen (attemptId : AttemptId) (seen : List (LeafExchange Value)) : Prop where
  opened : ∃ exchange ∈ seen, ShowsOpen attemptId exchange
  careful : ∀ exchange ∈ seen, ¬ Concludes exchange

theorem KnowsOpen.continues {attemptId : AttemptId} {seen later : List (LeafExchange Value)}
    (knows : KnowsOpen attemptId seen) (continues : Continues seen later) :
    KnowsOpen attemptId later := by
  obtain ⟨exchange, member, shows⟩ := knows.opened
  exact ⟨⟨exchange, continues.kept exchange member, shows⟩, continues.careful knows.careful⟩

section Executor

variable {hashes : CanonicalHashes Value} {seen : List (LeafExchange Value)}

/-- What an executor program does with the exchanges it saw. -/
def Follows {Result : Type} (program : LeafProgram Value Result)
    (seen : List (LeafExchange Value)) (post : List (LeafExchange Value) → Result → Prop) : Prop :=
  program.Warranted leafWarrant seen post

theorem Follows.pure {Result : Type} {result : Result}
    {post : List (LeafExchange Value) → Result → Prop} (holds : post seen result) :
    Follows (pure result : LeafProgram Value Result) seen post :=
  Program.warranted_done.mpr holds

theorem Follows.ask {Result : Type} {operation : LeafOperation Value}
    {next : operation.Answer → LeafProgram Value Result}
    {post : List (LeafExchange Value) → Result → Prop} (warrant : leafWarrant operation seen)
    (continues : ∀ answer, Follows (next answer) (seen ++ [⟨operation, answer⟩]) post) :
    Follows (ask operation >>= next) seen post :=
  Program.warranted_call_bind.mpr ⟨warrant, continues⟩

theorem Follows.bind {Result Next : Type} {program : LeafProgram Value Result}
    {next : Result → LeafProgram Value Next}
    {middle : List (LeafExchange Value) → Result → Prop}
    {post : List (LeafExchange Value) → Next → Prop} (follows : Follows program seen middle)
    (continues : ∀ later result, middle later result → Follows (next result) later post) :
    Follows (program >>= next) seen post :=
  Program.Warranted.bind follows continues

theorem AllClear.append {exchange : LeafExchange Value} (clear : AllClear seen)
    (known : ¬ IsUnclear exchange) : AllClear (seen ++ [exchange]) := by
  intro other member
  rcases List.mem_append.mp member with old | new
  · exact clear other old
  · rw [List.mem_singleton.mp new]
    exact known

theorem AllClear.transition {input : TransitionStepAttemptInput Value}
    {answer : TransitionStepAttemptResult} (clear : AllClear seen) :
    AllClear (seen ++ [⟨.transition input, answer⟩]) :=
  clear.append not_false

theorem AllClear.reports (clear : AllClear seen) (attemptId : AttemptId)
    (result : ExecuteLeafAttemptResult) : ReportsUnclear attemptId seen result := by
  rintro success _ ⟨exchange, member, unclear⟩
  exact absurd unclear (clear exchange member)

/-- A report of an attempt that was seen to be ambiguous, or a failure, is always true to what
was seen. -/
theorem reportsUnclear_of_ambiguous {attemptId : AttemptId} {result : ExecuteLeafAttemptResult}
    (knows : KnowsOpen attemptId seen)
    (ambiguous : ∀ success, result = .ok success →
      success.status = .ambiguous ∧ ∃ exchange ∈ seen, ShowsPastFlight attemptId exchange) :
    ReportsUnclear attemptId seen result := by
  intro success accepted _
  obtain ⟨status, past⟩ := ambiguous success accepted
  exact ⟨status, knows.opened, knows.careful, past⟩

/-- One transition whose answer is the report. -/
theorem follows_transition {attemptId : AttemptId} {input : TransitionStepAttemptInput Value}
    {conclude : TransitionStepAttemptResult → ExecuteLeafAttemptResult} (clear : AllClear seen)
    (warrant : ClosingIsWarranted input seen) :
    Follows (do let result ← ask (.transition input); pure (conclude result)) seen
      (ReportsUnclear attemptId) :=
  .ask warrant fun _ => .pure (clear.transition.reports attemptId _)

/-- What an executor saw of the leaf that it loaded. -/
def IsLoaded (attemptId : AttemptId) (seen : List (LeafExchange Value))
    (loaded : LoadedLeaf Value) : Prop :=
  loaded.attempt.attemptId = attemptId ∧ ∀ states : AttemptState → Prop,
    states loaded.attempt.state → ∃ exchange ∈ seen, ShowsAttempt attemptId states exchange

theorem targetAttempt_some {stepRun : StepRun} {attemptId : AttemptId} {attempt : Attempt}
    (found : targetAttempt stepRun attemptId = some attempt) : attempt.attemptId = attemptId := by
  simpa using List.find?_some found

private theorem checkLeaf_ok {effectAdapterKey startKey : String}
    {request : StartLeafAttemptRequest}
    {context : Option (StepExecutionContext Value)} {identity : Option LeafExecutionIdentity}
    {loaded : LoadedLeaf Value}
    (accepted : checkLeaf effectAdapterKey startKey request context identity = .ok loaded) :
    ∃ read stepRun, context = some read ∧ read.stepRun = some stepRun ∧
      targetAttempt stepRun request.attemptId = some loaded.attempt := by
  unfold checkLeaf at accepted
  split at accepted
  · cases accepted
  split at accepted
  · rename_i read stepRun known
    split at accepted
    · cases accepted
    split at accepted
    · cases accepted
    · rename_i attempt found
      cases accepted
      exact ⟨read, stepRun, rfl, known, found⟩
  · cases accepted

private theorem loadLeaf_follows (effectAdapterKey : String) (request : StartLeafAttemptRequest) :
    Follows (loadLeaf effectAdapterKey request : LeafProgram Value _) []
      fun later result => AllClear later ∧ (∀ exchange ∈ later, ¬ Concludes exchange) ∧
        ∀ loaded, result = .ok loaded → IsLoaded request.attemptId later loaded := by
  have nothing : AllClear ([] : List (LeafExchange Value)) := fun exchange member => by
    cases member
  unfold loadLeaf
  dsimp only
  split
  · refine .pure ⟨nothing, fun exchange member => ?_, by rintro loaded ⟨⟩⟩
    cases member
  refine .ask trivial fun context => .ask trivial fun identity => .pure ⟨?_, ?_, ?_⟩
  · have read : AllClear ([] ++ [⟨.getContextByStepId request.workspaceId request.stepRunId,
        context⟩]) := nothing.append not_false
    exact read.append not_false
  · rintro exchange member
    simp only [List.nil_append, List.cons_append, List.mem_cons, List.not_mem_nil, or_false]
      at member
    rcases member with rfl | rfl <;> exact not_false
  · intro loaded accepted
    obtain ⟨read, stepRun, given, known, found⟩ := checkLeaf_ok accepted
    exact ⟨targetAttempt_some found, fun states holds => ⟨_,
      List.mem_append_left _ (List.mem_singleton_self _),
      ⟨read, stepRun, loaded.attempt, given, known, found, holds⟩⟩⟩

/-- Preparing an output keeps what was seen, and is unclear only when it is unavailable. -/
theorem prepareSinkOutput_follows (loaded : LoadedLeaf Value) (attempt : Attempt) (value : Value)
    (clear : AllClear seen) :
    Follows (prepareSinkOutput hashes loaded attempt value) seen fun later prepared =>
      Continues seen later ∧ (prepared ≠ .unavailable → AllClear later) := by
  refine .ask trivial ?_
  rintro (_ | validatorVersion | reason)
  · exact .pure ⟨.append not_false, fun available => absurd rfl available⟩
  · dsimp only
    split
    · exact .pure ⟨.append not_false, fun available => absurd rfl available⟩
    · rename_i versioned
      have validated : AllClear (seen ++ [⟨.validate loaded.outputContract value,
          some (.accepted validatorVersion)⟩]) := by
        refine clear.append ?_
        rintro (absent | ⟨version, given, blank⟩)
        · cases absent
        · cases given
          rw [blank] at versioned
          exact versioned rfl
      have continues : Continues seen (seen ++ [⟨.validate loaded.outputContract value,
          some (.accepted validatorVersion)⟩]) := .append not_false
      refine .ask trivial ?_
      rintro (_ | validatedAt)
      · exact .pure ⟨continues.trans (.append not_false), fun available => absurd rfl available⟩
      · exact .pure ⟨continues.trans (.append not_false),
          fun _ => validated.append (Option.some_ne_none _)⟩
  · refine .pure ⟨.append not_false, fun _ => clear.append ?_⟩
    rintro (absent | ⟨version, given, _⟩)
    · cases absent
    · cases given

private theorem settleFreshOutcome_follows {attemptId : AttemptId} (loaded : LoadedLeaf Value)
    (stepRun : StepRun) (outcome : LeafEffectFinalOutcome Value)
    (output : Option (StepOutputMaterialization Value)) (clear : AllClear seen)
    (warrant : ∃ request reported,
      (⟨.execute request, some (.final reported)⟩ : LeafExchange Value) ∈ seen ∧
        request.attemptId = loaded.attempt.attemptId ∧
          RecordedAs reported (settlementRequest outcome output).2) :
    Follows (settleFreshOutcome loaded stepRun outcome output) seen (ReportsUnclear attemptId) := by
  cases outcome with
  | succeeded value settlement => exact follows_transition clear warrant
  | failed reason retryable settlement => exact follows_transition clear warrant

/-- An accepted record of the ambiguity shows that the attempt is no longer in flight. -/
theorem markAmbiguous_follows (loaded : LoadedLeaf Value) (stepRun : StepRun) :
    Follows (markAmbiguous loaded stepRun) seen fun later result =>
      Continues seen later ∧ (AllClear seen → AllClear later) ∧
        ∀ success, result = .ok success → success.status = .ambiguous ∧
          ∃ exchange ∈ later, ShowsPastFlight loaded.attempt.attemptId exchange := by
  have free : ∀ answer, ¬ Concludes (⟨.transition (loaded.command "ambiguous" stepRun
      .markAttemptAmbiguous), answer⟩ : LeafExchange Value) := fun _ settled => by cases settled
  refine .ask trivial ?_
  rintro (refusal | success)
  · exact .pure ⟨.append (free _), fun clear => clear.transition, by rintro _ ⟨⟩⟩
  · refine .pure ⟨.append (free _), fun clear => clear.transition, ?_⟩
    rintro _ ⟨⟩
    exact ⟨rfl, _, List.mem_append_right _ (List.mem_singleton_self _),
      .inr ⟨rfl, success, rfl, .inl rfl⟩⟩

private theorem markAmbiguous_reports (loaded : LoadedLeaf Value) (stepRun : StepRun)
    (knows : KnowsOpen loaded.attempt.attemptId seen) :
    Follows (markAmbiguous loaded stepRun) seen (ReportsUnclear loaded.attempt.attemptId) :=
  Program.Warranted.mono (markAmbiguous_follows loaded stepRun) fun _ _ marked =>
    reportsUnclear_of_ambiguous (knows.continues marked.1) marked.2.2

private theorem resolveBeforeEffect_follows (loaded : LoadedLeaf Value)
    (refusal : TransitionStepAttemptFailure) (clear : AllClear seen) :
    Follows (resolveBeforeEffect loaded refusal) seen fun later _ => AllClear later := by
  unfold resolveBeforeEffect
  split
  · exact .ask trivial fun _ => .pure (clear.transition)
  · exact .ask trivial fun _ => .pure (clear.transition)
  · exact .pure clear

/-- What an executor knows of the attempt once it may go on: unless the attempt is in flight,
it saw it past that. -/
structure KnowsCurrent (loaded : LoadedLeaf Value) (seen : List (LeafExchange Value))
    (current : ThresholdContinuation) : Prop
    extends KnowsOpen loaded.attempt.attemptId seen where
  same : current.attempt.attemptId = loaded.attempt.attemptId
  past : current.attempt.state ≠ .inFlight →
    ∃ exchange ∈ seen, ShowsPastFlight loaded.attempt.attemptId exchange

private theorem ensureEffectThreshold_follows (loaded : LoadedLeaf Value) (clear : AllClear seen)
    (careful : ∀ exchange ∈ seen, ¬ Concludes exchange)
    (read : IsLoaded loaded.attempt.attemptId seen loaded)
    (isOpen : attemptIsTerminal loaded.attempt.state = false) :
    Follows (ensureEffectThreshold loaded) seen fun later result => AllClear later ∧
      ∀ current, result = .ok current → KnowsCurrent loaded later current := by
  have knows : KnowsOpen loaded.attempt.attemptId seen := ⟨read.2 _ isOpen, careful⟩
  have free : ∀ answer, ¬ Concludes (⟨.transition (loaded.command "start-effect" loaded.stepRun
      .startAttemptEffect), answer⟩ : LeafExchange Value) := fun _ settled => by cases settled
  unfold ensureEffectThreshold
  split
  · rename_i past
    refine .pure ⟨clear, ?_⟩
    rintro current ⟨⟩
    rw [Bool.and_eq_true, bne_iff_ne, bne_iff_ne] at past
    obtain ⟨exchange, member, shows⟩ :=
      read.2 (fun state => state ≠ .claimed ∧ state ≠ .inFlight) past
    exact ⟨knows, rfl, fun _ => ⟨exchange, member, .inl shows⟩⟩
  · refine .ask trivial ?_
    rintro (refusal | started)
    · dsimp only
      split
      · refine (resolveBeforeEffect_follows loaded refusal (clear.transition)).bind ?_
        exact fun later result laterClear => .pure ⟨laterClear, by rintro _ ⟨⟩⟩
      · exact .pure ⟨clear.transition, by rintro _ ⟨⟩⟩
    · dsimp only
      split
      · exact .pure ⟨clear.transition, by rintro _ ⟨⟩⟩
      · rename_i attempt found
        refine .pure ⟨clear.transition, ?_⟩
        rintro current ⟨⟩
        refine ⟨knows.continues (.append (free _)), targetAttempt_some found, fun state => ?_⟩
        exact ⟨_, List.mem_append_right _ (List.mem_singleton_self _),
          .inr ⟨rfl, started, rfl, .inr ⟨rfl, attempt, found, state⟩⟩⟩

private theorem executeFreshEffect_follows (request : StartLeafAttemptRequest)
    (loaded : LoadedLeaf Value)
    (current : ThresholdContinuation) (clear : AllClear seen)
    (knows : KnowsCurrent loaded seen current) :
    Follows (executeFreshEffect hashes request loaded current) seen
      (ReportsUnclear loaded.attempt.attemptId) := by
  have same := knows.same
  refine .ask trivial ?_
  rintro (_ | (⟨value, settlement⟩ | ⟨reason, retryable, settlement⟩) | reason)
  · exact markAmbiguous_reports loaded current.stepRun (knows.continues (.append not_false))
  · have executed : AllClear (seen ++ [⟨.execute (toEffectRequest request current.attempt
        loaded.runInput), some (.final (.succeeded value settlement))⟩]) :=
      clear.append fun unclear => unclear _ rfl
    have asked : Continues seen (seen ++ [⟨.execute (toEffectRequest request current.attempt
        loaded.runInput), some (.final (.succeeded value settlement))⟩]) := .append not_false
    dsimp only
    split
    · exact settleFreshOutcome_follows loaded current.stepRun _ none executed
        ⟨_, _, List.mem_append_right _ (List.mem_singleton_self _), same, .succeeded _ _ _⟩
    · refine (prepareSinkOutput_follows loaded current.attempt value executed).bind ?_
      rintro later prepared ⟨continues, available⟩
      have known := continues.kept _ (List.mem_append_right _ (List.mem_singleton_self _))
      rcases prepared with prepared | _ | _
      · exact settleFreshOutcome_follows loaded current.stepRun _ _ (available nofun)
          ⟨_, _, known, same, .succeeded _ _ _⟩
      · exact settleFreshOutcome_follows loaded current.stepRun _ none (available nofun)
          ⟨_, _, known, same, .rejectedOutput _ _⟩
      · exact markAmbiguous_reports loaded current.stepRun
          (knows.continues (asked.trans continues))
  · exact settleFreshOutcome_follows loaded current.stepRun _ none
      (clear.append fun unclear => unclear _ rfl)
      ⟨_, _, List.mem_append_right _ (List.mem_singleton_self _), same, .failed _ _ _⟩
  · exact markAmbiguous_reports loaded current.stepRun (knows.continues (.append not_false))

private theorem resolveLookup_follows (loaded : LoadedLeaf Value) (stepRun : StepRun)
    (outcome : LeafEffectFinalOutcome Value) (proofId : String) {request : LeafEffectRequest Value}
    (clear : AllClear seen) (same : request.attemptId = loaded.attempt.attemptId)
    (found : (⟨.lookup request, some (.found outcome proofId)⟩ : LeafExchange Value) ∈ seen)
    (knows : KnowsOpen loaded.attempt.attemptId seen)
    (past : ∃ exchange ∈ seen, ShowsPastFlight loaded.attempt.attemptId exchange) :
    Follows (resolveLookup hashes loaded stepRun outcome proofId) seen
      (ReportsUnclear loaded.attempt.attemptId) := by
  cases outcome with
  | failed reason retryable settlement =>
      exact follows_transition clear ⟨request, _, proofId, found, same, .failed _ _ _⟩
  | succeeded value settlement =>
      dsimp only [resolveLookup]
      split
      · exact follows_transition clear ⟨request, _, proofId, found, same, .succeeded _ _ _⟩
      · refine (prepareSinkOutput_follows loaded loaded.attempt value clear).bind ?_
        rintro later prepared ⟨continues, available⟩
        have known := continues.kept _ found
        rcases prepared with prepared | _ | _
        · exact follows_transition (available nofun)
            ⟨request, _, proofId, known, same, .succeeded _ _ _⟩
        · exact follows_transition (available nofun)
            ⟨request, _, proofId, known, same, .rejectedOutput _ _⟩
        · refine .pure (reportsUnclear_of_ambiguous (knows.continues continues) ?_)
          rintro success ⟨⟩
          obtain ⟨exchange, member, shows⟩ := past
          exact ⟨rfl, exchange, continues.kept exchange member, shows⟩

private theorem recordAmbiguity_follows (loaded : LoadedLeaf Value)
    (current : ThresholdContinuation)
    (past : current.attempt.state ≠ .inFlight →
      ∃ exchange ∈ seen, ShowsPastFlight loaded.attempt.attemptId exchange) :
    Follows (recordAmbiguity loaded current) seen fun later result =>
      Continues seen later ∧ (AllClear seen → AllClear later) ∧
        ∀ success, result = .ok success → success.status = .ambiguous ∧
          ∃ exchange ∈ later, ShowsPastFlight loaded.attempt.attemptId exchange := by
  unfold recordAmbiguity
  split
  · exact markAmbiguous_follows loaded current.stepRun
  · rename_i notInFlight
    refine .pure ⟨.refl seen, id, ?_⟩
    rintro success ⟨⟩
    exact ⟨rfl, past (by simpa using notInFlight)⟩

private theorem reconcileEffect_follows (request : StartLeafAttemptRequest)
    (loaded : LoadedLeaf Value)
    (current : ThresholdContinuation) (clear : AllClear seen)
    (knows : KnowsCurrent loaded seen current) :
    Follows (reconcileEffect hashes request loaded current) seen
      (ReportsUnclear loaded.attempt.attemptId) := by
  unfold reconcileEffect
  split
  · exact .pure (clear.reports _ _)
  · refine .ask trivial fun lookup => ?_
    have asked : Continues seen (seen ++ [⟨.lookup (toEffectRequest request current.attempt
        loaded.runInput), lookup⟩]) := .append not_false
    refine (recordAmbiguity_follows loaded current fun state => ?_).bind ?_
    · obtain ⟨exchange, member, shows⟩ := knows.past state
      exact ⟨exchange, asked.kept exchange member, shows⟩
    rintro later ambiguous ⟨continues, laterClear, recorded⟩
    have knowsLater := knows.continues (asked.trans continues)
    split
    · rename_i success outcome proofId
      refine resolveLookup_follows loaded success.stepRun outcome proofId (laterClear ?_) knows.same
        (continues.kept _ (List.mem_append_right _ (List.mem_singleton_self _))) knowsLater
        (recorded success rfl).2
      exact clear.append fun unclear => unclear outcome proofId rfl
    · exact .pure (reportsUnclear_of_ambiguous knowsLater recorded)

private theorem isOpen_of_status {attempt : Attempt}
    (status : (terminalStatus attempt).filter (· != .ambiguous) = none) :
    attemptIsTerminal attempt.state = false := by
  unfold terminalStatus at status
  cases state : attempt.state <;> rw [state] at status <;> first | rfl | cases status

/-- An executor closes only as warranted, and reports what is unclear as ambiguous. -/
theorem executeLeafAttempt_follows (effectAdapterKey : String)
    (request : StartLeafAttemptRequest) :
    Follows (executeLeafAttempt hashes effectAdapterKey request) []
      (ReportsUnclear request.attemptId) := by
  unfold executeLeafAttempt
  refine (loadLeaf_follows effectAdapterKey request).bind ?_
  rintro seen (failure | loaded) ⟨clear, careful, read⟩
  · exact .pure (clear.reports _ _)
  have identity := (read loaded rfl).1
  have loadedRead := read loaded rfl
  rw [← identity] at loadedRead ⊢
  dsimp only
  split
  · exact follows_transition clear trivial
  split
  · exact .pure (clear.reports _ _)
  rename_i status
  refine (ensureEffectThreshold_follows loaded clear careful loadedRead
    (isOpen_of_status status)).bind ?_
  rintro later (result | current) ⟨laterClear, knows⟩
  · exact .pure (laterClear.reports _ result)
  dsimp only
  split
  · exact executeFreshEffect_follows request loaded current laterClear (knows current rfl)
  · exact reconcileEffect_follows request loaded current laterClear (knows current rfl)

end Executor

end Kurobara.Application
