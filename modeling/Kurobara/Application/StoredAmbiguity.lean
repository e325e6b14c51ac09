import Kurobara.Application.PluginPool
import Kurobara.Application.TransitionAnswer
import Kurobara.Foundation.AmongOthers

/-! # Ambiguity in the store

One executor is followed among others that move the same step. What its reads and its
transitions showed of the attempt is so in the store and stays so, because the journal
repeats only what was done; so an executor that reported an unclear outcome leaves the
attempt ambiguous, with its reservation reserved.
-/

namespace Kurobara.Application

open Foundation Kernel Persistence Plugin

variable {Value : Type}

section Pool

variable {Reply : Type} [DecidableEq Value] {hashes : CanonicalHashes Value}
  {effect : TrustedPluginLeafEffect Reply Value}

variable (hashes) in
/-- Commands of one type that share a hash name one attempt. -/
def HashesTellAttempts : Prop :=
  ∀ left right : HashableCommand, left.type = right.type →
    hashes.command left = hashes.command right → left.attemptId = right.attemptId

variable (hashes) in
/-- The attempts of the journalled starts were started, and those of the journalled
ambiguities are past their flight. -/
def JournalIsTrue (rows : StepRows Value) : Prop :=
  ∀ proof ∈ rows.commandJournal, ∀ command : HashableCommand, command.type = proof.commandType →
    hashes.command command = proof.identity.commandHash →
      (proof.commandType = .startAttemptEffect →
          AttemptIn isStarted command.attemptId rows.stepRun) ∧
        (proof.commandType = .markAttemptAmbiguous →
          AttemptIn isPastFlight command.attemptId rows.stepRun)

variable (hashes) in
/-- Steps with every open attempt reserved and a true journal. -/
structure LeafRowsInvariant (rows : StepRows Value) : Prop extends PluginPoolInvariant rows where
  journal : JournalIsTrue hashes rows

/-- What the executor reads as the context of the step holds the stored step. -/
def ReadsStep (rows : StepRows Value) : LeafExchange Value → Prop
  | ⟨.getContextByStepId .., answer⟩ => ∀ context stepRun, answer = some context →
      context.stepRun = some stepRun → stepRun = rows.stepRun
  | _ => True

variable (hashes effect) in
/-- An operation of the executor that is followed: it reads the stored step. -/
def OwnPerforms (before : StepRows Value) (operation : LeafOperation Value)
    (answer : operation.Answer) (after : StepRows Value) : Prop :=
  PluginPerforms hashes effect before operation answer after ∧ ReadsStep before ⟨operation, answer⟩

/-- Starts and ambiguities are journalled by transitions only. -/
def JournalsByTransition (before after : StepRows Value) : StepActivityLabel Value → Prop
  | .transition .. => True
  | _ => ∀ proof ∈ after.commandJournal,
      proof.commandType = .startAttemptEffect ∨ proof.commandType = .markAttemptAmbiguous →
        proof ∈ before.commandJournal

variable (hashes effect) in
/-- A move of others: an operation of another executor, or other activity on the step. -/
inductive OthersMove (before : StepRows Value) : PluginPoolLabel Value → StepRows Value → Prop where
  | performed (operation : LeafOperation Value) (answer : operation.Answer)
      (after : StepRows Value)
        (performs : PluginPerforms hashes effect before operation answer after) :
      OthersMove before (.performed operation answer) after
  | environment (label : StepActivityLabel Value) (after : StepRows Value)
      (moves : StepMoves hashes before label after)
      (journals : JournalsByTransition before after label) :
      OthersMove before (.environment label) after

/-- A fresh transition of others that concludes the attempt. -/
def ConcludesAttempt (attemptId : AttemptId) (label : PluginPoolLabel Value) : Prop :=
  ∃ input success, (label = .performed (.transition input) (.ok success) ∨
      label = .environment (.transition input (.ok success))) ∧
    input.attemptId = attemptId ∧ success.replayed = false ∧ settles input.request.type = true

omit [DecidableEq Value] in
private theorem targetAttempt_of_attemptIn {stepRun : StepRun}
    (invariant : StepRunInvariant stepRun)
    {states : AttemptState → Bool} {attemptId : AttemptId}
    (inside : AttemptIn states attemptId stepRun)
    {attempt : Attempt} (found : targetAttempt stepRun attemptId = some attempt) :
    states attempt.state = true := by
  obtain ⟨known, member, identity, state⟩ := inside
  have same := invariant.attempt_inj (List.mem_of_find?_eq_some found) member
    ((targetAttempt_some found).trans identity.symm)
  rw [same]
  exact state

omit [DecidableEq Value] in
private theorem attemptIn_of_targetAttempt {stepRun : StepRun} {states : AttemptState → Bool}
    {attemptId : AttemptId} {attempt : Attempt}
    (found : targetAttempt stepRun attemptId = some attempt) (state : states attempt.state = true) :
    AttemptIn states attemptId stepRun :=
  ⟨attempt, List.mem_of_find?_eq_some found, targetAttempt_some found, state⟩

omit [DecidableEq Value] in
/-- A transition keeps an attempt in states that only its own conclusion leaves. -/
theorem TransitionEffect.attemptIn {before after : StepRows Value}
    {input : TransitionStepAttemptInput Value} {result : TransitionStepAttemptResult}
    (effect : TransitionEffect before after input result)
    (invariant : StepRunInvariant before.stepRun) {states : AttemptState → Bool}
    {attemptId : AttemptId} (inside : AttemptIn states attemptId before.stepRun)
    (kept : ∀ previous next state, AttemptMove input.request.type previous next state →
      input.attemptId = attemptId → isFresh result = true →
        states previous = true → states next = true) :
    AttemptIn states attemptId after.stepRun := by
  cases effect with
  | refused failure unchanged => exact unchanged ▸ inside
  | replayed success unchanged => exact unchanged ▸ inside
  | applied success command context transition type target accepted fresh moved ledger flag =>
      rw [moved]
      refine inside.apply invariant accepted fun previous next state move named holds => ?_
      exact kept previous next state (type ▸ move) (Option.some.inj (target.symm.trans named))
        (by rw [isFresh, flag]; rfl) holds

section Moves

variable {before after : StepRows Value} {attemptId : AttemptId}

/-- A claim moves no attempt that was there. -/
theorem attemptIn_claim {states : AttemptState → Bool} {preparation : AttemptPreparation}
    {context : StepCommandContext} {transition : StepTransition} {stepRun : StepRun}
    (invariant : StepRunInvariant stepRun) (inside : AttemptIn states attemptId stepRun)
    (accepted : applyStepCommand stepRun (.claimStepAttempt preparation) context = .ok transition) :
    AttemptIn states attemptId transition.stepRun :=
  inside.apply invariant accepted fun _ _ _ move => by cases move

private theorem PluginPerforms.attemptIn {operation : LeafOperation Value}
    {answer : operation.Answer}
    (performs : PluginPerforms hashes effect before operation answer after)
    (invariant : StepRunInvariant before.stepRun) {states : AttemptState → Bool}
    (inside : AttemptIn states attemptId before.stepRun)
    (kept : ∀ input result, (⟨operation, answer⟩ : LeafExchange Value) =
      ⟨.transition input, result⟩ →
      ∀ previous next state, AttemptMove input.request.type previous next state →
        input.attemptId = attemptId → isFresh result = true →
          states previous = true → states next = true) :
    AttemptIn states attemptId after.stepRun := by
  cases performs with
  | transition environment input result after committed =>
      exact (transitionStepAttempt_effect hashes committed).attemptIn invariant inside
        (kept input result rfl)
  | _ => exact inside

private theorem StepMoves.attemptIn {label : StepActivityLabel Value}
    (moves : StepMoves hashes before label after) (invariant : StepRunInvariant before.stepRun)
    {states : AttemptState → Bool} (inside : AttemptIn states attemptId before.stepRun)
    (kept : ∀ input result, label = .transition input result →
      ∀ previous next state, AttemptMove input.request.type previous next state →
        input.attemptId = attemptId → isFresh result = true →
          states previous = true → states next = true) :
    AttemptIn states attemptId after.stepRun := by
  cases moves with
  | transition environment input result after foreign committed =>
      exact (transitionStepAttempt_effect hashes committed).attemptIn invariant inside
        (kept input result rfl)
  | claim preparation context transition reservation after accepted moved =>
      exact moved ▸ attemptIn_claim invariant inside accepted
  | rows after step => exact step ▸ inside

/-- A transition keeps the journal true: it adds at most its own command. -/
theorem JournalIsTrue.transition (tells : HashesTellAttempts hashes)
    {environment : TransitionEnvironment} {input : TransitionStepAttemptInput Value}
    {result : TransitionStepAttemptResult} (journal : JournalIsTrue hashes before)
    (invariant : StepRunInvariant before.stepRun)
    (committed : transitionStepAttempt hashes environment before input = .ok (result, after)) :
    JournalIsTrue hashes after := by
  have effect := transitionStepAttempt_effect hashes committed
  have old : ∀ proof ∈ before.commandJournal, ∀ command : HashableCommand,
      command.type = proof.commandType → hashes.command command = proof.identity.commandHash →
        (proof.commandType = .startAttemptEffect →
            AttemptIn isStarted command.attemptId after.stepRun) ∧
          (proof.commandType = .markAttemptAmbiguous →
            AttemptIn isPastFlight command.attemptId after.stepRun) := by
    intro proof member command type hash
    obtain ⟨started, past⟩ := journal proof member command type hash
    exact ⟨fun isStart => effect.attemptIn invariant (started isStart) fun _ _ _ move _ _ _ =>
        move.isStarted_after,
      fun isMark => effect.attemptIn invariant (past isMark) fun _ _ _ move _ _ =>
        move.stays_pastFlight⟩
  cases transitionStepAttempt_answer hashes committed with
  | refused failure unchanged => rwa [unchanged]
  | replayed journalled unchanged =>
      rw [unchanged] at old ⊢
      exact old
  | applied success command context transition attempt now settlement valid stepRunId workspaceId
      found unknown settled accepted fresh moved entries flag =>
      intro proof member named type hash
      rw [entries, List.mem_append, List.mem_singleton] at member
      rcases member with earlier | rfl
      · exact old proof earlier named type hash
      have same : named.attemptId = input.attemptId :=
        tells named (hashableCommand input) type hash
      cases effect with
      | replayed success _ _ replayedFlag => cases flag.symm.trans replayedFlag
      | applied success command context transition commandType target accepted fresh moved =>
          rw [moved, same]
          refine ⟨fun isStart => ?_, fun isMark => ?_⟩
          · change input.request.type = .startAttemptEffect at isStart
            refine attemptIn_of_fresh accepted fresh target ?_ fun _ _ _ move =>
              move.isStarted_after
            rw [commandType, isStart]
            exact StepCommandType.noConfusion
          · change input.request.type = .markAttemptAmbiguous at isMark
            rw [isMark] at commandType
            refine attemptIn_of_fresh accepted fresh target ?_ fun _ _ _ move =>
              (commandType ▸ move).pastFlight_of_ambiguity
            rw [commandType]
            exact StepCommandType.noConfusion

private theorem PluginPerforms.leafRows (tells : HashesTellAttempts hashes)
    {operation : LeafOperation Value} {answer : operation.Answer}
    (performs : PluginPerforms hashes effect before operation answer after)
    (invariant : LeafRowsInvariant hashes before) : LeafRowsInvariant hashes after := by
  cases performs with
  | transition environment input result after committed =>
      exact ⟨invariant.transition (transitionStepAttempt_effect hashes committed),
        invariant.journal.transition tells invariant.stepRun committed⟩
  | _ => exact invariant

private theorem OthersMove.leafRows (tells : HashesTellAttempts hashes)
    {label : PluginPoolLabel Value}
    (moves : OthersMove hashes effect before label after)
    (invariant : LeafRowsInvariant hashes before) : LeafRowsInvariant hashes after := by
  cases moves with
  | performed operation answer after performs => exact performs.leafRows tells invariant
  | environment label after moves journals =>
      refine ⟨moves.invariant invariant.toPluginPoolInvariant, ?_⟩
      have kept : (∀ proof ∈ after.commandJournal, proof.commandType = .startAttemptEffect ∨
          proof.commandType = .markAttemptAmbiguous → proof ∈ before.commandJournal) →
          (∀ input result, label ≠ .transition input result) → JournalIsTrue hashes after := by
        intro grows foreign proof member command type hash
        have stays : ∀ states : AttemptState → Bool,
            AttemptIn states command.attemptId before.stepRun →
              AttemptIn states command.attemptId after.stepRun := fun states inside =>
          moves.attemptIn invariant.stepRun inside fun input result named =>
            absurd named (foreign input result)
        exact ⟨fun isStart => stays _ ((invariant.journal proof (grows proof member (.inl isStart))
            command type hash).1 isStart),
          fun isMark => stays _ ((invariant.journal proof (grows proof member (.inr isMark))
            command type hash).2 isMark)⟩
      cases moves with
      | transition environment input result after foreign committed =>
          exact invariant.journal.transition tells invariant.stepRun committed
      | claim => exact kept journals fun _ _ named => by cases named
      | rows => exact kept journals fun _ _ named => by cases named

/-- What the executor saw of an attempt that is past its flight is so in the store. -/
theorem OwnPerforms.pastFlight {operation : LeafOperation Value} {answer : operation.Answer}
    (performs : OwnPerforms hashes effect before operation answer after)
    (invariant : LeafRowsInvariant hashes before)
    (shows : ShowsPastFlight attemptId ⟨operation, answer⟩) :
    AttemptIn isPastFlight attemptId after.stepRun := by
  obtain ⟨performs, reads⟩ := performs
  cases performs with
  | getContextByStepId workspaceId stepRunId answer =>
      obtain ⟨context, stepRun, attempt, given, known, found, notClaimed, notInFlight⟩ | none :=
        shows
      · obtain rfl := reads context stepRun given known
        have notPrepared := invariant.stepRun.not_prepared
          (List.mem_of_find?_eq_some found)
        refine attemptIn_of_targetAttempt found ?_
        cases state : attempt.state <;> first | rfl | contradiction
      · cases none
  | transition environment input result after committed =>
      obtain none | ⟨rfl, success, rfl, kind⟩ := shows
      · cases none
      have answered := transitionStepAttempt_answer hashes committed
      have moved := transitionStepAttempt_effect hashes committed
      cases answered with
      | replayed journalled unchanged =>
          have member := List.mem_of_find?_eq_some journalled.recorded
          obtain ⟨started, past⟩ := invariant.journal _ member (hashableCommand input) rfl rfl
          rw [unchanged]
          rcases kind with isMark | ⟨isStart, attempt, found, notInFlight⟩
          · exact past isMark
          · have isStarted := targetAttempt_of_attemptIn invariant.stepRun (started isStart) found
            refine attemptIn_of_targetAttempt found ?_
            cases state : attempt.state <;> rw [state] at isStarted notInFlight <;>
              first | rfl | exact absurd rfl notInFlight | cases isStarted
      | applied success command context transition attempt now settlement valid stepRunId
          workspaceId
          found unknown settled accepted fresh movedHere entries flag =>
          have after := moved.invariant invariant.stepRun
          cases moved with
          | replayed success _ _ replayedFlag => cases flag.symm.trans replayedFlag
          | applied success command context transition type target accepted fresh moved ledger _
              permission answered =>
              rcases kind with isMark | ⟨isStart, attempt, found, notInFlight⟩
              · rw [isMark] at type
                rw [moved]
                refine attemptIn_of_fresh accepted fresh target ?_ fun _ _ _ move =>
                  (type ▸ move).pastFlight_of_ambiguity
                rw [type]
                exact StepCommandType.noConfusion
              · rw [isStart] at type
                have inFlight : AttemptIn (· == .inFlight) input.attemptId transition.stepRun := by
                  refine attemptIn_of_fresh accepted fresh target ?_ fun previous next state move =>
                    ?_
                  · rw [type]
                    exact StepCommandType.noConfusion
                  · rw [type] at move
                    cases move
                    rfl
                rw [answered] at found
                rw [← moved] at inFlight
                have state := targetAttempt_of_attemptIn after inFlight found
                exact absurd (by simpa using state) notInFlight
  | _ =>
      obtain none | none := shows
      · cases none
      · cases none

/-- What the executor read of an open attempt is so in the store. -/
theorem OwnPerforms.opened {operation : LeafOperation Value} {answer : operation.Answer}
    (performs : OwnPerforms hashes effect before operation answer after)
    (shows : ShowsOpen attemptId ⟨operation, answer⟩) :
    AttemptIn (fun state => !attemptIsTerminal state) attemptId after.stepRun := by
  obtain ⟨performs, reads⟩ := performs
  cases performs with
  | getContextByStepId workspaceId stepRunId answer =>
      obtain ⟨context, stepRun, attempt, given, known, found, isOpen⟩ := shows
      obtain rfl := reads context stepRun given known
      exact attemptIn_of_targetAttempt found (by rw [isOpen]; rfl)
  | _ => cases shows

end Moves

/-- An attempt that was seen past its flight stays so. -/
theorem keeps_pastFlight (tells : HashesTellAttempts hashes) (attemptId : AttemptId) :
    Program.KeepsShown (OwnPerforms hashes effect) (OthersMove hashes effect)
    (LeafRowsInvariant hashes)
      (fun rows => AttemptIn isPastFlight attemptId rows.stepRun) (ShowsPastFlight attemptId)
      (fun _ => False) fun _ => False where
  performed _ _ _ _ invariant performs := performs.1.leafRows tells invariant
  moved _ _ _ invariant moves := moves.leafRows tells invariant
  shown _ _ _ _ invariant performs shows := performs.pastFlight invariant shows
  keptByOwn _ _ _ _ invariant performs past _ :=
    performs.1.attemptIn invariant.stepRun past fun _ _ _ _ _ _ move _ _ => move.stays_pastFlight
  keptByOthers _ _ _ invariant moves past _ := by
    cases moves with
    | performed operation answer after performs =>
        exact performs.attemptIn invariant.stepRun past
          fun _ _ _ _ _ _ move _ _ => move.stays_pastFlight
    | environment label after moves =>
        exact moves.attemptIn invariant.stepRun past
          fun _ _ _ _ _ _ move _ _ => move.stays_pastFlight

private theorem stays_open {type : StepCommandType} {previous next : AttemptState}
    {state : StepRunState}
    (move : AttemptMove type previous next state) (silent : ¬ settles type = true) :
    (!attemptIsTerminal next) = true := by
  rw [Bool.not_eq_true']
  exact Bool.eq_false_iff.mpr fun terminal => silent (move.settles_of_terminal terminal)

/-- An attempt that was read open stays so until it is concluded. -/
theorem keeps_open (tells : HashesTellAttempts hashes) (attemptId : AttemptId) :
    Program.KeepsShown (OwnPerforms hashes effect) (OthersMove hashes effect)
    (LeafRowsInvariant hashes)
      (fun rows => AttemptIn (fun state => !attemptIsTerminal state) attemptId rows.stepRun)
      (ShowsOpen attemptId) Concludes (ConcludesAttempt attemptId) where
  performed _ _ _ _ invariant performs := performs.1.leafRows tells invariant
  moved _ _ _ invariant moves := moves.leafRows tells invariant
  shown _ _ _ _ _ performs shows := performs.opened shows
  keptByOwn _ operation answer _ invariant performs isOpen silent := by
    refine performs.1.attemptIn invariant.stepRun isOpen fun input result same _ _ _ move _ _ _ =>
      ?_
    refine stays_open move fun settling => silent ?_
    rw [same]
    exact settling
  keptByOthers _ label _ invariant moves isOpen undisturbed := by
    have concluded : ∀ {input : TransitionStepAttemptInput Value}
        {result : TransitionStepAttemptResult}, (label = .performed (.transition input) result ∨
          label = .environment (.transition input result)) → input.attemptId = attemptId →
            isFresh result = true → ¬ settles input.request.type = true := by
      rintro input (failure | success) named same fresh settling
      · cases fresh
      · exact undisturbed ⟨input, success, named, same, by simpa [isFresh] using fresh, settling⟩
    cases moves with
    | performed operation answer after performs =>
        refine performs.attemptIn invariant.stepRun isOpen
          fun input result same _ _ _ move named fresh _ => ?_
        cases same
        exact stays_open move (concluded (.inl rfl) named fresh)
    | environment label after moves =>
        refine moves.attemptIn invariant.stepRun isOpen
          fun input result same _ _ _ move named fresh _ => ?_
        exact stays_open move (concluded (.inr (congrArg _ same)) named fresh)

/-- **An executor that saw anything unclear leaves the attempt ambiguous in the store**, with
its reservation reserved, unless another one concluded it meanwhile. -/
theorem ambiguity_isStored (tells : HashesTellAttempts hashes) {effectAdapterKey : String}
    {request : StartLeafAttemptRequest} {first last : StepRows Value}
    {exchanges : List (LeafExchange Value)} {labels : List (PluginPoolLabel Value)}
    {success : ExecuteLeafAttemptSuccess} (invariant : LeafRowsInvariant hashes first)
    (among : Program.Among (OwnPerforms hashes effect) (OthersMove hashes effect)
      (executeLeafAttempt hashes effectAdapterKey request) first exchanges labels (.ok success)
        last)
    (unclear : ∃ exchange ∈ exchanges, IsUnclear exchange) :
    (EffectUnsettled request.attemptId .ambiguous last.stepRun ∧
        AttemptReserved request.attemptId last) ∨
      ∃ label ∈ labels, ConcludesAttempt request.attemptId label := by
  obtain ⟨_, shown⟩ := (executeLeafAttempt_follows effectAdapterKey request).trace among.trace
    success rfl unclear
  rw [List.nil_append] at shown
  by_cases concluded : ∃ label ∈ labels, ConcludesAttempt request.attemptId label
  · exact .inr concluded
  have undisturbed : ∀ label ∈ labels, ¬ ConcludesAttempt request.attemptId label :=
    fun label member concludes => concluded ⟨label, member, concludes⟩
  have past := (keeps_pastFlight tells request.attemptId).known among invariant shown.past
    (fun _ _ => not_false) fun _ _ => not_false
  obtain ⟨attempt, member, identity, isOpen⟩ := (keeps_open tells request.attemptId).known among
    invariant shown.opened shown.careful undisturbed
  obtain ⟨known, knownMember, knownIdentity, pastFlight⟩ := past
  have lastInvariant : LeafRowsInvariant hashes last := among.invariant
    (fun _ _ _ _ holds performs => performs.1.leafRows tells holds)
    (fun _ _ _ holds moves => moves.leafRows tells holds) invariant
  obtain rfl := lastInvariant.stepRun.attempt_inj member knownMember
    (identity.trans knownIdentity.symm)
  have unsettled : EffectUnsettled request.attemptId .ambiguous last.stepRun := by
    refine ⟨.inr rfl, attempt, member, identity, ?_⟩
    cases state : attempt.state <;> rw [state] at isOpen pastFlight <;>
      first
      | rfl
      | exact absurd isOpen Bool.false_ne_true
      | exact absurd pastFlight Bool.false_ne_true
  exact .inl ⟨unsettled, lastInvariant.attemptReserved unsettled⟩

end Pool

end Kurobara.Application
