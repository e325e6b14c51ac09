import Mathlib.Order.Basic
import Mathlib.Data.List.Basic

/-! # Labelled transition systems

A transition system moves between states under labels; a label carries whatever
an observer of the step may record, answers included. `TransitionSystem.Run`
keeps the labels of a finite run in order, `TransitionSystem.Reachable` forgets
them. An inductive invariant holds of every reachable state
(`TransitionSystem.Invariant.reachable`), a condition that every step of a run
meets may be assumed of each step (`TransitionSystem.restrict`), and an event
that spends a token which no later step returns is recorded at most once
(`TransitionSystem.Run.countP_le_one`).
-/

namespace Kurobara.Foundation

universe u v

/-- Initial states and labelled steps. -/
structure TransitionSystem (State : Type u) (Label : Type v) where
  initial : State → Prop
  step : State → Label → State → Prop

namespace TransitionSystem

variable {State : Type u} {Label : Type v}

/-- A finite run between two states, with its labels in order. -/
inductive Run (system : TransitionSystem State Label) : State → List Label → State → Prop where
  | nil (state : State) : Run system state [] state
  | cons {before middle after : State} {label : Label} {labels : List Label} :
      system.step before label middle → Run system middle labels after →
        Run system before (label :: labels) after

/-- The states that some finite run from an initial state reaches. -/
inductive Reachable (system : TransitionSystem State Label) : State → Prop where
  | initial {state : State} : system.initial state → Reachable system state
  | step {before after : State} {label : Label} :
      Reachable system before → system.step before label after → Reachable system after

variable {system : TransitionSystem State Label}

/-- Two runs in a row are a run. -/
theorem Run.append {first middle last : State} {before after : List Label}
    (left : system.Run first before middle) (right : system.Run middle after last) :
    system.Run first (before ++ after) last := by
  induction left with
  | nil state => simpa using right
  | cons moved _ ih => exact .cons moved (ih right)

theorem Run.single {before after : State} {label : Label} (moved : system.step before label after) :
    system.Run before [label] after :=
  .cons moved (.nil after)

/-- Every label of a run was taken by some step. -/
theorem Run.exists_step {first last : State} {labels : List Label}
    (run : system.Run first labels last) {label : Label} (member : label ∈ labels) :
    ∃ before after, system.step before label after := by
  induction run with
  | nil state => cases member
  | cons moved _ ih =>
      rcases List.mem_cons.mp member with rfl | later
      · exact ⟨_, _, moved⟩
      · exact ih later

/-- A run from a reachable state ends in a reachable state. -/
theorem Reachable.run {first last : State} {labels : List Label}
    (reachable : system.Reachable first) (run : system.Run first labels last) :
    system.Reachable last := by
  induction run with
  | nil state => exact reachable
  | cons moved _ ih => exact ih (reachable.step moved)

/-- Every reachable state ends a run from an initial state. -/
theorem Reachable.exists_run {last : State} (reachable : system.Reachable last) :
    ∃ first labels, system.initial first ∧ system.Run first labels last := by
  induction reachable with
  | initial start => exact ⟨_, [], start, .nil _⟩
  | step _ moved ih =>
      obtain ⟨first, labels, start, run⟩ := ih
      exact ⟨first, labels ++ [_], start, run.append (.single moved)⟩

/-- A predicate that holds initially and that every step preserves. -/
structure Invariant (system : TransitionSystem State Label) (predicate : State → Prop) :
    Prop where
  initially : ∀ state, system.initial state → predicate state
  preserved : ∀ before label after, predicate before → system.step before label after →
    predicate after

/-- An inductive invariant holds of every reachable state. -/
theorem Invariant.reachable {predicate : State → Prop} (invariant : system.Invariant predicate)
    {state : State} (reachable : system.Reachable state) : predicate state := by
  induction reachable with
  | initial start => exact invariant.initially _ start
  | step _ moved ih => exact invariant.preserved _ _ _ ih moved

/-- An inductive invariant is carried along a run from any state that has it. -/
theorem Invariant.run {predicate : State → Prop} (invariant : system.Invariant predicate)
    {first last : State} {labels : List Label} (run : system.Run first labels last)
    (start : predicate first) : predicate last := by
  induction run with
  | nil state => exact start
  | cons moved _ ih => exact ih (invariant.preserved _ _ _ start moved)

/-- A relation that every step from an invariant state respects relates the two
ends of every run from such a state. -/
theorem Invariant.run_rel {predicate : State → Prop} (invariant : system.Invariant predicate)
    {relation : State → State → Prop} (reflexive : ∀ state, relation state state)
    (transitive : ∀ first middle last, relation first middle → relation middle last →
      relation first last)
    (respects : ∀ before label after, predicate before → system.step before label after →
      relation before after)
    {first last : State} {labels : List Label} (run : system.Run first labels last)
    (start : predicate first) : relation first last := by
  induction run with
  | nil state => exact reflexive state
  | cons moved _ ih =>
      exact transitive _ _ _ (respects _ _ _ start moved)
        (ih (invariant.preserved _ _ _ start moved))

/-- The steps of a system that meet a condition on the state and the label. -/
def restrict (system : TransitionSystem State Label) (condition : State → Label → Prop) :
    TransitionSystem State Label where
  initial := system.initial
  step before label after := condition before label ∧ system.step before label after

/-- A restricted run is a run. -/
theorem Reachable.of_restrict {condition : State → Label → Prop} {state : State}
    (reachable : (system.restrict condition).Reachable state) : system.Reachable state := by
  induction reachable with
  | initial start => exact .initial start
  | step _ moved ih => exact ih.step moved.2

/-- Once a token is spent, and no step returns it, the events that need it unspent
no longer occur. -/
theorem Run.countP_eq_zero {predicate : State → Prop} (invariant : system.Invariant predicate)
    {fires : Label → Bool} {spent : State → Prop}
    (keeps : ∀ before label after, predicate before → system.step before label after →
      spent before → spent after)
    (spends : ∀ before label after, predicate before → system.step before label after →
      fires label = true → ¬ spent before ∧ spent after)
    {first last : State} {labels : List Label} (run : system.Run first labels last)
    (start : predicate first) (gone : spent first) : labels.countP fires = 0 := by
  induction run with
  | nil state => rfl
  | @cons before middle after label labels moved _ ih =>
      have silent : fires label ≠ true := fun fired =>
        (spends before label middle start moved fired).1 gone
      rw [List.countP_cons_of_neg silent]
      exact ih (invariant.preserved _ _ _ start moved) (keeps _ _ _ start moved gone)

/-- **At most once.** An event that spends a token which no step returns occurs at
most once in any run. -/
theorem Run.countP_le_one {predicate : State → Prop} (invariant : system.Invariant predicate)
    {fires : Label → Bool} {spent : State → Prop}
    (keeps : ∀ before label after, predicate before → system.step before label after →
      spent before → spent after)
    (spends : ∀ before label after, predicate before → system.step before label after →
      fires label = true → ¬ spent before ∧ spent after)
    {first last : State} {labels : List Label} (run : system.Run first labels last)
    (start : predicate first) : labels.countP fires ≤ 1 := by
  induction run with
  | nil state => simp
  | @cons before middle after label labels moved rest ih =>
      have next := invariant.preserved before label middle start moved
      by_cases fired : fires label = true
      · have gone := (spends before label middle start moved fired).2
        have silent := rest.countP_eq_zero invariant keeps spends next gone
        rw [List.countP_cons_of_pos fired]
        omega
      · rw [List.countP_cons_of_neg fired]
        exact ih next

end TransitionSystem

end Kurobara.Foundation
