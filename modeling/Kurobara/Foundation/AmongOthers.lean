import Kurobara.Foundation.Program

/-! # One program among others

A program that is followed from its first operation to its result, over a store that others
move between its operations. What its exchanges show of the store still holds at its end, as
far as nobody takes it back.
-/

namespace Kurobara.Foundation.Program

variable {interface : Interface} {Store Environment Result : Type}

/-- A program performed over a store: its exchanges, and the labels of the moves of others
between them. -/
inductive Among
    (perform : Store → (operation : interface.Operation) → interface.Answer operation → Store →
      Prop)
    (others : Store → Environment → Store → Prop) :
    Program interface Result → Store → List (Exchange interface) → List Environment →
      Result → Store → Prop where
  | done (result : Result) (store : Store) :
      Among perform others (.done result) store [] [] result store
  | ask {operation : interface.Operation}
      {resume : interface.Answer operation → Program interface Result} {before middle last : Store}
      {answer : interface.Answer operation} {exchanges : List (Exchange interface)}
      {labels : List Environment} {result : Result}
      (performs : perform before operation answer middle)
      (rest : Among perform others (resume answer) middle exchanges labels result last) :
      Among perform others (.ask operation resume) before (⟨operation, answer⟩ :: exchanges) labels
        result last
  | other {program : Program interface Result} {before middle last : Store} {label : Environment}
      {exchanges : List (Exchange interface)} {labels : List Environment} {result : Result}
      (moves : others before label middle)
      (rest : Among perform others program middle exchanges labels result last) :
      Among perform others program before exchanges (label :: labels) result last

variable {perform : Store → (operation : interface.Operation) → interface.Answer operation →
    Store → Prop} {others : Store → Environment → Store → Prop}
  {program : Program interface Result} {first last : Store}
  {exchanges : List (Exchange interface)} {labels : List Environment} {result : Result}

theorem Among.trace (among : Among perform others program first exchanges labels result last) :
    program.Trace exchanges result := by
  induction among with
  | done result store => exact .done result
  | ask performs _ ih => exact .ask _ ih
  | other moves _ ih => exact ih

/-- What the program and the others preserve holds at the end. -/
theorem Among.invariant {holds : Store → Prop}
    (performed : ∀ before operation answer after, holds before →
      perform before operation answer after → holds after)
    (moved : ∀ before label after, holds before → others before label after → holds after)
    (among : Among perform others program first exchanges labels result last)
    (start : holds first) : holds last := by
  induction among with
  | done result store => exact start
  | ask performs _ ih => exact ih (performed _ _ _ _ start performs)
  | other moves _ ih => exact ih (moved _ _ _ start moves)

/-- The exchanges, the result and the last store of a program whose operations a function
performs on the store, if it performs them all. -/
def performedBy
    (handle : Store → (operation : interface.Operation) →
      Option (interface.Answer operation × Store)) :
    Program interface Result → Store → Option (List (Exchange interface) × Result × Store)
  | .done result, store => some ([], result, store)
  | .ask operation resume, store => do
      let (answer, next) ← handle store operation
      let (exchanges, result, last) ← (resume answer).performedBy handle next
      some (⟨operation, answer⟩ :: exchanges, result, last)

/-- What a function performs is a run among others that do not move. -/
theorem performedBy_among
    {handle : Store → (operation : interface.Operation) →
      Option (interface.Answer operation × Store)}
    (handles : ∀ store operation answer next, handle store operation = some (answer, next) →
      perform store operation answer next)
    (performed : program.performedBy handle first = some (exchanges, result, last)) :
    Among perform others program first exchanges [] result last := by
  induction program generalizing first exchanges with
  | done result =>
      cases performed
      exact .done _ _
  | ask operation resume ih =>
      simp only [performedBy, Option.bind_eq_bind, Option.bind_eq_some_iff, Option.some.injEq,
        Prod.mk.injEq, Prod.exists] at performed
      obtain ⟨answer, next, handled, later, final, store, rest, rfl, rfl, rfl⟩ := performed
      exact .ask (handles _ _ _ _ handled) (ih answer rest)

variable {holds fact : Store → Prop} {shows breaks : Exchange interface → Prop}
  {breaksOther : Environment → Prop}

/-- When a fact is kept and when an exchange shows it, in states of an invariant. -/
structure KeepsShown
    (perform : Store → (operation : interface.Operation) → interface.Answer operation → Store →
      Prop)
    (others : Store → Environment → Store → Prop) (holds fact : Store → Prop)
    (shows breaks : Exchange interface → Prop) (breaksOther : Environment → Prop) : Prop where
  performed : ∀ before operation answer after, holds before →
    perform before operation answer after → holds after
  moved : ∀ before label after, holds before → others before label after → holds after
  shown : ∀ before operation answer after, holds before →
    perform before operation answer after → shows ⟨operation, answer⟩ → fact after
  keptByOwn : ∀ before operation answer after, holds before →
    perform before operation answer after → fact before → ¬ breaks ⟨operation, answer⟩ → fact after
  keptByOthers : ∀ before label after, holds before → others before label after → fact before →
    ¬ breaksOther label → fact after

theorem KeepsShown.kept (keeps : KeepsShown perform others holds fact shows breaks breaksOther)
    (among : Among perform others program first exchanges labels result last) (start : holds first)
    (known : fact first) (unbroken : ∀ exchange ∈ exchanges, ¬ breaks exchange)
    (undisturbed : ∀ label ∈ labels, ¬ breaksOther label) : fact last := by
  induction among with
  | done result store => exact known
  | ask performs _ ih =>
      obtain ⟨here, unbroken⟩ := List.forall_mem_cons.mp unbroken
      exact ih (keeps.performed _ _ _ _ start performs)
        (keeps.keptByOwn _ _ _ _ start performs known here) unbroken undisturbed
  | other moves _ ih =>
      obtain ⟨here, undisturbed⟩ := List.forall_mem_cons.mp undisturbed
      exact ih (keeps.moved _ _ _ start moves) (keeps.keptByOthers _ _ _ start moves known here)
        unbroken undisturbed

/-- **What was shown still holds.** A fact that some exchange of the program showed, and that
nobody took back, holds at the end. -/
theorem KeepsShown.known (keeps : KeepsShown perform others holds fact shows breaks breaksOther)
    (among : Among perform others program first exchanges labels result last) (start : holds first)
    (shown : ∃ exchange ∈ exchanges, shows exchange)
    (unbroken : ∀ exchange ∈ exchanges, ¬ breaks exchange)
    (undisturbed : ∀ label ∈ labels, ¬ breaksOther label) : fact last := by
  induction among with
  | done result store =>
      obtain ⟨exchange, member, _⟩ := shown
      cases member
  | ask performs rest ih =>
      obtain ⟨_, later⟩ := List.forall_mem_cons.mp unbroken
      have next := keeps.performed _ _ _ _ start performs
      obtain ⟨exchange, member, isShown⟩ := shown
      rcases List.mem_cons.mp member with rfl | inRest
      · exact keeps.kept rest next (keeps.shown _ _ _ _ start performs isShown) later undisturbed
      · exact ih next ⟨exchange, inRest, isShown⟩ later undisturbed
  | other moves _ ih =>
      exact ih (keeps.moved _ _ _ start moves) shown unbroken
        (List.forall_mem_cons.mp undisturbed).2

end Kurobara.Foundation.Program
