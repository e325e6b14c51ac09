import Kurobara.Foundation.TransitionSystem
import Mathlib.Algebra.BigOperators.Group.List.Basic
import Mathlib.Algebra.GroupWithZero.Nat
import Mathlib.Algebra.Order.Monoid.Canonical.Defs
import Mathlib.Algebra.Order.Group.Nat

/-! # Interacting programs

A program asks operations of its environment and continues with the answers; an
environment may answer whatever it likes. `Program.Spends` is a rule for programs
that may use an operation only under a permission that an earlier answer granted,
and `pooled` runs any number of programs, interleaved at their operations, against
a shared store. In a pooled run the uses never exceed the grants
(`pooled_uses_le_grants`).
-/

namespace Kurobara.Foundation

/-- Operations with their types of answers. -/
structure Interface where
  Operation : Type
  Answer : Operation → Type

/-- A finite program over an interface. -/
inductive Program (interface : Interface) (Result : Type) : Type where
  | done (result : Result) : Program interface Result
  | ask (operation : interface.Operation)
      (resume : interface.Answer operation → Program interface Result) :
      Program interface Result

namespace Program

variable {interface : Interface} {Result Next : Type}

/-- Continue with the result of a program. -/
def andThen : Program interface Result → (Result → Program interface Next) →
    Program interface Next
  | .done result, next => next result
  | .ask operation resume, next => .ask operation fun answer => (resume answer).andThen next

instance : Monad (Program interface) where
  pure := .done
  bind := andThen

/-- Ask one operation. -/
def call (operation : interface.Operation) : Program interface (interface.Answer operation) :=
  .ask operation .done

@[simp] theorem pure_eq (result : Result) :
    (pure result : Program interface Result) = .done result := rfl

@[simp] theorem done_bind (result : Result) (next : Result → Program interface Next) :
    (Program.done result >>= next) = next result := rfl

@[simp] theorem ask_bind (operation : interface.Operation)
    (resume : interface.Answer operation → Program interface Result)
    (next : Result → Program interface Next) :
    (Program.ask operation resume >>= next) =
      .ask operation fun answer => resume answer >>= next := rfl

@[simp] theorem call_bind (operation : interface.Operation)
    (next : interface.Answer operation → Program interface Next) :
    (call operation >>= next) = .ask operation next := rfl

/-! ## Properties of every answered run -/

/-- The postcondition holds of every result, when each answer may be assumed to be
allowed and each asked operation must be required. -/
def Ensures (required : interface.Operation → Prop)
    (allowed : (operation : interface.Operation) → interface.Answer operation → Prop) :
    Program interface Result → (Result → Prop) → Prop
  | .done result, post => post result
  | .ask operation resume, post =>
      required operation ∧
        ∀ answer, allowed operation answer → (resume answer).Ensures required allowed post

section Ensures

variable {required : interface.Operation → Prop}
  {allowed : (operation : interface.Operation) → interface.Answer operation → Prop}

@[simp] theorem ensures_done {result : Result} {post : Result → Prop} :
    (Program.done result : Program interface Result).Ensures required allowed post ↔
      post result := Iff.rfl

@[simp] theorem ensures_ask {operation : interface.Operation}
    {resume : interface.Answer operation → Program interface Result} {post : Result → Prop} :
    (Program.ask operation resume).Ensures required allowed post ↔
      required operation ∧ ∀ answer, allowed operation answer →
        (resume answer).Ensures required allowed post := Iff.rfl

/-- Asking an operation and continuing with any allowed answer. -/
theorem ensures_call_bind {operation : interface.Operation}
    {next : interface.Answer operation → Program interface Next} {post : Next → Prop} :
    (call operation >>= next).Ensures required allowed post ↔
      required operation ∧ ∀ answer, allowed operation answer →
        (next answer).Ensures required allowed post := Iff.rfl

/-- Sequencing: the second program starts with a result that the first ensures. -/
theorem Ensures.bind {program : Program interface Result} {middle : Result → Prop}
    {next : Result → Program interface Next} {post : Next → Prop}
    (ensures : program.Ensures required allowed middle)
    (continues : ∀ result, middle result → (next result).Ensures required allowed post) :
    (program >>= next).Ensures required allowed post := by
  induction program with
  | done result => exact continues result ensures
  | ask operation resume ih =>
      exact ⟨ensures.1, fun answer admitted => ih answer (ensures.2 answer admitted)⟩

end Ensures

end Program

/-! ## Traces -/

/-- An operation with the answer that it got. -/
structure Exchange (interface : Interface) where
  operation : interface.Operation
  answer : interface.Answer operation

namespace Program

variable {interface : Interface} {Result Next : Type}

/-- The exchanges of one answered run, in order, and its result. -/
inductive Trace : Program interface Result → List (Exchange interface) → Result → Prop where
  | done (result : Result) : Trace (.done result) [] result
  | ask {operation : interface.Operation}
      {resume : interface.Answer operation → Program interface Result}
      (answer : interface.Answer operation) {exchanges : List (Exchange interface)}
      {result : Result} (rest : Trace (resume answer) exchanges result) :
      Trace (.ask operation resume) (⟨operation, answer⟩ :: exchanges) result

theorem trace_done {result last : Result} {exchanges : List (Exchange interface)} :
    (Program.done result : Program interface Result).Trace exchanges last ↔
      exchanges = [] ∧ last = result := by
  constructor
  · rintro ⟨⟩
    exact ⟨rfl, rfl⟩
  · rintro ⟨rfl, rfl⟩
    exact .done last

private theorem trace_ask {operation : interface.Operation}
    {resume : interface.Answer operation → Program interface Result} {result : Result}
    {exchanges : List (Exchange interface)} :
    (Program.ask operation resume).Trace exchanges result ↔
      ∃ answer rest, exchanges = ⟨operation, answer⟩ :: rest ∧
        (resume answer).Trace rest result := by
  constructor
  · rintro (_ | ⟨answer, rest⟩)
    exact ⟨answer, _, rfl, rest⟩
  · rintro ⟨answer, rest, rfl, traced⟩
    exact .ask answer traced

theorem trace_call_bind {operation : interface.Operation}
    {next : interface.Answer operation → Program interface Next} {last : Next}
    {exchanges : List (Exchange interface)} :
    (call operation >>= next).Trace exchanges last ↔
      ∃ answer rest, exchanges = ⟨operation, answer⟩ :: rest ∧
        (next answer).Trace rest last := trace_ask

/-- A trace of a sequence is a trace of its first program and one of the rest. -/
theorem trace_bind {program : Program interface Result} {next : Result → Program interface Next}
    {exchanges : List (Exchange interface)} {last : Next} :
    (program >>= next).Trace exchanges last ↔
      ∃ before middle after, exchanges = before ++ after ∧ program.Trace before middle ∧
        (next middle).Trace after last := by
  constructor
  · intro traced
    induction program generalizing exchanges with
    | done result => exact ⟨[], result, exchanges, rfl, .done result, traced⟩
    | ask operation resume ih =>
        obtain ⟨answer, rest, rfl, continued⟩ := trace_ask.mp traced
        obtain ⟨before, middle, after, rfl, first, second⟩ := ih answer continued
        exact ⟨_, middle, after, rfl, .ask answer first, second⟩
  · rintro ⟨before, middle, after, rfl, first, second⟩
    induction first with
    | done result => exact second
    | ask answer _ ih => exact .ask answer (ih second)

/-- The exchanges and the result of a program whose every operation is answered by a
function. -/
def answeredBy (answers : (operation : interface.Operation) → interface.Answer operation) :
    Program interface Result → List (Exchange interface) × Result
  | .done result => ([], result)
  | .ask operation resume =>
      let (exchanges, result) := (resume (answers operation)).answeredBy answers
      (⟨operation, answers operation⟩ :: exchanges, result)

theorem answeredBy_trace (answers : (operation : interface.Operation) → interface.Answer operation)
    (program : Program interface Result) :
    program.Trace (program.answeredBy answers).1 (program.answeredBy answers).2 := by
  induction program with
  | done result => exact .done result
  | ask operation resume ih => exact .ask (answers operation) (ih (answers operation))

/-- A traced run asks only required operations and ends as ensured, when its answers
are allowed. -/
theorem Ensures.trace {required : interface.Operation → Prop}
    {allowed : (operation : interface.Operation) → interface.Answer operation → Prop}
    {program : Program interface Result} {post : Result → Prop}
    (ensures : program.Ensures required allowed post) {exchanges : List (Exchange interface)}
    {result : Result} (traced : program.Trace exchanges result)
    (answered : ∀ exchange ∈ exchanges, allowed exchange.operation exchange.answer) :
    post result ∧ ∀ exchange ∈ exchanges, required exchange.operation := by
  induction traced with
  | done result => exact ⟨ensures, by simp⟩
  | ask answer rest ih =>
      obtain ⟨asked, continues⟩ := ensures_ask.mp ensures
      have allowedHere := answered _ List.mem_cons_self
      obtain ⟨ended, others⟩ := ih (continues answer allowedHere) fun exchange member =>
        answered exchange (List.mem_cons_of_mem _ member)
      exact ⟨ended, List.forall_mem_cons.mpr ⟨asked, others⟩⟩

end Program

/-! ## Permissions -/

/-- How many permissions an answer grants, and how many an operation uses. -/
structure Budget (interface : Interface) where
  grants : (operation : interface.Operation) → interface.Answer operation → ℕ
  uses : interface.Operation → ℕ

namespace Program

variable {interface : Interface} {Result Next : Type} {budget : Budget interface}

/-- Started with the held permissions, the program never uses more than it holds,
and ends with a result and leftover that the postcondition admits. -/
def Spends (budget : Budget interface) :
    Program interface Result → ℕ → (Result → ℕ → Prop) → Prop
  | .done result, held, post => post result held
  | .ask operation resume, held, post =>
      budget.uses operation ≤ held ∧
        ∀ answer, (resume answer).Spends budget
          (held - budget.uses operation + budget.grants operation answer) post

@[simp] theorem spends_done {result : Result} {held : ℕ} {post : Result → ℕ → Prop} :
    (Program.done result : Program interface Result).Spends budget held post ↔
      post result held := Iff.rfl

private theorem spends_ask {operation : interface.Operation}
    {resume : interface.Answer operation → Program interface Result} {held : ℕ}
    {post : Result → ℕ → Prop} :
    (Program.ask operation resume).Spends budget held post ↔
      budget.uses operation ≤ held ∧ ∀ answer, (resume answer).Spends budget
        (held - budget.uses operation + budget.grants operation answer) post := Iff.rfl

theorem spends_call_bind {operation : interface.Operation}
    {next : interface.Answer operation → Program interface Next} {held : ℕ}
    {post : Next → ℕ → Prop} :
    (call operation >>= next).Spends budget held post ↔
      budget.uses operation ≤ held ∧ ∀ answer, (next answer).Spends budget
        (held - budget.uses operation + budget.grants operation answer) post := Iff.rfl

/-- Sequencing: the second program starts with what the first left. -/
theorem Spends.bind {program : Program interface Result} {held : ℕ}
    {middle : Result → ℕ → Prop} {next : Result → Program interface Next}
    {post : Next → ℕ → Prop} (spends : program.Spends budget held middle)
    (continues : ∀ result left, middle result left → (next result).Spends budget left post) :
    (program >>= next).Spends budget held post := by
  induction program generalizing held with
  | done result => exact continues result held spends
  | ask operation resume ih => exact ⟨spends.1, fun answer => ih answer (spends.2 answer)⟩

/-- A program that asks only operations without a use needs no permission. -/
theorem Ensures.spends {program : Program interface Result} {post : Result → Prop}
    (ensures : program.Ensures (fun operation => budget.uses operation = 0) (fun _ _ => True) post)
    (held : ℕ) : program.Spends budget held fun result _ => post result := by
  induction program generalizing held with
  | done result => exact ensures
  | ask operation resume ih =>
      exact ⟨by rw [ensures.1]; exact Nat.zero_le held,
        fun answer => ih answer (ensures.2 answer trivial) _⟩

end Program

-- The rules above characterize both; unfolding them would run the program.
attribute [irreducible] Program.Ensures Program.Spends

/-! ## Pools of programs -/

/-- What an observer of a pooled run records. -/
inductive PoolLabel (interface : Interface) (Environment : Type) where
  | performed (operation : interface.Operation) (answer : interface.Answer operation)
  | started
  | dropped
  | environment (label : Environment)

/-- A store, and the environment that answers and changes it. -/
structure PoolEnvironment (interface : Interface) (Store Environment : Type) where
  initial : Store → Prop
  perform : Store → (operation : interface.Operation) → interface.Answer operation → Store → Prop
  disturb : Store → Environment → Store → Prop

variable {interface : Interface} {Store Environment Result : Type}

/-- Any number of programs over one store, interleaved at their operations. A
program may be started at any time, and dropped at any point: a dropped program
is a crashed one, or one whose last answer was lost. -/
inductive PoolStep (environment : PoolEnvironment interface Store Environment)
    (starts : Program interface Result → Prop) :
    Store × List (Program interface Result) → PoolLabel interface Environment →
      Store × List (Program interface Result) → Prop where
  | performed {before after : Store} {left right : List (Program interface Result)}
      (operation : interface.Operation)
      (resume : interface.Answer operation → Program interface Result)
      (answer : interface.Answer operation)
      (performs : environment.perform before operation answer after) :
      PoolStep environment starts (before, left ++ .ask operation resume :: right)
        (.performed operation answer) (after, left ++ resume answer :: right)
  | started {store : Store} {programs : List (Program interface Result)}
      (program : Program interface Result) (admitted : starts program) :
      PoolStep environment starts (store, programs) .started (store, program :: programs)
  | dropped {store : Store} {left right : List (Program interface Result)}
      (program : Program interface Result) :
      PoolStep environment starts (store, left ++ program :: right) .dropped (store, left ++ right)
  | environment {before after : Store} {programs : List (Program interface Result)}
      (label : Environment) (disturbs : environment.disturb before label after) :
      PoolStep environment starts (before, programs) (.environment label) (after, programs)

/-- Any number of programs over one store: a step performs one program's next operation, starts one,
stops one, or is the environment's. -/
def pooled (environment : PoolEnvironment interface Store Environment)
    (starts : Program interface Result → Prop) :
    TransitionSystem (Store × List (Program interface Result))
      (PoolLabel interface Environment) where
  initial state := environment.initial state.1 ∧ state.2 = []
  step := PoolStep environment starts

section Permissions

variable (budget : Budget interface)

/-- The permits that a step uses up. -/
def PoolLabel.uses : PoolLabel interface Environment → ℕ
  | .performed operation _ => budget.uses operation
  | _ => 0

/-- The permits that a step gives out. -/
def PoolLabel.grants : PoolLabel interface Environment → ℕ
  | .performed operation answer => budget.grants operation answer
  | _ => 0

/-- The programs of a pool together hold at most so many permissions. -/
def PoolHolds : List (Program interface Result) → ℕ → Prop
  | [], _ => True
  | program :: rest, total => ∃ permits remaining, permits + remaining ≤ total ∧
      program.Spends budget permits (fun _ _ => True) ∧ PoolHolds rest remaining

variable {budget}

theorem PoolHolds.split {left right : List (Program interface Result)}
    {program : Program interface Result} {total : ℕ}
    (holds : PoolHolds budget (left ++ program :: right) total) :
    ∃ permits remaining, permits + remaining ≤ total ∧
      program.Spends budget permits (fun _ _ => True) ∧
        PoolHolds budget (left ++ right) remaining := by
  induction left generalizing total with
  | nil => exact holds
  | cons first left ih =>
      obtain ⟨permits, remaining, bound, spends, rest⟩ := holds
      obtain ⟨taken, others, innerBound, programSpends, kept⟩ := ih rest
      exact ⟨taken, permits + others, by omega, programSpends,
        permits, others, le_rfl, spends, kept⟩

theorem PoolHolds.insert {left right : List (Program interface Result)}
    {program : Program interface Result} {permits remaining total : ℕ}
    (bound : permits + remaining ≤ total)
    (spends : program.Spends budget permits (fun _ _ => True))
    (holds : PoolHolds budget (left ++ right) remaining) :
    PoolHolds budget (left ++ program :: right) total := by
  induction left generalizing remaining total with
  | nil => exact ⟨permits, remaining, bound, spends, holds⟩
  | cons first left ih =>
      obtain ⟨firstPermits, others, firstBound, firstSpends, rest⟩ := holds
      exact ⟨firstPermits, permits + others, by omega, firstSpends, ih le_rfl rest⟩

theorem PoolHolds.mono {programs : List (Program interface Result)} {total larger : ℕ}
    (holds : PoolHolds budget programs total) (bound : total ≤ larger) :
    PoolHolds budget programs larger := by
  cases programs with
  | nil => trivial
  | cons first rest =>
      obtain ⟨permits, remaining, within, spends, kept⟩ := holds
      exact ⟨permits, remaining, within.trans bound, spends, kept⟩

/-- One step uses and grants permissions of the pool. -/
theorem PoolStep.holds {environment : PoolEnvironment interface Store Environment}
    {starts : Program interface Result → Prop}
    (disciplined : ∀ program, starts program → program.Spends budget 0 fun _ _ => True)
    {before after : Store × List (Program interface Result)}
    {label : PoolLabel interface Environment} {total : ℕ}
    (step : PoolStep environment starts before label after)
    (holds : PoolHolds budget before.2 total) :
    ∃ left, label.uses budget + left = total + label.grants budget ∧
      PoolHolds budget after.2 left := by
  cases step with
  | @performed _ _ left right operation resume answer performs =>
      obtain ⟨permits, remaining, bound, spends, rest⟩ := PoolHolds.split holds
      obtain ⟨affordable, resumes⟩ := Program.spends_ask.mp spends
      refine ⟨total + budget.grants operation answer - budget.uses operation, ?_,
        PoolHolds.insert ?_ (resumes answer) rest⟩
      · change budget.uses operation + _ = total + budget.grants operation answer
        omega
      · omega
  | started program admitted =>
      exact ⟨total, Nat.zero_add total, 0, total, by omega, disciplined program admitted, holds⟩
  | dropped program =>
      obtain ⟨permits, remaining, bound, _, rest⟩ := PoolHolds.split holds
      exact ⟨total, Nat.zero_add total, rest.mono (by omega)⟩
  | environment label disturbs => exact ⟨total, Nat.zero_add total, holds⟩

/-- **Uses need grants.** Along a pooled run of programs that start without a
permission, the operations use at most as many permissions as the answers granted. -/
theorem pooled_uses_le_grants {environment : PoolEnvironment interface Store Environment}
    {starts : Program interface Result → Prop}
    (disciplined : ∀ program, starts program → program.Spends budget 0 fun _ _ => True)
    {first last : Store × List (Program interface Result)}
    {labels : List (PoolLabel interface Environment)} {total : ℕ}
    (run : (pooled environment starts).Run first labels last)
    (holds : PoolHolds budget first.2 total) :
    (labels.map (PoolLabel.uses budget)).sum ≤
      total + (labels.map (PoolLabel.grants budget)).sum := by
  induction run generalizing total with
  | nil state => simp
  | cons moved _ ih =>
      obtain ⟨left, balance, next⟩ := PoolStep.holds disciplined moved holds
      have rest := ih next
      simp only [List.map_cons, List.sum_cons]
      omega

end Permissions

end Kurobara.Foundation
