import Kurobara.Foundation.Program

/-! # Programs with custody

Programs of a pool that each keep something in the shared store: what one of them relies
on is left alone by the operations of all others. `Program.Keeps` is a rely-guarantee
precondition over the custody that a program holds. When every program keeps its custody,
the store stays sound in every pooled run (`Custody.pooled_invariant`). `recorded` extends
a store by the exchanges that were performed on it, so that soundness may speak of them.
-/

namespace Kurobara.Foundation

variable {interface : Interface} {Store Environment Result Next : Type}

/-- What programs may hold of a store, and what the store owes to each holding. Two
programs hold things that are apart. -/
structure Custody (environment : PoolEnvironment interface Store Environment) where
  Holding : Type
  nothing : Holding
  sound : Store → Prop
  holds : Holding → Store → Prop
  apart : Holding → Holding → Prop
  symmetric : ∀ {one other}, apart one other → apart other one
  initially : ∀ store, environment.initial store → sound store
  holds_nothing : ∀ store, sound store → holds nothing store
  nothing_apart : ∀ holding, apart nothing holding
  disturbed : ∀ before label after, sound before → environment.disturb before label after →
    sound after ∧ ∀ holding, holds holding before → holds holding after

namespace Custody

variable {environment : PoolEnvironment interface Store Environment}
  (custody : Custody environment)

/-- A program passes from one holding to the next, and leaves all others alone. -/
structure Passes (holding next : custody.Holding) (before after : Store) : Prop where
  sound : custody.sound after
  holds : custody.holds next after
  others : ∀ other, custody.apart holding other → custody.holds other before →
    custody.apart next other ∧ custody.holds other after

end Custody

namespace Program

variable {environment : PoolEnvironment interface Store Environment}
  (custody : Custody environment)

/-- Started with a holding, every operation of the program passes to a holding with which
it continues, and it ends with a holding and a result that the postcondition admits. -/
def Keeps : Program interface Result → custody.Holding →
    (custody.Holding → Result → Prop) → Prop
  | .done result, holding, post => post holding result
  | .ask operation resume, holding, post =>
      ∀ before answer after, custody.sound before → custody.holds holding before →
        environment.perform before operation answer after →
          ∃ next, custody.Passes holding next before after ∧ (resume answer).Keeps next post

variable {custody}

@[simp] theorem keeps_done {result : Result} {holding : custody.Holding}
    {post : custody.Holding → Result → Prop} :
    (Program.done result : Program interface Result).Keeps custody holding post ↔
      post holding result := Iff.rfl

theorem keeps_ask {operation : interface.Operation}
    {resume : interface.Answer operation → Program interface Result} {holding : custody.Holding}
    {post : custody.Holding → Result → Prop} :
    (Program.ask operation resume).Keeps custody holding post ↔
      ∀ before answer after, custody.sound before → custody.holds holding before →
        environment.perform before operation answer after →
          ∃ next, custody.Passes holding next before after ∧
            (resume answer).Keeps custody next post := Iff.rfl

theorem keeps_call_bind {operation : interface.Operation}
    {next : interface.Answer operation → Program interface Next} {holding : custody.Holding}
    {post : custody.Holding → Next → Prop} :
    (call operation >>= next).Keeps custody holding post ↔
      ∀ before answer after, custody.sound before → custody.holds holding before →
        environment.perform before operation answer after →
          ∃ later, custody.Passes holding later before after ∧
            (next answer).Keeps custody later post := Iff.rfl

/-- Sequencing: the second program starts with what the first one still holds. -/
theorem Keeps.bind {program : Program interface Result} {holding : custody.Holding}
    {middle : custody.Holding → Result → Prop} {next : Result → Program interface Next}
    {post : custody.Holding → Next → Prop} (keeps : program.Keeps custody holding middle)
    (continues : ∀ later result, middle later result → (next result).Keeps custody later post) :
    (program >>= next).Keeps custody holding post := by
  induction program generalizing holding with
  | done result => exact continues holding result keeps
  | ask operation resume ih =>
      intro before answer after sound held performs
      obtain ⟨later, passes, rest⟩ := keeps before answer after sound held performs
      exact ⟨later, passes, ih answer rest⟩

theorem Keeps.mono {program : Program interface Result} {holding : custody.Holding}
    {post weaker : custody.Holding → Result → Prop} (keeps : program.Keeps custody holding post)
    (weaken : ∀ later result, post later result → weaker later result) :
    program.Keeps custody holding weaker := by
  induction program generalizing holding with
  | done result => exact weaken holding result keeps
  | ask operation resume ih =>
      intro before answer after sound held performs
      obtain ⟨later, passes, rest⟩ := keeps before answer after sound held performs
      exact ⟨later, passes, ih answer rest⟩

end Program

-- As with the other preconditions, unfolding this would run the program.
attribute [irreducible] Program.Keeps

namespace Custody

variable {environment : PoolEnvironment interface Store Environment}
  (custody : Custody environment)

/-- The store is sound, and every program of the pool keeps something of it that is apart
from what the others keep. -/
structure PoolKept (state : Store × List (Program interface Result))
    (holdings : List custody.Holding) : Prop where
  sound : custody.sound state.1
  keeps : List.Forall₂ (fun program holding =>
    Program.Keeps custody program holding fun _ _ => True) state.2 holdings
  holds : ∀ holding ∈ holdings, custody.holds holding state.1
  apart : holdings.Pairwise custody.apart

variable {custody}

/-- One program of the pool takes a step with its holding. -/
theorem PoolKept.passes {before after : Store} {left right : List (Program interface Result)}
    {program continued : Program interface Result} {holdings : List custody.Holding}
    (kept : custody.PoolKept (before, left ++ program :: right) holdings)
    (step : ∀ holding, custody.holds holding before →
      program.Keeps custody holding (fun _ _ => True) →
        ∃ next, custody.Passes holding next before after ∧
          continued.Keeps custody next fun _ _ => True) :
    ∃ later, custody.PoolKept (after, left ++ continued :: right) later := by
  obtain ⟨lefts, rest, keepsLeft, keepsRest, rfl⟩ :
      ∃ lefts rest, List.Forall₂ (fun program holding =>
          Program.Keeps custody program holding fun _ _ => True) left lefts ∧
        List.Forall₂ (fun program holding =>
          Program.Keeps custody program holding fun _ _ => True) (program :: right) rest ∧
          holdings = lefts ++ rest := by
    refine ⟨holdings.take left.length, holdings.drop left.length, ?_, ?_,
      (List.take_append_drop left.length holdings).symm⟩
    · have taken := List.forall₂_take left.length kept.keeps
      rwa [List.take_left' rfl] at taken
    · have dropped := List.forall₂_drop left.length kept.keeps
      rwa [List.drop_left' rfl] at dropped
  cases keepsRest with
  | @cons _ holding _ rights keeps keepsRight =>
      obtain ⟨next, passes, continues⟩ :=
        step holding (kept.holds holding (by simp)) keeps
      obtain ⟨apartLeft, apartRest, across⟩ := List.pairwise_append.mp kept.apart
      obtain ⟨apartHere, apartRight⟩ := List.pairwise_cons.mp apartRest
      have others : ∀ other ∈ lefts ++ rights,
          custody.apart next other ∧ custody.holds other after := by
        intro other member
        rcases List.mem_append.mp member with inLeft | inRight
        · exact passes.others other
            (custody.symmetric (across other inLeft holding List.mem_cons_self))
            (kept.holds other (List.mem_append_left _ inLeft))
        · exact passes.others other (apartHere other inRight)
            (kept.holds other (List.mem_append_right _ (List.mem_cons_of_mem _ inRight)))
      refine ⟨lefts ++ next :: rights, passes.sound,
        List.rel_append keepsLeft (.cons continues keepsRight), ?_, ?_⟩
      · intro other member
        rcases List.mem_append.mp member with inLeft | inRest
        · exact (others other (List.mem_append_left _ inLeft)).2
        · rcases List.mem_cons.mp inRest with rfl | inRight
          · exact passes.holds
          · exact (others other (List.mem_append_right _ inRight)).2
      · refine List.pairwise_append.mpr ⟨apartLeft, List.pairwise_cons.mpr
          ⟨fun other inRight => (others other (List.mem_append_right _ inRight)).1,
            apartRight⟩, ?_⟩
        intro one inLeft other inRest
        rcases List.mem_cons.mp inRest with rfl | inRight
        · exact custody.symmetric (others one (List.mem_append_left _ inLeft)).1
        · exact across one inLeft other (List.mem_cons_of_mem _ inRight)

/-- One step of the pool keeps every custody. -/
theorem PoolKept.step {starts : Program interface Result → Prop}
    (disciplined : ∀ program, starts program →
      program.Keeps custody custody.nothing fun _ _ => True)
    {before after : Store × List (Program interface Result)}
    {label : PoolLabel interface Environment} {holdings : List custody.Holding}
    (step : PoolStep environment starts before label after)
    (kept : custody.PoolKept before holdings) : ∃ later, custody.PoolKept after later := by
  cases step with
  | performed operation resume answer performs =>
      refine kept.passes fun holding held keeps => ?_
      exact Program.keeps_ask.mp keeps _ answer _ kept.sound held performs
  | started program admitted =>
      refine ⟨custody.nothing :: holdings, kept.sound, .cons (disciplined program admitted)
        kept.keeps, ?_, List.pairwise_cons.mpr ⟨fun other _ => custody.nothing_apart other,
          kept.apart⟩⟩
      intro holding member
      rcases List.mem_cons.mp member with rfl | old
      · exact custody.holds_nothing _ kept.sound
      · exact kept.holds holding old
  | @dropped store left right program =>
      -- The dropped program's holding is given up with it.
      have left' := List.forall₂_take left.length kept.keeps
      have right' := List.forall₂_drop (left.length + 1) kept.keeps
      rw [List.take_left' rfl] at left'
      rw [← List.drop_drop, List.drop_left' rfl, List.drop_one, List.tail_cons] at right'
      have sublist : (holdings.take left.length ++ holdings.drop (left.length + 1)).Sublist
          holdings := by
        conv_rhs => rw [← List.take_append_drop left.length holdings]
        refine List.Sublist.append (List.Sublist.refl _) ?_
        rw [← List.drop_drop]
        exact List.drop_sublist _ _
      exact ⟨_, kept.sound, List.rel_append left' right',
        fun holding member => kept.holds holding (sublist.subset member),
        kept.apart.sublist sublist⟩
  | environment label disturbs =>
      obtain ⟨sound, holds⟩ := custody.disturbed _ label _ kept.sound disturbs
      exact ⟨holdings, sound, kept.keeps, fun holding member =>
        holds holding (kept.holds holding member), kept.apart⟩

/-- **Custody.** When every started program keeps its custody, the store of every pooled
run is sound. -/
theorem pooled_invariant {starts : Program interface Result → Prop}
    (disciplined : ∀ program, starts program →
      program.Keeps custody custody.nothing fun _ _ => True) :
    (pooled environment starts).Invariant fun state =>
      ∃ holdings, custody.PoolKept state holdings where
  initially state start := by
    obtain ⟨store, programs⟩ := state
    obtain ⟨started, empty⟩ := start
    cases empty
    exact ⟨[], custody.initially store started, .nil, by simp, .nil⟩
  preserved _ _ _ kept step := by
    obtain ⟨holdings, kept⟩ := kept
    exact kept.step disciplined step

end Custody

/-! ## Recorded exchanges -/

/-- The exchanges of a pooled run, in order. -/
def exchanges : List (PoolLabel interface Environment) → List (Exchange interface)
  | [] => []
  | .performed operation answer :: rest => ⟨operation, answer⟩ :: exchanges rest
  | .started :: rest => exchanges rest
  | .dropped :: rest => exchanges rest
  | .environment _ :: rest => exchanges rest

/-- The store extended by what was performed on it. -/
def recorded (environment : PoolEnvironment interface Store Environment) :
    PoolEnvironment interface (Store × List (Exchange interface)) Environment where
  initial state := environment.initial state.1 ∧ state.2 = []
  perform before operation answer after :=
    environment.perform before.1 operation answer after.1 ∧
      after.2 = before.2 ++ [⟨operation, answer⟩]
  disturb before label after := environment.disturb before.1 label after.1 ∧ after.2 = before.2

/-- A pooled run, with its exchanges recorded. -/
theorem pooled_recorded {environment : PoolEnvironment interface Store Environment}
    {starts : Program interface Result → Prop}
    {first last : Store × List (Program interface Result)}
    {labels : List (PoolLabel interface Environment)}
    (run : (pooled environment starts).Run first labels last)
    (past : List (Exchange interface)) :
    (pooled (recorded environment) starts).Run ((first.1, past), first.2) labels
      ((last.1, past ++ exchanges labels), last.2) := by
  induction run generalizing past with
  | nil state =>
      rw [exchanges, List.append_nil]
      exact .nil _
  | @cons before middle after label labels moved _ ih =>
      cases moved with
      | performed operation resume answer performs =>
          have rest := ih (past ++ [⟨operation, answer⟩])
          rw [List.append_assoc, List.singleton_append] at rest
          exact .cons (.performed operation resume answer ⟨performs, rfl⟩) rest
      | started program admitted => exact .cons (.started program admitted) (ih past)
      | dropped program => exact .cons (.dropped program) (ih past)
      | @environment before after programs label disturbs =>
          have step : PoolStep (recorded environment) starts ((before, past), programs)
              (.environment label) ((after, past), programs) := .environment label ⟨disturbs, rfl⟩
          exact .cons step (ih past)

end Kurobara.Foundation
