import Kurobara.Foundation.Program

/-! # Warranted operations

Programs that may ask some operations only on the ground of what they were answered
before. `Program.Warranted` is a weakest precondition over the exchanges seen so far.
In a pooled run every asked operation has its warrant among the exchanges that the
run already performed (`pooled_warranted`).
-/

namespace Kurobara.Foundation

namespace Program

variable {interface : Interface} {Result Next : Type}

/-- After the exchanges seen, every operation that the program asks is warranted by what
it saw before, and it ends with exchanges and a result that the postcondition admits. -/
def Warranted (warrant : interface.Operation → List (Exchange interface) → Prop) :
    Program interface Result → List (Exchange interface) →
      (List (Exchange interface) → Result → Prop) → Prop
  | .done result, seen, post => post seen result
  | .ask operation resume, seen, post =>
      warrant operation seen ∧ ∀ answer,
        (resume answer).Warranted warrant (seen ++ [⟨operation, answer⟩]) post

variable {warrant : interface.Operation → List (Exchange interface) → Prop}
  {seen : List (Exchange interface)}

theorem warranted_done {result : Result}
    {post : List (Exchange interface) → Result → Prop} :
    (Program.done result : Program interface Result).Warranted warrant seen post ↔
      post seen result := Iff.rfl

private theorem warranted_ask {operation : interface.Operation}
    {resume : interface.Answer operation → Program interface Result}
    {post : List (Exchange interface) → Result → Prop} :
    (Program.ask operation resume).Warranted warrant seen post ↔
      warrant operation seen ∧ ∀ answer,
        (resume answer).Warranted warrant (seen ++ [⟨operation, answer⟩]) post := Iff.rfl

theorem warranted_call_bind {operation : interface.Operation}
    {next : interface.Answer operation → Program interface Next}
    {post : List (Exchange interface) → Next → Prop} :
    (call operation >>= next).Warranted warrant seen post ↔
      warrant operation seen ∧ ∀ answer,
        (next answer).Warranted warrant (seen ++ [⟨operation, answer⟩]) post := Iff.rfl

theorem Warranted.mono {program : Program interface Result}
    {post weaker : List (Exchange interface) → Result → Prop}
    (warranted : program.Warranted warrant seen post)
    (weaken : ∀ later result, post later result → weaker later result) :
    program.Warranted warrant seen weaker := by
  induction program generalizing seen with
  | done result => exact weaken seen result warranted
  | ask operation resume ih =>
      exact ⟨warranted.1, fun answer => ih answer (warranted.2 answer)⟩

/-- Sequencing: the second program continues with what the first saw. -/
theorem Warranted.bind {program : Program interface Result}
    {middle : List (Exchange interface) → Result → Prop}
    {next : Result → Program interface Next} {post : List (Exchange interface) → Next → Prop}
    (warranted : program.Warranted warrant seen middle)
    (continues : ∀ later result, middle later result →
      (next result).Warranted warrant later post) :
    (program >>= next).Warranted warrant seen post := by
  induction program generalizing seen with
  | done result => exact continues seen result warranted
  | ask operation resume ih =>
      exact ⟨warranted.1, fun answer => ih answer (warranted.2 answer)⟩

/-- The postcondition of a warranted program holds of its traces. -/
theorem Warranted.trace {program : Program interface Result}
    {post : List (Exchange interface) → Result → Prop}
    (warranted : program.Warranted warrant seen post) {exchanges : List (Exchange interface)}
    {result : Result} (traced : program.Trace exchanges result) :
    post (seen ++ exchanges) result := by
  induction traced generalizing seen with
  | done result => rw [List.append_nil]; exact warranted
  | ask answer rest ih =>
      have continued := ih (warranted.2 answer)
      rwa [List.append_assoc, List.singleton_append] at continued

end Program

-- As with the other preconditions, unfolding this would run the program.
attribute [irreducible] Program.Warranted

/-! ## Pools of warranted programs -/

variable {interface : Interface} {Store Environment Result : Type}
  {environment : PoolEnvironment interface Store Environment}
  {starts : Program interface Result → Prop}
  {warrant : interface.Operation → List (Exchange interface) → Prop}

/-- The label of an exchange. -/
def Exchange.label (exchange : Exchange interface) : PoolLabel interface Environment :=
  .performed exchange.operation exchange.answer

/-- Every program of the pool is warranted by exchanges that were performed. -/
def PoolWarranted (warrant : interface.Operation → List (Exchange interface) → Prop)
    (past : List (PoolLabel interface Environment)) (programs : List (Program interface Result)) :
    Prop :=
  ∀ program ∈ programs, ∃ seen, (∀ exchange ∈ seen, exchange.label ∈ past) ∧
    program.Warranted warrant seen fun _ _ => True

theorem PoolWarranted.mono {past : List (PoolLabel interface Environment)}
    {programs : List (Program interface Result)} (warranted : PoolWarranted warrant past programs)
    {fewer : List (Program interface Result)} (fewerIncluded : fewer ⊆ programs)
    (label : PoolLabel interface Environment) :
    PoolWarranted warrant (past ++ [label]) fewer := by
  intro program member
  obtain ⟨seen, performed, holds⟩ := warranted program (fewerIncluded member)
  exact ⟨seen, fun exchange known => List.mem_append_left _ (performed exchange known), holds⟩

private theorem subset_with_cons {Member : Type} (left right : List Member) (member : Member) :
    left ++ right ⊆ left ++ member :: right := by
  intro other known
  rw [List.mem_append] at known ⊢
  exact known.imp_right (List.mem_cons_of_mem member)

/-- One step of the pool keeps the programs warranted, and performs only what is
warranted. -/
theorem PoolStep.warranted
    (disciplined : ∀ program, starts program → program.Warranted warrant [] fun _ _ => True)
    {before after : Store × List (Program interface Result)}
    {label : PoolLabel interface Environment} {past : List (PoolLabel interface Environment)}
    (step : PoolStep environment starts before label after)
    (warranted : PoolWarranted warrant past before.2) :
    PoolWarranted warrant (past ++ [label]) after.2 ∧
      ∀ operation answer, label = .performed operation answer →
        ∃ seen, warrant operation seen ∧ ∀ exchange ∈ seen, exchange.label ∈ past := by
  cases step with
  | @performed _ _ left right operation resume answer performs =>
      obtain ⟨seen, performed, holds⟩ := warranted (.ask operation resume)
        (List.mem_append_right _ List.mem_cons_self)
      obtain ⟨here, continues⟩ := Program.warranted_ask.mp holds
      refine ⟨?_, ?_⟩
      · intro program member
        rw [List.mem_append, List.mem_cons] at member
        have included : left ++ right ⊆ left ++ .ask operation resume :: right :=
          subset_with_cons left right (.ask operation resume)
        have others := warranted.mono included (.performed operation answer)
        rcases member with inLeft | rfl | inRight
        · exact others program (List.mem_append_left _ inLeft)
        · refine ⟨seen ++ [⟨operation, answer⟩], ?_, continues answer⟩
          intro exchange known
          rcases List.mem_append.mp known with old | new
          · exact List.mem_append_left _ (performed exchange old)
          · rw [List.mem_singleton.mp new]
            exact List.mem_append_right _ (List.mem_singleton_self _)
        · exact others program (List.mem_append_right _ inRight)
      · rintro _ _ ⟨⟩
        exact ⟨seen, here, performed⟩
  | @started store programs program admitted =>
      refine ⟨?_, by rintro _ _ ⟨⟩⟩
      intro candidate member
      rcases List.mem_cons.mp member with rfl | old
      · exact ⟨[], by simp, disciplined candidate admitted⟩
      · exact warranted.mono (List.Subset.refl _) .started candidate old
  | @dropped store left right program =>
      exact ⟨warranted.mono (subset_with_cons left right program) .dropped, by rintro _ _ ⟨⟩⟩
  | environment disturbance disturbs =>
      exact ⟨warranted.mono (List.Subset.refl _) _, by rintro _ _ ⟨⟩⟩

/-- The programs of a pooled run stay warranted by the labels of the run. -/
theorem pooled_poolWarranted
    (disciplined : ∀ program, starts program → program.Warranted warrant [] fun _ _ => True)
    {first last : Store × List (Program interface Result)}
    {past labels : List (PoolLabel interface Environment)}
    (run : (pooled environment starts).Run first labels last)
    (warranted : PoolWarranted warrant past first.2) :
    PoolWarranted warrant (past ++ labels) last.2 := by
  induction run generalizing past with
  | nil state => rwa [List.append_nil]
  | @cons _ _ _ label labels moved _ ih =>
      have next := ih (PoolStep.warranted disciplined moved warranted).1
      rwa [List.append_assoc, List.singleton_append] at next

/-- **Every operation has its warrant.** In a pooled run from an empty pool, an operation
that is performed next is warranted by exchanges that the run performed before. -/
theorem pooled_warranted
    (disciplined : ∀ program, starts program → program.Warranted warrant [] fun _ _ => True)
    {first before after : Store × List (Program interface Result)}
    {earlier : List (PoolLabel interface Environment)} {operation : interface.Operation}
    {answer : interface.Answer operation}
    (run : (pooled environment starts).Run first earlier before) (empty : first.2 = [])
    (step : (pooled environment starts).step before (.performed operation answer) after) :
    ∃ seen, warrant operation seen ∧ ∀ exchange ∈ seen, exchange.label ∈ earlier := by
  have start : PoolWarranted warrant ([] : List (PoolLabel interface Environment)) first.2 := by
    rw [empty]
    intro program member
    cases member
  have warranted := pooled_poolWarranted disciplined run start
  exact (PoolStep.warranted disciplined step warranted).2 operation answer rfl

end Kurobara.Foundation
