import Mathlib.Data.List.Basic

/-! # Separated text

Texts that are written one after the other with a separator between them. They are read back
uniquely when none of them contains the separator.
-/

namespace Kurobara.Foundation

/-- Entries are determined by their images where no two of them share one. -/
theorem map_inj_on {Entry Image : Type} {image : Entry → Image} : ∀ {left right : List Entry},
    left.map image = right.map image →
    (∀ leftEntry ∈ left, ∀ rightEntry ∈ right,
      image leftEntry = image rightEntry → leftEntry = rightEntry) →
    left = right
  | [], [], _, _ => rfl
  | [], _ :: _, same, _ => absurd same (by simp)
  | _ :: _, [], same, _ => absurd same (by simp)
  | leftEntry :: left, rightEntry :: right, same, injective => by
      rw [List.map_cons, List.map_cons, List.cons.injEq] at same
      have head := injective leftEntry List.mem_cons_self rightEntry List.mem_cons_self same.1
      have tail := map_inj_on same.2 fun entry member other isOther =>
        injective entry (List.mem_cons_of_mem _ member) other (List.mem_cons_of_mem _ isOther)
      rw [head, tail]

/-- Texts with bytes that do not contain the separator are determined by their joined text. -/
theorem intercalate_inj {Character : Type} [DecidableEq Character] {separator : Character}
    {left right : List (List Character)}
    (leftFree : ∀ text ∈ left, separator ∉ text ∧ text ≠ [])
    (rightFree : ∀ text ∈ right, separator ∉ text ∧ text ≠ [])
    (same : [separator].intercalate left = [separator].intercalate right) : left = right := by
  have nonempty : ∀ texts : List (List Character), texts ≠ [] →
      (∀ text ∈ texts, separator ∉ text ∧ text ≠ []) → [separator].intercalate texts ≠ [] := by
    intro texts given free none
    have split := List.splitOn_intercalate separator (fun text member => (free text member).1) given
    rw [none, List.splitOn_nil] at split
    exact (free [] (split ▸ List.mem_singleton_self [])).2 rfl
  by_cases leftEmpty : left = []
  · by_contra differs
    have given : right ≠ [] := fun none => differs (leftEmpty.trans none.symm)
    rw [leftEmpty, List.intercalate_nil] at same
    exact nonempty right given rightFree same.symm
  · by_cases rightEmpty : right = []
    · rw [rightEmpty, List.intercalate_nil] at same
      exact absurd same (nonempty left leftEmpty leftFree)
    · have parts := congrArg (List.splitOn separator) same
      rwa [List.splitOn_intercalate separator (fun text member => (leftFree text member).1)
          leftEmpty,
        List.splitOn_intercalate separator (fun text member => (rightFree text member).1)
          rightEmpty] at parts

end Kurobara.Foundation
