import Mathlib.Algebra.BigOperators.Group.List.Basic
import Mathlib.Algebra.GroupWithZero.Nat
import Mathlib.Algebra.Order.Group.Nat

/-! # Batches of entries

Entries put into batches one after the other: a batch is closed before an entry that would exceed
its number of entries or its weight.
-/

namespace Kurobara.Foundation

universe u

/-- Bounds of a batch. -/
structure BatchBounds where
  maxItems : ℕ
  maxWeight : ℕ
  deriving DecidableEq, Repr

variable {Entry : Type u} (weight : Entry → ℕ) (bounds : BatchBounds)

/-- The weight of a batch. -/
def totalWeight (entries : List Entry) : ℕ :=
  (entries.map weight).sum

/-- The batch must be closed before the entry. -/
def closesBefore (batch : List Entry) (entry : Entry) : Bool :=
  decide (0 < batch.length) && (decide (bounds.maxItems ≤ batch.length) ||
    decide (bounds.maxWeight < totalWeight weight batch + weight entry))

/-- The batches of entries behind those of an open batch. -/
def batchesFrom : List Entry → List Entry → List (List Entry)
  | [], [] => []
  | batch, [] => [batch]
  | batch, entry :: rest =>
      if closesBefore weight bounds batch entry then batch :: batchesFrom [entry] rest
      else batchesFrom (batch ++ [entry]) rest

/-- A batch that respects its bounds. -/
structure IsBatch (batch : List Entry) : Prop where
  nonempty : batch ≠ []
  items : batch.length ≤ bounds.maxItems
  weight : totalWeight weight batch ≤ bounds.maxWeight

variable {weight bounds}

theorem batchesFrom_cons (batch : List Entry) (entry : Entry) (rest : List Entry) :
    batchesFrom weight bounds batch (entry :: rest) =
      if closesBefore weight bounds batch entry then batch :: batchesFrom weight bounds [entry] rest
      else batchesFrom weight bounds (batch ++ [entry]) rest := by
  cases batch <;> rfl

theorem batchesFrom_nil {batch : List Entry} (nonempty : batch ≠ []) :
    batchesFrom weight bounds batch [] = [batch] := by
  cases batch with
  | nil => exact absurd rfl nonempty
  | cons entry rest => rfl

/-- **Batches lose and repeat nothing.** -/
theorem flatten_batchesFrom (batch entries : List Entry) :
    (batchesFrom weight bounds batch entries).flatten = batch ++ entries := by
  induction entries generalizing batch with
  | nil =>
      cases batch with
      | nil => rfl
      | cons entry rest => rw [batchesFrom_nil (List.cons_ne_nil _ _), List.flatten_singleton,
          List.append_nil]
  | cons entry rest ih =>
      rw [batchesFrom_cons]
      split_ifs
      · rw [List.flatten_cons, ih, List.singleton_append]
      · rw [ih, List.append_assoc, List.singleton_append]

/-- **Every batch respects its bounds** when every entry alone does. -/
theorem batchesFrom_areBatches (positive : 1 ≤ bounds.maxItems) {entries : List Entry}
    (small : ∀ entry ∈ entries, weight entry ≤ bounds.maxWeight) {batch : List Entry}
    (started : batch = [] ∨ IsBatch weight bounds batch) :
    ∀ closed ∈ batchesFrom weight bounds batch entries, IsBatch weight bounds closed := by
  induction entries generalizing batch with
  | nil =>
      rcases started with rfl | isBatch
      · exact List.forall_mem_nil _
      · rw [batchesFrom_nil isBatch.nonempty]
        exact List.forall_mem_singleton.mpr isBatch
  | cons entry rest ih =>
      have alone : IsBatch weight bounds [entry] :=
        ⟨List.cons_ne_nil _ _,
          positive, by simpa [totalWeight] using small entry List.mem_cons_self⟩
      have later := fun other member => small other (List.mem_cons_of_mem _ member)
      rw [batchesFrom_cons]
      split_ifs with closes
      · rcases started with rfl | isBatch
        · cases closes
        · exact List.forall_mem_cons.mpr ⟨isBatch, ih later (.inr alone)⟩
      · refine ih later (.inr ?_)
        rcases started with rfl | isBatch
        · exact alone
        · have occupied := List.length_pos_iff.mpr isBatch.nonempty
          simp only [closesBefore, Bool.not_eq_true, Bool.and_eq_false_iff, Bool.or_eq_false_iff,
            decide_eq_false_iff_not, not_lt, not_le] at closes
          obtain ⟨items, weights⟩ := closes.resolve_left (by omega)
          refine ⟨by simp, by rw [List.length_append]; exact items, ?_⟩
          rw [totalWeight, List.map_append, List.sum_append]
          simpa [totalWeight] using weights

end Kurobara.Foundation
