import Mathlib.Data.List.MinMax

/-! # Revision logs

Rows numbered by revision, the latest of which is the one with the greatest number. A log
whose rows are numbered from one in the order of their insertion stays so when the next
row takes the number after the latest.
-/

namespace Kurobara.Foundation

universe u

variable {Row : Type u} (revision : Row → ℕ)

/-- `ORDER BY revision DESC LIMIT 1`. -/
def latestRow (rows : List Row) : Option Row :=
  rows.argmax revision

/-- The number of the latest row, zero of a log without rows. -/
def latestRevision (rows : List Row) : ℕ :=
  ((latestRow revision rows).map revision).getD 0

/-- The rows are numbered from one in the order of their insertion. -/
def Contiguous (rows : List Row) : Prop :=
  rows.map revision = List.range' 1 rows.length

variable {revision} {rows : List Row} {row : Row}

theorem Contiguous.nil : Contiguous revision ([] : List Row) :=
  rfl

private theorem Contiguous.revision_le (contiguous : Contiguous revision rows)
    (member : row ∈ rows) :
    revision row ≤ rows.length := by
  have numbered : revision row ∈ rows.map revision := List.mem_map_of_mem member
  rw [contiguous, List.mem_range'_1] at numbered
  omega

/-- A row numbered after every other is the latest. -/
theorem latestRow_append (greatest : ∀ other ∈ rows, revision other < revision row) :
    latestRow revision (rows ++ [row]) = some row := by
  rw [latestRow, List.argmax_concat]
  cases found : rows.argmax revision with
  | none => rfl
  | some other =>
      have before := greatest other (List.argmax_mem found)
      simp [before]

theorem latestRow_mem (latest : latestRow revision rows = some row) : row ∈ rows :=
  List.argmax_mem latest

@[simp] theorem latestRow_eq_none_iff : latestRow revision rows = none ↔ rows = [] :=
  List.argmax_eq_none

private theorem contiguous_concat :
    Contiguous revision (rows ++ [row]) ↔
      Contiguous revision rows ∧ revision row = rows.length + 1 := by
  simp only [Contiguous, List.map_append, List.map_cons, List.map_nil, List.length_append,
    List.length_cons, List.length_nil, List.range'_concat]
  constructor
  · intro numbers
    obtain ⟨earlier, last⟩ := List.append_inj' numbers rfl
    simp only [List.cons.injEq, and_true] at last
    exact ⟨earlier, by omega⟩
  · rintro ⟨earlier, last⟩
    rw [earlier, last]
    congr 2
    omega

/-- The latest row of a contiguous log is the one inserted last. -/
theorem Contiguous.latestRow_eq (contiguous : Contiguous revision rows) :
    latestRow revision rows = rows.getLast? := by
  rcases rows.eq_nil_or_concat' with rfl | ⟨earlier, last, rfl⟩
  · rfl
  · obtain ⟨before, number⟩ := contiguous_concat.mp contiguous
    have greatest : ∀ other ∈ earlier, revision other < revision last := by
      intro other member
      have below := before.revision_le member
      omega
    rw [latestRow_append greatest, List.getLast?_concat]

/-- The latest revision of a contiguous log is its length. -/
theorem Contiguous.latestRevision_eq (contiguous : Contiguous revision rows) :
    latestRevision revision rows = rows.length := by
  rw [latestRevision, contiguous.latestRow_eq]
  rcases rows.eq_nil_or_concat' with rfl | ⟨earlier, last, rfl⟩
  · rfl
  · simp [(contiguous_concat.mp contiguous).2]

/-- A row that has the latest number is the latest row. -/
theorem Contiguous.latestRow_of_revision (contiguous : Contiguous revision rows)
    (member : row ∈ rows) (number : latestRevision revision rows ≤ revision row) :
    latestRow revision rows = some row := by
  rw [contiguous.latestRevision_eq] at number
  rw [contiguous.latestRow_eq]
  rcases rows.eq_nil_or_concat' with rfl | ⟨earlier, last, rfl⟩
  · cases member
  · rw [List.getLast?_concat]
    rcases List.mem_append.mp member with early | here
    · have below := (contiguous_concat.mp contiguous).1.revision_le early
      rw [List.length_append, List.length_singleton] at number
      omega
    · rw [List.mem_singleton.mp here]

/-- **The next number keeps a log contiguous.** -/
theorem Contiguous.append (contiguous : Contiguous revision rows)
    (next : revision row = latestRevision revision rows + 1) :
    Contiguous revision (rows ++ [row]) ∧ latestRow revision (rows ++ [row]) = some row := by
  rw [contiguous.latestRevision_eq] at next
  have appended := contiguous_concat.mpr ⟨contiguous, next⟩
  exact ⟨appended, by rw [appended.latestRow_eq, List.getLast?_concat]⟩

end Kurobara.Foundation
