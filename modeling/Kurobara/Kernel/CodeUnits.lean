import Kurobara.Kernel.Values

/-! # Code units of a text

The UTF-16 code units of a text determine it, so the order of texts by code units is
an order of the texts themselves.
-/

namespace Kurobara.Kernel

/-- The code units of one character. -/
def characterUnits (character : Char) : List ℕ :=
  let point := character.val.toNat
  if point < 0x10000 then [point]
  else [0xD800 + (point - 0x10000) / 0x400, 0xDC00 + (point - 0x10000) % 0x400]

/-- A code point is no surrogate. -/
theorem not_surrogate (character : Char) :
    character.val.toNat < 0xD800 ∨ 0xDFFF < character.val.toNat ∧ character.val.toNat < 0x110000 :=
  character.valid

/-- The first code units of two texts that agree are those of one character. -/
theorem characterUnits_append_inj {left right : Char} {leftRest rightRest : List ℕ}
    (same : characterUnits left ++ leftRest = characterUnits right ++ rightRest) :
    left = right ∧ leftRest = rightRest := by
  have leftScalar := not_surrogate left
  have rightScalar := not_surrogate right
  have points : left.val.toNat = right.val.toNat ∧ leftRest = rightRest := by
    unfold characterUnits at same
    dsimp only at same
    split at same <;> split at same <;>
      simp only [List.cons_append, List.nil_append, List.cons.injEq] at same
    · exact same
    · omega
    · omega
    · obtain ⟨high, low, rest⟩ := same
      exact ⟨by omega, rest⟩
  exact ⟨Char.ext (UInt32.toNat_inj.mp points.1), points.2⟩

private theorem characterUnits_ne_nil (character : Char) : characterUnits character ≠ [] := by
  unfold characterUnits
  dsimp only
  split <;> exact List.cons_ne_nil _ _

/-- Two texts with the same code units are the same text. -/
theorem codeUnits_injective : Function.Injective codeUnits := by
  have characters : ∀ left right : List Char,
      left.flatMap characterUnits = right.flatMap characterUnits → left = right := by
    intro left
    induction left with
    | nil =>
        intro right same
        cases right with
        | nil => rfl
        | cons character right =>
            rw [List.flatMap_nil, List.flatMap_cons] at same
            exact absurd (List.append_eq_nil_iff.mp same.symm).1 (characterUnits_ne_nil character)
    | cons first left ih =>
        intro right same
        cases right with
        | nil =>
            rw [List.flatMap_nil, List.flatMap_cons] at same
            exact absurd (List.append_eq_nil_iff.mp same).1 (characterUnits_ne_nil first)
        | cons character right =>
            rw [List.flatMap_cons, List.flatMap_cons] at same
            obtain ⟨rfl, rest⟩ := characterUnits_append_inj same
            rw [ih right rest]
  intro left right same
  exact String.toList_injective (characters _ _ same)

/-! ## The order of texts -/

/-- Any two texts are comparable by their code units. -/
theorem textIsAtMost_total (left right : String) :
    textIsAtMost left right = true ∨ textIsAtMost right left = true := by
  simp only [textIsAtMost, decide_eq_true_eq]
  exact List.le_total (codeUnits left) (codeUnits right)

theorem textIsAtMost_trans {left middle right : String}
    (first : textIsAtMost left middle = true) (second : textIsAtMost middle right = true) :
    textIsAtMost left right = true := by
  simp only [textIsAtMost, decide_eq_true_eq] at first second ⊢
  exact List.le_trans first second

theorem textIsAtMost_antisymm {left right : String} (below : textIsAtMost left right = true)
    (above : textIsAtMost right left = true) : left = right := by
  simp only [textIsAtMost, decide_eq_true_eq] at below above
  exact codeUnits_injective (List.le_antisymm below above)

end Kurobara.Kernel
