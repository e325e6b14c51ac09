import Mathlib.Data.List.Basic

/-! # Texts of fields in a cycle

A text is written field by field: each field may contain some characters and is ended by one,
and the fields come round again. Such a text is read in one way only when no two readings of
it that once stood in different fields ever meet again.
-/

namespace Kurobara.Foundation

/-- Which characters a field may contain, which one ends it, and which field follows it. -/
structure FieldCycle (Field Character : Type) where
  holds : Field → Character → Bool
  terminator : Field → Character
  next : Field → Field

namespace FieldCycle

variable {Field Character : Type} (cycle : FieldCycle Field Character)

/-- The texts of successive fields, with the character that ends each but the last. -/
def write : Field → List (List Character) → List Character
  | _, [] => []
  | _, [text] => text
  | field, text :: after :: rest =>
      text ++ cycle.terminator field :: write (cycle.next field) (after :: rest)

/-- Each text consists of characters that its field may contain. -/
def Fits : Field → List (List Character) → Prop
  | _, [] => True
  | field, text :: rest =>
      (∀ character ∈ text, cycle.holds field character = true) ∧ Fits (cycle.next field) rest

/-- The field of the last of the texts. -/
def last : Field → List (List Character) → Field
  | field, [] => field
  | field, [_] => field
  | field, _ :: after :: rest => last (cycle.next field) (after :: rest)

/-- One way to read a text from a field on: a character stands in the field or ends it. -/
inductive Reads : Field → List Character → Field → Prop
  | done (field : Field) : Reads field [] field
  | stay {field final : Field} {character : Character} {text : List Character} :
      cycle.holds field character = true → Reads field text final →
        Reads field (character :: text) final
  | move {field final : Field} {text : List Character} :
      Reads (cycle.next field) text final →
        Reads field (cycle.terminator field :: text) final

variable {cycle}

@[simp] theorem write_cons {field : Field} {character : Character} {text : List Character}
    {rest : List (List Character)} :
    cycle.write field ((character :: text) :: rest) = character ::
      cycle.write field (text :: rest) := by
  cases rest <;> rfl

@[simp] theorem last_cons {field : Field} {character : Character} {text : List Character}
    {rest : List (List Character)} :
    cycle.last field ((character :: text) :: rest) = cycle.last field (text :: rest) := by
  cases rest <;> rfl

private theorem fits_cons {field : Field} {character : Character} {text : List Character}
    {rest : List (List Character)} : cycle.Fits field ((character :: text) :: rest) ↔
      cycle.holds field character = true ∧ cycle.Fits field (text :: rest) := by
  simp only [Fits, List.forall_mem_cons, and_assoc]

/-- What is written is read in the fields it was written in. -/
theorem reads_write {texts : List (List Character)} {field : Field}
    (fits : cycle.Fits field texts) :
    cycle.Reads field (cycle.write field texts) (cycle.last field texts) := by
  induction texts generalizing field with
  | nil => exact .done field
  | cons text rest ih =>
      induction text with
      | nil =>
          cases rest with
          | nil => exact .done field
          | cons after rest => exact .move (ih fits.2)
      | cons character text textIh =>
          rw [write_cons, last_cons]
          obtain ⟨held, fits⟩ := fits_cons.mp fits
          exact .stay held (textIh fits)

/-- Pairs of fields at which two readings of one text may stand, once they differ. -/
structure KeepsApart (cycle : FieldCycle Field Character) (apart : Field → Field → Prop) :
    Prop where
  distinct : ∀ field, ¬ apart field field
  symmetric : ∀ {left right}, apart left right → apart right left
  /-- The character that ends a field may stand in it as well. -/
  diverge : ∀ {field}, cycle.holds field (cycle.terminator field) = true →
    apart field (cycle.next field)
  ends : ∀ {left right}, apart left right →
    cycle.holds right (cycle.terminator left) = true → apart (cycle.next left) right
  endBoth : ∀ {left right}, apart left right → cycle.terminator left = cycle.terminator right →
    apart (cycle.next left) (cycle.next right)

namespace KeepsApart

variable {apart : Field → Field → Prop} (keeps : cycle.KeepsApart apart)

include keeps

theorem reads {left right leftFinal rightFinal : Field}
    {text : List Character} (leftReads : cycle.Reads left text leftFinal)
    (rightReads : cycle.Reads right text rightFinal) (differ : apart left right) :
    apart leftFinal rightFinal := by
  induction text generalizing left right with
  | nil =>
      cases leftReads
      cases rightReads
      exact differ
  | cons character text ih =>
      cases leftReads with
      | stay leftHolds leftReads =>
          cases rightReads with
          | stay _ rightReads => exact ih leftReads rightReads differ
          | move rightReads =>
              exact ih leftReads rightReads
                (keeps.symmetric (keeps.ends (keeps.symmetric differ) leftHolds))
      | move leftReads =>
          generalize same : cycle.terminator left = ended at rightReads
          cases rightReads with
          | stay rightHolds rightReads =>
              exact ih leftReads rightReads (keeps.ends differ (same ▸ rightHolds))
          | move rightReads => exact ih leftReads rightReads (keeps.endBoth differ same)

/-- A text that ends a field and one that goes on in it are not written alike. -/
theorem write_ne {field : Field} {character : Character} {text after : List Character}
    {rest others : List (List Character)} (ended : cycle.Fits field ([] :: after :: rest))
    (goesOn : cycle.Fits field ((character :: text) :: others))
    (lastSame : cycle.last field ([] :: after :: rest) =
      cycle.last field ((character :: text) :: others)) :
    cycle.write field ([] :: after :: rest) ≠
      cycle.write field ((character :: text) :: others) := by
  intro same
  obtain ⟨held, fits⟩ := fits_cons.mp goesOn
  have moves : cycle.Reads _ _ _ := reads_write ended.2
  have stays := reads_write fits
  rw [write_cons] at same
  obtain ⟨terminated, sameRest⟩ := List.cons.inj same
  have lastField : cycle.last field (text :: others) = cycle.last field ([] :: after :: rest) :=
    last_cons.symm.trans lastSame.symm
  rw [lastField, ← sameRest] at stays
  exact keeps.distinct _ (keeps.reads stays moves (keeps.diverge (terminated ▸ held)))

/-- **Unique reading.** Texts that fit their fields and end in one field are determined by what
is written, when differing readings stay apart. -/
theorem write_inj {field : Field} {left right : List (List Character)} (leftGiven : left ≠ [])
    (rightGiven : right ≠ []) (leftFits : cycle.Fits field left)
    (rightFits : cycle.Fits field right) (lastSame : cycle.last field left = cycle.last field right)
    (same : cycle.write field left = cycle.write field right) : left = right := by
  induction left generalizing field right with
  | nil => exact absurd rfl leftGiven
  | cons text rest ih =>
      cases right with
      | nil => exact absurd rfl rightGiven
      | cons other others =>
          induction text generalizing other with
          | nil =>
              cases other with
              | nil =>
                  cases rest with
                  | nil =>
                      cases others with
                      | nil => rfl
                      | cons after others => cases same
                  | cons after rest =>
                      cases others with
                      | nil => cases same
                      | cons otherAfter others =>
                          rw [ih (List.cons_ne_nil _ _) (List.cons_ne_nil _ _) leftFits.2
                            rightFits.2 lastSame (List.cons.inj same).2]
              | cons character other =>
                  cases rest with
                  | nil =>
                      rw [write_cons] at same
                      cases same
                  | cons after rest =>
                      exact absurd same (keeps.write_ne leftFits rightFits lastSame)
          | cons character text textIh =>
              cases other with
              | nil =>
                  cases others with
                  | nil =>
                      rw [write_cons] at same
                      cases same
                  | cons after others =>
                      exact absurd same.symm (keeps.write_ne rightFits leftFits lastSame.symm)
              | cons otherCharacter other =>
                  rw [write_cons, write_cons, List.cons.injEq] at same
                  rw [last_cons, last_cons] at lastSame
                  have tails := textIh (List.cons_ne_nil _ _) (fits_cons.mp leftFits).2 other
                    (List.cons_ne_nil _ _) (fits_cons.mp rightFits).2 lastSame same.2
                  rw [List.cons.injEq] at tails
                  rw [same.1, tails.1, tails.2]

/-- Readings stay apart in a cycle whose fields contain less. -/
theorem mono {other : FieldCycle Field Character} (terminator : other.terminator = cycle.terminator)
    (next : other.next = cycle.next)
    (less : ∀ field character, other.holds field character = true →
      cycle.holds field character = true) : other.KeepsApart apart where
  distinct := keeps.distinct
  symmetric := keeps.symmetric
  diverge := fun holds => next ▸ keeps.diverge (less _ _ (terminator ▸ holds))
  ends := fun differ holds => next ▸ keeps.ends differ (less _ _ (terminator ▸ holds))
  endBoth := fun differ same => next ▸ keeps.endBoth differ (terminator ▸ same)

end KeepsApart

/-! ## Deciding whether readings stay apart -/

section

variable [DecidableEq Field] [DecidableEq Character] (cycle)

/-- The pairs at which two readings may stand after one more character. -/
def onward (left right : Field) : List (Field × Field) :=
  (if cycle.holds right (cycle.terminator left) then [(cycle.next left, right)] else []) ++
    (if cycle.holds left (cycle.terminator right) then [(left, cycle.next right)] else []) ++
    if cycle.terminator left = cycle.terminator right then [(cycle.next left, cycle.next right)]
    else []

/-- The pairs at which two readings first differ. -/
def divergences (fields : List Field) : List (Field × Field) :=
  (fields.filter fun field => cycle.holds field (cycle.terminator field)).map fun field =>
    (field, cycle.next field)

/-- The pairs met from the first ones on, as far as the fuel lasts. -/
def explore : ℕ → List (Field × Field) → List (Field × Field) → List (Field × Field)
  | 0, _, met => met
  | _ + 1, [], met => met
  | fuel + 1, pair :: waiting, met =>
      if pair ∈ met then explore fuel waiting met
      else explore fuel (cycle.onward pair.1 pair.2 ++ waiting) (pair :: met)

/-- The pairs contain the first ones and what they lead to, and none of them is of one field. -/
def arePairsApart (fields : List Field) (pairs : List (Field × Field)) : Bool :=
  (cycle.divergences fields).all (· ∈ pairs) &&
    pairs.all fun pair => pair.1 ≠ pair.2 && (cycle.onward pair.1 pair.2).all (· ∈ pairs)

def readsUniquely (fields : List Field) (fuel : ℕ) : Bool :=
  cycle.arePairsApart fields (cycle.explore fuel (cycle.divergences fields) [])

variable {cycle}

theorem keepsApart_of_pairs {fields : List Field} (complete : ∀ field, field ∈ fields)
    {pairs : List (Field × Field)} (checked : cycle.arePairsApart fields pairs = true) :
    cycle.KeepsApart fun left right => (left, right) ∈ pairs ∨ (right, left) ∈ pairs := by
  simp only [arePairsApart, Bool.and_eq_true, List.all_eq_true, decide_eq_true_eq] at checked
  obtain ⟨diverging, closed⟩ := checked
  have leads : ∀ {left right : Field}, (left, right) ∈ pairs →
      ∀ pair ∈ cycle.onward left right, pair ∈ pairs := fun inside => (closed _ inside).2
  refine ⟨fun field same => ?_, Or.symm, fun holds => ?_, fun differ holds => ?_,
    fun differ same => ?_⟩
  · exact (closed (field, field) (or_self_iff.mp same)).1 rfl
  · exact .inl (diverging _ (List.mem_map.mpr ⟨_, List.mem_filter.mpr ⟨complete _, holds⟩, rfl⟩))
  · rcases differ with inside | inside
    · exact .inl (leads inside _ (by simp [onward, holds]))
    · exact .inr (leads inside _ (by simp [onward, holds]))
  · rcases differ with inside | inside
    · exact .inl (leads inside _ (by simp [onward, same]))
    · exact .inr (leads inside _ (by simp [onward, same]))

end

end FieldCycle

end Kurobara.Foundation
