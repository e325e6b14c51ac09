import Mathlib.Algebra.Order.Ring.Int
import Mathlib.Data.List.Range

/-! # Paging by a cursor

A reader answers one page at a time: the ordinals that it visits, and the cursor behind it while
more follow. When each page is the next slice of `1 .. count`, following the cursor visits that
range once, in order, and ends.
-/

namespace Kurobara.Foundation

/-- The ordinals that follow a cursor. -/
def ordinalsFrom (after : ℤ) (length : ℕ) : List ℤ :=
  (List.range length).map fun index : ℕ => after + 1 + index

/-- Two pages in a row are one longer page. -/
theorem ordinalsFrom_add (after : ℤ) (left right : ℕ) :
    ordinalsFrom after (left + right) =
      ordinalsFrom after left ++ ordinalsFrom (after + left) right := by
  unfold ordinalsFrom
  rw [List.range_add, List.map_append, List.map_map]
  refine congrArg _ (List.map_congr_left fun index _ => ?_)
  rw [Function.comp_apply, Nat.cast_add]
  omega

theorem ordinalsFrom_succ (after : ℤ) (length : ℕ) :
    ordinalsFrom after (length + 1) = (after + 1) :: ordinalsFrom (after + 1) length := by
  have split := ordinalsFrom_add after 1 length
  rw [Nat.add_comm 1 length, Nat.cast_one] at split
  rw [split]
  simp [ordinalsFrom]

@[simp] theorem ordinalsFrom_length (after : ℤ) (length : ℕ) :
    (ordinalsFrom after length).length = length := by
  simp [ordinalsFrom]

/-- A page: the ordinals that it visits, and the cursor behind it while more follow. -/
structure CursorPage where
  ordinals : List ℤ
  next : Option ℤ
  deriving DecidableEq, Repr

/-- The page is the next slice of `1 .. count`, and has a cursor unless it ends with `count`. -/
structure IsSlice (count after : ℤ) (page : CursorPage) : Prop where
  ordinals : page.ordinals = ordinalsFrom after page.ordinals.length
  within : after + page.ordinals.length ≤ count
  ends : page.next = none ↔ after + page.ordinals.length = count
  advances : ∀ next, page.next = some next →
    next = after + page.ordinals.length ∧ 0 < page.ordinals.length

/-- Follow the cursor through the given steps, until a page has none. -/
def followPages {Failure Step : Type} (read : ℤ → Step → Except Failure CursorPage) (after : ℤ) :
    List Step → Except Failure CursorPage
  | [] => .ok ⟨[], some after⟩
  | step :: rest =>
      match read after step with
      | .error failure => .error failure
      | .ok page =>
          match page.next with
          | none => .ok page
          | some next => (followPages read next rest).map fun walked =>
              ⟨page.ordinals ++ walked.ordinals, walked.next⟩

/-- What a walk has visited: the range in order, whole once no cursor is left; and every step
that left a cursor has visited something. -/
structure IsWalk (count after : ℤ) (steps : ℕ) (walked : CursorPage) : Prop where
  ordinals : walked.ordinals = ordinalsFrom after walked.ordinals.length
  whole : walked.next = none → after + walked.ordinals.length = count
  cursor : ∀ next, walked.next = some next →
    next = after + walked.ordinals.length ∧ steps ≤ walked.ordinals.length ∧
      (0 < steps → next < count)

/-- By induction on the steps: pages that are slices make a walk. -/
theorem followPages_isWalk {Failure Step : Type} {read : ℤ → Step → Except Failure CursorPage}
    {count : ℤ} (slices : ∀ after step page, read after step = .ok page → IsSlice count after page)
    {steps : List Step} :
    ∀ {after : ℤ} {walked : CursorPage}, followPages read after steps = .ok walked →
      IsWalk count after steps.length walked := by
  induction steps with
  | nil =>
      intro after walked walks
      obtain rfl := Except.ok.inj walks
      refine ⟨rfl, fun none => (by cases none), fun next isNext => ?_⟩
      obtain rfl := Option.some.inj isNext
      exact ⟨by simp, Nat.le_refl 0, fun steps => absurd steps (Nat.lt_irrefl 0)⟩
  | cons step rest ih =>
      intro after walked walks
      rw [followPages] at walks
      cases pageRead : read after step with
      | error failure =>
          rw [pageRead] at walks
          cases walks
      | ok page =>
          have slice := slices after step page pageRead
          rw [pageRead] at walks
          dsimp only at walks
          cases nextEq : page.next with
          | none =>
              rw [nextEq] at walks
              obtain rfl := Except.ok.inj walks
              refine ⟨slice.ordinals, slice.ends.mp, fun next isNext => ?_⟩
              rw [nextEq] at isNext
              cases isNext
          | some next =>
              rw [nextEq] at walks
              dsimp only at walks
              obtain ⟨nextIs, positive⟩ := slice.advances next nextEq
              cases restWalks : followPages read next rest with
              | error failure =>
                  rw [restWalks] at walks
                  cases walks
              | ok later =>
                  rw [restWalks] at walks
                  obtain rfl := Except.ok.inj walks
                  have walk := ih restWalks
                  refine ⟨?_, fun none => ?_, fun cursor isCursor => ?_⟩
                  · rw [List.length_append, ordinalsFrom_add, ← slice.ordinals, ← nextIs,
                      ← walk.ordinals]
                  · have whole := walk.whole none
                    rw [List.length_append, Nat.cast_add]
                    omega
                  · obtain ⟨cursorIs, within, before⟩ := walk.cursor cursor isCursor
                    rw [List.length_append, List.length_cons, Nat.cast_add]
                    have notLast : after + page.ordinals.length ≠ count := by
                      intro last
                      rw [slice.ends.mpr last] at nextEq
                      cases nextEq
                    have pageWithin := slice.within
                    refine ⟨by omega, by omega, fun _ => ?_⟩
                    rcases Nat.eq_zero_or_pos rest.length with none | some
                    · obtain rfl := List.eq_nil_of_length_eq_zero none
                      obtain rfl := Except.ok.inj restWalks
                      obtain rfl := Option.some.inj isCursor
                      omega
                    · exact before some

/-- Enough steps end the walk, with the whole range visited. -/
theorem IsWalk.ended {count after : ℤ} {steps : ℕ} {walked : CursorPage}
    (walk : IsWalk count after steps walked) (started : 0 < steps)
    (enough : count ≤ after + steps) :
    walked.next = none ∧ after + walked.ordinals.length = count := by
  cases nextEq : walked.next with
  | none => exact ⟨rfl, walk.whole nextEq⟩
  | some next =>
      obtain ⟨nextIs, within, before⟩ := walk.cursor next nextEq
      have inside := before started
      omega

end Kurobara.Foundation
