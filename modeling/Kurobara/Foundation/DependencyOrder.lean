import Mathlib.Data.List.Basic
import Mathlib.Logic.Relation
import Mathlib.Order.Bounds.Basic
import Mathlib.Order.MinMax

/-! # Dependency orders

Keys with finite lists of dependencies. An order of keys is a dependency order when
every key follows its dependencies; over a finite list of keys that is closed under
dependencies one exists exactly when no key depends on itself. The depth of a key is
the length of the longest path of dependencies that ends at it.
-/

namespace Kurobara.Foundation

universe u

variable {Key : Type u}

/-- The first key is a dependency of the second. -/
def IsDependency (dependencies : Key → List Key) (dependency key : Key) : Prop :=
  dependency ∈ dependencies key

/-- No key depends on itself, directly or through others. -/
def IsAcyclic (dependencies : Key → List Key) : Prop :=
  ∀ key, ¬ Relation.TransGen (IsDependency dependencies) key key

/-- Distinct keys in an order in which each follows its dependencies. -/
inductive DependencyOrder (dependencies : Key → List Key) : List Key → Prop where
  | nil : DependencyOrder dependencies []
  | snoc {order : List Key} {key : Key} : DependencyOrder dependencies order → key ∉ order →
      (∀ dependency ∈ dependencies key, dependency ∈ order) →
        DependencyOrder dependencies (order ++ [key])

/-- A path of so many dependencies ends at a key. -/
inductive DependencyPath (dependencies : Key → List Key) : Key → ℕ → Prop where
  | start (key : Key) : DependencyPath dependencies key 0
  | step {dependency key : Key} {length : ℕ} : DependencyPath dependencies dependency length →
      dependency ∈ dependencies key → DependencyPath dependencies key (length + 1)

/-- The length of the longest path of dependencies that ends at a key. -/
def IsDepth (dependencies : Key → List Key) (key : Key) (depth : ℕ) : Prop :=
  IsGreatest {length | DependencyPath dependencies key length} depth

variable {dependencies : Key → List Key} {order : List Key} {key : Key}

/-! ## Orders -/

/-- What stands before a key of a dependency order has its dependencies. -/
theorem DependencyOrder.dependencies_before (ordered : DependencyOrder dependencies order)
    {before after : List Key} (split : order = before ++ key :: after) :
    ∀ dependency ∈ dependencies key, dependency ∈ before := by
  induction ordered generalizing after with
  | nil => simp at split
  | @snoc order last _ _ resolved ih =>
      rcases List.eq_nil_or_concat after with rfl | ⟨after, tail, rfl⟩
      · obtain ⟨rfl, same⟩ := List.append_inj' split rfl
        cases same
        exact resolved
      · have split : order ++ [last] = (before ++ key :: after) ++ [tail] := by simpa using split
        exact ih (List.append_inj' split rfl).1

/-- An order contains the dependencies of its keys. -/
theorem DependencyOrder.closed (ordered : DependencyOrder dependencies order)
    (member : key ∈ order) : ∀ dependency ∈ dependencies key, dependency ∈ order := by
  obtain ⟨before, after, rfl⟩ := List.append_of_mem member
  intro dependency named
  exact List.mem_append_left _ (ordered.dependencies_before rfl dependency named)

/-- A key of a dependency order never depends on itself. -/
theorem DependencyOrder.not_transGen (ordered : DependencyOrder dependencies order)
    (member : key ∈ order) : ¬ Relation.TransGen (IsDependency dependencies) key key := by
  induction ordered generalizing key with
  | nil => cases member
  | @snoc order last ordered fresh resolved ih =>
      -- A path that ends in the earlier part of the order starts there.
      have starts : ∀ {first final : Key},
        Relation.TransGen (IsDependency dependencies) first final →
          final ∈ order → first ∈ order := by
        intro first final path
        induction path with
        | single named => exact fun inside => ordered.closed inside _ named
        | tail _ named ih => exact fun inside => ih (ordered.closed inside _ named)
      rcases List.mem_append.mp member with earlier | isLast
      · exact ih earlier
      · rw [List.mem_singleton] at isLast
        subst isLast
        intro cycle
        refine fresh ?_
        cases cycle with
        | single named => exact resolved _ named
        | tail path named => exact starts path (resolved _ named)

/-- **Acyclicity.** Keys whose dependencies are all among the ordered ones are free of
cycles. -/
theorem DependencyOrder.isAcyclic (ordered : DependencyOrder dependencies order)
    (covers : ∀ key, dependencies key ≠ [] → key ∈ order) : IsAcyclic dependencies := by
  intro key cycle
  have named : ∃ dependency, dependency ∈ dependencies key := by
    cases cycle with
    | single named => exact ⟨_, named⟩
    | tail _ named => exact ⟨_, named⟩
  obtain ⟨dependency, named⟩ := named
  exact ordered.not_transGen (covers key (List.ne_nil_of_mem named)) cycle

/-! ## Marked keys -/

/-- A key that is marked, or that depends on a marked one, directly or through others. -/
def IsReached (dependencies : Key → List Key) (marked : Key → Prop) (key : Key) : Prop :=
  ∃ origin, marked origin ∧ Relation.ReflTransGen (IsDependency dependencies) origin key

/-- A key that depends on a marked one, directly or through others. -/
def DependsOnMarked (dependencies : Key → List Key) (marked : Key → Prop) (key : Key) : Prop :=
  ∃ origin, marked origin ∧ Relation.TransGen (IsDependency dependencies) origin key

section

variable {marked : Key → Prop}

theorem dependsOnMarked_iff : DependsOnMarked dependencies marked key ↔
    ∃ dependency ∈ dependencies key, IsReached dependencies marked dependency := by
  constructor
  · rintro ⟨origin, mark, path⟩
    obtain ⟨dependency, before, last⟩ := Relation.TransGen.tail'_iff.mp path
    exact ⟨dependency, last, origin, mark, before⟩
  · rintro ⟨dependency, last, origin, mark, before⟩
    exact ⟨origin, mark, Relation.TransGen.tail'_iff.mpr ⟨dependency, before, last⟩⟩

theorem isReached_iff : IsReached dependencies marked key ↔
    marked key ∨ DependsOnMarked dependencies marked key := by
  constructor
  · rintro ⟨origin, mark, path⟩
    rcases Relation.reflTransGen_iff_eq_or_transGen.mp path with rfl | path
    · exact .inl mark
    · exact .inr ⟨origin, mark, path⟩
  · rintro (mark | ⟨origin, mark, path⟩)
    · exact ⟨key, mark, .refl⟩
    · exact ⟨origin, mark, path.to_reflTransGen⟩

end

/-- Among finitely many keys without a cycle, one has no dependency among them. -/
theorem IsAcyclic.exists_minimal (acyclic : IsAcyclic dependencies) {keys : List Key}
    (nonempty : keys ≠ []) :
    ∃ key ∈ keys, ∀ dependency ∈ dependencies key, dependency ∉ keys := by
  classical
  induction length : keys.length using Nat.strong_induction_on generalizing keys with
  | _ size ih =>
      subst length
      obtain ⟨start, member⟩ := List.exists_mem_of_ne_nil keys nonempty
      -- What the start depends on is a shorter list, as the start is no part of it.
      let below := keys.filter fun key => Relation.TransGen (IsDependency dependencies) key start
      have shorter : below.length < keys.length := by
        refine List.length_filter_lt_length_iff_exists.mpr ⟨start, member, ?_⟩
        simpa using acyclic start
      by_cases bottom : below = []
      · refine ⟨start, member, fun dependency named inside => ?_⟩
        have depends : dependency ∈ below :=
          List.mem_filter.mpr ⟨inside, decide_eq_true (.single named)⟩
        rw [bottom] at depends
        cases depends
      · obtain ⟨key, inBelow, minimal⟩ := ih below.length shorter bottom rfl
        obtain ⟨inside, path⟩ := List.mem_filter.mp inBelow
        refine ⟨key, inside, fun dependency named dependencyInside => ?_⟩
        have further : Relation.TransGen (IsDependency dependencies) dependency start :=
          .head named (of_decide_eq_true path)
        exact minimal dependency named
          (List.mem_filter.mpr ⟨dependencyInside, decide_eq_true further⟩)

/-! ## Depths -/

/-- The maximum of a function over a list, from a start value on, is the start value or
the value of a member, and bounds them all. -/
theorem foldl_max_spec {Entry : Type u} (value : Entry → ℕ) (entries : List Entry) (start : ℕ) :
    start ≤ entries.foldl (fun maximum entry => max maximum (value entry)) start ∧
      (∀ entry ∈ entries,
        value entry ≤ entries.foldl (fun maximum entry => max maximum (value entry)) start) ∧
      (entries.foldl (fun maximum entry => max maximum (value entry)) start = start ∨
        ∃ entry ∈ entries,
          entries.foldl (fun maximum entry => max maximum (value entry)) start = value entry) := by
  induction entries generalizing start with
  | nil => exact ⟨le_rfl, by simp, .inl rfl⟩
  | cons first entries ih =>
      obtain ⟨above, bounds, attained⟩ := ih (max start (value first))
      rw [List.foldl_cons]
      refine ⟨(le_max_left _ _).trans above, ?_, ?_⟩
      · intro entry member
        rcases List.mem_cons.mp member with rfl | later
        · exact (le_max_right _ _).trans above
        · exact bounds entry later
      · rcases attained with same | ⟨entry, member, same⟩
        · rcases max_choice start (value first) with left | right
          · exact .inl (same.trans left)
          · exact .inr ⟨first, List.mem_cons_self, same.trans right⟩
        · exact .inr ⟨entry, List.mem_cons_of_mem _ member, same⟩

/-- A key is one deeper than the deepest of its dependencies. -/
theorem isDepth_of_dependencies {depthOf : Key → ℕ}
    (depths : ∀ dependency ∈ dependencies key, IsDepth dependencies dependency
      (depthOf dependency)) :
    IsDepth dependencies key ((dependencies key).foldl
      (fun maximum dependency => max maximum (depthOf dependency + 1)) 0) := by
  obtain ⟨_, bounds, attained⟩ :=
    foldl_max_spec (fun dependency => depthOf dependency + 1) (dependencies key) 0
  constructor
  · rcases attained with zero | ⟨dependency, named, same⟩
    · rw [zero]
      exact DependencyPath.start key
    · rw [same]
      exact DependencyPath.step (depths dependency named).1 named
  · intro length path
    cases path with
    | start => exact Nat.zero_le _
    | step path named =>
        exact (Nat.succ_le_succ ((depths _ named).2 path)).trans (bounds _ named)

end Kurobara.Foundation
