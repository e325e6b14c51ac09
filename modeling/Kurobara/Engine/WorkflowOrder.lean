import Kurobara.Engine.CompileWorkflow
import Kurobara.Foundation.DependencyOrder
import Kurobara.Kernel.CodeUnits
import Mathlib.Algebra.GroupWithZero.Nat

/-! # The order of a compiled workflow

The ordering loop takes the ready keys one after another. What it carries is exact in
every round: the ready keys are those whose dependencies are all ordered, each key
waits for as many entries as name a key that is not ordered yet, and an ordered key
has the length of its longest dependency path as its depth.
-/

namespace Kurobara.Engine

open Kernel Foundation

/-! ## Sorted texts -/

theorem sortText_perm (texts : List String) : (sortText texts).Perm texts :=
  List.perm_insertionSort _ texts

/-- Sorted texts depend on which texts there are only. -/
theorem sortText_eq_of_perm {left right : List String} (same : left.Perm right) :
    sortText left = sortText right := by
  have total : Std.Total fun left right : String => textIsAtMost left right = true :=
    ⟨textIsAtMost_total⟩
  have transitive : IsTrans String fun left right => textIsAtMost left right = true :=
    ⟨fun _ _ _ => textIsAtMost_trans⟩
  have permuted := (sortText_perm left).trans (same.trans (sortText_perm right).symm)
  exact permuted.eq_of_pairwise
    (fun _ _ _ _ below above => textIsAtMost_antisymm below above)
    (List.pairwise_insertionSort _ left) (List.pairwise_insertionSort _ right)

/-! ## Dependencies of a specification -/

/-- The dependencies that the node of a key names. -/
def dependenciesOf (spec : WorkflowSpec) (key : String) : List String :=
  ((spec.nodes.find? (·.key == key)).map WorkflowNode.dependsOn).getD []

/-- How many entries name a key as a dependency. -/
def fanOut (spec : WorkflowSpec) (key : String) : ℕ :=
  (spec.nodes.map fun node => node.dependsOn.count key).sum

theorem find_key {nodes : List WorkflowNode} (unique : (nodes.map WorkflowNode.key).Nodup)
    {node : WorkflowNode} (member : node ∈ nodes) :
    nodes.find? (·.key == node.key) = some node := by
  induction nodes with
  | nil => cases member
  | cons first nodes ih =>
      rw [List.map_cons, List.nodup_cons] at unique
      rcases List.mem_cons.mp member with rfl | later
      · simp
      · have other : first.key ≠ node.key := fun same =>
          unique.1 (same ▸ List.mem_map_of_mem later)
        rw [List.find?_cons_of_neg (by simpa using other)]
        exact ih unique.2 later

theorem dependenciesOf_node {spec : WorkflowSpec}
    (unique : (spec.nodes.map WorkflowNode.key).Nodup) {node : WorkflowNode}
    (member : node ∈ spec.nodes) : dependenciesOf spec node.key = node.dependsOn := by
  unfold dependenciesOf
  rw [find_key unique member]
  rfl

theorem dependenciesOf_unknown {spec : WorkflowSpec} {key : String}
    (unknown : key ∉ spec.nodes.map WorkflowNode.key) : dependenciesOf spec key = [] := by
  have absent : spec.nodes.find? (·.key == key) = none := by
    rw [List.find?_eq_none]
    intro node member same
    exact unknown (beq_iff_eq.mp same ▸ List.mem_map_of_mem member)
  unfold dependenciesOf
  rw [absent]
  rfl

theorem dependantsOf_length (spec : WorkflowSpec) (key : String) :
    (dependantsOf spec key).length = fanOut spec key := by
  unfold dependantsOf fanOut
  rw [(sortText_perm _).length_eq, List.length_flatMap]
  congr 1
  apply List.map_congr_left
  intro node _
  rw [List.length_map, ← List.countP_eq_length_filter, List.count]

/-- A key is a dependant of another once for each time its node names that one. -/
theorem dependantsOf_count {spec : WorkflowSpec}
    (unique : (spec.nodes.map WorkflowNode.key).Nodup) (dependency key : String) :
    (dependantsOf spec dependency).count key = (dependenciesOf spec key).count dependency := by
  have counted : ∀ nodes : List WorkflowNode, (nodes.map WorkflowNode.key).Nodup →
      (nodes.map fun node => if node.key = key then node.dependsOn.count dependency else 0).sum =
        (((nodes.find? (·.key == key)).map WorkflowNode.dependsOn).getD []).count dependency := by
    intro nodes
    induction nodes with
    | nil => intro _; rfl
    | cons first nodes ih =>
        intro unique
        rw [List.map_cons, List.nodup_cons] at unique
        rw [List.map_cons, List.sum_cons, ih unique.2]
        by_cases same : first.key = key
        · have absent : nodes.find? (·.key == key) = none := by
            rw [List.find?_eq_none]
            intro node member found
            exact unique.1 (same ▸ beq_iff_eq.mp found ▸ List.mem_map_of_mem member)
          rw [if_pos same, absent, List.find?_cons_of_pos (by simpa using same)]
          simp
        · rw [if_neg same, List.find?_cons_of_neg (by simpa using same), Nat.zero_add]
  unfold dependantsOf dependenciesOf
  rw [(sortText_perm _).count_eq, List.count_flatMap, ← counted spec.nodes unique]
  congr 1
  apply List.map_congr_left
  intro node _
  rw [Function.comp_apply, List.map_const', List.count_replicate,
    ← List.countP_eq_length_filter, ← List.count]
  simp only [beq_iff_eq]

/-! ## One round of the loop -/

/-- The dependencies of a key that are not ordered yet, entry by entry. -/
def waitingFor (spec : WorkflowSpec) (ordered : List String) (key : String) : List String :=
  (dependenciesOf spec key).filter fun dependency => dependency ∉ ordered

private theorem waitingFor_eq_nil {spec : WorkflowSpec} {ordered : List String} {key : String} :
    waitingFor spec ordered key = [] ↔
      ∀ dependency ∈ dependenciesOf spec key, dependency ∈ ordered := by
  simp [waitingFor, List.filter_eq_nil_iff]

/-- Ordering a key ends the waiting for it. -/
theorem waitingFor_snoc {spec : WorkflowSpec} {ordered : List String} {taken : String}
    (fresh : taken ∉ ordered) (key : String) :
    (waitingFor spec ordered key).length =
      (dependenciesOf spec key).count taken +
        (waitingFor spec (ordered ++ [taken]) key).length := by
  unfold waitingFor
  induction dependenciesOf spec key with
  | nil => rfl
  | cons dependency rest ih =>
      by_cases same : dependency = taken
      · subst same
        rw [List.filter_cons_of_pos (by simpa using fresh), List.filter_cons_of_neg (by simp),
          List.count_cons_self, List.length_cons, ih]
        omega
      · rw [List.count_cons_of_ne same]
        by_cases known : dependency ∈ ordered
        · rw [List.filter_cons_of_neg (by simpa using known),
            List.filter_cons_of_neg (by simp [known]), ih]
        · rw [List.filter_cons_of_pos (by simpa using known),
            List.filter_cons_of_pos (by simp [known, same]), List.length_cons, List.length_cons, ih]
          omega

/-- The dependants of the taken key wait for less, and those that wait for nothing any
more become ready. -/
theorem releaseDependants_spec (dependants : List String) (state : OrderingState) :
    (dependants.foldl releaseDependant state).depths = state.depths ∧
      (dependants.foldl releaseDependant state).orderedKeys = state.orderedKeys ∧
      ∀ key, (dependants.foldl releaseDependant state).remainingDependencies key =
          state.remainingDependencies key - dependants.count key ∧
        (dependants.foldl releaseDependant state).ready.count key = state.ready.count key +
          if 1 ≤ state.remainingDependencies key ∧
            state.remainingDependencies key ≤ dependants.count key then 1 else 0 := by
  induction dependants generalizing state with
  | nil =>
      refine ⟨rfl, rfl, fun key => ⟨by simp, ?_⟩⟩
      have never : ¬ (1 ≤ state.remainingDependencies key ∧
          state.remainingDependencies key ≤ ([] : List String).count key) := by
        simp
        omega
      rw [if_neg never]
      rfl
  | cons dependant dependants ih =>
      obtain ⟨depths, ordered, keys⟩ := ih (releaseDependant state dependant)
      refine ⟨depths, ordered, fun key => ?_⟩
      obtain ⟨remaining, ready⟩ := keys key
      rw [List.foldl_cons, remaining, ready]
      by_cases same : key = dependant
      · subst same
        have next : (releaseDependant state key).remainingDependencies key =
            state.remainingDependencies key - 1 := Function.update_self ..
        have released : (releaseDependant state key).ready.count key =
            state.ready.count key + if state.remainingDependencies key = 1 then 1 else 0 := by
          unfold releaseDependant
          dsimp only
          by_cases last : state.remainingDependencies key = 1
          · rw [if_pos (by omega), if_pos last, (sortText_perm _).count_eq, List.count_append,
              List.count_singleton_self]
          · rw [if_neg (by omega), if_neg last, Nat.add_zero]
        rw [next, released, List.count_cons_self]
        refine ⟨by push_cast; omega, ?_⟩
        push_cast
        split <;> split <;> split <;> omega
      · have next : (releaseDependant state dependant).remainingDependencies key =
            state.remainingDependencies key := Function.update_of_ne same ..
        have unready : (releaseDependant state dependant).ready.count key =
            state.ready.count key := by
          unfold releaseDependant
          dsimp only
          split
          · rw [(sortText_perm _).count_eq, List.count_append]
            simp [Ne.symm same]
          · rfl
        rw [next, unready, List.count_cons_of_ne (Ne.symm same)]
        exact ⟨rfl, rfl⟩

/-! ## The loop -/

/-- The keys of a specification. -/
def nodeKeys (spec : WorkflowSpec) : List String :=
  spec.nodes.map WorkflowNode.key

/-- The checks that the ordering loop relies on. -/
structure KeysAreSound (spec : WorkflowSpec) : Prop where
  unique : (nodeKeys spec).Nodup
  resolved : ∀ key, ∀ dependency ∈ dependenciesOf spec key, dependency ∈ nodeKeys spec

/-- What the loop carries in every round. -/
structure OrderingInvariant (spec : WorkflowSpec) (maxDepth : ℕ) (state : OrderingState) :
    Prop where
  distinct : (state.orderedKeys ++ state.ready).Nodup
  known : ∀ key ∈ state.orderedKeys ++ state.ready, key ∈ nodeKeys spec
  ordered : DependencyOrder (dependenciesOf spec) state.orderedKeys
  ready : ∀ key ∈ nodeKeys spec, key ∈ state.orderedKeys ++ state.ready ↔
    ∀ dependency ∈ dependenciesOf spec key, dependency ∈ state.orderedKeys
  remaining : ∀ key ∈ nodeKeys spec, state.remainingDependencies key =
    (waitingFor spec state.orderedKeys key).length
  depths : ∀ key ∈ state.orderedKeys, ∃ depth, state.depths key = some depth ∧
    IsDepth (dependenciesOf spec) key depth ∧ depth ≤ maxDepth

/-- The initial ordering satisfies the invariant. -/
theorem OrderingInvariant.initial {spec : WorkflowSpec} (sound : KeysAreSound spec)
    (maxDepth : ℕ) : OrderingInvariant spec maxDepth (initialOrdering spec) where
  distinct := by
    show (sortText _).Nodup
    rw [(sortText_perm _).nodup_iff]
    exact sound.unique.sublist (List.filter_sublist.map _)
  known := by
    intro key member
    have listed : key ∈ (spec.nodes.filter (·.dependsOn.isEmpty)).map WorkflowNode.key :=
      (sortText_perm _).mem_iff.mp member
    exact (List.filter_sublist.map _).subset listed
  ordered := .nil
  ready := by
    intro key member
    obtain ⟨node, nodeMember, rfl⟩ := List.mem_map.mp member
    rw [dependenciesOf_node sound.unique nodeMember]
    show node.key ∈ sortText _ ↔ _
    rw [(sortText_perm _).mem_iff, List.mem_map]
    constructor
    · rintro ⟨other, otherMember, same⟩
      obtain ⟨inside, free⟩ := List.mem_filter.mp otherMember
      have equal : other = node := List.inj_on_of_nodup_map sound.unique inside nodeMember same
      subst equal
      intro dependency named
      rw [List.isEmpty_iff.mp free] at named
      cases named
    · intro free
      have empty : node.dependsOn = [] :=
        List.eq_nil_iff_forall_not_mem.mpr fun dependency named => nomatch free dependency named
      exact ⟨node, List.mem_filter.mpr ⟨nodeMember, by simp [empty]⟩, rfl⟩
  remaining := by
    intro key member
    obtain ⟨node, nodeMember, rfl⟩ := List.mem_map.mp member
    show ((spec.nodes.find? (·.key == node.key)).map fun node =>
      (node.dependsOn.length : ℤ)).getD 0 = _
    rw [find_key sound.unique nodeMember, waitingFor, dependenciesOf_node sound.unique nodeMember]
    simp [initialOrdering]
  depths := by
    intro key member
    cases member

/-- The depth of a ready node is the length of its longest chain of dependencies. -/
theorem calculateDepth_isDepth {spec : WorkflowSpec} {maxDepth : ℕ} {state : OrderingState}
    (invariant : OrderingInvariant spec maxDepth state) (sound : KeysAreSound spec)
    {node : WorkflowNode} (member : node ∈ spec.nodes)
    (ready : ∀ dependency ∈ node.dependsOn, dependency ∈ state.orderedKeys) :
    IsDepth (dependenciesOf spec) node.key (calculateDepth node state.depths) := by
  have names := dependenciesOf_node sound.unique member
  have depths : ∀ dependency ∈ dependenciesOf spec node.key,
      IsDepth (dependenciesOf spec) dependency ((state.depths dependency).getD 0) := by
    intro dependency named
    rw [names] at named
    obtain ⟨depth, depthEq, isDepth, _⟩ := invariant.depths dependency (ready dependency named)
    rw [depthEq]
    exact isDepth
  have depth := isDepth_of_dependencies depths
  have same : calculateDepth node state.depths = (dependenciesOf spec node.key).foldl
      (fun maximum dependency => max maximum ((state.depths dependency).getD 0 + 1)) 0 := by
    unfold calculateDepth
    rw [names]
    apply List.foldl_ext
    intro maximum dependency named
    obtain ⟨depth, depthEq, _⟩ := invariant.depths dependency (ready dependency named)
    rw [depthEq]
    rfl
  rw [same]
  exact depth

/-- The state after a ready key is taken. -/
def takeKey (spec : WorkflowSpec) (state : OrderingState) (nodeKey : String)
    (ready : List String) (depth : ℕ) : OrderingState :=
  (dependantsOf spec nodeKey).foldl releaseDependant {
    state with
    ready := ready
    depths := Function.update state.depths nodeKey (some depth)
    orderedKeys := state.orderedKeys ++ [nodeKey] }

theorem takeKey_spec (spec : WorkflowSpec) (state : OrderingState) (nodeKey : String)
    (ready : List String) (depth : ℕ) :
    (takeKey spec state nodeKey ready depth).depths =
        Function.update state.depths nodeKey (some depth) ∧
      (takeKey spec state nodeKey ready depth).orderedKeys = state.orderedKeys ++ [nodeKey] ∧
      ∀ key, (takeKey spec state nodeKey ready depth).remainingDependencies key =
          state.remainingDependencies key - (dependantsOf spec nodeKey).count key ∧
        (takeKey spec state nodeKey ready depth).ready.count key = ready.count key +
          if 1 ≤ state.remainingDependencies key ∧
            state.remainingDependencies key ≤ (dependantsOf spec nodeKey).count key
          then 1 else 0 :=
  releaseDependants_spec _ _

/-- Taking a ready key keeps the invariant. -/
theorem OrderingInvariant.takeKey {spec : WorkflowSpec} {maxDepth : ℕ} {state : OrderingState}
    (invariant : OrderingInvariant spec maxDepth state) (sound : KeysAreSound spec)
    {nodeKey : String} {ready : List String} (readyEq : state.ready = nodeKey :: ready)
    {depth : ℕ} (isDepth : IsDepth (dependenciesOf spec) nodeKey depth) (fits : depth ≤ maxDepth) :
    OrderingInvariant spec maxDepth (takeKey spec state nodeKey ready depth) := by
  obtain ⟨depths, ordered, keys⟩ := takeKey_spec spec state nodeKey ready depth
  have taken : nodeKey ∈ state.orderedKeys ++ state.ready := by
    rw [readyEq]
    exact List.mem_append_right _ List.mem_cons_self
  have known := invariant.known nodeKey taken
  have free := (invariant.ready nodeKey known).mp taken
  have distinct := invariant.distinct
  rw [readyEq] at distinct
  have fresh : nodeKey ∉ state.orderedKeys := fun member =>
    (List.nodup_append.mp distinct).2.2 nodeKey member nodeKey List.mem_cons_self rfl
  -- A key becomes ready in this round when all it still waits for is the taken key.
  have becomes : ∀ key ∈ nodeKeys spec,
      (1 ≤ state.remainingDependencies key ∧
        state.remainingDependencies key ≤ (dependantsOf spec nodeKey).count key) ↔
      key ∉ state.orderedKeys ++ state.ready ∧
        waitingFor spec (state.orderedKeys ++ [nodeKey]) key = [] := by
    intro key member
    have shrinks := @waitingFor_snoc spec _ _ fresh key
    rw [invariant.remaining key member, dependantsOf_count sound.unique, invariant.ready key member,
      ← waitingFor_eq_nil, ← List.length_eq_zero_iff, ← List.length_eq_zero_iff]
    omega
  have unknown : ∀ key, 1 ≤ state.remainingDependencies key ∧
      state.remainingDependencies key ≤ (dependantsOf spec nodeKey).count key →
        key ∈ nodeKeys spec := by
    intro key waits
    by_contra absent
    rw [dependantsOf_count sound.unique, dependenciesOf_unknown absent, List.count_nil] at waits
    omega
  have counted : ∀ key, ((Engine.takeKey spec state nodeKey ready depth).orderedKeys ++
      (Engine.takeKey spec state nodeKey ready depth).ready).count key =
        (state.orderedKeys ++ state.ready).count key +
          if 1 ≤ state.remainingDependencies key ∧
            state.remainingDependencies key ≤ (dependantsOf spec nodeKey).count key
          then 1 else 0 := by
    intro key
    rw [List.count_append, ordered, (keys key).2, readyEq, List.count_append, List.count_append,
      List.count_cons, List.count_cons, List.count_nil]
    omega
  have member_iff : ∀ key, key ∈ (Engine.takeKey spec state nodeKey ready depth).orderedKeys ++
      (Engine.takeKey spec state nodeKey ready depth).ready ↔
        key ∈ state.orderedKeys ++ state.ready ∨
          1 ≤ state.remainingDependencies key ∧
            state.remainingDependencies key ≤ (dependantsOf spec nodeKey).count key := by
    intro key
    rw [← List.count_pos_iff, counted, ← List.count_pos_iff]
    split
    · rename_i waits
      exact iff_of_true (by omega) (.inr waits)
    · rename_i waits
      rw [Nat.add_zero, or_iff_left waits]
  refine ⟨?_, ?_, ?_, ?_, ?_, ?_⟩
  · rw [List.nodup_iff_count_le_one]
    intro key
    rw [counted]
    split
    · rename_i waits
      have absent := ((becomes key (unknown key waits)).mp waits).1
      rw [List.count_eq_zero_of_not_mem absent]
    · exact List.nodup_iff_count_le_one.mp invariant.distinct key
  · intro key member
    rcases (member_iff key).mp member with before | waits
    · exact invariant.known key before
    · exact unknown key waits
  · rw [ordered]
    exact invariant.ordered.snoc fresh free
  · intro key member
    rw [member_iff, becomes key member, ordered, ← waitingFor_eq_nil]
    by_cases before : key ∈ state.orderedKeys ++ state.ready
    · refine iff_of_true (.inl before) ?_
      rw [waitingFor_eq_nil]
      intro dependency named
      exact List.mem_append_left _ ((invariant.ready key member).mp before dependency named)
    · rw [or_iff_right before, and_iff_right before]
  · intro key member
    rw [(keys key).1, ordered, invariant.remaining key member, waitingFor_snoc fresh key,
      dependantsOf_count sound.unique]
    push_cast
    omega
  · intro key member
    rw [ordered] at member
    rw [depths]
    by_cases same : key = nodeKey
    · subst same
      exact ⟨depth, Function.update_self .., isDepth, fits⟩
    · rw [Function.update_of_ne same]
      have earlier : key ∈ state.orderedKeys := by
        rcases List.mem_append.mp member with earlier | last
        · exact earlier
        · exact absurd (List.mem_singleton.mp last) same
      exact invariant.depths key earlier

/-- No dependency path of the specification is longer than the limit. -/
def DepthFits (spec : WorkflowSpec) (maxDepth : ℕ) : Prop :=
  ∀ key ∈ nodeKeys spec, ∀ length,
    DependencyPath (dependenciesOf spec) key length → length ≤ maxDepth

theorem OrderingInvariant.length_le {spec : WorkflowSpec} {maxDepth : ℕ} {state : OrderingState}
    (invariant : OrderingInvariant spec maxDepth state) :
    state.orderedKeys.length + state.ready.length ≤ spec.nodes.length := by
  have fits := (List.subperm_of_subset invariant.distinct invariant.known).length_le
  rwa [List.length_append, nodeKeys, List.length_map] at fits

/-- The loop ends with every key that can be ordered, or at a key that is too deep. -/
theorem orderReady_spec {spec : WorkflowSpec} (sound : KeysAreSound spec) {maxDepth : ℕ}
    (rounds : ℕ) (state : OrderingState) (invariant : OrderingInvariant spec maxDepth state)
    (enough : spec.nodes.length ≤ rounds + state.orderedKeys.length) :
    (∃ final, orderReady spec maxDepth rounds state = .ok final ∧
        OrderingInvariant spec maxDepth final ∧ final.ready = []) ∨
      (∃ failure, orderReady spec maxDepth rounds state = .error failure) ∧
        ¬ DepthFits spec maxDepth := by
  induction rounds generalizing state with
  | zero =>
      have fits := invariant.length_le
      have empty : state.ready = [] := List.eq_nil_of_length_eq_zero (by omega)
      exact .inl ⟨state, rfl, invariant, empty⟩
  | succ rounds ih =>
      unfold orderReady
      cases readyEq : state.ready with
      | nil => exact .inl ⟨state, rfl, invariant, readyEq⟩
      | cons nodeKey ready =>
          have taken : nodeKey ∈ state.orderedKeys ++ state.ready := by
            rw [readyEq]
            exact List.mem_append_right _ List.mem_cons_self
          have known := invariant.known nodeKey taken
          have free := (invariant.ready nodeKey known).mp taken
          obtain ⟨node, member, rfl⟩ := List.mem_map.mp known
          rw [dependenciesOf_node sound.unique member] at free
          have isDepth := calculateDepth_isDepth invariant sound member free
          dsimp only
          rw [find_key sound.unique member]
          dsimp only
          by_cases deep : maxDepth < calculateDepth node state.depths
          · rw [if_pos deep]
            refine .inr ⟨⟨_, rfl⟩, fun fits => ?_⟩
            exact absurd (fits node.key known _ isDepth.1) (by omega)
          · rw [if_neg deep]
            have next := invariant.takeKey sound readyEq isDepth (by omega)
            refine ih _ next ?_
            have ordered := (takeKey_spec spec state node.key ready
              (calculateDepth node state.depths)).2.1
            show _ ≤ rounds + (takeKey spec state node.key ready _).orderedKeys.length
            rw [ordered, List.length_append, List.length_singleton]
            omega

/-- What is ordered when nothing is ready any more is everything, unless there is a
cycle. -/
theorem OrderingInvariant.complete {spec : WorkflowSpec} {maxDepth : ℕ} {final : OrderingState}
    (invariant : OrderingInvariant spec maxDepth final) (sound : KeysAreSound spec)
    (empty : final.ready = []) (acyclic : IsAcyclic (dependenciesOf spec)) :
    final.orderedKeys.Perm (nodeKeys spec) := by
  have distinct := invariant.distinct
  have known := invariant.known
  have ready := invariant.ready
  rw [empty, List.append_nil] at distinct known ready
  refine (List.perm_ext_iff_of_nodup distinct sound.unique).mpr fun key =>
    ⟨known key, fun member => ?_⟩
  by_contra missing
  let left := (nodeKeys spec).filter fun key => key ∉ final.orderedKeys
  have inLeft : key ∈ left := List.mem_filter.mpr ⟨member, decide_eq_true missing⟩
  obtain ⟨minimal, inside, free⟩ := acyclic.exists_minimal (List.ne_nil_of_mem inLeft)
  obtain ⟨minimalKnown, unordered⟩ := List.mem_filter.mp inside
  refine of_decide_eq_true unordered ((ready minimal minimalKnown).mpr ?_)
  intro dependency named
  by_contra unorderedDependency
  exact free dependency named
    (List.mem_filter.mpr ⟨sound.resolved minimal dependency named,
      decide_eq_true unorderedDependency⟩)

/-- An order of as many keys as there are nodes is one of all keys. -/
theorem OrderingInvariant.perm_of_length {spec : WorkflowSpec} {maxDepth : ℕ}
    {final : OrderingState} (invariant : OrderingInvariant spec maxDepth final)
    (length : final.orderedKeys.length = spec.nodes.length) :
    final.orderedKeys.Perm (nodeKeys spec) := by
  have distinct := (List.nodup_append.mp invariant.distinct).1
  have known : final.orderedKeys ⊆ nodeKeys spec := fun key member =>
    invariant.known key (List.mem_append_left _ member)
  refine (List.subperm_of_subset distinct known).perm_of_length_le ?_
  rw [nodeKeys, List.length_map, length]

/-- **The loop is exact.** It orders the graph exactly when no key depends on itself and
no path is too long, and then it orders every key. -/
theorem orderGraph_spec {spec : WorkflowSpec} (sound : KeysAreSound spec) {maxDepth : ℕ} :
    ((∃ ordered, orderGraph spec maxDepth = .ok ordered) ↔
        IsAcyclic (dependenciesOf spec) ∧ DepthFits spec maxDepth) ∧
      ∀ ordered, orderGraph spec maxDepth = .ok ordered →
        OrderingInvariant spec maxDepth ordered ∧ ordered.orderedKeys.Perm (nodeKeys spec) := by
  have covers : ∀ key, dependenciesOf spec key ≠ [] → key ∈ nodeKeys spec := by
    intro key depends
    by_contra unknown
    exact depends (dependenciesOf_unknown unknown)
  have start := OrderingInvariant.initial sound maxDepth
  unfold orderGraph
  rcases orderReady_spec sound spec.nodes.length (initialOrdering spec) start (by omega) with
    ⟨final, finalEq, invariant, empty⟩ | ⟨⟨failure, failureEq⟩, deep⟩
  · rw [finalEq]
    dsimp only
    by_cases length : final.orderedKeys.length = spec.nodes.length
    · rw [if_neg (by simpa using length)]
      have permuted := invariant.perm_of_length length
      refine ⟨iff_of_true ⟨final, rfl⟩ ⟨?_, ?_⟩, ?_⟩
      · exact invariant.ordered.isAcyclic fun key depends =>
          permuted.mem_iff.mpr (covers key depends)
      · intro key member length path
        obtain ⟨depth, _, isDepth, fits⟩ := invariant.depths key (permuted.mem_iff.mpr member)
        exact (isDepth.2 path).trans fits
      · intro ordered orderedEq
        cases orderedEq
        exact ⟨invariant, permuted⟩
    · rw [if_pos (by simpa using length)]
      refine ⟨iff_of_false (by simp) ?_, by simp⟩
      rintro ⟨acyclic, _⟩
      refine length ?_
      rw [(invariant.complete sound empty acyclic).length_eq, nodeKeys, List.length_map]
  · rw [failureEq]
    exact ⟨iff_of_false (by simp) fun fits => deep fits.2, by simp⟩

end Kurobara.Engine
