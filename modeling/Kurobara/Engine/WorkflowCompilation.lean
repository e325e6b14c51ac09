import Kurobara.Engine.WorkflowOrder
import Mathlib.Data.List.Forall2

/-! # What the workflow compiler accepts

The specifications that `compileWorkflow` accepts, the compiled workflow it makes of
them, and its independence of the order in which a specification lists its nodes and
their dependencies.
-/

namespace Kurobara.Engine

open Kernel Foundation

/-! ## Acceptance -/

theorem forM_eq_ok {Failure Entry : Type} {check : Entry → Except Failure Unit}
    {entries : List Entry} :
    entries.forM check = .ok () ↔ ∀ entry ∈ entries, check entry = .ok () := by
  induction entries with
  | nil => exact iff_of_true rfl (by simp)
  | cons first entries ih =>
      change (check first >>= fun _ => entries.forM check) = .ok () ↔ _
      rw [List.forall_mem_cons, ← ih]
      cases check first with
      | error failure => exact iff_of_false (fun accepted => nomatch accepted) (by simp)
      | ok value => exact (and_iff_right rfl).symm

private theorem validateNode_ok {spec : WorkflowSpec} {allowedCapabilities : List String}
    {node : WorkflowNode} : validateNode spec allowedCapabilities node = .ok () ↔
      node.capability.capabilityId ∈ allowedCapabilities ∧
        ∀ dependency ∈ node.dependsOn, dependency ∈ nodeKeys spec := by
  unfold validateNode
  by_cases allowed : node.capability.capabilityId ∈ allowedCapabilities
  · rw [if_neg (by simpa using allowed), and_iff_right allowed]
    split
    · rename_i unresolved found
      refine iff_of_false (by simp) fun resolved => ?_
      have unknown := List.find?_some found
      have known := resolved unresolved (List.mem_of_find?_eq_some found)
      rw [nodeKeys] at known
      simp [known] at unknown
    · rename_i none
      refine iff_of_true rfl fun dependency named => ?_
      have known := List.find?_eq_none.mp none dependency named
      simpa [nodeKeys] using known
  · rw [if_pos (by simpa using allowed)]
    exact iff_of_false (by simp) fun admitted => allowed admitted.1

/-- The nodes pass exactly when they are within the limit and their keys, capabilities and
dependencies are admissible. -/
theorem validateNodes_ok {spec : WorkflowSpec} {allowedCapabilities : List String}
    {maxNodes : ℕ} : validateNodes spec allowedCapabilities maxNodes = .ok () ↔
      spec.nodes.length ≤ maxNodes ∧ (nodeKeys spec).Nodup ∧ ∀ node ∈ spec.nodes,
        node.capability.capabilityId ∈ allowedCapabilities ∧
          ∀ dependency ∈ node.dependsOn, dependency ∈ nodeKeys spec := by
  unfold validateNodes
  by_cases fits : spec.nodes.length ≤ maxNodes
  · rw [if_neg (by omega), and_iff_right fits]
    by_cases unique : (nodeKeys spec).Nodup
    · have decided : decide (spec.nodes.map WorkflowNode.key).Nodup = true := decide_eq_true unique
      rw [if_neg (by simp [decided]), and_iff_right unique, forM_eq_ok]
      exact forall₂_congr fun node member => validateNode_ok
    · have decided : decide (spec.nodes.map WorkflowNode.key).Nodup = false :=
        decide_eq_false unique
      rw [if_pos (by simp [decided])]
      exact iff_of_false (fun accepted => nomatch accepted) fun admitted => unique admitted.1
  · rw [if_pos (by omega)]
    exact iff_of_false (fun accepted => nomatch accepted) fun admitted => fits admitted.1

private theorem validateFanOut_ok {spec : WorkflowSpec} {maxFanOut : ℕ} :
    validateFanOut spec maxFanOut = .ok () ↔ ∀ key, fanOut spec key ≤ maxFanOut := by
  have checked : validateFanOut spec maxFanOut = .ok () ↔
      ∀ key ∈ graphKeys spec, fanOut spec key ≤ maxFanOut := by
    unfold validateFanOut
    rw [forM_eq_ok]
    refine forall₂_congr fun key member => ?_
    dsimp only
    rw [dependantsOf_length]
    by_cases fits : fanOut spec key ≤ maxFanOut
    · rw [if_neg (by omega)]
      exact iff_of_true rfl fits
    · rw [if_pos (by omega)]
      exact iff_of_false (fun accepted => nomatch accepted) fits
  rw [checked]
  refine ⟨fun fits key => ?_, fun fits key _ => fits key⟩
  by_cases named : key ∈ graphKeys spec
  · exact fits key named
  · have unnamed : ∀ node ∈ spec.nodes, key ∉ node.dependsOn := by
      intro node member depends
      exact named (List.mem_eraseDups.mpr (List.mem_flatMap.mpr ⟨node, member, depends⟩))
    have zero : fanOut spec key = 0 := by
      unfold fanOut
      rw [List.sum_eq_zero_iff_forall_eq_nat]
      intro count member
      obtain ⟨node, nodeMember, rfl⟩ := List.mem_map.mp member
      exact List.count_eq_zero_of_not_mem (unnamed node nodeMember)
    omega

/-- The workflow that is compiled from an order. -/
def compiledFrom (spec : WorkflowSpec) (compilerVersion : String) (ordered : OrderingState) :
    CompiledWorkflow where
  workflowSpecId := spec.workflowSpecId
  workflowRevision := spec.revision
  workflowContentHash := spec.contentHash
  compilerVersion := compilerVersion
  fingerprint := "|".intercalate ((toCompiledNodes spec ordered).map nodeFingerprint)
  nodes := toCompiledNodes spec ordered

/-- What an accepted compilation establishes. -/
theorem compileWorkflow_ok {spec : WorkflowSpec} {allowedCapabilities : List String}
    {limits : WorkflowCompilationLimits} {compilerVersion : String} {compiled : CompiledWorkflow} :
    compileWorkflow spec allowedCapabilities limits compilerVersion = .ok compiled ↔
      compilerVersion = workflowCompilerVersion ∧
        validateNodes spec allowedCapabilities limits.maxNodes = .ok () ∧
        validateFanOut spec limits.maxFanOut = .ok () ∧
        ∃ ordered, orderGraph spec limits.maxDepth = .ok ordered ∧
          compiled = compiledFrom spec compilerVersion ordered := by
  unfold compileWorkflow
  by_cases version : compilerVersion = workflowCompilerVersion
  · rw [if_neg (by simpa using version), and_iff_right version]
    cases validateNodes spec allowedCapabilities limits.maxNodes with
    | error failure => simp
    | ok value =>
        cases validateFanOut spec limits.maxFanOut with
        | error failure => simp
        | ok value =>
            cases orderGraph spec limits.maxDepth with
            | error failure => simp
            | ok ordered => simp [compiledFrom, eq_comm]
  · rw [if_pos (by simpa using version)]
    exact iff_of_false (fun accepted => nomatch accepted) fun admitted => version admitted.1

/-- A graph of nodes that can be ordered within its limits. -/
structure WorkflowGraphIsValid (spec : WorkflowSpec) (allowedCapabilities : List String)
    (limits : WorkflowCompilationLimits) : Prop where
  unique : (nodeKeys spec).Nodup
  capabilities : ∀ node ∈ spec.nodes, node.capability.capabilityId ∈ allowedCapabilities
  resolved : ∀ node ∈ spec.nodes, ∀ dependency ∈ node.dependsOn, dependency ∈ nodeKeys spec
  fanOut : ∀ key, fanOut spec key ≤ limits.maxFanOut
  depth : DepthFits spec limits.maxDepth
  acyclic : IsAcyclic (dependenciesOf spec)

/-- The specifications that the compiler accepts. -/
structure WorkflowIsAdmissible (spec : WorkflowSpec) (allowedCapabilities : List String)
    (limits : WorkflowCompilationLimits) (compilerVersion : String) : Prop
    extends WorkflowGraphIsValid spec allowedCapabilities limits where
  version : compilerVersion = workflowCompilerVersion
  size : spec.nodes.length ≤ limits.maxNodes

theorem keysAreSound {spec : WorkflowSpec} (unique : (nodeKeys spec).Nodup)
    (resolved : ∀ node ∈ spec.nodes, ∀ dependency ∈ node.dependsOn, dependency ∈ nodeKeys spec) :
    KeysAreSound spec := by
  refine ⟨unique, fun key dependency named => ?_⟩
  by_cases known : key ∈ nodeKeys spec
  · obtain ⟨node, member, rfl⟩ := List.mem_map.mp known
    rw [dependenciesOf_node unique member] at named
    exact resolved node member dependency named
  · rw [dependenciesOf_unknown known] at named
    cases named

/-- **Acceptance.** The compiler accepts exactly the admissible specifications. -/
theorem compileWorkflow_accepts_iff {spec : WorkflowSpec} {allowedCapabilities : List String}
    {limits : WorkflowCompilationLimits} {compilerVersion : String} :
    (∃ compiled, compileWorkflow spec allowedCapabilities limits compilerVersion = .ok compiled) ↔
      WorkflowIsAdmissible spec allowedCapabilities limits compilerVersion := by
  simp only [compileWorkflow_ok, validateNodes_ok, validateFanOut_ok]
  constructor
  · rintro ⟨compiled, version, ⟨size, unique, nodes⟩, fanOut, ordered, orderedEq, rfl⟩
    have resolved := fun node member => (nodes node member).2
    obtain ⟨acyclic, depth⟩ :=
      (orderGraph_spec (keysAreSound unique resolved)).1.mp ⟨ordered, orderedEq⟩
    exact ⟨⟨unique, fun node member => (nodes node member).1, resolved, fanOut, depth, acyclic⟩,
      version, size⟩
  · intro admissible
    obtain ⟨ordered, orderedEq⟩ :=
      (orderGraph_spec (keysAreSound admissible.unique admissible.resolved)).1.mpr
        ⟨admissible.acyclic, admissible.depth⟩
    exact ⟨_, admissible.version, ⟨admissible.size, admissible.unique, fun node member =>
      ⟨admissible.capabilities node member, admissible.resolved node member⟩⟩,
      admissible.fanOut, ordered, orderedEq, rfl⟩

/-! ## The compiled workflow -/

/-- The node that is compiled from a specified one, at its depth. -/
def compiledNode (node : WorkflowNode) (depth : ℕ) : CompiledWorkflowNode where
  key := node.key
  capability := node.capability
  dependsOn := sortText node.dependsOn
  depth := depth
  humanGate := node.humanGate

/-- A workflow that compiles a specification: the nodes, each at the length of its
longest dependency path, in an order in which each follows its dependencies. -/
structure IsCompilationOf (spec : WorkflowSpec) (compiled : CompiledWorkflow) : Prop where
  identity : compiled.workflowSpecId = spec.workflowSpecId ∧
    compiled.workflowRevision = spec.revision ∧ compiled.workflowContentHash = spec.contentHash
  nodes : ∃ depthOf : String → ℕ,
    (∀ node ∈ spec.nodes, IsDepth (dependenciesOf spec) node.key (depthOf node.key)) ∧
      compiled.nodes.Perm (spec.nodes.map fun node => compiledNode node (depthOf node.key))
  order : ∀ before node after, compiled.nodes = before ++ node :: after →
    ∀ dependency ∈ node.dependsOn, dependency ∈ before.map CompiledWorkflowNode.key

theorem toCompiledNodes_eq {spec : WorkflowSpec} {ordered : OrderingState}
    (permuted : ordered.orderedKeys.Perm (nodeKeys spec)) :
    (toCompiledNodes spec ordered).map CompiledWorkflowNode.key = ordered.orderedKeys := by
  have known : ∀ keys : List String, (∀ key ∈ keys, key ∈ nodeKeys spec) →
      (keys.filterMap fun key => (spec.nodes.find? (·.key == key)).map fun node =>
        compiledNode node ((ordered.depths key).getD 0)).map CompiledWorkflowNode.key = keys := by
    intro keys
    induction keys with
    | nil => intro _; rfl
    | cons key keys ih =>
        intro known
        rw [List.forall_mem_cons] at known
        obtain ⟨node, member, same⟩ := List.mem_map.mp known.1
        cases found : spec.nodes.find? (·.key == key) with
        | none => exact absurd same (by simpa using List.find?_eq_none.mp found node member)
        | some other =>
            have otherKey : other.key = key := by simpa using List.find?_some found
            rw [List.filterMap_cons, found]
            dsimp only [Option.map_some]
            rw [List.map_cons, ih known.2]
            exact congrArg (· :: keys) otherKey
  exact known ordered.orderedKeys fun key member => permuted.mem_iff.mp member

private theorem compiledFrom_isCompilationOf {spec : WorkflowSpec} {compilerVersion : String}
    {maxDepth : ℕ} {ordered : OrderingState} (sound : KeysAreSound spec)
    (orderedEq : orderGraph spec maxDepth = .ok ordered) :
    IsCompilationOf spec (compiledFrom spec compilerVersion ordered) := by
  obtain ⟨invariant, permuted⟩ := (orderGraph_spec sound).2 ordered orderedEq
  let depthOf := fun key => (ordered.depths key).getD 0
  refine ⟨⟨rfl, rfl, rfl⟩, ⟨depthOf, ?_, ?_⟩, ?_⟩
  · intro node member
    have listed := permuted.mem_iff.mpr (List.mem_map_of_mem member)
    obtain ⟨depth, depthEq, isDepth, _⟩ := invariant.depths node.key listed
    show IsDepth _ _ ((ordered.depths node.key).getD 0)
    rw [depthEq]
    exact isDepth
  · have taken : (nodeKeys spec).filterMap (fun key => (spec.nodes.find? (·.key == key)).map
        fun node => compiledNode node (depthOf key)) =
          spec.nodes.map fun node => compiledNode node (depthOf node.key) := by
      rw [nodeKeys, List.filterMap_map, ← List.filterMap_eq_map']
      apply List.filterMap_congr
      intro node member
      rw [Function.comp_apply, find_key sound.unique member]
      rfl
    rw [← taken]
    exact permuted.filterMap _
  · intro before node after split dependency named
    have keys := toCompiledNodes_eq permuted
    change toCompiledNodes spec ordered = before ++ node :: after at split
    rw [split, List.map_append, List.map_cons] at keys
    have free := invariant.ordered.dependencies_before keys.symm
    refine free dependency ?_
    have member : node ∈ toCompiledNodes spec ordered := split ▸ by simp
    obtain ⟨key, _, nodeEq⟩ := List.mem_filterMap.mp member
    obtain ⟨source, found, rfl⟩ := Option.map_eq_some_iff.mp nodeEq
    have inside := List.mem_of_find?_eq_some found
    rw [dependenciesOf_node sound.unique inside]
    exact (sortText_perm _).mem_iff.mp named

/-! ## Reordered specifications -/

/-- The same node, with its dependencies in some order. -/
structure SameNode (left right : WorkflowNode) : Prop where
  key : left.key = right.key
  capability : left.capability = right.capability
  humanGate : left.humanGate = right.humanGate
  dependsOn : left.dependsOn.Perm right.dependsOn

/-- The same specification, with its nodes and their dependencies in some order. -/
structure IsReordering (left right : WorkflowSpec) : Prop where
  identity : left.workflowSpecId = right.workflowSpecId ∧ left.revision = right.revision ∧
    left.contentHash = right.contentHash
  nodes : ∃ nodes, left.nodes.Perm nodes ∧ List.Forall₂ SameNode nodes right.nodes

theorem forall₂_mem {Left Right : Type} {related : Left → Right → Prop} {lefts : List Left}
    {rights : List Right} (pairs : List.Forall₂ related lefts rights) :
    (∀ left ∈ lefts, ∃ right ∈ rights, related left right) ∧
      ∀ right ∈ rights, ∃ left ∈ lefts, related left right := by
  induction pairs with
  | nil => simp
  | cons related pairs ih =>
      constructor
      · intro left member
        rcases List.mem_cons.mp member with rfl | later
        · exact ⟨_, List.mem_cons_self, related⟩
        · obtain ⟨right, rightMember, same⟩ := ih.1 left later
          exact ⟨right, List.mem_cons_of_mem _ rightMember, same⟩
      · intro right member
        rcases List.mem_cons.mp member with rfl | later
        · exact ⟨_, List.mem_cons_self, related⟩
        · obtain ⟨left, leftMember, same⟩ := ih.2 right later
          exact ⟨left, List.mem_cons_of_mem _ leftMember, same⟩

private theorem sameNodes_keys {lefts rights : List WorkflowNode}
    (pairs : List.Forall₂ SameNode lefts rights) :
    lefts.map WorkflowNode.key = rights.map WorkflowNode.key ∧
      (lefts.filter (·.dependsOn.isEmpty)).map WorkflowNode.key =
        (rights.filter (·.dependsOn.isEmpty)).map WorkflowNode.key := by
  induction pairs with
  | nil => exact ⟨rfl, rfl⟩
  | @cons left right lefts rights same pairs ih =>
      have free : left.dependsOn.isEmpty = right.dependsOn.isEmpty := by
        rw [Bool.eq_iff_iff, List.isEmpty_iff, List.isEmpty_iff]
        exact ⟨fun empty => (empty ▸ same.dependsOn).symm.eq_nil,
          fun empty => (empty ▸ same.dependsOn).eq_nil⟩
      refine ⟨by rw [List.map_cons, List.map_cons, same.key, ih.1], ?_⟩
      cases empty : right.dependsOn.isEmpty with
      | true =>
          rw [List.filter_cons_of_pos (by rw [free, empty]),
            List.filter_cons_of_pos (by rw [empty]), List.map_cons, List.map_cons, same.key, ih.2]
      | false =>
          rw [List.filter_cons_of_neg (by simp [free, empty]),
            List.filter_cons_of_neg (by simp [empty]), ih.2]

variable {left right : WorkflowSpec}

theorem IsReordering.keys (reordering : IsReordering left right) :
    (nodeKeys left).Perm (nodeKeys right) := by
  obtain ⟨nodes, permuted, pairs⟩ := reordering.nodes
  rw [nodeKeys, nodeKeys, ← (sameNodes_keys pairs).1]
  exact permuted.map _

theorem IsReordering.length (reordering : IsReordering left right) :
    left.nodes.length = right.nodes.length := by
  obtain ⟨nodes, permuted, pairs⟩ := reordering.nodes
  exact permuted.length_eq.trans pairs.length_eq

private theorem IsReordering.nodes_iff (reordering : IsReordering left right) :
    (∀ node ∈ left.nodes, ∃ other ∈ right.nodes, SameNode node other) ∧
      ∀ other ∈ right.nodes, ∃ node ∈ left.nodes, SameNode node other := by
  obtain ⟨nodes, permuted, pairs⟩ := reordering.nodes
  obtain ⟨forward, backward⟩ := forall₂_mem pairs
  refine ⟨fun node member => forward node (permuted.mem_iff.mp member), fun other member => ?_⟩
  obtain ⟨node, nodeMember, same⟩ := backward other member
  exact ⟨node, permuted.mem_iff.mpr nodeMember, same⟩

/-- The nodes of a key in the two specifications are the same. -/
theorem IsReordering.find (reordering : IsReordering left right)
    (unique : (nodeKeys left).Nodup) (key : String) :
    (left.nodes.find? (·.key == key) = none ∧ right.nodes.find? (·.key == key) = none) ∨
      ∃ node other, left.nodes.find? (·.key == key) = some node ∧
        right.nodes.find? (·.key == key) = some other ∧ SameNode node other := by
  have rightUnique : (nodeKeys right).Nodup := reordering.keys.nodup_iff.mp unique
  by_cases known : key ∈ nodeKeys left
  · obtain ⟨node, member, rfl⟩ := List.mem_map.mp known
    obtain ⟨other, otherMember, same⟩ := reordering.nodes_iff.1 node member
    refine .inr ⟨node, other, find_key unique member, ?_, same⟩
    rw [same.key]
    exact find_key rightUnique otherMember
  · have unknown : key ∉ nodeKeys right := fun member => known (reordering.keys.mem_iff.mpr member)
    have absent : ∀ nodes : List WorkflowNode, key ∉ nodes.map WorkflowNode.key →
        nodes.find? (·.key == key) = none := by
      intro nodes missing
      rw [List.find?_eq_none]
      intro node member same
      exact missing (beq_iff_eq.mp same ▸ List.mem_map_of_mem member)
    exact .inl ⟨absent _ known, absent _ unknown⟩

theorem IsReordering.dependencies (reordering : IsReordering left right)
    (unique : (nodeKeys left).Nodup) (key : String) :
    (dependenciesOf left key).Perm (dependenciesOf right key) := by
  unfold dependenciesOf
  rcases reordering.find unique key with ⟨leftEq, rightEq⟩ | ⟨node, other, leftEq, rightEq, same⟩
  · rw [leftEq, rightEq]
  · rw [leftEq, rightEq]
    exact same.dependsOn

theorem IsReordering.dependants (reordering : IsReordering left right)
    (unique : (nodeKeys left).Nodup) (key : String) :
    dependantsOf left key = dependantsOf right key := by
  have rightUnique : (nodeKeys right).Nodup := reordering.keys.nodup_iff.mp unique
  have permuted : (dependantsOf left key).Perm (dependantsOf right key) := by
    rw [List.perm_iff_count]
    intro dependant
    rw [dependantsOf_count unique, dependantsOf_count rightUnique]
    exact (reordering.dependencies unique dependant).count_eq key
  have sorted : ∀ texts, sortText (sortText texts) = sortText texts :=
    fun texts => sortText_eq_of_perm (sortText_perm texts)
  unfold dependantsOf at permuted ⊢
  rw [← sorted, sortText_eq_of_perm permuted, sorted]

theorem IsReordering.initialOrdering (reordering : IsReordering left right)
    (unique : (nodeKeys left).Nodup) :
    initialOrdering left = initialOrdering right := by
  unfold Engine.initialOrdering
  congr 1
  · obtain ⟨nodes, permuted, pairs⟩ := reordering.nodes
    rw [← (sameNodes_keys pairs).2]
    exact sortText_eq_of_perm ((permuted.filter _).map _)
  · funext key
    rcases reordering.find unique key with ⟨leftEq, rightEq⟩ | ⟨node, other, leftEq, rightEq, same⟩
    · rw [leftEq, rightEq]
    · rw [leftEq, rightEq]
      exact congrArg Int.ofNat same.dependsOn.length_eq

theorem SameNode.calculateDepth {first second : WorkflowNode} (same : SameNode first second)
    (depths : String → Option ℕ) : calculateDepth first depths = calculateDepth second depths := by
  unfold Engine.calculateDepth
  refine same.dependsOn.foldl_eq' (fun _ _ _ _ maximum => ?_) 0
  exact max_right_comm maximum _ _

theorem IsReordering.orderReady (reordering : IsReordering left right)
    (unique : (nodeKeys left).Nodup) (maxDepth rounds : ℕ) (state : OrderingState) :
    orderReady left maxDepth rounds state = orderReady right maxDepth rounds state := by
  induction rounds generalizing state with
  | zero => rfl
  | succ rounds ih =>
      unfold Engine.orderReady
      cases state.ready with
      | nil => rfl
      | cons nodeKey ready =>
          dsimp only
          rw [reordering.dependants unique nodeKey]
          rcases reordering.find unique nodeKey with
            ⟨leftEq, rightEq⟩ | ⟨node, other, leftEq, rightEq, same⟩
          · rw [leftEq, rightEq]
          · rw [leftEq, rightEq]
            dsimp only
            rw [same.calculateDepth, ih]

/-- The order of a workflow's nodes does not change the order they become ready in. -/
theorem IsReordering.orderGraph (reordering : IsReordering left right)
    (unique : (nodeKeys left).Nodup) (maxDepth : ℕ) :
    orderGraph left maxDepth = orderGraph right maxDepth := by
  unfold Engine.orderGraph
  rw [reordering.length, reordering.initialOrdering unique, reordering.orderReady unique]

private theorem IsReordering.compiledFrom (reordering : IsReordering left right)
    (unique : (nodeKeys left).Nodup) (compilerVersion : String) (ordered : OrderingState) :
    compiledFrom left compilerVersion ordered = compiledFrom right compilerVersion ordered := by
  have nodes : toCompiledNodes left ordered = toCompiledNodes right ordered := by
    unfold toCompiledNodes
    apply List.filterMap_congr
    intro key _
    rcases reordering.find unique key with
      ⟨leftEq, rightEq⟩ | ⟨node, other, leftEq, rightEq, same⟩
    · rw [leftEq, rightEq]
    · rw [leftEq, rightEq]
      simp [same.key, same.capability, same.humanGate, sortText_eq_of_perm same.dependsOn]
  unfold Engine.compiledFrom
  rw [nodes, reordering.identity.1, reordering.identity.2.1, reordering.identity.2.2]

theorem IsReordering.validateNodes (reordering : IsReordering left right)
    (allowedCapabilities : List String) (maxNodes : ℕ) :
    validateNodes left allowedCapabilities maxNodes = .ok () ↔
      validateNodes right allowedCapabilities maxNodes = .ok () := by
  rw [validateNodes_ok, validateNodes_ok, reordering.length, reordering.keys.nodup_iff]
  refine and_congr_right fun _ => and_congr_right fun _ => ?_
  have known : ∀ key, key ∈ nodeKeys left ↔ key ∈ nodeKeys right := fun key =>
    reordering.keys.mem_iff
  constructor
  · intro admitted other member
    obtain ⟨node, nodeMember, same⟩ := reordering.nodes_iff.2 other member
    obtain ⟨allowed, resolved⟩ := admitted node nodeMember
    refine ⟨same.capability ▸ allowed, fun dependency named => ?_⟩
    exact (known dependency).mp (resolved dependency (same.dependsOn.mem_iff.mpr named))
  · intro admitted node member
    obtain ⟨other, otherMember, same⟩ := reordering.nodes_iff.1 node member
    obtain ⟨allowed, resolved⟩ := admitted other otherMember
    refine ⟨same.capability ▸ allowed, fun dependency named => ?_⟩
    exact (known dependency).mpr (resolved dependency (same.dependsOn.mem_iff.mp named))

/-- **Order independence.** Reordering the nodes of a specification, or the entries of
their dependencies, changes neither the answer nor the compiled workflow. -/
theorem compileWorkflow_reordering (reordering : IsReordering left right)
    (allowedCapabilities : List String) (limits : WorkflowCompilationLimits)
    (compilerVersion : String) (compiled : CompiledWorkflow) :
    compileWorkflow left allowedCapabilities limits compilerVersion = .ok compiled ↔
      compileWorkflow right allowedCapabilities limits compilerVersion = .ok compiled := by
  rw [compileWorkflow_ok, compileWorkflow_ok]
  refine and_congr_right fun _ => ?_
  rw [reordering.validateNodes]
  refine and_congr_right fun valid => ?_
  have unique : (nodeKeys left).Nodup :=
    reordering.keys.nodup_iff.mpr (validateNodes_ok.mp valid).2.1
  have fanOuts : ∀ key, fanOut left key = fanOut right key := by
    intro key
    rw [← dependantsOf_length, ← dependantsOf_length, reordering.dependants unique]
  rw [validateFanOut_ok, validateFanOut_ok, reordering.orderGraph unique]
  simp only [fanOuts, reordering.compiledFrom unique]

/-- **Workflow compilation is exact.** -/
theorem compileWorkflow_exact (spec : WorkflowSpec) (allowedCapabilities : List String)
    (limits : WorkflowCompilationLimits) (compilerVersion : String) :
    ((∃ compiled, compileWorkflow spec allowedCapabilities limits compilerVersion =
        .ok compiled) ↔
      WorkflowIsAdmissible spec allowedCapabilities limits compilerVersion) ∧
    (∀ compiled, compileWorkflow spec allowedCapabilities limits compilerVersion =
        .ok compiled → IsCompilationOf spec compiled) ∧
    ∀ other, IsReordering spec other → ∀ compiled,
      compileWorkflow spec allowedCapabilities limits compilerVersion = .ok compiled ↔
        compileWorkflow other allowedCapabilities limits compilerVersion = .ok compiled := by
  refine ⟨compileWorkflow_accepts_iff, ?_, ?_⟩
  · intro compiled accepted
    obtain ⟨_, valid, _, ordered, orderedEq, rfl⟩ := compileWorkflow_ok.mp accepted
    obtain ⟨_, unique, nodes⟩ := validateNodes_ok.mp valid
    exact compiledFrom_isCompilationOf
      (keysAreSound unique fun node member => (nodes node member).2) orderedEq
  · intro other reordering compiled
    exact compileWorkflow_reordering reordering _ _ _ compiled

/-! ## A sample specification -/

def sampleWorkflowNode (key : String) (dependsOn : List String) : WorkflowNode :=
  ⟨key, ⟨"organizations.discover", "1.0.0"⟩, dependsOn, none⟩

/-- A node that names its dependency twice, listed before it. -/
def sampleWorkflowSpec : WorkflowSpec :=
  ⟨"workflow-1", "1", sampleHash,
    [sampleWorkflowNode "b" ["a", "a"], sampleWorkflowNode "a" []]⟩

def sampleReorderedSpec : WorkflowSpec :=
  ⟨"workflow-1", "1", sampleHash,
    [sampleWorkflowNode "a" [], sampleWorkflowNode "b" ["a", "a"]]⟩

def sampleCompilationLimits (maxNodes : ℕ) : WorkflowCompilationLimits := ⟨maxNodes, 1, 2⟩

/-- Compile a specification that uses the allowed capability only. -/
def sampleCompilation (spec : WorkflowSpec) (maxNodes : ℕ) (compilerVersion : String) :
    Except WorkflowCompilationFailure CompiledWorkflow :=
  compileWorkflow spec ["organizations.discover"] (sampleCompilationLimits maxNodes)
    compilerVersion

private theorem sampleCompilation_accepts :
    ∃ compiled, sampleCompilation sampleWorkflowSpec 2 "1.0.0" = .ok compiled := by
  have accepted : (sampleCompilation sampleWorkflowSpec 2 "1.0.0").toBool = true := by decide
  cases compiledEq : sampleCompilation sampleWorkflowSpec 2 "1.0.0" with
  | error failure =>
      rw [compiledEq] at accepted
      cases accepted
  | ok compiled => exact ⟨compiled, rfl⟩

theorem compileWorkflow_exact_sample :
    ∃ compiled, sampleCompilation sampleWorkflowSpec 2 "1.0.0" = .ok compiled ∧
      IsCompilationOf sampleWorkflowSpec compiled ∧
      sampleCompilation sampleReorderedSpec 2 "1.0.0" = .ok compiled := by
  obtain ⟨compiled, compiledEq⟩ := sampleCompilation_accepts
  obtain ⟨_, compiles, reorders⟩ := compileWorkflow_exact sampleWorkflowSpec
    ["organizations.discover"] (sampleCompilationLimits 2) "1.0.0"
  have reordering : IsReordering sampleWorkflowSpec sampleReorderedSpec := by
    refine ⟨⟨rfl, rfl, rfl⟩, _, List.Perm.swap _ _ _, .cons ?_ (.cons ?_ .nil)⟩
    · exact ⟨rfl, rfl, rfl, .refl _⟩
    · exact ⟨rfl, rfl, rfl, .refl _⟩
  exact ⟨compiled, compiledEq, compiles compiled compiledEq,
    (reorders _ reordering compiled).mp compiledEq⟩

/-- A valid graph is refused when it has more nodes than the limit, or when another
compiler version is asked for. -/
theorem compileWorkflow_refuses_validGraph :
    ¬ ∀ (spec : WorkflowSpec) (allowedCapabilities : List String)
      (limits : WorkflowCompilationLimits) (compilerVersion : String),
      (∃ compiled, compileWorkflow spec allowedCapabilities limits compilerVersion =
        .ok compiled) ↔ WorkflowGraphIsValid spec allowedCapabilities limits := by
  intro unlimited
  have admissible := compileWorkflow_accepts_iff.mp sampleCompilation_accepts
  have valid : WorkflowGraphIsValid sampleWorkflowSpec ["organizations.discover"]
      (sampleCompilationLimits 1) := {
    admissible.toWorkflowGraphIsValid with }
  obtain ⟨compiled, accepted⟩ := (unlimited _ _ _ "1.0.0").mpr valid
  have refused : (sampleCompilation sampleWorkflowSpec 1 "1.0.0").toBool = false := by decide
  rw [show sampleCompilation sampleWorkflowSpec 1 "1.0.0" = .ok compiled from accepted] at refused
  cases refused

end Kurobara.Engine
