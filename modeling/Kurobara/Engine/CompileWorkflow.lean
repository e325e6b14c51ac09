import Kurobara.Kernel.Run.Plan
import Mathlib.Data.List.Sort

/-! # Compiling a workflow

`compileWorkflow` of the workflow engine: the nodes of a specification in dependency
order, with their depth. Nodes are taken from a ready list that is sorted by key, so
the order of the compiled nodes depends on the graph only.
-/

namespace Kurobara.Engine

open Kernel

/-- A node of a workflow as its author wrote it. -/
structure WorkflowNode where
  key : String
  capability : CapabilityRef
  dependsOn : List String
  humanGate : Option String
  deriving DecidableEq, Repr

/-- A workflow before compilation. -/
structure WorkflowSpec where
  workflowSpecId : String
  revision : String
  contentHash : ContentHash
  nodes : List WorkflowNode
  deriving DecidableEq, Repr

/-- The limits the caller compiles under. -/
structure WorkflowCompilationLimits where
  maxNodes : ℕ
  maxDepth : ℕ
  maxFanOut : ℕ
  deriving DecidableEq, Repr

inductive WorkflowCompilationFailureCode where
  | compilerVersionUnsupported
  | duplicateNode
  | nodeLimitExceeded
  | unresolvedDependency
  | capabilityNotAllowed
  | fanOutLimitExceeded
  | cycleDetected
  | depthLimitExceeded
  deriving DecidableEq, Repr

def WorkflowCompilationFailureCode.text : WorkflowCompilationFailureCode → String
  | .compilerVersionUnsupported => "compiler-version-unsupported"
  | .duplicateNode => "duplicate-node"
  | .nodeLimitExceeded => "node-limit-exceeded"
  | .unresolvedDependency => "unresolved-dependency"
  | .capabilityNotAllowed => "capability-not-allowed"
  | .fanOutLimitExceeded => "fan-out-limit-exceeded"
  | .cycleDetected => "cycle-detected"
  | .depthLimitExceeded => "depth-limit-exceeded"

structure WorkflowCompilationFailure where
  code : WorkflowCompilationFailureCode
  nodeKey : Option String
  message : String
  deriving DecidableEq, Repr

/-- `WORKFLOW_COMPILER_VERSION`. -/
def workflowCompilerVersion : String := "1.0.0"

/-- `Array.prototype.sort` with `compareText`. -/
def sortText (texts : List String) : List String :=
  texts.insertionSort fun left right => textIsAtMost left right

/-! ## Validation -/

/-- The checks of one node, in their order. -/
def validateNode (spec : WorkflowSpec) (allowedCapabilities : List String) (node : WorkflowNode) :
    Except WorkflowCompilationFailure Unit :=
  if !allowedCapabilities.contains node.capability.capabilityId then
    .error ⟨.capabilityNotAllowed, some node.key, s!"Capability {node.capability.capabilityId} " ++
      "is not in the compilation allowlist."⟩
  else
    match node.dependsOn.find? fun dependency => !(spec.nodes.map WorkflowNode.key).contains
      dependency with
    | some unresolved => .error ⟨.unresolvedDependency, some node.key,
        s!"Dependency {unresolved} does not exist."⟩
    | none => .ok ()

/-- `validateNodes`: the node limit, keys, capabilities and dependencies, each with its own failure.
-/
def validateNodes (spec : WorkflowSpec) (allowedCapabilities : List String) (maxNodes : ℕ) :
    Except WorkflowCompilationFailure Unit :=
  if maxNodes < spec.nodes.length then
    .error ⟨.nodeLimitExceeded, none,
      s!"Workflow contains {spec.nodes.length} nodes; limit is {maxNodes}."⟩
  else if !decide (spec.nodes.map WorkflowNode.key).Nodup then
    .error ⟨.duplicateNode, none, "Workflow node keys must be unique."⟩
  else spec.nodes.forM (validateNode spec allowedCapabilities)

/-! ## The graph -/

/-- The nodes that depend on a key, once for each time they name it. -/
def dependantsOf (spec : WorkflowSpec) (key : String) : List String :=
  sortText (spec.nodes.flatMap fun node =>
    (node.dependsOn.filter (· == key)).map fun _ => node.key)

/-- The keys with dependants, in the order in which the graph meets them. -/
def graphKeys (spec : WorkflowSpec) : List String :=
  (spec.nodes.flatMap WorkflowNode.dependsOn).eraseDups

/-- `validateFanOut`: no key is depended on by more nodes than the limit. -/
def validateFanOut (spec : WorkflowSpec) (maxFanOut : ℕ) : Except WorkflowCompilationFailure Unit :=
  (graphKeys spec).forM fun nodeKey =>
    let fanOut := (dependantsOf spec nodeKey).length
    if maxFanOut < fanOut then
      .error ⟨.fanOutLimitExceeded, some nodeKey,
        s!"Node {nodeKey} has fan-out {fanOut}; limit is {maxFanOut}."⟩
    else .ok ()

/-- What the ordering loop carries: the ready keys, the dependencies that each node
still waits for, the depths, and the keys in their order. -/
structure OrderingState where
  ready : List String
  remainingDependencies : String → ℤ
  depths : String → Option ℕ
  orderedKeys : List String

/-- The nodes without dependencies are ready at the start, in key order. -/
def initialOrdering (spec : WorkflowSpec) : OrderingState where
  ready := sortText ((spec.nodes.filter (·.dependsOn.isEmpty)).map WorkflowNode.key)
  remainingDependencies key :=
    ((spec.nodes.find? (·.key == key)).map fun node => (node.dependsOn.length : ℤ)).getD 0
  depths _ := none
  orderedKeys := []

/-- `calculateDepth`: one more than the deepest dependency, zero without any. -/
def calculateDepth (node : WorkflowNode) (depths : String → Option ℕ) : ℕ :=
  node.dependsOn.foldl (fun maximum dependency =>
    max maximum ((depths dependency).elim 0 (· + 1))) 0

/-- One dependant of the node that was taken waits for one dependency less. -/
def releaseDependant (state : OrderingState) (dependant : String) : OrderingState :=
  let nextRemaining := state.remainingDependencies dependant - 1
  { state with
    remainingDependencies := Function.update state.remainingDependencies dependant nextRemaining
    ready := if nextRemaining = 0 then sortText (state.ready ++ [dependant]) else state.ready }

/-- The ordering loop. Every key becomes ready at most once, so as many rounds as there
are nodes empty the ready list. -/
def orderReady (spec : WorkflowSpec) (maxDepth : ℕ) :
    ℕ → OrderingState → Except WorkflowCompilationFailure OrderingState
  | 0, state => .ok state
  | rounds + 1, state =>
      match state.ready with
      | [] => .ok state
      | nodeKey :: ready =>
          match spec.nodes.find? (·.key == nodeKey) with
          -- Every ready key is the key of a node.
          | none => .ok state
          | some node =>
              let depth := calculateDepth node state.depths
              if maxDepth < depth then
                .error ⟨.depthLimitExceeded, some nodeKey,
                  s!"Node {nodeKey} has depth {depth}; limit is {maxDepth}."⟩
              else
                orderReady spec maxDepth rounds
                  ((dependantsOf spec nodeKey).foldl releaseDependant {
                  state with
                  ready := ready
                  depths := Function.update state.depths nodeKey (some depth)
                  orderedKeys := state.orderedKeys ++ [nodeKey] })

/-- `orderGraph`: the keys in the order they become ready, refused where a cycle leaves some of them
out. -/
def orderGraph (spec : WorkflowSpec) (maxDepth : ℕ) :
    Except WorkflowCompilationFailure OrderingState :=
  match orderReady spec maxDepth spec.nodes.length (initialOrdering spec) with
  | .error failure => .error failure
  | .ok ordered =>
      if ordered.orderedKeys.length != spec.nodes.length then
        .error ⟨.cycleDetected, none, "Workflow dependency graph contains a cycle."⟩
      else .ok ordered

/-! ## The compiled workflow -/

/-- The nodes in execution order, with their depths. -/
def toCompiledNodes (spec : WorkflowSpec) (ordered : OrderingState) : List CompiledWorkflowNode :=
  ordered.orderedKeys.filterMap fun key =>
    (spec.nodes.find? (·.key == key)).map fun node => {
      key := node.key
      capability := node.capability
      dependsOn := sortText node.dependsOn
      depth := (ordered.depths key).getD 0
      humanGate := node.humanGate }

/-- The part of the fingerprint that one node writes. -/
def nodeFingerprint (node : CompiledWorkflowNode) : String :=
  node.key ++ ":" ++ node.capability.capabilityId ++ "@" ++ node.capability.capabilityVersion ++
    ":" ++ ",".intercalate node.dependsOn ++ ":" ++ node.humanGate.getD ""

def compileWorkflow (spec : WorkflowSpec) (allowedCapabilities : List String)
    (limits : WorkflowCompilationLimits) (compilerVersion : String) :
    Except WorkflowCompilationFailure CompiledWorkflow :=
  if compilerVersion != workflowCompilerVersion then
    .error ⟨.compilerVersionUnsupported, none,
      "The requested workflow compiler version is not supported."⟩
  else
    match validateNodes spec allowedCapabilities limits.maxNodes with
    | .error failure => .error failure
    | .ok _ =>
    match validateFanOut spec limits.maxFanOut with
    | .error failure => .error failure
    | .ok _ =>
    match orderGraph spec limits.maxDepth with
    | .error failure => .error failure
    | .ok ordered =>
        let nodes := toCompiledNodes spec ordered
        .ok {
          workflowSpecId := spec.workflowSpecId
          workflowRevision := spec.revision
          workflowContentHash := spec.contentHash
          compilerVersion := compilerVersion
          fingerprint := "|".intercalate (nodes.map nodeFingerprint)
          nodes := nodes }

/-- A compiled workflow names the specification that it compiles. -/
theorem compileWorkflow_identity {spec : WorkflowSpec} {allowedCapabilities : List String}
    {limits : WorkflowCompilationLimits} {compilerVersion : String} {compiled : CompiledWorkflow}
    (accepted : compileWorkflow spec allowedCapabilities limits compilerVersion = .ok compiled) :
    compiled.workflowSpecId = spec.workflowSpecId ∧ compiled.workflowRevision = spec.revision ∧
      compiled.workflowContentHash = spec.contentHash := by
  unfold compileWorkflow at accepted
  split at accepted
  · cases accepted
  split at accepted
  · cases accepted
  split at accepted
  · cases accepted
  split at accepted
  · cases accepted
  cases accepted
  exact ⟨rfl, rfl, rfl⟩

/-- Every node of a compiled workflow is a node of its specification. -/
theorem compileWorkflow_nodes {spec : WorkflowSpec} {allowedCapabilities : List String}
    {limits : WorkflowCompilationLimits} {compilerVersion : String} {compiled : CompiledWorkflow}
    (accepted : compileWorkflow spec allowedCapabilities limits compilerVersion = .ok compiled) :
    ∀ node ∈ compiled.nodes, ∃ source ∈ spec.nodes, node.key = source.key ∧
      node.capability = source.capability := by
  unfold compileWorkflow at accepted
  split at accepted
  · cases accepted
  split at accepted
  · cases accepted
  split at accepted
  · cases accepted
  split at accepted
  · cases accepted
  rename_i ordered _
  cases accepted
  intro node member
  obtain ⟨key, _, compiledNode⟩ := List.mem_filterMap.mp member
  obtain ⟨source, found, rfl⟩ := Option.map_eq_some_iff.mp compiledNode
  exact ⟨source, List.mem_of_find?_eq_some found, rfl, rfl⟩

end Kurobara.Engine
