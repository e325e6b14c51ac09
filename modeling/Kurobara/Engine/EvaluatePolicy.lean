import Kurobara.Kernel.Run.Plan

/-! # Evaluating a policy

`evaluatePolicy` of the policy engine: the reasons for which a policy denies a
capability to an actor under an authority.
-/

namespace Kurobara.Engine

open Kernel

/-- The policy an evaluation goes by. -/
structure PolicySnapshot where
  version : String
  factsHash : ContentHash
  requiredPermission : String
  deriving DecidableEq, Repr

/-- The facts an evaluation goes by. -/
structure PolicyFacts where
  workspaceId : WorkspaceId
  capability : CapabilityRef
  actorPermissions : List String
  authority : AuthorityEnvelope
  now : Instant
  deriving DecidableEq, Repr

inductive PolicyReasonCode where
  | workspaceMismatch
  | permissionMissing
  | capabilityOutsideAuthority
  | authorityDeadlineElapsed
  | allowed
  deriving DecidableEq, Repr

def PolicyReasonCode.text : PolicyReasonCode → String
  | .workspaceMismatch => "workspace-mismatch"
  | .permissionMissing => "permission-missing"
  | .capabilityOutsideAuthority => "capability-outside-authority"
  | .authorityDeadlineElapsed => "authority-deadline-elapsed"
  | .allowed => "allowed"

/-- The answer: allowed exactly when there is no reason against it. -/
structure PolicyDecision where
  allowed : Bool
  policyVersion : String
  factsHash : ContentHash
  reasonCodes : List PolicyReasonCode
  deriving DecidableEq, Repr

/-- A reason is reported when its condition holds. -/
def deniedWhen (condition : Bool) (reason : PolicyReasonCode) : List PolicyReasonCode :=
  if condition then [reason] else []

private def deniedReasons (policy : PolicySnapshot) (facts : PolicyFacts) : List PolicyReasonCode :=
  deniedWhen (facts.workspaceId != facts.authority.workspaceId) .workspaceMismatch ++
    deniedWhen (!(facts.actorPermissions.contains policy.requiredPermission &&
      facts.authority.permissions.contains policy.requiredPermission)) .permissionMissing ++
    deniedWhen (facts.authority.capabilities.all fun authorizedCapability =>
      !capabilityMatches facts.capability authorizedCapability) .capabilityOutsideAuthority ++
    deniedWhen (decide (facts.authority.deadline ≤ facts.now)) .authorityDeadlineElapsed

def evaluatePolicy (policy : PolicySnapshot) (facts : PolicyFacts) : PolicyDecision :=
  let reasons := deniedReasons policy facts
  ⟨reasons.isEmpty, policy.version, policy.factsHash,
    if reasons.isEmpty then [.allowed] else reasons⟩

end Kurobara.Engine
