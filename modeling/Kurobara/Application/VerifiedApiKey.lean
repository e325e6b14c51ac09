import Kurobara.Kernel.Values

/-! # The authenticated actor -/

namespace Kurobara.Application

open Kurobara.Kernel

/-- The actor of a verified API key, with the permissions that the key grants. -/
structure VerifiedApiKey where
  actorId : ActorId
  permissions : List String
  workspaceId : WorkspaceId
deriving DecidableEq, Repr

def hasPermission (actor : VerifiedApiKey) (permission : String) : Bool :=
  actor.permissions.contains permission

end Kurobara.Application
