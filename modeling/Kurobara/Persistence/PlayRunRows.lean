import Kurobara.Persistence.GtmRows
import Kurobara.Foundation.Keyed

/-! # Play run rows

Claims and updates of stored Play runs. The order in which claimable rows are taken and the
rows that other transactions hold only decide which of them a worker claims.
-/

namespace Kurobara.Persistence

open Kurobara.Kernel

/-- A claimed run with its lease. -/
structure GtmPlayRunClaim where
  lease : PlayRunLease
  run : StoredGtmPlayRun
deriving DecidableEq, Repr

/-- What a worker writes of a run. -/
structure GtmPlayRunUpdate where
  claimToken : String
  execution : GtmPlayRunExecution
  expectedRevision : ℕ
  runId : String
  state : GtmPlayRunState
  updatedAtMs : Instant
deriving DecidableEq, Repr

/-- What the store answers to an update. -/
inductive GtmPlayRunUpdateResult where
  | conflict
  | notFound
  | updated (run : StoredGtmPlayRun)
deriving DecidableEq, Repr

/-- The primary key of a row. -/
def StoredGtmPlayRun.key (run : StoredGtmPlayRun) : WorkspaceId × String :=
  (run.workspaceId, run.runId)

def PlayRunRow.key (row : PlayRunRow) : WorkspaceId × String :=
  row.run.key

/-- The rows that a worker may claim at an instant. -/
def PlayRunRow.isClaimable (row : PlayRunRow) (nowMs : Instant) : Bool :=
  (row.run.state == .queued || row.run.state == .running) &&
    row.claim.all fun lease => decide (lease.claimExpiresAtMs ≤ nowMs)

/-- The claim of a row by `claimNextPlayRun`. -/
def claimPlayRun (rows : List PlayRunRow) (run : StoredGtmPlayRun) (lease : PlayRunLease) :
    List PlayRunRow :=
  rows.map fun row => if row.key = run.key then { row with claim := some lease } else row

/-- The row that an update finds: its revision and its claim are the expected ones. -/
def matchesUpdate (workspaceId : WorkspaceId) (input : GtmPlayRunUpdate) (row : PlayRunRow) :
    Bool :=
  row.key == (workspaceId, input.runId) && row.run.revision == input.expectedRevision &&
    row.claim.any fun lease => lease.claimToken == input.claimToken

/-- The run after an update. -/
def updatedRun (input : GtmPlayRunUpdate) (run : StoredGtmPlayRun) : StoredGtmPlayRun :=
  { run with
    state := input.state
    execution := input.execution
    revision := run.revision + 1
    updatedAtMs := input.updatedAtMs }

/-- `updatePlayRun`: only where the claim and the revision still match; the claim is given up. -/
def updatePlayRun (rows : List PlayRunRow) (workspaceId : WorkspaceId)
    (input : GtmPlayRunUpdate) : List PlayRunRow × GtmPlayRunUpdateResult :=
  let updated := rows.map fun row =>
    if matchesUpdate workspaceId input row then
      { run := updatedRun input row.run, claim := none }
    else row
  match rows.find? (matchesUpdate workspaceId input) with
  | some row => (updated, .updated (updatedRun input row.run))
  | none =>
      (updated, if rows.any fun row => row.key == (workspaceId, input.runId) then .conflict
        else .notFound)

end Kurobara.Persistence
