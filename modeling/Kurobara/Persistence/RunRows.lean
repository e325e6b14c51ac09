import Kurobara.Kernel.Run.Stopping

/-! # Run rows

The Runs of one workspace with their command journal, and the wake-ups that a
transaction leaves for the scheduler. A Run row is identified by its Run; a journal
entry by its Run and idempotency key.
-/

namespace Kurobara.Persistence

open Kernel

/-- The rows of Runs, their commands and their events. -/
structure RunRows where
  runs : List Run
  commandJournal : List RunCommandReplayProof
  events : List RunLifecycleEvent
  dagScheduleRequests : List RunId
  deriving DecidableEq, Repr

namespace RunRows

/-- The Run of an identifier. -/
def findRun (rows : RunRows) (runId : RunId) : Option Run :=
  rows.runs.find? fun run => run.runId == runId

/-- The Run that a key created. -/
def findByIdempotencyKey (rows : RunRows) (idempotencyKey : IdempotencyKey) : Option Run :=
  rows.runs.find? fun run => run.idempotencyKey == idempotencyKey

/-- The command of a key on a Run. -/
def findCommand (rows : RunRows) (runId : RunId) (idempotencyKey : IdempotencyKey) :
    Option RunCommandReplayProof :=
  rows.commandJournal.find? fun proof =>
    proof.runId == runId && proof.identity.idempotencyKey == idempotencyKey

/-- Appends a Run. -/
def insertRun (rows : RunRows) (run : Run) : RunRows :=
  { rows with runs := rows.runs ++ [run] }

/-- Stores a Run in the place of the one of its identifier. -/
def updateRun (rows : RunRows) (run : Run) : RunRows :=
  { rows with runs := rows.runs.map fun known => if known.runId == run.runId then run else known }

/-- The writes of a fresh Run command: the Run, its events and the journal entry. -/
def recordRunTransition (rows : RunRows) (transition : RunTransition)
    (proof : RunCommandReplayProof) : RunRows :=
  { rows.updateRun transition.run with
    commandJournal := rows.commandJournal ++ [proof]
    events := rows.events ++ transition.events }

@[simp] theorem recordRunTransition_findRun (rows : RunRows) (transition : RunTransition)
    (proof : RunCommandReplayProof) :
    (rows.recordRunTransition transition proof).findRun =
      (rows.updateRun transition.run).findRun := rfl

theorem findRun_runId {rows : RunRows} {runId : RunId} {run : Run}
    (found : rows.findRun runId = some run) : run.runId = runId := by
  simpa using List.find?_some found

theorem findRun_mem {rows : RunRows} {runId : RunId} {run : Run}
    (found : rows.findRun runId = some run) : run ∈ rows.runs :=
  List.mem_of_find?_eq_some found

/-- Updating a Run replaces what is found under its identity and nothing else. -/
theorem findRun_updateRun (rows : RunRows) (run : Run) (runId : RunId) :
    (rows.updateRun run).findRun runId =
      if runId = run.runId then (rows.findRun runId).map fun _ => run else rows.findRun runId := by
  unfold findRun updateRun
  induction rows.runs with
  | nil => simp
  | cons known rest ih =>
      simp only [List.map_cons, List.find?_cons]
      by_cases replaced : known.runId = run.runId
      · by_cases same : runId = run.runId
        · simp [replaced, same]
        · have other : (run.runId == runId) = false := by simpa using fun equal => same equal.symm
          have head : (if known.runId == run.runId then run else known) = run :=
            if_pos (by simpa using replaced)
          have missed : (known.runId == runId) = false := replaced ▸ other
          rw [head, other, missed]
          exact ih
      · by_cases found : known.runId = runId
        · have other : ¬ runId = run.runId := fun equal => replaced (found.trans equal)
          simp [found, other]
        · have missed : (known.runId == runId) = false := by simpa using found
          have head : (if known.runId == run.runId then run else known) = known :=
            if_neg (by simpa using replaced)
          rw [head, missed]
          exact ih

theorem findRun_insertRun {rows : RunRows} {run known : Run} {runId : RunId}
    (found : rows.findRun runId = some known) :
    (rows.insertRun run).findRun runId = some known := by
  unfold findRun insertRun at *
  rw [List.find?_append, found]
  rfl

end RunRows

end Kurobara.Persistence
