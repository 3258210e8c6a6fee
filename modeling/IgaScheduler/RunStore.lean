import IgaScheduler.JobRun

namespace IgaScheduler

open Relational

/-!
# The writes of `RunStore`

Each `UPDATE job_runs` of `runStore.js` is the pair of its `WHERE` condition
and its `SET` clause; the key `run_id = $1` is supplied by the statement that
carries it.  `transition` is the one update whose clause is assembled by its
caller; its four callers in `RunControlService` are listed with it.
-/

namespace RunStore

/-- `AND dispatch_id = $n`, present only for a truthy `dispatchId`. -/
def fencing
    (dispatchId : Option String)
    (row : JobRun) :
    Bool :=
  match dispatchId with
  | none => true
  | some value => value = "" || row.dispatchId = some value

/-- `claimRun`, and the per-row update of `claimNextQueued`. -/
def claimRun
    (startedAt : Timestamp)
    (status : Option Json)
    (dispatchId : Uuid) :
    RowUpdate JobRun where
  guard row := row.state = .queued
  set row := { row with
    state := .running
    startedAt := some startedAt
    heartbeatAt := some startedAt
    status := some
      (status.getD (statusJson "running" "Run claimed by worker"))
    dispatchId := some dispatchId.text
    updatedAt := startedAt }

def recordRuntimeExecution
    (runtimeExecution : Option Json)
    (startedAt : Timestamp)
    (status : Option Json)
    (dispatchId : Option String) :
    RowUpdate JobRun where
  guard row := row.state = .running && fencing dispatchId row
  set row := { row with
    runtimeExecution := runtimeExecution
    heartbeatAt := some startedAt
    status := some
      (status.getD
        (statusJson "dispatched" "Run dispatched to isolated runtime"))
    updatedAt := startedAt }

def markSucceeded
    (endedAt : Timestamp)
    (result status : Option Json)
    (dispatchId : Option String) :
    RowUpdate JobRun where
  guard row := row.state = .running && fencing dispatchId row
  set row := { row with
    state := .succeeded
    endedAt := some endedAt
    heartbeatAt := some endedAt
    status := some
      (status.getD
        (statusJson "succeeded" "Run completed successfully"))
    result := result
    error := none
    updatedAt := endedAt }

def markFailed
    (endedAt : Timestamp)
    (error status : Option Json)
    (dispatchId : Option String) :
    RowUpdate JobRun where
  guard row := row.state = .running && fencing dispatchId row
  set row := { row with
    state := .failed
    endedAt := some endedAt
    heartbeatAt := some endedAt
    status := some
      (status.getD
        (statusJson "failed" "Run failed in worker runtime executor"))
    error := error
    updatedAt := endedAt }

/-- Fenced like the outcome writes, but also admits `CANCELLING`. -/
def touchHeartbeat
    (dispatchId : String)
    (heartbeatAt : Timestamp) :
    RowUpdate JobRun where
  guard row :=
    row.dispatchId = some dispatchId &&
      (row.state = .running || row.state = .cancelling)
  set row := { row with
    heartbeatAt := some heartbeatAt
    updatedAt := heartbeatAt }

def markCancelled
    (endedAt : Timestamp)
    (error status : Option Json) :
    RowUpdate JobRun where
  guard row := row.state = .cancelling
  set row := { row with
    state := .cancelled
    endedAt := some endedAt
    heartbeatAt := some endedAt
    status := some
      (status.getD
        (statusJson "cancelled" "Run force-cancelled by stale sweeper"))
    error := error
    updatedAt := endedAt }

/-- The `set` argument of `transition`: a column is written when it is present. -/
structure TransitionSet where
  state : RunState
  attempt : Option Nat := none
  dispatchId : Option (Option String) := none
  startedAt : Option (Option Timestamp) := none
  endedAt : Option (Option Timestamp) := none
  heartbeatAt : Option (Option Timestamp) := none
  status : Option (Option Json) := none
  error : Option (Option Json) := none
  runtimeExecution : Option (Option Json) := none
  cancelRequestedAt : Option (Option Timestamp) := none
  cancelledAt : Option (Option Timestamp) := none
  cancelledBy : Option (Option String) := none
  cancelReason : Option (Option String) := none
  updatedAt : Option Timestamp := none

/-- `transition`; `updatedAt` is dropped from `set` and written as `now()`. -/
def transition
    (fromStates : List RunState)
    (set : TransitionSet)
    (now : Timestamp) :
    RowUpdate JobRun where
  guard row := row.state ∈ fromStates
  set row := { row with
    state := set.state
    attempt := set.attempt.getD row.attempt
    dispatchId := set.dispatchId.getD row.dispatchId
    startedAt := set.startedAt.getD row.startedAt
    endedAt := set.endedAt.getD row.endedAt
    heartbeatAt := set.heartbeatAt.getD row.heartbeatAt
    status := set.status.getD row.status
    error := set.error.getD row.error
    runtimeExecution := set.runtimeExecution.getD row.runtimeExecution
    cancelRequestedAt := set.cancelRequestedAt.getD row.cancelRequestedAt
    cancelledAt := set.cancelledAt.getD row.cancelledAt
    cancelledBy := set.cancelledBy.getD row.cancelledBy
    cancelReason := set.cancelReason.getD row.cancelReason
    updatedAt := now }

end RunStore

namespace RunControlService

/-- `retryRun`'s transition from `FAILED`. -/
def retryTransition
    (nextAttempt : Nat)
    (dispatchId : Uuid)
    (nowIso now : Timestamp) :
    RowUpdate JobRun :=
  RunStore.transition [.failed] {
    state := .queued
    attempt := some nextAttempt
    dispatchId := some (some dispatchId.text)
    startedAt := some none
    endedAt := some none
    heartbeatAt := some none
    updatedAt := some nowIso
    status := some (some (statusJson "queued" "Run queued for retry"))
    error := some none
    runtimeExecution := some none
  } now

/-- `cancelRun`'s transition from `RUNNING`; `reason` is falsy when empty. -/
def cancelRunningTransition
    (reason cancelledBy : String)
    (nowIso now : Timestamp) :
    RowUpdate JobRun :=
  let message := if reason = "" then "Run cancellation requested" else reason
  RunStore.transition [.running] {
    state := .cancelling
    cancelRequestedAt := some (some nowIso)
    cancelledBy := some (some cancelledBy)
    cancelReason := some (some message)
    updatedAt := some nowIso
    status := some (some (statusJson "cancelling" message))
  } now

/-- `cancelRun`'s transition from `QUEUED`. -/
def cancelQueuedTransition
    (reason cancelledBy : String)
    (nowIso now : Timestamp) :
    RowUpdate JobRun :=
  let message := if reason = "" then "Run cancelled" else reason
  RunStore.transition [.queued] {
    state := .cancelled
    endedAt := some (some nowIso)
    heartbeatAt := some (some nowIso)
    cancelledAt := some (some nowIso)
    cancelledBy := some (some cancelledBy)
    cancelReason := some (some message)
    updatedAt := some nowIso
    status := some (some (statusJson "cancelled" message))
    error := some (some (errorJson "RUN_CANCELLED" message))
  } now

/-- `cancelRuntimeExecution`'s transition after a confirmed kill. -/
def killedTransition
    (cancelReason : Option String)
    (nowIso now : Timestamp) :
    RowUpdate JobRun :=
  let message :=
    match cancelReason with
    | none => "Run cancelled by operator"
    | some reason =>
        if reason = "" then "Run cancelled by operator" else reason
  RunStore.transition [.cancelling] {
    state := .cancelled
    endedAt := some (some nowIso)
    heartbeatAt := some (some nowIso)
    cancelledAt := some (some nowIso)
    status := some (some
      (statusJson "cancelled"
        "Run cancelled — worker terminated the subprocess"))
    error := some (some (errorJson "RUN_CANCELLED" message))
  } now

end RunControlService

/-- Every single-row update the services issue on `job_runs`. -/
inductive RunWrite where
  | claimRun
      (startedAt : Timestamp)
      (status : Option Json)
      (dispatchId : Uuid)
  | recordRuntimeExecution
      (runtimeExecution : Option Json)
      (startedAt : Timestamp)
      (status : Option Json)
      (dispatchId : Option String)
  | markSucceeded
      (endedAt : Timestamp)
      (result status : Option Json)
      (dispatchId : Option String)
  | markFailed
      (endedAt : Timestamp)
      (error status : Option Json)
      (dispatchId : Option String)
  | touchHeartbeat
      (dispatchId : String)
      (heartbeatAt : Timestamp)
  | markCancelled
      (endedAt : Timestamp)
      (error status : Option Json)
  | retry
      (nextAttempt : Nat)
      (dispatchId : Uuid)
      (nowIso now : Timestamp)
  | cancelRunning
      (reason cancelledBy : String)
      (nowIso now : Timestamp)
  | cancelQueued
      (reason cancelledBy : String)
      (nowIso now : Timestamp)
  | killed
      (cancelReason : Option String)
      (nowIso now : Timestamp)

namespace RunWrite

/-- The SQL of a write. -/
def update : RunWrite → RowUpdate JobRun
  | .claimRun startedAt status dispatchId =>
      RunStore.claimRun startedAt status dispatchId
  | .recordRuntimeExecution runtimeExecution startedAt status dispatchId =>
      RunStore.recordRuntimeExecution
        runtimeExecution startedAt status dispatchId
  | .markSucceeded endedAt result status dispatchId =>
      RunStore.markSucceeded endedAt result status dispatchId
  | .markFailed endedAt error status dispatchId =>
      RunStore.markFailed endedAt error status dispatchId
  | .touchHeartbeat dispatchId heartbeatAt =>
      RunStore.touchHeartbeat dispatchId heartbeatAt
  | .markCancelled endedAt error status =>
      RunStore.markCancelled endedAt error status
  | .retry nextAttempt dispatchId nowIso now =>
      RunControlService.retryTransition nextAttempt dispatchId nowIso now
  | .cancelRunning reason cancelledBy nowIso now =>
      RunControlService.cancelRunningTransition
        reason cancelledBy nowIso now
  | .cancelQueued reason cancelledBy nowIso now =>
      RunControlService.cancelQueuedTransition
        reason cancelledBy nowIso now
  | .killed cancelReason nowIso now =>
      RunControlService.killedTransition cancelReason nowIso now

/-- The states in which a write can take effect. -/
def sources : RunWrite → List RunState
  | .claimRun .. => [.queued]
  | .recordRuntimeExecution .. => [.running]
  | .markSucceeded .. => [.running]
  | .markFailed .. => [.running]
  | .touchHeartbeat .. => [.running, .cancelling]
  | .markCancelled .. => [.cancelling]
  | .retry .. => [.failed]
  | .cancelRunning .. => [.running]
  | .cancelQueued .. => [.queued]
  | .killed .. => [.cancelling]

/-- The state a write leaves, given the state it found. -/
def target : RunWrite → RunState → RunState
  | .claimRun .., _ => .running
  | .recordRuntimeExecution .., state => state
  | .markSucceeded .., _ => .succeeded
  | .markFailed .., _ => .failed
  | .touchHeartbeat .., state => state
  | .markCancelled .., _ => .cancelled
  | .retry .., _ => .queued
  | .cancelRunning .., _ => .cancelling
  | .cancelQueued .., _ => .cancelled
  | .killed .., _ => .cancelled

/-- The fresh `dispatch_id` a write mints, if it mints one. -/
def minted? : RunWrite → Option Uuid
  | .claimRun _ _ dispatchId => some dispatchId
  | .retry _ dispatchId _ _ => some dispatchId
  | _ => none

/-- The `dispatchId` a fenced write carries. -/
def carried? : RunWrite → Option (Option String)
  | .recordRuntimeExecution _ _ _ dispatchId => some dispatchId
  | .markSucceeded _ _ _ dispatchId => some dispatchId
  | .markFailed _ _ _ dispatchId => some dispatchId
  | .touchHeartbeat dispatchId _ => some (some dispatchId)
  | _ => none

/-- A write takes effect only in one of its source states. -/
theorem state_mem_sources
    {write : RunWrite}
    {row : JobRun}
    (admitted : write.update.guard row = true) :
    row.state ∈ write.sources := by
  cases write <;>
    simp_all [update, sources, RunStore.claimRun,
      RunStore.recordRuntimeExecution, RunStore.markSucceeded,
      RunStore.markFailed, RunStore.touchHeartbeat,
      RunStore.markCancelled, RunStore.transition,
      RunControlService.retryTransition,
      RunControlService.cancelRunningTransition,
      RunControlService.cancelQueuedTransition,
      RunControlService.killedTransition]

/-- Outside `FAILED`, `QUEUED` and the claims, a write is admitted by state alone. -/
theorem guard_of_unfenced
    {write : RunWrite}
    (unfenced : write.carried? = none)
    (row : JobRun) :
    write.update.guard row = true ↔ row.state ∈ write.sources := by
  cases write <;>
    simp_all [carried?, update, sources, RunStore.claimRun,
      RunStore.markCancelled, RunStore.transition,
      RunControlService.retryTransition,
      RunControlService.cancelRunningTransition,
      RunControlService.cancelQueuedTransition,
      RunControlService.killedTransition]

/-- A fenced write is admitted only on a row that bears its `dispatchId`. -/
theorem dispatchId_of_guard
    {write : RunWrite}
    {row : JobRun}
    {dispatchId : String}
    (carried : write.carried? = some (some dispatchId))
    (nonempty : dispatchId ≠ "")
    (admitted : write.update.guard row = true) :
    row.dispatchId = some dispatchId := by
  cases write <;>
    simp_all [carried?, update, RunStore.recordRuntimeExecution,
      RunStore.markSucceeded, RunStore.markFailed,
      RunStore.touchHeartbeat, RunStore.fencing]

@[simp] theorem set_state
    (write : RunWrite)
    (row : JobRun) :
    (write.update.set row).state = write.target row.state := by
  cases write <;> rfl

/-- Only a claim and a retry write the `dispatch_id` column. -/
theorem set_dispatchId
    (write : RunWrite)
    (row : JobRun) :
    (write.update.set row).dispatchId =
      match write.minted? with
      | some minted => some minted.text
      | none => row.dispatchId := by
  cases write <;> rfl

/-- Only a retry writes the `attempt` column. -/
theorem set_attempt
    (write : RunWrite)
    (row : JobRun) :
    (write.update.set row).attempt =
      match write with
      | .retry nextAttempt _ _ _ => nextAttempt
      | _ => row.attempt := by
  cases write <;> rfl

end RunWrite

end IgaScheduler
