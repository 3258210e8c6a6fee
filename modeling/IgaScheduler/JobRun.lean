import IgaScheduler.JobInstance

namespace IgaScheduler

/-!
# The `job_runs` table

One row of `job_runs` without its primary key, and the camel-case document the
services see.  `rowToDocument` and `documentToRow` are the two halves of the
column mapping at the end of `runStore.js`.
-/

/-- The `state` column of a run. -/
inductive RunState where
  | queued
  | running
  | succeeded
  | failed
  | cancelling
  | cancelled
  deriving DecidableEq, Repr

/-- The text stored in the `state` column. -/
def RunState.text : RunState → String
  | .queued => "QUEUED"
  | .running => "RUNNING"
  | .succeeded => "SUCCEEDED"
  | .failed => "FAILED"
  | .cancelling => "CANCELLING"
  | .cancelled => "CANCELLED"

/-- The columns of `job_runs` beside `run_id`. -/
structure JobRun where
  tenantId : Option String
  instanceId : String
  definitionId : String
  definitionVersion : Option Int
  scheduledFireTime : Timestamp
  state : RunState
  attempt : Nat
  dispatchId : Option String
  params : Parameters
  status : Option Json
  result : Option Json
  error : Option Json
  executionMetadata : Option Json
  runtimeExecution : Option Json
  parentRunId : Option String
  redriveOfRunId : Option String
  cancelRequestedAt : Option Timestamp
  cancelledAt : Option Timestamp
  cancelledBy : Option String
  cancelReason : Option String
  createdAt : Timestamp
  startedAt : Option Timestamp
  endedAt : Option Timestamp
  heartbeatAt : Option Timestamp
  updatedAt : Timestamp

/-- A run as the services read and write it. -/
structure RunDocument extends JobRun where
  runId : String

/-- The `job_runs` table. -/
abbrev JobRuns := Relational.Table String JobRun

/-- A row together with its key, as `getRun` returns it. -/
def rowToDocument
    (runId : String)
    (row : JobRun) :
    RunDocument :=
  { row with runId := runId }

/-- The columns a document is stored as. -/
def documentToRow
    (document : RunDocument) :
    JobRun :=
  { document.toJobRun with
    status := jsonColumn document.status
    result := jsonColumn document.result
    error := jsonColumn document.error
    executionMetadata := jsonColumn document.executionMetadata
    runtimeExecution := jsonColumn document.runtimeExecution }

/-- `SchedulerTickService.buildRunDocument`. -/
def buildRunDocument
    (runId : String)
    (jobInstance : InstanceDocument)
    (scheduledFireTime nowIso : Timestamp)
    (executionMetadata : Option Json) :
    RunDocument where
  runId := runId
  tenantId := jobInstance.tenantId
  definitionId := jobInstance.definitionId
  definitionVersion := some jobInstance.definitionVersion
  instanceId := jobInstance.instanceId
  scheduledFireTime := scheduledFireTime
  state := .queued
  attempt := 1
  dispatchId := none
  params := jobInstance.parameters
  executionMetadata := executionMetadata
  runtimeExecution := none
  parentRunId := none
  redriveOfRunId := none
  cancelRequestedAt := none
  cancelledAt := none
  cancelledBy := none
  cancelReason := none
  createdAt := nowIso
  updatedAt := nowIso
  startedAt := none
  endedAt := none
  heartbeatAt := none
  status := some (statusJson "queued" "Run queued by scheduler tick")
  result := none
  error := none

/-- The document `POST /job-instances/:instanceId/run-now` inserts. -/
def runNowDocument
    (jobInstance : InstanceDocument)
    (nowIso : Timestamp)
    (uuid : Uuid) :
    RunDocument where
  runId := jobInstance.instanceId ++ ":manual:" ++ uuid.text
  tenantId := jobInstance.tenantId
  definitionId := jobInstance.definitionId
  definitionVersion := some jobInstance.definitionVersion
  instanceId := jobInstance.instanceId
  scheduledFireTime := nowIso
  state := .queued
  attempt := 1
  dispatchId := none
  params := jobInstance.parameters
  executionMetadata := none
  runtimeExecution := none
  parentRunId := none
  redriveOfRunId := none
  cancelRequestedAt := none
  cancelledAt := none
  cancelledBy := none
  cancelReason := none
  createdAt := nowIso
  updatedAt := nowIso
  startedAt := none
  endedAt := none
  heartbeatAt := none
  status := some (statusJson "queued" "Run queued by run-now")
  result := none
  error := none

/-- The copy of a finished run that `redriveRun` inserts. -/
def redriveDocument
    (run : RunDocument)
    (nowIso : Timestamp)
    (redriveUuid dispatchUuid : Uuid) :
    RunDocument :=
  { run with
    runId := run.runId ++ ":redrive:" ++ redriveUuid.text
    state := .queued
    attempt := 1
    dispatchId := some dispatchUuid.text
    parentRunId := some run.runId
    redriveOfRunId := some run.runId
    createdAt := nowIso
    updatedAt := nowIso
    startedAt := none
    endedAt := none
    heartbeatAt := none
    status := some (statusJson "queued" "Run queued by re-drive")
    result := none
    error := none
    runtimeExecution := none }

@[simp] theorem rowToDocument_toJobRun
    (runId : String)
    (row : JobRun) :
    (rowToDocument runId row).toJobRun = row :=
  rfl

@[simp] theorem rowToDocument_runId
    (runId : String)
    (row : JobRun) :
    (rowToDocument runId row).runId = runId :=
  rfl

@[simp] theorem documentToRow_state
    (document : RunDocument) :
    (documentToRow document).state = document.state :=
  rfl

@[simp] theorem documentToRow_attempt
    (document : RunDocument) :
    (documentToRow document).attempt = document.attempt :=
  rfl

@[simp] theorem documentToRow_dispatchId
    (document : RunDocument) :
    (documentToRow document).dispatchId = document.dispatchId :=
  rfl

end IgaScheduler
