import IgaScheduler.RunSystem
import IgaScheduler.SharedPools

namespace IgaScheduler

open Relational Interleaving

/-!
# `WorkerRunService.executeRunLocally` and its audit trail

`executeRunLocally` claims a queued run itself and then executes it as
`executeClaimedRun` does.  Both write an audit event after most of their steps;
here every such write succeeds, and a call carries the events it has written,
oldest first.  The calls work beside everything else that happens to
`job_runs`.
-/

/-- The audit events of an execution. -/
inductive AuditEvent where
  | runReceived
  | claimAttempted
  | claimSkipped
  | claimSucceeded
  | runStarted
  | metadataLoaded
  | artifactVerified
  | executionStarted
  | executionSucceeded
  | executionFailed
  deriving DecidableEq, Repr

/-- The `eventType` of an audit event. -/
def AuditEvent.eventType : AuditEvent → String
  | .runReceived => "worker.run.received"
  | .claimAttempted => "worker.claim.attempted"
  | .claimSkipped => "worker.claim.skipped"
  | .claimSucceeded => "worker.claim.succeeded"
  | .runStarted => "WORKER_RUN_STARTED"
  | .metadataLoaded => "worker.metadata.loaded"
  | .artifactVerified => "worker.artifact.verified"
  | .executionStarted => "worker.execution.started"
  | .executionSucceeded => "worker.execution.succeeded"
  | .executionFailed => "worker.execution.failed"

/-- The event whose write `_runClaimedLocally` awaits. -/
def Execution.audit? : Execution.Local → Option AuditEvent
  | .preparing _ .metadataAudit => some .metadataLoaded
  | .preparing _ .artifactAudit => some .artifactVerified
  | .preparing _ .startedAudit => some .executionStarted
  | .succeeded _ => some .executionSucceeded
  | .failed _ => some .executionFailed
  | _ => none

namespace LocalExecution

/-- The two entry points of the service. -/
inductive Request where
  | executeClaimedRun (runId dispatchId : String)
  /-- `atLimit`: `localRunning` has reached `maxLocalConcurrency`. -/
  | executeRunLocally (runId : String) (atLimit : Bool)

/-- What a call awaits. -/
inductive Awaiting where
  /-- The audit event `worker.run.received`. -/
  | received (runId : String)
  | load (runId : String)
  /-- The run was not found; its failure event is next. -/
  | missingAudit (runId : String)
  | attemptAudit (run : RunDocument) (startedAt : Timestamp)
  | claim (run : RunDocument) (call : ClaimRun.Local)
  /-- The claim was not acquired; the run is read again. -/
  | latest (runId : String)
  /-- `worker.claim.skipped`, before the call returns `skippedResult`. -/
  | skipAudit (runId state : String)
  | claimAudit (run : RunDocument)
  | startAudit (run : RunDocument)
  /-- Inside `_runClaimedLocally`, or settled. -/
  | execution (call : Execution.Local)

namespace Awaiting

/-- The call settles before it executes anything. -/
def settled
    (runId : String)
    (outcome : Execution.Outcome) :
    Awaiting :=
  .execution (.settled runId none outcome)

/-- The event whose write is awaited. -/
def audit? : Awaiting → Option AuditEvent
  | .received _ => some .runReceived
  | .missingAudit _ => some .executionFailed
  | .attemptAudit .. => some .claimAttempted
  | .skipAudit .. => some .claimSkipped
  | .claimAudit _ => some .claimSucceeded
  | .startAudit _ => some .runStarted
  | .execution call => Execution.audit? call
  | _ => none

def issue :
    Awaiting →
      Environment →
      Option RunStatement
  | .load runId, _ => some (.getRun runId)
  | .claim _ call, environment => ClaimRun.issue call environment
  | .latest runId, _ => some (.getRun runId)
  | .execution call, environment => Execution.issue call environment
  | _, _ => some .skip

/-- What `claimQueuedRun` does with the run it has read. -/
def onRun
    (runId : String)
    (environment : Environment) :
    Option RunDocument →
      Awaiting
  | none => .missingAudit runId
  | some run =>
      if run.state = .queued then
        .attemptAudit run environment.now
      else
        .skipAudit runId run.state.text

/-- What `claimQueuedRun` does with the answer of `claimRun`. -/
def onClaim
    (run : RunDocument) :
    ClaimRun.Local →
      Awaiting
  | .done (.ok (.claimed dispatchId)) =>
      .claimAudit { run with dispatchId := dispatchId }
  | .done (.ok (.notClaimed _)) => .latest run.runId
  | .done (.error _) => settled run.runId .threw
  | call => .claim run call

def resume :
    Awaiting →
      Environment →
      RunReply →
      Awaiting
  | .received runId, _, _ => .load runId
  | .load runId, environment, reply =>
      onRun runId environment reply.found?
  | .missingAudit runId, _, _ => settled runId .threw
  | .attemptAudit run startedAt, _, _ =>
      .claim run (.start run.runId startedAt none)
  | .claim run call, environment, reply =>
      onClaim run (ClaimRun.resume call environment reply)
  | .latest runId, _, reply =>
      .skipAudit runId
        ((reply.found?.map fun latest => latest.state.text).getD "UNKNOWN")
  | .skipAudit runId state, _, _ => settled runId (.skipped state)
  | .claimAudit run, _, _ => .startAudit run
  | .startAudit run, _, _ => .execution (.preparing run .metadata)
  | .execution call, environment, reply =>
      .execution (Execution.resume call environment reply)

/-- The awaited step threw; `claimQueuedRun` catches nothing. -/
def raise :
    Awaiting →
      Environment →
      Awaiting
  | .load runId, _ => settled runId .threw
  | .claim run call, _ => onClaim run (ClaimRun.raise call)
  | .latest runId, _ => settled runId .threw
  | .execution call, environment =>
      .execution (Execution.raise call environment)
  | awaiting, _ => awaiting

end Awaiting

namespace Request

/-- What a started call awaits first. -/
def awaiting : Request → Awaiting
  | .executeClaimedRun runId dispatchId =>
      .execution (.start runId dispatchId)
  | .executeRunLocally runId atLimit =>
      if atLimit || runId = "" then
        .settled runId .threw
      else
        .received runId

/-- An execution of a claimed run has to show the claim. -/
def admission : Request → RunStatement
  | .executeClaimedRun runId dispatchId => .present runId dispatchId
  | .executeRunLocally .. => .skip

end Request

inductive Local where
  | idle
  | call (awaiting : Awaiting) (trail : List AuditEvent)

/-- What the schedule chooses for a step. -/
inductive Input where
  /-- Start a call on an idle process. -/
  | start (request : Request)
  /-- The awaited step is executed. -/
  | proceed (environment : Environment)
  /-- The awaited step throws without effect; audit writes never do. -/
  | raise (environment : Environment)

def issue : Local → Input → Option RunStatement
  | .idle, .start request => some request.admission
  | .call awaiting _, .proceed environment => awaiting.issue environment
  | .call awaiting _, .raise environment =>
      match awaiting.audit? with
      | some _ => none
      | none => (awaiting.issue environment).map fun _ => .skip
  | _, _ => none

def resume : Local → Input → RunReply → Local
  | .idle, .start request, _ => .call request.awaiting []
  | .call awaiting trail, .proceed environment, reply =>
      .call (awaiting.resume environment reply)
        (trail ++ awaiting.audit?.toList)
  | .call awaiting trail, .raise environment, _ =>
      .call (awaiting.raise environment) trail
  | call, _, _ => call

/-- The audited executions on `job_runs`. -/
def system :
    System RunDatabase Local Input RunStatement RunReply where
  issue := issue
  resume := resume
  exec process _ statement shared := shared.exec process statement

end LocalExecution

/-- The services on `job_runs` and the audited executions. -/
def workerSystem :=
  runSystem.beside LocalExecution.system

/-- `job_runs` and, for every process, its two calls. -/
abbrev WorkerPool := Pool RunDatabase (RunCall × LocalExecution.Local)

/-- What the schedule chooses for a step. -/
abbrev WorkerStep := Label (RunInput ⊕ LocalExecution.Input)

/-- No call has been started on the stored rows yet. -/
def WorkerPool.initial (rows : JobRuns) : WorkerPool where
  shared := (RunPool.initial rows).shared
  locals _ := (.idle, .idle)

end IgaScheduler
