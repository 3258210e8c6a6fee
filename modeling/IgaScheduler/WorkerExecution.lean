import IgaScheduler.RunClaims

namespace IgaScheduler

/-!
# `WorkerRunService.executeClaimedRun`

The execution of a run that `claimNextQueued` has already claimed.  What the
steps before the outcome compute (metadata, artifact, parameters, the job's
own output) is the environment's choice, and so is which of them throws; the
steps that read or write `job_runs` are the ones of the source.
-/

namespace Execution

/-- The awaited steps of `_runClaimedLocally` before the job's result. -/
inductive Stage where
  | metadata
  | metadataAudit
  | artifact
  | artifactAudit
  | startedAudit
  | parameters
  | execute
  deriving DecidableEq, Repr

/-- The step that follows; after `execute` comes the outcome write. -/
def Stage.next? : Stage → Option Stage
  | .metadata => some .metadataAudit
  | .metadataAudit => some .artifact
  | .artifact => some .artifactAudit
  | .artifactAudit => some .startedAudit
  | .startedAudit => some .parameters
  | .parameters => some .execute
  | .execute => none

/-- How `executeClaimedRun` settles. -/
inductive Outcome where
  | completed
  /-- `skippedResult({ runId, state })`. -/
  | skipped (state : String)
  | threw
  deriving DecidableEq, Repr

/-- The state that a returned result names. -/
def Outcome.state? : Outcome → Option String
  | .completed => some "SUCCEEDED"
  | .skipped state => some state
  | .threw => none

inductive Local where
  | start (runId dispatchId : String)
  /-- The run is loaded and bears the caller's `dispatchId`. -/
  | preparing (run : RunDocument) (stage : Stage)
  /-- The job has produced its result; `markSucceeded` is next. -/
  | executed (run : RunDocument) (result : Json)
  /-- `markSucceeded` changed the row; its audit event is next. -/
  | succeeded (run : RunDocument)
  /-- Inside the `catch` block; `markFailed` is next. -/
  | failing (run : RunDocument) (error : Json)
  /-- `markFailed` has been sent; its audit event is next. -/
  | failed (run : RunDocument)
  | settled
      (runId : String)
      (dispatchId : Option String)
      (outcome : Outcome)

/-- The call settles with what it knows about its run. -/
def settle
    (run : RunDocument)
    (outcome : Outcome) :
    Local :=
  .settled run.runId run.dispatchId outcome

def issue :
    Local →
      Environment →
      Option RunStatement
  | .start runId _, _ => some (.getRun runId)
  | .preparing .., _ => some .skip
  | .executed run result, environment =>
      some (.update run.runId
        (.markSucceeded environment.now (some result) none run.dispatchId))
  | .succeeded _, _ => some .skip
  | .failing run error, environment =>
      some (.update run.runId
        (.markFailed environment.now (some error) none run.dispatchId))
  | .failed _, _ => some .skip
  | .settled .., _ => none

def resume :
    Local →
      Environment →
      RunReply →
      Local
  | .start runId dispatchId, _, reply =>
      match reply.found? with
      | none => .settled runId (some dispatchId) (.skipped "UNKNOWN")
      | some fetched =>
          .preparing { fetched with dispatchId := some dispatchId }
            .metadata
  | .preparing run stage, environment, _ =>
      match stage.next? with
      | some next => .preparing run next
      | none => .executed run (.obj environment.fields)
  | .executed run _, _, reply =>
      match reply.found? with
      | some _ => .succeeded run
      | none => settle run (.skipped "CANCELLED")
  | .succeeded run, _, _ => settle run .completed
  | .failing run _, _, _ => .failed run
  | .failed run, _, _ => settle run .threw
  | .settled runId dispatchId outcome, _, _ =>
      .settled runId dispatchId outcome

/-- The awaited step threw; the `try` block spans the loaded run's steps. -/
def raise :
    Local →
      Environment →
      Local
  | .start runId dispatchId, _ =>
      .settled runId (some dispatchId) .threw
  | .preparing run _, environment =>
      .failing run (.obj environment.fields)
  | .executed run _, environment =>
      .failing run (.obj environment.fields)
  | .succeeded run, environment =>
      .failing run (.obj environment.fields)
  | .failing run _, _ => settle run .threw
  | .failed run, _ => settle run .threw
  | .settled runId dispatchId outcome, _ =>
      .settled runId dispatchId outcome

end Execution

end IgaScheduler
