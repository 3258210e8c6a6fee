import IgaScheduler.RunClaims

namespace IgaScheduler

/-!
# `StaleRunSweeper`

One pass of `_sweep`: `_sweepRunning`, then `_sweepCancelling`.  A listing that
throws ends its half; an update that throws is logged and skipped.
-/

namespace Sweep

structure Options where
  thresholdMs : Int
  batchSize : Nat
  deriving DecidableEq, Repr

inductive Local where
  | listRunning (options : Options)
  /-- Stale running rows still to be marked, as they were listed. -/
  | failing
      (options : Options)
      (staleRuns : List (String × Option String))
  | listCancelling (options : Options)
  /-- Stale cancelling rows still to be marked. -/
  | cancelling (options : Options) (runIds : List String)
  | done

/-- The `error` of a run the sweeper fails. -/
def staleRunningError : Json :=
  retryableErrorJson "STALE_RUNNING"
    "Run marked failed by stale-run sweeper: worker did not mark the run terminal within the timeout window"
    false

/-- The `error` of a run the sweeper cancels. -/
def staleCancellingError : Json :=
  retryableErrorJson "STALE_CANCELLING"
    "Run force-cancelled by stale sweeper: worker did not complete within the cancellation timeout window"
    false

def failWrite
    (endedAt : Timestamp)
    (dispatchId : Option String) :
    RunWrite :=
  .markFailed endedAt (some staleRunningError)
    (some (statusJson "failed"
      "Run timed out — worker did not complete within the allowed window"))
    dispatchId

def cancelWrite (endedAt : Timestamp) : RunWrite :=
  .markCancelled endedAt (some staleCancellingError)
    (some (statusJson "cancelled"
      "Run force-cancelled — worker did not complete within the allowed window after cancellation was requested"))

/-- Go on with the running rows that remain. -/
def afterFailing
    (options : Options) :
    List (String × Option String) →
      Local
  | [] => .listCancelling options
  | remaining => .failing options remaining

/-- Go on with the cancelling rows that remain. -/
def afterCancelling
    (options : Options) :
    List String →
      Local
  | [] => .done
  | remaining => .cancelling options remaining

def issue :
    Local →
      Environment →
      Option RunStatement
  | .listRunning options, environment =>
      some (.listStaleRunningIds options.thresholdMs options.batchSize
        environment.databaseNow)
  | .failing _ ((runId, dispatchId) :: _), environment =>
      some (.update runId (failWrite environment.now dispatchId))
  | .failing _ [], _ => some .skip
  | .listCancelling options, environment =>
      some (.listStaleCancellingIds options.thresholdMs options.batchSize
        environment.databaseNow)
  | .cancelling _ (runId :: _), environment =>
      some (.update runId (cancelWrite environment.now))
  | .cancelling _ [], _ => some .skip
  | .done, _ => none

def resume :
    Local →
      Environment →
      RunReply →
      Local
  | .listRunning options, _, reply => afterFailing options reply.stale
  | .failing options staleRuns, _, _ =>
      afterFailing options staleRuns.tail
  | .listCancelling options, _, reply =>
      afterCancelling options reply.listed
  | .cancelling options runIds, _, _ =>
      afterCancelling options runIds.tail
  | .done, _, _ => .done

/-- The awaited statement threw. -/
def raise : Local → Local
  | .listRunning options => .listCancelling options
  | .failing options staleRuns => afterFailing options staleRuns.tail
  | .listCancelling _ => .done
  | .cancelling options runIds => afterCancelling options runIds.tail
  | .done => .done

end Sweep

end IgaScheduler
