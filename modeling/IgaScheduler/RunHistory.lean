import IgaScheduler.FencingLog
import IgaScheduler.RunStatements

namespace IgaScheduler

open Relational

/-!
# The history of one run

Seen from one run, a claim grants the run to a worker under a fresh token, a
retry revokes it, and leaving `RUNNING` ends the worker's execution.
-/

/-- An event seen as one of the fenced resource `runId`. -/
def RunEvent.fencing?
    (runId : String) :
    RunEvent → Option (Fencing.Event String)
  | .claimed owner dispatchId =>
      if owner = runId then some (.granted dispatchId) else none
  | .retried owner => if owner = runId then some .revoked else none
  | .leftRunning owner _ => if owner = runId then some .ended else none

namespace RunDatabase

/-- The claims, retries and exits from `RUNNING` of a run, newest first. -/
def history
    (shared : RunDatabase)
    (runId : String) :
    Fencing.History String :=
  shared.log.filterMap fun entry => entry.2.fencing? runId

end RunDatabase

/-- The events a statement causes on the rows it meets. -/
def RunStatement.events
    (shared : RunDatabase) :
    RunStatement → List RunEvent
  | .update runId write =>
      match (shared.row runId).bind write.update.returning with
      | none => []
      | some _ => (write.event? runId).toList
  | .commitClaims claimed =>
      claimed.map fun (runId, dispatchId) => .claimed runId dispatchId
  | _ => []

namespace RunDatabase

/-- A claim of a run is logged exactly when its history grants the run. -/
theorem claimed_iff_granted
    {shared : RunDatabase}
    {runId dispatchId : String} :
    shared.Claimed runId dispatchId ↔
      .granted dispatchId ∈ shared.history runId := by
  simp only [Claimed, history, List.mem_map, List.mem_filterMap]
  constructor
  · rintro ⟨entry, member, shape⟩
    exact ⟨entry, member, by simp [shape, RunEvent.fencing?]⟩
  · rintro ⟨⟨process, event⟩, member, shape⟩
    refine ⟨(process, event), member, ?_⟩
    cases event with
    | claimed owner token =>
        by_cases same : owner = runId
        · simp_all [RunEvent.fencing?]
        · simp [RunEvent.fencing?, same] at shape
    | retried owner =>
        simp [RunEvent.fencing?] at shape
    | leftRunning owner state =>
        simp [RunEvent.fencing?] at shape

theorem exec_log
    {process : Nat}
    {statement : RunStatement}
    {shared next : RunDatabase}
    {reply : RunReply}
    (executed : shared.exec process statement = some (next, reply)) :
    next.log =
      (statement.events shared).map (fun event => (process, event)) ++
        shared.log := by
  obtain ⟨-, performed, ran, rfl⟩ := exec_eq_some executed
  cases statement with
  | update runId write =>
      obtain ⟨⟨database, returned⟩, updated, shape⟩ :=
        Option.map_eq_some_iff.mp ran
      cases shape
      obtain ⟨-, -, answer, -⟩ := Database.update?_eq_some updated
      simp only [record, RunStatement.events, row, ← answer]
      cases returned <;> rfl
  | commitClaims claimed =>
      obtain ⟨database, committed, shape⟩ :=
        Option.map_eq_some_iff.mp ran
      cases shape
      rfl
  | present owner dispatchId =>
      simp only [perform] at ran
      split at ran
      · cases ran
        rfl
      · cases ran
  | createRun | selectQueuedForUpdate | claimCandidate =>
      obtain ⟨_, _, shape⟩ := Option.map_eq_some_iff.mp ran
      cases shape
      rfl
  | _ =>
      cases ran
      rfl

/-- A statement puts its own events in front of a run's history. -/
theorem exec_history
    {process : Nat}
    {statement : RunStatement}
    {shared next : RunDatabase}
    {reply : RunReply}
    (executed : shared.exec process statement = some (next, reply))
    (runId : String) :
    next.history runId =
      (statement.events shared).filterMap (RunEvent.fencing? runId) ++
        shared.history runId := by
  rw [history, exec_log executed, List.filterMap_append,
    List.filterMap_map]
  rfl

/-- Claims that have been made stay in the log. -/
theorem exec_claimed
    {process : Nat}
    {statement : RunStatement}
    {shared next : RunDatabase}
    {reply : RunReply}
    {runId dispatchId : String}
    (executed : shared.exec process statement = some (next, reply))
    (claimed : shared.Claimed runId dispatchId) :
    next.Claimed runId dispatchId := by
  rw [claimed_iff_granted] at claimed ⊢
  rw [exec_history executed]
  exact List.mem_append_right _ claimed

/-! ## What the statements answer -/

/-- Only a claim that has been made can be shown. -/
theorem exec_present
    {process : Nat}
    {shared next : RunDatabase}
    {reply : RunReply}
    {runId dispatchId : String}
    (executed :
      shared.exec process (.present runId dispatchId) =
        some (next, reply)) :
    shared.Claimed runId dispatchId := by
  obtain ⟨-, performed, ran, -⟩ := exec_eq_some executed
  simp only [perform] at ran
  split at ran
  · assumption
  · cases ran

/-- Reading a run changes nothing and answers the committed row. -/
theorem exec_getRun
    {process : Nat}
    {shared next : RunDatabase}
    {reply : RunReply}
    {runId : String}
    (executed :
      shared.exec process (.getRun runId) = some (next, reply)) :
    next = shared ∧
      reply.found? = (shared.row runId).map (rowToDocument runId) := by
  obtain ⟨-, performed, ran, rfl⟩ := exec_eq_some executed
  cases ran
  exact ⟨rfl, rfl⟩

/-- An update answers the row it wrote, if its guard admitted one. -/
theorem exec_update
    {process : Nat}
    {shared next : RunDatabase}
    {reply : RunReply}
    {runId : String}
    {write : RunWrite}
    (executed :
      shared.exec process (.update runId write) = some (next, reply)) :
    reply =
        .document
          (((shared.row runId).bind write.update.returning).map
            (rowToDocument runId)) ∧
      next.row runId = (shared.row runId).map write.update.apply := by
  obtain ⟨-, performed, ran, rfl⟩ := exec_eq_some executed
  obtain ⟨⟨database, returned⟩, updated, shape⟩ :=
    Option.map_eq_some_iff.mp ran
  cases shape
  obtain ⟨-, -, answer, rows⟩ := Database.update?_eq_some updated
  refine ⟨?_, ?_⟩
  · rw [answer]
    rfl
  · exact (rows runId).trans (if_pos rfl)

/-- An update that matches nothing changes nothing and answers nothing. -/
theorem exec_update_missed
    {process : Nat}
    {shared next : RunDatabase}
    {reply : RunReply}
    {runId : String}
    {write : RunWrite}
    (executed :
      shared.exec process (.update runId write) = some (next, reply))
    (missed : (shared.row runId).bind write.update.returning = none) :
    reply = .document none ∧
      ∀ other, next.row other = shared.row other := by
  obtain ⟨answer, -⟩ := exec_update executed
  rw [missed] at answer
  refine ⟨answer, ?_⟩
  intro other
  have effect := exec_rowEffect executed other
  generalize next.row other = after at effect ⊢
  cases effect with
  | kept =>
      rfl
  | written _ row found admitted =>
      rw [found, Option.bind_some,
        RowUpdate.returning_eq_some.mpr ⟨admitted, rfl⟩] at missed
      cases missed

/-- A stale row of a listing is stored, in its state and started early enough. -/
theorem mem_listStale
    {shared : RunDatabase}
    {state : RunState}
    {thresholdMs : Int}
    {limit : Nat}
    {now : Timestamp}
    {runId : String}
    {row : JobRun}
    (listed :
      (runId, row) ∈ shared.listStale state thresholdMs limit now) :
    shared.row runId = some row ∧
      row.state = state ∧
      startedBefore thresholdMs now row = true := by
  obtain ⟨found, admitted⟩ := Table.mem_select listed
  obtain ⟨inState, stale⟩ := Bool.and_eq_true_iff.mp admitted
  exact ⟨found, of_decide_eq_true inState, stale⟩

/-- A listing of stale runs answers rows that are stored in `RUNNING`. -/
theorem exec_listStaleRunningIds
    {process : Nat}
    {shared next : RunDatabase}
    {reply : RunReply}
    {thresholdMs : Int}
    {limit : Nat}
    {now : Timestamp}
    {runId : String}
    {dispatchId : Option String}
    (executed :
      shared.exec process (.listStaleRunningIds thresholdMs limit now) =
        some (next, reply))
    (listed : (runId, dispatchId) ∈ reply.stale) :
    ∃ row,
      shared.row runId = some row ∧
        row.state = .running ∧
        row.dispatchId = dispatchId := by
  obtain ⟨-, performed, ran, rfl⟩ := exec_eq_some executed
  cases ran
  obtain ⟨⟨owner, row⟩, member, shape⟩ := List.mem_map.mp listed
  cases shape
  obtain ⟨found, running, -⟩ := mem_listStale member
  exact ⟨row, found, running, rfl⟩

end RunDatabase

end IgaScheduler
