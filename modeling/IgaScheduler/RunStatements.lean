import IgaScheduler.RunStore

namespace IgaScheduler

open Relational

/-!
# Statements on `job_runs`

The services reach `job_runs` through the statements below, each of which is
atomic.  Executing one updates the database and, as ghost state, a log of the
claims, retries and exits from `RUNNING` that took effect, newest first, and
the list of dispatch identifiers that have been in use.  `randomUUID()` is
modelled by an environment that may offer any identifier; a statement that
would store one already in use is not enabled.
-/

/-- An effect on a run that the fencing argument refers to. -/
inductive RunEvent where
  | claimed (runId dispatchId : String)
  | retried (runId : String)
  | leftRunning (runId : String) (state : RunState)
  deriving DecidableEq, Repr

/-- `job_runs` with the ghost log and the identifiers in use. -/
structure RunDatabase where
  database : Database String JobRun
  log : List (Nat × RunEvent)
  minted : List String

namespace RunDatabase

/-- The committed row of a run. -/
def row
    (shared : RunDatabase)
    (runId : String) :
    Option JobRun :=
  shared.database.committed.lookup runId

/-- Some claim returned this `dispatchId` for this run. -/
def Claimed
    (shared : RunDatabase)
    (runId dispatchId : String) :
    Prop :=
  RunEvent.claimed runId dispatchId ∈ shared.log.map Prod.snd

instance
    (shared : RunDatabase)
    (runId dispatchId : String) :
    Decidable (shared.Claimed runId dispatchId) :=
  inferInstanceAs (Decidable (_ ∈ _))

end RunDatabase

/--
What the environment supplies to a step: the two clocks, values of
`randomUUID()`, the object a job or a failure produces, a launcher's answer.
-/
structure Environment where
  now : Timestamp
  databaseNow : Timestamp
  uuid : Uuid
  secondUuid : Uuid
  fields : List (String × Json) := []
  answer : Option String := none

/-- One statement of the services on `job_runs`. -/
inductive RunStatement where
  /-- A step that does not touch `job_runs`. -/
  | skip
  /-- A caller shows the claim it works for. -/
  | present (runId dispatchId : String)
  | getRun (runId : String)
  | runExists (runId : String)
  | createRun (document : RunDocument)
  | update (runId : String) (write : RunWrite)
  | listStaleRunningIds
      (thresholdMs : Int)
      (limit : Nat)
      (now : Timestamp)
  | listStaleCancellingIds
      (thresholdMs : Int)
      (limit : Nat)
      (now : Timestamp)
  | begin
  | selectQueuedForUpdate (limit : Nat)
  | claimCandidate
      (runId : String)
      (startedAt : Timestamp)
      (dispatchId : Uuid)
  /-- `COMMIT`, with the pairs the caller is about to return. -/
  | commitClaims (claimed : List (String × String))
  | rollback

namespace RunStatement

/-- The new identifiers a statement introduces. -/
def minted : RunStatement → List String
  | .createRun document => document.dispatchId.toList
  | .update _ write => (write.minted?.map Uuid.text).toList
  | .claimCandidate _ _ dispatchId => [dispatchId.text]
  | _ => []

end RunStatement

/-- What a statement answers. -/
inductive RunReply where
  | done
  | document (found : Option RunDocument)
  | flag (value : Bool)
  | runIds (found : List String)
  | staleRuns (found : List (String × Option String))

namespace RunReply

/-- The document a `SELECT` found or an `UPDATE … RETURNING` wrote. -/
def found? : RunReply → Option RunDocument
  | .document found => found
  | _ => none

/-- The run ids a listing returned. -/
def listed : RunReply → List String
  | .runIds found => found
  | _ => []

/-- The pairs `listStaleRunningIds` returned. -/
def stale : RunReply → List (String × Option String)
  | .staleRuns found => found
  | _ => []

/-- Whether `SELECT 1` found a row. -/
def exists? : RunReply → Bool
  | .flag value => value
  | _ => false

end RunReply

/-- The event a write causes when its guard admits a row. -/
def RunWrite.event?
    (runId : String) :
    RunWrite → Option RunEvent
  | .claimRun _ _ dispatchId => some (.claimed runId dispatchId.text)
  | .retry .. => some (.retried runId)
  | .markSucceeded .. => some (.leftRunning runId .succeeded)
  | .markFailed .. => some (.leftRunning runId .failed)
  | .cancelRunning .. => some (.leftRunning runId .cancelling)
  | _ => none

namespace RunDatabase

/-- `started_at < now() - threshold`; a `NULL` start never qualifies. -/
def startedBefore
    (thresholdMs : Int)
    (now : Timestamp)
    (row : JobRun) :
    Bool :=
  match row.startedAt with
  | none => false
  | some startedAt => startedAt < now - thresholdMs

/-- The stale rows in one state, oldest start first. -/
def listStale
    (shared : RunDatabase)
    (state : RunState)
    (thresholdMs : Int)
    (limit : Nat)
    (now : Timestamp) :
    List (String × JobRun) :=
  shared.database.committed.select
    (fun _ row => row.state = state && startedBefore thresholdMs now row)
    (fun row => row.startedAt.getD 0) limit

/-- Record the event of a statement that took effect. -/
def record
    (shared : RunDatabase)
    (process : Nat)
    (database : Database String JobRun)
    (events : List RunEvent) :
    RunDatabase :=
  { shared with
    database := database
    log := events.map (fun event => (process, event)) ++ shared.log }

/-- The effect of one statement of a process; `none` while it has to wait. -/
def perform
    (process : Nat)
    (shared : RunDatabase) :
    RunStatement →
      Option (RunDatabase × RunReply)
  | .skip => some (shared, .done)
  | .present runId dispatchId =>
      if shared.Claimed runId dispatchId then
        some (shared, .done)
      else
        none
  | .getRun runId =>
      some (shared,
        .document ((shared.row runId).map (rowToDocument runId)))
  | .runExists runId => some (shared, .flag (shared.row runId).isSome)
  | .createRun document =>
      (shared.database.insert? document.runId
          (documentToRow document)).map fun (database, created) =>
        (shared.record process database [], .flag created)
  | .update runId write =>
      (shared.database.update? runId write.update).map
        fun (database, returned) =>
          (shared.record process database
              (if returned.isSome then (write.event? runId).toList else []),
            .document (returned.map (rowToDocument runId)))
  | .listStaleRunningIds thresholdMs limit now =>
      some (shared, .staleRuns
        ((shared.listStale .running thresholdMs limit now).map
          fun (runId, row) => (runId, row.dispatchId)))
  | .listStaleCancellingIds thresholdMs limit now =>
      some (shared, .runIds
        ((shared.listStale .cancelling thresholdMs limit now).map
          Prod.fst))
  | .begin => some (shared.record process
      (shared.database.begin process) [], .done)
  | .selectQueuedForUpdate limit =>
      (shared.database.selectForUpdate? process
          (fun row => row.state = .queued) JobRun.createdAt limit).map
        fun (database, rows) =>
          (shared.record process database [], .runIds (rows.map Prod.fst))
  | .claimCandidate runId startedAt dispatchId =>
      (shared.database.updateIn? process runId
          (RunStore.claimRun startedAt none dispatchId)).map
        fun (database, _) => (shared.record process database [], .done)
  | .commitClaims claimed =>
      (shared.database.commit? process).map fun database =>
        (shared.record process database
          (claimed.map fun (runId, dispatchId) =>
            .claimed runId dispatchId), .done)
  | .rollback =>
      some (shared.record process (shared.database.rollback process) [],
        .done)

/--
Execute a statement whose new identifiers are indeed new; they are in use from
then on.
-/
def exec
    (process : Nat)
    (statement : RunStatement)
    (shared : RunDatabase) :
    Option (RunDatabase × RunReply) :=
  if ∀ id ∈ statement.minted, id ∉ shared.minted then
    (shared.perform process statement).map fun (next, reply) =>
      ({ next with minted := statement.minted ++ next.minted }, reply)
  else
    none

/-! ## What a statement can do -/

theorem exec_eq_some
    {process : Nat}
    {statement : RunStatement}
    {shared next : RunDatabase}
    {reply : RunReply}
    (executed : shared.exec process statement = some (next, reply)) :
    (∀ id ∈ statement.minted, id ∉ shared.minted) ∧
      ∃ performed,
        shared.perform process statement = some (performed, reply) ∧
          next = { performed with
            minted := statement.minted ++ performed.minted } := by
  unfold exec at executed
  split at executed
  · rename_i fresh
    obtain ⟨⟨performed, answered⟩, ran, shape⟩ :=
      Option.map_eq_some_iff.mp executed
    simp only [Prod.mk.injEq] at shape
    obtain ⟨rfl, rfl⟩ := shape
    exact ⟨fresh, performed, ran, rfl⟩
  · cases executed

/-- How one statement of a process can leave the committed row of a run. -/
inductive RowEffect
    (process : Nat)
    (shared : RunDatabase)
    (runId : String) :
    RunStatement →
      Option JobRun →
      Prop where
  | kept
      (statement : RunStatement) :
      RowEffect process shared runId statement (shared.row runId)
  | created
      (document : RunDocument)
      (sameRun : document.runId = runId)
      (absent : shared.row runId = none) :
      RowEffect process shared runId
        (.createRun document) (some (documentToRow document))
  | written
      (write : RunWrite)
      (row : JobRun)
      (found : shared.row runId = some row)
      (admitted : write.update.guard row = true) :
      RowEffect process shared runId
        (.update runId write) (some (write.update.set row))
  | published
      (claimed : List (String × String))
      (transaction : Transaction String JobRun)
      (row : JobRun)
      (opened :
        shared.database.transactions.lookup process = some transaction)
      (written : transaction.writes.lookup runId = some row) :
      RowEffect process shared runId
        (.commitClaims claimed) (some row)

/-- A statement that leaves the row as it was has the trivial effect. -/
theorem RowEffect.of_eq
    {process : Nat}
    {shared : RunDatabase}
    {runId : String}
    {statement : RunStatement}
    {after : Option JobRun}
    (same : after = shared.row runId) :
    RowEffect process shared runId statement after := by
  rw [same]
  exact .kept statement

/-- Statements that change no committed row have the trivial effect. -/
theorem RowEffect.of_committed_eq
    {process : Nat}
    {shared : RunDatabase}
    {database : Database String JobRun}
    (committed : database.committed = shared.database.committed)
    (statement : RunStatement)
    (runId : String) :
    RowEffect process shared runId statement
      (database.committed.lookup runId) :=
  .of_eq (by rw [committed, row])

/-- An insert that finds its run in the table leaves the row as it is. -/
theorem RowEffect.of_insert
    {process : Nat}
    {shared : RunDatabase}
    (document : RunDocument) :
    RowEffect process shared document.runId (.createRun document)
      (some
        ((shared.row document.runId).getD (documentToRow document))) := by
  cases stored : shared.row document.runId with
  | none =>
      exact .created document rfl stored
  | some old =>
      apply RowEffect.of_eq
      simp [stored]

/-- A conditional update writes the row that it finds and admits. -/
theorem RowEffect.of_update
    {process : Nat}
    {shared : RunDatabase}
    (runId : String)
    (write : RunWrite) :
    RowEffect process shared runId (.update runId write)
      ((shared.row runId).map write.update.apply) := by
  cases stored : shared.row runId with
  | none =>
      apply RowEffect.of_eq
      simp [stored]
  | some old =>
      by_cases admitted : write.update.guard old = true
      · have written :
            RowEffect process shared runId
              (.update runId write) (some (write.update.set old)) :=
          .written write old stored admitted
        simpa [RowUpdate.apply, admitted] using written
      · apply RowEffect.of_eq
        simp [stored, RowUpdate.apply, admitted]

/-- Every statement has one of the four effects on every run. -/
theorem perform_rowEffect
    {process : Nat}
    {statement : RunStatement}
    {shared next : RunDatabase}
    {reply : RunReply}
    (performed :
      shared.perform process statement = some (next, reply))
    (runId : String) :
    RowEffect process shared runId statement (next.row runId) := by
  cases statement with
  | skip =>
      cases performed
      exact .kept _
  | present owner dispatchId =>
      simp only [perform] at performed
      split at performed
      · cases performed
        exact .kept _
      · cases performed
  | getRun owner =>
      cases performed
      exact .kept _
  | runExists owner =>
      cases performed
      exact .kept _
  | createRun document =>
      obtain ⟨⟨database, created⟩, inserted, shape⟩ :=
        Option.map_eq_some_iff.mp performed
      cases shape
      obtain ⟨-, -, rows⟩ := Database.insert?_eq_some inserted
      change RowEffect process shared runId _
        (database.committed.lookup runId)
      rw [rows]
      by_cases sameRun : runId = document.runId
      · subst sameRun
        rw [if_pos rfl]
        exact .of_insert document
      · exact .of_eq (if_neg sameRun)
  | update owner write =>
      obtain ⟨⟨database, returned⟩, updated, shape⟩ :=
        Option.map_eq_some_iff.mp performed
      cases shape
      obtain ⟨-, -, -, rows⟩ := Database.update?_eq_some updated
      change RowEffect process shared runId _
        (database.committed.lookup runId)
      rw [rows]
      by_cases sameRun : runId = owner
      · subst sameRun
        rw [if_pos rfl]
        exact .of_update runId write
      · exact .of_eq (if_neg sameRun)
  | listStaleRunningIds thresholdMs limit now =>
      cases performed
      exact .kept _
  | listStaleCancellingIds thresholdMs limit now =>
      cases performed
      exact .kept _
  | begin =>
      cases performed
      exact .of_committed_eq (Database.committed_begin _ _) _ _
  | selectQueuedForUpdate limit =>
      obtain ⟨⟨database, rows⟩, selected, shape⟩ :=
        Option.map_eq_some_iff.mp performed
      cases shape
      exact .of_committed_eq
        (Database.selectForUpdate?_eq_some selected).2.1 _ _
  | claimCandidate owner startedAt dispatchId =>
      obtain ⟨⟨database, returned⟩, updated, shape⟩ :=
        Option.map_eq_some_iff.mp performed
      cases shape
      exact .of_committed_eq
        (Database.updateIn?_eq_some updated).1 _ _
  | commitClaims claimed =>
      obtain ⟨database, committed, shape⟩ :=
        Option.map_eq_some_iff.mp performed
      cases shape
      obtain ⟨transaction, opened, -, rows⟩ :=
        Database.commit?_eq_some committed
      change RowEffect process shared runId _
        (database.committed.lookup runId)
      rw [rows]
      cases written : transaction.writes.lookup runId with
      | none =>
          exact .kept _
      | some row =>
          exact .published claimed transaction row opened written
  | rollback =>
      cases performed
      exact .of_committed_eq (Database.committed_rollback _ _) _ _

theorem exec_rowEffect
    {process : Nat}
    {statement : RunStatement}
    {shared next : RunDatabase}
    {reply : RunReply}
    (executed : shared.exec process statement = some (next, reply))
    (runId : String) :
    RowEffect process shared runId statement (next.row runId) := by
  obtain ⟨-, performed, ran, rfl⟩ := exec_eq_some executed
  exact perform_rowEffect ran runId

/-- No statement disturbs the locks or the transactions of another process. -/
theorem exec_respects
    {process : Nat}
    {statement : RunStatement}
    {shared next : RunDatabase}
    {reply : RunReply}
    (executed : shared.exec process statement = some (next, reply)) :
    Database.Respects process shared.database next.database := by
  obtain ⟨-, performed, ran, rfl⟩ := exec_eq_some executed
  cases statement with
  | skip =>
      cases ran
      exact .refl _ _
  | present owner dispatchId =>
      simp only [perform] at ran
      split at ran
      · cases ran
        exact .refl _ _
      · cases ran
  | getRun owner =>
      cases ran
      exact .refl _ _
  | runExists owner =>
      cases ran
      exact .refl _ _
  | createRun document =>
      obtain ⟨⟨database, created⟩, inserted, shape⟩ :=
        Option.map_eq_some_iff.mp ran
      cases shape
      exact .insert? process inserted
  | update owner write =>
      obtain ⟨⟨database, returned⟩, updated, shape⟩ :=
        Option.map_eq_some_iff.mp ran
      cases shape
      exact .update? process updated
  | listStaleRunningIds thresholdMs limit now =>
      cases ran
      exact .refl _ _
  | listStaleCancellingIds thresholdMs limit now =>
      cases ran
      exact .refl _ _
  | begin =>
      cases ran
      exact .begin _ _
  | selectQueuedForUpdate limit =>
      obtain ⟨⟨database, rows⟩, selected, shape⟩ :=
        Option.map_eq_some_iff.mp ran
      cases shape
      obtain ⟨-, committed, others, -⟩ :=
        Database.selectForUpdate?_eq_some selected
      exact .of_committed_eq committed others
  | claimCandidate owner startedAt dispatchId =>
      obtain ⟨⟨database, returned⟩, updated, shape⟩ :=
        Option.map_eq_some_iff.mp ran
      cases shape
      obtain ⟨committed, others, -⟩ := Database.updateIn?_eq_some updated
      exact .of_committed_eq committed others
  | commitClaims claimed =>
      obtain ⟨database, committed, shape⟩ :=
        Option.map_eq_some_iff.mp ran
      cases shape
      exact .commit? committed
  | rollback =>
      cases ran
      exact .rollback _ _

/-- How a statement of the session itself changes its open transaction. -/
inductive WorkEffect
    (process : Nat)
    (shared : RunDatabase)
    (before : Transaction String JobRun) :
    RunStatement →
      WorkingSet String JobRun →
      Prop where
  | kept
      (statement : RunStatement) :
      WorkEffect process shared before statement before.toWorkingSet
  | selected
      (limit : Nat)
      (rows : List (String × JobRun))
      (unlocked :
        rows = shared.database.selectUnlocked process
          (fun row => row.state = .queued) JobRun.createdAt limit) :
      WorkEffect process shared before
        (.selectQueuedForUpdate limit)
        (before.toWorkingSet.lock (rows.map Prod.fst))
  | claimed
      (runId : String)
      (startedAt : Timestamp)
      (dispatchId : Uuid)
      (row : JobRun)
      (viewed : shared.database.view before runId = some row)
      (isQueued : row.state = .queued) :
      WorkEffect process shared before
        (.claimCandidate runId startedAt dispatchId)
        (before.toWorkingSet.write runId
          ((RunStore.claimRun startedAt none dispatchId).set row))

/--
A process whose transaction is open after a statement has just begun it, or it
was open before and the committed rows it had locked are untouched.
-/
theorem exec_own_transaction
    {process : Nat}
    {statement : RunStatement}
    {shared next : RunDatabase}
    {reply : RunReply}
    {after : Transaction String JobRun}
    (executed : shared.exec process statement = some (next, reply))
    (opened :
      next.database.transactions.lookup process = some after) :
    (statement = .begin ∧ after.toWorkingSet = WorkingSet.empty) ∨
      ∃ before,
        shared.database.transactions.lookup process = some before ∧
          (∀ runId ∈ before.locked,
            next.row runId = shared.row runId) ∧
          WorkEffect process shared before statement
            after.toWorkingSet := by
  obtain ⟨-, performed, ran, rfl⟩ := exec_eq_some executed
  -- a statement that leaves the database alone keeps the transaction
  have untouched
      (same : performed.database = shared.database) :
      ∃ before,
        shared.database.transactions.lookup process = some before ∧
          (∀ runId ∈ before.locked,
            performed.row runId = shared.row runId) ∧
          WorkEffect process shared before statement
            after.toWorkingSet := by
    refine ⟨after, ?_, ?_, .kept statement⟩
    · rw [← same]
      exact opened
    · intro runId _
      rw [row, row, same]
  -- a write outside of transactions waits for the locks of this one
  have autocommitted
      {owner : String}
      (unlocked : shared.database.isLocked owner = false)
      (transactions :
        performed.database.transactions = shared.database.transactions)
      (others : ∀ runId ≠ owner, performed.row runId = shared.row runId) :
      ∃ before,
        shared.database.transactions.lookup process = some before ∧
          (∀ runId ∈ before.locked,
            performed.row runId = shared.row runId) ∧
          WorkEffect process shared before statement
            after.toWorkingSet := by
    have openedBefore :
        shared.database.transactions.lookup process = some after := by
      rw [← transactions]
      exact opened
    refine ⟨after, openedBefore, ?_, .kept statement⟩
    intro runId held
    refine others runId ?_
    rintro rfl
    exact Database.isLocked_eq_false.mp unlocked openedBefore held
  -- a statement that ends the transaction leaves none behind
  have unended
      (ended :
        performed.database.transactions =
          shared.database.transactions.erase process) :
      False := by
    have closed :
        (shared.database.transactions.erase process).lookup process =
          some after := by
      rw [← ended]
      exact opened
    rw [AList.lookup_erase] at closed
    cases closed
  cases statement with
  | skip =>
      cases ran
      exact .inr (untouched rfl)
  | present owner dispatchId =>
      simp only [perform] at ran
      split at ran
      · cases ran
        exact .inr (untouched rfl)
      · cases ran
  | getRun owner =>
      cases ran
      exact .inr (untouched rfl)
  | runExists owner =>
      cases ran
      exact .inr (untouched rfl)
  | createRun document =>
      obtain ⟨⟨database, created⟩, inserted, shape⟩ :=
        Option.map_eq_some_iff.mp ran
      cases shape
      obtain ⟨unlocked, transactions, rows⟩ :=
        Database.insert?_eq_some inserted
      refine .inr (autocommitted unlocked transactions ?_)
      intro runId different
      exact (rows runId).trans (if_neg different)
  | update owner write =>
      obtain ⟨⟨database, returned⟩, updated, shape⟩ :=
        Option.map_eq_some_iff.mp ran
      cases shape
      obtain ⟨unlocked, transactions, -, rows⟩ :=
        Database.update?_eq_some updated
      refine .inr (autocommitted unlocked transactions ?_)
      intro runId different
      exact (rows runId).trans (if_neg different)
  | listStaleRunningIds thresholdMs limit now =>
      cases ran
      exact .inr (untouched rfl)
  | listStaleCancellingIds thresholdMs limit now =>
      cases ran
      exact .inr (untouched rfl)
  | begin =>
      cases ran
      exact .inl ⟨rfl, Database.lookup_begin opened⟩
  | selectQueuedForUpdate limit =>
      obtain ⟨⟨database, rows⟩, selected, shape⟩ :=
        Option.map_eq_some_iff.mp ran
      cases shape
      obtain ⟨unlocked, committed, -, before, stored, openedBefore,
          openedAfter, -, work⟩ :=
        Database.selectForUpdate?_eq_some selected
      cases openedAfter.symm.trans opened
      refine .inr ⟨before, openedBefore, ?_, ?_⟩
      · intro runId _
        simp only [row, record, committed]
      · rw [work]
        exact .selected limit rows unlocked
  | claimCandidate owner startedAt dispatchId =>
      obtain ⟨⟨database, returned⟩, updated, shape⟩ :=
        Option.map_eq_some_iff.mp ran
      cases shape
      obtain ⟨committed, -, before, stored, openedBefore, openedAfter,
          answer, -, work⟩ :=
        Database.updateIn?_eq_some updated
      cases openedAfter.symm.trans opened
      refine .inr ⟨before, openedBefore, ?_, ?_⟩
      · intro runId _
        simp only [row, record, committed]
      · cases returned with
        | none =>
            rw [work]
            exact .kept _
        | some written =>
            obtain ⟨viewed, found, admitted⟩ :=
              Option.bind_eq_some_iff.mp answer.symm
            obtain ⟨isQueued, rfl⟩ :=
              RowUpdate.returning_eq_some.mp admitted
            rw [work]
            exact .claimed owner startedAt dispatchId viewed found
              (by simpa [RunStore.claimRun] using isQueued)
  | commitClaims claimed =>
      obtain ⟨database, committed, shape⟩ :=
        Option.map_eq_some_iff.mp ran
      cases shape
      obtain ⟨transaction, -, transactions, -⟩ :=
        Database.commit?_eq_some committed
      exact (unended transactions).elim
  | rollback =>
      cases ran
      exact (unended rfl).elim

/-- Identifiers in use stay in use. -/
theorem exec_minted
    {process : Nat}
    {statement : RunStatement}
    {shared next : RunDatabase}
    {reply : RunReply}
    (executed : shared.exec process statement = some (next, reply)) :
    next.minted = statement.minted ++ shared.minted := by
  obtain ⟨-, performed, ran, rfl⟩ := exec_eq_some executed
  have kept : performed.minted = shared.minted := by
    cases statement with
    | present owner dispatchId =>
        simp only [perform] at ran
        split at ran
        · cases ran
          rfl
        · cases ran
    | createRun | update | selectQueuedForUpdate | claimCandidate |
        commitClaims =>
        obtain ⟨_, _, shape⟩ := Option.map_eq_some_iff.mp ran
        cases shape
        rfl
    | _ =>
        cases ran
        rfl
  simp [kept]

end RunDatabase

end IgaScheduler
