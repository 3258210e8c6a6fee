import IgaScheduler.RunHistory
import IgaScheduler.RunLifecycle

namespace IgaScheduler

open Relational Interleaving

/-!
# Batch claims

`claimNextQueued` puts every candidate on `claimed`, whether or not its update
matched a row.  The row locks of its transaction make every update match: a
candidate was `QUEUED` when it was locked, and nobody else can write it before
the transaction ends.
-/

namespace RunDatabase

theorem exec_begin
    {process : Nat}
    {shared next : RunDatabase}
    {reply : RunReply}
    (executed : shared.exec process .begin = some (next, reply)) :
    ∃ transaction,
      next.database.transactions.lookup process = some transaction ∧
        transaction.toWorkingSet = WorkingSet.empty := by
  obtain ⟨-, performed, ran, rfl⟩ := exec_eq_some executed
  cases ran
  obtain ⟨transaction, opened⟩ :=
    Database.begin_opens shared.database process
  exact ⟨transaction, opened, Database.lookup_begin opened⟩

/-- The answered candidates are locked, distinct and at most `limit` many. -/
theorem exec_selectQueuedForUpdate
    {process : Nat}
    {shared next : RunDatabase}
    {reply : RunReply}
    {limit : Nat}
    {before : Transaction String JobRun}
    (executed :
      shared.exec process (.selectQueuedForUpdate limit) =
        some (next, reply))
    (opened :
      shared.database.transactions.lookup process = some before) :
    reply.listed.Nodup ∧
      reply.listed.length ≤ limit ∧
      ∃ after,
        next.database.transactions.lookup process = some after ∧
          after.toWorkingSet =
            before.toWorkingSet.lock reply.listed := by
  obtain ⟨-, performed, ran, rfl⟩ := exec_eq_some executed
  obtain ⟨⟨database, rows⟩, selected, shape⟩ :=
    Option.map_eq_some_iff.mp ran
  cases shape
  obtain ⟨unlocked, -, -, stored, after, openedBefore, openedAfter, -,
      work⟩ :=
    Database.selectForUpdate?_eq_some selected
  cases openedBefore.symm.trans opened
  refine ⟨?_, ?_, after, openedAfter, work⟩
  · simp only [RunReply.listed, unlocked]
    exact Table.select_keys_nodup _ _ _ _
  · simp only [RunReply.listed, List.length_map, unlocked]
    exact Table.length_select_le _ _ _ _

/-- The update of a locked candidate that is still `QUEUED` always matches. -/
theorem exec_claimCandidate
    {process : Nat}
    {shared next : RunDatabase}
    {reply : RunReply}
    {runId : String}
    {startedAt : Timestamp}
    {dispatchId : Uuid}
    {before : Transaction String JobRun}
    {row : JobRun}
    (executed :
      shared.exec process (.claimCandidate runId startedAt dispatchId) =
        some (next, reply))
    (opened :
      shared.database.transactions.lookup process = some before)
    (unwritten : runId ∉ before.writes)
    (found : shared.row runId = some row)
    (isQueued : row.state = .queued) :
    ∃ after,
      next.database.transactions.lookup process = some after ∧
        after.toWorkingSet =
          before.toWorkingSet.write runId
            ((RunStore.claimRun startedAt none dispatchId).set row) := by
  obtain ⟨-, performed, ran, rfl⟩ := exec_eq_some executed
  obtain ⟨⟨database, returned⟩, updated, shape⟩ :=
    Option.map_eq_some_iff.mp ran
  cases shape
  obtain ⟨-, -, stored, after, openedBefore, openedAfter, answer, -,
      work⟩ :=
    Database.updateIn?_eq_some updated
  cases openedBefore.symm.trans opened
  have viewed : shared.database.view before runId = some row := by
    rw [Database.view, AList.lookup_eq_none.mpr unwritten, Option.none_or]
    exact found
  have matched :
      returned =
        some ((RunStore.claimRun startedAt none dispatchId).set row) := by
    rw [answer, viewed]
    exact RowUpdate.returning_eq_some.mpr
      ⟨by simp [RunStore.claimRun, isQueued], rfl⟩
  subst matched
  exact ⟨after, openedAfter, work⟩

theorem exec_commitClaims
    {process : Nat}
    {shared next : RunDatabase}
    {reply : RunReply}
    {claimed : List (String × String)}
    {before : Transaction String JobRun}
    (executed :
      shared.exec process (.commitClaims claimed) = some (next, reply))
    (opened :
      shared.database.transactions.lookup process = some before)
    (runId : String) :
    next.row runId =
      (before.writes.lookup runId).or (shared.row runId) := by
  obtain ⟨-, performed, ran, rfl⟩ := exec_eq_some executed
  obtain ⟨database, committed, shape⟩ := Option.map_eq_some_iff.mp ran
  cases shape
  obtain ⟨transaction, found, -, rows⟩ := Database.commit?_eq_some committed
  cases found.symm.trans opened
  exact rows runId

/-- After a rollback nothing that the session had locked is locked. -/
theorem exec_rollback
    {process : Nat}
    {shared next : RunDatabase}
    {reply : RunReply}
    {before : Transaction String JobRun}
    (executed : shared.exec process .rollback = some (next, reply))
    (opened :
      shared.database.transactions.lookup process = some before) :
    ∀ runId ∈ before.locked, next.database.isLocked runId = false := by
  obtain ⟨-, performed, ran, rfl⟩ := exec_eq_some executed
  cases ran
  intro runId held
  refine Database.isLocked_eq_false.mpr ?_
  intro session transaction found contested
  have different : session ≠ process := by
    rintro rfl
    simp [record, Database.rollback, Database.dropTransaction] at found
  have foundBefore :
      shared.database.transactions.lookup session = some transaction := by
    simpa [record, Database.rollback, Database.dropTransaction,
      AList.lookup_erase_ne different] using found
  exact different
    (shared.database.exclusive foundBefore opened contested held)

end RunDatabase

namespace ClaimNextQueued

/-- The arguments a call in progress was started with. -/
def Local.arguments : Local → Arguments
  | .start arguments => arguments
  | .selecting arguments => arguments
  | .claiming arguments _ _ => arguments
  | .rollingBack arguments => arguments
  | .done arguments _ => arguments

/-- The steps of one call: what it issues and where the reply takes it. -/
inductive Move : Local → RunStatement → RunReply → Local → Prop where
  | begin
      (arguments : Arguments)
      (reply : RunReply) :
      Move (.start arguments) .begin reply (.selecting arguments)
  | select
      (arguments : Arguments)
      (reply : RunReply) :
      Move (.selecting arguments)
        (.selectQueuedForUpdate arguments.limit) reply
        (.claiming arguments reply.listed [])
  | claim
      (arguments : Arguments)
      (runId : String)
      (rest : List String)
      (claimed : List (String × String))
      (dispatchId : Uuid)
      (reply : RunReply) :
      Move (.claiming arguments (runId :: rest) claimed)
        (.claimCandidate runId arguments.startedAt dispatchId) reply
        (.claiming arguments rest (claimed ++ [(runId, dispatchId.text)]))
  | commit
      (arguments : Arguments)
      (claimed : List (String × String))
      (reply : RunReply) :
      Move (.claiming arguments [] claimed)
        (.commitClaims claimed) reply
        (.done arguments (.ok claimed))
  | throw
      (call : Local)
      (reply : RunReply)
      (unsettled : ∀ arguments outcome, call ≠ .done arguments outcome) :
      Move call .skip reply (.rollingBack call.arguments)
  | rollback
      (arguments : Arguments)
      (reply : RunReply) :
      Move (.rollingBack arguments) .rollback reply
        (.done arguments (.error .raised))

/--
What a call that goes through its candidates knows of its transaction: the
candidates are locked, and the uncommitted rows are those of `claimed`.
-/
structure Claiming
    (work : WorkingSet String JobRun)
    (minted : List String)
    (limit : Nat)
    (candidates : List String)
    (claimed : List (String × String)) :
    Prop where
  locked : ∀ runId ∈ candidates, runId ∈ work.locked
  written :
    ∀ {runId dispatchId : String},
      (runId, dispatchId) ∈ claimed →
      ∃ row,
        work.writes.lookup runId = some row ∧
          row.dispatchId = some dispatchId
  nothingElse : ∀ runId ∈ work.writes, runId ∈ claimed.map Prod.fst
  once : (claimed.map Prod.fst ++ candidates).Nodup
  distinct : (claimed.map Prod.snd).Nodup
  used : ∀ dispatchId ∈ claimed.map Prod.snd, dispatchId ∈ minted
  bounded : claimed.length + candidates.length ≤ limit

namespace Claiming

/-- Right after the candidates have been locked. -/
theorem selected
    {candidates : List String}
    {minted : List String}
    {limit : Nat}
    (once : candidates.Nodup)
    (bounded : candidates.length ≤ limit) :
    Claiming (WorkingSet.empty.lock candidates) minted limit
      candidates [] where
  locked := fun runId member => List.mem_append_left _ member
  written := by simp
  nothingElse := by simp [WorkingSet.lock, WorkingSet.empty]
  once := by simpa using once
  distinct := by simp
  used := by simp
  bounded := by simpa using bounded

/-- The next candidate has been written under a new identifier. -/
theorem claim
    {work : WorkingSet String JobRun}
    {minted : List String}
    {limit : Nat}
    {runId dispatchId : String}
    {rest : List String}
    {claimed : List (String × String)}
    {row : JobRun}
    (claiming : Claiming work minted limit (runId :: rest) claimed)
    (fresh : dispatchId ∉ minted)
    (bears : row.dispatchId = some dispatchId) :
    Claiming (work.write runId row) (dispatchId :: minted) limit
      rest (claimed ++ [(runId, dispatchId)]) := by
  have unclaimed : runId ∉ claimed.map Prod.fst := by
    intro earlier
    exact (List.nodup_append.mp claiming.once).2.2
      runId earlier runId List.mem_cons_self rfl
  refine ⟨?_, ?_, ?_, ?_, ?_, ?_, ?_⟩
  · intro other member
    exact List.mem_cons_of_mem _
      (claiming.locked other (List.mem_cons_of_mem _ member))
  · intro other token member
    rcases List.mem_append.mp member with earlier | last
    · have different : other ≠ runId := by
        rintro rfl
        exact unclaimed (List.mem_map.mpr ⟨_, earlier, rfl⟩)
      obtain ⟨stored, found, bearing⟩ := claiming.written earlier
      refine ⟨stored, ?_, bearing⟩
      rw [WorkingSet.write, AList.lookup_insert_ne different]
      exact found
    · obtain ⟨rfl, rfl⟩ :=
        Prod.mk.inj (List.mem_singleton.mp last)
      exact ⟨row, AList.lookup_insert _, bears⟩
  · intro other member
    rcases (AList.mem_insert _).mp member with same | earlier
    · simp [same]
    · have known := claiming.nothingElse other earlier
      rw [List.map_append]
      exact List.mem_append_left _ known
  · have once := claiming.once
    rwa [List.map_append, List.append_assoc]
  · rw [List.map_append]
    refine List.nodup_append.mpr
      ⟨claiming.distinct, List.nodup_singleton _, ?_⟩
    rintro token earlier other last rfl
    rw [List.map_singleton, List.mem_singleton] at last
    subst last
    exact fresh (claiming.used _ earlier)
  · intro token member
    rw [List.map_append] at member
    rcases List.mem_append.mp member with earlier | last
    · exact List.mem_cons_of_mem _ (claiming.used token earlier)
    · rw [List.map_singleton, List.mem_singleton] at last
      rw [last]
      exact List.mem_cons_self
  · have bounded := claiming.bounded
    simp only [List.length_cons] at bounded
    simp only [List.length_append, List.length_singleton]
    omega

/-- Further identifiers may come into use meanwhile. -/
theorem mono
    {work : WorkingSet String JobRun}
    {minted later : List String}
    {limit : Nat}
    {candidates : List String}
    {claimed : List (String × String)}
    (claiming : Claiming work minted limit candidates claimed)
    (kept : ∀ id ∈ minted, id ∈ later) :
    Claiming work later limit candidates claimed :=
  { claiming with
    used := fun token member => kept token (claiming.used token member) }

end Claiming

/-- What is known of the transaction of a call in each of its local states. -/
def Holds
    (process : Nat)
    (shared : RunDatabase) :
    Local → Prop
  | .selecting _ =>
      ∃ transaction,
        shared.database.transactions.lookup process = some transaction ∧
          transaction.toWorkingSet = WorkingSet.empty
  | .claiming arguments candidates claimed =>
      ∃ transaction,
        shared.database.transactions.lookup process = some transaction ∧
          Claiming transaction.toWorkingSet shared.minted arguments.limit
            candidates claimed
  | _ => True

/-- Steps of other processes leave a call's transaction alone. -/
theorem Holds.exec_other
    {process other : Nat}
    {statement : RunStatement}
    {shared next : RunDatabase}
    {reply : RunReply}
    {call : Local}
    (holds : Holds process shared call)
    (executed : shared.exec other statement = some (next, reply))
    (different : process ≠ other) :
    Holds process next call := by
  have same :=
    (RunDatabase.exec_respects executed).others process different
  cases call with
  | selecting arguments =>
      obtain ⟨transaction, opened, fresh⟩ := holds
      exact ⟨transaction, same.trans opened, fresh⟩
  | claiming arguments candidates claimed =>
      obtain ⟨transaction, opened, claiming⟩ := holds
      refine ⟨transaction, same.trans opened, claiming.mono ?_⟩
      intro id member
      rw [RunDatabase.exec_minted executed]
      exact List.mem_append_right _ member
  | start | rollingBack | done =>
      trivial

/-- A call's own step keeps what is known of its transaction. -/
theorem Holds.move
    {process : Nat}
    {statement : RunStatement}
    {shared next : RunDatabase}
    {reply : RunReply}
    {call after : Local}
    (holds : Holds process shared call)
    (pending : RunDatabase.PendingClaims shared)
    (executed : shared.exec process statement = some (next, reply))
    (moved : Move call statement reply after) :
    Holds process next after := by
  cases moved with
  | begin arguments =>
      exact RunDatabase.exec_begin executed
  | select arguments =>
      obtain ⟨before, opened, fresh⟩ := holds
      obtain ⟨once, bounded, transaction, openedAfter, work⟩ :=
        RunDatabase.exec_selectQueuedForUpdate executed opened
      refine ⟨transaction, openedAfter, ?_⟩
      rw [work, fresh]
      exact .selected once bounded
  | claim arguments runId rest claimed dispatchId =>
      obtain ⟨before, opened, claiming⟩ := holds
      have unwritten : runId ∉ before.writes := by
        intro written
        exact (List.nodup_append.mp claiming.once).2.2
          runId (claiming.nothingElse runId written)
          runId List.mem_cons_self rfl
      obtain ⟨row, found, isQueued⟩ :=
        pending.locked opened runId
          (claiming.locked runId List.mem_cons_self)
      obtain ⟨transaction, openedAfter, work⟩ :=
        RunDatabase.exec_claimCandidate executed opened unwritten
          found isQueued
      have fresh : dispatchId.text ∉ shared.minted :=
        (RunDatabase.exec_eq_some executed).1 _
          (by simp [RunStatement.minted])
      refine ⟨transaction, openedAfter, ?_⟩
      rw [work, RunDatabase.exec_minted executed]
      exact claiming.claim fresh rfl
  | commit | throw | rollback =>
      trivial

end ClaimNextQueued

namespace RunPool

/-- A call of `claimNextQueued` makes one of its moves. -/
theorem claimNextQueued_move
    {pool next : RunPool}
    {label : Label RunInput}
    {call : ClaimNextQueued.Local}
    (stepped : runSystem.step? pool label = some next)
    (calling : pool.locals label.1 = .claimNextQueued call) :
    ∃ statement reply after,
      pool.shared.exec label.1 statement = some (next.shared, reply) ∧
        next.locals label.1 = .claimNextQueued after ∧
        ClaimNextQueued.Move call statement reply after := by
  obtain ⟨statement, reply, issued, executed, resumed⟩ :=
    step_moves stepped
  rw [calling] at issued resumed
  refine ⟨statement, reply, ?_⟩
  rcases label with ⟨process, input⟩
  cases input with
  | start request =>
      cases issued
  | proceed environment =>
      cases call with
      | start arguments =>
          cases issued
          exact ⟨_, executed, resumed, .begin arguments reply⟩
      | selecting arguments =>
          cases issued
          exact ⟨_, executed, resumed, .select arguments reply⟩
      | claiming arguments candidates claimed =>
          cases candidates with
          | nil =>
              cases issued
              exact ⟨_, executed, resumed, .commit arguments claimed reply⟩
          | cons runId rest =>
              cases issued
              exact ⟨_, executed, resumed,
                .claim arguments runId rest claimed environment.uuid reply⟩
      | rollingBack arguments =>
          cases issued
          exact ⟨_, executed, resumed, .rollback arguments reply⟩
      | done arguments outcome =>
          cases issued
  | raise environment =>
      cases call with
      | start arguments =>
          cases issued
          exact ⟨_, executed, resumed,
            .throw (.start arguments) reply (by simp)⟩
      | selecting arguments =>
          cases issued
          exact ⟨_, executed, resumed,
            .throw (.selecting arguments) reply (by simp)⟩
      | claiming arguments candidates claimed =>
          cases candidates with
          | nil =>
              cases issued
              exact ⟨_, executed, resumed,
                .throw (.claiming ..) reply (by simp)⟩
          | cons runId rest =>
              cases issued
              exact ⟨_, executed, resumed,
                .throw (.claiming ..) reply (by simp)⟩
      | rollingBack arguments =>
          cases issued
          exact ⟨_, executed, resumed, .rollback arguments reply⟩
      | done arguments outcome =>
          cases issued

/-- Only `claimNextQueued` calls and idle processes become such calls. -/
theorem claimNextQueued_before
    {pool next : RunPool}
    {label : Label RunInput}
    {after : ClaimNextQueued.Local}
    (stepped : runSystem.step? pool label = some next)
    (calling : next.locals label.1 = .claimNextQueued after) :
    (∃ call, pool.locals label.1 = .claimNextQueued call) ∨
      ∃ arguments, after = .start arguments := by
  obtain ⟨statement, reply, issued, executed, resumed⟩ :=
    step_moves stepped
  rw [calling] at resumed
  rcases label with ⟨process, input⟩
  cases input with
  | start request =>
      right
      cases request with
      | claimNextQueued arguments =>
          cases resumed
          exact ⟨arguments, rfl⟩
      | _ =>
          cases resumed
  | proceed environment =>
      left
      generalize pool.locals process = call at resumed
      cases call with
      | claimNextQueued call =>
          exact ⟨call, rfl⟩
      | _ =>
          cases resumed
  | raise environment =>
      left
      generalize pool.locals process = call at resumed
      cases call with
      | claimNextQueued call =>
          exact ⟨call, rfl⟩
      | _ =>
          cases resumed

/-- Every batch claim in progress knows its transaction. -/
def BatchesHold (pool : RunPool) : Prop :=
  ∀ (process : Nat) (call : ClaimNextQueued.Local),
    pool.locals process = .claimNextQueued call →
    ClaimNextQueued.Holds process pool.shared call

theorem BatchesHold.step
    {pool next : RunPool}
    {label : Label RunInput}
    (holds : BatchesHold pool)
    (pending : RunDatabase.PendingClaims pool.shared)
    (stepped : runSystem.step? pool label = some next) :
    BatchesHold next := by
  intro process after calling
  by_cases own : process = label.1
  · subst own
    rcases claimNextQueued_before stepped calling with
      ⟨call, before⟩ | ⟨arguments, rfl⟩
    · obtain ⟨statement, reply, reached, executed, resumed, moved⟩ :=
        claimNextQueued_move stepped before
      cases resumed.symm.trans calling
      exact (holds _ _ before).move pending executed moved
    · trivial
  · obtain ⟨statement, reply, -, executed, -⟩ :=
      step_moves stepped
    have before :=
      (System.step?_locals_other stepped own).symm.trans calling
    exact (holds _ _ before).exec_other executed own

theorem Reachable.batchesHold
    {rows : JobRuns}
    {pool : RunPool}
    (reachable : Reachable rows pool) :
    BatchesHold pool := by
  have both :
      RunDatabase.PendingClaims pool.shared ∧ BatchesHold pool := by
    refine reachable.invariant
      (fun visited =>
        RunDatabase.PendingClaims visited.shared ∧ BatchesHold visited)
      ⟨RunDatabase.PendingClaims.initial rows, ?_⟩ ?_
    · intro process call calling
      cases calling
    · rintro visited next label ⟨pending, holds⟩ stepped
      obtain ⟨_, _, _, executed, _⟩ := step_moves stepped
      exact ⟨pending.exec executed, holds.step pending stepped⟩
  exact both.2

end RunPool

end IgaScheduler
