import IgaScheduler.BatchClaimExclusivity

namespace IgaScheduler

open Relational Interleaving

/-!
# Dispatch fencing

When every stored run starts out `QUEUED`, a run that is `RUNNING` or
`CANCELLING` bears the identifier of its latest claim, and every write that
carries an identifier carries one some claim has returned.  A worker whose
claim was superseded therefore never changes the run again.
-/

/-- What the history of a run adds when its row changes. -/
def recorded
    (before after : Option JobRun) :
    Fencing.History String :=
  match before.map JobRun.state, after.map JobRun.state with
  | some .queued, some .running =>
      (after.bind JobRun.dispatchId).toList.map .granted
  | some .running, some .running => []
  | some .running, _ => [.ended]
  | some .failed, some .queued => [.revoked]
  | _, _ => []

/-- The history of a run follows from the changes of its row. -/
theorem RunEffect.events_eq_recorded
    {runId : String}
    {before after : Option JobRun}
    {statement : RunStatement}
    {events : Fencing.History String}
    (happened : RunEffect runId before statement after events) :
    events = recorded before after := by
  cases happened with
  | kept =>
      cases before with
      | none =>
          rfl
      | some row =>
          cases state : row.state <;> simp [recorded, state]
  | created document sameRun absent =>
      subst absent
      rfl
  | published claimed row startedAt dispatchId found isQueued member =>
      subst found
      simp [recorded, isQueued, RunStore.claimRun]
  | written write row found admitted =>
      subst found
      have source := RunWrite.state_mem_sources admitted
      have bears := RunWrite.set_dispatchId write row
      cases write with
      | touchHeartbeat dispatchId heartbeatAt =>
          rcases (by simpa [RunWrite.sources] using source) with
            running | cancelling
          · simp [recorded, RunWrite.target, RunWrite.fencing?, running]
          · simp [recorded, RunWrite.target, RunWrite.fencing?,
              cancelling]
      | _ =>
          have state := by
            simpa [RunWrite.sources] using source
          simp [recorded, RunWrite.target, RunWrite.fencing?, state,
            bears, RunWrite.minted?]

/-- The row and the history of a run whose owner is the latest claim. -/
structure Fenced
    (row : Option JobRun)
    (history : Fencing.History String) :
    Prop where
  owned :
    ∀ stored ∈ row,
      stored.state = .running ∨ stored.state = .cancelling →
      ∃ dispatchId,
        stored.dispatchId = some dispatchId ∧
          Fencing.holder history = some dispatchId
  atWork :
    ∀ stored ∈ row,
      stored.state = .running →
      Fencing.endsSinceGrant history = 0
  endsOnce : Fencing.endsSinceGrant history ≤ 1
  distinct : (Fencing.tokens history).Nodup

namespace Fenced

theorem claim
    {row : Option JobRun}
    {claimed : JobRun}
    {history : Fencing.History String}
    {dispatchId : String}
    (fenced : Fenced row history)
    (fresh : .granted dispatchId ∉ history)
    (bears : claimed.dispatchId = some dispatchId) :
    Fenced (some claimed) (.granted dispatchId :: history) where
  owned := by
    rintro stored ⟨⟩ -
    exact ⟨dispatchId, bears, rfl⟩
  atWork := fun _ _ _ => rfl
  endsOnce := Nat.zero_le 1
  distinct :=
    List.nodup_cons.mpr
      ⟨fun member => fresh (Fencing.mem_tokens.mp member),
        fenced.distinct⟩

/-- A write that keeps state and identifier, such as a heartbeat. -/
theorem touch
    {row written : JobRun}
    {history : Fencing.History String}
    (fenced : Fenced (some row) history)
    (sameState : written.state = row.state)
    (sameDispatchId : written.dispatchId = row.dispatchId) :
    Fenced (some written) history where
  owned := by
    rintro stored ⟨⟩ active
    rw [sameState] at active
    rw [sameDispatchId]
    exact fenced.owned row rfl active
  atWork := by
    rintro stored ⟨⟩ running
    rw [sameState] at running
    exact fenced.atWork row rfl running
  endsOnce := fenced.endsOnce
  distinct := fenced.distinct

/-- A row that nobody owns any more is fenced whatever its history. -/
theorem idle
    {row : Option JobRun}
    {written : JobRun}
    {history : Fencing.History String}
    (fenced : Fenced row history)
    (notRunning : written.state ≠ .running)
    (notCancelling : written.state ≠ .cancelling) :
    Fenced (some written) history where
  owned := by
    rintro stored ⟨⟩ (running | cancelling)
    · exact (notRunning running).elim
    · exact (notCancelling cancelling).elim
  atWork := by
    rintro stored ⟨⟩ running
    exact (notRunning running).elim
  endsOnce := fenced.endsOnce
  distinct := fenced.distinct

/-- A running row leaves `RUNNING`, which ends the latest claim's work. -/
theorem leave
    {row written : JobRun}
    {history : Fencing.History String}
    (fenced : Fenced (some row) history)
    (running : row.state = .running)
    (notRunning : written.state ≠ .running)
    (sameDispatchId : written.dispatchId = row.dispatchId) :
    Fenced (some written) (.ended :: history) where
  owned := by
    rintro stored ⟨⟩ -
    rw [sameDispatchId]
    exact fenced.owned row rfl (.inl running)
  atWork := by
    rintro stored ⟨⟩ still
    exact (notRunning still).elim
  endsOnce := by
    have none := fenced.atWork row rfl running
    simp [Fencing.endsSinceGrant, none]
  distinct := fenced.distinct

theorem retry
    {row : Option JobRun}
    {written : JobRun}
    {history : Fencing.History String}
    (fenced : Fenced row history)
    (isQueued : written.state = .queued) :
    Fenced (some written) (.revoked :: history) where
  owned := by
    rintro stored ⟨⟩ (running | cancelling)
    · simp [isQueued] at running
    · simp [isQueued] at cancelling
  atWork := by
    rintro stored ⟨⟩ running
    simp [isQueued] at running
  endsOnce := fenced.endsOnce
  distinct := fenced.distinct

/-- Every effect keeps a run fenced when its new identifiers are fresh. -/
theorem effect
    {runId : String}
    {before after : Option JobRun}
    {statement : RunStatement}
    {history events : Fencing.History String}
    (fenced : Fenced before history)
    (fresh :
      ∀ {dispatchId : String},
        .granted dispatchId ∈ events →
        .granted dispatchId ∉ history)
    (created :
      ∀ document, statement = .createRun document →
        document.state = .queued)
    (happened : RunEffect runId before statement after events) :
    Fenced after (events ++ history) := by
  cases happened with
  | kept =>
      exact fenced
  | created document sameRun absent =>
      have isQueued := created document rfl
      exact fenced.idle (by simp [isQueued]) (by simp [isQueued])
  | published claimed row startedAt dispatchId found isQueued member =>
      exact fenced.claim (fresh List.mem_cons_self) rfl
  | written write row found admitted =>
      subst found
      have source := RunWrite.state_mem_sources admitted
      cases write with
      | claimRun startedAt status dispatchId =>
          exact fenced.claim (fresh List.mem_cons_self) rfl
      | retry nextAttempt dispatchId nowIso now =>
          exact fenced.retry rfl
      | recordRuntimeExecution =>
          exact fenced.touch rfl rfl
      | touchHeartbeat =>
          exact fenced.touch rfl rfl
      | markSucceeded | markFailed | cancelRunning =>
          exact fenced.leave (by simpa [RunWrite.sources] using source)
            (by simp [RunWrite.target]) rfl
      | markCancelled | cancelQueued | killed =>
          exact fenced.idle (by simp [RunWrite.target])
            (by simp [RunWrite.target])

end Fenced

namespace RunPool

/-- Every identifier a claim returned is in use and not empty. -/
theorem Reachable.granted_minted
    {rows : JobRuns}
    {pool : RunPool}
    (reachable : Reachable rows pool)
    {runId dispatchId : String}
    (granted : .granted dispatchId ∈ pool.shared.history runId) :
    dispatchId ∈ pool.shared.minted ∧ dispatchId ≠ "" := by
  obtain ⟨schedule, ran⟩ := reachable
  refine System.run?_induction
    (fun _ visited =>
      .granted dispatchId ∈ visited.shared.history runId →
      dispatchId ∈ visited.shared.minted ∧ dispatchId ≠ "") ?_ ?_ ran
      granted
  · intro impossible
    cases impossible
  · intro earlier visited next label ranEarlier known stepped member
    have reached : Reachable rows visited := ⟨earlier, ranEarlier⟩
    obtain ⟨statement, reply, events, issued, executed, -, history,
        effect⟩ :=
      reached.runEffect stepped runId
    rw [history] at member
    rw [RunDatabase.exec_minted executed]
    rcases List.mem_append.mp member with new | old
    · generalize next.shared.row runId = after at effect
      cases effect with
      | kept =>
          cases new
      | created =>
          cases new
      | published claimed row startedAt token found isQueued listed =>
          obtain ⟨arguments, calling⟩ := RunCall.commitClaims_issued issued
          obtain ⟨transaction, -, claiming⟩ :=
            reached.batchesHold _ _ calling
          cases List.mem_singleton.mp new
          exact ⟨List.mem_append_right _
            (claiming.used _ (List.mem_map.mpr ⟨_, listed, rfl⟩)),
            token.nonempty⟩
      | written write row found admitted =>
          cases write <;>
            simp [RunWrite.fencing?] at new
          subst new
          exact ⟨by simp [RunStatement.minted, RunWrite.minted?],
            Uuid.nonempty _⟩
    · obtain ⟨used, nonempty⟩ := known old
      exact ⟨List.mem_append_right _ used, nonempty⟩

/-- Nothing is added to the history of a run that another process has locked. -/
theorem Reachable.history_of_locked
    {rows : JobRuns}
    {pool next : RunPool}
    {label : Label RunInput}
    {process : Nat}
    {transaction : Transaction String JobRun}
    {runId : String}
    (reachable : Reachable rows pool)
    (stepped : runSystem.step? pool label = some next)
    (different : process ≠ label.1)
    (opened :
      pool.shared.database.transactions.lookup process =
        some transaction)
    (held : runId ∈ transaction.locked) :
    next.shared.history runId = pool.shared.history runId := by
  obtain ⟨statement, reply, events, issued, executed, -, history, effect⟩ :=
    reachable.runEffect stepped runId
  rw [history]
  generalize next.shared.row runId = after at effect
  cases effect with
  | kept =>
      rfl
  | created =>
      rfl
  | written write row found admitted =>
      obtain ⟨-, performed, ran, -⟩ := RunDatabase.exec_eq_some executed
      obtain ⟨_, updated, -⟩ := Option.map_eq_some_iff.mp ran
      obtain ⟨unlocked, -⟩ := Database.update?_eq_some updated
      exact (Database.isLocked_eq_false.mp unlocked opened held).elim
  | published claimed row startedAt token found isQueued listed =>
      obtain ⟨arguments, calling⟩ := RunCall.commitClaims_issued issued
      obtain ⟨own, openedOwn, claiming⟩ := reachable.batchesHold _ _ calling
      obtain ⟨written, stored, -⟩ := claiming.written listed
      have contested :=
        own.writesLocked runId (AList.lookup_isSome.mp (by simp [stored]))
      exact (different
        (pool.shared.database.exclusive opened openedOwn held
          contested)).elim

/-- An open batch has not granted the identifiers it is about to grant. -/
def Ungranted (pool : RunPool) : Prop :=
  ∀ (process : Nat) (arguments : ClaimNextQueued.Arguments)
    (candidates : List String) (claimed : List (String × String)),
    pool.locals process =
      .claimNextQueued (.claiming arguments candidates claimed) →
    ∀ runId dispatchId,
      (runId, dispatchId) ∈ claimed →
      .granted dispatchId ∉ pool.shared.history runId

theorem Reachable.ungranted
    {rows : JobRuns}
    {pool : RunPool}
    (reachable : Reachable rows pool) :
    Ungranted pool := by
  obtain ⟨schedule, ran⟩ := reachable
  refine System.run?_induction (fun _ visited => Ungranted visited)
    ?_ ?_ ran
  · intro process arguments candidates claimed calling
    cases calling
  · intro earlier visited next label ranEarlier ungranted stepped
      process arguments candidates claimed calling runId dispatchId listed
    have reached : Reachable rows visited := ⟨earlier, ranEarlier⟩
    by_cases own : process = label.1
    · subst own
      rcases claimNextQueued_before stepped calling with
        ⟨call, before⟩ | ⟨_, impossible⟩
      · obtain ⟨statement, reply, after, executed, resumed, moved⟩ :=
          claimNextQueued_move stepped before
        cases resumed.symm.trans calling
        have history := RunDatabase.exec_history executed runId
        cases moved with
        | select =>
            cases listed
        | claim _ candidate rest pairs token =>
            rw [history]
            rcases List.mem_append.mp listed with old | new
            · exact ungranted _ _ _ _ before runId dispatchId old
            · obtain ⟨rfl, rfl⟩ :=
                Prod.mk.inj (List.mem_singleton.mp new)
              have fresh :=
                (RunDatabase.exec_eq_some executed).1 token.text
                  (by simp [RunStatement.minted])
              intro granted
              exact fresh (reached.granted_minted granted).1
      · cases impossible
    · have before :=
        (System.step?_locals_other stepped own).symm.trans calling
      obtain ⟨transaction, opened, claiming⟩ :=
        reached.batchesHold _ _ before
      obtain ⟨row, written, -⟩ := claiming.written listed
      have held :=
        transaction.writesLocked runId
          (AList.lookup_isSome.mp (by simp [written]))
      rw [reached.history_of_locked stepped own opened held]
      exact ungranted _ _ _ _ before runId dispatchId listed

/-- No step grants an identifier that the run has been granted before. -/
theorem Reachable.events_fresh
    {rows : JobRuns}
    {pool next : RunPool}
    {statement : RunStatement}
    {reply : RunReply}
    {label : Label RunInput}
    {runId dispatchId : String}
    {after : Option JobRun}
    {events : Fencing.History String}
    (reachable : Reachable rows pool)
    (issued : (pool.locals label.1).issue label.2 = some statement)
    (executed :
      pool.shared.exec label.1 statement = some (next.shared, reply))
    (effect :
      RunEffect runId (pool.shared.row runId) statement after events)
    (granted : .granted dispatchId ∈ events) :
    .granted dispatchId ∉ pool.shared.history runId := by
  cases effect with
  | kept =>
      cases granted
  | created =>
      cases granted
  | published claimed row startedAt token found isQueued listed =>
      obtain ⟨arguments, calling⟩ := RunCall.commitClaims_issued issued
      cases List.mem_singleton.mp granted
      exact reachable.ungranted _ _ _ _ calling runId token.text listed
  | written write row found admitted =>
      cases write <;> simp [RunWrite.fencing?] at granted
      subst granted
      intro earlier
      exact (RunDatabase.exec_eq_some executed).1 _
        (by simp [RunStatement.minted, RunWrite.minted?])
        (reachable.granted_minted earlier).1

end RunPool

namespace RunCall

/-- A claim has returned this identifier; `claimRun` leaves its run implicit. -/
def Returned
    (call : RunCall)
    (runId dispatchId : String) :
    Prop :=
  match call with
  | .claimRun (.done (.ok (.claimed returned))) =>
      returned = some dispatchId
  | .claimNextQueued (.done _ (.ok claimed)) =>
      (runId, dispatchId) ∈ claimed
  | _ => False

/-- The documents the services insert are first attempts in the queue. -/
theorem createRun_issued
    {call : RunCall}
    {input : RunInput}
    {document : RunDocument}
    (issued : call.issue input = some (.createRun document)) :
    document.state = .queued ∧ document.attempt = 1 := by
  cases issues_of_issue issued with
  | createRun origin =>
      cases origin <;> exact ⟨rfl, rfl⟩
  | redrive =>
      exact ⟨rfl, rfl⟩

/-- The claims whose identifiers a call in progress will still write with. -/
def credentials : RunCall → List (String × Option String)
  | .fencedWrite (.start arguments) =>
      [(arguments.runId, some arguments.dispatchId)]
  | .executeClaimedRun (.start runId dispatchId) =>
      [(runId, some dispatchId)]
  | .executeClaimedRun (.preparing run _) => [(run.runId, run.dispatchId)]
  | .executeClaimedRun (.executed run _) => [(run.runId, run.dispatchId)]
  | .executeClaimedRun (.succeeded run) => [(run.runId, run.dispatchId)]
  | .executeClaimedRun (.failing run _) => [(run.runId, run.dispatchId)]
  | .sweep (.failing _ staleRuns) => staleRuns
  | _ => []

@[simp] theorem credentials_afterFailing
    (options : Sweep.Options)
    (remaining : List (String × Option String)) :
    (RunCall.sweep (Sweep.afterFailing options remaining)).credentials =
      remaining := by
  cases remaining <;> rfl

@[simp] theorem credentials_afterCancelling
    (options : Sweep.Options)
    (remaining : List String) :
    (RunCall.sweep (Sweep.afterCancelling options remaining)).credentials =
      [] := by
  cases remaining <;> rfl

/-- A fenced write carries one of its call's credentials. -/
theorem carried_mem_credentials
    {call : RunCall}
    {input : RunInput}
    {runId : String}
    {write : RunWrite}
    {carried : Option String}
    (issued : call.issue input = some (.update runId write))
    (fenced : write.carried? = some carried) :
    (runId, carried) ∈ call.credentials := by
  cases issues_of_issue issued with
  | fencedWrite arguments _ environment shape =>
      subst shape
      obtain ⟨runId, dispatchId, kind⟩ := arguments
      cases kind <;> cases fenced <;> exact List.mem_singleton.mpr rfl
  | succeed =>
      cases fenced
      exact List.mem_singleton.mpr rfl
  | fail =>
      cases fenced
      exact List.mem_singleton.mpr rfl
  | sweepFail options _ dispatchId rest _ environment shape =>
      subst shape
      cases fenced
      exact List.mem_cons_self
  | sweepCancel options _ rest _ environment shape =>
      subst shape
      cases fenced
  | claimRun | retry | cancelRunning | cancelQueued | kill =>
      cases fenced

section Credentials

variable {process : Nat}
variable {shared next : RunDatabase}
variable {statement : RunStatement}
variable {reply : RunReply}
variable {environment : Environment}
variable {runId : String}
variable {carried : Option String}

/-- A call that starts has shown the claim it works for. -/
theorem credentials_started
    {request : RunRequest}
    (executed :
      shared.exec process request.admission = some (next, reply))
    (member : (runId, carried) ∈ request.call.credentials) :
    ∃ dispatchId,
      carried = some dispatchId ∧ shared.Claimed runId dispatchId := by
  cases request with
  | fencedWrite arguments =>
      obtain ⟨rfl, rfl⟩ := Prod.mk.inj (List.mem_singleton.mp member)
      exact ⟨_, rfl, RunDatabase.exec_present executed⟩
  | executeClaimedRun owner token =>
      obtain ⟨rfl, rfl⟩ := Prod.mk.inj (List.mem_singleton.mp member)
      exact ⟨_, rfl, RunDatabase.exec_present executed⟩
  | _ =>
      cases member

/-- An execution that goes on keeps its run, as the row names it. -/
theorem credentials_executed
    {call : Execution.Local}
    (issued : Execution.issue call environment = some statement)
    (executed : shared.exec process statement = some (next, reply))
    (member :
      (runId, carried) ∈
        (executeClaimedRun
          (Execution.resume call environment reply)).credentials) :
    (runId, carried) ∈ (executeClaimedRun call).credentials := by
  cases call with
  | start owner token =>
      cases issued
      obtain ⟨-, answer⟩ := RunDatabase.exec_getRun executed
      cases found : shared.row owner with
      | none =>
          rw [found, Option.map_none] at answer
          simp [Execution.resume, answer, credentials] at member
      | some row =>
          rw [found, Option.map_some] at answer
          simp only [Execution.resume, answer, credentials] at member
          exact member
  | preparing run stage =>
      cases stage <;> exact member
  | executed run result =>
      simp only [Execution.resume] at member
      split at member
      · exact member
      · cases member
  | succeeded | failing | failed | settled =>
      cases member

/-- A sweep writes for the runs that it has listed as stale. -/
theorem credentials_swept
    {call : Sweep.Local}
    (issued : Sweep.issue call environment = some statement)
    (executed : shared.exec process statement = some (next, reply))
    (member :
      (runId, carried) ∈
        (sweep (Sweep.resume call environment reply)).credentials) :
    (runId, carried) ∈ (sweep call).credentials ∨
      ∃ row,
        shared.row runId = some row ∧
          row.state = .running ∧
          row.dispatchId = carried := by
  cases call with
  | listRunning options =>
      cases issued
      simp only [Sweep.resume, credentials_afterFailing] at member
      exact .inr (RunDatabase.exec_listStaleRunningIds executed member)
  | failing options staleRuns =>
      simp only [Sweep.resume, credentials_afterFailing] at member
      exact .inl (List.mem_of_mem_tail member)
  | listCancelling options | cancelling options runIds =>
      simp only [Sweep.resume, credentials_afterCancelling] at member
      cases member
  | done =>
      cases member

/-- A call whose statement throws comes to no new claim. -/
theorem credentials_raised
    {call : RunCall}
    (member : (runId, carried) ∈ (call.raised environment).credentials) :
    (runId, carried) ∈ call.credentials := by
  cases call with
  | executeClaimedRun call =>
      cases call with
      | preparing | executed | succeeded =>
          exact member
      | start | failing | failed | settled =>
          cases member
  | sweep call =>
      cases call with
      | failing options staleRuns =>
          simp only [raised, Sweep.raise, credentials_afterFailing] at member
          exact List.mem_of_mem_tail member
      | cancelling options runIds =>
          simp only [raised, Sweep.raise, credentials_afterCancelling]
            at member
          cases member
      | listRunning | listCancelling | done =>
          cases member
  | fencedWrite call =>
      cases call <;> cases member
  | _ =>
      cases member

end Credentials

end RunCall

namespace RunPool

/-- Every run of a reachable pool is fenced if it all began with `QUEUED`. -/
theorem Reachable.fenced
    {rows : JobRuns}
    {pool : RunPool}
    (allQueued :
      ∀ runId row, rows.lookup runId = some row → row.state = .queued)
    (reachable : Reachable rows pool)
    (runId : String) :
    Fenced (pool.shared.row runId) (pool.shared.history runId) := by
  obtain ⟨schedule, ran⟩ := reachable
  refine System.run?_induction
    (fun _ visited =>
      Fenced (visited.shared.row runId) (visited.shared.history runId))
    ?_ ?_ ran
  · have isQueued :
        ∀ stored ∈ (RunPool.initial rows).shared.row runId,
          stored.state = .queued :=
      fun stored found => allQueued runId stored found
    refine ⟨?_, ?_, Nat.zero_le 1, List.nodup_nil⟩
    · intro stored found active
      simp [isQueued stored found] at active
    · intro stored found running
      simp [isQueued stored found] at running
  · intro earlier visited next label ranEarlier fenced stepped
    have reached : Reachable rows visited := ⟨earlier, ranEarlier⟩
    obtain ⟨statement, reply, events, issued, executed, -, history,
        effect⟩ :=
      reached.runEffect stepped runId
    rw [history]
    refine fenced.effect
      (fun granted => reached.events_fresh issued executed effect granted)
      ?_ effect
    rintro document rfl
    exact (RunCall.createRun_issued issued).1

/-- Every call in progress writes only with identifiers that were claimed. -/
def CredentialsClaimed (pool : RunPool) : Prop :=
  ∀ process runId carried,
    (runId, carried) ∈ (pool.locals process).credentials →
    ∃ dispatchId,
      carried = some dispatchId ∧ pool.shared.Claimed runId dispatchId

/-- Where a call that has just moved has its credentials from. -/
theorem credentials_before
    {pool next : RunPool}
    {label : Label RunInput}
    {runId : String}
    {carried : Option String}
    (stepped : runSystem.step? pool label = some next)
    (member : (runId, carried) ∈ (next.locals label.1).credentials) :
    (runId, carried) ∈ (pool.locals label.1).credentials ∨
      (∃ dispatchId,
        carried = some dispatchId ∧
          pool.shared.Claimed runId dispatchId) ∨
      ∃ row,
        pool.shared.row runId = some row ∧
          row.state = .running ∧
          row.dispatchId = carried := by
  obtain ⟨statement, reply, issued, executed, resumed⟩ :=
    step_moves stepped
  rw [resumed] at member
  rcases label with ⟨process, input⟩
  change (pool.locals process).issue input = _ at issued
  change (runId, carried) ∈
    ((pool.locals process).resume input reply).credentials at member
  change _ ∈ (pool.locals process).credentials ∨ _
  generalize pool.locals process = call at issued member
  cases input with
  | start request =>
      have admitted : request.admission = statement := by
        cases call <;> cases issued
        rfl
      subst admitted
      exact .inr (.inl (RunCall.credentials_started executed member))
  | proceed environment =>
      cases call with
      | executeClaimedRun call =>
          exact .inl (RunCall.credentials_executed issued executed member)
      | sweep call =>
          rcases RunCall.credentials_swept issued executed member with
            held | listed
          · exact .inl held
          · exact .inr (.inr listed)
      | fencedWrite call =>
          cases call <;> cases member
      | _ =>
          cases member
  | raise environment =>
      exact .inl (RunCall.credentials_raised member)

theorem Reachable.credentialsClaimed
    {rows : JobRuns}
    {pool : RunPool}
    (allQueued :
      ∀ runId row, rows.lookup runId = some row → row.state = .queued)
    (reachable : Reachable rows pool) :
    CredentialsClaimed pool := by
  obtain ⟨schedule, ran⟩ := reachable
  refine System.run?_induction
    (fun _ visited => CredentialsClaimed visited) ?_ ?_ ran
  · intro process runId carried member
    cases member
  · intro earlier visited next label ranEarlier known stepped process
      runId carried member
    have reached : Reachable rows visited := ⟨earlier, ranEarlier⟩
    obtain ⟨statement, reply, -, executed, -⟩ := step_moves stepped
    have before :
        ∃ dispatchId,
          carried = some dispatchId ∧
            visited.shared.Claimed runId dispatchId := by
      by_cases own : process = label.1
      · subst own
        rcases credentials_before stepped member with
          held | claimed | ⟨row, found, running, bears⟩
        · exact known _ _ _ held
        · exact claimed
        · obtain ⟨dispatchId, bearing, held⟩ :=
            (reached.fenced allQueued runId).owned row found (.inl running)
          exact ⟨dispatchId, bears.symm.trans bearing,
            RunDatabase.claimed_iff_granted.mpr
              (Fencing.mem_of_holder held)⟩
      · rw [System.step?_locals_other stepped own] at member
        exact known _ _ _ member
    obtain ⟨dispatchId, shape, claimed⟩ := before
    exact ⟨dispatchId, shape, RunDatabase.exec_claimed executed claimed⟩

/-- A fenced write of a reachable pool is admitted only for the latest claim. -/
theorem Reachable.holder_of_admitted
    {rows : JobRuns}
    {pool : RunPool}
    {label : Label RunInput}
    {runId : String}
    {write : RunWrite}
    {carried : Option String}
    {row : JobRun}
    (allQueued :
      ∀ runId row, rows.lookup runId = some row → row.state = .queued)
    (reachable : Reachable rows pool)
    (issued :
      (pool.locals label.1).issue label.2 = some (.update runId write))
    (fenced : write.carried? = some carried)
    (found : pool.shared.row runId = some row)
    (admitted : write.update.guard row = true) :
    ∃ dispatchId,
      carried = some dispatchId ∧
        Fencing.holder (pool.shared.history runId) = some dispatchId := by
  obtain ⟨dispatchId, rfl, claimed⟩ :=
    reachable.credentialsClaimed allQueued _ _ _
      (RunCall.carried_mem_credentials issued fenced)
  have nonempty : dispatchId ≠ "" :=
    (reachable.granted_minted
      (RunDatabase.claimed_iff_granted.mp claimed)).2
  have bears := RunWrite.dispatchId_of_guard fenced nonempty admitted
  have active : row.state = .running ∨ row.state = .cancelling := by
    have source := RunWrite.state_mem_sources admitted
    cases write <;> simp [RunWrite.carried?] at fenced <;>
      simp_all [RunWrite.sources]
  obtain ⟨owner, bearing, held⟩ :=
    (reachable.fenced allQueued runId).owned row found active
  cases bears.symm.trans bearing
  exact ⟨dispatchId, rfl, held⟩

/-- A fenced write that changes its run carries the latest claim. -/
theorem Reachable.holder_of_changed
    {rows : JobRuns}
    {pool next : RunPool}
    {label : Label RunInput}
    {reply : RunReply}
    {runId : String}
    {write : RunWrite}
    {carried : Option String}
    (allQueued :
      ∀ runId row, rows.lookup runId = some row → row.state = .queued)
    (reachable : Reachable rows pool)
    (issued :
      (pool.locals label.1).issue label.2 = some (.update runId write))
    (executed :
      pool.shared.exec label.1 (.update runId write) =
        some (next.shared, reply))
    (fenced : write.carried? = some carried)
    (changed : next.shared.row runId ≠ pool.shared.row runId) :
    ∃ dispatchId,
      carried = some dispatchId ∧
        Fencing.holder (pool.shared.history runId) = some dispatchId := by
  obtain ⟨-, written⟩ := RunDatabase.exec_update executed
  cases found : pool.shared.row runId with
  | none =>
      rw [found] at written changed
      exact (changed written).elim
  | some row =>
      by_cases admitted : write.update.guard row = true
      · exact reachable.holder_of_admitted allQueued issued fenced found
          admitted
      · rw [found, Option.map_some,
          RowUpdate.apply_of_not_guard (by simpa using admitted)] at written
        rw [found] at changed
        exact (changed written).elim

/-- A write under a superseded claim finds no row that it may change. -/
theorem Reachable.missed_of_superseded
    {rows : JobRuns}
    {pool : RunPool}
    {label : Label RunInput}
    {runId dispatchId : String}
    {write : RunWrite}
    (allQueued :
      ∀ runId row, rows.lookup runId = some row → row.state = .queued)
    (reachable : Reachable rows pool)
    (issued :
      (pool.locals label.1).issue label.2 = some (.update runId write))
    (fenced : write.carried? = some (some dispatchId))
    (superseded :
      Fencing.Superseded (pool.shared.history runId) dispatchId) :
    (pool.shared.row runId).bind write.update.returning = none := by
  have gone :
      Fencing.holder (pool.shared.history runId) ≠ some dispatchId :=
    Fencing.holder_ne_of_superseded
      (reachable.fenced allQueued runId).distinct superseded
  cases returned : (pool.shared.row runId).bind write.update.returning with
  | none =>
      rfl
  | some result =>
      obtain ⟨row, found, admitted⟩ := Option.bind_eq_some_iff.mp returned
      obtain ⟨owner, same, held⟩ :=
        reachable.holder_of_admitted allQueued issued fenced found
          (RowUpdate.returning_eq_some.mp admitted).1
      cases same
      exact (gone held).elim

/-- Every newly logged claim is what the call that has moved returns. -/
theorem returned_of_granted
    {pool next : RunPool}
    {statement : RunStatement}
    {reply : RunReply}
    {label : Label RunInput}
    {runId dispatchId : String}
    {after : Option JobRun}
    {events : Fencing.History String}
    (issued : (pool.locals label.1).issue label.2 = some statement)
    (executed :
      pool.shared.exec label.1 statement = some (next.shared, reply))
    (resumed :
      next.locals label.1 = (pool.locals label.1).resume label.2 reply)
    (effect :
      RunEffect runId (pool.shared.row runId) statement after events)
    (granted : .granted dispatchId ∈ events) :
    (next.locals label.1).Returned runId dispatchId := by
  rw [resumed]
  rcases label with ⟨process, input⟩
  change (pool.locals process).issue input = _ at issued
  change ((pool.locals process).resume input reply).Returned _ _
  generalize pool.locals process = call at issued
  cases effect with
  | kept =>
      cases granted
  | created =>
      cases granted
  | published claimed row startedAt token found isQueued listed =>
      cases List.mem_singleton.mp granted
      cases RunCall.issues_of_issue issued with
      | commitClaims =>
          exact listed
  | written write row found admitted =>
      cases write <;> simp [RunWrite.fencing?] at granted
      subst granted
      obtain ⟨answer, -⟩ := RunDatabase.exec_update executed
      rw [found, Option.bind_some,
        RowUpdate.returning_eq_some.mpr ⟨admitted, rfl⟩] at answer
      subst answer
      cases RunCall.issues_of_issue issued with
      | claimRun =>
          rfl
      | fencedWrite arguments _ environment shape =>
          obtain ⟨_, _, kind⟩ := arguments
          cases kind <;> cases shape
      | sweepFail options _ _ rest _ environment shape =>
          cases shape
      | sweepCancel options _ rest _ environment shape =>
          cases shape

/--
When every run starts out `QUEUED`: a fenced write changes its run only under
the identifier of the latest claim, and only while no retry has followed that
claim; the writes of a superseded claim change nothing and are told so; a
claim is followed by at most one exit from `RUNNING`; and a `RUNNING` or
`CANCELLING` row bears the identifier of its latest claim.  The history these
statements refer to is the one the row changes tell, and each of its claims is
what the claiming call has returned.
-/
theorem dispatch_fencing
    {rows : JobRuns}
    {pool : RunPool}
    (allQueued :
      ∀ runId row, rows.lookup runId = some row → row.state = .queued)
    (reachable : Reachable rows pool) :
    (∀ {next : RunPool} {label : Label RunInput} {runId : String}
        {write : RunWrite} {carried : Option String},
      runSystem.step? pool label = some next →
      (pool.locals label.1).issue label.2 = some (.update runId write) →
      write.carried? = some carried →
      (next.shared.row runId ≠ pool.shared.row runId →
        ∃ dispatchId,
          carried = some dispatchId ∧
            Fencing.holder (pool.shared.history runId) =
              some dispatchId) ∧
      ∀ {dispatchId : String},
        carried = some dispatchId →
        Fencing.Superseded (pool.shared.history runId) dispatchId →
        (∀ other, next.shared.row other = pool.shared.row other) ∧
          ∃ environment,
            label.2 = .proceed environment ∧
              next.locals label.1 =
                (pool.locals label.1).resumed environment
                  (.document none)) ∧
    (∀ runId,
      Fencing.endsSinceGrant (pool.shared.history runId) ≤ 1) ∧
    (∀ {runId : String} {row : JobRun},
      pool.shared.row runId = some row →
      row.state = .running ∨ row.state = .cancelling →
      ∃ dispatchId,
        row.dispatchId = some dispatchId ∧
          Fencing.latest (pool.shared.history runId) =
            some dispatchId) ∧
    (∀ {next : RunPool} {label : Label RunInput} {runId : String},
      runSystem.step? pool label = some next →
      next.shared.history runId =
        recorded (pool.shared.row runId) (next.shared.row runId) ++
          pool.shared.history runId ∧
      ∀ {dispatchId : String},
        .granted dispatchId ∈
          recorded (pool.shared.row runId) (next.shared.row runId) →
        (next.locals label.1).Returned runId dispatchId) := by
  refine ⟨?_, ?_, ?_, ?_⟩
  · intro next label runId write carried stepped issued fenced
    obtain ⟨_, reply, issuedAgain, executed, resumed⟩ := step_moves stepped
    cases issued.symm.trans issuedAgain
    refine ⟨reachable.holder_of_changed allQueued issued executed fenced,
      ?_⟩
    rintro dispatchId rfl superseded
    have missed :=
      reachable.missed_of_superseded allQueued issued fenced superseded
    obtain ⟨nothing, unchanged⟩ :=
      RunDatabase.exec_update_missed executed missed
    refine ⟨unchanged, ?_⟩
    rw [resumed, nothing]
    rcases label with ⟨process, input⟩
    change (pool.locals process).issue input = _ at issued
    generalize pool.locals process = call at issued ⊢
    cases RunCall.issues_of_issue issued <;> exact ⟨_, rfl, rfl⟩
  · intro runId
    exact (reachable.fenced allQueued runId).endsOnce
  · intro runId row found active
    obtain ⟨dispatchId, bears, held⟩ :=
      (reachable.fenced allQueued runId).owned row found active
    exact ⟨dispatchId, bears, Fencing.latest_of_holder held⟩
  · intro next label runId stepped
    obtain ⟨statement, reply, events, issued, executed, resumed, history,
        effect⟩ :=
      reachable.runEffect stepped runId
    rw [← effect.events_eq_recorded]
    exact ⟨history, fun granted =>
      returned_of_granted issued executed resumed effect granted⟩

/-- Process 2 still works for the first claim when the run is claimed again. -/
def supersededWrite : List (Label RunInput) :=
  queueNightly ++
    claimNightly 1 firstUuid ++
    failNightly 3 "first" ++
    retryNightly 4 retriedUuid ++
    claimNightly 5 secondUuid ++
    [(2, .start (.fencedWrite
      ⟨nightlyRunId, "first", .markSucceeded 12 none none⟩))]

/-- The write of the superseded claim leaves the run as it is. -/
theorem dispatch_fencing_supersededWrite :
    ∃ pool next,
      runSystem.run? (RunPool.initial ∅) supersededWrite = some pool ∧
      runSystem.step? pool
          (2, .proceed (environmentAt 12 unusedUuid)) =
        some next ∧
      pool.shared.history nightlyRunId =
        [.granted "second", .revoked, .ended, .granted "first"] ∧
      next.shared.row nightlyRunId = pool.shared.row nightlyRunId := by
  have enabled :
      ((runSystem.run? (RunPool.initial ∅) supersededWrite).bind
        fun pool =>
          (runSystem.step? pool
            (2, .proceed (environmentAt 12 unusedUuid))).map
              fun _ => pool.shared.history nightlyRunId) =
        some [.granted "second", .revoked, .ended, .granted "first"] := by
    decide
  obtain ⟨pool, ran, rest⟩ := Option.bind_eq_some_iff.mp enabled
  obtain ⟨next, stepped, history⟩ := Option.map_eq_some_iff.mp rest
  have calling :
      ((runSystem.run? (RunPool.initial ∅) supersededWrite).bind
        fun pool =>
          (pool.locals 2).issue
            (.proceed (environmentAt 12 unusedUuid))) =
        some (.update nightlyRunId
          (.markSucceeded 12 none none (some "first"))) := by
    rfl
  rw [ran, Option.bind_some] at calling
  have superseded :
      Fencing.Superseded (pool.shared.history nightlyRunId) "first" :=
    ⟨[.granted "second", .revoked, .ended], [], history,
      .revoked, by simp, by simp⟩
  have fenced :=
    (dispatch_fencing (by simp) ⟨_, ran⟩).1 stepped calling rfl
  exact ⟨pool, next, ran, stepped, history,
    (fenced.2 rfl superseded).1 nightlyRunId⟩

end RunPool

end IgaScheduler
