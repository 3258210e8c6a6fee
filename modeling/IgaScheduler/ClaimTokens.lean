import IgaScheduler.DispatchFencing

namespace IgaScheduler

open Relational Interleaving

/-!
# An identifier belongs to one run

A claim mints its identifier; an open batch keeps the ones it has minted until
its commit logs them.  No identifier is ever logged for two runs.
-/

namespace RunPool

/-- A process is about to commit this claim. -/
def Pending
    (pool : RunPool)
    (process : Nat)
    (runId dispatchId : String) :
    Prop :=
  ∃ arguments candidates claimed,
    pool.locals process =
        .claimNextQueued (.claiming arguments candidates claimed) ∧
      (runId, dispatchId) ∈ claimed

/-- The logged and the pending claims of an identifier are of one run. -/
structure TokensApart (pool : RunPool) : Prop where
  claimed :
    ∀ {first second dispatchId : String},
      pool.shared.Claimed first dispatchId →
      pool.shared.Claimed second dispatchId →
      first = second
  unlogged :
    ∀ {process : Nat} {first second dispatchId : String},
      pool.Pending process first dispatchId →
      ¬ pool.shared.Claimed second dispatchId
  pending :
    ∀ {process other : Nat} {first second dispatchId : String},
      pool.Pending process first dispatchId →
      pool.Pending other second dispatchId →
      process = other ∧ first = second

/-- How a claim got into the log. -/
inductive LoggedBy
    (pool : RunPool)
    (process : Nat)
    (runId dispatchId : String) :
    RunStatement →
      Prop where
  | earlier
      (statement : RunStatement)
      (claimed : pool.shared.Claimed runId dispatchId) :
      LoggedBy pool process runId dispatchId statement
  | minted
      (startedAt : Timestamp)
      (status : Option Json)
      (uuid : Uuid)
      (shape : uuid.text = dispatchId)
      (fresh : dispatchId ∉ pool.shared.minted) :
      LoggedBy pool process runId dispatchId
        (.update runId (.claimRun startedAt status uuid))
  | committed
      (claimed : List (String × String))
      (pending : pool.Pending process runId dispatchId) :
      LoggedBy pool process runId dispatchId (.commitClaims claimed)

/-- How a claim became pending. -/
inductive PendingBy
    (pool : RunPool)
    (mover process : Nat)
    (runId dispatchId : String) :
    RunStatement →
      Prop where
  | earlier
      (statement : RunStatement)
      (pending : pool.Pending process runId dispatchId)
      (kept :
        process = mover → ∀ claimed, statement ≠ .commitClaims claimed) :
      PendingBy pool mover process runId dispatchId statement
  | minted
      (startedAt : Timestamp)
      (uuid : Uuid)
      (own : process = mover)
      (shape : uuid.text = dispatchId)
      (fresh : dispatchId ∉ pool.shared.minted) :
      PendingBy pool mover process runId dispatchId
        (.claimCandidate runId startedAt uuid)

/-- The claims in the log after a step. -/
theorem loggedBy_of_claimed
    {pool next : RunPool}
    {label : Label RunInput}
    {statement : RunStatement}
    {reply : RunReply}
    {runId dispatchId : String}
    (issued : (pool.locals label.1).issue label.2 = some statement)
    (executed :
      pool.shared.exec label.1 statement = some (next.shared, reply))
    (claimed : next.shared.Claimed runId dispatchId) :
    LoggedBy pool label.1 runId dispatchId statement := by
  have logged := RunDatabase.exec_log executed
  simp only [RunDatabase.Claimed, logged, List.map_append, List.map_map,
    List.mem_append] at claimed
  rcases claimed with new | old
  · cases statement with
    | update owner write =>
        simp only [RunStatement.events] at new
        split at new
        · cases new
        · cases write with
          | claimRun startedAt status uuid =>
              cases List.mem_singleton.mp new
              exact .minted startedAt status uuid rfl
                ((RunDatabase.exec_eq_some executed).1 _
                  (by simp [RunStatement.minted, RunWrite.minted?]))
          | _ =>
              simp [RunWrite.event?] at new
    | commitClaims pairs =>
        obtain ⟨arguments, calling⟩ := RunCall.commitClaims_issued issued
        refine .committed pairs ⟨arguments, [], pairs, calling, ?_⟩
        simpa [RunStatement.events] using new
    | _ =>
        cases new
  · exact .earlier statement old

/-- The pending claims after a step. -/
theorem pendingBy_of_pending
    {pool next : RunPool}
    {label : Label RunInput}
    {statement : RunStatement}
    {reply : RunReply}
    {process : Nat}
    {runId dispatchId : String}
    (stepped : runSystem.step? pool label = some next)
    (issued : (pool.locals label.1).issue label.2 = some statement)
    (executed :
      pool.shared.exec label.1 statement = some (next.shared, reply))
    (resumed :
      next.locals label.1 = (pool.locals label.1).resume label.2 reply)
    (pending : next.Pending process runId dispatchId) :
    PendingBy pool label.1 process runId dispatchId statement := by
  obtain ⟨arguments, candidates, claimed, calling, member⟩ := pending
  by_cases own : process = label.1
  · subst own
    rcases claimNextQueued_before stepped calling with
      ⟨call, before⟩ | ⟨_, impossible⟩
    · rw [before] at issued resumed
      rw [calling] at resumed
      rcases label with ⟨process, input⟩
      cases input with
      | start request =>
          cases issued
      | raise environment =>
          cases call <;> cases resumed
      | proceed environment =>
          cases call with
          | selecting =>
              cases resumed
              cases member
          | claiming _ listed earlier =>
              cases listed with
              | nil =>
                  cases resumed
              | cons candidate rest =>
                  cases issued
                  cases resumed
                  rcases List.mem_append.mp member with old | new
                  · exact .earlier _ ⟨_, _, _, before, old⟩ (by simp)
                  · obtain ⟨rfl, rfl⟩ :=
                      Prod.mk.inj (List.mem_singleton.mp new)
                    exact .minted _ _ rfl rfl
                      ((RunDatabase.exec_eq_some executed).1 _
                        (by simp [RunStatement.minted]))
          | start | rollingBack | done =>
              cases resumed
    · cases impossible
  · rw [System.step?_locals_other stepped own] at calling
    exact .earlier statement
      ⟨arguments, candidates, claimed, calling, member⟩
      (fun same => (own same).elim)

/-- An identifier that is claimed or pending is in use. -/
theorem Reachable.claimed_minted
    {rows : JobRuns}
    {pool : RunPool}
    {runId dispatchId : String}
    (reachable : Reachable rows pool)
    (claimed : pool.shared.Claimed runId dispatchId) :
    dispatchId ∈ pool.shared.minted :=
  (reachable.granted_minted
    (RunDatabase.claimed_iff_granted.mp claimed)).1

theorem Reachable.pending_minted
    {rows : JobRuns}
    {pool : RunPool}
    {process : Nat}
    {runId dispatchId : String}
    (reachable : Reachable rows pool)
    (pending : pool.Pending process runId dispatchId) :
    dispatchId ∈ pool.shared.minted := by
  obtain ⟨arguments, candidates, claimed, calling, member⟩ := pending
  obtain ⟨transaction, -, claiming⟩ := reachable.batchesHold _ _ calling
  exact claiming.used _ (List.mem_map.mpr ⟨_, member, rfl⟩)

/-- The pairs of one open batch bear different identifiers. -/
theorem Reachable.pending_once
    {rows : JobRuns}
    {pool : RunPool}
    {process : Nat}
    {first second dispatchId : String}
    (reachable : Reachable rows pool)
    (pending : pool.Pending process first dispatchId)
    (again : pool.Pending process second dispatchId) :
    first = second := by
  obtain ⟨arguments, candidates, claimed, calling, member⟩ := pending
  obtain ⟨_, _, _, callingAgain, memberAgain⟩ := again
  cases calling.symm.trans callingAgain
  obtain ⟨transaction, -, claiming⟩ := reachable.batchesHold _ _ calling
  exact congrArg Prod.fst
    (List.inj_on_of_nodup_map claiming.distinct member memberAgain rfl)

theorem Reachable.tokensApart
    {rows : JobRuns}
    {pool : RunPool}
    (reachable : Reachable rows pool) :
    TokensApart pool := by
  obtain ⟨schedule, ran⟩ := reachable
  refine System.run?_induction (fun _ visited => TokensApart visited)
    ?_ ?_ ran
  · constructor
    · intro first second dispatchId claimed
      cases claimed
    · rintro process first second dispatchId ⟨_, _, _, calling, -⟩
      cases calling
    · rintro process other first second dispatchId ⟨_, _, _, calling, -⟩
      cases calling
  · intro earlier visited next label ranEarlier apart stepped
    have reached : Reachable rows visited := ⟨earlier, ranEarlier⟩
    obtain ⟨statement, reply, issued, executed, resumed⟩ :=
      step_moves stepped
    refine ⟨?_, ?_, ?_⟩
    · intro first second dispatchId claimed again
      cases loggedBy_of_claimed issued executed claimed with
      | earlier _ old =>
          cases loggedBy_of_claimed issued executed again with
          | earlier _ oldAgain =>
              exact apart.claimed old oldAgain
          | minted _ _ _ _ fresh =>
              exact (fresh (reached.claimed_minted old)).elim
          | committed _ pending =>
              exact (apart.unlogged pending old).elim
      | minted _ _ _ _ fresh =>
          cases loggedBy_of_claimed issued executed again with
          | earlier _ old =>
              exact (fresh (reached.claimed_minted old)).elim
          | minted =>
              rfl
      | committed _ pending =>
          cases loggedBy_of_claimed issued executed again with
          | earlier _ old =>
              exact (apart.unlogged pending old).elim
          | committed _ pendingAgain =>
              exact reached.pending_once pending pendingAgain
    · intro process first second dispatchId pending claimed
      cases pendingBy_of_pending stepped issued executed resumed pending with
      | earlier _ old kept =>
          cases loggedBy_of_claimed issued executed claimed with
          | earlier _ oldClaim =>
              exact apart.unlogged old oldClaim
          | minted _ _ _ _ fresh =>
              exact fresh (reached.pending_minted old)
          | committed _ pendingOwn =>
              exact kept (apart.pending old pendingOwn).1 _ rfl
      | minted _ _ _ _ fresh =>
          cases loggedBy_of_claimed issued executed claimed with
          | earlier _ oldClaim =>
              exact fresh (reached.claimed_minted oldClaim)
    · intro process other first second dispatchId pending again
      cases pendingBy_of_pending stepped issued executed resumed pending with
      | earlier _ old =>
          cases pendingBy_of_pending stepped issued executed resumed
              again with
          | earlier _ oldAgain =>
              exact apart.pending old oldAgain
          | minted _ _ _ _ fresh =>
              exact (fresh (reached.pending_minted old)).elim
      | minted _ _ own _ fresh =>
          cases pendingBy_of_pending stepped issued executed resumed
              again with
          | earlier _ old =>
              exact (fresh (reached.pending_minted old)).elim
          | minted _ _ ownAgain =>
              exact ⟨own.trans ownAgain.symm, rfl⟩

end RunPool

end IgaScheduler
