import IgaScheduler.BatchClaims

namespace IgaScheduler

open Relational Interleaving

/-!
# What a step does to one run

The effect of a scheduled step on the row of one run, together with what it
adds to the history of that run.  Every invariant about runs is a case
analysis of these four effects.
-/

/-- What a write adds to the history of the run it takes effect on. -/
def RunWrite.fencing? : RunWrite → Option (Fencing.Event String)
  | .claimRun _ _ dispatchId => some (.granted dispatchId.text)
  | .retry .. => some .revoked
  | .markSucceeded .. => some .ended
  | .markFailed .. => some .ended
  | .cancelRunning .. => some .ended
  | _ => none

/-- The row of a run and its new history events after one statement. -/
inductive RunEffect
    (runId : String)
    (before : Option JobRun) :
    RunStatement →
      Option JobRun →
      List (Fencing.Event String) →
      Prop where
  | kept
      (statement : RunStatement) :
      RunEffect runId before statement before []
  | created
      (document : RunDocument)
      (sameRun : document.runId = runId)
      (absent : before = none) :
      RunEffect runId before
        (.createRun document) (some (documentToRow document)) []
  | written
      (write : RunWrite)
      (row : JobRun)
      (found : before = some row)
      (admitted : write.update.guard row = true) :
      RunEffect runId before
        (.update runId write) (some (write.update.set row))
        write.fencing?.toList
  | published
      (claimed : List (String × String))
      (row : JobRun)
      (startedAt : Timestamp)
      (dispatchId : Uuid)
      (found : before = some row)
      (isQueued : row.state = .queued)
      (member : (runId, dispatchId.text) ∈ claimed) :
      RunEffect runId before
        (.commitClaims claimed)
        (some ((RunStore.claimRun startedAt none dispatchId).set row))
        [.granted dispatchId.text]

/-- A write's event seen from the run it is about. -/
theorem RunWrite.event?_fencing
    (write : RunWrite)
    (runId : String) :
    (write.event? runId).toList.filterMap (RunEvent.fencing? runId) =
      write.fencing?.toList := by
  cases write <;> simp [event?, fencing?, RunEvent.fencing?]

/-- A write's event seen from another run. -/
theorem RunWrite.event?_other
    (write : RunWrite)
    {owner runId : String}
    (different : owner ≠ runId) :
    (write.event? owner).toList.filterMap (RunEvent.fencing? runId) =
      [] := by
  cases write <;> simp [event?, RunEvent.fencing?, different]

/-- A batch seen from a run it does not contain. -/
theorem filterMap_claims_of_not_mem
    {claimed : List (String × String)}
    {runId : String}
    (absent : runId ∉ claimed.map Prod.fst) :
    (claimed.map fun (owner, dispatchId) =>
      RunEvent.claimed owner dispatchId).filterMap
        (RunEvent.fencing? runId) = [] := by
  induction claimed with
  | nil =>
      rfl
  | cons pair rest inductionHypothesis =>
      have different : pair.1 ≠ runId := by
        intro same
        exact absent (by simp [same])
      have later : runId ∉ rest.map Prod.fst := by
        intro member
        exact absent (List.mem_cons_of_mem _ member)
      simpa [RunEvent.fencing?, different] using
        inductionHypothesis later

/-- A batch without repeated runs, seen from a run it contains. -/
theorem filterMap_claims_of_mem
    {claimed : List (String × String)}
    {runId dispatchId : String}
    (once : (claimed.map Prod.fst).Nodup)
    (member : (runId, dispatchId) ∈ claimed) :
    (claimed.map fun (owner, token) =>
      RunEvent.claimed owner token).filterMap
        (RunEvent.fencing? runId) = [.granted dispatchId] := by
  induction claimed with
  | nil =>
      cases member
  | cons pair rest inductionHypothesis =>
      obtain ⟨absent, onceLater⟩ := List.nodup_cons.mp once
      rcases List.mem_cons.mp member with rfl | later
      · have granted :
            RunEvent.fencing? runId (.claimed runId dispatchId) =
              some (.granted dispatchId) := by
          simp [RunEvent.fencing?]
        rw [List.map_cons, List.filterMap_cons_some granted,
          filterMap_claims_of_not_mem absent]
      · have different : pair.1 ≠ runId := by
          intro same
          rw [same] at absent
          exact absent (List.mem_map.mpr ⟨_, later, rfl⟩)
        simpa [RunEvent.fencing?, different] using
          inductionHypothesis onceLater later

/-- Only a batch claim with no candidate left commits. -/
theorem RunCall.commitClaims_issued
    {call : RunCall}
    {input : RunInput}
    {claimed : List (String × String)}
    (issued : call.issue input = some (.commitClaims claimed)) :
    ∃ arguments,
      call = .claimNextQueued (.claiming arguments [] claimed) := by
  cases issues_of_issue issued with
  | commitClaims arguments =>
      exact ⟨arguments, rfl⟩

namespace RunPool

/-- Every enabled step has one of the four effects on every run. -/
theorem Reachable.runEffect
    {rows : JobRuns}
    {pool next : RunPool}
    {label : Label RunInput}
    (reachable : Reachable rows pool)
    (stepped : runSystem.step? pool label = some next)
    (runId : String) :
    ∃ statement reply events,
      (pool.locals label.1).issue label.2 = some statement ∧
        pool.shared.exec label.1 statement = some (next.shared, reply) ∧
        next.locals label.1 =
          (pool.locals label.1).resume label.2 reply ∧
        next.shared.history runId = events ++ pool.shared.history runId ∧
        RunEffect runId (pool.shared.row runId) statement
          (next.shared.row runId) events := by
  obtain ⟨statement, reply, issued, executed, resumed⟩ :=
    step_moves stepped
  refine ⟨statement, reply, _, issued, executed, resumed,
    RunDatabase.exec_history executed runId, ?_⟩
  have effect := RunDatabase.exec_rowEffect executed runId
  cases statement with
  | update owner write =>
      obtain ⟨-, written⟩ := RunDatabase.exec_update executed
      by_cases same : owner = runId
      · subst same
        rw [written]
        simp only [RunStatement.events]
        cases found : pool.shared.row owner with
        | none =>
            exact .kept _
        | some row =>
            by_cases admitted : write.update.guard row = true
            · simp only [Option.map_some, Option.bind_some,
                RowUpdate.apply_of_guard admitted,
                RowUpdate.returning, admitted, if_true,
                RunWrite.event?_fencing]
              exact .written write row rfl admitted
            · simp only [Option.map_some, Option.bind_some,
                RowUpdate.apply_of_not_guard (by simpa using admitted),
                RowUpdate.returning, admitted]
              exact .kept _
      · have untouched :
            next.shared.row runId = pool.shared.row runId := by
          generalize next.shared.row runId = after at effect ⊢
          cases effect with
          | kept =>
              rfl
          | written =>
              exact (same rfl).elim
        rw [untouched]
        simp only [RunStatement.events]
        cases (pool.shared.row owner).bind write.update.returning with
        | none =>
            exact .kept _
        | some row =>
            simp only [RunWrite.event?_other write same]
            exact .kept _
  | commitClaims claimed =>
      obtain ⟨arguments, calling⟩ := RunCall.commitClaims_issued issued
      obtain ⟨transaction, opened, claiming⟩ :=
        reachable.batchesHold _ _ calling
      rw [RunDatabase.exec_commitClaims executed opened]
      simp only [RunStatement.events]
      have once : (claimed.map Prod.fst).Nodup := by
        simpa using claiming.once
      cases written : transaction.writes.lookup runId with
      | none =>
          have absent : runId ∉ claimed.map Prod.fst := by
            intro member
            obtain ⟨⟨owner, token⟩, listed, rfl⟩ := List.mem_map.mp member
            obtain ⟨row, found, -⟩ := claiming.written listed
            rw [written] at found
            cases found
          rw [filterMap_claims_of_not_mem absent]
          exact .kept _
      | some row =>
          have listed : runId ∈ claimed.map Prod.fst :=
            claiming.nothingElse runId
              (AList.lookup_isSome.mp (by simp [written]))
          obtain ⟨⟨owner, token⟩, member, rfl⟩ := List.mem_map.mp listed
          obtain ⟨bearing, found, bears⟩ := claiming.written member
          obtain rfl := Option.some.inj (written.symm.trans found)
          obtain ⟨committed, startedAt, dispatchId, stored, isQueued,
              rfl, -⟩ :=
            reachable.pendingClaims.writes opened written
          obtain rfl : dispatchId.text = token := Option.some.inj bears
          rw [filterMap_claims_of_mem once member]
          exact .published claimed committed startedAt dispatchId stored
            isQueued member
  | createRun document =>
      generalize next.shared.row runId = after at effect ⊢
      cases effect with
      | kept =>
          exact .kept _
      | created _ sameRun absent =>
          exact .created document sameRun absent
  | _ =>
      generalize next.shared.row runId = after at effect ⊢
      cases effect
      exact .kept _

end RunPool

end IgaScheduler
