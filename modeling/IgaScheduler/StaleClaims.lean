import IgaScheduler.ClaimPhases

namespace IgaScheduler

open Relational Interleaving

/-!
# What the stale-run sweeper closes

A sweep lists stale claims and later sends one guarded update for each.  An
update that changes the run has found the claim in the phase in which the
listing saw it, so nothing has happened to the run in between.
-/

namespace RunPool

/-- In this step a sweep lists a stale run, whose row it sees. -/
structure Lists
    (seen : RunPool)
    (label : Label RunInput)
    (options : Sweep.Options)
    (environment : Environment)
    (runId : String)
    (row : JobRun) :
    Prop where
  calling :
    (row.state = .running ∧
        seen.locals label.1 = .sweep (.listRunning options)) ∨
      (row.state = .cancelling ∧
        seen.locals label.1 = .sweep (.listCancelling options))
  proceeding : label.2 = .proceed environment
  listed :
    (runId, row) ∈
      seen.shared.listStale row.state options.thresholdMs
        options.batchSize environment.databaseNow

/-- The process begins no other call in these steps. -/
def StartsNothing
    (steps : List (Label RunInput))
    (process : Nat) :
    Prop :=
  ∀ step ∈ steps, step.1 = process → ∀ request, step.2 ≠ .start request

/-- The pass that `process` is at has listed the run with this row. -/
def Listed
    (earlier : List (Label RunInput))
    (process : Nat)
    (runId : String)
    (row : JobRun) :
    Prop :=
  ∃ first label middle seen options environment,
    earlier = first ++ label :: middle ∧
      label.1 = process ∧
      StartsNothing middle process ∧
      runSystem.run? (RunPool.initial ∅) first = some seen ∧
      Lists seen label options environment runId row

theorem Listed.append
    {earlier : List (Label RunInput)}
    {process : Nat}
    {runId : String}
    {row : JobRun}
    {label : Label RunInput}
    (listed : Listed earlier process runId row)
    (samePass : StartsNothing [label] process) :
    Listed (earlier ++ [label]) process runId row := by
  obtain ⟨first, entry, middle, seen, options, environment, rfl, own,
    nothing, ran, lists⟩ := listed
  exact ⟨first, entry, middle ++ [label], seen, options, environment,
    by simp, own, List.forall_mem_append.mpr ⟨nothing, samePass⟩, ran, lists⟩

end RunPool

/-- The runs a sweep has still to change, as it has listed them. -/
def Sweep.Local.pending :
    Sweep.Local →
      List (RunState × String × Option String)
  | .failing _ staleRuns =>
      staleRuns.map fun (runId, dispatchId) =>
        (.running, runId, dispatchId)
  | .cancelling _ runIds =>
      runIds.map fun runId => (.cancelling, runId, none)
  | _ => []

@[simp] theorem Sweep.pending_afterFailing
    (options : Sweep.Options)
    (remaining : List (String × Option String)) :
    (Sweep.afterFailing options remaining).pending =
      (Sweep.Local.failing options remaining).pending := by
  cases remaining <;> rfl

@[simp] theorem Sweep.pending_afterCancelling
    (options : Sweep.Options)
    (remaining : List String) :
    (Sweep.afterCancelling options remaining).pending =
      (Sweep.Local.cancelling options remaining).pending := by
  cases remaining <;> rfl

/-- A listing of one half of the sweep answers this run. -/
inductive Sweep.Answers :
    Sweep.Local →
      RunReply →
      RunState × String × Option String →
      Prop where
  | running
      {options : Sweep.Options}
      {reply : RunReply}
      {runId : String}
      {dispatchId : Option String}
      (listed : (runId, dispatchId) ∈ reply.stale) :
      Answers (.listRunning options) reply (.running, runId, dispatchId)
  | cancelling
      {options : Sweep.Options}
      {reply : RunReply}
      {runId : String}
      (listed : runId ∈ reply.listed) :
      Answers (.listCancelling options) reply (.cancelling, runId, none)

/-- What is left after a step was left before it, or has just been listed. -/
theorem Sweep.pending_resume
    {call : Sweep.Local}
    {environment : Environment}
    {reply : RunReply}
    {entry : RunState × String × Option String}
    (member : entry ∈ (Sweep.resume call environment reply).pending) :
    entry ∈ call.pending ∨ Sweep.Answers call reply entry := by
  cases call with
  | listRunning options =>
      simp only [Sweep.resume, Sweep.pending_afterFailing] at member
      obtain ⟨pair, listed, rfl⟩ := List.mem_map.mp member
      exact .inr (.running listed)
  | listCancelling options =>
      simp only [Sweep.resume, Sweep.pending_afterCancelling] at member
      obtain ⟨runId, listed, rfl⟩ := List.mem_map.mp member
      exact .inr (.cancelling listed)
  | failing options staleRuns =>
      simp only [Sweep.resume, Sweep.pending_afterFailing] at member
      obtain ⟨pair, later, rfl⟩ := List.mem_map.mp member
      exact .inl (List.mem_map_of_mem (List.mem_of_mem_tail later))
  | cancelling options runIds =>
      simp only [Sweep.resume, Sweep.pending_afterCancelling] at member
      obtain ⟨runId, later, rfl⟩ := List.mem_map.mp member
      exact .inl (List.mem_map_of_mem (List.mem_of_mem_tail later))
  | done =>
      cases member

/-- A statement that throws takes nothing on. -/
theorem Sweep.pending_raise
    {call : Sweep.Local}
    {entry : RunState × String × Option String}
    (member : entry ∈ (Sweep.raise call).pending) :
    entry ∈ call.pending := by
  cases call with
  | failing options staleRuns =>
      simp only [Sweep.raise, Sweep.pending_afterFailing] at member
      obtain ⟨pair, later, rfl⟩ := List.mem_map.mp member
      exact List.mem_map_of_mem (List.mem_of_mem_tail later)
  | cancelling options runIds =>
      simp only [Sweep.raise, Sweep.pending_afterCancelling] at member
      obtain ⟨runId, later, rfl⟩ := List.mem_map.mp member
      exact List.mem_map_of_mem (List.mem_of_mem_tail later)
  | listRunning | listCancelling | done =>
      cases member

/-- A call that is a sweep has been a sweep, or has just been started. -/
theorem RunCall.sweep_resumed
    {call : RunCall}
    {input : RunInput}
    {reply : RunReply}
    {next : Sweep.Local}
    (resumed : call.resume input reply = .sweep next) :
    (∃ options, next = .listRunning options) ∨
      ∃ before,
        call = .sweep before ∧
          ((∃ environment,
            input = .proceed environment ∧
              next = Sweep.resume before environment reply) ∨
            ∃ environment,
              input = .raise environment ∧ next = Sweep.raise before) := by
  cases input with
  | start request =>
      cases request <;> cases resumed
      exact .inl ⟨_, rfl⟩
  | proceed environment =>
      cases call <;> cases resumed
      exact .inr ⟨_, rfl, .inl ⟨environment, rfl, rfl⟩⟩
  | raise environment =>
      cases call <;> cases resumed
      exact .inr ⟨_, rfl, .inr ⟨environment, rfl, rfl⟩⟩

namespace RunPool

/-- A listing that answers a run has seen its row. -/
theorem lists_of_answers
    {pool : RunPool}
    {label : Label RunInput}
    {call : Sweep.Local}
    {environment : Environment}
    {statement : RunStatement}
    {shared : RunDatabase}
    {reply : RunReply}
    {entry : RunState × String × Option String}
    (calling : pool.locals label.1 = .sweep call)
    (proceeding : label.2 = .proceed environment)
    (issued : Sweep.issue call environment = some statement)
    (executed :
      pool.shared.exec label.1 statement = some (shared, reply))
    (answers : Sweep.Answers call reply entry) :
    ∃ options row,
      Lists pool label options environment entry.2.1 row ∧
        row.state = entry.1 ∧
        (entry.1 = .running → row.dispatchId = entry.2.2) := by
  cases answers with
  | @running options reply runId dispatchId answered =>
      cases issued
      obtain ⟨-, performed, ran, -⟩ := RunDatabase.exec_eq_some executed
      cases ran
      obtain ⟨⟨owner, row⟩, listed, shape⟩ := List.mem_map.mp answered
      cases shape
      obtain ⟨-, state, -⟩ := RunDatabase.mem_listStale listed
      refine ⟨options, row, ⟨.inl ⟨state, calling⟩, proceeding, ?_⟩, state,
        fun _ => rfl⟩
      rw [state]
      exact listed
  | @cancelling options reply runId answered =>
      cases issued
      obtain ⟨-, performed, ran, -⟩ := RunDatabase.exec_eq_some executed
      cases ran
      obtain ⟨⟨owner, row⟩, listed, shape⟩ := List.mem_map.mp answered
      cases shape
      obtain ⟨-, state, -⟩ := RunDatabase.mem_listStale listed
      refine ⟨options, row, ⟨.inr ⟨state, calling⟩, proceeding, ?_⟩, state,
        ?_⟩
      · rw [state]
        exact listed
      · intro impossible
        cases impossible

/-- What the sweeps have still to change has been listed by them. -/
def ListingsHold
    (earlier : List (Label RunInput))
    (pool : RunPool) :
    Prop :=
  ∀ process call,
    pool.locals process = .sweep call →
    ∀ entry ∈ call.pending,
      ∃ row,
        Listed earlier process entry.2.1 row ∧
          row.state = entry.1 ∧
          (entry.1 = .running → row.dispatchId = entry.2.2)

/-- Every step leaves the sweeps with listed runs only. -/
theorem ListingsHold.step
    {earlier : List (Label RunInput)}
    {pool next : RunPool}
    {label : Label RunInput}
    (ran : runSystem.run? (RunPool.initial ∅) earlier = some pool)
    (hold : ListingsHold earlier pool)
    (stepped : runSystem.step? pool label = some next) :
    ListingsHold (earlier ++ [label]) next := by
  intro process call calling entry pending
  have kept
      {before : Sweep.Local}
      (callingBefore : pool.locals process = .sweep before)
      (pendingBefore : entry ∈ before.pending)
      (samePass : StartsNothing [label] process) :
      ∃ row,
        Listed (earlier ++ [label]) process entry.2.1 row ∧
          row.state = entry.1 ∧
          (entry.1 = .running → row.dispatchId = entry.2.2) := by
    obtain ⟨row, listed, seen⟩ :=
      hold process before callingBefore entry pendingBefore
    exact ⟨row, listed.append samePass, seen⟩
  by_cases own : process = label.1
  · subst own
    obtain ⟨statement, reply, issued, executed, resumed⟩ :=
      step_moves stepped
    rcases RunCall.sweep_resumed (resumed.symm.trans calling) with
      ⟨options, rfl⟩ |
        ⟨before, callingBefore, ⟨environment, proceeding, rfl⟩ |
          ⟨environment, raising, rfl⟩⟩
    · cases pending
    · rcases Sweep.pending_resume pending with pendingBefore | answers
      · exact kept callingBefore pendingBefore
          (by simp [StartsNothing, proceeding])
      · rw [callingBefore, proceeding] at issued
        obtain ⟨options, row, lists, seen⟩ :=
          lists_of_answers callingBefore proceeding issued executed answers
        exact ⟨row, ⟨earlier, label, [], pool, options, environment, rfl,
          rfl, by simp [StartsNothing], ran, lists⟩, seen⟩
    · exact kept callingBefore (Sweep.pending_raise pending)
        (by simp [StartsNothing, raising])
  · rw [System.step?_locals_other stepped own] at calling
    exact kept calling pending (by simp [StartsNothing, Ne.symm own])

theorem listingsHold_of_run
    {earlier : List (Label RunInput)}
    {pool : RunPool}
    (ran : runSystem.run? (RunPool.initial ∅) earlier = some pool) :
    ListingsHold earlier pool := by
  refine System.run?_induction ListingsHold ?_ ?_ ran
  · intro process call calling
    cases calling
  · intro earlier visited next label ranEarlier hold stepped
    exact hold.step ranEarlier stepped

/-- A step of a sweep that changes the row of a run. -/
structure SweepChanges
    (pool next : RunPool)
    (label : Label RunInput)
    (runId : String)
    (before after : JobRun) :
    Prop where
  stepped : runSystem.step? pool label = some next
  sweeping : ∃ call, pool.locals label.1 = .sweep call
  found : pool.shared.row runId = some before
  written : next.shared.row runId = some after
  changed : after ≠ before

/-- A sweep changes only what it has listed, as one of its two writes does. -/
theorem SweepChanges.pending
    {rows : JobRuns}
    {pool next : RunPool}
    {label : Label RunInput}
    {runId : String}
    {before after : JobRun}
    (changes : SweepChanges pool next label runId before after)
    (reachable : Reachable rows pool) :
    ∃ call entry,
      pool.locals label.1 = .sweep call ∧
        entry ∈ call.pending ∧
        entry.2.1 = runId ∧
        entry.1 = before.state ∧
        ((before.state = .running ∧
            after.state = .failed ∧
            RunStore.fencing entry.2.2 before = true) ∨
          (before.state = .cancelling ∧ after.state = .cancelled)) := by
  obtain ⟨stepped, ⟨call, calling⟩, found, written, changed⟩ := changes
  obtain ⟨statement, reply, events, issued, -, -, -, effect⟩ :=
    reachable.runEffect stepped runId
  rw [found, written] at effect
  rw [calling] at issued
  generalize label.2 = input at issued
  cases effect with
  | kept =>
      exact (changed rfl).elim
  | created document sameRun absent =>
      cases absent
  | published =>
      cases RunCall.issues_of_issue issued
  | written write row stored admitted =>
      cases stored
      cases RunCall.issues_of_issue issued with
      | sweepFail options _ dispatchId rest _ environment shape =>
          subst shape
          obtain ⟨running, fenced⟩ := Bool.and_eq_true_iff.mp admitted
          have running := of_decide_eq_true running
          exact ⟨_, (.running, runId, dispatchId), calling,
            List.mem_cons_self, rfl, running.symm,
            .inl ⟨running, rfl, fenced⟩⟩
      | sweepCancel options _ rest _ environment shape =>
          subst shape
          have cancelling := of_decide_eq_true admitted
          exact ⟨_, (.cancelling, runId, none), calling,
            List.mem_cons_self, rfl, cancelling.symm,
            .inr ⟨cancelling, rfl⟩⟩

/-- A run that a worker holds bears a claim of its history. -/
theorem Reachable.granted_of_active
    {pool : RunPool}
    {runId : String}
    {row : JobRun}
    (reachable : Reachable ∅ pool)
    (found : pool.shared.row runId = some row)
    (active : row.state = .running ∨ row.state = .cancelling) :
    ∃ dispatchId,
      row.dispatchId = some dispatchId ∧
        .granted dispatchId ∈ pool.shared.history runId := by
  have fenced := reachable.fenced (fun _ _ stored => by cases stored) runId
  obtain ⟨dispatchId, bears, held⟩ := fenced.owned row found active
  exact ⟨dispatchId, bears, Fencing.mem_of_holder held⟩

/--
The same pass of the sweep has listed the run as stale, and ever since the run
has been in the state, and under the claim, in which the listing saw it.
-/
def StaleSince
    (earlier : List (Label RunInput))
    (process : Nat)
    (runId : String)
    (row : JobRun) :
    Prop :=
  ∃ first listing middle seen options environment listed,
    earlier = first ++ listing :: middle ∧
      listing.1 = process ∧
      StartsNothing middle process ∧
      runSystem.run? (RunPool.initial ∅) first = some seen ∧
      Lists seen listing options environment runId listed ∧
      RunDatabase.startedBefore options.thresholdMs
        environment.databaseNow listed = true ∧
      ∀ {passed rest : List (Label RunInput)} {visited : RunPool},
        listing :: middle = passed ++ rest →
        runSystem.run? seen passed = some visited →
        ∃ stored,
          visited.shared.row runId = some stored ∧
            stored.state = row.state ∧
            stored.dispatchId = row.dispatchId ∧
            stored.startedAt = row.startedAt

/-- A listed claim that is found in the same phase has been stale since. -/
theorem Listed.staleSince
    {earlier : List (Label RunInput)}
    {pool : RunPool}
    {process : Nat}
    {runId dispatchId : String}
    {listed row : JobRun}
    (seenBefore : Listed earlier process runId listed)
    (ran : runSystem.run? (RunPool.initial ∅) earlier = some pool)
    (found : pool.shared.row runId = some row)
    (bears : listed.dispatchId = some dispatchId)
    (ongoing : row.phase dispatchId < 2)
    (same : listed.phase dispatchId = row.phase dispatchId) :
    StaleSince earlier process runId row := by
  obtain ⟨first, listing, middle, seen, options, environment, rfl, own,
    samePass, ranFirst, lists⟩ := seenBefore
  obtain ⟨stored, -, stale⟩ := RunDatabase.mem_listStale lists.listed
  have reachable : Reachable ∅ seen := ⟨first, ranFirst⟩
  have active : listed.state = .running ∨ listed.state = .cancelling :=
    lists.calling.imp And.left And.left
  obtain ⟨token, bearing, granted⟩ :=
    reachable.granted_of_active stored active
  obtain rfl := Option.some.inj (bearing.symm.trans bears)
  refine ⟨first, listing, middle, seen, options, environment, listed, rfl,
    own, samePass, ranFirst, lists, stale, ?_⟩
  intro passed rest visited shape ranPassed
  obtain ⟨between, visitedRow, reached⟩ :=
    reachable.claimAdvances granted stored ranPassed
  obtain ⟨seen', ranSeen, ranRest⟩ := System.run?_append_eq_some.mp ran
  obtain rfl := Option.some.inj (ranSeen.symm.trans ranFirst)
  rw [shape] at ranRest
  obtain ⟨visited', ranPassed', ranLater⟩ :=
    System.run?_append_eq_some.mp ranRest
  obtain rfl := Option.some.inj (ranPassed'.symm.trans ranPassed)
  have grantedStill :
      .granted token ∈ visited'.shared.history runId :=
    System.run?_invariant
      (fun pool => .granted token ∈ pool.shared.history runId) granted
      (fun known stepped => granted_step stepped known) ranPassed
  obtain ⟨final, finalRow, goesOn⟩ :=
    (reachable.run ranPassed).claimAdvances grantedStill visitedRow ranLater
  obtain rfl := Option.some.inj (finalRow.symm.trans found)
  exact ⟨between, visitedRow, reached.between_same goesOn same ongoing⟩

/-- A listed run is stored under a claim, which has gone on since. -/
theorem Listed.advances
    {earlier : List (Label RunInput)}
    {pool : RunPool}
    {process : Nat}
    {runId : String}
    {listed row : JobRun}
    (seenBefore : Listed earlier process runId listed)
    (ran : runSystem.run? (RunPool.initial ∅) earlier = some pool)
    (found : pool.shared.row runId = some row) :
    ∃ dispatchId,
      listed.dispatchId = some dispatchId ∧
        dispatchId ≠ "" ∧
        JobRun.ClaimAdvances dispatchId listed row := by
  obtain ⟨first, listing, middle, seen, options, environment, rfl, -, -,
    ranFirst, lists⟩ := seenBefore
  obtain ⟨stored, -, -⟩ := RunDatabase.mem_listStale lists.listed
  have reachable : Reachable ∅ seen := ⟨first, ranFirst⟩
  obtain ⟨dispatchId, bears, granted⟩ :=
    reachable.granted_of_active stored (lists.calling.imp And.left And.left)
  obtain ⟨seen', ranSeen, ranRest⟩ := System.run?_append_eq_some.mp ran
  obtain rfl := Option.some.inj (ranSeen.symm.trans ranFirst)
  obtain ⟨final, finalRow, advances⟩ :=
    reachable.claimAdvances granted stored ranRest
  obtain rfl := Option.some.inj (finalRow.symm.trans found)
  exact ⟨dispatchId, bears, (reachable.granted_minted granted).2, advances⟩

/-- A sweep changes the row of a claim that it has listed as stale. -/
theorem SweepChanges.staleSince
    {earlier : List (Label RunInput)}
    {pool next : RunPool}
    {label : Label RunInput}
    {runId : String}
    {before after : JobRun}
    (changes : SweepChanges pool next label runId before after)
    (ran : runSystem.run? (RunPool.initial ∅) earlier = some pool) :
    StaleSince earlier label.1 runId before := by
  obtain ⟨call, entry, calling, pending, rfl, state, kind⟩ :=
    changes.pending ⟨earlier, ran⟩
  obtain ⟨listed, seenBefore, listedState, listedClaim⟩ :=
    listingsHold_of_run ran label.1 call calling entry pending
  obtain ⟨dispatchId, bears, nonempty, advances⟩ :=
    seenBefore.advances ran changes.found
  rw [state] at listedState listedClaim
  rcases kind with ⟨running, -, fenced⟩ | ⟨cancelling, -⟩
  · rw [← listedClaim running, bears] at fenced
    have bearing : before.dispatchId = some dispatchId := by
      simpa [RunStore.fencing, nonempty] using fenced
    have phase := JobRun.phase_of_running bearing running
    refine seenBefore.staleSince ran changes.found bears ?_ ?_
    · rw [phase]
      exact Nat.zero_lt_two
    · rw [phase]
      exact JobRun.phase_of_running bears (listedState.trans running)
  · have asked : listed.CancelRequested :=
      .inl (listedState.trans cancelling)
    have bearing : before.dispatchId = some dispatchId :=
      (advances.requested asked).2.trans bears
    have phase := JobRun.phase_of_cancelling bearing cancelling
    refine seenBefore.staleSince ran changes.found bears ?_ ?_
    · rw [phase]
      exact Nat.one_lt_two
    · rw [phase]
      exact JobRun.phase_of_cancelling bears
        (listedState.trans cancelling)

/-- No sweep changes the row of a claim that a sweep has closed before. -/
theorem SweepChanges.once
    {pool next pool' next' : RunPool}
    {label label' : Label RunInput}
    {runId : String}
    {before after before' after' : JobRun}
    {between : List (Label RunInput)}
    (changes : SweepChanges pool next label runId before after)
    (reachable : Reachable ∅ pool)
    (ran : runSystem.run? next between = some pool')
    (later : SweepChanges pool' next' label' runId before' after') :
    before'.dispatchId ≠ before.dispatchId := by
  intro same
  have reachableNext := reachable.step changes.stepped
  obtain ⟨_, _, -, -, -, state, kind⟩ := changes.pending reachable
  obtain ⟨_, _, -, -, -, state', kind'⟩ :=
    later.pending (reachableNext.run ran)
  obtain ⟨dispatchId, bears, granted⟩ :=
    reachable.granted_of_active changes.found
      (kind.imp And.left And.left)
  have closed : after.phase dispatchId = 2 := by
    rcases kind with ⟨-, failed, -⟩ | ⟨-, cancelled⟩
    · exact JobRun.phase_of_idle (by simp [failed]) (by simp [failed])
    · exact JobRun.phase_of_idle (by simp [cancelled])
        (by simp [cancelled])
  obtain ⟨stored, storedRow, advances⟩ :=
    reachableNext.claimAdvances (granted_step changes.stepped granted)
      changes.written ran
  obtain rfl := Option.some.inj (storedRow.symm.trans later.found)
  have phase := advances.phase
  rw [closed] at phase
  rcases kind' with ⟨running, -, -⟩ | ⟨cancelling, -⟩
  · rw [JobRun.phase_of_running (same.trans bears) running] at phase
    cases phase
  · rw [JobRun.phase_of_cancelling (same.trans bears) cancelling] at phase
    cases phase with
    | step impossible =>
        cases impossible

/--
Whatever is interleaved with them, sweeps only fail `RUNNING` runs and cancel
`CANCELLING` ones which they have listed as stale and which have been in that
state of that claim ever since; and no claim is closed by a second sweep.
-/
theorem sweeps_close_stale_claims
    {earlier : List (Label RunInput)}
    {pool next : RunPool}
    {label : Label RunInput}
    {runId : String}
    {before after : JobRun}
    (ran : runSystem.run? (RunPool.initial ∅) earlier = some pool)
    (changes : SweepChanges pool next label runId before after) :
    ((before.state = .running ∧ after.state = .failed) ∨
        (before.state = .cancelling ∧ after.state = .cancelled)) ∧
      StaleSince earlier label.1 runId before ∧
      ∀ {between : List (Label RunInput)} {pool' next' : RunPool}
          {label' : Label RunInput} {before' after' : JobRun},
        runSystem.run? next between = some pool' →
        SweepChanges pool' next' label' runId before' after' →
        before'.dispatchId ≠ before.dispatchId := by
  have reachable : Reachable ∅ pool := ⟨earlier, ran⟩
  refine ⟨?_, changes.staleSince ran, ?_⟩
  · obtain ⟨_, _, -, -, -, -, kind⟩ := changes.pending reachable
    rcases kind with ⟨running, failed, -⟩ | cancelled
    · exact .inl ⟨running, failed⟩
    · exact .inr cancelled
  · intro between pool' next' label' before' after' ranBetween later
    exact changes.once reachable ranBetween later

/-- The call is a sweep. -/
def sweeps : RunCall → Bool
  | .sweep _ => true
  | _ => false

theorem sweep_of_sweeps
    {call : RunCall}
    (sweeping : sweeps call = true) :
    ∃ own, call = .sweep own := by
  cases call with
  | sweep own =>
      exact ⟨own, rfl⟩
  | _ =>
      cases sweeping

/-- A sweep lists the nightly run long after it was claimed. -/
def sweepNightly : List (Label RunInput) :=
  queueNightly ++ claimNightly 1 firstUuid ++
    [(2, .start (.sweep ⟨3, 10⟩)),
      (2, .proceed (environmentAt 100 unusedUuid))]

/-- Its update fails the run, which has been in its claim all the time. -/
theorem sweeps_close_stale_claims_sweepNightly :
    ∃ pool next before after,
      runSystem.run? (RunPool.initial ∅) sweepNightly = some pool ∧
        SweepChanges pool next (2, .proceed (environmentAt 101 unusedUuid))
          nightlyRunId before after ∧
        after.state = .failed ∧
        StaleSince sweepNightly 2 nightlyRunId before := by
  have outcome :
      (runSystem.run? (RunPool.initial ∅) sweepNightly).bind
          (fun pool =>
            (runSystem.step? pool
                (2, .proceed (environmentAt 101 unusedUuid))).bind
              fun next =>
                (pool.shared.row nightlyRunId).bind fun before =>
                  (next.shared.row nightlyRunId).map fun after =>
                    (sweeps (pool.locals 2), before.state, after.state)) =
        some (true, .running, .failed) := by
    decide
  obtain ⟨pool, ran, rest⟩ := Option.bind_eq_some_iff.mp outcome
  obtain ⟨next, stepped, rest⟩ := Option.bind_eq_some_iff.mp rest
  obtain ⟨before, found, rest⟩ := Option.bind_eq_some_iff.mp rest
  obtain ⟨after, written, states⟩ := Option.map_eq_some_iff.mp rest
  simp only [Prod.mk.injEq] at states
  obtain ⟨sweeping, running, failed⟩ := states
  have changes :
      SweepChanges pool next (2, .proceed (environmentAt 101 unusedUuid))
        nightlyRunId before after := by
    refine ⟨stepped, sweep_of_sweeps sweeping, found, written, ?_⟩
    rintro rfl
    rw [failed] at running
    cases running
  obtain ⟨-, since, -⟩ := sweeps_close_stale_claims ran changes
  exact ⟨pool, next, before, after, ran, changes, failed, since⟩

end RunPool

end IgaScheduler
