import IgaScheduler.ClaimTokens
import IgaScheduler.IgaProxySystem

namespace IgaScheduler

open Interleaving

/-!
# The proxy is bound to the current claim

A subprocess passes the check of the row it names exactly when that row is
`RUNNING` under the claim the subprocess was spawned for.  The row is read
once; whatever the proxy does for the request goes back to that moment.
-/

namespace ProxyPool

variable {service : RuntimeIgaProxyService}

/-- The request names the run and shows the claim of its own subprocess. -/
structure OwnRequest
    (sender : JobSubprocess)
    (request : CheckedRequest) :
    Prop where
  run : request.runId = sender.runId
  dispatch : request.dispatchId = some (.str sender.dispatchId)

/-- The named run is `RUNNING`, and the request shows its latest claim. -/
structure Bound
    (pool : ProxyPool)
    (request : CheckedRequest) :
    Prop where
  running :
    ∃ row,
      pool.shared.runs.row request.runId = some row ∧
        row.state = .running
  current :
    ∃ dispatchId,
      request.dispatchId = some (.str dispatchId) ∧
        Fencing.latest (pool.shared.runs.history request.runId) =
          some dispatchId

/-- What the subprocesses and their requests can know. -/
structure Guarded (pool : ProxyPool) : Prop where
  spawned :
    ∀ subprocess ∈ pool.shared.subprocesses,
      pool.shared.runs.Claimed subprocess.runId subprocess.dispatchId
  reading :
    ∀ {process : Nat} {sender : JobSubprocess} {request : CheckedRequest},
      pool.locals process = .proxyCall sender (.reading request) →
      sender ∈ pool.shared.subprocesses ∧
        ∀ id ∈ shownDispatchId request.dispatchId,
          id ∈ pool.shared.shown ∧
            (id = sender.dispatchId ∨ id ∉ pool.shared.runs.minted)

/-- The checks before the read keep what the request shows. -/
theorem dispatchId_of_receive
    {request : IgaRequest}
    {checked : CheckedRequest}
    (received :
      IgaProxyCall.receive service request = .reading checked) :
    checked.dispatchId = request.dispatchId := by
  unfold IgaProxyCall.receive at received
  split at received
  · rename_i accepted
    cases received
    exact (RuntimeIgaProxyService.checkRequest_eq_ok accepted).2
  · cases received

/-- What has been spawned, claimed or shown stays so; nobody's guess is minted. -/
theorem Moved.grows
    {pool next : ProxyPool}
    {label : Label ProxyInput}
    (moved : Moved service pool next label) :
    (∀ subprocess ∈ pool.shared.subprocesses,
        subprocess ∈ next.shared.subprocesses) ∧
      (∀ {runId dispatchId : String},
        pool.shared.runs.Claimed runId dispatchId →
        next.shared.runs.Claimed runId dispatchId) ∧
      ∀ id ∈ pool.shared.shown,
        id ∈ next.shared.shown ∧
          (id ∉ pool.shared.runs.minted →
            id ∉ next.shared.runs.minted) := by
  cases moved with
  | run call input statement reply _ _ unshown executed same _ =>
      refine ⟨?_, RunDatabase.exec_claimed executed, ?_⟩
      · rw [same]
        exact fun _ member => member
      · intro id member
        refine ⟨by rw [same]; exact member, ?_⟩
        intro unminted minted
        rw [RunDatabase.exec_minted executed] at minted
        rcases List.mem_append.mp minted with new | old
        · exact unshown id new member
        · exact unminted old
  | spawn run dispatchId _ _ spawned _ =>
      rw [spawned]
      exact ⟨fun _ member => List.mem_cons_of_mem _ member,
        fun claimed => claimed, fun _ member => ⟨member, fun old => old⟩⟩
  | receive sender request _ _ _ received _ =>
      rw [received]
      exact ⟨fun _ member => member, fun claimed => claimed,
        fun _ member =>
          ⟨List.mem_append_right _ member, fun old => old⟩⟩
  | read _ _ _ _ _ same | raised _ _ _ _ same =>
      rw [same]
      exact ⟨fun _ member => member, fun claimed => claimed,
        fun _ member => ⟨member, fun old => old⟩⟩
  | perform _ _ _ _ _ _ performed =>
      rw [performed]
      exact ⟨fun _ member => member, fun claimed => claimed,
        fun _ member => ⟨member, fun old => old⟩⟩

theorem guarded
    {rows : JobRuns}
    {pool : ProxyPool}
    {schedule : List (Label ProxyInput)}
    (allQueued :
      ∀ runId row, rows.lookup runId = some row → row.state = .queued)
    (ran :
      (proxySystem service).run? (ProxyPool.initial rows) schedule =
        some pool) :
    Guarded pool := by
  refine System.run?_induction (fun _ visited => Guarded visited)
    ?_ ?_ ran
  · exact ⟨by simp [ProxyPool.initial], fun calling => by cases calling⟩
  · intro earlier visited next label ranEarlier known stepped
    have moved := moved_of_step stepped
    obtain ⟨keptSpawned, keptClaimed, keptShown⟩ := moved.grows
    constructor
    · intro subprocess member
      cases moved with
      | spawn run dispatchId calling bears spawned _ =>
          rw [spawned] at member
          rcases List.mem_cons.mp member with rfl | old
          · have credential :
                (run.runId, run.dispatchId) ∈
                  ((runPool visited).locals label.1).credentials := by
              simp [runPool, calling, ProxyParty.run,
                RunCall.credentials]
            obtain ⟨carried, shape, claimed⟩ :=
              (runPool_reachable ranEarlier).credentialsClaimed allQueued
                _ _ _ credential
            cases bears.symm.trans shape
            exact keptClaimed claimed
          · exact keptClaimed (known.spawned subprocess old)
      | run _ _ _ _ _ _ _ _ same =>
          rw [same] at member
          exact keptClaimed (known.spawned subprocess member)
      | receive _ _ _ _ _ received =>
          rw [received] at member
          exact keptClaimed (known.spawned subprocess member)
      | read _ _ _ _ _ same | raised _ _ _ _ same =>
          rw [same] at member
          exact keptClaimed (known.spawned subprocess member)
      | perform _ _ _ _ _ _ performed =>
          rw [performed] at member
          exact keptClaimed (known.spawned subprocess member)
    · intro process sender request calling
      by_cases own : process = label.1
      · subst own
        cases moved with
        | receive _ request' _ spawned unguessed received resumed =>
            obtain ⟨rfl, got⟩ :=
              ProxyParty.proxyCall.inj (resumed.symm.trans calling)
            refine ⟨keptSpawned _ spawned, ?_⟩
            rw [dispatchId_of_receive got]
            intro id shown
            refine ⟨?_, ?_⟩
            · rw [received]
              exact List.mem_append_left _
                (Option.mem_toList.mpr shown)
            · rw [received]
              exact unguessed id shown
        | run _ _ _ _ _ _ _ _ _ resumed =>
            cases resumed.symm.trans calling
        | spawn _ _ calling' _ _ resumed =>
            cases calling'.symm.trans (resumed.symm.trans calling)
        | read _ _ _ _ _ _ resumed =>
            exact (IgaProxyCall.loaded_ne_reading _ _ _
              (ProxyParty.proxyCall.inj (resumed.symm.trans calling)).2).elim
        | raised _ _ _ _ _ resumed =>
            cases resumed.symm.trans calling
        | perform _ _ _ _ notReading _ _ resumed =>
            exact (IgaProxyCall.advance_ne_reading notReading _ _ _
              (ProxyParty.proxyCall.inj (resumed.symm.trans calling)).2).elim
      · rw [System.step?_locals_other stepped own] at calling
        obtain ⟨spawned, knows⟩ := known.reading calling
        refine ⟨keptSpawned _ spawned, ?_⟩
        intro id shown
        obtain ⟨old, only⟩ := knows id shown
        obtain ⟨kept, unminted⟩ := keptShown id old
        exact ⟨kept, only.imp_right unminted⟩

/-- The check of the row asks for the latest claim of a `RUNNING` run. -/
theorem passes_iff_bound
    {rows : JobRuns}
    {pool : ProxyPool}
    {schedule : List (Label ProxyInput)}
    {request : CheckedRequest}
    (allQueued :
      ∀ runId row, rows.lookup runId = some row → row.state = .queued)
    (ran :
      (proxySystem service).run? (ProxyPool.initial rows) schedule =
        some pool) :
    (∃ run,
      RuntimeIgaProxyService.checkRun request
          ((pool.shared.runs.row request.runId).map
            (rowToDocument request.runId)) =
        .ok run) ↔
      Bound pool request := by
  have reachable := runPool_reachable ran
  have owner
      {row : JobRun}
      (found : pool.shared.runs.row request.runId = some row)
      (running : row.state = .running) :
      ∃ dispatchId,
        row.dispatchId = some dispatchId ∧
          dispatchId ≠ "" ∧
          Fencing.latest (pool.shared.runs.history request.runId) =
            some dispatchId := by
    obtain ⟨dispatchId, bears, held⟩ :=
      (reachable.fenced allQueued request.runId).owned row found
        (.inl running)
    exact ⟨dispatchId, bears,
      (reachable.granted_minted (Fencing.mem_of_holder held)).2,
      Fencing.latest_of_holder held⟩
  constructor
  · rintro ⟨run, passed⟩
    obtain ⟨loaded, running, matching⟩ :=
      RuntimeIgaProxyService.checkRun_eq_ok.mp passed
    obtain ⟨row, found, rfl⟩ := Option.map_eq_some_iff.mp loaded
    obtain ⟨dispatchId, bears, nonempty, latest⟩ := owner found running
    exact ⟨⟨row, found, running⟩, dispatchId,
      (RuntimeIgaProxyService.dispatchMismatch_eq_false bears nonempty).mp
        matching, latest⟩
  · rintro ⟨⟨row, found, running⟩, shown, shows, current⟩
    obtain ⟨dispatchId, bears, nonempty, latest⟩ := owner found running
    cases current.symm.trans latest
    refine ⟨rowToDocument request.runId row,
      RuntimeIgaProxyService.checkRun_eq_ok.mpr
        ⟨by rw [found, Option.map_some], running, ?_⟩⟩
    have bearing :
        (rowToDocument request.runId row).dispatchId = some shown :=
      bears
    exact (RuntimeIgaProxyService.dispatchMismatch_eq_false bearing
      nonempty).mpr shows

/-- Only the subprocess of the latest claim can show it. -/
theorem Bound.own
    {rows : JobRuns}
    {pool : ProxyPool}
    {schedule : List (Label ProxyInput)}
    {process : Nat}
    {sender : JobSubprocess}
    {request : CheckedRequest}
    (bound : Bound pool request)
    (allQueued :
      ∀ runId row, rows.lookup runId = some row → row.state = .queued)
    (ran :
      (proxySystem service).run? (ProxyPool.initial rows) schedule =
        some pool)
    (reading :
      pool.locals process = .proxyCall sender (.reading request)) :
    OwnRequest sender request := by
  have reachable := runPool_reachable ran
  have known := guarded allQueued ran
  obtain ⟨dispatchId, shows, current⟩ := bound.current
  have claimed :
      pool.shared.runs.Claimed request.runId dispatchId :=
    RunDatabase.claimed_iff_granted.mpr (Fencing.mem_of_latest current)
  obtain ⟨spawned, knows⟩ := known.reading reading
  obtain ⟨-, sameDispatch | unminted⟩ :=
    knows dispatchId (by rw [shows]; rfl)
  · subst sameDispatch
    exact ⟨reachable.tokensApart.claimed claimed
      (known.spawned sender spawned), shows⟩
  · exact (unminted (reachable.claimed_minted claimed)).elim

/-- In this run the process read the row for the request in this pool. -/
def ReadIn
    (service : RuntimeIgaProxyService)
    (rows : JobRuns)
    (schedule : List (Label ProxyInput))
    (process : Nat)
    (sender : JobSubprocess)
    (request : CheckedRequest)
    (before : ProxyPool) :
    Prop :=
  ∃ earlier environment later,
    schedule = earlier ++ (process, .proceed environment) :: later ∧
      (proxySystem service).run? (ProxyPool.initial rows) earlier =
        some before ∧
      before.locals process = .proxyCall sender (.reading request)

/-- What has been read stays read when the run is continued. -/
theorem ReadIn.append
    {rows : JobRuns}
    {schedule : List (Label ProxyInput)}
    {process : Nat}
    {sender : JobSubprocess}
    {request : CheckedRequest}
    {before : ProxyPool}
    (read : ReadIn service rows schedule process sender request before)
    (rest : List (Label ProxyInput)) :
    ReadIn service rows (schedule ++ rest) process sender request
      before := by
  obtain ⟨earlier, environment, later, rfl, ran, reading⟩ := read
  exact ⟨earlier, environment, later ++ rest, by simp, ran, reading⟩

/-- Whatever the proxy has done for a request goes back to a row that passed. -/
structure Justified
    (service : RuntimeIgaProxyService)
    (rows : JobRuns)
    (schedule : List (Label ProxyInput))
    (pool : ProxyPool) :
    Prop where
  effects :
    ∀ {process : Nat} {done : IgaEffect},
      (process, done) ∈ pool.shared.effects →
      ∃ sender request before,
        ReadIn service rows schedule process sender request before ∧
          Bound before request ∧
          IgaProxyCall.Serves request done
  passed :
    ∀ {process : Nat} {sender : JobSubprocess}
      {call : IgaProxyCall.Local} {request : CheckedRequest},
      pool.locals process = .proxyCall sender call →
      call.passed? = some request →
      ∃ before,
        ReadIn service rows schedule process sender request before ∧
          Bound before request
  acted :
    ∀ {process : Nat} {done : IgaEffect},
      (process, done) ∈ pool.shared.effects →
      ∃ sender call,
        pool.locals process = .proxyCall sender call ∧
          ∀ request, call ≠ .reading request

/-- The effects after a step are the old ones and those of the process. -/
theorem effects_of_moved
    {pool next : ProxyPool}
    {label : Label ProxyInput}
    {owner : Nat}
    {done : IgaEffect}
    (moved : Moved service pool next label)
    (member : (owner, done) ∈ next.shared.effects) :
    (owner, done) ∈ pool.shared.effects ∨
      owner = label.1 ∧
        ∃ sender call environment,
          pool.locals label.1 = .proxyCall sender call ∧
            IgaProxyCall.effect service call environment = some done := by
  cases moved with
  | perform sender call environment calling _ _ performed =>
      rw [performed] at member
      rcases List.mem_append.mp member with new | old
      · obtain ⟨effect, acted, shape⟩ := List.mem_map.mp new
        cases shape
        exact .inr ⟨rfl, sender, call, environment, calling,
          Option.mem_toList.mp acted⟩
      · exact .inl old
  | run _ _ _ _ _ _ _ _ same =>
      rw [same] at member
      exact .inl member
  | spawn _ _ _ _ spawned =>
      rw [spawned] at member
      exact .inl member
  | receive _ _ _ _ _ received =>
      rw [received] at member
      exact .inl member
  | read _ _ _ _ _ same | raised _ _ _ _ same =>
      rw [same] at member
      exact .inl member

/-- A process that works for the proxy goes on to do so, and does not reread. -/
theorem proxyCall_of_moved
    {pool next : ProxyPool}
    {label : Label ProxyInput}
    {sender : JobSubprocess}
    {call : IgaProxyCall.Local}
    (moved : Moved service pool next label)
    (calling : pool.locals label.1 = .proxyCall sender call) :
    ∃ after,
      next.locals label.1 = .proxyCall sender after ∧
        ∀ request, after ≠ .reading request := by
  cases moved with
  | run _ _ _ _ calling' =>
      cases calling'.symm.trans calling
  | spawn _ _ calling' =>
      cases calling'.symm.trans calling
  | receive _ _ calling' =>
      cases calling'.symm.trans calling
  | read _ _ _ _ calling' _ resumed =>
      cases calling'.symm.trans calling
      exact ⟨_, resumed, fun _ => IgaProxyCall.loaded_ne_reading _ _ _⟩
  | raised _ _ _ calling' _ resumed =>
      cases calling'.symm.trans calling
      exact ⟨_, resumed, fun _ impossible => by cases impossible⟩
  | perform _ _ _ calling' notReading _ _ resumed =>
      cases calling'.symm.trans calling
      exact ⟨_, resumed, IgaProxyCall.advance_ne_reading notReading _ _⟩

theorem justified
    {rows : JobRuns}
    {pool : ProxyPool}
    {schedule : List (Label ProxyInput)}
    (allQueued :
      ∀ runId row, rows.lookup runId = some row → row.state = .queued)
    (ran :
      (proxySystem service).run? (ProxyPool.initial rows) schedule =
        some pool) :
    Justified service rows schedule pool := by
  refine System.run?_induction
    (fun earlier visited => Justified service rows earlier visited)
    ?_ ?_ ran
  · constructor
    · intro process done member
      cases member
    · intro process sender call request calling
      cases calling
    · intro process done member
      cases member
  · intro earlier visited next label ranEarlier justified stepped
    have moved := moved_of_step stepped
    constructor
    · intro process done member
      rcases effects_of_moved moved member with
        old | ⟨rfl, sender, call, environment, calling, performed⟩
      · obtain ⟨sender, request, before, read, bound, serves⟩ :=
          justified.effects old
        exact ⟨sender, request, before, read.append _, bound, serves⟩
      · obtain ⟨request, passed, serves⟩ :=
          IgaProxyCall.effect_serves performed
        obtain ⟨before, read, bound⟩ := justified.passed calling passed
        exact ⟨sender, request, before, read.append _, bound, serves⟩
    · intro process sender call request calling passed
      by_cases own : process = label.1
      · subst own
        cases moved with
        | run _ _ _ _ _ _ _ _ _ resumed =>
            cases resumed.symm.trans calling
        | spawn _ _ calling' _ _ resumed =>
            cases calling'.symm.trans (resumed.symm.trans calling)
        | receive _ _ _ _ _ _ resumed =>
            cases resumed.symm.trans calling
            unfold IgaProxyCall.receive at passed
            split at passed <;> cases passed
        | raised _ _ _ _ _ resumed =>
            cases resumed.symm.trans calling
            cases passed
        | perform _ _ _ calling' notReading _ _ resumed =>
            cases resumed.symm.trans calling
            obtain ⟨before, read, bound⟩ :=
              justified.passed calling'
                (IgaProxyCall.passed_of_advance notReading passed)
            exact ⟨before, read.append _, bound⟩
        | read _ asked environment chosen reading _ resumed =>
            cases resumed.symm.trans calling
            obtain ⟨rfl, accepted⟩ := IgaProxyCall.passed_of_loaded passed
            refine ⟨visited, ⟨earlier, environment, [], ?_, ranEarlier,
              reading⟩, (passes_iff_bound allQueued ranEarlier).mp accepted⟩
            rw [← chosen]
      · rw [System.step?_locals_other stepped own] at calling
        obtain ⟨before, read, bound⟩ := justified.passed calling passed
        exact ⟨before, read.append _, bound⟩
    · intro process done member
      by_cases own : process = label.1
      · subst own
        rcases effects_of_moved moved member with
          old | ⟨-, sender, call, environment, calling, -⟩
        · obtain ⟨sender, call, calling, -⟩ := justified.acted old
          obtain ⟨after, resumed, notReading⟩ :=
            proxyCall_of_moved moved calling
          exact ⟨sender, after, resumed, notReading⟩
        · obtain ⟨after, resumed, notReading⟩ :=
            proxyCall_of_moved moved calling
          exact ⟨sender, after, resumed, notReading⟩
      · rcases effects_of_moved moved member with old | ⟨same, -⟩
        · rw [System.step?_locals_other stepped own]
          exact justified.acted old
        · exact (own same).elim

/-- A request read for another run or a superseded claim is not in bounds. -/
theorem not_bound
    {rows : JobRuns}
    {pool : ProxyPool}
    {schedule : List (Label ProxyInput)}
    {process : Nat}
    {sender : JobSubprocess}
    {request : CheckedRequest}
    (allQueued :
      ∀ runId row, rows.lookup runId = some row → row.state = .queued)
    (ran :
      (proxySystem service).run? (ProxyPool.initial rows) schedule =
        some pool)
    (reading :
      pool.locals process = .proxyCall sender (.reading request))
    (foreign :
      request.runId ≠ sender.runId ∨
        ∃ runId dispatchId,
          request.dispatchId = some (.str dispatchId) ∧
            Fencing.Superseded (pool.shared.runs.history runId)
              dispatchId) :
    ¬ Bound pool request := by
  intro bound
  have reachable := runPool_reachable ran
  rcases foreign with other | ⟨runId, dispatchId, shows, superseded⟩
  · exact other (bound.own allQueued ran reading).run
  · obtain ⟨row, found, running⟩ := bound.running
    obtain ⟨latest, showsLatest, current⟩ := bound.current
    cases shows.symm.trans showsLatest
    have sameRun : runId = request.runId :=
      reachable.tokensApart.claimed
        (RunDatabase.claimed_iff_granted.mpr superseded.granted)
        (RunDatabase.claimed_iff_granted.mpr
          (Fencing.mem_of_latest current))
    subst sameRun
    have fenced := reachable.fenced allQueued request.runId
    obtain ⟨owner, -, held⟩ := fenced.owned row found (.inl running)
    cases current.symm.trans (Fencing.latest_of_holder held)
    exact Fencing.holder_ne_of_superseded fenced.distinct superseded held

/-- A row that does not pass ends the call, which has done nothing so far. -/
theorem threw_of_not_bound
    {rows : JobRuns}
    {pool next : ProxyPool}
    {schedule : List (Label ProxyInput)}
    {label : Label ProxyInput}
    {sender : JobSubprocess}
    {request : CheckedRequest}
    (allQueued :
      ∀ runId row, rows.lookup runId = some row → row.state = .queued)
    (ran :
      (proxySystem service).run? (ProxyPool.initial rows) schedule =
        some pool)
    (stepped : (proxySystem service).step? pool label = some next)
    (reading :
      pool.locals label.1 = .proxyCall sender (.reading request))
    (refused : ¬ Bound pool request) :
    ∃ error,
      next.locals label.1 = .proxyCall sender (.done (.error error)) ∧
        ∀ done, (label.1, done) ∉ next.shared.effects := by
  have idle : ∀ done, (label.1, done) ∉ pool.shared.effects := by
    intro done member
    obtain ⟨_, call, calling, notReading⟩ :=
      (justified allQueued ran).acted member
    cases reading.symm.trans calling
    exact notReading request rfl
  cases moved_of_step stepped with
  | run _ _ _ _ calling =>
      cases calling.symm.trans reading
  | spawn _ _ calling =>
      cases calling.symm.trans reading
  | receive _ _ calling =>
      cases calling.symm.trans reading
  | perform _ _ _ calling notReading =>
      cases calling.symm.trans reading
      exact (notReading request rfl).elim
  | raised _ _ _ calling same resumed =>
      cases calling.symm.trans reading
      exact ⟨.raised, resumed, by rw [same]; exact idle⟩
  | read _ _ _ _ calling same resumed =>
      cases calling.symm.trans reading
      have failed :
          ∀ run,
            RuntimeIgaProxyService.checkRun request
                ((pool.shared.runs.row request.runId).map
                  (rowToDocument request.runId)) ≠ .ok run :=
        fun run passed =>
          refused ((passes_iff_bound allQueued ran).mp ⟨run, passed⟩)
      unfold IgaProxyCall.loaded at resumed
      split at resumed
      · rename_i run passed
        exact (failed run passed).elim
      · rename_i error _
        exact ⟨error, resumed, by rw [same]; exact idle⟩

/-- A call that has thrown does nothing more. -/
theorem threw_persists
    {pool next : ProxyPool}
    {label : Label ProxyInput}
    {process : Nat}
    {sender : JobSubprocess}
    {error : IgaProxyError}
    (threw :
      pool.locals process = .proxyCall sender (.done (.error error)) ∧
        ∀ done, (process, done) ∉ pool.shared.effects)
    (stepped : (proxySystem service).step? pool label = some next) :
    next.locals process = .proxyCall sender (.done (.error error)) ∧
      ∀ done, (process, done) ∉ next.shared.effects := by
  obtain ⟨finished, idle⟩ := threw
  have different : process ≠ label.1 := by
    rintro rfl
    obtain ⟨statement, reply, issued, -⟩ := System.step?_moves stepped
    rw [finished] at issued
    cases label.2 <;> cases issued
  refine ⟨(System.step?_locals_other stepped different).trans finished, ?_⟩
  intro done member
  rcases effects_of_moved (moved_of_step stepped) member with
    old | ⟨same, -⟩
  · exact idle done old
  · exact different same

/--
When every run starts out `QUEUED`: whatever the proxy does for a request goes
back to a read at which the named run was `RUNNING` under its latest claim and
the request came from the subprocess of that claim and showed it; a request
that names another run than its sender's or shows a superseded claim throws
and has no effect at all; and a request of the subprocess of the latest claim
passes whenever it is read while the run is `RUNNING`.
-/
theorem iga_proxy_run_binding
    {rows : JobRuns}
    {pool : ProxyPool}
    {schedule : List (Label ProxyInput)}
    (allQueued :
      ∀ runId row, rows.lookup runId = some row → row.state = .queued)
    (ran :
      (proxySystem service).run? (ProxyPool.initial rows) schedule =
        some pool) :
    (∀ {process : Nat} {done : IgaEffect},
      (process, done) ∈ pool.shared.effects →
      ∃ sender request before,
        ReadIn service rows schedule process sender request before ∧
          IgaProxyCall.Serves request done ∧
          Bound before request ∧
          OwnRequest sender request) ∧
    (∀ {process : Nat} {sender : JobSubprocess}
        {request : CheckedRequest} {before : ProxyPool},
      ReadIn service rows schedule process sender request before →
      (request.runId ≠ sender.runId ∨
        ∃ runId dispatchId,
          request.dispatchId = some (.str dispatchId) ∧
            Fencing.Superseded (before.shared.runs.history runId)
              dispatchId) →
      (∀ done, (process, done) ∉ pool.shared.effects) ∧
        ∃ error,
          pool.locals process =
            .proxyCall sender (.done (.error error))) ∧
    (∀ {next : ProxyPool} {process : Nat}
        {environment : IgaProxyCall.Environment}
        {sender : JobSubprocess} {request : CheckedRequest} {row : JobRun},
      (proxySystem service).step? pool (process, .proceed environment) =
        some next →
      pool.locals process = .proxyCall sender (.reading request) →
      OwnRequest sender request →
      Fencing.latest (pool.shared.runs.history sender.runId) =
        some sender.dispatchId →
      pool.shared.runs.row sender.runId = some row →
      row.state = .running →
      next.locals process =
        .proxyCall sender
          (.starting request (rowToDocument sender.runId row))) := by
  refine ⟨?_, ?_, ?_⟩
  · intro process done member
    obtain ⟨sender, request, before, read, bound, serves⟩ :=
      (justified allQueued ran).effects member
    obtain ⟨earlier, environment, later, -, ranEarlier, reading⟩ :=
      id read
    exact ⟨sender, request, before, read, serves, bound,
      bound.own allQueued ranEarlier reading⟩
  · rintro process sender request before
      ⟨earlier, environment, later, rfl, ranEarlier, reading⟩ foreign
    have refused := not_bound allQueued ranEarlier reading foreign
    obtain ⟨middle, ranMiddle, ranRest⟩ :=
      System.run?_append_eq_some.mp ran
    cases ranEarlier.symm.trans ranMiddle
    obtain ⟨next, ranStep, ranLater⟩ :=
      System.run?_append_eq_some.mp
        (show (proxySystem service).run? before
          ([(process, .proceed environment)] ++ later) = some pool
          from ranRest)
    rw [System.run?_singleton] at ranStep
    obtain ⟨error, threw⟩ :=
      threw_of_not_bound allQueued ranEarlier ranStep reading refused
    obtain ⟨finished, idle⟩ :=
      System.run?_invariant
        (fun visited =>
          visited.locals process =
              .proxyCall sender (.done (.error error)) ∧
            ∀ done, (process, done) ∉ visited.shared.effects)
        threw threw_persists ranLater
    exact ⟨idle, error, finished⟩
  · intro next process environment sender request row stepped reading own
      current found running
    have bound : Bound pool request :=
      ⟨⟨row, by rw [own.run, found], running⟩, sender.dispatchId,
        own.dispatch, by rw [own.run, current]⟩
    obtain ⟨run, passed⟩ := (passes_iff_bound allQueued ran).mpr bound
    have loaded := (RuntimeIgaProxyService.checkRun_eq_ok.mp passed).1
    rw [own.run, found] at loaded
    obtain rfl := Option.some.inj loaded
    cases moved_of_step stepped with
    | run _ _ _ _ calling =>
        cases calling.symm.trans reading
    | spawn _ _ calling =>
        cases calling.symm.trans reading
    | receive _ _ calling =>
        cases calling.symm.trans reading
    | perform _ _ _ calling notReading =>
        cases calling.symm.trans reading
        exact (notReading request rfl).elim
    | raised _ _ chosen =>
        cases chosen
    | read _ _ _ _ calling _ resumed =>
        cases calling.symm.trans reading
        rw [resumed, IgaProxyCall.loaded, passed]

/-- What the job of the nightly run asks IGA for. -/
def pingRequest : IgaRequest where
  runId := some (.str nightlyRunId)
  dispatchId := some (.str "first")
  method := some (.str "GET")
  path := some (.str "/info/ping")
  body := none
  principal := none

/-- A claimed run is executed; its job sends a request, which is forwarded. -/
def proxiedPing : List (Label ProxyInput) :=
  (queueNightly ++ claimNightly 1 firstUuid ++
      executeNightly 2 "first").map
      (fun label => (label.1, .run label.2)) ++
    [(2, .spawn),
      (3, .receive ⟨nightlyRunId, "first"⟩ pingRequest),
      (3, .proceed ⟨8, .ok (.obj [])⟩),
      (3, .proceed ⟨8, .ok (.obj [])⟩),
      (3, .proceed ⟨8, .ok (.obj [])⟩)]

/-- The `started` event and the forwarded request go back to a bound read. -/
theorem iga_proxy_run_binding_proxiedPing :
    ∃ pool,
      (proxySystem {}).run? (ProxyPool.initial ∅) proxiedPing = some pool ∧
        pool.shared.effects.length = 2 ∧
        ∀ {process : Nat} {done : IgaEffect},
          (process, done) ∈ pool.shared.effects →
          ∃ sender request before,
            ReadIn {} ∅ proxiedPing process sender request before ∧
              IgaProxyCall.Serves request done ∧
              Bound before request ∧
              OwnRequest sender request := by
  have enabled :
      ((proxySystem {}).run? (ProxyPool.initial ∅) proxiedPing).map
        (fun pool => pool.shared.effects.length) = some 2 := by
    decide
  obtain ⟨pool, ran, acted⟩ := Option.map_eq_some_iff.mp enabled
  exact ⟨pool, ran, acted, (iga_proxy_run_binding (by simp) ran).1⟩

end ProxyPool

end IgaScheduler
