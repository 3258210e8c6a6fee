import IgaScheduler.PublicRuns

namespace IgaScheduler

open Relational Interleaving

/-!
# What the public run API tells about `dispatch_id`

Two stores that differ only in `dispatch_id` are told apart by exactly those
requests that return a run whose `dispatch_id` differs: `toPublicRun` leaves
out `runtimeExecution` and nothing else.  A cancel tells nothing.
-/

namespace PublicRuns

/-- A row without its `dispatch_id`. -/
def conceal (row : JobRun) : JobRun :=
  { row with dispatchId := none }

theorem state_of_conceal
    {first second : JobRun}
    (same : conceal first = conceal second) :
    first.state = second.state := by
  simpa [conceal] using congrArg JobRun.state same

theorem cancelReason_of_conceal
    {first second : JobRun}
    (same : conceal first = conceal second) :
    first.cancelReason = second.cancelReason := by
  simpa [conceal] using congrArg JobRun.cancelReason same

/-- The same rows in the same order, up to `dispatch_id`. -/
def SameButDispatch (first second : JobRuns) : Prop :=
  Table.mapRows conceal first = Table.mapRows conceal second

/-- The `dispatch_id`s of the runs that a request returns. -/
def disclosed
    (rows : JobRuns) :
    PublicRunRequest → List (Option String)
  | .getRun runId => (rows.lookup runId).toList.map JobRun.dispatchId
  | .listRuns instanceId limit state =>
      match pageLimit limit with
      | .ofNat limit =>
          (listRunsForInstance rows instanceId limit state).map
            fun entry => entry.2.dispatchId
      | .negSucc _ => []
  | .cancel _ _ => []

theorem optionalText_injective : Function.Injective optionalText := by
  intro first second same
  cases first with
  | none =>
      cases second with
      | none =>
          rfl
      | some text =>
          cases same
  | some text =>
      cases second with
      | none =>
          cases same
      | some other =>
          exact congrArg some (Json.str.inj same)

/-- Two rows that differ only in `dispatch_id` are shown as different. -/
theorem toPublicRun_eq_iff
    {first second : JobRun}
    (runId : String)
    (same : conceal first = conceal second) :
    toPublicRun (rowToDocument runId first) =
        toPublicRun (rowToDocument runId second) ↔
      first.dispatchId = second.dispatchId := by
  constructor
  · intro shown
    have fields := Json.obj.inj shown
    have found :=
      congrArg (fun fields => fields[8]?.map Prod.snd) fields
    simp [documentFields, rowToDocument] at found
    exact optionalText_injective found
  · intro sameDispatch
    have rows : first = second := by
      cases first
      cases second
      simp only [conceal, JobRun.mk.injEq] at same
      simp_all
    rw [rows]

/-- Two listings that differ only in `dispatch_id` are shown row by row. -/
theorem map_toPublicRun_eq_iff
    {first second : List (String × JobRun)}
    (same :
      first.map (fun entry => (entry.1, conceal entry.2)) =
        second.map fun entry => (entry.1, conceal entry.2)) :
    (first.map fun entry =>
        toPublicRun (rowToDocument entry.1 entry.2)) =
      (second.map fun entry =>
        toPublicRun (rowToDocument entry.1 entry.2)) ↔
      (first.map fun entry => entry.2.dispatchId) =
        second.map fun entry => entry.2.dispatchId := by
  induction first generalizing second with
  | nil =>
      cases second with
      | nil =>
          simp
      | cons entry rest =>
          cases same
  | cons entry rest inductionHypothesis =>
      cases second with
      | nil =>
          cases same
      | cons other others =>
          obtain ⟨head, tail⟩ := List.cons.inj same
          obtain ⟨sameRun, sameRow⟩ := Prod.mk.inj head
          simp only [List.map_cons, List.cons.injEq]
          rw [inductionHypothesis tail, ← sameRun,
            toPublicRun_eq_iff entry.1 sameRow]

/-- A listing looks at nothing but the other columns. -/
theorem listRunsForInstance_alike
    {first second : JobRuns}
    (same : SameButDispatch first second)
    (instanceId : String)
    (limit : Nat)
    (state : Option String) :
    (listRunsForInstance first instanceId limit state).map
        (fun entry => (entry.1, conceal entry.2)) =
      (listRunsForInstance second instanceId limit state).map
        fun entry => (entry.1, conceal entry.2) := by
  have viewed (rows : JobRuns) :
      (listRunsForInstance rows instanceId limit state).map
          (fun entry => (entry.1, conceal entry.2)) =
        listRunsForInstance (Table.mapRows conceal rows) instanceId limit
          state :=
    Table.mapRows_select rows limit (fun _ _ => rfl) (fun _ => rfl)
  rw [viewed, viewed, same]

theorem getRun_eq_iff
    {first second : JobRuns}
    (same : SameButDispatch first second)
    (runId : String) :
    getRun first runId = getRun second runId ↔
      disclosed first (.getRun runId) = disclosed second (.getRun runId) := by
  have views :
      (first.lookup runId).map conceal = (second.lookup runId).map conceal :=
    (Table.lookup_mapRows conceal first runId).symm.trans
      ((congrArg (AList.lookup runId) same).trans
        (Table.lookup_mapRows conceal second runId))
  simp only [getRun, disclosed]
  cases foundFirst : first.lookup runId with
  | none =>
      rw [foundFirst] at views
      have foundSecond : second.lookup runId = none :=
        Option.map_eq_none_iff.mp views.symm
      simp [foundSecond]
  | some row =>
      rw [foundFirst] at views
      obtain ⟨other, foundSecond, sameRow⟩ :=
        Option.map_eq_some_iff.mp views.symm
      simp [foundSecond, toPublicRun_eq_iff runId sameRow.symm]

theorem listRuns_eq_iff
    {first second : JobRuns}
    (same : SameButDispatch first second)
    (requestId instanceId : String)
    (limit state : Option String) :
    listRuns first requestId instanceId limit state =
        listRuns second requestId instanceId limit state ↔
      disclosed first (.listRuns instanceId limit state) =
        disclosed second (.listRuns instanceId limit state) := by
  simp only [listRuns, disclosed]
  cases pageLimit limit with
  | negSucc _ =>
      simp
  | ofNat limit =>
      have rows :=
        map_toPublicRun_eq_iff
          (listRunsForInstance_alike same instanceId limit state)
      simpa using rows

/-! ## A cancel tells nothing -/

/-- The calls agree in everything but the `dispatch_id` of the loaded run. -/
inductive CallsAlike : CancelRun.Local → CancelRun.Local → Prop where
  | start
      (arguments : CancelRun.Arguments) :
      CallsAlike (.start arguments) (.start arguments)
  | loaded
      (arguments : CancelRun.Arguments)
      (runId : String)
      (first second : JobRun)
      (nowIso : Timestamp)
      (same : conceal first = conceal second) :
      CallsAlike
        (.loaded arguments (rowToDocument runId first) nowIso)
        (.loaded arguments (rowToDocument runId second) nowIso)
  | signalling
      (arguments : CancelRun.Arguments)
      (runId : String)
      (first second : JobRun)
      (same : conceal first = conceal second) :
      CallsAlike
        (.signalling arguments (rowToDocument runId first))
        (.signalling arguments (rowToDocument runId second))
  | killed
      (arguments : CancelRun.Arguments)
      (runId : String)
      (first second : JobRun)
      (nowIso : Timestamp)
      (same : conceal first = conceal second) :
      CallsAlike
        (.killed arguments (rowToDocument runId first) nowIso)
        (.killed arguments (rowToDocument runId second) nowIso)
  | done
      (outcome : Except CallError CancelRun.Result) :
      CallsAlike (.done outcome) (.done outcome)

/-- Databases at rest that differ only in `dispatch_id`. -/
structure DatabasesAlike (first second : RunDatabase) : Prop where
  rows :
    SameButDispatch first.database.committed second.database.committed
  quiet :
    first.database.transactions = ∅ ∧ second.database.transactions = ∅

/-- Replies about one run that differ only in its `dispatch_id`. -/
def RepliesAlike
    (runId : String)
    (first second : RunReply) :
    Prop :=
  ∃ stored other : Option JobRun,
    first.found? = stored.map (rowToDocument runId) ∧
      second.found? = other.map (rowToDocument runId) ∧
      stored.map conceal = other.map conceal

/-- The write neither looks at `dispatch_id` nor brings one. -/
structure Blind (write : RunWrite) : Prop where
  guard : ∀ row, write.update.guard row = write.update.guard (conceal row)
  set :
    ∀ row,
      conceal (write.update.set row) = write.update.set (conceal row)
  minted : write.minted? = none

/-- The statements of a cancel, and the run they are about. -/
inductive CancelStatement (runId : String) : RunStatement → Prop where
  | skip : CancelStatement runId .skip
  | getRun : CancelStatement runId (.getRun runId)
  | update
      (write : RunWrite)
      (blind : Blind write) :
      CancelStatement runId (.update runId write)

/-- Executed on alike databases, such a statement leaves them alike. -/
theorem DatabasesAlike.exec
    {first second : RunDatabase}
    {runId : String}
    {statement : RunStatement}
    (alike : DatabasesAlike first second)
    (shape : CancelStatement runId statement) :
    ∃ firstNext secondNext firstReply secondReply,
      first.exec 0 statement = some (firstNext, firstReply) ∧
        second.exec 0 statement = some (secondNext, secondReply) ∧
        DatabasesAlike firstNext secondNext ∧
        RepliesAlike runId firstReply secondReply := by
  cases shape with
  | skip =>
      exact ⟨_, _, _, _, rfl, rfl, ⟨alike.rows, alike.quiet⟩,
        none, none, rfl, rfl, rfl⟩
  | getRun =>
      refine ⟨_, _, _, _, rfl, rfl, ⟨alike.rows, alike.quiet⟩,
        first.row runId, second.row runId, rfl, rfl, ?_⟩
      have views := congrArg (AList.lookup runId) alike.rows
      rw [Table.lookup_mapRows, Table.lookup_mapRows] at views
      exact views
  | update write blind =>
      have performed
          (shared : RunDatabase)
          (quiet : shared.database.transactions = ∅) :
          ∃ next reply,
            shared.exec 0 (.update runId write) = some (next, reply) ∧
              next.database.committed =
                (shared.database.committed.updateWhere runId
                  write.update).1 ∧
              next.database.transactions = ∅ ∧
              reply.found? =
                (shared.database.committed.updateWhere runId
                  write.update).2.map (rowToDocument runId) := by
        have unlocked : shared.database.isLocked runId = false := by
          simp [Database.isLocked, quiet]
        have unminted :
            ∀ id ∈ (RunStatement.update runId write).minted,
              id ∉ shared.minted := by
          simp [RunStatement.minted, blind.minted]
        cases ran : shared.exec 0 (.update runId write) with
        | none =>
            rw [RunDatabase.exec, if_pos unminted, RunDatabase.perform,
              Database.update?, unlocked] at ran
            cases ran
        | some pair =>
            obtain ⟨next, reply⟩ := pair
            obtain ⟨-, performed, done, rfl⟩ :=
              RunDatabase.exec_eq_some ran
            rw [RunDatabase.perform, Database.update?, unlocked] at done
            cases done
            exact ⟨_, _, rfl, rfl, quiet, rfl⟩
      obtain ⟨firstNext, firstReply, ranFirst, committedFirst, quietFirst,
          answerFirst⟩ :=
        performed first alike.quiet.1
      obtain ⟨secondNext, secondReply, ranSecond, committedSecond,
          quietSecond, answerSecond⟩ :=
        performed second alike.quiet.2
      have viewed (rows : JobRuns) :=
        Table.mapRows_updateWhere rows runId blind.guard blind.set
      refine ⟨firstNext, secondNext, firstReply, secondReply, ranFirst,
        ranSecond, ⟨?_, quietFirst, quietSecond⟩, _, _, answerFirst,
        answerSecond, ?_⟩
      · rw [SameButDispatch, committedFirst, committedSecond,
          (viewed _).1, (viewed _).1, alike.rows]
      · rw [(viewed _).2, (viewed _).2, alike.rows]

theorem blind_cancelRunning
    (reason cancelledBy : String)
    (nowIso now : Timestamp) :
    Blind (.cancelRunning reason cancelledBy nowIso now) :=
  ⟨fun _ => rfl, fun _ => rfl, rfl⟩

theorem blind_cancelQueued
    (reason cancelledBy : String)
    (nowIso now : Timestamp) :
    Blind (.cancelQueued reason cancelledBy nowIso now) :=
  ⟨fun _ => rfl, fun _ => rfl, rfl⟩

theorem blind_killed
    (cancelReason : Option String)
    (nowIso now : Timestamp) :
    Blind (.killed cancelReason nowIso now) :=
  ⟨fun _ => rfl, fun _ => rfl, rfl⟩

/-- The next statement of alike calls is the same one. -/
theorem CallsAlike.issue
    {call other : CancelRun.Local}
    (alike : CallsAlike call other)
    (environment : Environment) :
    CancelRun.issue call environment = CancelRun.issue other environment ∧
      ∀ {statement : RunStatement},
        CancelRun.issue call environment = some statement →
        ∃ runId, CancelStatement runId statement := by
  cases alike with
  | start arguments =>
      refine ⟨rfl, ?_⟩
      intro statement issued
      simp only [CancelRun.issue] at issued
      split at issued <;> cases issued
      · exact ⟨"", .skip⟩
      · exact ⟨_, .getRun⟩
  | loaded arguments runId first second nowIso same =>
      have state :
          (rowToDocument runId first).state =
            (rowToDocument runId second).state :=
        state_of_conceal same
      refine ⟨by rw [CancelRun.issue, CancelRun.issue, state], ?_⟩
      intro statement issued
      simp only [CancelRun.issue] at issued
      split at issued <;> cases issued
      · exact ⟨_, .update _ (blind_cancelRunning _ _ _ _)⟩
      · exact ⟨_, .update _ (blind_cancelQueued _ _ _ _)⟩
  | signalling arguments runId first second same =>
      refine ⟨rfl, ?_⟩
      intro statement issued
      cases issued
      exact ⟨"", .skip⟩
  | killed arguments runId first second nowIso same =>
      have reason :
          (rowToDocument runId first).cancelReason =
            (rowToDocument runId second).cancelReason :=
        cancelReason_of_conceal same
      refine ⟨by rw [CancelRun.issue, CancelRun.issue, reason]; rfl, ?_⟩
      intro statement issued
      cases issued
      exact ⟨_, .update _ (blind_killed _ _ _)⟩
  | done outcome =>
      refine ⟨rfl, ?_⟩
      intro statement issued
      cases issued

/-- Alike calls go on alike when their replies are. -/
theorem CallsAlike.resume
    {call other : CancelRun.Local}
    {environment : Environment}
    {runId : String}
    {firstReply secondReply : RunReply}
    (alike : CallsAlike call other)
    (replies : RepliesAlike runId firstReply secondReply) :
    CallsAlike (CancelRun.resume call environment firstReply)
      (CancelRun.resume other environment secondReply) := by
  obtain ⟨stored, stored', found, found', views⟩ := replies
  cases alike with
  | start arguments =>
      simp only [CancelRun.resume, found, found']
      split
      · exact .done _
      · cases stored with
        | none =>
            cases Option.map_eq_none_iff.mp views.symm
            exact .done _
        | some row =>
            obtain ⟨other, rfl, same⟩ := Option.map_eq_some_iff.mp views.symm
            have state : row.state = other.state :=
              state_of_conceal same.symm
            simp only [Option.map_some, rowToDocument, ← state]
            cases row.state with
            | queued | running =>
                exact .loaded arguments runId row other environment.now
                  same.symm
            | succeeded | failed | cancelling | cancelled =>
                exact .done _
  | loaded arguments owner first second nowIso same =>
      have state : first.state = second.state := state_of_conceal same
      simp only [CancelRun.resume, found, found', rowToDocument, ← state]
      split
      · cases stored with
        | none =>
            cases Option.map_eq_none_iff.mp views.symm
            exact .done _
        | some row =>
            obtain ⟨other, rfl, sameRow⟩ :=
              Option.map_eq_some_iff.mp views.symm
            simp only [Option.map_some]
            split
            · exact .signalling arguments runId row other sameRow.symm
            · exact .done _
      · exact .done _
  | signalling arguments owner first second same =>
      simp only [CancelRun.resume]
      split
      · exact .killed arguments owner first second environment.now same
      · exact .done _
  | killed arguments owner first second nowIso same =>
      exact .done _
  | done outcome =>
      exact .done outcome

/-- Alike calls whose statements throw end alike, too. -/
theorem CallsAlike.raise
    {call other : CancelRun.Local}
    (alike : CallsAlike call other) :
    CallsAlike (CancelRun.raise call) (CancelRun.raise other) := by
  cases alike <;> exact .done _

/-- Two pools in which process 0 is at the same point of a cancel. -/
structure PoolsAlike (first second : RunPool) : Prop where
  databases : DatabasesAlike first.shared second.shared
  calls :
    ∃ call other,
      first.locals 0 = .cancelRun call ∧
        second.locals 0 = .cancelRun other ∧
        CallsAlike call other

/-- A statement of process 0 that is the same in both pools. -/
theorem PoolsAlike.moved
    {first second : RunPool}
    {input : RunInput}
    {statement : RunStatement}
    {runId : String}
    (alike : PoolsAlike first second)
    (issued : (first.locals 0).issue input = some statement)
    (issuedToo : (second.locals 0).issue input = some statement)
    (shape : CancelStatement runId statement)
    (goOn :
      ∀ {reply other : RunReply},
        RepliesAlike runId reply other →
        ∃ call after,
          (first.locals 0).resume input reply = .cancelRun call ∧
            (second.locals 0).resume input other = .cancelRun after ∧
            CallsAlike call after) :
    ∃ next other,
      runSystem.step? first (0, input) = some next ∧
        runSystem.step? second (0, input) = some other ∧
        PoolsAlike next other := by
  obtain ⟨firstNext, secondNext, reply, replyToo, executed, executedToo,
      databases, replies⟩ :=
    alike.databases.exec shape
  obtain ⟨call, after, resumed, resumedToo, calls⟩ := goOn replies
  refine ⟨_, _,
    System.step?_eq_some.mpr
      ⟨statement, firstNext, reply, issued, executed, rfl⟩,
    System.step?_eq_some.mpr
      ⟨statement, secondNext, replyToo, issuedToo, executedToo, rfl⟩,
    databases, call, after, ?_, ?_, calls⟩
  · change Function.update first.locals 0 _ 0 = _
    rw [Function.update_self]
    exact resumed
  · change Function.update second.locals 0 _ 0 = _
    rw [Function.update_self]
    exact resumedToo

/-- A step that is not enabled in one pool is not enabled in the other. -/
theorem PoolsAlike.step
    {first second : RunPool}
    (alike : PoolsAlike first second)
    (input : RunInput) :
    (runSystem.step? first (0, input) = none ∧
        runSystem.step? second (0, input) = none) ∨
      ∃ next other,
        runSystem.step? first (0, input) = some next ∧
          runSystem.step? second (0, input) = some other ∧
          PoolsAlike next other := by
  obtain ⟨call, other, calling, callingToo, calls⟩ := alike.calls
  have disabled
      (none₁ : (first.locals 0).issue input = none)
      (none₂ : (second.locals 0).issue input = none) :
      runSystem.step? first (0, input) = none ∧
        runSystem.step? second (0, input) = none := by
    constructor
    · simp only [System.step?, runSystem, none₁]
    · simp only [System.step?, runSystem, none₂]
  cases input with
  | start request =>
      left
      apply disabled
      · rw [calling]
        rfl
      · rw [callingToo]
        rfl
  | proceed environment =>
      obtain ⟨same, shapes⟩ := calls.issue environment
      cases issued : CancelRun.issue call environment with
      | none =>
          left
          apply disabled
          · rw [calling]
            exact issued
          · rw [callingToo]
            exact same.symm.trans issued
      | some statement =>
          right
          obtain ⟨runId, shape⟩ := shapes issued
          refine alike.moved (by rw [calling]; exact issued)
            (by rw [callingToo]; exact same.symm.trans issued) shape ?_
          intro reply replyToo replies
          refine ⟨_, _, by rw [calling]; rfl, by rw [callingToo]; rfl,
            calls.resume replies⟩
  | raise environment =>
      obtain ⟨same, -⟩ := calls.issue environment
      cases issued : CancelRun.issue call environment with
      | none =>
          left
          apply disabled
          · rw [calling]
            exact Option.map_eq_none_iff.mpr issued
          · rw [callingToo]
            exact Option.map_eq_none_iff.mpr (same.symm.trans issued)
      | some statement =>
          right
          have skips : CancelStatement "" .skip := .skip
          have thrown
              {thrower : CancelRun.Local}
              (awaited :
                CancelRun.issue thrower environment = some statement) :
              (RunCall.cancelRun thrower).issue (.raise environment) =
                some .skip :=
            Option.map_eq_some_iff.mpr ⟨statement, awaited, rfl⟩
          refine alike.moved (by rw [calling]; exact thrown issued)
            (by rw [callingToo]; exact thrown (same.symm.trans issued))
            skips ?_
          intro reply replyToo _
          exact ⟨_, _, by rw [calling]; rfl, by rw [callingToo]; rfl,
            calls.raise⟩

/-- The calls of two alike pools answer the same. -/
theorem PoolsAlike.response
    {first second : RunPool}
    (alike : PoolsAlike first second)
    (requestId : String) :
    cancelResponse requestId (first.locals 0) =
      cancelResponse requestId (second.locals 0) := by
  obtain ⟨call, other, calling, callingToo, calls⟩ := alike.calls
  rw [calling, callingToo]
  cases calls <;> rfl

theorem PoolsAlike.run
    {first second : RunPool}
    (alike : PoolsAlike first second)
    (requestId : String)
    (inputs : List RunInput) :
    ((runSystem.run? first (inputs.map fun input => (0, input))).bind
        fun pool => cancelResponse requestId (pool.locals 0)) =
      (runSystem.run? second (inputs.map fun input => (0, input))).bind
        fun pool => cancelResponse requestId (pool.locals 0) := by
  induction inputs generalizing first second with
  | nil =>
      exact alike.response requestId
  | cons input rest inductionHypothesis =>
      simp only [List.map_cons, System.run?]
      rcases alike.step input with
        ⟨stuck, stuckToo⟩ | ⟨next, other, stepped, steppedToo, alikeNext⟩
      · rw [stuck, stuckToo]
      · rw [stepped, steppedToo]
        exact inductionHypothesis alikeNext

/-- A cancel answers the same over stores that differ only in `dispatch_id`. -/
theorem cancel_eq
    {first second : JobRuns}
    (same : SameButDispatch first second)
    (requestId : String)
    (arguments : CancelRun.Arguments)
    (inputs : List RunInput) :
    cancel first requestId arguments inputs =
      cancel second requestId arguments inputs := by
  have started (rows : JobRuns) :
      ∃ pool,
        runSystem.step? (RunPool.initial rows)
            (0, .start (.cancelRun arguments)) = some pool ∧
          pool.locals 0 = .cancelRun (.start arguments) ∧
          pool.shared.database = .ofTable rows :=
    ⟨_, rfl, rfl, rfl⟩
  obtain ⟨pool, stepped, called, database⟩ := started first
  obtain ⟨other, steppedToo, calledToo, databaseToo⟩ := started second
  have alike : PoolsAlike pool other := by
    refine ⟨⟨?_, ?_, ?_⟩, _, _, called, calledToo, .start arguments⟩
    · rw [database, databaseToo]
      exact same
    · rw [database]
      rfl
    · rw [databaseToo]
      rfl
  simp only [cancel, cancelSchedule, System.run?, stepped, steppedToo]
  exact alike.run requestId inputs

end PublicRuns

/--
Over two stores that differ only in `dispatch_id`, the API answers a request
alike exactly when the runs it returns have the same `dispatch_id`s in both.
-/
theorem PublicRunRequest.respond_eq_iff
    {first second : JobRuns}
    (same : PublicRuns.SameButDispatch first second)
    (requestId : String)
    (request : PublicRunRequest) :
    request.respond first requestId = request.respond second requestId ↔
      PublicRuns.disclosed first request =
        PublicRuns.disclosed second request := by
  cases request with
  | getRun runId =>
      simp only [respond, Option.some.injEq]
      exact PublicRuns.getRun_eq_iff same runId
  | listRuns instanceId limit state =>
      simp only [respond, Option.some.injEq]
      exact PublicRuns.listRuns_eq_iff same requestId instanceId limit state
  | cancel arguments inputs =>
      exact iff_of_true
        (PublicRuns.cancel_eq same requestId arguments inputs) rfl

namespace PublicRuns

/-- The nightly run, claimed under this identifier. -/
def claimedNightly (dispatchId : String) : JobRuns :=
  (∅ : JobRuns).insert nightlyRunId
    { documentToRow (runNowDocument nightly 5 manualUuid) with
      state := .running
      dispatchId := some dispatchId }

theorem claimedNightly_sameButDispatch
    (first second : String) :
    SameButDispatch (claimedNightly first) (claimedNightly second) :=
  AList.ext rfl

end PublicRuns

/-- An operator cancels the claimed run. -/
def PublicRunRequest.cancelNightly : PublicRunRequest :=
  .cancel ⟨nightlyRunId, "", "operator", false⟩
    (List.replicate 2 (.proceed (environmentAt 8 unusedUuid)))

/-- The cancel is answered, and does not show the identifier of the claim. -/
theorem PublicRunRequest.respond_eq_iff_cancelNightly :
    (cancelNightly.respond (PublicRuns.claimedNightly "first")
        "request").map HttpResponse.status = some 202 ∧
      cancelNightly.respond (PublicRuns.claimedNightly "first") "request" =
        cancelNightly.respond (PublicRuns.claimedNightly "second")
          "request" :=
  ⟨by decide,
    (respond_eq_iff
      (PublicRuns.claimedNightly_sameButDispatch "first" "second")
      "request" cancelNightly).mpr (by decide)⟩

/-- `GET /job-runs/:runId` shows the identifier of the running claim. -/
theorem PublicRunRequest.getRun_discloses :
    PublicRuns.SameButDispatch (PublicRuns.claimedNightly "first")
        (PublicRuns.claimedNightly "second") ∧
      (PublicRunRequest.getRun nightlyRunId).respond
          (PublicRuns.claimedNightly "first") "request" ≠
        (PublicRunRequest.getRun nightlyRunId).respond
          (PublicRuns.claimedNightly "second") "request" := by
  refine ⟨PublicRuns.claimedNightly_sameButDispatch "first" "second", ?_⟩
  intro same
  have disclosed :=
    (PublicRuns.getRun_eq_iff
      (PublicRuns.claimedNightly_sameButDispatch "first" "second")
      nightlyRunId).mp (Option.some.inj same)
  exact absurd disclosed (by decide)

end IgaScheduler
