import IgaScheduler.ExecutionPipeline
import IgaScheduler.ResultProtocol
import IgaScheduler.WholeLetters

namespace IgaScheduler

/-!
# What is recorded of an execution

Both outcome writes carry what the job has written to its streams.  A column
of type `jsonb` refuses a null character and half of a surrogate pair, and what
is captured can have both: the first when the job writes it, the second when
the limit cuts a letter in two.  Then a job that has ended well is recorded as
failed, and a job that has failed stays `RUNNING`.
-/

open ExecutionMetadata (Built defined)
open ExitClassification (Closing EndedWell Execution buildResult onClose)
open JobRuntimeExecutor (Spawn)
open RetryClassifier (Classification classifyWorkerError)
open Tracing (Traced)
open Utf8Chunks (FirstHalf WholeLetters utf16)

namespace WorkerRunService

/-! ## Texts that a column takes -/

theorem withoutNullFields_append
    (first second : List (String × Json)) :
    withoutNullFields (first ++ second) =
      (withoutNullFields first && withoutNullFields second) := by
  induction first with
  | nil =>
      rfl
  | cons field rest inductionHypothesis =>
      obtain ⟨name, value⟩ := field
      rw [List.cons_append, withoutNullFields, withoutNullFields,
        inductionHypothesis, Bool.and_assoc _ _ (withoutNullFields second)]

/-- Fields that are `undefined` are not written. -/
theorem withoutNullFields_defined
    (fields : List (String × Option Json)) :
    withoutNullFields (defined fields) =
      fields.all fun (name, value) =>
        value.all fun value => '\x00' ∉ name.toList && withoutNull value := by
  induction fields with
  | nil =>
      rfl
  | cons field rest inductionHypothesis =>
      obtain ⟨name, value⟩ := field
      cases value with
      | none =>
          exact inductionHypothesis
      | some value =>
          change withoutNullFields ((name, value) :: defined rest) = _
          rw [withoutNullFields, inductionHypothesis]
          rfl

/-- Units of which the column can make a text. -/
structure StorableText (units : List Nat) : Prop where
  noNull : 0 ∉ units
  noHalf : ∀ last ∈ units.getLast?, ¬ FirstHalf last

theorem storableText_iff
    {units : List Nat}
    (whole : WholeLetters units)
    (count : Nat) :
    (∃ text,
        JavaScript.scalars? (units.take count) = some text ∧
          '\x00' ∉ text) ↔
      StorableText (units.take count) := by
  obtain ⟨kept, taken, read⟩ | ⟨unread, half, last, first⟩ :=
    JavaScript.scalars?_take whole count
  · have noHalf : ∀ last ∈ (units.take count).getLast?, ¬ FirstHalf last := by
      rw [taken]
      exact Utf8Chunks.getLast?_utf16 kept
    constructor
    · rintro ⟨text, readToo, noNull⟩
      cases read.symm.trans readToo
      refine ⟨?_, noHalf⟩
      rwa [taken, Utf8Chunks.zero_mem_utf16]
    · rintro ⟨noNull, -⟩
      rw [taken, Utf8Chunks.zero_mem_utf16] at noNull
      exact ⟨kept, read, noNull⟩
  · refine iff_of_false ?_ fun storable => storable.noHalf half last first
    rintro ⟨text, read, -⟩
    cases unread.symm.trans read

theorem storableText_capture
    (maxBytes : Nat)
    (chunks : List (List UInt8)) :
    (∃ text,
        JavaScript.scalars? (JobOutput.capture maxBytes chunks).value =
            some text ∧
          '\x00' ∉ text) ↔
      StorableText (JobOutput.capture maxBytes chunks).value := by
  rw [JobOutput.capture_value]
  exact storableText_iff (Utf8Chunks.wholeLetters_flatMap_decode chunks)
    maxBytes

/-- The texts of a result that the job has not written. -/
structure PlainTexts
    (job : ExitClassification.Job)
    (closing : Closing) :
    Prop where
  runId : '\x00' ∉ job.runId.toList
  runtime : '\x00' ∉ job.definition.runtime.toList
  runtimeVersion : '\x00' ∉ job.definition.runtimeVersion.toList
  entrypoint : job.definition.entrypoint.all withoutNull = true
  signal : withoutNull (PublicRuns.optionalText closing.signal) = true
  startedAt : '\x00' ∉ job.startedAt.toList
  endedAt : '\x00' ∉ closing.endedAt.toList

/-- What the streams of a job and its output have to be. -/
structure Storable (closing : Closing) (output : Json) : Prop where
  stdout : StorableText closing.stdout.value
  stderr : StorableText closing.stderr.value
  output : withoutNull output = true

theorem jsonb_isSome
    {value : Option Json} :
    (jsonb value).isSome = true ↔
      ∃ json, value = some json ∧ withoutNull json = true := by
  rw [jsonb, Option.isSome_filter, Option.any_eq_true]

theorem jsonb_normalizeExecutionResult
    {settings : JobRuntimeExecutor.Settings}
    {job : ExitClassification.Job}
    {closing : Closing}
    {output : Json}
    (plain : PlainTexts job closing) :
    (jsonb (normalizeExecutionResult
        (buildResult settings job closing output))).isSome = true ↔
      (∃ text,
        JavaScript.scalars? closing.stdout.value = some text ∧
          '\x00' ∉ text) ∧
      (∃ text,
        JavaScript.scalars? closing.stderr.value = some text ∧
          '\x00' ∉ text) ∧
      withoutNull output = true := by
  rw [jsonb_isSome, normalizeExecutionResult, buildResult]
  dsimp only
  cases JavaScript.scalars? closing.stdout.value with
  | none =>
      simp
  | some stdout =>
      cases JavaScript.scalars? closing.stderr.value with
      | none =>
          simp
      | some stderr =>
          have exitCode :
              withoutNull ((closing.exitCode.map fun code =>
                Json.num code 0).getD .null) = true := by
            cases closing.exitCode <;> rfl
          have status :
              '\x00' ∉ (if closing.exitCode = some 0 ∧
                  closing.timedOut = false then
                "completed" else "failed").toList := by
            split <;> decide
          simp [withoutNull, withoutNullFields_defined, status, plain.runId,
            plain.runtime, plain.runtimeVersion, plain.entrypoint,
            plain.signal, plain.startedAt, plain.endedAt, exitCode]

/-- An error takes what its result takes. -/
theorem jsonb_serializeError
    {error : WorkerFailure}
    {classification : Classification}
    {result : Execution}
    (carried : error.execution = some result)
    (code : error.fields.code.all withoutNull = true)
    (message : '\x00' ∉ error.message.toList)
    (retry : withoutNull (retryJson classification) = true) :
    (jsonb (serializeError error classification)).isSome =
      (jsonb (normalizeExecutionResult result)).isSome := by
  rw [Bool.eq_iff_iff, jsonb_isSome, jsonb_isSome, serializeError, carried]
  cases kept : normalizeExecutionResult result with
  | none =>
      simp [kept]
  | some normalized =>
      simp [kept, withoutNull, withoutNullFields_defined,
        withoutNullFields_append, withoutNullFields, code, message, retry]

/-! ## The texts of the errors -/

theorem append_noNull
    {first second : String}
    (plain : '\x00' ∉ first.toList)
    (plainToo : '\x00' ∉ second.toList) :
    '\x00' ∉ (first ++ second).toList := by
  rw [String.toList_append, List.mem_append, not_or]
  exact ⟨plain, plainToo⟩

theorem toString_noNull (value : Int) :
    '\x00' ∉ (toString value).toList := by
  have digits (magnitude : Nat) : '\x00' ∉ magnitude.repr.toList := by
    rw [Nat.repr, String.toList_ofList]
    intro member
    have digit : Char.isDigit '\x00' = true :=
      Nat.isDigit_of_mem_toDigits (by decide) (by decide) member
    exact absurd digit (by decide)
  rw [Int.toString_eq_repr, Int.repr_eq_if]
  split
  · exact digits _
  · exact append_noNull (by decide) (digits _)

/-- An error that carries a result, and is raised behind the process. -/
theorem jsonb_retryable
    {code message : String}
    {result : Execution}
    (plainCode : '\x00' ∉ code.toList)
    (plainMessage : '\x00' ∉ message.toList) :
    let error :=
      executionFailure
        { code, message, retryable := true, execution := some result }
    (jsonb (serializeError error
        (classifyWorkerError error.fields))).isSome =
      (jsonb (normalizeExecutionResult result)).isSome := by
  refine jsonb_serializeError rfl ?_ plainMessage ?_
  · exact decide_eq_true plainCode
  · -- the flag of the error decides, so the reason is always the same
    have reason :
        withoutNull (retryJson (RetryClassifier.classification true
          "explicit_error_retryable_flag")) = true := by
      decide
    exact reason

section Closed

variable {parse : List Nat → Except String Json}
variable {settings : JobRuntimeExecutor.Settings}
variable {limits : JobOutput.Limits}
variable {job : ExitClassification.Job}
variable {closing : Closing}
variable {output : Json}

variable (settings job) in
/-- A failure that is reported can be stored when its result can. -/
theorem jsonb_executionFailure
    (read :
      JobOutput.parseResult parse limits closing.stdout.value = .ok output)
    (failed : ¬ EndedWell closing) :
    ∃ error,
      onClose parse settings limits job closing = .error error ∧
        (jsonb (serializeError (executionFailure error)
            (classifyWorkerError (executionFailure error).fields))).isSome =
          (jsonb (normalizeExecutionResult
            (buildResult settings job closing output))).isSome := by
  have shape := ExitClassification.onClose_of_output settings job read
  have timeout :
      '\x00' ∉ ("job process exceeded timeout of " ++
        toString job.timeoutSeconds ++ " seconds").toList :=
    append_noNull (append_noNull (by decide) (toString_noNull _)) (by decide)
  have exited :
      '\x00' ∉ ("job process exited with code " ++
        (closing.exitCode.map toString).getD "null").toList := by
    refine append_noNull (by decide) ?_
    cases closing.exitCode with
    | none => decide
    | some code => exact toString_noNull code
  split at shape
  · exact ⟨_, shape, jsonb_retryable (by decide) timeout⟩
  · rename_i inTime
    split at shape
    · exact ⟨_, shape, jsonb_retryable (by decide) exited⟩
    · rename_i success
      exact absurd ⟨not_not.mp success, Bool.eq_false_iff.mpr inTime⟩ failed

end Closed

/-! ## The row behind an execution -/

/-- An effect that is no statement on the row. -/
def Effect.quiet : Effect → Prop
  | .wrote _ => False
  | _ => True

theorem rowAfter_append
    (row : JobRun)
    (first second : List Effect) :
    rowAfter row (first ++ second) = rowAfter (rowAfter row first) second :=
  List.foldl_append

theorem rowAfter_quiet
    {effects : List Effect}
    (quiet : ∀ effect ∈ effects, effect.quiet)
    (row : JobRun) :
    rowAfter row effects = row := by
  induction effects with
  | nil =>
      rfl
  | cons effect rest inductionHypothesis =>
      obtain ⟨first, others⟩ := List.forall_mem_cons.mp quiet
      cases effect with
      | wrote write => exact first.elim
      | audited event => exact inductionHypothesis others
      | accessed access => exact inductionHypothesis others

section Executions

variable {β : Type}
variable {worker : Worker β}
variable {run : RunDocument}
variable {row : JobRun}
variable {startedAt : Timestamp}

theorem prepare_quiet :
    (prepare worker run startedAt).Leaves Effect.quiet := by
  refine (Traced.Leaves.ofExcept _).bind fun execution => ?_
  refine (Traced.Leaves.emit trivial).bind fun _ => ?_
  refine (Traced.Leaves.ofExcept _).bind fun verification => ?_
  refine (Traced.Leaves.emit trivial).bind fun _ => ?_
  exact (Traced.Leaves.emit trivial).bind fun _ => .ofExcept _

theorem runJob_quiet (prepared : Prepared β) :
    (runJob worker run prepared).Leaves Effect.quiet := by
  refine Traced.Leaves.bind ?_ fun params => ?_
  · intro effect member
    obtain ⟨access, -, rfl⟩ := List.mem_map.mp member
    trivial
  · exact (Traced.Leaves.ofExcept _).bind fun spawn => .ofExcept _

/-- What follows a statement leaves the row as the statement has made it. -/
theorem rowAfter_bind
    {α γ : Type}
    {first : Step α}
    {next : α → Step γ}
    (quiet : ∀ value, (next value).Leaves Effect.quiet)
    (row : JobRun) :
    rowAfter row (first >>= next).effects = rowAfter row first.effects := by
  rcases first with ⟨effects, outcome⟩
  cases outcome with
  | error error =>
      rw [Traced.bind_of_error rfl]
  | ok value =>
      rw [Traced.bind_of_ok rfl, rowAfter_append, rowAfter_quiet (quiet value)]

/-- The column decides whether the statement is taken. -/
theorem update_of_refused
    {column : Option Json}
    (refused : (jsonb column).isSome = false)
    (write : Json → RunWrite) :
    update worker (some row) column write =
      Traced.ofExcept (.error worker.refusal) := by
  have nothing : jsonb column = none :=
    Option.isNone_iff_eq_none.mp (Option.isSome_eq_false_iff.mp refused)
  rw [update, nothing]

variable (worker row) in
theorem update_of_taken
    {column : Option Json}
    (taken : (jsonb column).isSome = true)
    (write : Json → RunWrite) :
    ∃ value,
      update worker (some row) column write =
        ⟨[.wrote (write value)], .ok ((write value).update.guard row)⟩ := by
  obtain ⟨value, stored⟩ := Option.isSome_iff_exists.mp taken
  refine ⟨value, ?_⟩
  rw [update, stored]
  rfl

/-- The run is still that of the dispatch. -/
structure Held (run : RunDocument) (row : JobRun) : Prop where
  running : row.state = .running
  fenced : RunStore.fencing run.dispatchId row = true

/-- Both outcome writes have this guard. -/
theorem Held.admitted (held : Held run row) :
    (row.state = .running && RunStore.fencing run.dispatchId row) = true :=
  Bool.and_eq_true_iff.mpr ⟨decide_eq_true held.running, held.fenced⟩

theorem apply_markSucceeded
    (held : Held run row)
    (endedAt : Timestamp)
    (result : Option Json) :
    ((RunWrite.markSucceeded endedAt result none
      run.dispatchId).update.apply row).state = .succeeded :=
  congrArg JobRun.state (if_pos held.admitted)

theorem apply_markFailed
    (held : Held run row)
    (endedAt : Timestamp)
    (error : Option Json) :
    ((RunWrite.markFailed endedAt error none
      run.dispatchId).update.apply row).state = .failed :=
  congrArg JobRun.state (if_pos held.admitted)

variable (worker startedAt) in
/-- A failure that can be stored ends the run; another leaves the row. -/
theorem rowAfter_recover
    (held : Held run row)
    (error : WorkerFailure) :
    let final :=
      rowAfter row (recover worker run (some row) startedAt error).effects
    let stored :=
      (jsonb (serializeError error
        (classifyWorkerError error.fields))).isSome
    (stored = true → final.state = .failed) ∧
      (stored = false → final = row) := by
  intro final stored
  have written :
      final =
        rowAfter row (markFailed worker run (some row) error
          (classifyWorkerError error.fields)).effects :=
    rowAfter_bind (fun _ => (Traced.Leaves.emit trivial).bind fun _ =>
      .ofExcept _) row
  rw [written, markFailed]
  constructor
  · intro taken
    obtain ⟨value, updated⟩ :=
      update_of_taken worker row taken fun error =>
        .markFailed worker.failedAt (some error) none run.dispatchId
    rw [updated]
    exact apply_markFailed held worker.failedAt (some value)
  · intro refused
    rw [update_of_refused refused]
    rfl

variable (worker startedAt) in
/-- A result that can be stored ends the run; another throws. -/
theorem rowAfter_reportSuccess
    (held : Held run row)
    (prepared : Prepared β)
    (result : Execution) :
    let report :=
      reportSuccess worker run (some row) startedAt prepared result
    let stored := (jsonb (normalizeExecutionResult result)).isSome
    (stored = true →
        report.outcome = .ok .completed ∧
          (rowAfter row report.effects).state = .succeeded) ∧
      (stored = false →
        report = Traced.ofExcept (.error worker.refusal)) := by
  constructor
  · intro taken
    obtain ⟨value, updated⟩ :=
      update_of_taken worker row taken fun result =>
        .markSucceeded worker.endedAt (some result) none run.dispatchId
    have admitted :
        (RunWrite.markSucceeded worker.endedAt (some value) none
          run.dispatchId).update.guard row = true :=
      held.admitted
    rw [admitted] at updated
    unfold reportSuccess markSucceeded
    rw [updated, Traced.bind_of_ok rfl, if_pos rfl]
    exact ⟨rfl, apply_markSucceeded held worker.endedAt (some value)⟩
  · intro refused
    unfold reportSuccess markSucceeded
    rw [update_of_refused refused, Traced.bind_of_error rfl]
    rfl

/-! ## The whole execution -/

/-- The job was started, and its process has closed. -/
structure ProcessClosed
    (worker : Worker β)
    (run : RunDocument)
    (startedAt : Timestamp)
    (prepared : Prepared β)
    (close : Close) :
    Prop where
  prepares : (prepare worker run startedAt).outcome = .ok prepared
  started :
    ∃ params spawn,
      (resolveRuntimeParameters worker run).outcome = .ok params ∧
        launch worker run prepared.execution prepared.verification params =
          .ok spawn ∧
        worker.process spawn = .closed close

variable {prepared : Prepared β}
variable {close : Close}

theorem before_quiet
    (worker : Worker β)
    (run : RunDocument)
    (startedAt : Timestamp)
    (prepared : Prepared β) :
    ∀ effect ∈ (prepare worker run startedAt).effects ++
        (runJob worker run prepared).effects,
      effect.quiet :=
  List.forall_mem_append.mpr ⟨prepare_quiet, runJob_quiet prepared⟩

theorem runJob_of_closed
    (ended : ProcessClosed worker run startedAt prepared close) :
    (runJob worker run prepared).outcome =
      settle worker run prepared.execution (.closed close) := by
  obtain ⟨params, spawn, resolved, launched, closed⟩ := ended.started
  unfold runJob
  rw [Traced.bind_of_ok resolved, launched, Traced.bind_of_ok rfl, closed]
  rfl

variable (row) in
/-- A failed job is what the `try` block throws. -/
theorem attempt_of_error
    {error : WorkerFailure}
    (ended : ProcessClosed worker run startedAt prepared close)
    (failed :
      settle worker run prepared.execution (.closed close) = .error error) :
    ∃ effects : List Effect,
      (∀ effect ∈ effects, effect.quiet) ∧
        attempt worker run (some row) startedAt = ⟨effects, .error error⟩ := by
  have job := (runJob_of_closed ended).trans failed
  refine ⟨_, before_quiet worker run startedAt prepared, ?_⟩
  unfold attempt
  rw [Traced.bind_of_ok ended.prepares, Traced.bind_of_error job]

variable (row) in
/-- The result of a job is reported. -/
theorem attempt_of_ok
    {result : Execution}
    (ended : ProcessClosed worker run startedAt prepared close)
    (completed :
      settle worker run prepared.execution (.closed close) = .ok result) :
    let report :=
      reportSuccess worker run (some row) startedAt prepared result
    ∃ effects : List Effect,
      (∀ effect ∈ effects, effect.quiet) ∧
        attempt worker run (some row) startedAt =
          ⟨effects ++ report.effects, report.outcome⟩ := by
  have job := (runJob_of_closed ended).trans completed
  refine ⟨_, before_quiet worker run startedAt prepared, ?_⟩
  unfold attempt
  rw [Traced.bind_of_ok ended.prepares, Traced.bind_of_ok job,
    List.append_assoc]

/-- What the `try` block throws is recorded by the `catch` block. -/
theorem rowAfter_of_thrown
    {effects : List Effect}
    {error : WorkerFailure}
    (quiet : ∀ effect ∈ effects, effect.quiet)
    (thrown :
      attempt worker run (some row) startedAt = ⟨effects, .error error⟩) :
    rowAfter row (runClaimedLocally worker run (some row) startedAt).effects =
      rowAfter row
        (recover worker run (some row) startedAt error).effects := by
  rw [runClaimedLocally, thrown, Traced.orCatch_of_error rfl, rowAfter_append,
    rowAfter_quiet quiet]

/-- The result of a job whose result line is read. -/
def closedResult
    (worker : Worker β)
    (run : RunDocument)
    (execution : Built)
    (close : Close)
    (output : Json) :
    Execution :=
  buildResult worker.settings.toSettings
    (spawnedJob worker run execution close.startedAt) (worker.closing close)
    output

theorem jsonb_closedResult
    {execution : Built}
    (output : Json)
    (plain :
      PlainTexts (spawnedJob worker run execution close.startedAt)
        (worker.closing close)) :
    (jsonb (normalizeExecutionResult
        (closedResult worker run execution close output))).isSome = true ↔
      Storable (worker.closing close) output := by
  rw [closedResult, jsonb_normalizeExecutionResult plain]
  have stdout :=
    storableText_capture worker.limits.maxStdoutBytes close.stdout
  have stderr := storableText_capture worker.maxStderrBytes close.stderr
  constructor
  · rintro ⟨stdoutStored, stderrStored, outputStored⟩
    exact ⟨stdout.mp stdoutStored, stderr.mp stderrStored, outputStored⟩
  · rintro ⟨stdoutStored, stderrStored, outputStored⟩
    exact ⟨stdout.mpr stdoutStored, stderr.mpr stderrStored, outputStored⟩

section Recorded

variable {output : Json}

/-- A job that has ended well, by what the column makes of its result. -/
theorem rowAfter_endedWell
    (ended : ProcessClosed worker run startedAt prepared close)
    (read :
      JobOutput.parseResult worker.parse worker.limits
        (worker.closing close).stdout.value = .ok output)
    (plain :
      PlainTexts (spawnedJob worker run prepared.execution close.startedAt)
        (worker.closing close))
    (refusalStored :
      (jsonb (serializeError worker.refusal
        (classifyWorkerError worker.refusal.fields))).isSome = true)
    (held : Held run row)
    (well : EndedWell (worker.closing close)) :
    let final :=
      rowAfter row (runClaimedLocally worker run (some row) startedAt).effects
    (Storable (worker.closing close) output → final.state = .succeeded) ∧
      (¬ Storable (worker.closing close) output →
        final.state = .failed) := by
  have completed :
      settle worker run prepared.execution (.closed close) =
        .ok (closedResult worker run prepared.execution close output) := by
    rw [settle, ExitClassification.onClose_of_output _ _ read, well.1, well.2]
    rfl
  obtain ⟨effects, quiet, attempted⟩ :=
    attempt_of_ok row ended completed
  obtain ⟨taken, refused⟩ :=
    rowAfter_reportSuccess worker startedAt held prepared
      (closedResult worker run prepared.execution close output)
  rw [jsonb_closedResult output plain] at taken
  constructor
  · intro storable
    obtain ⟨ended, succeeded⟩ := taken storable
    rw [ended] at attempted
    rw [runClaimedLocally, attempted, Traced.orCatch_of_ok rfl,
      rowAfter_append, rowAfter_quiet quiet]
    exact succeeded
  · intro unstorable
    have thrown := refused
      (Bool.eq_false_iff.mpr fun stored =>
        unstorable ((jsonb_closedResult output plain).mp stored))
    rw [thrown] at attempted
    rw [rowAfter_of_thrown
      (List.forall_mem_append.mpr ⟨quiet, Traced.Leaves.ofExcept _⟩) attempted]
    exact (rowAfter_recover worker startedAt held worker.refusal).1
      refusalStored

/-- A job that has failed, by what the column makes of its error. -/
theorem rowAfter_failed
    (ended : ProcessClosed worker run startedAt prepared close)
    (read :
      JobOutput.parseResult worker.parse worker.limits
        (worker.closing close).stdout.value = .ok output)
    (plain :
      PlainTexts (spawnedJob worker run prepared.execution close.startedAt)
        (worker.closing close))
    (held : Held run row)
    (failed : ¬ EndedWell (worker.closing close)) :
    let final :=
      rowAfter row (runClaimedLocally worker run (some row) startedAt).effects
    (Storable (worker.closing close) output → final.state = .failed) ∧
      (¬ Storable (worker.closing close) output → final = row) := by
  obtain ⟨error, reported, stored⟩ :=
    jsonb_executionFailure worker.settings.toSettings
      (spawnedJob worker run prepared.execution close.startedAt) read failed
  have settled :
      settle worker run prepared.execution (.closed close) =
        .error (executionFailure error) := by
    rw [settle, reported]
    rfl
  obtain ⟨effects, quiet, attempted⟩ :=
    attempt_of_error row ended settled
  obtain ⟨taken, refused⟩ :=
    rowAfter_recover worker startedAt held (executionFailure error)
  have storable := jsonb_closedResult output plain
  rw [closedResult, ← stored] at storable
  rw [storable] at taken
  rw [rowAfter_of_thrown quiet attempted]
  refine ⟨taken, fun unstorable => refused ?_⟩
  exact Bool.eq_false_iff.mpr fun kept => unstorable (storable.mp kept)

/--
A run whose process has closed stays as it is exactly when the process has
failed and its streams cannot be stored; it is recorded as succeeded exactly
when the process has ended well and they can.
-/
theorem outcome_recorded_iff
    (ended : ProcessClosed worker run startedAt prepared close)
    (read :
      JobOutput.parseResult worker.parse worker.limits
        (worker.closing close).stdout.value = .ok output)
    (plain :
      PlainTexts (spawnedJob worker run prepared.execution close.startedAt)
        (worker.closing close))
    (refusalStored :
      (jsonb (serializeError worker.refusal
        (classifyWorkerError worker.refusal.fields))).isSome = true)
    (held : Held run row) :
    let final :=
      rowAfter row (runClaimedLocally worker run (some row) startedAt).effects
    let closing := worker.closing close
    (final.state = .succeeded ↔
        EndedWell closing ∧ Storable closing output) ∧
      (final.state = .failed ↔
        (EndedWell closing ↔ ¬ Storable closing output)) ∧
      (final = row ↔ ¬ EndedWell closing ∧ ¬ Storable closing output) := by
  intro final closing
  have running := held.running
  have changed {state : RunState}
      (written : final.state = state)
      (other : state ≠ .running) :
      final ≠ row := by
    intro same
    rw [same, running] at written
    exact other written.symm
  by_cases well : EndedWell closing
  · obtain ⟨taken, refused⟩ :=
      rowAfter_endedWell ended read plain refusalStored held well
    by_cases storable : Storable closing output
    · have state : final.state = .succeeded := taken storable
      simp [state, well, storable, changed state]
    · have state : final.state = .failed := refused storable
      simp [state, well, storable, changed state]
  · obtain ⟨taken, refused⟩ := rowAfter_failed ended read plain held well
    by_cases storable : Storable closing output
    · have state : final.state = .failed := taken storable
      simp [state, well, storable, changed state]
    · have same : final = row := refused storable
      simp [same, running, well, storable]

end Recorded

end Executions

/-! ## A job that writes a null character -/

def nullWritten : Close :=
  nightlyClose [[0]] 1

/-- The job has failed, and its run is still running. -/
theorem outcome_recorded_null :
    rowAfter nightlyClaim
        (runClaimedLocally (nightlyWorker nullWritten)
          (rowToDocument "nightly:2025-08-01T12" nightlyClaim)
          (some nightlyClaim) 1754049601000).effects =
      nightlyClaim := by
  have ended :
      ProcessClosed (nightlyWorker nullWritten)
        (rowToDocument "nightly:2025-08-01T12" nightlyClaim) 1754049601000 _
        nullWritten :=
    ⟨by rfl, [("token", .secret [115])], _, by rfl, by rfl, by rfl⟩
  have unstorable :
      ¬ Storable ((nightlyWorker nullWritten).closing nullWritten) .null :=
    fun storable => storable.stdout.noNull List.mem_cons_self
  have failed : ¬ EndedWell ((nightlyWorker nullWritten).closing nullWritten) :=
    fun well => absurd well.1 (by decide)
  exact (outcome_recorded_iff ended (by rfl)
    ⟨by decide, by decide, by decide, by decide, by decide, by decide,
      by decide⟩
    (by decide) ⟨rfl, rfl⟩).2.2.mpr ⟨failed, unstorable⟩

end WorkerRunService

end IgaScheduler
