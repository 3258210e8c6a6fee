import IgaScheduler.JobExecution
import IgaScheduler.JobOutput
import IgaScheduler.RetryClassifier

namespace IgaScheduler

/-!
# How the end of a process is reported

The `close` handler of `_spawnEntrypoint` with everything it puts into its
result.  It reads the result line before it looks at how the process ended, so
a line that cannot be read hides a timeout or an exit code.
-/

namespace ExitClassification

open JobOutput (Captured Limits byteLength capture parsePayload parseResult
  resultPrefix)
open JobRuntimeExecutor (ExecutionDefinition Settings effectiveMemoryLimitMb)
open RetryClassifier (WorkerError classifyWorkerError)
open Utf8Chunks (utf16)

/-- What `_spawnEntrypoint` knows of a process before it has ended. -/
structure Job where
  runId : String
  definition : ExecutionDefinition
  timeoutSeconds : Int
  startedAt : String

/-- What the events of a process have left when it is closed. -/
structure Closing where
  stdout : Captured
  stderr : Captured
  exitCode : Option Int
  signal : Option String
  timedOut : Bool
  endedAt : String

/-- The result that the promise is fulfilled with, or that an error carries. -/
structure Execution where
  status : String
  runId : String
  runtime : String
  runtimeVersion : String
  entrypoint : Option Json
  exitCode : Option Int
  signal : Option String
  timedOut : Bool
  timeoutSeconds : Int
  memoryLimitMb : Int
  stdout : List Nat
  stderr : List Nat
  stdoutTruncated : Bool
  stderrTruncated : Bool
  output : Json
  startedAt : String
  endedAt : String

structure ExecutionError where
  code : String
  message : String
  retryable : Bool
  execution : Option Execution

/-- The thrown value, as the classifier reads it. -/
def ExecutionError.thrown (error : ExecutionError) : WorkerError :=
  { retryable := some (.bool error.retryable)
    code := some (.str error.code) }

section Closed

-- `JSON.parse(text)`.
variable (parse : List Nat → Except String Json)
variable (settings : Settings)
variable (limits : Limits)
variable (job : Job)

def buildResult (closing : Closing) (output : Json) : Execution where
  status :=
    if closing.exitCode = some 0 && !closing.timedOut then "completed"
    else "failed"
  runId := job.runId
  runtime := job.definition.runtime
  runtimeVersion := job.definition.runtimeVersion
  entrypoint := job.definition.entrypoint
  exitCode := closing.exitCode
  signal := closing.signal
  timedOut := closing.timedOut
  timeoutSeconds := job.timeoutSeconds
  memoryLimitMb := effectiveMemoryLimitMb settings job.definition.memoryMb
  stdout := closing.stdout.value
  stderr := closing.stderr.value
  stdoutTruncated := closing.stdout.truncated
  stderrTruncated := closing.stderr.truncated
  output
  startedAt := job.startedAt
  endedAt := closing.endedAt

/-- The handler of `close`, for a promise that is not settled yet. -/
def onClose (closing : Closing) : Except ExecutionError Execution :=
  match parseResult parse limits closing.stdout.value with
  | .error error =>
      .error {
        code := error.code
        message := error.message
        retryable := error.retryable
        execution := none }
  | .ok output =>
      let result := buildResult settings job closing output
      if closing.timedOut then
        .error {
          code := "RUNTIME_PROCESS_TIMED_OUT"
          message := "job process exceeded timeout of " ++
            toString job.timeoutSeconds ++ " seconds"
          retryable := true
          execution := some result }
      else if closing.exitCode ≠ some 0 then
        .error {
          code := "RUNTIME_PROCESS_EXITED_NON_ZERO"
          message := "job process exited with code " ++
            (closing.exitCode.map toString).getD "null"
          retryable := true
          execution := some result }
      else
        .ok result

end Closed

/-! ## The property -/

/-- An error that says how the process ended and what it has written. -/
structure Reports
    (closing : Closing)
    (code : String)
    (error : ExecutionError) :
    Prop where
  code : error.code = code
  retryable : (classifyWorkerError error.thrown).retryable = true
  details :
    ∃ result,
      error.execution = some result ∧
        result.exitCode = closing.exitCode ∧
        result.signal = closing.signal ∧
        result.timedOut = closing.timedOut ∧
        result.stdout = closing.stdout.value ∧
        result.stderr = closing.stderr.value ∧
        result.stdoutTruncated = closing.stdout.truncated ∧
        result.stderrTruncated = closing.stderr.truncated

def resultErrorCodes : List String :=
  ["RUNTIME_RESULT_OUTPUT_TOO_LARGE", "RUNTIME_RESULT_JSON_INVALID"]

section Classified

-- `JSON.parse(text)`.
variable (parse : List Nat → Except String Json)
variable (settings : Settings)
variable (limits : Limits)
variable (job : Job)
variable (closing : Closing)

/-- What is reported is how the process ended, whatever it has written. -/
structure ClassifiedByExit : Prop where
  timedOut :
    closing.timedOut = true →
      ∃ error,
        onClose parse settings limits job closing = .error error ∧
          Reports closing "RUNTIME_PROCESS_TIMED_OUT" error
  exited :
    closing.timedOut = false →
    closing.exitCode ≠ some 0 →
      ∃ error,
        onClose parse settings limits job closing = .error error ∧
          Reports closing "RUNTIME_PROCESS_EXITED_NON_ZERO" error
  unreadable :
    ∀ error,
      onClose parse settings limits job closing = .error error →
      error.code ∈ resultErrorCodes →
        closing.exitCode = some 0 ∧
          closing.timedOut = false ∧
          (classifyWorkerError error.thrown).retryable = false

/-- The process has ended by itself and without a failure. -/
def EndedWell : Prop :=
  closing.exitCode = some 0 ∧ closing.timedOut = false

/-- The first line with the prefix, if there is one, can be read. -/
def ReadableResultLine (stdout : List Nat) : Prop :=
  ∀ line,
    ((TextLines.lines 10 13 stdout).find? fun line =>
        (utf16 resultPrefix).isPrefixOf line) = some line →
      byteLength (line.drop (utf16 resultPrefix).length) ≤
          limits.maxResultOutputBytes ∧
        ∃ value, parse (line.drop (utf16 resultPrefix).length) = .ok value

end Classified

/-! ## The result line -/

section Lines

variable {parse : List Nat → Except String Json}
variable {settings : Settings}
variable {limits : Limits}
variable {job : Job}
variable {closing : Closing}

theorem parsePayload_eq_ok
    {payload : List Nat} :
    (∃ value, parsePayload parse limits payload = .ok value) ↔
      byteLength payload ≤ limits.maxResultOutputBytes ∧
        ∃ value, parse payload = .ok value := by
  unfold parsePayload
  by_cases large : limits.maxResultOutputBytes < byteLength payload
  · rw [if_pos large]
    refine iff_of_false ?_ fun fits => absurd fits.1 (by omega)
    rintro ⟨value, impossible⟩
    cases impossible
  · rw [if_neg large, and_iff_right (by omega)]
    cases parse payload with
    | ok value => exact ⟨fun _ => ⟨value, rfl⟩, fun _ => ⟨value, rfl⟩⟩
    | error message =>
        constructor
        · rintro ⟨value, impossible⟩
          cases impossible
        · rintro ⟨value, impossible⟩
          cases impossible

theorem parseResult_eq_ok
    {stdout : List Nat} :
    (∃ value, parseResult parse limits stdout = .ok value) ↔
      ReadableResultLine parse limits stdout := by
  unfold parseResult ReadableResultLine
  dsimp only
  cases found : (TextLines.lines 10 13 stdout).find? fun line =>
      (utf16 resultPrefix).isPrefixOf line with
  | none =>
      refine iff_of_true ⟨.null, rfl⟩ ?_
      rintro line ⟨⟩
  | some line =>
      rw [parsePayload_eq_ok]
      constructor
      · rintro readable other ⟨⟩
        exact readable
      · intro readable
        exact readable line rfl

/-- A line that cannot be read is an error that is final and says no more. -/
theorem parseResult_error
    {stdout : List Nat}
    {error : JobOutput.ExecutionError}
    (refused : parseResult parse limits stdout = .error error) :
    error.code ∈ resultErrorCodes ∧
      error.retryable = false ∧ error.execution = none := by
  unfold parseResult at refused
  dsimp only at refused
  split at refused
  · cases refused
  · unfold parsePayload at refused
    split at refused
    · cases refused
      exact ⟨List.mem_cons_self, rfl, rfl⟩
    · split at refused
      · cases refused
      · cases refused
        exact ⟨List.mem_cons_of_mem _ List.mem_cons_self, rfl, rfl⟩

/-! ## The handler -/

variable (settings job) in
theorem onClose_of_output
    {output : Json}
    (read : parseResult parse limits closing.stdout.value = .ok output) :
    onClose parse settings limits job closing =
      if closing.timedOut then
        .error {
          code := "RUNTIME_PROCESS_TIMED_OUT"
          message := "job process exceeded timeout of " ++
            toString job.timeoutSeconds ++ " seconds"
          retryable := true
          execution := some (buildResult settings job closing output) }
      else if closing.exitCode ≠ some 0 then
        .error {
          code := "RUNTIME_PROCESS_EXITED_NON_ZERO"
          message := "job process exited with code " ++
            (closing.exitCode.map toString).getD "null"
          retryable := true
          execution := some (buildResult settings job closing output) }
      else
        .ok (buildResult settings job closing output) := by
  rw [onClose, read]

variable (settings job) in
/-- An unreadable line is all that is reported. -/
theorem onClose_of_unreadable
    {error : JobOutput.ExecutionError}
    (refused : parseResult parse limits closing.stdout.value = .error error) :
    ∃ reported,
      onClose parse settings limits job closing = .error reported ∧
        reported.code ∈ resultErrorCodes ∧
        (classifyWorkerError reported.thrown).retryable = false := by
  obtain ⟨code, final, -⟩ := parseResult_error refused
  refine ⟨_, by rw [onClose, refused], code, ?_⟩
  have flagged :
      (ExecutionError.thrown
        { code := error.code
          message := error.message
          retryable := error.retryable
          execution := none }).retryable =
        some (.bool false) := by
    rw [ExecutionError.thrown, final]
  rw [RetryClassifier.classifyWorkerError_of_flag flagged]
  rfl

theorem reports_buildResult
    {code message : String}
    {output : Json} :
    Reports closing code
      { code
        message
        retryable := true
        execution := some (buildResult settings job closing output) } where
  code := rfl
  retryable := rfl
  details := ⟨_, rfl, rfl, rfl, rfl, rfl, rfl, rfl, rfl⟩

theorem classified_of_readable
    {output : Json}
    (read : parseResult parse limits closing.stdout.value = .ok output) :
    ClassifiedByExit parse settings limits job closing := by
  have shape := onClose_of_output settings job read
  refine ⟨?_, ?_, ?_⟩
  · intro timedOut
    rw [timedOut, if_pos rfl] at shape
    exact ⟨_, shape, reports_buildResult⟩
  · intro inTime failed
    rw [inTime, if_neg Bool.false_ne_true, if_pos failed] at shape
    exact ⟨_, shape, reports_buildResult⟩
  · have notTimeout : "RUNTIME_PROCESS_TIMED_OUT" ∉ resultErrorCodes := by
      decide
    have notExit : "RUNTIME_PROCESS_EXITED_NON_ZERO" ∉ resultErrorCodes := by
      decide
    intro error rejected code
    rw [shape] at rejected
    split at rejected
    · cases rejected
      exact absurd code notTimeout
    · split at rejected
      · cases rejected
        exact absurd code notExit
      · cases rejected

theorem classified_of_endedWell
    (well : EndedWell closing) :
    ClassifiedByExit parse settings limits job closing := by
  cases read : parseResult parse limits closing.stdout.value with
  | ok output =>
      exact classified_of_readable read
  | error error =>
      obtain ⟨reported, shape, -, final⟩ :=
        onClose_of_unreadable settings job read
      refine ⟨?_, ?_, ?_⟩
      · intro timedOut
        rw [well.2] at timedOut
        cases timedOut
      · intro _ failed
        exact absurd well.1 failed
      · intro error rejected _
        cases shape.symm.trans rejected
        exact ⟨well.1, well.2, final⟩

/--
The report follows the end of the process when the process has ended well, or
when its result line can be read; and in no other case.
-/
theorem classifiedByExit_iff
    (parse : List Nat → Except String Json)
    (settings : Settings)
    (limits : Limits)
    (job : Job)
    (closing : Closing) :
    ClassifiedByExit parse settings limits job closing ↔
      EndedWell closing ∨
        ReadableResultLine parse limits closing.stdout.value := by
  constructor
  · intro classified
    rw [← parseResult_eq_ok]
    cases read : parseResult parse limits closing.stdout.value with
    | ok output =>
        exact .inr ⟨output, rfl⟩
    | error error =>
        obtain ⟨reported, shape, code, -⟩ :=
          onClose_of_unreadable settings job read
        obtain ⟨exitCode, inTime, -⟩ :=
          classified.unreadable reported shape code
        exact .inl ⟨exitCode, inTime⟩
  · rintro (well | readable)
    · exact classified_of_endedWell well
    · obtain ⟨output, read⟩ := parseResult_eq_ok.mpr readable
      exact classified_of_readable read

/-! ## The part that the protocol of results is about -/

def Execution.outputPart (result : Execution) : JobOutput.Execution where
  status := result.status
  exitCode := result.exitCode
  timedOut := result.timedOut
  stdout := result.stdout
  stdoutTruncated := result.stdoutTruncated
  output := result.output

def ExecutionError.outputPart
    (error : ExecutionError) :
    JobOutput.ExecutionError where
  code := error.code
  message := error.message
  retryable := error.retryable
  execution := error.execution.map Execution.outputPart

/-- The handler settles as `spawnEntrypoint` has it. -/
theorem onClose_outputPart
    {timeoutSeconds : Nat}
    {chunks : List (List UInt8)}
    (waits : job.timeoutSeconds = timeoutSeconds)
    (captured : closing.stdout = capture limits.maxStdoutBytes chunks) :
    ((onClose parse settings limits job closing).map
        Execution.outputPart).mapError ExecutionError.outputPart =
      JobOutput.spawnEntrypoint parse limits timeoutSeconds chunks
        closing.exitCode closing.timedOut := by
  unfold JobOutput.spawnEntrypoint
  rw [← captured]
  dsimp only
  cases read : parseResult parse limits closing.stdout.value with
  | error error =>
      obtain ⟨-, -, nothing⟩ := parseResult_error read
      rw [onClose, read]
      change Except.error _ = Except.error error
      cases error
      cases nothing
      rfl
  | ok output =>
      rw [onClose_of_output settings job read, waits]
      dsimp only
      split
      · rfl
      · split <;> rfl

end Lines

/-! ## A job that is stopped while it writes its result -/

def exportJob : Job where
  runId := "run-1"
  definition :=
    { runtime := "javascript"
      runtimeVersion := "nodejs22"
      entrypoint := some (.str "main.js")
      memoryMb := none }
  timeoutSeconds := 300
  startedAt := "2026-01-01T00:00:00.000Z"

/-- The line has got as far as its first bracket. -/
def stoppedWhileWriting : Closing where
  stdout := capture 65536 [Utf8Chunks.encode "IGA_RESULT_JSON:[".toList]
  stderr := capture 65536 []
  exitCode := none
  signal := some "SIGTERM"
  timedOut := true
  endedAt := "2026-01-01T00:05:00.000Z"

/-- `JSON.parse`, on a text that is no JSON. -/
def refuseText (_ : List Nat) : Except String Json :=
  .error "Unexpected end of JSON input"

/-- The timeout of the job is reported as a result that is not JSON. -/
theorem timeout_hidden :
    onClose refuseText { requireRuntimeIsolation := false }
          { maxStdoutBytes := 65536, maxResultOutputBytes := 65536 } exportJob
          stoppedWhileWriting =
        .error {
          code := "RUNTIME_RESULT_JSON_INVALID"
          message := "Unexpected end of JSON input"
          retryable := false
          execution := none } ∧
      ¬ ∀ (parse : List Nat → Except String Json) (settings : Settings)
          (limits : Limits) (job : Job) (closing : Closing),
          ClassifiedByExit parse settings limits job closing := by
  have shape :
      onClose refuseText { requireRuntimeIsolation := false }
          { maxStdoutBytes := 65536, maxResultOutputBytes := 65536 } exportJob
          stoppedWhileWriting =
        .error {
          code := "RUNTIME_RESULT_JSON_INVALID"
          message := "Unexpected end of JSON input"
          retryable := false
          execution := none } :=
    rfl
  refine ⟨shape, fun always => ?_⟩
  have classified :=
    always refuseText { requireRuntimeIsolation := false }
      { maxStdoutBytes := 65536, maxResultOutputBytes := 65536 } exportJob
      stoppedWhileWriting
  obtain ⟨error, rejected, reports⟩ := classified.timedOut rfl
  cases shape.symm.trans rejected
  exact absurd reports.code (by decide)

end ExitClassification

end IgaScheduler
