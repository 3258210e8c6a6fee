import IgaScheduler.ExecutionPipeline

namespace IgaScheduler

/-!
# What becomes of the secrets of a run

Two workers that the secret manager answers with different payloads, and whose
jobs behave alike: nothing that is written to `job_runs`, to the audit index or
into an error tells the one from the other.  The payloads reach the context
file of the job, and nothing else.
-/

open JobRuntimeExecutor (Host Request Settings Spawn)
open Tracing (Traced)
open Tracing.Traced (Alike AlikeOutcomes)
open ZipArtifacts (Failure Files Path TemporaryDirectory ZipBuffer)

/-! ## Trees that differ in one file -/

namespace ZipArtifacts

open FileTrees (Node)

/-- Trees with files of their own at a place, and the same elsewhere. -/
structure DifferAt
    (place : Path)
    (files others : Files) :
    Prop where
  same : ∀ other, other ≠ place → files other = others other
  isFile : Node.isFile (files place) = Node.isFile (others place)
  isDirectory :
    Node.isDirectory (files place) = Node.isDirectory (others place)

namespace DifferAt

variable {place path : Path} {files others : Files}

theorem isFile_eq
    (differ : DifferAt place files others)
    (path : Path) :
    Node.isFile (files path) = Node.isFile (others path) := by
  by_cases there : path = place
  · rw [there, differ.isFile]
  · rw [differ.same path there]

theorem isDirectory_eq
    (differ : DifferAt place files others)
    (path : Path) :
    Node.isDirectory (files path) = Node.isDirectory (others path) := by
  by_cases there : path = place
  · rw [there, differ.isDirectory]
  · rw [differ.same path there]

theorem refl (place : Path) (files : Files) : DifferAt place files files :=
  ⟨fun _ _ => rfl, rfl, rfl⟩

/-- A write goes by what stands where, and not by the contents. -/
theorem writeStreamToFile
    {content otherContent : List UInt8}
    (differ : DifferAt place files others)
    (kept : path ≠ place → content = otherContent) :
    AlikeOutcomes (DifferAt place)
      (writeStreamToFile files content path)
      (writeStreamToFile others otherContent path) := by
  unfold ZipArtifacts.writeStreamToFile FileTrees.writeFile
  rw [differ.isDirectory_eq path, differ.isDirectory_eq path.dropLast,
    differ.isFile_eq path.dropLast]
  by_cases null : hasNull path = true
  · rw [if_pos null, if_pos null]
    exact .errors _
  · rw [if_neg null, if_neg null]
    by_cases writable :
        (Node.isDirectory (others path.dropLast) &&
          !Node.isDirectory (others path)) = true
    · rw [if_pos writable, if_pos writable]
      refine .values ⟨?_, ?_, ?_⟩
      · intro other elsewhere
        by_cases there : other = path
        · subst there
          rw [if_pos rfl, if_pos rfl, kept elsewhere]
        · rw [if_neg there, if_neg there]
          exact differ.same other elsewhere
      · by_cases there : place = path
        · rw [if_pos there, if_pos there]
          rfl
        · rw [if_neg there, if_neg there]
          exact differ.isFile
      · by_cases there : place = path
        · rw [if_pos there, if_pos there]
          rfl
        · rw [if_neg there, if_neg there]
          exact differ.isDirectory
    · rw [if_neg writable, if_neg writable]
      exact .errors _

end DifferAt

end ZipArtifacts

/-! ## Processes that find contexts of their own -/

namespace JobRuntimeExecutor

/-- The same process, started with another file at a place. -/
structure DifferAt
    (place : Path)
    (spawn other : Spawn) :
    Prop where
  command : spawn.command = other.command
  args : spawn.args = other.args
  cwd : spawn.cwd = other.cwd
  env : spawn.env = other.env
  files : ZipArtifacts.DifferAt place spawn.files other.files

section Execution

variable {settings : Settings}
variable {host : Host}
variable {definition : ExecutionDefinition}
variable {extracted : ZipArtifacts.Extracted}
variable {place : Path} {files others : Files}

theorem writeContextFile_alike
    (files : Files)
    (extractDir : Path)
    (context otherContext : Option Json) :
    AlikeOutcomes (ZipArtifacts.DifferAt (extractDir ++ contextFile))
      (writeContextFile files extractDir context)
      (writeContextFile files extractDir otherContext) := by
  refine (AlikeOutcomes.refl _).bind ?_
  rintro made _ rfl
  exact (ZipArtifacts.DifferAt.refl _ made).writeStreamToFile
    fun elsewhere => absurd rfl elsewhere

theorem executeNodeEntrypoint_alike
    (request : Request)
    (context : Option Json)
    (differ : ZipArtifacts.DifferAt place files others) :
    AlikeOutcomes (DifferAt place)
      (executeNodeEntrypoint settings host request definition extracted files)
      (executeNodeEntrypoint settings host { request with context } definition
        extracted others) := by
  refine (AlikeOutcomes.refl _).bind ?_
  rintro ⟨command, args⟩ _ rfl
  exact .values ⟨rfl, rfl, rfl, rfl, differ⟩

theorem executePythonEntrypoint_alike
    (request : Request)
    (context : Option Json)
    (differ : ZipArtifacts.DifferAt place files others) :
    AlikeOutcomes (DifferAt place)
      (executePythonEntrypoint settings host request definition extracted
        files)
      (executePythonEntrypoint settings host { request with context }
        definition extracted others) := by
  refine (AlikeOutcomes.refl _).bind ?_
  rintro ⟨command, args⟩ _ rfl
  exact .values ⟨rfl, rfl, rfl, rfl, differ⟩

/-- The context of a request is in the context file, and nowhere else. -/
theorem execute_alike
    (settings : Settings)
    (host : Host)
    (request : Request)
    (context : Option Json)
    (buffer : ZipBuffer)
    (created : TemporaryDirectory) :
    AlikeOutcomes (DifferAt (created.path ++ contextFile))
      (execute settings host request buffer created)
      (execute settings host { request with context } buffer created) := by
  unfold execute
  refine (AlikeOutcomes.refl _).bind ?_
  rintro ⟨definition, normalizedEntrypoint⟩ _ rfl
  refine (AlikeOutcomes.refl _).bind ?_
  rintro ⟨⟩ _ rfl
  cases unpacked :
      ZipArtifacts.safeZipExtract buffer normalizedEntrypoint created with
  | error failure =>
      exact .errors _
  | ok extracted =>
      have beside := extractDir_of_safeZipExtract unpacked
      have wrote :=
        writeContextFile_alike extracted.files extracted.extractDir
          request.context context
      rw [beside] at wrote
      change
        AlikeOutcomes _
          (((writeContextFile extracted.files extracted.extractDir
            request.context).mapError ExecuteFailure.files) >>= _)
          (((writeContextFile extracted.files extracted.extractDir
            context).mapError ExecuteFailure.files) >>= _)
      rw [beside]
      refine wrote.mapError.bind ?_
      intro files others differ
      split
      · exact executePythonEntrypoint_alike request context differ
      · refine (differ.writeStreamToFile fun _ => rfl).mapError.bind ?_
        exact executeNodeEntrypoint_alike request context

end Execution

end JobRuntimeExecutor

/-! ## Executions that fetch secrets of their own -/

namespace SecretManagerParameterResolver

section Resolving

variable {Error : Type}
variable {client other : SecretManager Error}

/-- Another payload is another parameter, and leads to the same calls. -/
theorem resolveEntries_alike
    (resolver : SecretManagerParameterResolver)
    (answers :
      ∀ calls, AlikeOutcomes (fun _ _ => True) (client calls) (other calls))
    (parameters : List (String × Json))
    (calls : List SecretAccess)
    (resolved others : List (String × ResolvedParameter)) :
    (resolver.resolveEntries client parameters calls resolved).calls =
        (resolver.resolveEntries other parameters calls others).calls ∧
      AlikeOutcomes (fun _ _ => True)
        (resolver.resolveEntries client parameters calls resolved).outcome
        (resolver.resolveEntries other parameters calls others).outcome := by
  induction parameters generalizing calls resolved others with
  | nil =>
      exact ⟨rfl, .values trivial⟩
  | cons entry rest inductionHypothesis =>
      obtain ⟨name, parameter⟩ := entry
      unfold resolveEntries
      split
      · dsimp only
        cases resolver.toSecretVersionName
            (jsonField parameter "secretRef") with
        | error error =>
            exact ⟨rfl, .errors _⟩
        | ok versionName =>
            dsimp only
            obtain ⟨data, otherData, given, otherGiven, -⟩ |
              ⟨error, thrown, otherThrown⟩ := (answers _).values_or_errors
            · rw [given, otherGiven]
              exact inductionHypothesis _ _ _
            · rw [thrown, otherThrown]
              exact ⟨rfl, .errors _⟩
      · exact inductionHypothesis _ _ _
      · exact inductionHypothesis _ _ _
      · exact inductionHypothesis _ _ _

end Resolving

end SecretManagerParameterResolver

namespace WorkerRunService

/-- Workers that only secrets, and what their jobs make of them, tell apart. -/
structure SecretsApart
    {β : Type}
    (worker : Worker β)
    (client : SecretManager WorkerFailure)
    (process : Spawn → ProcessEnd) :
    Prop where
  answers :
    ∀ calls,
      AlikeOutcomes (fun _ _ => True) (worker.client calls) (client calls)
  jobs :
    ∀ spawn other,
      JobRuntimeExecutor.DifferAt
          (worker.created.path ++ JobRuntimeExecutor.contextFile) spawn
          other →
        worker.process spawn = process other

section Executions

variable {β : Type}
variable {worker : Worker β}
variable {client : SecretManager WorkerFailure}
variable {process : Spawn → ProcessEnd}

theorem resolveRuntimeParameters_alike
    (apart : SecretsApart worker client process)
    (run : RunDocument) :
    Alike (fun _ _ => True)
      (resolveRuntimeParameters worker run)
      (resolveRuntimeParameters { worker with client, process } run) := by
  obtain ⟨calls, outcomes⟩ :=
    worker.resolver.resolveEntries_alike apart.answers
      (ParameterReaders.entries run.params) [] [] []
  exact ⟨congrArg (List.map Effect.accessed) calls, outcomes.mapError⟩

theorem launch_alike
    (run : RunDocument)
    (execution : ExecutionMetadata.Built)
    (verification : Verification β)
    (params others : List (String × ResolvedParameter)) :
    AlikeOutcomes
      (JobRuntimeExecutor.DifferAt
        (worker.created.path ++ JobRuntimeExecutor.contextFile))
      (launch worker run execution verification params)
      (launch { worker with client, process } run execution verification
        others) :=
  (JobRuntimeExecutor.execute_alike worker.settings.toSettings worker.host
    (executeRequest run execution params) _
    (worker.archives.buffer verification.buffer) worker.created).mapError

theorem runJob_alike
    (apart : SecretsApart worker client process)
    (run : RunDocument)
    (prepared : Prepared β) :
    Alike Eq (runJob worker run prepared)
      (runJob { worker with client, process } run prepared) := by
  refine (resolveRuntimeParameters_alike apart run).bind ?_
  intro params others _
  refine (Alike.ofExcept (launch_alike run _ _ params others)).bind ?_
  intro spawn other differ
  dsimp only
  rw [apart.jobs spawn other differ]
  exact .same _

theorem attempt_alike
    (apart : SecretsApart worker client process)
    (run : RunDocument)
    (row : Option JobRun)
    (startedAt : Timestamp) :
    Alike Eq (attempt worker run row startedAt)
      (attempt { worker with client, process } run row startedAt) := by
  refine (Alike.same (prepare worker run startedAt)).bind ?_
  rintro prepared _ rfl
  refine (runJob_alike apart run prepared).bind ?_
  rintro result _ rfl
  exact .same _

/--
Other payloads of the same secrets, for a job that behaves alike, leave the
same columns and the same audit events, are asked for by the same calls, and
end in the same outcome or the same error.
-/
theorem secrets_reach_only_the_job
    (apart : SecretsApart worker client process)
    (runId dispatchId : String)
    (row fetched : Option JobRun)
    (startedAt : Timestamp) :
    executeClaimedRun { worker with client, process } row runId dispatchId
        fetched startedAt =
      executeClaimedRun worker row runId dispatchId fetched startedAt := by
  cases fetched with
  | none =>
      rfl
  | some fetched =>
      exact ((attempt_alike apart _ row startedAt).orCatch fun error =>
        .same _).eq.symm

end Executions

/-- Another token, for a job that does nothing with it. -/
theorem secrets_reach_only_the_job_token :
    executeClaimedRun
        { nightlyWorker (nightlyClose [] 0) with
          client := fun _ => .ok (some [116, 111])
          process := fun _ => .closed (nightlyClose [] 0) }
        (some nightlyClaim) "nightly:2025-08-01T12" "d-1" (some nightlyClaim)
        1754049601000 =
      executeClaimedRun (nightlyWorker (nightlyClose [] 0))
        (some nightlyClaim) "nightly:2025-08-01T12" "d-1" (some nightlyClaim)
        1754049601000 :=
  secrets_reach_only_the_job ⟨fun _ => .values trivial, fun _ _ _ => rfl⟩ _ _
    _ _ _

end WorkerRunService

end IgaScheduler
