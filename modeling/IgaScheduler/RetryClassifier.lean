import IgaScheduler.MetadataSnapshot

namespace IgaScheduler

/-!
# `classifyWorkerError`

Whether a failed execution may be tried again.  What is thrown can be any
value, so its fields are JSON values that may be missing.
-/

namespace RetryClassifier

open ExecutionMetadata (field strictEquals templateText)

/-- The fields of a thrown value that the classifier reads. -/
structure WorkerError where
  retryable : Option Json := none
  code : Option Json := none
  statusCode : Option Json := none
  metaObject : Option Json := none
  body : Option Json := none

def nonRetryableCodes : List String :=
  ["RUN_DEFINITION_MISSING", "DEFINITION_NOT_FOUND", "DEFINITION_NOT_ACTIVE",
    "DEFINITION_VERSION_MISMATCH", "DEFINITION_ARTIFACT_MISSING",
    "ARTIFACT_URI_INVALID", "ARTIFACT_SHA256_MISMATCH", "ARTIFACT_ZIP_INVALID",
    "RUNTIME_ARTIFACT_BUFFER_REQUIRED", "RUNTIME_ARTIFACT_SHA256_MISMATCH",
    "RUNTIME_ARTIFACT_URI_INVALID", "RUNTIME_ENTRYPOINT_INVALID",
    "RUNTIME_ENTRYPOINT_REQUIRED", "RUNTIME_RESULT_JSON_INVALID",
    "RUNTIME_RESULT_MISSING", "RUNTIME_RESULT_OUTPUT_TOO_LARGE",
    "RUNTIME_UNSUPPORTED", "RUNTIME_VERSION_UNSUPPORTED"]

def retryableCodes : List String :=
  ["ARTIFACT_DOWNLOAD_FAILED", "RUNTIME_ARTIFACT_DOWNLOAD_FAILED",
    "WORKER_EXECUTION_FAILED", "WORKER_TIMEOUT",
    "RUNTIME_PROCESS_EXITED_NON_ZERO", "RUNTIME_PROCESS_TIMED_OUT"]

def nonRetryableHttpStatusCodes : List Nat :=
  [400, 401, 403, 404, 409, 410, 422]

def retryableHttpStatusCodes : List Nat :=
  [408, 425, 429, 500, 502, 503, 504]

/-- `first || second`. -/
def orElse (first second : Option Json) : Option Json :=
  if JavaScript.truthy first then first else second

def statusCodeFromError (error : WorkerError) : Option Json :=
  orElse (orElse error.statusCode (field error.metaObject "statusCode"))
    (field error.body "status")

/-- `codes.has(code)`. -/
def hasCode (codes : List String) (code : Option Json) : Bool :=
  codes.any fun known => strictEquals (some (.str known)) code

/-- `codes.has(statusCode)`. -/
def hasStatusCode (codes : List Nat) (statusCode : Option Json) : Bool :=
  codes.any fun known => strictEquals (some (.num known 0)) statusCode

structure Classification where
  retryable : Bool
  classification : String
  reason : String
  deriving DecidableEq, Repr

def classification (retryable : Bool) (reason : String) : Classification where
  retryable
  classification := if retryable then "RETRYABLE" else "NON_RETRYABLE"
  reason

def classifyWorkerError (error : WorkerError) : Classification :=
  match error.retryable with
  | some (.bool retryable) =>
      classification retryable "explicit_error_retryable_flag"
  | _ =>
      let code := orElse error.code (some (.str "WORKER_EXECUTION_FAILED"))
      let statusCode := statusCodeFromError error
      if hasCode nonRetryableCodes code then
        classification false ("non_retryable_code:" ++ templateText code)
      else if hasCode retryableCodes code then
        classification true ("retryable_code:" ++ templateText code)
      else if hasStatusCode nonRetryableHttpStatusCodes statusCode then
        classification false
          ("non_retryable_http_status:" ++ templateText statusCode)
      else if hasStatusCode retryableHttpStatusCodes statusCode then
        classification true
          ("retryable_http_status:" ++ templateText statusCode)
      else
        classification true "default_retryable_worker_failure"

/-! ## What decides -/

/-- The flag of an error decides, whatever else the error carries. -/
theorem classifyWorkerError_of_flag
    {error : WorkerError}
    {retryable : Bool}
    (flagged : error.retryable = some (.bool retryable)) :
    classifyWorkerError error =
      classification retryable "explicit_error_retryable_flag" := by
  rw [classifyWorkerError, flagged]

end RetryClassifier

end IgaScheduler
