import IgaScheduler.JavaScript
import IgaScheduler.TextLines
import IgaScheduler.Utf8Chunks

namespace IgaScheduler

/-!
# The output of a job

The line with which a job writes its result, and how the executor captures the
output of the process, chunk by chunk, and reads the result from it.  A string
of JavaScript is the list of its UTF-16 code units.
-/

namespace JobOutput

open Utf8Chunks (decode encode utf16)

/-- `IGA_RESULT_JSON:`. -/
def resultPrefix : List Char :=
  "IGA_RESULT_JSON:".toList

/-! ## `runJob` and `emitResult` -/

/-- The line that is written for a result. -/
def emitResult (output : Json) : List UInt8 :=
  encode (resultPrefix ++ ((JavaScript.stringify output).toList ++ ['\n']))

/-- `result ?? null` is emitted; `none` is `undefined`. -/
def runJob (result : Option Json) : List UInt8 :=
  emitResult (result.getD .null)

/-! ## `JobRuntimeExecutor` -/

structure Limits where
  maxStdoutBytes : Nat
  maxResultOutputBytes : Nat

def isHighSurrogate (unit : Nat) : Bool :=
  0xD800 ≤ unit && unit < 0xDC00

def isLowSurrogate (unit : Nat) : Bool :=
  0xDC00 ≤ unit && unit < 0xE000

/-- The bytes of a unit that is not in a pair. -/
def unitBytes (unit : Nat) : Nat :=
  if unit < 0x80 then 1 else if unit < 0x800 then 2 else 3

/-- `Buffer.byteLength(text, "utf8")`. -/
def byteLength : List Nat → Nat
  | [] => 0
  | [unit] => unitBytes unit
  | unit :: next :: rest =>
      if isHighSurrogate unit && isLowSurrogate next then
        4 + byteLength rest
      else
        unitBytes unit + byteLength (next :: rest)

structure Captured where
  value : List Nat
  truncated : Bool

def appendWithLimit
    (current : List Nat)
    (chunk : List UInt8)
    (maxBytes : Nat) :
    Captured :=
  let combined := current ++ decode chunk
  if byteLength combined ≤ maxBytes then
    { value := combined, truncated := false }
  else
    { value := combined.take maxBytes, truncated := true }

/-- The `data` events of one stream. -/
def capture
    (maxBytes : Nat)
    (chunks : List (List UInt8)) :
    Captured :=
  chunks.foldl (fun captured chunk =>
      let appended := appendWithLimit captured.value chunk maxBytes
      { value := appended.value
        truncated := captured.truncated || appended.truncated })
    { value := [], truncated := false }

/-- The result that `_spawnEntrypoint` resolves with. -/
structure Execution where
  status : String
  exitCode : Option Int
  timedOut : Bool
  stdout : List Nat
  stdoutTruncated : Bool
  output : Json

structure ExecutionError where
  code : String
  message : String
  retryable : Bool
  execution : Option Execution

section Results

-- `JSON.parse(text)`.
variable (parse : List Nat → Except String Json)

/-- What `parseResult` makes of the rest of the line. -/
def parsePayload
    (limits : Limits)
    (payload : List Nat) :
    Except ExecutionError Json :=
  if limits.maxResultOutputBytes < byteLength payload then
    .error {
      code := "RUNTIME_RESULT_OUTPUT_TOO_LARGE"
      message := "runtime result output exceeds " ++
        toString limits.maxResultOutputBytes ++ " bytes"
      retryable := false
      execution := none }
  else
    match parse payload with
    | .ok value => .ok value
    | .error message =>
        .error {
          code := "RUNTIME_RESULT_JSON_INVALID"
          message
          retryable := false
          execution := none }

def parseResult
    (limits : Limits)
    (stdout : List Nat) :
    Except ExecutionError Json :=
  let mark := utf16 resultPrefix
  let resultLine :=
    (TextLines.lines 10 13 stdout).find? fun line => mark.isPrefixOf line
  match resultLine with
  | none => .ok .null
  | some resultLine => parsePayload parse limits (resultLine.drop mark.length)

/-- `_spawnEntrypoint`, for the chunks of stdout and how the process ended. -/
def spawnEntrypoint
    (limits : Limits)
    (timeoutSeconds : Nat)
    (chunks : List (List UInt8))
    (exitCode : Option Int)
    (timedOut : Bool) :
    Except ExecutionError Execution :=
  let captured := capture limits.maxStdoutBytes chunks
  match parseResult parse limits captured.value with
  | .error error => .error error
  | .ok output =>
      let result : Execution := {
        status :=
          if exitCode = some 0 && !timedOut then "completed" else "failed"
        exitCode
        timedOut
        stdout := captured.value
        stdoutTruncated := captured.truncated
        output }
      if timedOut then
        .error {
          code := "RUNTIME_PROCESS_TIMED_OUT"
          message := "job process exceeded timeout of " ++
            toString timeoutSeconds ++ " seconds"
          retryable := true
          execution := some result }
      else if exitCode ≠ some 0 then
        .error {
          code := "RUNTIME_PROCESS_EXITED_NON_ZERO"
          message := "job process exited with code " ++
            (exitCode.map toString).getD "null"
          retryable := true
          execution := some result }
      else
        .ok result

end Results

end JobOutput

end IgaScheduler
