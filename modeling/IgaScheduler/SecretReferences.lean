import IgaScheduler.JavaScript
import IgaScheduler.RegularExpressions
import IgaScheduler.Utf8Chunks

namespace IgaScheduler

open RegularExpressions

/-!
# `SecretManagerParameterResolver`

How the parameters of a run are resolved, and which secret version the
reference of a sensitive parameter stands for.  The secret manager itself is a
parameter: what it answers to a call may depend on the calls before.
-/

/-- The name of a secret, as the resource that has it. -/
def secretName (project id : String) : String :=
  "projects/" ++ project ++ "/secrets/" ++ id

def secretVersionName (project id version : String) : String :=
  secretName project id ++ "/versions/" ++ version

/-- `resolutionError(code, message)`. -/
structure ResolutionError where
  code : String
  message : String
  retryable : Bool := false
  deriving DecidableEq

/-- The letters that `.` matches in a pattern without the flag `s`. -/
def isLineLetter (letter : Char) : Bool :=
  letter ≠ '\n' && letter ≠ '\r' && letter ≠ '\u2028' && letter ≠ '\u2029'

def isNoSlash (letter : Char) : Bool :=
  letter ≠ '/'

/-- `SECRET_REF_PATTERN`. -/
def secretRefPattern : Pattern :=
  .seq (.literal "projects/".toList) <|
    .seq (.group (.many isNoSlash)) <|
      .seq (.literal "/secrets/".toList) <|
        .seq (.group (.many isNoSlash)) <|
          .optional <|
            .seq (.literal "/versions/".toList) <|
              .group (.many isLineLetter)

/-- `DENIED_SECRET_IDS`. -/
def deniedSecretIds : List String :=
  ["iga-scheduler-db-password",
    "iga-scheduler-iga-client-id",
    "iga-scheduler-iga-client-secret",
    "iga-scheduler-es-api-key",
    "iga-scheduler-github-token"]

/-- A value that `resolveParameters` returns. -/
inductive ResolvedParameter where
  /-- What `toString("utf8")` returned, in UTF-16 code units. -/
  | secret (text : List Nat)
  /-- `parameter.value`. -/
  | value (value : Option Json)

/-- A call of `accessSecretVersion`, made by `resolveSecretValue(secretRef)`. -/
structure SecretAccess where
  secretRef : Option Json
  name : String

/--
What `accessSecretVersion` answers after these calls to the last of them: the
`payload.data`, or that it throws.
-/
abbrev SecretManager (Error : Type) :=
  List SecretAccess → Except Error (Option (List UInt8))

/-- What makes `resolveParameters` throw. -/
inductive ResolutionFailure (Error : Type) where
  | refused (error : ResolutionError)
  | access (error : Error)

/-- The calls of a `resolveParameters`, and what came of it. -/
structure Resolution (Error : Type) where
  calls : List SecretAccess
  outcome :
    Except (ResolutionFailure Error) (List (String × ResolvedParameter))

/-- `value?.name`, of a value that came out of `JSON.parse`. -/
def jsonField
    (value : Json)
    (name : String) :
    Option Json :=
  match value with
  | .obj fields => fields.lookup name
  | _ => none

/-- `resolved[name] = value` for another name; `__proto__` becomes no field. -/
def assignField
    (resolved : List (String × ResolvedParameter))
    (name : String)
    (value : ResolvedParameter) :
    List (String × ResolvedParameter) :=
  if name = "__proto__" then
    resolved
  else
    resolved ++ [(name, value)]

/-- The settings of a resolver. -/
structure SecretManagerParameterResolver where
  projectId : Option String
  paramPrefix : String := "job-param-"

namespace SecretManagerParameterResolver

variable (resolver : SecretManagerParameterResolver)

/-- `this.projectId` inside of a text. -/
def projectText : String :=
  resolver.projectId.getD "undefined"

def malformed (secretRef : String) : ResolutionError :=
  ⟨"PARAMETER_SECRET_REF_INVALID", "malformed secretRef: " ++ secretRef, false⟩

def assertAllowed (secretId : String) : Except ResolutionError Unit :=
  if secretId ∈ deniedSecretIds then
    .error ⟨"PARAMETER_SECRET_REF_FORBIDDEN",
      "sensitive parameters may not reference platform secrets", false⟩
  else if ¬ JavaScript.startsWith secretId resolver.paramPrefix then
    .error ⟨"PARAMETER_SECRET_REF_FORBIDDEN",
      "secretRef must reference a job-parameter secret (prefix \"" ++
        resolver.paramPrefix ++ "\")", false⟩
  else
    .ok ()

/-- The `secretId` and the `version` that a reference stands for. -/
def parseReference
    (secretRef : String) :
    Except ResolutionError (String × String) :=
  if JavaScript.startsWith secretRef "projects/" then
    match secretRefPattern.exec secretRef.toList with
    | some [some project, some id, version] =>
        if some (String.ofList project) ≠ resolver.projectId then
          .error ⟨"PARAMETER_SECRET_REF_FORBIDDEN",
            "secretRef must reference a secret in project \"" ++
              resolver.projectText ++ "\"", false⟩
        else
          .ok (String.ofList id,
            (version.map String.ofList).getD "latest")
    | _ => .error (malformed secretRef)
  else if '/' ∈ secretRef.toList then
    .error (malformed secretRef)
  else if resolver.projectId = none ∨ resolver.projectId = some "" then
    .error ⟨"PARAMETER_SECRET_PROJECT_MISSING",
      "GCP_PROJECT_ID is required for short secretRef values", false⟩
  else
    .ok (secretRef, "latest")

def toSecretVersionName
    (secretRef : Option Json) :
    Except ResolutionError String :=
  match secretRef with
  | some (.str secretRef) =>
      if secretRef = "" then
        .error ⟨"PARAMETER_SECRET_REF_INVALID", "secretRef is required", false⟩
      else do
        let (secretId, version) ← resolver.parseReference secretRef
        resolver.assertAllowed secretId
        return secretVersionName resolver.projectText secretId version
  | _ =>
      .error ⟨"PARAMETER_SECRET_REF_INVALID", "secretRef is required", false⟩

section Resolving

variable {Error : Type}
variable (client : SecretManager Error)

/-- The `for` loop of `resolveParameters`. -/
def resolveEntries :
    List (String × Json) →
    List SecretAccess →
    List (String × ResolvedParameter) →
    Resolution Error
  | [], calls, resolved => ⟨calls, .ok resolved⟩
  | (name, parameter) :: rest, calls, resolved =>
      match jsonField parameter "type" with
      | some (.str "sensitive") =>
          let secretRef := jsonField parameter "secretRef"
          match resolver.toSecretVersionName secretRef with
          | .error error => ⟨calls, .error (.refused error)⟩
          | .ok versionName =>
              let calls := calls ++ [⟨secretRef, versionName⟩]
              match client calls with
              | .error error => ⟨calls, .error (.access error)⟩
              | .ok data =>
                  let text := Utf8Chunks.decode (data.getD [])
                  resolveEntries rest calls
                    (assignField resolved name (.secret text))
      | some (.str "string") =>
          resolveEntries rest calls
            (assignField resolved name (.value (jsonField parameter "value")))
      | some (.str "string[]") =>
          resolveEntries rest calls
            (assignField resolved name (.value (jsonField parameter "value")))
      | _ => resolveEntries rest calls resolved

/-- `resolveParameters`, of the entries of its argument. -/
def resolveParameters
    (parameters : List (String × Json)) :
    Resolution Error :=
  resolver.resolveEntries client parameters [] []

end Resolving

end SecretManagerParameterResolver

end IgaScheduler
