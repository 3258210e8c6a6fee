import IgaScheduler.ApprovedCode
import IgaScheduler.InstanceOperations
import IgaScheduler.InterleavedPool
import IgaScheduler.JobDefinition

namespace IgaScheduler

/-!
# The artifacts of the local application

`LocalDefinitionService` keeps definitions in SQLite and their archives in
files, and the local worker checks an archive again before it runs it.  Calls
of the service interleave where they await: the archive's validation, and the
definition that a patch or a deletion starts from.  A file that is written
stays as it was written.
-/

open Interleaving Relational
open ZipArtifacts (Options ZipBuffer validateZipBuffer)

namespace LocalDefinitions

/-- What `digest("hex")` of SHA-256 returns. -/
structure HexDigest (digest : String) : Prop where
  length : digest.length = 64
  letters :
    ∀ letter ∈ digest.toList, letter ∈ "0123456789abcdef".toList

/-- The bytes of archives, as the libraries look at them. -/
structure Archives (β : Type) where
  sha256 : β → String
  hexDigest : ∀ bytes, HexDigest (sha256 bytes)
  buffer : β → ZipBuffer
  /-- `JSON.parse(bytes.toString("utf8"))`. -/
  parse : List UInt8 → Except String Json

/-- A row of the local `job_definitions`; `data` is read back as written. -/
structure DefinitionRow where
  data : DefinitionDocument
  state : DefinitionState
  enabled : Bool
  updatedAt : Timestamp

/-- The table, and the files below the data directory. -/
structure LocalStore (β : Type) where
  rows : Table String DefinitionRow
  files : Table String β

/-- `path.join(dataDir, "artifacts", "approved", id, digest, "job.zip")`. -/
def approvedFile (dataDir definitionId digest : String) : String :=
  String.ofList (PosixPaths.normalize
    (dataDir.toList ++ "/artifacts/approved/".toList ++
      definitionId.toList ++ '/' :: digest.toList ++
      '/' :: "job.zip".toList))

/-- `LocalDefinitionService.getDefinition`. -/
def LocalStore.definition
    {β : Type}
    (store : LocalStore β)
    (definitionId : String) :
    Option DefinitionDocument :=
  (store.rows.lookup definitionId).map DefinitionRow.data

section Service

variable {β : Type}
variable (archives : Archives β)
variable (dataDir : String)

/-- An upload whose metadata and archive have been validated. -/
structure Upload (β : Type) where
  parsed : DefinitionMetadata
  bytes : β
  zipInfo : ZipArtifacts.ZipInfo
  now : Timestamp

/-- The document that `createDefinition` stores. -/
def Upload.document (upload : Upload β) : DefinitionDocument :=
  { upload.parsed with
    version := 1
    state := .active
    enabled := true
    jobZip := some {
      uri := "local://" ++
        approvedFile dataDir upload.parsed.definitionId
          (archives.sha256 upload.bytes)
      sha256 := archives.sha256 upload.bytes
      generation := some "1"
    }
    validation := {
      fileCount := upload.zipInfo.fileCount
      uncompressedBytes := upload.zipInfo.uncompressedBytes
      validatedAt := upload.now
    }
    createdAt := upload.now
    updatedAt := upload.now }

/-- What a call does between two awaits. -/
inductive Statement (β : Type) where
  | skip
  | read (definitionId : String)
  /-- The file, the check for a live definition, and the row. -/
  | store (upload : Upload β)
  | patch
      (definitionId : String)
      (document : DefinitionDocument)
  | delete
      (definitionId : String)
      (document : DefinitionDocument)

inductive Reply where
  | done
  | definition (found : Option DefinitionDocument)
  /-- `false`: the definition already exists. -/
  | stored (value : Bool)

/-- `UPDATE job_definitions SET data = ?, updated_at = ?`. -/
def patchRow (document : DefinitionDocument) : RowUpdate DefinitionRow where
  guard _ := true
  set row := { row with data := document, updatedAt := document.updatedAt }

/-- The same with `state = 'DELETED', enabled = 0`. -/
def deleteRow (document : DefinitionDocument) : RowUpdate DefinitionRow where
  guard _ := true
  set _ := {
    data := document
    state := .deleted
    enabled := false
    updatedAt := document.updatedAt }

/-- What is left of an upload; a live definition keeps its row. -/
def storeUpload
    (store : LocalStore β)
    (upload : Upload β) :
    LocalStore β × Reply :=
  let definitionId := upload.parsed.definitionId
  let file :=
    approvedFile dataDir definitionId (archives.sha256 upload.bytes)
  let files := store.files.insert file upload.bytes
  let (rows, stored) :=
    Table.upsertWhere store.rows definitionId
      { data := upload.document archives dataDir
        state := .active
        enabled := true
        updatedAt := upload.now }
      fun row => row.state = .deleted
  (⟨rows, files⟩, .stored stored)

def exec
    (statement : Statement β)
    (store : LocalStore β) :
    LocalStore β × Reply :=
  match statement with
  | .skip => (store, .done)
  | .read definitionId =>
      (store, .definition (store.definition definitionId))
  | .store upload => storeUpload archives dataDir store upload
  | .patch definitionId document =>
      ({ store with
          rows := (store.rows.updateWhere definitionId
            (patchRow document)).1 },
        .done)
  | .delete definitionId document =>
      ({ store with
          rows := (store.rows.updateWhere definitionId
            (deleteRow document)).1 },
        .done)

/-! ## Calls of the service -/

inductive Request (β : Type) where
  | createDefinition (metadata : DefinitionInput) (artifactBuffer : β)
  | patchDefinition (definitionId : String) (patch : DefinitionPatch)
  | deleteDefinition (definitionId : String)

/-- Where a call stands. -/
inductive Local (β : Type) where
  | idle
  /-- `validateZipBuffer` is awaited. -/
  | creating (parsed : DefinitionMetadata) (bytes : β) (now : Timestamp)
  /-- `getDefinition` is awaited. -/
  | patching
      (definitionId : String)
      (patch : DefinitionPatch)
      (now : Timestamp)
      (existing : Option DefinitionDocument)
  | deleting
      (definitionId : String)
      (now : Timestamp)
      (existing : Option DefinitionDocument)
  | settled (outcome : Except ServiceError DefinitionDocument)

/-- What the schedule chooses for a step. -/
inductive Input (β : Type) where
  | start (request : Request β) (now : Timestamp)
  | proceed

/-- The archive that a step brings. -/
def Input.archive? : Input β → Option β
  | .start (.createDefinition _ artifactBuffer) _ => some artifactBuffer
  | _ => none

/-- The archives that are uploaded in a schedule. -/
def uploadedArchives (schedule : List (Label (Input β))) : List β :=
  schedule.filterMap fun label => label.2.archive?

def existsAlready : ServiceError :=
  .status 409 "definition already exists"

def notFound : ServiceError :=
  .status 404 "definition not found"

/-- What `validateZipBuffer` says of an upload. -/
def validateUpload
    (parsed : DefinitionMetadata)
    (bytes : β) :
    Except String ZipArtifacts.ZipInfo :=
  validateZipBuffer archives.parse (archives.buffer bytes)
    (JobRuntimeExecutor.uploadOptions parsed)

def issue :
    Local β →
      Input β →
      Option (Statement β)
  | .idle, .start (.createDefinition ..) _ => some .skip
  | .idle, .start (.patchDefinition definitionId patch) _ =>
      match patchJobDefinitionSchema patch with
      | none => some .skip
      | some _ => some (.read definitionId)
  | .idle, .start (.deleteDefinition definitionId) _ =>
      some (.read definitionId)
  | .creating parsed bytes now, .proceed =>
      match validateUpload archives parsed bytes with
      | .error _ => some .skip
      | .ok zipInfo => some (.store ⟨parsed, bytes, zipInfo, now⟩)
  | .patching definitionId patch now existing, .proceed =>
      match existing with
      | none => some .skip
      | some document => some (.patch definitionId (patch.apply now document))
  | .deleting definitionId now existing, .proceed =>
      match existing with
      | none => some .skip
      | some document =>
          some (.delete definitionId (markDeleted now document))
  | _, _ => none

/-- A document that was found goes on; without one the call fails. -/
def onFound
    (existing : Option DefinitionDocument)
    (change : DefinitionDocument → DefinitionDocument) :
    Local β :=
  match existing with
  | none => .settled (.error notFound)
  | some document => .settled (.ok (change document))

def resume :
    Local β →
      Input β →
      Reply →
      Local β
  | .idle, .start (.createDefinition metadata artifactBuffer) now, _ =>
      match createJobDefinitionSchema metadata with
      | none => .settled (.error .validation)
      | some parsed => .creating parsed artifactBuffer now
  | .idle, .start (.patchDefinition definitionId patch) now, reply =>
      match patchJobDefinitionSchema patch, reply with
      | some parsed, .definition existing =>
          .patching definitionId parsed now existing
      | _, _ => .settled (.error .validation)
  | .idle, .start (.deleteDefinition definitionId) now, reply =>
      match reply with
      | .definition existing => .deleting definitionId now existing
      | _ => .settled (.error notFound)
  | .creating parsed bytes now, _, reply =>
      match validateUpload archives parsed bytes, reply with
      | .error message, _ => .settled (.error (.error message))
      | .ok zipInfo, .stored true =>
          let upload : Upload β := ⟨parsed, bytes, zipInfo, now⟩
          .settled (.ok (upload.document archives dataDir))
      | .ok _, _ => .settled (.error existsAlready)
  | .patching _ patch now existing, _, _ =>
      onFound existing (patch.apply now)
  | .deleting _ now existing, _, _ => onFound existing (markDeleted now)
  | call, _, _ => call

/-- Calls of the service beside each other. -/
def system : System (LocalStore β) (Local β) (Input β) (Statement β) Reply where
  issue := issue archives
  resume := resume archives dataDir
  exec _ _ statement store := some (exec archives dataDir statement store)

/-- Before the first call. -/
def initial : Pool (LocalStore β) (Local β) where
  shared := ⟨∅, ∅⟩
  locals _ := .idle

/-! ## `localWorkerRunService.js` -/

/-- What the worker knows of an archive that it has checked. -/
structure VerifiedArtifact (β : Type) where
  sha256 : String
  generation : Option String
  fileCount : Nat
  uncompressedBytes : Nat
  buffer : β

/-- `LocalWorkerRunService.verifyApprovedArtifact`. -/
def verifyApprovedArtifact
    (files : Table String β)
    (definition : PinnedDefinition)
    (artifact : JobZip) :
    Except ExecutionMetadataError (VerifiedArtifact β) :=
  if !JavaScript.startsWith artifact.uri "local://" then
    .error ⟨"ARTIFACT_URI_INVALID",
      "expected local:// URI, got: " ++ artifact.uri⟩
  else
    let filePath := String.ofList (artifact.uri.toList.drop 8)
    match files.lookup filePath with
    | none =>
        .error ⟨"ARTIFACT_DOWNLOAD_FAILED",
          "local artifact read failed for " ++ filePath ++
            ": ENOENT: no such file or directory, open '" ++ filePath ++
            "'"⟩
    | some buffer =>
        if archives.sha256 buffer ≠ artifact.sha256 then
          .error ⟨"ARTIFACT_SHA256_MISMATCH",
            "local artifact sha256 mismatch for " ++ filePath⟩
        else
          let options : Options := {
            entrypoint := some (.str definition.entrypoint)
            runtime := some (.str definition.runtime.text)
            wrapperVersion := some (.str definition.wrapperVersion) }
          match validateZipBuffer archives.parse (archives.buffer buffer)
              options with
          | .error message => .error ⟨"ARTIFACT_ZIP_INVALID", message⟩
          | .ok zipInfo => .ok {
              sha256 := archives.sha256 buffer
              generation := artifact.generation
              fileCount := zipInfo.fileCount
              uncompressedBytes := zipInfo.uncompressedBytes
              buffer }

end Service

/-! ## What stays on the disk -/

section Approved

variable {β : Type}
variable (archives : Archives β)
variable (dataDir : String)
variable (uploads : List β)

theorem HexDigest.plain
    {digest : String}
    (hex : HexDigest digest) :
    PosixPaths.Plain digest.toList := by
  have letterOf :
      ∀ {letter : Char}, letter ∈ digest.toList →
        letter ≠ '.' ∧ letter ≠ '/' := by
    intro letter member
    have listed := hex.letters letter member
    constructor <;>
    · rintro rfl
      revert listed
      decide
  have length : digest.toList.length = 64 := hex.length
  constructor
  · intro empty
    rw [empty] at length
    cases length
  · intro here
    rw [here] at length
    cases length
  · intro parent
    rw [parent] at length
    cases length
  · intro slash
    exact (letterOf slash).2 rfl

theorem plain_jobZip : PosixPaths.Plain "job.zip".toList :=
  ⟨by decide, by decide, by decide, by decide⟩

/-- Files of two digests have different names, whatever the definitions. -/
theorem digest_of_approvedFile
    {definitionId other digest otherDigest : String}
    (hex : HexDigest digest)
    (otherHex : HexDigest otherDigest)
    (same :
      approvedFile dataDir definitionId digest =
        approvedFile dataDir other otherDigest) :
    digest = otherDigest :=
  String.toList_injective
    (PosixPaths.normalize_ends_inj hex.plain plain_jobZip otherHex.plain
      plain_jobZip (String.ofList_injective same)).1

/-- An upload that was accepted for a definition, and the file it is in. -/
structure Approved
    (files : Table String β)
    (document : DefinitionDocument)
    (uploaded : β)
    (zipInfo : ZipArtifacts.ZipInfo) :
    Prop where
  sent : uploaded ∈ uploads
  accepted :
    validateUpload archives document.toDefinitionMetadata uploaded =
      .ok zipInfo
  jobZip :
    document.jobZip = some {
      uri := "local://" ++
        approvedFile dataDir document.definitionId
          (archives.sha256 uploaded)
      sha256 := archives.sha256 uploaded
      generation := some "1" }
  fileCount : document.validation.fileCount = zipInfo.fileCount
  uncompressedBytes :
    document.validation.uncompressedBytes = zipInfo.uncompressedBytes
  version : document.version = 1
  kept :
    ∃ bytes ∈ uploads,
      files.lookup
          (approvedFile dataDir document.definitionId
            (archives.sha256 uploaded)) =
          some bytes ∧
        archives.sha256 bytes = archives.sha256 uploaded

/-- The document's archive was accepted and is kept. -/
def Backed
    (files : Table String β)
    (document : DefinitionDocument) :
    Prop :=
  ∃ uploaded zipInfo,
    Approved archives dataDir uploads files document uploaded zipInfo

section Documents

variable {archives dataDir uploads}
variable {files : Table String β}
variable {document : DefinitionDocument}

/-- What a patch leaves of a document is backed as before. -/
theorem Backed.patch
    (backed : Backed archives dataDir uploads files document)
    (patch : DefinitionPatch)
    (now : Timestamp) :
    Backed archives dataDir uploads files (patch.apply now document) := by
  obtain ⟨uploaded, zipInfo, approved⟩ := backed
  exact ⟨uploaded, zipInfo, { approved with }⟩

theorem Backed.markDeleted
    (backed : Backed archives dataDir uploads files document)
    (now : Timestamp) :
    Backed archives dataDir uploads files (markDeleted now document) := by
  obtain ⟨uploaded, zipInfo, approved⟩ := backed
  exact ⟨uploaded, zipInfo, { approved with }⟩

/-- A file that is written takes the place only of one with its digest. -/
theorem Backed.write
    (backed : Backed archives dataDir uploads files document)
    (definitionId : String)
    {bytes : β}
    (sent : bytes ∈ uploads) :
    Backed archives dataDir uploads
      (files.insert
        (approvedFile dataDir definitionId (archives.sha256 bytes)) bytes)
      document := by
  obtain ⟨uploaded, zipInfo, approved⟩ := backed
  obtain ⟨stored, storedSent, found, digest⟩ := approved.kept
  refine ⟨uploaded, zipInfo, { approved with kept := ?_ }⟩
  by_cases same :
      approvedFile dataDir document.definitionId
          (archives.sha256 uploaded) =
        approvedFile dataDir definitionId (archives.sha256 bytes)
  · refine ⟨bytes, sent, ?_, ?_⟩
    · rw [same]
      exact AList.lookup_insert _
    · exact (digest_of_approvedFile dataDir (archives.hexDigest _)
        (archives.hexDigest _) same).symm
  · exact ⟨stored, storedSent,
      (AList.lookup_insert_ne same).trans found, digest⟩

/-- A new document is backed by the file that was written before it. -/
theorem backed_of_upload
    {upload : Upload β}
    (sent : upload.bytes ∈ uploads)
    (accepted :
      validateUpload archives upload.parsed upload.bytes =
        .ok upload.zipInfo)
    (files : Table String β) :
    Backed archives dataDir uploads
      (files.insert
        (approvedFile dataDir upload.parsed.definitionId
          (archives.sha256 upload.bytes)) upload.bytes)
      (upload.document archives dataDir) :=
  ⟨upload.bytes, upload.zipInfo, sent, accepted, rfl, rfl, rfl, rfl,
    upload.bytes, sent, AList.lookup_insert _, rfl⟩

end Documents

/-! ## Runs of the service -/

/-- The document that a waiting call has read. -/
def Local.existing? : Local β → Option DefinitionDocument
  | .patching _ _ _ existing => existing
  | .deleting _ _ existing => existing
  | _ => none

/-- The archive that a call is about to store. -/
def Local.archive? : Local β → Option β
  | .creating _ bytes _ => some bytes
  | _ => none

def Reply.found? : Reply → Option DefinitionDocument
  | .definition found => found
  | _ => none

/-- What a statement is about to write is backed, or an accepted upload. -/
def Statement.Backs
    (files : Table String β) :
    Statement β →
      Prop
  | .store upload =>
      upload.bytes ∈ uploads ∧
        validateUpload archives upload.parsed upload.bytes =
          .ok upload.zipInfo
  | .patch _ document => Backed archives dataDir uploads files document
  | .delete _ document => Backed archives dataDir uploads files document
  | _ => True

/--
Every document that is stored, or that a call goes on with, is backed, and the
archive that a call is about to store was uploaded.
-/
structure Sound (pool : Pool (LocalStore β) (Local β)) : Prop where
  rows :
    ∀ {definitionId : String} {row : DefinitionRow},
      pool.shared.rows.lookup definitionId = some row →
      Backed archives dataDir uploads pool.shared.files row.data
  calls :
    ∀ {process : Nat} {document : DefinitionDocument},
      (pool.locals process).existing? = some document →
      Backed archives dataDir uploads pool.shared.files document
  sent :
    ∀ {process : Nat} {bytes : β},
      (pool.locals process).archive? = some bytes → bytes ∈ uploads

section Steps

variable {archives dataDir uploads}
variable {files : Table String β}

/-- What a statement writes to the disk keeps every document backed. -/
theorem Backed.exec
    {store : LocalStore β}
    {document : DefinitionDocument}
    (backed : Backed archives dataDir uploads store.files document)
    {statement : Statement β}
    (backs : statement.Backs archives dataDir uploads store.files) :
    Backed archives dataDir uploads
      (exec archives dataDir statement store).1.files document := by
  cases statement with
  | store upload =>
      exact backed.write upload.parsed.definitionId backs.1
  | _ =>
      exact backed

theorem backs_of_issue
    {call : Local β}
    {input : Input β}
    {statement : Statement β}
    (backed :
      ∀ {document : DefinitionDocument},
        call.existing? = some document →
        Backed archives dataDir uploads files document)
    (sent :
      ∀ {bytes : β}, call.archive? = some bytes → bytes ∈ uploads)
    (issued : issue archives call input = some statement) :
    statement.Backs archives dataDir uploads files := by
  unfold issue at issued
  split at issued
  · cases issued
    trivial
  · split at issued <;>
    · cases issued
      trivial
  · cases issued
    trivial
  · split at issued
    · cases issued
      trivial
    · rename_i zipInfo accepted
      cases issued
      exact ⟨sent rfl, accepted⟩
  · split at issued
    · cases issued
      trivial
    · rename_i document
      cases issued
      exact (backed rfl).patch _ _
  · split at issued
    · cases issued
      trivial
    · rename_i document
      cases issued
      exact (backed rfl).markDeleted _
  · cases issued

/-- A call goes on with the document that it has just read, if any. -/
theorem found_of_resume
    {call : Local β}
    {input : Input β}
    {reply : Reply}
    {document : DefinitionDocument}
    (existing :
      (resume archives dataDir call input reply).existing? =
        some document) :
    reply.found? = some document ∨ call.existing? = some document := by
  unfold resume at existing
  split at existing
  · split at existing <;> cases existing
  · split at existing
    · exact .inl existing
    · cases existing
  · split at existing
    · exact .inl existing
    · cases existing
  · split at existing <;> cases existing
  · unfold onFound at existing
    split at existing <;> cases existing
  · unfold onFound at existing
    split at existing <;> cases existing
  · exact .inr existing

/-- A call is about to store the archive that it brings, or had before. -/
theorem archive_of_resume
    {call : Local β}
    {input : Input β}
    {reply : Reply}
    {bytes : β}
    (storing :
      (resume archives dataDir call input reply).archive? = some bytes) :
    input.archive? = some bytes ∨ call.archive? = some bytes := by
  unfold resume at storing
  split at storing
  · split at storing
    · cases storing
    · exact .inl storing
  · split at storing <;> cases storing
  · split at storing <;> cases storing
  · split at storing <;> cases storing
  · unfold onFound at storing
    split at storing <;> cases storing
  · unfold onFound at storing
    split at storing <;> cases storing
  · exact .inr storing

/-- The rows are backed after every statement that backs what it writes. -/
theorem rows_exec
    {store : LocalStore β}
    (rows :
      ∀ {definitionId : String} {row : DefinitionRow},
        store.rows.lookup definitionId = some row →
        Backed archives dataDir uploads store.files row.data)
    {statement : Statement β}
    (backs : statement.Backs archives dataDir uploads store.files)
    {definitionId : String}
    {row : DefinitionRow}
    (found :
      (exec archives dataDir statement store).1.rows.lookup definitionId =
        some row) :
    Backed archives dataDir uploads
      (exec archives dataDir statement store).1.files row.data := by
  cases statement with
  | skip | read =>
      exact rows found
  | store upload =>
      change (Table.upsertWhere store.rows upload.parsed.definitionId _
        _).1.lookup definitionId = some row at found
      rw [Table.lookup_upsertWhere] at found
      split at found
      · cases found
        exact backed_of_upload backs.1 backs.2 store.files
      · exact (rows found).write upload.parsed.definitionId backs.1
  | patch id document =>
      change (store.rows.updateWhere id
        (patchRow document)).1.lookup definitionId = some row at found
      rw [Table.lookup_updateWhere] at found
      split at found
      · obtain ⟨before, -, rfl⟩ := Option.map_eq_some_iff.mp found
        exact backs
      · exact rows found
  | delete id document =>
      change (store.rows.updateWhere id
        (deleteRow document)).1.lookup definitionId = some row at found
      rw [Table.lookup_updateWhere] at found
      split at found
      · obtain ⟨before, -, rfl⟩ := Option.map_eq_some_iff.mp found
        exact backs
      · exact rows found

theorem found_exec
    {store : LocalStore β}
    (rows :
      ∀ {definitionId : String} {row : DefinitionRow},
        store.rows.lookup definitionId = some row →
        Backed archives dataDir uploads store.files row.data)
    {statement : Statement β}
    {document : DefinitionDocument}
    (found :
      (exec archives dataDir statement store).2.found? = some document) :
    Backed archives dataDir uploads
      (exec archives dataDir statement store).1.files document := by
  cases statement with
  | read definitionId =>
      obtain ⟨row, stored, rfl⟩ := Option.map_eq_some_iff.mp found
      exact rows stored
  | _ =>
      cases found

theorem Sound.step
    {pool next : Pool (LocalStore β) (Local β)}
    {label : Label (Input β)}
    (sound : Sound archives dataDir uploads pool)
    (sent :
      ∀ {bytes : β}, label.2.archive? = some bytes → bytes ∈ uploads)
    (stepped : (system archives dataDir).step? pool label = some next) :
    Sound archives dataDir uploads next ∧
      ∀ {document : DefinitionDocument},
        Backed archives dataDir uploads pool.shared.files document →
          Backed archives dataDir uploads next.shared.files document := by
  obtain ⟨statement, shared, reply, issued, executed, rfl⟩ :=
    System.step?_eq_some.mp stepped
  have effect := Option.some.inj executed
  obtain rfl : (exec archives dataDir statement pool.shared).1 = shared :=
    congrArg Prod.fst effect
  obtain rfl : (exec archives dataDir statement pool.shared).2 = reply :=
    congrArg Prod.snd effect
  have backs :
      statement.Backs archives dataDir uploads pool.shared.files :=
    backs_of_issue sound.calls sound.sent issued
  have still
      {document : DefinitionDocument}
      (backed :
        Backed archives dataDir uploads pool.shared.files document) :=
    backed.exec backs
  refine ⟨?_, still⟩
  constructor
  · intro definitionId row found
    exact rows_exec sound.rows backs found
  · intro process document existing
    dsimp only at existing ⊢
    by_cases own : process = label.1
    · rw [own, Function.update_self] at existing
      rcases found_of_resume existing with found | before
      · exact found_exec sound.rows found
      · exact still (sound.calls before)
    · rw [Function.update_of_ne own] at existing
      exact still (sound.calls existing)
  · intro process bytes storing
    dsimp only at storing
    by_cases own : process = label.1
    · rw [own, Function.update_self] at storing
      rcases archive_of_resume storing with brought | before
      · exact sent brought
      · exact sound.sent before
    · rw [Function.update_of_ne own] at storing
      exact sound.sent storing

/-- What is sound stays so, and what is backed stays so beside it. -/
theorem Sound.run
    {schedule : List (Label (Input β))}
    {pool final : Pool (LocalStore β) (Local β)}
    (sound : Sound archives dataDir uploads pool)
    (sent : ∀ bytes ∈ uploadedArchives schedule, bytes ∈ uploads)
    (ran : (system archives dataDir).run? pool schedule = some final) :
    Sound archives dataDir uploads final ∧
      ∀ {document : DefinitionDocument},
        Backed archives dataDir uploads pool.shared.files document →
          Backed archives dataDir uploads final.shared.files document := by
  refine System.run?_induction_within
    (fun reached => Sound archives dataDir uploads reached ∧
      ∀ {document : DefinitionDocument},
        Backed archives dataDir uploads pool.shared.files document →
          Backed archives dataDir uploads reached.shared.files document)
    ⟨sound, id⟩ ?_ (List.append_nil schedule).symm ran
  rintro earlier later reached next label shape - ⟨sound, backed⟩ stepped
  have brought
      {bytes : β}
      (archive : label.2.archive? = some bytes) :
      bytes ∈ uploads :=
    sent bytes (List.mem_filterMap.mpr ⟨label, by simp [shape], archive⟩)
  obtain ⟨soundNext, kept⟩ := sound.step brought stepped
  exact ⟨soundNext, fun before => kept (backed before)⟩

theorem sound_of_run
    {schedule : List (Label (Input β))}
    {pool : Pool (LocalStore β) (Local β)}
    (sent : ∀ bytes ∈ uploadedArchives schedule, bytes ∈ uploads)
    (ran : (system archives dataDir).run? initial schedule = some pool) :
    Sound archives dataDir uploads pool := by
  refine (Sound.run ?_ sent ran).1
  constructor
  · rintro definitionId row ⟨⟩
  · rintro process document ⟨⟩
  · rintro process bytes ⟨⟩

end Steps

/-! ## What the local worker runs -/

/-- Two of the uploads are different and have one digest. -/
def Collision : Prop :=
  ∃ first ∈ uploads, ∃ second ∈ uploads,
    first ≠ second ∧ archives.sha256 first = archives.sha256 second

variable {archives dataDir uploads}

/-- The file of a document passes the checks that its upload passed. -/
theorem Backed.verified
    {files : Table String β}
    {document : DefinitionDocument}
    (backed : Backed archives dataDir uploads files document)
    {definitionId : String}
    {definitionVersion : Option Int}
    {definition : PinnedDefinition}
    {artifact : JobZip}
    (built :
      buildExecutionMetadata definitionId definitionVersion
          (buildExecutionMetadataSnapshot (some document)) =
        .ok (definition, artifact)) :
    (∃ verified,
        verifyApprovedArtifact archives files definition artifact =
            .ok verified ∧
          verified.sha256 = artifact.sha256 ∧
          verified.fileCount = document.validation.fileCount ∧
          verified.uncompressedBytes =
            document.validation.uncompressedBytes) ∨
      Collision archives uploads := by
  obtain ⟨uploaded, zipInfo, sent, accepted, jobZip, count, size, -, bytes,
    storedSent, found, digest⟩ := backed
  obtain ⟨defined, -, named⟩ := buildExecutionMetadata_ok built
  cases defined
  cases jobZip.symm.trans named
  by_cases same : bytes = uploaded
  · subst same
    refine .inl ⟨⟨archives.sha256 bytes, some "1", zipInfo.fileCount,
      zipInfo.uncompressedBytes, bytes⟩, ?_, rfl, count.symm, size.symm⟩
    have scheme :
        ∀ path : String,
          JavaScript.startsWith ("local://" ++ path) "local://" = true ∧
            String.ofList (("local://" ++ path).toList.drop 8) = path := by
      intro path
      have letters :
          ("local://" ++ path).toList =
            "local://".toList ++ path.toList :=
        String.toList_append
      refine ⟨?_, ?_⟩
      · rw [JavaScript.startsWith, letters]
        exact List.isPrefixOf_iff_prefix.mpr (List.prefix_append _ _)
      · rw [letters]
        exact String.ofList_toList
    obtain ⟨isLocal, filePath⟩ :=
      scheme (approvedFile dataDir document.definitionId
        (archives.sha256 bytes))
    unfold verifyApprovedArtifact
    dsimp only
    rw [isLocal, if_neg (by decide), filePath, found]
    dsimp only
    rw [if_neg (not_not.mpr rfl)]
    change (match validateUpload archives document.toDefinitionMetadata bytes
      with | .error _ => _ | .ok _ => _) = _
    rw [accepted]
  · exact .inr ⟨bytes, storedSent, uploaded, sent, same, digest⟩

/--
Whatever calls of the service interleave before and after a local run reads its
definition, the archive that it then loads passes every check again and is of
the size that was approved, unless two of the uploads have one digest.
-/
theorem local_artifact_verified
    {schedule later : List (Label (Input β))}
    {pool final : Pool (LocalStore β) (Local β)}
    (ran : (system archives dataDir).run? initial schedule = some pool)
    (ranLater : (system archives dataDir).run? pool later = some final)
    {definitionId : String}
    {document : DefinitionDocument}
    (found : pool.shared.definition definitionId = some document)
    {definitionVersion : Option Int}
    {definition : PinnedDefinition}
    {artifact : JobZip}
    (built :
      buildExecutionMetadata definitionId definitionVersion
          (buildExecutionMetadataSnapshot (some document)) =
        .ok (definition, artifact)) :
    (∃ verified,
        verifyApprovedArtifact archives final.shared.files definition
            artifact = .ok verified ∧
          verified.sha256 = artifact.sha256 ∧
          verified.fileCount = document.validation.fileCount ∧
          verified.uncompressedBytes =
            document.validation.uncompressedBytes) ∨
      Collision archives (uploadedArchives (schedule ++ later)) := by
  obtain ⟨row, stored, rfl⟩ := Option.map_eq_some_iff.mp found
  have sound :
      Sound archives dataDir (uploadedArchives (schedule ++ later)) pool :=
    sound_of_run (by simp +contextual [uploadedArchives]) ran
  obtain ⟨-, kept⟩ :=
    sound.run (by simp +contextual [uploadedArchives]) ranLater
  exact (kept (sound.rows stored)).verified built

end Approved

/-- A digest in one letter. -/
def digestLetter (buffer : ZipBuffer) : Char :=
  if buffer.length = 400 then 'a' else 'b'

/-- Archives that are told apart by their size. -/
def jobArchives : Archives ZipBuffer where
  sha256 buffer := String.ofList (List.replicate 64 (digestLetter buffer))
  hexDigest buffer := by
    refine ⟨by simp, ?_⟩
    intro letter member
    rw [String.toList_ofList] at member
    rw [List.eq_of_mem_replicate member, digestLetter]
    split <;> decide
  buffer := id
  parse := JobRuntimeExecutor.parseManifestOf "main.js"

/-- `nightly-sync` is uploaded. -/
def uploadNightly : List (Label (Input ZipBuffer)) :=
  [(0, .start (.createDefinition (JobRuntimeExecutor.jobInput "main.js")
      (JobRuntimeExecutor.jobArchive "main.js")) 5),
    (0, .proceed)]

/-- It is deleted, and uploaded once more with other code. -/
def replaceNightly : List (Label (Input ZipBuffer)) :=
  [(1, .start (.deleteDefinition "nightly-sync") 6), (1, .proceed),
    (2, .start (.createDefinition (JobRuntimeExecutor.jobInput "main.js")
      { JobRuntimeExecutor.jobArchive "main.js" with length := 500 }) 7),
    (2, .proceed)]

/-- The two uploads have different digests, so what was read is verified. -/
theorem local_artifact_verified_nightly :
    ∃ pool final document definition artifact,
      (system jobArchives "data").run? initial uploadNightly = some pool ∧
        (system jobArchives "data").run? pool replaceNightly = some final ∧
        pool.shared.definition "nightly-sync" = some document ∧
        ∃ verified,
          verifyApprovedArtifact jobArchives final.shared.files definition
              artifact = .ok verified ∧
            verified.sha256 = artifact.sha256 ∧
            verified.fileCount = document.validation.fileCount ∧
            verified.uncompressedBytes =
              document.validation.uncompressedBytes := by
  obtain ⟨pool, document, definition, artifact, ran, found, built⟩ :
      ∃ pool document definition artifact,
        (system jobArchives "data").run? initial uploadNightly = some pool ∧
          pool.shared.definition "nightly-sync" = some document ∧
          buildExecutionMetadata "nightly-sync" (some 1)
              (buildExecutionMetadataSnapshot (some document)) =
            .ok (definition, artifact) :=
    ⟨_, _, _, _, rfl, rfl, rfl⟩
  obtain ⟨final, ranLater⟩ :
      ∃ final,
        (system jobArchives "data").run? pool replaceNightly =
          some final := by
    cases ran
    exact ⟨_, rfl⟩
  have digests :
      jobArchives.sha256 (JobRuntimeExecutor.jobArchive "main.js") ≠
        jobArchives.sha256
          { JobRuntimeExecutor.jobArchive "main.js" with length := 500 } := by
    decide
  refine ⟨pool, final, document, definition, artifact, ran, ranLater, found,
    (local_artifact_verified ran ranLater found built).resolve_right ?_⟩
  rintro ⟨first, sent, second, otherSent, different, same⟩
  simp only [uploadedArchives, uploadNightly, replaceNightly,
    Input.archive?, List.cons_append, List.nil_append,
    List.filterMap_cons, List.filterMap_nil, List.mem_cons,
    List.not_mem_nil, or_false] at sent otherSent
  obtain rfl | rfl := sent <;> obtain rfl | rfl := otherSent
  · exact different rfl
  · exact digests same
  · exact digests same.symm
  · exact different rfl

section Versions

variable {β : Type}
variable {archives : Archives β}
variable {dataDir : String}

/--
Every upload has version 1, so a local run that is pinned to the version of one
upload runs whatever is stored when it starts, of any later upload.
-/
theorem local_pin_follows_uploads
    {schedule later : List (Label (Input β))}
    {pool final : Pool (LocalStore β) (Local β)}
    (ran : (system archives dataDir).run? initial schedule = some pool)
    (ranLater : (system archives dataDir).run? pool later = some final)
    {definitionId : String}
    (named : definitionId ≠ "")
    {document current : DefinitionDocument}
    (pinned : pool.shared.definition definitionId = some document)
    (found : final.shared.definition definitionId = some current)
    (active : current.enabled = true ∧ current.state = .active) :
    document.version = 1 ∧ current.version = 1 ∧
      ∃ definition artifact,
        buildExecutionMetadata definitionId (some document.version)
            (buildExecutionMetadataSnapshot (some current)) =
            .ok (definition, artifact) ∧
          current.digest = some artifact.sha256 := by
  have ranWhole :
      (system archives dataDir).run? initial (schedule ++ later) =
        some final :=
    System.run?_append_eq_some.mpr ⟨pool, ran, ranLater⟩
  obtain ⟨row, stored, rfl⟩ := Option.map_eq_some_iff.mp pinned
  obtain ⟨newest, storedLater, rfl⟩ := Option.map_eq_some_iff.mp found
  obtain ⟨-, -, -, -, -, -, -, version, -⟩ :=
    (sound_of_run (fun _ => id) ran).rows stored
  obtain ⟨uploaded, -, -, -, jobZip, -, -, versionLater, -⟩ :=
    (sound_of_run (fun _ => id) ranWhole).rows storedLater
  have digest : archives.sha256 uploaded ≠ "" := by
    intro empty
    have length := (archives.hexDigest uploaded).length
    rw [empty] at length
    cases length
  have digestOf :
      newest.data.digest = some (archives.sha256 uploaded) := by
    rw [DefinitionDocument.digest, jobZip]
    rfl
  have uri :
      ∀ path : String, "local://" ++ path ≠ "" := by
    intro path empty
    have letters := congrArg String.toList empty
    rw [String.toList_append] at letters
    cases letters
  let data := newest.data
  refine ⟨version, versionLater, ⟨data.definitionId, data.version, data.runtime,
    data.runtimeVersion, data.wrapperVersion, data.entrypoint,
    data.timeoutSeconds⟩, ⟨"local://" ++ approvedFile dataDir
      data.definitionId (archives.sha256 uploaded),
    archives.sha256 uploaded, some "1"⟩, ?_, digestOf⟩
  unfold buildExecutionMetadata
  rw [if_neg named]
  simp only [buildExecutionMetadataSnapshot, active.1, active.2, version,
    jobZip, data]
  simp [digest, uri, versionLater]

end Versions

/-- The run of the first upload gets the code of the second one. -/
theorem local_pin_follows_uploads_nightly :
    ∃ pool final document current,
      (system jobArchives "data").run? initial uploadNightly = some pool ∧
        (system jobArchives "data").run? pool replaceNightly = some final ∧
        pool.shared.definition "nightly-sync" = some document ∧
        current.digest ≠ document.digest ∧
        document.version = 1 ∧ current.version = 1 ∧
        ∃ definition artifact,
          buildExecutionMetadata "nightly-sync" (some document.version)
              (buildExecutionMetadataSnapshot (some current)) =
              .ok (definition, artifact) ∧
            current.digest = some artifact.sha256 := by
  obtain ⟨pool, document, ran, pinned, digest⟩ :
      ∃ pool document,
        (system jobArchives "data").run? initial uploadNightly = some pool ∧
          pool.shared.definition "nightly-sync" = some document ∧
          document.digest =
            some (String.ofList (List.replicate 64 'a')) :=
    ⟨_, _, rfl, rfl, rfl⟩
  obtain ⟨final, current, ranLater, found, active, otherDigest⟩ :
      ∃ final current,
        (system jobArchives "data").run? pool replaceNightly = some final ∧
          final.shared.definition "nightly-sync" = some current ∧
          (current.enabled = true ∧ current.state = .active) ∧
          current.digest =
            some (String.ofList (List.replicate 64 'b')) := by
    cases ran
    exact ⟨_, _, rfl, rfl, ⟨rfl, rfl⟩, rfl⟩
  refine ⟨pool, final, document, current, ran, ranLater, pinned, ?_,
    local_pin_follows_uploads ran ranLater (by decide) pinned found active⟩
  rw [digest, otherDigest]
  decide

end LocalDefinitions

end IgaScheduler
