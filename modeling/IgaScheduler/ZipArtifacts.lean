import IgaScheduler.FileTrees
import IgaScheduler.MetadataSnapshot
import IgaScheduler.PosixPaths

namespace IgaScheduler

/-!
# Job archives

How the archive of a definition is checked when it is uploaded, and how a run
unpacks it.  Both walk over the entries that the zip reader hands over; a path
in the file system is the list of its names from the root.
-/

namespace ZipArtifacts

open ExecutionMetadata (field strictEquals templateText)
open FileTrees (Node Tree)
open PosixPaths (Segment)

/-- An entry of an archive, with the bytes its stream delivers. -/
structure ZipEntry where
  fileName : String
  externalFileAttributes : UInt32
  content : List UInt8

/-- The stream of an entry delivers the size that the entry declares. -/
def ZipEntry.uncompressedSize (entry : ZipEntry) : Nat :=
  entry.content.length

/-- A buffer, and what the zip reader finds in it. -/
structure ZipBuffer where
  length : Nat
  opened : Except String (List ZipEntry)

/-! ## `zipArtifactPolicy.js` -/

def deniedFilenames : List String :=
  [".env", ".npmrc", ".pypirc", ".netrc", "secrets.json", "credentials.json",
    "id_rsa", "id_dsa", "id_ecdsa", "id_ed25519"]

def deniedDirectoryNames : List String :=
  [".git", ".ssh", ".aws", ".gcp", ".azure"]

def isDeniedPath (name : String) : Bool :=
  let parts := (name.toList.splitOn '/').filter fun part => part ≠ []
  parts.any fun part =>
    deniedFilenames.contains (String.ofList part) ||
      deniedDirectoryNames.contains (String.ofList part)

/-- `value.trim() === ""`. -/
def isBlank (value : String) : Bool :=
  value.toList.all JavaScript.isWhiteSpace

def normalizeZipRelativePath
    (value label : String) :
    Except String String :=
  let refused := Except.error ("unsafe " ++ label ++ " path: " ++ value)
  if isBlank value then
    refused
  else if '\\' ∈ value.toList then
    refused
  else if PosixPaths.isAbsolute value.toList then
    refused
  else
    let normalized := PosixPaths.normalize value.toList
    if PosixPaths.Escapes normalized then refused
    else .ok (String.ofList normalized)

/-- `entryName.endsWith("/")`. -/
def isZipEntryDirectory (entryName : String) : Bool :=
  PosixPaths.endsInSlash entryName.toList

/-- `isDirectory ? 0 : 1`. -/
def countedFiles (entry : ZipEntry) : Nat :=
  if isZipEntryDirectory entry.fileName then 0 else 1

def isZipEntrySymlink (entry : ZipEntry) : Bool :=
  let unixMode := (entry.externalFileAttributes >>> 16) &&& 0o170000
  let dosDirectoryFlag := entry.externalFileAttributes &&& 0x10
  if unixMode = 0o120000 then
    true
  else
    unixMode = 0 && dosDirectoryFlag = 0 &&
      ['.', 'l', 'n', 'k'].isSuffixOf entry.fileName.toList

def validateZipEntryPolicy (entry : ZipEntry) : Except String String :=
  match normalizeZipRelativePath entry.fileName "zip entry" with
  | .error message => .error message
  | .ok normalizedName =>
      if isDeniedPath normalizedName then
        .error ("Denied file in zip: " ++ entry.fileName)
      else if isZipEntrySymlink entry then
        .error ("Symlinks are not allowed: " ++ entry.fileName)
      else
        .ok normalizedName

/-! ## `zipValidation.js` -/

def maxZipBytes : Nat := 10 * 1024 * 1024
def maxUncompressedBytes : Nat := 50 * 1024 * 1024
def maxFileCount : Nat := 200
def maxManifestBytes : Nat := 64 * 1024

/-- The metadata of a definition that its archive has to agree with. -/
structure Options where
  entrypoint : Option Json
  runtime : Option Json
  wrapperVersion : Option Json

/-- What the walk over the entries has found so far. -/
structure Scan where
  fileCount : Nat
  uncompressedBytes : Nat
  hasEntrypoint : Bool
  hasManifest : Bool
  manifest : Option Json

def Scan.initial : Scan where
  fileCount := 0
  uncompressedBytes := 0
  hasEntrypoint := false
  hasManifest := false
  manifest := none

structure ZipInfo where
  fileCount : Nat
  uncompressedBytes : Nat
  manifest : Option Json

section Validation

-- `JSON.parse(bytes.toString("utf8"))`.
variable (parse : List UInt8 → Except String Json)

/-- The handler of an `entry` event, up to the next `readEntry`. -/
def validateEntry
    (entrypoint : Option Json)
    (scan : Scan)
    (entry : ZipEntry) :
    Except String Scan :=
  match validateZipEntryPolicy entry with
  | .error message => .error message
  | .ok name =>
      let isDirectory := isZipEntryDirectory entry.fileName
      let scan :=
        { scan with
          fileCount := scan.fileCount + countedFiles entry
          uncompressedBytes := scan.uncompressedBytes + entry.uncompressedSize }
      if maxFileCount < scan.fileCount then
        .error s!"Zip contains more than {maxFileCount} files"
      else if maxUncompressedBytes < scan.uncompressedBytes then
        .error s!"Zip uncompressed size exceeds {maxUncompressedBytes} bytes"
      else
        let scan :=
          { scan with
            hasEntrypoint := scan.hasEntrypoint ||
              strictEquals (some (.str name)) entrypoint
            hasManifest := scan.hasManifest || name = "manifest.json" }
        if isDirectory || name ≠ "manifest.json" then
          .ok scan
        else if maxManifestBytes < entry.uncompressedSize then
          .error s!"manifest.json exceeds {maxManifestBytes} bytes"
        else
          match parse entry.content with
          | .error message =>
              .error ("manifest.json is invalid JSON: " ++ message)
          | .ok manifest => .ok { scan with manifest := some manifest }

def assertManifestField
    (manifest : Json)
    (name : String)
    (expected : Option Json) :
    Except String Unit :=
  if strictEquals (field (some manifest) name) expected then
    .ok ()
  else
    .error ("manifest.json " ++ name ++ " must match metadata " ++ name ++
      ": expected " ++ templateText expected)

/-- The field is asserted only when the metadata has it. -/
def assertGivenField
    (manifest : Json)
    (name : String)
    (expected : Option Json) :
    Except String Unit :=
  if expected.isSome then assertManifestField manifest name expected else .ok ()

def validateManifestContract
    (manifest : Option Json)
    (options : Options) :
    Except String Unit :=
  match manifest with
  | some (.obj fields) => do
      assertManifestField (.obj fields) "entrypoint" options.entrypoint
      assertGivenField (.obj fields) "runtime" options.runtime
      assertGivenField (.obj fields) "wrapperVersion" options.wrapperVersion
  | _ => .error "manifest.json must contain a JSON object"

def validateZipBuffer
    (buffer : ZipBuffer)
    (options : Options) :
    Except String ZipInfo :=
  if buffer.length = 0 then
    .error "Uploaded artifact is empty"
  else if maxZipBytes < buffer.length then
    .error s!"Zip exceeds max size of {maxZipBytes} bytes"
  else
    match buffer.opened with
    | .error message => .error ("Invalid zip file: " ++ message)
    | .ok entries => do
        let scan ←
          entries.foldlM (validateEntry parse options.entrypoint) Scan.initial
        if !scan.hasManifest then
          .error "Zip must contain manifest.json"
        else if !scan.hasEntrypoint then
          .error ("Zip must contain entrypoint: " ++
            templateText options.entrypoint)
        else
          validateManifestContract scan.manifest options
          return {
            fileCount := scan.fileCount
            uncompressedBytes := scan.uncompressedBytes
            manifest := scan.manifest }

end Validation

/-! ## The file system -/

abbrev Path := List Segment

abbrev Files := Tree Segment (List UInt8)

inductive FileError where
  | ENOENT
  | ENOTDIR
  | EEXIST
  | EISDIR
  | ERR_INVALID_ARG_VALUE
  deriving DecidableEq, Repr

/-- What a promise of the extraction is rejected with. -/
inductive Failure where
  | message (text : String)
  | file (error : FileError)
  deriving DecidableEq, Repr

/-- No function of the file system takes a path with a null character. -/
def hasNull (path : Path) : Bool :=
  path.any fun name => '\x00' ∈ name

/-- A directory that `fs.mkdtemp` has made, in the file system it is in. -/
structure TemporaryDirectory where
  files : Files
  path : Path
  noNull : hasNull path = false
  above : ∀ place, place <+: path → files place = some .directory
  below : ∀ place, path <+: place → place ≠ path → files place = none

/-- `fs.mkdir(path, { recursive: true })`. -/
def mkdir
    (files : Files)
    (path : Path) :
    Except Failure Files :=
  if hasNull path then
    .error (.file .ERR_INVALID_ARG_VALUE)
  else
    match FileTrees.mkdirp files path with
    | some made => .ok made
    | none =>
        .error (.file (if Node.isFile (files path) then .EEXIST else .ENOTDIR))

/-- `writeStreamToFile`, for a stream that delivers the content. -/
def writeStreamToFile
    (files : Files)
    (content : List UInt8)
    (path : Path) :
    Except Failure Files :=
  if hasNull path then
    .error (.file .ERR_INVALID_ARG_VALUE)
  else
    match FileTrees.writeFile files path content with
    | some written => .ok written
    | none =>
        .error (.file
          (if Node.isDirectory (files path) then .EISDIR
          else if Node.isFile (files path.dropLast) then .ENOTDIR
          else .ENOENT))

/-- `fs.stat(path)`. -/
def stat
    (files : Files)
    (path : Path) :
    Except Failure (Node (List UInt8)) :=
  if hasNull path then
    .error (.file .ERR_INVALID_ARG_VALUE)
  else
    match files path with
    | some node => .ok node
    | none =>
        .error (.file
          (if path.inits.any fun above => Node.isFile (files above) then
            .ENOTDIR
          else
            .ENOENT))

/-! ## `safeZipExtract.js` -/

def safeJoin
    (root : Path)
    (relativePath : String) :
    Except Failure Path :=
  let resolvedTarget := PosixPaths.resolve root relativePath.toList
  if root <+: resolvedTarget then
    .ok resolvedTarget
  else
    .error (.message ("unsafe extraction target: " ++ relativePath))

/-- The files as they are, and what has been unpacked so far. -/
structure Progress where
  files : Files
  fileCount : Nat
  uncompressedBytes : Nat

/-- Make the directory of the entry, or write its file. -/
def unpackEntry
    (files : Files)
    (targetPath : Path)
    (entry : ZipEntry) :
    Except Failure Files :=
  if isZipEntryDirectory entry.fileName then
    mkdir files targetPath
  else do
    let files ← mkdir files targetPath.dropLast
    writeStreamToFile files entry.content targetPath

/-- The handler of an `entry` event, up to the next `readEntry`. -/
def extractEntry
    (extractDir : Path)
    (progress : Progress)
    (entry : ZipEntry) :
    Except Failure Progress :=
  match validateZipEntryPolicy entry with
  | .error message => .error (.message message)
  | .ok normalizedName =>
      let fileCount := progress.fileCount + countedFiles entry
      let uncompressedBytes :=
        progress.uncompressedBytes + entry.uncompressedSize
      if maxFileCount < fileCount then
        .error (.message s!"zip contains more than {maxFileCount} files")
      else if maxUncompressedBytes < uncompressedBytes then
        .error (.message
          s!"zip uncompressed size exceeds {maxUncompressedBytes} bytes")
      else do
        let targetPath ← safeJoin extractDir normalizedName
        let files ← unpackEntry progress.files targetPath entry
        return { files, fileCount, uncompressedBytes }

def extractZipEntries
    (buffer : ZipBuffer)
    (extractDir : Path)
    (files : Files) :
    Except Failure Progress :=
  match buffer.opened with
  | .error message => .error (.message ("invalid zip file: " ++ message))
  | .ok entries =>
      entries.foldlM (extractEntry extractDir)
        { files, fileCount := 0, uncompressedBytes := 0 }

/-- What a successful extraction returns, and the files it leaves. -/
structure Extracted where
  files : Files
  extractDir : Path
  entrypointPath : Path
  fileCount : Nat
  uncompressedBytes : Nat

/-- A missing entrypoint is reported by name. -/
def statEntrypoint
    (files : Files)
    (entrypointPath : Path)
    (entrypoint : String) :
    Except Failure Unit :=
  match stat files entrypointPath with
  | .ok node =>
      if Node.isFile (some node) then
        .ok ()
      else
        .error (.message ("entrypoint is not a file: " ++ entrypoint))
  | .error (.file .ENOENT) =>
      .error (.message
        ("entrypoint not found after extraction: " ++ entrypoint))
  | .error error => .error error

/--
`safeZipExtract` with its default limits; after a failure the directory is
removed again, and nothing of it is returned.
-/
def safeZipExtract
    (buffer : ZipBuffer)
    (entrypoint : String)
    (created : TemporaryDirectory) :
    Except Failure Extracted :=
  if buffer.length = 0 then
    .error (.message "zip buffer is required")
  else
    match normalizeZipRelativePath entrypoint "entrypoint" with
    | .error message => .error (.message message)
    | .ok normalizedEntrypoint => do
        let result ← extractZipEntries buffer created.path created.files
        let entrypointPath ← safeJoin created.path normalizedEntrypoint
        statEntrypoint result.files entrypointPath entrypoint
        return {
          files := result.files
          extractDir := created.path
          entrypointPath
          fileCount := result.fileCount
          uncompressedBytes := result.uncompressedBytes }

/-! ## `JobRuntimeExecutor.validateEntrypoint` -/

structure ValidationError where
  code : String
  message : String
  retryable : Bool
  deriving DecidableEq, Repr

/-- `entrypoint.replaceAll("\\", "/")`. -/
def slashes (entrypoint : String) : List Char :=
  entrypoint.toList.map fun letter => if letter = '\\' then '/' else letter

def validateEntrypoint
    (entrypoint : Option Json) :
    Except ValidationError String :=
  match entrypoint with
  | some (.str entrypoint) =>
      if entrypoint = "" then
        .error
          ⟨"RUNTIME_ENTRYPOINT_REQUIRED", "entrypoint is required", false⟩
      else if PosixPaths.isAbsolute entrypoint.toList then
        .error ⟨"RUNTIME_ENTRYPOINT_INVALID",
          "entrypoint must be relative", false⟩
      else
        let normalized := PosixPaths.normalize (slashes entrypoint)
        if PosixPaths.Escapes normalized then
          .error ⟨"RUNTIME_ENTRYPOINT_INVALID",
            "entrypoint must not traverse outside the artifact root", false⟩
        else
          .ok (String.ofList normalized)
  | _ =>
      .error ⟨"RUNTIME_ENTRYPOINT_REQUIRED", "entrypoint is required", false⟩

end ZipArtifacts

end IgaScheduler
