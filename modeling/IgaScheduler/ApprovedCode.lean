import IgaScheduler.ArtifactExtraction
import IgaScheduler.JobDefinition
import IgaScheduler.JobExecution

namespace IgaScheduler

/-!
# What is run, and what was approved

Between the extraction and the start of the process the executor writes two
files of its own.  Every other file has the bytes of its last entry in the
archive.  So has the entrypoint, unless it is a name that one of those two
files is written under.
-/

namespace ZipArtifacts

open FileTrees (Node)

/-- A file that is written, and what stands elsewhere. -/
theorem writeStreamToFile_places
    {files written : Files}
    {content : List UInt8}
    {path : Path}
    (wrote : writeStreamToFile files content path = .ok written) :
    written path = some (.file content) ∧
      ∀ place, place ≠ path → written place = files place := by
  obtain ⟨-, put⟩ := writeStreamToFile_eq_ok.mp wrote
  obtain ⟨-, -, rfl⟩ := FileTrees.writeFile_eq_some.mp put
  exact ⟨if_pos rfl, fun place different => if_neg different⟩

/-- A directory that is made leaves the files alone. -/
theorem mkdir_places
    {files made : Files}
    {path place : Path}
    (ran : mkdir files path = .ok made)
    (isFile : Node.isFile (files place) = true) :
    made place = files place := by
  obtain ⟨-, put⟩ := mkdir_eq_ok.mp ran
  obtain ⟨free, rfl⟩ := FileTrees.mkdirp_eq_some.mp put
  refine if_neg fun above => ?_
  rw [free place above] at isFile
  cases isFile

end ZipArtifacts

namespace JobRuntimeExecutor

open FileTrees (Node)
open JavaScript (bind_eq_ok)
open ZipArtifacts

theorem mapError_eq_ok
    {ε δ α : Type}
    {first : Except ε α}
    {convert : ε → δ}
    {result : α} :
    first.mapError convert = .ok result ↔ first = .ok result := by
  cases first with
  | error failure =>
      exact ⟨nofun, nofun⟩
  | ok value =>
      exact ⟨fun same => by cases same; rfl, fun same => by cases same; rfl⟩

/-- The context file, and what stands elsewhere. -/
theorem writeContextFile_places
    {files written : Files}
    {extractDir : Path}
    {context : Option Json}
    (wrote : writeContextFile files extractDir context = .ok written) :
    written (extractDir ++ contextFile) =
        some (.file (contextText context)) ∧
      ∀ place,
        place ≠ extractDir ++ contextFile →
        Node.isFile (files place) = true →
        written place = files place := by
  obtain ⟨made, ran, stored⟩ := bind_eq_ok.mp wrote
  obtain ⟨present, elsewhere⟩ := writeStreamToFile_places stored
  exact ⟨present, fun place different isFile =>
    (elsewhere place different).trans (mkdir_places ran isFile)⟩

/-- The paths, below the extracted directory, that the executor writes to. -/
def injectedFiles (runtime : String) : List Path :=
  if runtime = "python" then [contextFile] else [contextFile, sdkFile]

/-- The bytes that an injected file has when the process starts. -/
def injected
    (host : Host)
    (context : Option Json)
    (path : Path) :
    List UInt8 :=
  if path = sdkFile then host.sdkSource else contextText context

/-- What the executor has checked, extracted and written before the spawn. -/
structure Prepared
    (host : Host)
    (request : Request)
    (definition : ExecutionDefinition)
    (normalized : String)
    (buffer : ZipBuffer)
    (created : TemporaryDirectory)
    (extracted : Extracted)
    (spawn : Spawn) :
    Prop where
  requested : request.definition = some definition
  entrypoint : validateEntrypoint definition.entrypoint = .ok normalized
  unpacked : safeZipExtract buffer normalized created = .ok extracted
  interpreted :
    spawn.args.getLast? = some (pathText extracted.entrypointPath)
  written :
    ∀ path ∈ injectedFiles definition.runtime,
      spawn.files (extracted.extractDir ++ path) =
        some (.file (injected host request.context path))
  others :
    ∀ place,
      (∀ path ∈ injectedFiles definition.runtime,
        place ≠ extracted.extractDir ++ path) →
      Node.isFile (extracted.files place) = true →
      spawn.files place = extracted.files place

theorem resolveSpawnCommand_entrypoint
    {host : Host}
    {runtime runtimeVersion entrypointPath command : String}
    {memoryLimitMb : Int}
    {args : List String}
    (resolved :
      resolveSpawnCommand host runtime runtimeVersion entrypointPath
        memoryLimitMb = .ok (command, args)) :
    args.getLast? = some entrypointPath := by
  unfold resolveSpawnCommand at resolved
  split at resolved
  · obtain ⟨pythonBin, -, finished⟩ := bind_eq_ok.mp resolved
    cases finished
    rfl
  · cases resolved
    rfl

theorem validated_of_request
    {settings : Settings}
    {request : Request}
    {definition : ExecutionDefinition}
    {normalized : String}
    (validated :
      validateExecuteRequest settings request = .ok (definition, normalized)) :
    request.definition = some definition ∧
      validateEntrypoint definition.entrypoint = .ok normalized := by
  unfold validateExecuteRequest at validated
  split at validated
  · cases validated
  · split at validated
    · cases validated
    · rename_i requested
      obtain ⟨⟨⟩, -, rest⟩ := bind_eq_ok.mp validated
      obtain ⟨_, entrypoint, finished⟩ := bind_eq_ok.mp rest
      cases finished
      exact ⟨requested, mapError_eq_ok.mp entrypoint⟩

/-- A process that is started with the command of a runtime. -/
structure Starts
    (settings : Settings)
    (host : Host)
    (definition : ExecutionDefinition)
    (extracted : Extracted)
    (files : Files)
    (runtime : String)
    (spawn : Spawn) :
    Prop where
  resolved :
    resolveSpawnCommand host runtime definition.runtimeVersion
        (pathText extracted.entrypointPath)
        (effectiveMemoryLimitMb settings definition.memoryMb) =
      .ok (spawn.command, spawn.args)
  files : spawn.files = files

section Starting

variable {settings : Settings}
variable {host : Host}
variable {request : Request}
variable {definition : ExecutionDefinition}
variable {extracted : Extracted}
variable {files : Files}
variable {spawn : Spawn}

theorem Starts.interpreted
    {runtime : String}
    (starts :
      Starts settings host definition extracted files runtime spawn) :
    spawn.args.getLast? = some (pathText extracted.entrypointPath) :=
  resolveSpawnCommand_entrypoint starts.resolved

theorem starts_of_python
    (started :
      executePythonEntrypoint settings host request definition extracted
        files = .ok spawn) :
    Starts settings host definition extracted files "python" spawn := by
  obtain ⟨⟨command, args⟩, resolved, finished⟩ := bind_eq_ok.mp started
  cases finished
  exact ⟨resolved, rfl⟩

theorem starts_of_node
    (started :
      executeNodeEntrypoint settings host request definition extracted
        files = .ok spawn) :
    Starts settings host definition extracted files "javascript" spawn := by
  obtain ⟨⟨command, args⟩, resolved, finished⟩ := bind_eq_ok.mp started
  cases finished
  exact ⟨resolved, rfl⟩

end Starting

theorem prepared_of_execute
    {settings : Settings}
    {host : Host}
    {request : Request}
    {buffer : ZipBuffer}
    {created : TemporaryDirectory}
    {spawn : Spawn}
    (reached : execute settings host request buffer created = .ok spawn) :
    ∃ definition normalized extracted,
      Prepared host request definition normalized buffer created extracted
        spawn := by
  obtain ⟨⟨definition, normalized⟩, validated, afterChecks⟩ :=
    bind_eq_ok.mp reached
  obtain ⟨⟨⟩, -, isolated⟩ := bind_eq_ok.mp afterChecks
  obtain ⟨extracted, unpacked, afterUnpack⟩ := bind_eq_ok.mp isolated
  obtain ⟨files, wrote, starting⟩ := bind_eq_ok.mp afterUnpack
  obtain ⟨requested, entrypoint⟩ := validated_of_request validated
  obtain ⟨context, elsewhere⟩ :=
    writeContextFile_places (mapError_eq_ok.mp wrote)
  have contextBytes :
      injected host request.context contextFile =
        contextText request.context :=
    if_neg (by decide)
  refine ⟨definition, normalized, extracted, ?_⟩
  split at starting
  · rename_i python
    have starts := starts_of_python starting
    obtain rfl := starts.files
    have writes : injectedFiles definition.runtime = [contextFile] :=
      if_pos python
    refine ⟨requested, entrypoint, mapError_eq_ok.mp unpacked,
      starts.interpreted, ?_, ?_⟩
    · intro path member
      rw [writes] at member
      rw [List.mem_singleton.mp member, contextBytes]
      exact context
    · intro place apart isFile
      rw [writes] at apart
      exact elsewhere place (apart _ List.mem_cons_self) isFile
  · rename_i notPython
    obtain ⟨copied, wroteSdk, started⟩ := bind_eq_ok.mp starting
    have starts := starts_of_node started
    obtain rfl := starts.files
    obtain ⟨sdk, apartFromSdk⟩ :=
      writeStreamToFile_places (mapError_eq_ok.mp wroteSdk)
    have different :
        extracted.extractDir ++ contextFile ≠
          extracted.extractDir ++ sdkFile :=
      mt List.append_cancel_left (by decide)
    have writes :
        injectedFiles definition.runtime = [contextFile, sdkFile] :=
      if_neg notPython
    refine ⟨requested, entrypoint, mapError_eq_ok.mp unpacked,
      starts.interpreted, ?_, ?_⟩
    · intro path member
      rw [writes] at member
      rcases List.mem_cons.mp member with rfl | last
      · rw [apartFromSdk _ different, contextBytes]
        exact context
      · rw [List.mem_singleton.mp last, injected, if_pos rfl]
        exact sdk
    · intro place apart isFile
      rw [writes] at apart
      rw [apartFromSdk place (apart _ (by simp))]
      exact elsewhere place (apart _ List.mem_cons_self) isFile

/-! ## An approved definition, and a run of it -/

/-- What `createDefinition` validates the artifact against. -/
def uploadOptions (metadata : DefinitionMetadata) : Options where
  entrypoint := some (.str metadata.entrypoint)
  runtime := some (.str metadata.runtime.text)
  wrapperVersion := some (.str metadata.wrapperVersion)

/-- The request executes the definition, whatever limits it has by now. -/
structure Executes
    (request : Request)
    (metadata : DefinitionMetadata) :
    Prop where
  runtime :
    request.definition.map ExecutionDefinition.runtime =
      some metadata.runtime.text
  entrypoint :
    request.definition.map ExecutionDefinition.entrypoint =
      some (some (.str metadata.entrypoint))

/-- The text of a relative path. -/
def relativeName (path : Path) : String :=
  String.ofList (PosixPaths.rendered path false)

/-- A file has this name when this is its path. -/
theorem normalizedName_eq_relativeName
    {file : ZipEntry}
    {path : Path}
    (wellNamed : WellNamed file)
    (isFile : isZipEntryDirectory file.fileName = false)
    (plain : ∀ name ∈ path, PosixPaths.Plain name) :
    normalizedName file = relativeName path ↔ entryPath file = path := by
  constructor
  · intro same
    have text := String.ofList_injective same
    rw [entryPath, text, PosixPaths.resolve_rendered plain, List.nil_append]
  · intro same
    rw [normalizedName, wellNamed.text, same, isFile, relativeName]

/-- At the spawn, every file of the archive is the last one or is injected. -/
theorem Prepared.files
    {parse : List UInt8 → Except String Json}
    {host : Host}
    {request : Request}
    {definition : ExecutionDefinition}
    {options : Options}
    {buffer : ZipBuffer}
    {created : TemporaryDirectory}
    {extracted : Extracted}
    {spawn : Spawn}
    {entrypoint file : ZipEntry}
    {scan : Scan}
    (prepared :
      Prepared host request definition (normalizedName entrypoint) buffer
        created extracted spawn)
    (validated : Validated parse buffer options entrypoint scan)
    (member : file ∈ buffer.entries)
    (isFile : isZipEntryDirectory file.fileName = false) :
    ∃ last,
      lastNamed buffer.entries (normalizedName file) = some last ∧
        spawn.files (created.path ++ entryPath file) =
          some (.file
            (if entryPath file ∈ injectedFiles definition.runtime then
              injected host request.context (entryPath file)
            else
              last.content)) := by
  obtain ⟨namedAll, -⟩ := scanned_of_foldlM validated.scanned
  obtain ⟨-, -, result, ran, -, -, rfl⟩ :=
    (safeZipExtract_eq_ok (namedAll entrypoint validated.member)).mp
      prepared.unpacked
  obtain ⟨-, ⟨fit, files⟩, -⟩ :=
    (extractZipEntries_eq_ok validated created).mp ran
  obtain ⟨last, found, stored⟩ :=
    overlay_lastNamed namedAll member isFile
      ((fits_iff namedAll created).mpr fit)
  rw [← files] at stored
  refine ⟨last, found, ?_⟩
  by_cases overwritten : entryPath file ∈ injectedFiles definition.runtime
  · rw [if_pos overwritten]
    exact prepared.written _ overwritten
  · rw [if_neg overwritten, ← stored]
    refine prepared.others _ ?_ (congrArg Node.isFile stored)
    intro path injectedPath same
    rw [List.append_cancel_left same] at overwritten
    exact overwritten injectedPath

/-- The names that the executor writes its own files under. -/
def injectedNames : Runtime → List String
  | .javascript => [".iga/context.json", "scheduler-sdk.js"]
  | .python => [".iga/context.json"]

/-- At the spawn, the files are those of the archive that was approved. -/
structure RunsApproved
    (entries : List ZipEntry)
    (metadata : DefinitionMetadata)
    (extractDir : Path)
    (spawn : Spawn) :
    Prop where
  interpreted :
    ∃ normalized path entry,
      validateEntrypoint (some (.str metadata.entrypoint)) = .ok normalized ∧
        path = extractDir ++ PosixPaths.resolve [] normalized.toList ∧
        spawn.args.getLast? = some (pathText path) ∧
        lastNamed entries normalized = some entry ∧
        spawn.files path = some (.file entry.content)
  others :
    ∀ file ∈ entries,
      isZipEntryDirectory file.fileName = false →
      normalizedName file ∉ injectedNames metadata.runtime →
      ∃ last,
        lastNamed entries (normalizedName file) = some last ∧
          spawn.files (extractDir ++ entryPath file) =
            some (.file last.content)

section Runs

variable {parse : List UInt8 → Except String Json}
variable {settings : Settings}
variable {host : Host}
variable {request : Request}
variable {buffer : ZipBuffer}
variable {created : TemporaryDirectory}
variable {metadata : DefinitionMetadata}
variable {info : ZipArtifacts.ZipInfo}
variable {spawn : Spawn}

theorem plain_injectedFiles :
    ∀ path ∈ [contextFile, sdkFile], ∀ name ∈ path, PosixPaths.Plain name := by
  have checked :
      ∀ path ∈ [contextFile, sdkFile], ∀ name ∈ path,
        name ≠ [] ∧ name ≠ ['.'] ∧ name ≠ PosixPaths.parent ∧ '/' ∉ name := by
    decide
  intro path member name named
  obtain ⟨nonempty, notHere, notParent, noSlash⟩ :=
    checked path member name named
  exact ⟨nonempty, notHere, notParent, noSlash⟩

theorem normalizedName_eq_contextFile
    {file : ZipEntry}
    (wellNamed : WellNamed file)
    (isFile : isZipEntryDirectory file.fileName = false) :
    normalizedName file = ".iga/context.json" ↔
      entryPath file = contextFile :=
  normalizedName_eq_relativeName wellNamed isFile
    (plain_injectedFiles _ List.mem_cons_self)

theorem normalizedName_eq_sdkFile
    {file : ZipEntry}
    (wellNamed : WellNamed file)
    (isFile : isZipEntryDirectory file.fileName = false) :
    normalizedName file = "scheduler-sdk.js" ↔
      entryPath file = sdkFile :=
  normalizedName_eq_relativeName wellNamed isFile
    (plain_injectedFiles _ (List.mem_cons_of_mem _ List.mem_cons_self))

theorem mem_injectedFiles
    {runtime : Runtime}
    {path : Path} :
    path ∈ injectedFiles runtime.text ↔
      path = contextFile ∨ runtime = .javascript ∧ path = sdkFile := by
  cases runtime with
  | python =>
      have writes : injectedFiles Runtime.python.text = [contextFile] :=
        if_pos rfl
      rw [writes, List.mem_singleton]
      simp
  | javascript =>
      have writes :
          injectedFiles Runtime.javascript.text = [contextFile, sdkFile] :=
        if_neg (by decide)
      rw [writes, List.mem_pair]
      simp

theorem mem_injectedNames
    {runtime : Runtime}
    {name : String} :
    name ∈ injectedNames runtime ↔
      name = ".iga/context.json" ∨
        runtime = .javascript ∧ name = "scheduler-sdk.js" := by
  cases runtime <;> simp [injectedNames]

/-- The bytes of a file at the spawn, if the archive has these for its name. -/
def bytesAtSpawn
    (host : Host)
    (request : Request)
    (runtime : Runtime)
    (name : String)
    (content : List UInt8) :
    List UInt8 :=
  if name = ".iga/context.json" then contextText request.context
  else if runtime = .javascript ∧ name = "scheduler-sdk.js" then host.sdkSource
  else content

/-- The two names do not interfere, so each asks for its own bytes. -/
theorem bytesAtSpawn_eq_iff
    {runtime : Runtime}
    {name : String}
    {content : List UInt8} :
    bytesAtSpawn host request runtime name content = content ↔
      (name = ".iga/context.json" → content = contextText request.context) ∧
        (runtime = .javascript →
          name = "scheduler-sdk.js" →
          content = host.sdkSource) := by
  unfold bytesAtSpawn
  by_cases context : name = ".iga/context.json"
  · subst context
    rw [if_pos rfl]
    constructor
    · intro same
      exact ⟨fun _ => same.symm, fun _ sdk => absurd sdk (by decide)⟩
    · intro asked
      exact (asked.1 rfl).symm
  · rw [if_neg context]
    by_cases sdk : runtime = .javascript ∧ name = "scheduler-sdk.js"
    · rw [if_pos sdk]
      constructor
      · intro same
        exact ⟨fun named => absurd named context, fun _ _ => same.symm⟩
      · intro asked
        exact (asked.2 sdk.1 sdk.2).symm
    · rw [if_neg sdk]
      refine iff_of_true rfl ⟨fun named => absurd named context, ?_⟩
      intro javascript named
      exact absurd ⟨javascript, named⟩ sdk

/-- What the executor writes, told by names and not by paths. -/
theorem bytesAtSpawn_normalizedName
    {file : ZipEntry}
    (wellNamed : WellNamed file)
    (isFile : isZipEntryDirectory file.fileName = false)
    (runtime : Runtime)
    (content : List UInt8) :
    (if entryPath file ∈ injectedFiles runtime.text then
        injected host request.context (entryPath file)
      else
        content) =
      bytesAtSpawn host request runtime (normalizedName file) content := by
  have context := normalizedName_eq_contextFile wellNamed isFile
  have sdk := normalizedName_eq_sdkFile wellNamed isFile
  unfold bytesAtSpawn
  by_cases contextPath : entryPath file = contextFile
  · rw [if_pos (mem_injectedFiles.mpr (.inl contextPath)),
      if_pos (context.mpr contextPath), contextPath]
    exact if_neg (by decide)
  · rw [if_neg (mt context.mp contextPath)]
    by_cases sdkPath : runtime = .javascript ∧ entryPath file = sdkFile
    · rw [if_pos (mem_injectedFiles.mpr (.inr sdkPath)),
        if_pos (And.imp_right sdk.mpr sdkPath), sdkPath.2]
      exact if_pos rfl
    · rw [if_neg (mt mem_injectedFiles.mp (not_or.mpr ⟨contextPath, sdkPath⟩)),
        if_neg (mt (And.imp_right sdk.mp) sdkPath)]

/-- A name that is not injected keeps the bytes of the archive. -/
theorem bytesAtSpawn_notInjected
    {runtime : Runtime}
    {name : String}
    (notInjected : name ∉ injectedNames runtime)
    (content : List UInt8) :
    bytesAtSpawn host request runtime name content = content := by
  obtain ⟨notContext, notSdk⟩ := not_or.mp (mt mem_injectedNames.mpr notInjected)
  rw [bytesAtSpawn, if_neg notContext, if_neg notSdk]

/-- The executor prepares the definition that it is asked to execute. -/
theorem prepared_of_executes
    (accepted :
      validateZipBuffer parse buffer (uploadOptions metadata) = .ok info)
    (executes : Executes request metadata)
    (reached : execute settings host request buffer created = .ok spawn) :
    ∃ file scan definition extracted,
      Validated parse buffer (uploadOptions metadata) file scan ∧
        WellNamed file ∧
        metadata.entrypoint = normalizedName file ∧
        definition.runtime = metadata.runtime.text ∧
        Prepared host request definition (normalizedName file) buffer created
          extracted spawn := by
  obtain ⟨file, scan, validated⟩ := validated_of_accepted accepted
  obtain ⟨namedAll, -⟩ := scanned_of_foldlM validated.scanned
  have wellNamed := namedAll file validated.member
  obtain ⟨definition, normalized, extracted, prepared⟩ :=
    prepared_of_execute reached
  have entrypoint : metadata.entrypoint = normalizedName file :=
    Json.str.inj (Option.some.inj validated.entrypoint)
  have runtime := executes.runtime
  have asked := executes.entrypoint
  rw [prepared.requested, Option.map_some, Option.some_inj] at runtime asked
  have normal := prepared.entrypoint
  rw [asked, entrypoint, validateEntrypoint_normalizedName wellNamed] at normal
  cases normal
  exact ⟨file, scan, definition, extracted, validated, wellNamed, entrypoint,
    runtime, prepared⟩

/-- The entrypoint at the spawn, of whatever the archive holds. -/
theorem entrypoint_at_spawn
    (accepted :
      validateZipBuffer parse buffer (uploadOptions metadata) = .ok info)
    (executes : Executes request metadata)
    (reached : execute settings host request buffer created = .ok spawn) :
    validateEntrypoint (some (.str metadata.entrypoint)) =
        .ok metadata.entrypoint ∧
      spawn.args.getLast? =
        some (pathText (created.path ++
          PosixPaths.resolve [] metadata.entrypoint.toList)) ∧
      ∃ last,
        lastNamed buffer.entries metadata.entrypoint = some last ∧
          spawn.files (created.path ++
              PosixPaths.resolve [] metadata.entrypoint.toList) =
            some (.file (bytesAtSpawn host request metadata.runtime
              metadata.entrypoint last.content)) := by
  obtain ⟨file, scan, definition, extracted, validated, wellNamed, entrypoint,
    runtime, prepared⟩ := prepared_of_executes accepted executes reached
  obtain ⟨-, -, result, ran, -, isFile, extractedTo⟩ :=
    (safeZipExtract_eq_ok wellNamed).mp prepared.unpacked
  have notDirectory : isZipEntryDirectory file.fileName = false := by
    obtain ⟨namedAll, -⟩ := scanned_of_foldlM validated.scanned
    obtain ⟨-, ⟨-, files⟩, -⟩ :=
      (extractZipEntries_eq_ok validated created).mp ran
    exact isFile_of_overlay namedAll validated.member (files ▸ isFile)
  have place :
      PosixPaths.resolve [] metadata.entrypoint.toList = entryPath file := by
    rw [entrypoint, toList_normalizedName, entryPath]
  obtain ⟨last, found, stored⟩ :=
    prepared.files validated validated.member notDirectory
  have interpreted := prepared.interpreted
  rw [extractedTo] at interpreted
  rw [runtime, bytesAtSpawn_normalizedName wellNamed notDirectory] at stored
  rw [place, entrypoint]
  exact ⟨validateEntrypoint_normalizedName wellNamed, interpreted, last, found,
    stored⟩

/-- Every other file of the archive at the spawn. -/
theorem others_at_spawn
    (accepted :
      validateZipBuffer parse buffer (uploadOptions metadata) = .ok info)
    (executes : Executes request metadata)
    (reached : execute settings host request buffer created = .ok spawn)
    {file : ZipEntry}
    (member : file ∈ buffer.entries)
    (isFile : isZipEntryDirectory file.fileName = false) :
    ∃ last,
      lastNamed buffer.entries (normalizedName file) = some last ∧
        spawn.files (created.path ++ entryPath file) =
          some (.file (bytesAtSpawn host request metadata.runtime
            (normalizedName file) last.content)) := by
  obtain ⟨_, scan, definition, extracted, validated, -, -, runtime, prepared⟩ :=
    prepared_of_executes accepted executes reached
  obtain ⟨namedAll, -⟩ := scanned_of_foldlM validated.scanned
  obtain ⟨last, found, stored⟩ := prepared.files validated member isFile
  rw [runtime, bytesAtSpawn_normalizedName (namedAll file member) isFile]
    at stored
  exact ⟨last, found, stored⟩

/--
What is run is what was approved, if and only if the entrypoint is not a name
that the executor writes other bytes under.
-/
theorem runs_approved_iff
    (accepted :
      validateZipBuffer parse buffer (uploadOptions metadata) = .ok info)
    (executes : Executes request metadata)
    (reached : execute settings host request buffer created = .ok spawn) :
    RunsApproved buffer.entries metadata created.path spawn ↔
      ∀ entry,
        lastNamed buffer.entries metadata.entrypoint = some entry →
        (metadata.entrypoint = ".iga/context.json" →
          entry.content = contextText request.context) ∧
          (metadata.runtime = .javascript →
            metadata.entrypoint = "scheduler-sdk.js" →
            entry.content = host.sdkSource) := by
  obtain ⟨entrypoint, args, last, found, stored⟩ :=
    entrypoint_at_spawn accepted executes reached
  constructor
  · intro approved entry named
    obtain ⟨normalized, path, other, normal, rfl, -, last, content⟩ :=
      approved.interpreted
    rw [entrypoint] at normal
    cases normal
    rw [named] at last
    cases last
    rw [found] at named
    cases named
    rw [stored] at content
    exact bytesAtSpawn_eq_iff.mp (Node.file.inj (Option.some.inj content))
  · intro asked
    rw [bytesAtSpawn_eq_iff.mpr (asked last found)] at stored
    refine ⟨⟨_, _, last, entrypoint, rfl, args, found, stored⟩, ?_⟩
    intro file member isFile notInjected
    obtain ⟨other, last, bytes⟩ :=
      others_at_spawn accepted executes reached member isFile
    rw [bytesAtSpawn_notInjected notInjected] at bytes
    exact ⟨other, last, bytes⟩

end Runs

/-! ## Two definitions -/

def manifestOf (entrypoint : String) : List UInt8 :=
  ("\x7b\"entrypoint\":\"" ++ entrypoint ++
    "\",\"runtime\":\"javascript\",\"wrapperVersion\":\"1\"\x7d").toList.map
    fun letter => letter.toNat.toUInt8

/-- `JSON.parse` on the text of that manifest. -/
def parseManifestOf
    (entrypoint : String)
    (bytes : List UInt8) :
    Except String Json :=
  if bytes = manifestOf entrypoint then
    .ok (.obj [("entrypoint", .str entrypoint),
      ("runtime", .str "javascript"), ("wrapperVersion", .str "1")])
  else
    .error "Unexpected token"

/-- A job in one file. -/
def jobArchive (entrypoint : String) : ZipBuffer where
  length := 400
  opened := .ok
    [regularFile "manifest.json" (manifestOf entrypoint),
      regularFile entrypoint [59]]

def jobInput (entrypoint : String) : DefinitionInput where
  definitionId := "nightly-sync"
  name := "Nightly sync"
  runtime := "javascript"
  runtimeVersion := "nodejs22"
  wrapperVersion := "1"
  entrypoint
  parameters := none
  timeoutSeconds := none
  memoryMb := none

def jobMetadata (entrypoint : String) : DefinitionMetadata where
  definitionId := "nightly-sync"
  name := "Nightly sync"
  runtime := .javascript
  runtimeVersion := "nodejs22"
  wrapperVersion := "1"
  entrypoint
  parameters := []
  timeoutSeconds := 1800
  memoryMb := none

def jobRequest (entrypoint : String) : Request where
  runId := "run-1"
  dispatchId := none
  definition := some
    { runtime := "javascript"
      runtimeVersion := "nodejs22"
      entrypoint := some (.str entrypoint)
      memoryMb := none }
  context := none

def nodeHost : Host where
  execPath := "/usr/local/bin/node"
  env := fun _ => none
  sdkSource := [47, 47]
  pythonSdkPath := "/app/src/sdk"

theorem executes_jobRequest (entrypoint : String) :
    Executes (jobRequest entrypoint) (jobMetadata entrypoint) :=
  ⟨rfl, rfl⟩

/-- The process that is started for the job, on a worker like this one. -/
def jobSpawned (entrypoint : String) : Except ExecuteFailure Spawn :=
  execute { requireRuntimeIsolation := false } nodeHost
    (jobRequest entrypoint) (jobArchive entrypoint) emptyTemporaryDirectory

/-- The entrypoint is `main.js`, and no file is written under that name. -/
theorem runs_approved_main :
    ∃ spawn,
      jobSpawned "main.js" = .ok spawn ∧
        RunsApproved (jobArchive "main.js").entries (jobMetadata "main.js")
          emptyTemporaryDirectory.path spawn := by
  obtain ⟨spawn, reached⟩ : ∃ spawn, jobSpawned "main.js" = .ok spawn :=
    ⟨_, rfl⟩
  have accepted :
      validateZipBuffer (parseManifestOf "main.js") (jobArchive "main.js")
        (uploadOptions (jobMetadata "main.js")) = .ok _ :=
    rfl
  refine ⟨spawn, reached, ?_⟩
  refine (runs_approved_iff accepted (executes_jobRequest _) reached).mpr ?_
  intro entry _
  exact ⟨fun named => absurd named (by decide),
    fun _ named => absurd named (by decide)⟩

/-- The job is accepted as `scheduler-sdk.js`, and the SDK is run in its place. -/
theorem sdkEntrypoint_not_approved :
    ¬ ∀ (parse : List UInt8 → Except String Json) (settings : Settings)
        (host : Host) (input : DefinitionInput)
        (metadata : DefinitionMetadata) (request : Request)
        (buffer : ZipBuffer) (info : ZipArtifacts.ZipInfo)
        (created : TemporaryDirectory) (spawn : Spawn),
        createJobDefinitionSchema input = some metadata →
        validateZipBuffer parse buffer (uploadOptions metadata) = .ok info →
        Executes request metadata →
        execute settings host request buffer created = .ok spawn →
        RunsApproved buffer.entries metadata created.path spawn := by
  intro always
  obtain ⟨spawn, reached⟩ :
      ∃ spawn, jobSpawned "scheduler-sdk.js" = .ok spawn :=
    ⟨_, rfl⟩
  have accepted :
      validateZipBuffer (parseManifestOf "scheduler-sdk.js")
        (jobArchive "scheduler-sdk.js")
        (uploadOptions (jobMetadata "scheduler-sdk.js")) = .ok _ :=
    rfl
  have parsed :
      createJobDefinitionSchema (jobInput "scheduler-sdk.js") =
        some (jobMetadata "scheduler-sdk.js") :=
    rfl
  obtain ⟨normalized, path, entry, normal, rfl, -, named, approved⟩ :=
    (always _ _ _ _ _ _ _ _ _ _ parsed accepted (executes_jobRequest _)
      reached).interpreted
  obtain ⟨entrypoint, -, last, found, stored⟩ :=
    entrypoint_at_spawn accepted (executes_jobRequest _) reached
  rw [entrypoint] at normal
  cases normal
  have uploaded : entry.content = [59] := by
    cases named
    rfl
  rw [stored, uploaded] at approved
  have run :
      bytesAtSpawn nodeHost (jobRequest "scheduler-sdk.js") .javascript
        "scheduler-sdk.js" last.content = [59] :=
    Node.file.inj (Option.some.inj approved)
  rw [bytesAtSpawn, if_neg (by decide), if_pos ⟨rfl, rfl⟩] at run
  exact absurd run (by decide)

end JobRuntimeExecutor

end IgaScheduler
