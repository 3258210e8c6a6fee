import IgaScheduler.CatalogSystem

namespace IgaScheduler

open Relational Interleaving

/-!
# A version pins one artifact

An upload reads the stored document, saves its artifact and only then stores a
document with the next version.  `es.create` refuses an id that has been taken
meanwhile, but a re-upload overwrites whatever it finds: two re-uploads that
read the same version store the same one.
-/

namespace CatalogCall

/-- The definition a re-upload is about to overwrite, and what it has read. -/
def overwrites : CatalogCall → Option (String × DefinitionDocument)
  | .createDefinition (.saving upload (some existing) _) =>
      some (upload.parsed.definitionId, existing)
  | .createDefinition (.describing upload (some existing) _) =>
      some (upload.parsed.definitionId, existing)
  | .createDefinition (.storing upload (some existing) _) =>
      some (upload.parsed.definitionId, existing)
  | _ => none

end CatalogCall

namespace CatalogPool

variable {cron : CronParser}
variable {stored : Stored}
variable {pool next : CatalogPool}
variable {label : Label CatalogInput}

/-- A call about to store a document has built it from what it has read. -/
theorem Reachable.storing
    (reachable : Reachable cron stored pool)
    {process : Nat}
    {upload : CreateDefinition.Upload}
    {existing : Option DefinitionDocument}
    {document : DefinitionDocument}
    (calling :
      pool.locals process =
        .createDefinition (.storing upload existing document)) :
    ∃ now generation, document = upload.document existing now generation := by
  refine reachable.invariant
    (fun visited =>
      ∀ {process : Nat} {upload : CreateDefinition.Upload}
          {existing : Option DefinitionDocument}
          {document : DefinitionDocument},
        visited.locals process =
            .createDefinition (.storing upload existing document) →
          ∃ now generation,
            document = upload.document existing now generation)
    (fun calling => nomatch calling) ?_ calling
  intro visited next label known stepped process upload existing document
    calling
  by_cases own : process = label.1
  · subst own
    obtain ⟨environment, statement, reply, issued, -, resumed⟩ :=
      proceeded_of_step stepped (by rw [calling]; rfl)
    rw [calling] at resumed
    cases before : visited.locals label.1 with
    | createDefinition earlier =>
        rw [before] at issued resumed
        cases earlier with
        | describing upload existing now =>
            simp only [CatalogCall.resumed, CreateDefinition.resume]
              at resumed
            split at resumed
            · cases resumed
            · rename_i generation answered
              cases resumed
              exact ⟨now, generation, rfl⟩
        | start | storing =>
            simp only [CatalogCall.resumed, CreateDefinition.resume]
              at resumed
            split at resumed <;> cases resumed
        | saving | cleaning =>
            cases resumed
        | done outcome =>
            cases issued
    | _ =>
        rw [before] at resumed
        cases resumed
  · rw [System.step?_locals_other stepped own] at calling
    exact known calling

/-- A re-upload has read its document in this step or an earlier one. -/
theorem overwrites_of_step
    (stepped : (catalogSystem cron).step? pool label = some next)
    {process : Nat}
    {definitionId : String}
    {existing : DefinitionDocument}
    (reads :
      (next.locals process).overwrites = some (definitionId, existing)) :
    (pool.locals process).overwrites = some (definitionId, existing) ∨
      pool.shared.definition definitionId = some existing ∧
        next.shared.definition definitionId = some existing := by
  by_cases own : process = label.1
  · subst own
    obtain ⟨statement, reply, issued, executed, resumed⟩ :=
      step_moves stepped
    rw [resumed] at reads
    rcases label with ⟨process, input⟩
    change (pool.locals process).issue input = _ at issued
    change ((pool.locals process).resume cron input reply).overwrites = _
      at reads
    change (pool.locals process).overwrites = _ ∨ _
    generalize pool.locals process = call at issued reads ⊢
    cases input with
    | start request =>
        cases request <;> cases reads
    | raise =>
        cases call with
        | createDefinition earlier =>
            cases earlier <;> cases reads
        | _ =>
            cases reads
    | proceed environment =>
        cases call with
        | createDefinition earlier =>
            cases earlier with
            | start arguments =>
                cases valid : arguments.validate with
                | none =>
                    simp only [CatalogCall.resume, CatalogCall.resumed,
                      CreateDefinition.resume, valid] at reads
                    cases reads
                | some upload =>
                    simp only [CatalogCall.issue, CatalogCall.next,
                      CreateDefinition.issue, valid,
                      Option.some.injEq] at issued
                    subst issued
                    obtain ⟨same, answer⟩ :=
                      Catalog.exec_getDefinition executed
                    simp only [CatalogCall.resume, CatalogCall.resumed,
                      CreateDefinition.resume, valid, answer] at reads
                    cases found :
                        pool.shared.definition
                          upload.parsed.definitionId with
                    | none =>
                        rw [found] at reads
                        cases reads
                    | some document =>
                        rw [found] at reads
                        cases reads
                        exact .inr ⟨found, same.trans found⟩
            | saving upload existing now =>
                cases existing with
                | none =>
                    cases reads
                | some existing =>
                    exact .inl reads
            | describing upload existing now =>
                simp only [CatalogCall.resume, CatalogCall.resumed,
                  CreateDefinition.resume] at reads
                split at reads
                · cases reads
                · cases existing with
                  | none =>
                      cases reads
                  | some existing =>
                      exact .inl reads
            | storing upload existing document =>
                simp only [CatalogCall.resume, CatalogCall.resumed,
                  CreateDefinition.resume] at reads
                split at reads <;> cases reads
            | cleaning upload =>
                cases reads
            | done outcome =>
                cases issued
        | _ =>
            cases reads
  · rw [System.step?_locals_other stepped own] at reads
    exact .inl reads

/-- A step of a call that returns the document of its upload. -/
structure Uploads
    (pool next : CatalogPool)
    (process : Nat)
    (document : DefinitionDocument) :
    Prop where
  storing :
    ∃ upload existing,
      pool.locals process =
        .createDefinition (.storing upload existing document)
  returned :
    next.locals process = .createDefinition (.done (.ok document))

/-- How a step can leave the document of a definition, by whom. -/
inductive Defined
    (pool next : CatalogPool)
    (process : Nat)
    (definitionId : String)
    (before : Option DefinitionDocument) :
    List DefinitionDocument →
      Option DefinitionDocument →
      Prop where
  | kept :
      Defined pool next process definitionId before [] before
  | created
      (document : DefinitionDocument)
      (sameDefinition : document.definitionId = definitionId)
      (absent : before = none)
      (uploads : Uploads pool next process document) :
      Defined pool next process definitionId before [document]
        (some document)
  | overwritten
      (document existing : DefinitionDocument)
      (sameDefinition : document.definitionId = definitionId)
      (raised : document.version = existing.version + 1)
      (uploads : Uploads pool next process document)
      (read :
        (pool.locals process).overwrites = some (definitionId, existing)) :
      Defined pool next process definitionId before [document]
        (some document)
  | updated
      (document change : DefinitionDocument)
      (found : before = some document)
      (sameVersion : change.version = document.version)
      (sameDigest : change.digest = document.digest) :
      Defined pool next process definitionId before [change] (some change)

/-- Every step leaves every definition in one of the four ways. -/
theorem Reachable.defined
    (reachable : Reachable cron stored pool)
    (stepped : (catalogSystem cron).step? pool label = some next)
    (definitionId : String) :
    ∃ documents,
      next.shared.documents definitionId =
          documents ++ pool.shared.documents definitionId ∧
        Defined pool next label.1 definitionId
          (pool.shared.definition definitionId) documents
          (next.shared.definition definitionId) := by
  obtain ⟨statement, reply, issued, executed, resumed⟩ := step_moves stepped
  refine ⟨_, Catalog.exec_documents executed definitionId, ?_⟩
  obtain ⟨performed, ran, shape⟩ := Catalog.exec_eq_some executed
  have effect := Catalog.perform_definitionEffect ran definitionId
  have sameDocument :
      next.shared.definition definitionId =
        performed.definition definitionId := by
    rw [shape]
    rfl
  rw [sameDocument]
  generalize CatalogStatement.documents label.1 pool.shared definitionId
    statement = documents at effect ⊢
  generalize performed.definition definitionId = after at effect ⊢
  cases effect with
  | kept =>
      exact .kept
  | created document sameDefinition absent =>
      have taken : reply = .flag true := by
        simp only [Catalog.perform, sameDefinition, absent,
          Option.some.injEq, Prod.mk.injEq] at ran
        exact ran.2.symm
      have uploads : Uploads pool next label.1 document := by
        generalize calling : pool.locals label.1 = call at issued
        generalize proceeding : label.2 = input at issued
        cases CatalogCall.issues_of_issue issued with
        | uploadCreate upload document environment =>
            refine ⟨⟨upload, none, calling⟩, ?_⟩
            rw [resumed, calling, proceeding, taken]
            rfl
        | tick call environment statement issued =>
            cases Tick.isStatement_of_issue issued
      exact .created document sameDefinition absent uploads
  | indexed document sameDefinition =>
      have taken : reply = .flag true := by
        simp only [Catalog.perform, Option.some.injEq,
          Prod.mk.injEq] at ran
        exact ran.2.symm
      generalize calling : pool.locals label.1 = call at issued
      generalize proceeding : label.2 = input at issued
      cases CatalogCall.issues_of_issue issued with
      | uploadIndex upload existing document environment =>
          obtain ⟨now, generation, rfl⟩ := reachable.storing calling
          refine .overwritten _ existing sameDefinition rfl
            ⟨⟨upload, some existing, calling⟩, ?_⟩ ?_
          · rw [resumed, calling, proceeding, taken]
            rfl
          · rw [calling, ← sameDefinition]
            rfl
      | tick call environment statement issued =>
          cases Tick.isStatement_of_issue issued
  | patched patch now document found =>
      exact .updated document _ found (patch.apply_version now document)
        (patch.apply_digest now document)
  | deleted now document found =>
      exact .updated document _ found (markDeleted_version now document)
        (markDeleted_digest now document)

/-- The version and the id of a document that a re-upload has stored. -/
theorem Reachable.uploads_version
    (reachable : Reachable cron stored pool)
    {process : Nat}
    {document existing : DefinitionDocument}
    {definitionId : String}
    (uploads : Uploads pool next process document)
    (read :
      (pool.locals process).overwrites = some (definitionId, existing)) :
    document.definitionId = definitionId ∧
      document.version = existing.version + 1 := by
  obtain ⟨upload, found, calling⟩ := uploads.storing
  obtain ⟨now, generation, rfl⟩ := reachable.storing calling
  rw [calling] at read
  cases found with
  | none =>
      cases read
  | some found =>
      cases read
      exact ⟨rfl, rfl⟩

/-- Every document of a definition that has been stored, the first one last. -/
def everStored
    (stored : Stored)
    (catalog : Catalog)
    (definitionId : String) :
    List DefinitionDocument :=
  catalog.documents definitionId ++
    (stored.definitions.lookup definitionId).toList

/-- The promise on versions, along a whole schedule. -/
structure VersionsPinned
    (cron : CronParser)
    (stored : Stored)
    (schedule : List (Label CatalogInput)) :
    Prop where
  raised :
    ∀ {earlier later : List (Label CatalogInput)}
        {label : Label CatalogInput} {pool next : CatalogPool}
        {document : DefinitionDocument},
      schedule = earlier ++ label :: later →
      run? cron stored earlier = some pool →
      (catalogSystem cron).step? pool label = some next →
      Uploads pool next label.1 document →
      next.shared.definition document.definitionId = some document ∧
        ∀ old, pool.shared.definition document.definitionId = some old →
          old.version < document.version
  pinned :
    ∀ {earlier later : List (Label CatalogInput)} {pool : CatalogPool}
        {definitionId : String} {first second : DefinitionDocument},
      schedule = earlier ++ later →
      run? cron stored earlier = some pool →
      first ∈ everStored stored pool.shared definitionId →
      second ∈ everStored stored pool.shared definitionId →
      first.version = second.version →
      first.digest = second.digest
  executed :
    ∀ {earlier later : List (Label CatalogInput)} {pool : CatalogPool}
        {definitionId : String} {first second : DefinitionDocument}
        {version : Option Int} {firstPinned secondPinned : PinnedDefinition}
        {firstArtifact secondArtifact : JobZip},
      schedule = earlier ++ later →
      run? cron stored earlier = some pool →
      first ∈ everStored stored pool.shared definitionId →
      second ∈ everStored stored pool.shared definitionId →
      buildExecutionMetadata definitionId version
          (buildExecutionMetadataSnapshot (some first)) =
        .ok (firstPinned, firstArtifact) →
      buildExecutionMetadata definitionId version
          (buildExecutionMetadataSnapshot (some second)) =
        .ok (secondPinned, secondArtifact) →
      firstArtifact.sha256 = secondArtifact.sha256

/--
Whenever a re-upload overwrites the stored document, that document still has
the version which the re-upload has read.
-/
def UploadsUndisturbed
    (cron : CronParser)
    (stored : Stored)
    (schedule : List (Label CatalogInput)) :
    Prop :=
  ∀ {earlier later : List (Label CatalogInput)}
      {label : Label CatalogInput} {pool next : CatalogPool}
      {definitionId : String}
      {document existing current : DefinitionDocument},
    schedule = earlier ++ label :: later →
    run? cron stored earlier = some pool →
    (catalogSystem cron).step? pool label = some next →
    Uploads pool next label.1 document →
    (pool.locals label.1).overwrites = some (definitionId, existing) →
    pool.shared.definition definitionId = some current →
    current.version = existing.version

/-- Where versions only rise, a document that was read is not ahead. -/
theorem VersionsPinned.read_le
    {schedule earlier later : List (Label CatalogInput)}
    (promised : VersionsPinned cron stored schedule)
    (shape : schedule = earlier ++ later)
    (ran : run? cron stored earlier = some pool)
    {process : Nat}
    {definitionId : String}
    {existing : DefinitionDocument}
    (read :
      (pool.locals process).overwrites = some (definitionId, existing)) :
    ∃ current,
      pool.shared.definition definitionId = some current ∧
        existing.version ≤ current.version := by
  refine System.run?_induction_within
    (fun visited =>
      ∀ {process : Nat} {definitionId : String}
          {existing : DefinitionDocument},
        (visited.locals process).overwrites =
            some (definitionId, existing) →
          ∃ current,
            visited.shared.definition definitionId = some current ∧
              existing.version ≤ current.version)
    (fun {_ _ _} read => by cases read) ?_ shape ran read
  intro earlier later visited next label shape ran known stepped process
    definitionId existing read
  rcases overwrites_of_step stepped read with before | ⟨-, here⟩
  · obtain ⟨current, found, bounded⟩ := known before
    obtain ⟨documents, -, defined⟩ :=
      Reachable.defined ⟨earlier, ran⟩ stepped definitionId
    rw [found] at defined
    generalize next.shared.definition definitionId = after at defined ⊢
    cases defined with
    | kept =>
        exact ⟨current, rfl, bounded⟩
    | created document sameDefinition absent =>
        cases absent
    | overwritten document read sameDefinition raised uploads =>
        have above :=
          (promised.raised shape ran stepped uploads).2 current
            (by rw [sameDefinition]; exact found)
        exact ⟨document, rfl, by omega⟩
    | updated document change same sameVersion =>
        cases same
        exact ⟨change, rfl, by omega⟩
  · exact ⟨existing, here, le_refl _⟩

/-- The stored document is the newest, and versions so far tell digests. -/
structure PinnedSoFar
    (stored : Stored)
    (catalog : Catalog)
    (definitionId : String) :
    Prop where
  current :
    ∀ {document : DefinitionDocument},
      catalog.definition definitionId = some document →
      document ∈ everStored stored catalog definitionId
  newest :
    ∀ {document : DefinitionDocument},
      document ∈ everStored stored catalog definitionId →
      ∃ current,
        catalog.definition definitionId = some current ∧
          document.version ≤ current.version
  pinned :
    ∀ {first second : DefinitionDocument},
      first ∈ everStored stored catalog definitionId →
      second ∈ everStored stored catalog definitionId →
      first.version = second.version →
      first.digest = second.digest

/-- One more document that is newer than every other, or agrees with one. -/
theorem PinnedSoFar.extend
    {catalog after : Catalog}
    {definitionId : String}
    {document : DefinitionDocument}
    (pinnedSoFar : PinnedSoFar stored catalog definitionId)
    (extended :
      after.documents definitionId =
        [document] ++ catalog.documents definitionId)
    (found : after.definition definitionId = some document)
    (ahead :
      ∀ earlier ∈ everStored stored catalog definitionId,
        earlier.version ≤ document.version ∧
          (earlier.version = document.version →
            earlier.digest = document.digest)) :
    PinnedSoFar stored after definitionId := by
  have members :
      everStored stored after definitionId =
        document :: everStored stored catalog definitionId := by
    rw [everStored, extended]
    rfl
  refine ⟨?_, ?_, ?_⟩
  · intro current here
    cases found.symm.trans here
    rw [members]
    exact List.mem_cons_self
  · intro earlier member
    rw [members] at member
    rcases List.mem_cons.mp member with rfl | before
    · exact ⟨earlier, found, le_refl _⟩
    · exact ⟨document, found, (ahead earlier before).1⟩
  · intro first second firstMember secondMember sameVersion
    rw [members] at firstMember secondMember
    rcases List.mem_cons.mp firstMember with rfl | firstBefore
    · rcases List.mem_cons.mp secondMember with rfl | secondBefore
      · rfl
      · exact ((ahead second secondBefore).2 sameVersion.symm).symm
    · rcases List.mem_cons.mp secondMember with rfl | secondBefore
      · exact (ahead first firstBefore).2 sameVersion
      · exact pinnedSoFar.pinned firstBefore secondBefore sameVersion

/-- A step whose re-upload finds the version it has read keeps the pinning. -/
theorem PinnedSoFar.step
    {definitionId : String}
    (pinnedSoFar : PinnedSoFar stored pool.shared definitionId)
    (reachable : Reachable cron stored pool)
    (stepped : (catalogSystem cron).step? pool label = some next)
    (undisturbed :
      ∀ {document existing current : DefinitionDocument},
        Uploads pool next label.1 document →
        (pool.locals label.1).overwrites =
          some (definitionId, existing) →
        pool.shared.definition definitionId = some current →
        current.version = existing.version) :
    PinnedSoFar stored next.shared definitionId := by
  obtain ⟨documents, extended, defined⟩ :=
    reachable.defined stepped definitionId
  generalize before :
    pool.shared.definition definitionId = enters at defined
  generalize after :
    next.shared.definition definitionId = leaves at defined
  cases defined with
  | kept =>
      have members :
          everStored stored next.shared definitionId =
            everStored stored pool.shared definitionId := by
        rw [everStored, extended]
        rfl
      refine ⟨?_, ?_, ?_⟩
      · intro document here
        rw [members]
        exact pinnedSoFar.current (before.trans (after.symm.trans here))
      · intro document member
        rw [members] at member
        obtain ⟨current, here, bounded⟩ := pinnedSoFar.newest member
        exact ⟨current, after.trans (before.symm.trans here), bounded⟩
      · intro first second firstMember secondMember
        rw [members] at firstMember secondMember
        exact pinnedSoFar.pinned firstMember secondMember
  | created document sameDefinition absent uploads =>
      refine pinnedSoFar.extend extended after ?_
      intro earlier member
      obtain ⟨current, here, -⟩ := pinnedSoFar.newest member
      cases absent.symm.trans (before.symm.trans here)
  | overwritten document existing sameDefinition raised uploads read =>
      refine pinnedSoFar.extend extended after ?_
      intro earlier member
      obtain ⟨current, here, bounded⟩ := pinnedSoFar.newest member
      have unchanged := undisturbed uploads read here
      exact ⟨by omega, fun same => by omega⟩
  | updated document change found sameVersion sameDigest =>
      refine pinnedSoFar.extend extended after ?_
      have here := before.trans found
      intro earlier member
      obtain ⟨current, stands, bounded⟩ := pinnedSoFar.newest member
      cases here.symm.trans stands
      refine ⟨by omega, fun same => ?_⟩
      rw [sameDigest]
      exact pinnedSoFar.pinned member (pinnedSoFar.current here)
        (same.trans sameVersion)

/-- Where no re-upload is disturbed, versions tell digests throughout. -/
theorem UploadsUndisturbed.pinnedSoFar
    {schedule earlier later : List (Label CatalogInput)}
    (undisturbed : UploadsUndisturbed cron stored schedule)
    (shape : schedule = earlier ++ later)
    (ran : run? cron stored earlier = some pool)
    (definitionId : String) :
    PinnedSoFar stored pool.shared definitionId := by
  refine System.run?_induction_within
    (fun visited => PinnedSoFar stored visited.shared definitionId)
    ?_ ?_ shape ran
  · have single (document : DefinitionDocument) :
        document ∈ everStored stored (initial stored).shared definitionId ↔
          stored.definitions.lookup definitionId = some document :=
      Option.mem_toList
    refine ⟨fun here => (single _).mpr here, ?_, ?_⟩
    · intro document member
      exact ⟨document, (single _).mp member, le_refl _⟩
    · intro first second firstMember secondMember _
      rw [Option.some.inj
        (((single _).mp firstMember).symm.trans
          ((single _).mp secondMember))]
  · intro earlier later visited next label shape ran known stepped
    exact known.step ⟨earlier, ran⟩ stepped
      (undisturbed shape ran stepped)

/-- A document that an upload returns is the stored one. -/
theorem Reachable.definition_of_uploads
    (reachable : Reachable cron stored pool)
    (stepped : (catalogSystem cron).step? pool label = some next)
    {document : DefinitionDocument}
    (uploads : Uploads pool next label.1 document) :
    next.shared.definition document.definitionId = some document ∧
      (pool.shared.definition document.definitionId = none ∨
        ∃ existing,
          (pool.locals label.1).overwrites =
              some (document.definitionId, existing) ∧
            document.version = existing.version + 1) := by
  obtain ⟨statement, reply, issued, executed, resumed⟩ := step_moves stepped
  obtain ⟨upload, existing, calling⟩ := uploads.storing
  have returned := resumed.symm.trans uploads.returned
  rcases label with ⟨process, input⟩
  change pool.locals process = _ at calling
  change (pool.locals process).issue input = _ at issued
  change (pool.locals process).resume cron input reply = _ at returned
  change _ ∧ (_ ∨ ∃ existing, (pool.locals process).overwrites = _ ∧ _)
  obtain ⟨performed, ran, shape⟩ := Catalog.exec_eq_some executed
  rw [calling] at issued returned
  cases input with
  | start request =>
      cases issued
  | raise =>
      cases returned
  | proceed environment =>
      cases existing with
      | none =>
          cases issued
          cases found : pool.shared.definition document.definitionId with
          | some existing =>
              simp only [Catalog.perform, found, Option.some.injEq,
                Prod.mk.injEq] at ran
              obtain ⟨-, rfl⟩ := ran
              cases returned
          | none =>
              simp only [Catalog.perform, found, Option.some.injEq,
                Prod.mk.injEq] at ran
              obtain ⟨rfl, -⟩ := ran
              refine ⟨?_, .inl rfl⟩
              rw [shape]
              exact AList.lookup_insert _
      | some existing =>
          cases issued
          simp only [Catalog.perform, Option.some.injEq,
            Prod.mk.injEq] at ran
          obtain ⟨rfl, -⟩ := ran
          obtain ⟨now, generation, rfl⟩ := reachable.storing calling
          refine ⟨?_, .inr ⟨existing, ?_, rfl⟩⟩
          · rw [shape]
            exact AList.lookup_insert _
          · rw [calling]
            rfl

/--
In every schedule, versions pin artifacts exactly when every re-upload that
overwrites a document finds the version it has read.
-/
theorem versions_pinned_iff
    (cron : CronParser)
    (stored : Stored)
    (schedule : List (Label CatalogInput)) :
    VersionsPinned cron stored schedule ↔
      UploadsUndisturbed cron stored schedule := by
  constructor
  · intro promised earlier later label pool next definitionId document
      existing current shape ran stepped uploads read found
    obtain ⟨sameDefinition, raised⟩ :=
      Reachable.uploads_version ⟨earlier, ran⟩ uploads read
    have above :=
      (promised.raised shape ran stepped uploads).2 current
        (by rw [sameDefinition]; exact found)
    obtain ⟨stands, here, bounded⟩ := promised.read_le shape ran read
    cases found.symm.trans here
    omega
  · intro undisturbed
    have pinned
        {earlier later : List (Label CatalogInput)}
        {pool : CatalogPool}
        {definitionId : String}
        {first second : DefinitionDocument}
        (shape : schedule = earlier ++ later)
        (ran : run? cron stored earlier = some pool)
        (firstMember :
          first ∈ everStored stored pool.shared definitionId)
        (secondMember :
          second ∈ everStored stored pool.shared definitionId)
        (sameVersion : first.version = second.version) :
        first.digest = second.digest :=
      (undisturbed.pinnedSoFar shape ran definitionId).pinned firstMember
        secondMember sameVersion
    refine ⟨?_, pinned, ?_⟩
    · intro earlier later label pool next document shape ran stepped uploads
      obtain ⟨found, read⟩ :=
        Reachable.definition_of_uploads ⟨earlier, ran⟩ stepped uploads
      refine ⟨found, fun old before => ?_⟩
      rcases read with absent | ⟨existing, reads, raised⟩
      · cases absent.symm.trans before
      · have unchanged :=
          undisturbed shape ran stepped uploads reads before
        omega
    · intro earlier later pool definitionId first second version firstPinned
        secondPinned firstArtifact secondArtifact shape ran firstMember
        secondMember firstBuilt secondBuilt
      obtain ⟨firstVersion, firstDigest⟩ :=
        buildExecutionMetadata_document firstBuilt
      obtain ⟨secondVersion, secondDigest⟩ :=
        buildExecutionMetadata_document secondBuilt
      have sameVersion : first.version = second.version :=
        Option.some.inj (firstVersion.symm.trans secondVersion)
      have sameDigest :=
        pinned shape ran firstMember secondMember sameVersion
      rw [firstDigest, secondDigest] at sameDigest
      exact Option.some.inj sameDigest

/-- An upload of the report definition with a given artifact. -/
def reportUpload (sha256 : String) : CatalogRequest :=
  .createDefinition {
    metadata := {
      definitionId := "report"
      name := "Report"
      runtime := "javascript"
      runtimeVersion := "22"
      wrapperVersion := "1"
      entrypoint := "main.js"
      parameters := none
      timeoutSeconds := none
      memoryMb := none
    }
    sha256 := sha256
    zipInfo := some ⟨1, 100⟩
    jobZipBucket := "zips"
  }

/-- Nothing is stored yet. -/
def storedNothing : Stored where
  definitions := ∅
  instances := ∅
  runs := ∅

/--
Process 0 uploads version 1.  Processes 1 and 2 both read it before either of
them stores a document.
-/
def racingUploads : List (Label CatalogInput) :=
  [startCall 0 (reportUpload "first"),
    proceedAt 0 1, proceedAt 0 1, proceedAt 0 1, proceedAt 0 1,
    startCall 1 (reportUpload "second"), proceedAt 1 2,
    startCall 2 (reportUpload "third"), proceedAt 2 3,
    proceedAt 1 4, proceedAt 1 4, proceedAt 1 4,
    proceedAt 2 5, proceedAt 2 5, proceedAt 2 5]

/-- Two artifacts have been stored under version 2. -/
theorem racingUploads_not_pinned :
    ¬ VersionsPinned hourly storedNothing racingUploads := by
  intro promised
  have outcome :
      (run? hourly storedNothing racingUploads).map
          (fun pool =>
            (everStored storedNothing pool.shared "report").map
              fun document => (document.version, document.digest)) =
        some [(2, some "third"), (2, some "second"), (1, some "first")] := by
    decide
  obtain ⟨pool, ran, documents⟩ := Option.map_eq_some_iff.mp outcome
  have stands
      {version : Int}
      {digest : String}
      (listed :
        (version, some digest) ∈
          [((2 : Int), some "third"), (2, some "second"),
            (1, some "first")]) :
      ∃ document ∈ everStored storedNothing pool.shared "report",
        document.version = version ∧ document.digest = some digest := by
    rw [← documents] at listed
    obtain ⟨document, member, same⟩ := List.mem_map.mp listed
    exact ⟨document, member, (Prod.mk.inj same).1, (Prod.mk.inj same).2⟩
  obtain ⟨third, thirdMember, thirdVersion, thirdDigest⟩ :=
    stands (List.mem_cons_self)
  obtain ⟨second, secondMember, secondVersion, secondDigest⟩ :=
    stands (List.mem_cons_of_mem _ List.mem_cons_self)
  have same :=
    promised.pinned (List.append_nil racingUploads).symm ran thirdMember
      secondMember (thirdVersion.trans secondVersion.symm)
  rw [thirdDigest, secondDigest] at same
  revert same
  decide

end CatalogPool

end IgaScheduler
