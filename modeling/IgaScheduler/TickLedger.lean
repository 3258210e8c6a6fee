import IgaScheduler.TickTransactions

namespace IgaScheduler

open Relational Interleaving

/-!
# The ledger of a tick

One entry for every instance a tick has handled: it was fired, or it was given
up at some point behind its savepoint.  The summary counts along the entries,
and the uncommitted writes are those of the entries that were fired: a rollback
to the savepoint takes back the rows of an entry, not what was counted for it.
-/

namespace Catalog

/-- The rows of these instances and runs are what they were. -/
structure Kept
    (instanceIds runIds : List String)
    (catalog next : Catalog) :
    Prop where
  instances :
    ∀ instanceId ∈ instanceIds,
      next.jobInstance instanceId = catalog.jobInstance instanceId
  runs : ∀ runId ∈ runIds, next.run runId = catalog.run runId

/-- No committed row has changed. -/
structure Uncommitted
    (catalog next : Catalog) :
    Prop where
  instances : next.instances.committed = catalog.instances.committed
  runs : next.runs.committed = catalog.runs.committed

theorem Uncommitted.kept
    {catalog next : Catalog}
    (quiet : Uncommitted catalog next)
    (instanceIds runIds : List String) :
    Kept instanceIds runIds catalog next :=
  ⟨fun instanceId _ => by rw [jobInstance, quiet.instances, jobInstance],
    fun runId _ => by rw [run, quiet.runs, run]⟩

/-- Another process keeps the rows a transaction has locked, on both tables. -/
theorem exec_kept
    {process other : Nat}
    {statement : CatalogStatement}
    {catalog next : Catalog}
    {reply : CatalogReply}
    {instances : Transaction String JobInstance}
    {runs : Transaction String JobRun}
    (executed : catalog.exec other statement = some (next, reply))
    (different : process ≠ other)
    (opened : Open catalog process instances runs) :
    Kept instances.locked runs.locked catalog next := by
  obtain ⟨performed, ran, rfl⟩ := exec_eq_some executed
  obtain ⟨onInstances, onRuns⟩ := perform_respects ran
  constructor
  · intro instanceId held
    exact Database.locked_committed_eq onInstances different
      opened.instances held
  · intro runId held
    exact Database.locked_committed_eq onRuns different opened.runs held

/-- A transaction stays open while others execute their statements. -/
theorem Open.other
    {process other : Nat}
    {statement : CatalogStatement}
    {catalog next : Catalog}
    {reply : CatalogReply}
    {instances : Transaction String JobInstance}
    {runs : Transaction String JobRun}
    (opened : Open catalog process instances runs)
    (executed : catalog.exec other statement = some (next, reply))
    (different : process ≠ other) :
    Open next process instances runs := by
  obtain ⟨sameInstances, sameRuns⟩ :=
    exec_transactions_other executed different
  exact ⟨sameInstances.trans opened.instances,
    sameRuns.trans opened.runs⟩

/-- Of the statements of a tick, only `COMMIT` changes committed rows. -/
theorem exec_uncommitted
    {process : Nat}
    {statement : CatalogStatement}
    {catalog next : Catalog}
    {reply : CatalogReply}
    (executed : catalog.exec process statement = some (next, reply))
    (ofTick : Tick.isStatement statement = true)
    (notCommit : statement ≠ .commit) :
    Uncommitted catalog next := by
  obtain ⟨performed, ran, rfl⟩ := exec_eq_some executed
  cases statement with
  | listDueInstances nowIso batchSize =>
      cases ran
      exact ⟨rfl, rfl⟩
  | getDefinition definitionId =>
      cases ran
      exact ⟨rfl, rfl⟩
  | claimDueInstances nowIso batchSize =>
      obtain ⟨⟨database, rows⟩, selected, shape⟩ :=
        Option.map_eq_some_iff.mp ran
      cases shape
      exact ⟨(Database.selectForUpdate?_eq_some selected).2.1, rfl⟩
  | createRunTx document =>
      obtain ⟨⟨database, created⟩, inserted, shape⟩ :=
        Option.map_eq_some_iff.mp ran
      cases shape
      exact ⟨rfl, (Database.insertIn?_eq_some inserted).1⟩
  | advanceInstance instanceId lastFireAt nextFireAt nowIso =>
      obtain ⟨⟨database, returned⟩, updated, shape⟩ :=
        Option.map_eq_some_iff.mp ran
      cases shape
      exact ⟨(Database.updateIn?_eq_some updated).1, rfl⟩
  | begin | rollback =>
      simp only [perform] at ran
      obtain ⟨_, _, onInstances, onRuns, rfl⟩ := inTransaction?_eq_some ran
      cases onInstances
      cases onRuns
      exact ⟨rfl, rfl⟩
  | savepoint =>
      simp only [perform] at ran
      obtain ⟨_, _, onInstances, onRuns, rfl⟩ := inTransaction?_eq_some ran
      exact ⟨(Database.savepoint?_eq_some onInstances).1,
        (Database.savepoint?_eq_some onRuns).1⟩
  | releaseSavepoint =>
      simp only [perform] at ran
      obtain ⟨_, _, onInstances, onRuns, rfl⟩ := inTransaction?_eq_some ran
      exact ⟨(Database.release?_eq_some onInstances).1,
        (Database.release?_eq_some onRuns).1⟩
  | rollbackToSavepoint =>
      simp only [perform] at ran
      obtain ⟨_, _, onInstances, onRuns, rfl⟩ := inTransaction?_eq_some ran
      exact ⟨(Database.rollbackTo?_eq_some onInstances).1,
        (Database.rollbackTo?_eq_some onRuns).1⟩
  | commit =>
      exact (notCommit rfl).elim
  | _ =>
      cases ofTick

end Catalog

namespace Tick

/-! ## Entries -/

/-- The awaits behind a savepoint that can throw for an instance. -/
inductive Point where
  | fetching
  | inserting
  | advancing
  | releasing
  deriving DecidableEq

/-- Why an instance was given up, and whether its run was inserted by then. -/
inductive Failure where
  /-- There is no next fire time or no run id. -/
  | computing
  | fetching
  | inserting
  | advancing (created : Bool)
  | releasing (created : Bool)

/-- The await that threw. -/
def Failure.point? : Failure → Option Point
  | .computing => none
  | .fetching => some .fetching
  | .inserting => some .inserting
  | .advancing _ => some .advancing
  | .releasing _ => some .releasing

/-- A stage awaits what this point of this instance stands for. -/
def Stage.AwaitsAt
    (point : Point)
    (instanceId : String) :
    Stage → Prop
  | .fetching firing =>
      point = .fetching ∧ firing.document.instanceId = instanceId
  | .inserting firing _ =>
      point = .inserting ∧ firing.document.instanceId = instanceId
  | .advancing firing =>
      point = .advancing ∧ firing.document.instanceId = instanceId
  | .releasing firing =>
      point = .releasing ∧ firing.document.instanceId = instanceId
  | .undoing => False

def Local.AwaitsAt
    (point : Point)
    (instanceId : String) :
    Local → Prop
  | .handling _ _ stage _ _ => stage.AwaitsAt point instanceId
  | _ => False

/-- How a tick has handled an instance. -/
inductive Entry where
  | fired
      (firing : Firing)
      (snapshot : Option DefinitionSnapshot)
      (created : Bool)
  | failed
      (document : InstanceDocument)
      (failure : Failure)

namespace Entry

/-- The claimed instance. -/
def document : Entry → InstanceDocument
  | .fired firing _ _ => firing.document
  | .failed document _ => document

/-- The instance was given up because this await threw. -/
def FailedAt
    (point : Point)
    (instanceId : String) :
    Entry → Prop
  | .fired .. => False
  | .failed document failure =>
      failure.point? = some point ∧ document.instanceId = instanceId

/-- The instance whose row was advanced. -/
def advanced? : Entry → Option String
  | .fired firing _ _ => some firing.document.instanceId
  | .failed .. => none

/-- The run that was inserted. -/
def created? : Entry → Option String
  | .fired firing _ true => some firing.runId
  | _ => none

/-- The uncommitted instance rows after the entry. -/
def instances
    (nowIso : Timestamp)
    (work : WorkingSet String JobInstance) :
    Entry →
      WorkingSet String JobInstance
  | .fired firing _ _ =>
      work.write firing.document.instanceId (firing.advancedRow nowIso)
  | .failed .. => work

/-- The uncommitted runs after the entry. -/
def runs
    (nowIso : Timestamp)
    (work : WorkingSet String JobRun) :
    Entry →
      WorkingSet String JobRun
  | .fired firing snapshot created =>
      if created then
        work.write firing.runId
          (documentToRow (firing.runDocument nowIso snapshot))
      else
        work
  | .failed .. => work

end Entry

namespace Summary

/-- The insert of a run was answered. -/
def inserted
    (summary : Summary)
    (created : Bool) :
    Summary :=
  if created then
    { summary with createdRuns := summary.createdRuns + 1 }
  else
    { summary with duplicates := summary.duplicates + 1 }

/-- What had been counted for an instance when it was given up. -/
def interrupted
    (summary : Summary) :
    Failure →
      Summary
  | .advancing created => summary.inserted created
  | .releasing created =>
      { summary.inserted created with
        advanced := (summary.inserted created).advanced + 1 }
  | _ => summary

/-- The summary after an entry. -/
def record
    (summary : Summary) :
    Entry →
      Summary
  | .fired _ _ created =>
      { summary.inserted created with
        advanced := (summary.inserted created).advanced + 1 }
  | .failed _ failure =>
      { summary.interrupted failure with
        failed := (summary.interrupted failure).failed + 1 }

@[simp] theorem failed_inserted
    (summary : Summary)
    (created : Bool) :
    (summary.inserted created).failed = summary.failed := by
  cases created <;> rfl

@[simp] theorem failed_interrupted
    (summary : Summary)
    (failure : Failure) :
    (summary.interrupted failure).failed = summary.failed := by
  cases failure with
  | advancing created | releasing created =>
      exact failed_inserted summary created
  | _ =>
      rfl

/-- An answered insert is counted as one of the two. -/
@[simp] theorem createdRuns_add_inserted
    (summary : Summary)
    (created : Bool) :
    (summary.inserted created).createdRuns +
        (summary.inserted created).duplicates =
      summary.createdRuns + summary.duplicates + 1 := by
  cases created <;> simp [inserted] <;> omega

end Summary

/-- The summary of a tick that has claimed so many instances. -/
def tally
    (checked : Nat)
    (entries : List Entry) :
    Summary :=
  entries.foldl Summary.record { checked := checked }

/-- The instance rows that the entries leave uncommitted. -/
def ledgerInstances
    (nowIso : Timestamp)
    (documents : List InstanceDocument)
    (entries : List Entry) :
    WorkingSet String JobInstance :=
  entries.foldl (Entry.instances nowIso)
    (WorkingSet.empty.lock (documents.map InstanceDocument.instanceId))

/-- The runs that the entries leave uncommitted. -/
def ledgerRuns
    (nowIso : Timestamp)
    (entries : List Entry) :
    WorkingSet String JobRun :=
  entries.foldl (Entry.runs nowIso) .empty

section Ledger

variable {nowIso : Timestamp}
variable {documents : List InstanceDocument}
variable {entries : List Entry}
variable {entry : Entry}

theorem tally_append
    {checked : Nat} :
    tally checked (entries ++ [entry]) =
      (tally checked entries).record entry :=
  List.foldl_concat ..

theorem ledgerInstances_append :
    ledgerInstances nowIso documents (entries ++ [entry]) =
      entry.instances nowIso (ledgerInstances nowIso documents entries) :=
  List.foldl_concat ..

theorem ledgerRuns_append :
    ledgerRuns nowIso (entries ++ [entry]) =
      entry.runs nowIso (ledgerRuns nowIso entries) :=
  List.foldl_concat ..

/-- The claimed instances stay locked. -/
theorem locked_ledgerInstances
    {document : InstanceDocument}
    (member : document ∈ documents) :
    document.instanceId ∈
      (ledgerInstances nowIso documents entries).locked := by
  induction entries using List.reverseRecOn with
  | nil =>
      exact List.mem_append_left _ (List.mem_map_of_mem member)
  | append_singleton earlier newest inductionHypothesis =>
      rw [ledgerInstances_append]
      cases newest with
      | fired firing snapshot created =>
          exact List.mem_cons_of_mem _ inductionHypothesis
      | failed document failure =>
          exact inductionHypothesis

/-- The instances written are those advanced. -/
theorem mem_ledgerInstances
    {instanceId : String} :
    instanceId ∈ (ledgerInstances nowIso documents entries).writes ↔
      instanceId ∈ entries.filterMap Entry.advanced? := by
  induction entries using List.reverseRecOn with
  | nil =>
      simp [ledgerInstances, WorkingSet.lock, WorkingSet.empty]
  | append_singleton earlier newest inductionHypothesis =>
      rw [ledgerInstances_append, List.filterMap_append, List.mem_append,
        ← inductionHypothesis]
      cases newest with
      | fired firing snapshot created =>
          simp [Entry.instances, Entry.advanced?, WorkingSet.write, or_comm]
      | failed document failure =>
          simp [Entry.instances, Entry.advanced?]

/-- The runs written are those created. -/
theorem mem_ledgerRuns
    {runId : String} :
    runId ∈ (ledgerRuns nowIso entries).writes ↔
      runId ∈ entries.filterMap Entry.created? := by
  induction entries using List.reverseRecOn with
  | nil =>
      simp [ledgerRuns, WorkingSet.empty]
  | append_singleton earlier newest inductionHypothesis =>
      rw [ledgerRuns_append, List.filterMap_append, List.mem_append,
        ← inductionHypothesis]
      cases newest with
      | fired firing snapshot created =>
          cases created <;>
            simp [Entry.runs, Entry.created?, WorkingSet.write, or_comm]
      | failed document failure =>
          simp [Entry.runs, Entry.created?]

/-- A row written is the advanced row of an instance that was fired. -/
theorem lookup_ledgerInstances
    {instanceId : String}
    {row : JobInstance}
    (written :
      (ledgerInstances nowIso documents entries).writes.lookup instanceId =
        some row) :
    ∃ firing snapshot created,
      Entry.fired firing snapshot created ∈ entries ∧
        firing.document.instanceId = instanceId ∧
        row = firing.advancedRow nowIso := by
  induction entries using List.reverseRecOn with
  | nil =>
      cases written
  | append_singleton earlier newest inductionHypothesis =>
      rw [ledgerInstances_append] at written
      have fromEarlier
          (before :
            (ledgerInstances nowIso documents earlier).writes.lookup
                instanceId =
              some row) :
          ∃ firing snapshot created,
            Entry.fired firing snapshot created ∈ earlier ++ [newest] ∧
              firing.document.instanceId = instanceId ∧
              row = firing.advancedRow nowIso := by
        obtain ⟨firing, snapshot, created, member, rest⟩ :=
          inductionHypothesis before
        exact ⟨firing, snapshot, created, List.mem_append_left _ member,
          rest⟩
      cases newest with
      | fired firing snapshot created =>
          by_cases own : instanceId = firing.document.instanceId
          · rw [own, Entry.instances, WorkingSet.write,
              AList.lookup_insert] at written
            exact ⟨firing, snapshot, created, by simp, own.symm,
              (Option.some.inj written).symm⟩
          · rw [Entry.instances, WorkingSet.write,
              AList.lookup_insert_ne own] at written
            exact fromEarlier written
      | failed document failure =>
          exact fromEarlier written

/-- A run written is the run of an instance that was fired. -/
theorem lookup_ledgerRuns
    {runId : String}
    {run : JobRun}
    (written :
      (ledgerRuns nowIso entries).writes.lookup runId = some run) :
    ∃ firing snapshot,
      Entry.fired firing snapshot true ∈ entries ∧
        firing.runId = runId ∧
        run = documentToRow (firing.runDocument nowIso snapshot) := by
  induction entries using List.reverseRecOn with
  | nil =>
      cases written
  | append_singleton earlier newest inductionHypothesis =>
      rw [ledgerRuns_append] at written
      have fromEarlier
          (before :
            (ledgerRuns nowIso earlier).writes.lookup runId = some run) :
          ∃ firing snapshot,
            Entry.fired firing snapshot true ∈ earlier ++ [newest] ∧
              firing.runId = runId ∧
              run = documentToRow (firing.runDocument nowIso snapshot) := by
        obtain ⟨firing, snapshot, member, rest⟩ :=
          inductionHypothesis before
        exact ⟨firing, snapshot, List.mem_append_left _ member, rest⟩
      cases newest with
      | fired firing snapshot created =>
          cases created with
          | true =>
              by_cases own : runId = firing.runId
              · rw [own, Entry.runs, if_pos rfl, WorkingSet.write,
                  AList.lookup_insert] at written
                exact ⟨firing, snapshot, by simp, own.symm,
                  (Option.some.inj written).symm⟩
              · rw [Entry.runs, if_pos rfl, WorkingSet.write,
                  AList.lookup_insert_ne own] at written
                exact fromEarlier written
          | false =>
              exact fromEarlier written
      | failed document failure =>
          exact fromEarlier written

end Ledger

/-! ## What a tick can account for -/

/-- The instances a tick has claimed, and when. -/
structure Claim where
  arguments : Arguments
  nowIso : Timestamp
  documents : List InstanceDocument

/-- What has been seen of a tick so far. -/
structure Evidence where
  /-- These instances have been claimed. -/
  claims : Claim → Prop
  /-- This is what the fetch for an instance has found. -/
  fetched : String → Option DefinitionDocument → Prop
  /-- This await of an instance has thrown. -/
  raised : Point → String → Prop

/-- Where the snapshot of a run comes from. -/
def Evidence.Drafted
    (evidence : Evidence)
    (arguments : Arguments)
    (firing : Firing) :
    Option DefinitionSnapshot →
      Prop
  | none => arguments.definitionService = false
  | some snapshot =>
      arguments.definitionService = true ∧
        ∃ found,
          evidence.fetched firing.document.instanceId found ∧
            snapshot = buildExecutionMetadataSnapshot found

/-- An entry is the consequence of what was computed and fetched. -/
def Entry.Sound
    (cron : CronParser)
    (arguments : Arguments)
    (evidence : Evidence) :
    Entry →
      Prop
  | .fired firing snapshot _ =>
      firing? cron firing.document = some firing ∧
        evidence.Drafted arguments firing snapshot
  | .failed document failure =>
      failure.point? = none ↔ firing? cron document = none

/-- The entries account for all that has been seen. -/
structure Account
    (cron : CronParser)
    (arguments : Arguments)
    (nowIso : Timestamp)
    (evidence : Evidence)
    (documents : List InstanceDocument)
    (entries : List Entry)
    (rest : List InstanceDocument) :
    Prop where
  claims :
    ∀ claim,
      evidence.claims claim ↔ claim = ⟨arguments, nowIso, documents⟩
  distinct : (documents.map InstanceDocument.instanceId).Nodup
  handled : documents = entries.map Entry.document ++ rest
  raised :
    ∀ point instanceId,
      evidence.raised point instanceId ↔
        ∃ entry ∈ entries, entry.FailedAt point instanceId
  sound : ∀ entry ∈ entries, entry.Sound cron arguments evidence
  created : (entries.filterMap Entry.created?).Nodup

/-- The rows a tick has claimed are as it read them, and its runs are new. -/
structure Guarded
    (catalog : Catalog)
    (documents : List InstanceDocument)
    (runs : WorkingSet String JobRun) :
    Prop where
  stored :
    ∀ document ∈ documents,
      catalog.jobInstance document.instanceId = some document.toJobInstance
  fresh : ∀ runId ∈ runs.writes, catalog.run runId = none

/-- A firing is under way, behind a savepoint taken after these entries. -/
structure Firing.Pending
    (cron : CronParser)
    (arguments : Arguments)
    (nowIso : Timestamp)
    (evidence : Evidence)
    (documents : List InstanceDocument)
    (entries : List Entry)
    (rest : List InstanceDocument)
    (firing : Firing) :
    Prop where
  computed : firing? cron firing.document = some firing
  account :
    Account cron arguments nowIso evidence documents entries
      (firing.document :: rest)

/-- The run of a firing has been inserted, or was found to be there. -/
structure Firing.Placed
    (arguments : Arguments)
    (evidence : Evidence)
    (entries : List Entry)
    (firing : Firing)
    (snapshot : Option DefinitionSnapshot)
    (created : Bool) :
    Prop where
  drafted : evidence.Drafted arguments firing snapshot
  unlisted :
    created = true → firing.runId ∉ entries.filterMap Entry.created?

/-- The account behind a savepoint, of the writes and counts since. -/
def Stage.Accounted
    (cron : CronParser)
    (arguments : Arguments)
    (evidence : Evidence)
    (nowIso : Timestamp)
    (documents : List InstanceDocument)
    (entries : List Entry)
    (rest : List InstanceDocument)
    (summary : Summary)
    (instances : WorkingSet String JobInstance)
    (runs : WorkingSet String JobRun) :
    Stage → Prop
  | .fetching firing =>
      firing.Pending cron arguments nowIso evidence documents entries rest ∧
        summary = tally documents.length entries ∧
        instances = ledgerInstances nowIso documents entries ∧
        runs = ledgerRuns nowIso entries ∧
        arguments.definitionService = true
  | .inserting firing runDocument =>
      firing.Pending cron arguments nowIso evidence documents entries rest ∧
        summary = tally documents.length entries ∧
        instances = ledgerInstances nowIso documents entries ∧
        runs = ledgerRuns nowIso entries ∧
        ∃ snapshot,
          evidence.Drafted arguments firing snapshot ∧
            runDocument = firing.runDocument nowIso snapshot
  | .advancing firing =>
      firing.Pending cron arguments nowIso evidence documents entries rest ∧
        instances = ledgerInstances nowIso documents entries ∧
        ∃ snapshot created,
          firing.Placed arguments evidence entries snapshot created ∧
            summary =
              (tally documents.length entries).interrupted
                (.advancing created) ∧
            runs =
              ledgerRuns nowIso (entries ++ [.fired firing snapshot created])
  | .releasing firing =>
      firing.Pending cron arguments nowIso evidence documents entries rest ∧
        ∃ snapshot created,
          firing.Placed arguments evidence entries snapshot created ∧
            summary =
              (tally documents.length entries).interrupted
                (.releasing created) ∧
            instances =
              ledgerInstances nowIso documents
                (entries ++ [.fired firing snapshot created]) ∧
            runs =
              ledgerRuns nowIso (entries ++ [.fired firing snapshot created])
  | .undoing =>
      ∃ document failure,
        Account cron arguments nowIso evidence documents
            (entries ++ [.failed document failure]) rest ∧
          summary =
            (tally documents.length entries).interrupted failure

/-- The transaction behind a savepoint, taken after these entries. -/
structure Behind
    (cron : CronParser)
    (arguments : Arguments)
    (evidence : Evidence)
    (nowIso : Timestamp)
    (catalog : Catalog)
    (documents : List InstanceDocument)
    (entries : List Entry)
    (stage : Stage)
    (rest : List InstanceDocument)
    (summary : Summary)
    (instances : Transaction String JobInstance)
    (runs : Transaction String JobRun) :
    Prop where
  instancesSaved :
    instances.savepoint = some (ledgerInstances nowIso documents entries)
  runsSaved : runs.savepoint = some (ledgerRuns nowIso entries)
  guarded : Guarded catalog documents runs.toWorkingSet
  guardedSaved : Guarded catalog documents (ledgerRuns nowIso entries)
  stage :
    stage.Accounted cron arguments evidence nowIso documents entries rest
      summary instances.toWorkingSet runs.toWorkingSet

/-- Nothing has been seen of a tick that has not claimed its instances. -/
structure Evidence.Blank
    (evidence : Evidence) :
    Prop where
  claims : ∀ claim, ¬ evidence.claims claim
  raised : ∀ point instanceId, ¬ evidence.raised point instanceId

/-- What is known of a tick in each of its local states. -/
def Local.Accounted
    (cron : CronParser)
    (process : Nat)
    (evidence : Evidence)
    (catalog : Catalog) :
    Local → Prop
  | .start _ => evidence.Blank
  | .claiming _ _ =>
      evidence.Blank ∧
        ∃ instances runs,
          catalog.Open process instances runs ∧
            instances.toWorkingSet = .empty ∧
            runs.toWorkingSet = .empty
  | .between arguments nowIso rest summary =>
      ∃ documents entries instances runs,
        catalog.Open process instances runs ∧
          Account cron arguments nowIso evidence documents entries rest ∧
          Guarded catalog documents runs.toWorkingSet ∧
          summary = tally documents.length entries ∧
          instances.toWorkingSet =
            ledgerInstances nowIso documents entries ∧
          runs.toWorkingSet = ledgerRuns nowIso entries
  | .handling arguments nowIso stage rest summary =>
      ∃ documents entries instances runs,
        catalog.Open process instances runs ∧
          Behind cron arguments evidence nowIso catalog documents entries
            stage rest summary instances runs
  | _ => True

/-! ## What extends an account -/

/-- More has been seen of a tick: these awaits have thrown. -/
structure Evidence.Extends
    (before after : Evidence)
    (failed : Point → String → Prop) :
    Prop where
  claims : ∀ claim, after.claims claim ↔ before.claims claim
  fetched :
    ∀ instanceId found,
      before.fetched instanceId found → after.fetched instanceId found
  raised :
    ∀ point instanceId,
      after.raised point instanceId ↔
        before.raised point instanceId ∨ failed point instanceId

section Accounts

variable {cron : CronParser}
variable {arguments : Arguments}
variable {before after : Evidence}
variable {failed : Point → String → Prop}
variable {nowIso : Timestamp}
variable {catalog next : Catalog}
variable {documents rest : List InstanceDocument}
variable {entries : List Entry}
variable {entry : Entry}
variable {firing : Firing}
variable {summary : Summary}

theorem Evidence.Drafted.extend
    {snapshot : Option DefinitionSnapshot}
    (drafted : before.Drafted arguments firing snapshot)
    (grown : before.Extends after failed) :
    after.Drafted arguments firing snapshot := by
  cases snapshot with
  | none =>
      exact drafted
  | some snapshot =>
      obtain ⟨served, found, fetched, shape⟩ := drafted
      exact ⟨served, found, grown.fetched _ _ fetched, shape⟩

theorem Entry.Sound.extend
    (sound : entry.Sound cron arguments before)
    (grown : before.Extends after failed) :
    entry.Sound cron arguments after := by
  cases entry with
  | fired firing snapshot created =>
      exact ⟨sound.1, sound.2.extend grown⟩
  | failed document failure =>
      exact sound

/-- The next entry accounts for what has been seen since. -/
theorem Account.append
    (account :
      Account cron arguments nowIso before documents entries
        (entry.document :: rest))
    (grown :
      before.Extends after fun point instanceId =>
        entry.FailedAt point instanceId)
    (sound : entry.Sound cron arguments after)
    (unlisted :
      ∀ runId ∈ entry.created?,
        runId ∉ entries.filterMap Entry.created?) :
    Account cron arguments nowIso after documents (entries ++ [entry]) rest where
  claims claim := (grown.claims claim).trans (account.claims claim)
  distinct := account.distinct
  handled := by simpa using account.handled
  raised point instanceId := by
    rw [grown.raised, account.raised]
    simp [or_and_right, exists_or]
  sound other member := by
    rcases List.mem_append.mp member with earlier | newest
    · exact (account.sound other earlier).extend grown
    · rw [List.mem_singleton.mp newest]
      exact sound
  created := by
    rw [List.filterMap_append, List.nodup_append']
    refine ⟨account.created, ?_, ?_⟩
    · cases created : entry.created? <;> simp [created]
    · intro runId listed newest
      refine unlisted runId ?_ listed
      simpa [List.mem_filterMap] using newest

/-- Nothing has thrown: the account stands. -/
theorem Account.extend
    (account : Account cron arguments nowIso before documents entries rest)
    (grown : before.Extends after fun _ _ => False) :
    Account cron arguments nowIso after documents entries rest where
  claims claim := (grown.claims claim).trans (account.claims claim)
  distinct := account.distinct
  handled := account.handled
  raised point instanceId := by
    rw [grown.raised, or_false, account.raised]
  sound other member := (account.sound other member).extend grown
  created := account.created

theorem Evidence.Extends.refl
    (evidence : Evidence) :
    evidence.Extends evidence fun _ _ => False :=
  ⟨fun _ => .rfl, fun _ _ found => found, fun _ _ => (or_false _).symm ▸ .rfl⟩

/-- An entry for which nothing has thrown. -/
theorem Evidence.Extends.silent
    (evidence : Evidence)
    (silent : ∀ point instanceId, ¬ entry.FailedAt point instanceId) :
    evidence.Extends evidence fun point instanceId =>
      entry.FailedAt point instanceId :=
  ⟨fun _ => .rfl, fun _ _ found => found,
    fun point instanceId => by simp [silent point instanceId]⟩

/-- The instance that comes next has not been advanced. -/
theorem Account.unadvanced
    {document : InstanceDocument}
    (account :
      Account cron arguments nowIso before documents entries
        (document :: rest)) :
    document.instanceId ∉ entries.filterMap Entry.advanced? := by
  intro advanced
  obtain ⟨entry, member, same⟩ := List.mem_filterMap.mp advanced
  have distinct := account.distinct
  rw [account.handled, List.map_append, List.nodup_append'] at distinct
  refine distinct.2.2 (List.mem_map_of_mem (List.mem_map_of_mem member)) ?_
  cases entry with
  | fired firing snapshot created =>
      change firing.document.instanceId ∈ _
      rw [Option.some.inj same]
      exact List.mem_cons_self
  | failed document failure =>
      cases same

theorem Guarded.keeps
    {instanceIds runIds : List String}
    {runs : WorkingSet String JobRun}
    (guarded : Guarded catalog documents runs)
    (kept : Catalog.Kept instanceIds runIds catalog next)
    (claimed : ∀ document ∈ documents, document.instanceId ∈ instanceIds)
    (written : ∀ runId ∈ runs.writes, runId ∈ runIds) :
    Guarded next documents runs where
  stored document member :=
    (kept.instances _ (claimed document member)).trans
      (guarded.stored document member)
  fresh runId member :=
    (kept.runs runId (written runId member)).trans
      (guarded.fresh runId member)

theorem Guarded.uncommitted
    {runs : WorkingSet String JobRun}
    (guarded : Guarded catalog documents runs)
    (quiet : Catalog.Uncommitted catalog next) :
    Guarded next documents runs :=
  guarded.keeps (quiet.kept (documents.map InstanceDocument.instanceId)
      runs.writes.keys)
    (fun _ member => List.mem_map_of_mem member)
    (fun _ member => member)

/-- A run that was new may be added to those that were. -/
theorem Guarded.insert
    {firing : Firing}
    {snapshot : Option DefinitionSnapshot}
    {created : Bool}
    (guarded : Guarded catalog documents (ledgerRuns nowIso entries))
    (unseen : created = true → catalog.run firing.runId = none) :
    Guarded catalog documents
      (ledgerRuns nowIso (entries ++ [.fired firing snapshot created])) := by
  refine ⟨guarded.stored, ?_⟩
  intro runId written
  rw [mem_ledgerRuns, List.filterMap_append, List.mem_append] at written
  rcases written with earlier | newest
  · exact guarded.fresh runId (mem_ledgerRuns.mpr earlier)
  · cases created with
    | true =>
        obtain rfl := List.mem_singleton.mp newest
        exact unseen rfl
    | false =>
        cases newest

theorem Firing.Pending.extend
    (pending :
      firing.Pending cron arguments nowIso before documents entries rest)
    (grown : before.Extends after fun _ _ => False) :
    firing.Pending cron arguments nowIso after documents entries rest :=
  ⟨pending.computed, pending.account.extend grown⟩

theorem Firing.Placed.extend
    {snapshot : Option DefinitionSnapshot}
    {created : Bool}
    (placed : firing.Placed arguments before entries snapshot created)
    (grown : before.Extends after failed) :
    firing.Placed arguments after entries snapshot created :=
  ⟨placed.drafted.extend grown, placed.unlisted⟩

/-- What is known behind a savepoint stands while nothing throws. -/
theorem Stage.Accounted.extend
    {stage : Stage}
    {instances : WorkingSet String JobInstance}
    {runs : WorkingSet String JobRun}
    (accounted :
      stage.Accounted cron arguments before nowIso documents entries rest
        summary instances runs)
    (grown : before.Extends after fun _ _ => False) :
    stage.Accounted cron arguments after nowIso documents entries rest
      summary instances runs := by
  cases stage with
  | fetching firing =>
      exact ⟨accounted.1.extend grown, accounted.2⟩
  | inserting firing runDocument =>
      obtain ⟨pending, counted, onInstances, onRuns, snapshot, drafted,
          shape⟩ := accounted
      exact ⟨pending.extend grown, counted, onInstances, onRuns, snapshot,
        drafted.extend grown, shape⟩
  | advancing firing =>
      obtain ⟨pending, onInstances, snapshot, created, placed, rest⟩ :=
        accounted
      exact ⟨pending.extend grown, onInstances, snapshot, created,
        placed.extend grown, rest⟩
  | releasing firing =>
      obtain ⟨pending, snapshot, created, placed, rest⟩ := accounted
      exact ⟨pending.extend grown, snapshot, created, placed.extend grown,
        rest⟩
  | undoing =>
      obtain ⟨document, failure, account, counted⟩ := accounted
      exact ⟨document, failure, account.extend grown, counted⟩

theorem Evidence.Blank.extend
    (blank : before.Blank)
    (grown : before.Extends after fun _ _ => False) :
    after.Blank where
  claims claim claimed :=
    blank.claims claim ((grown.claims claim).mp claimed)
  raised point instanceId raised := by
    rw [grown.raised, or_false] at raised
    exact blank.raised point instanceId raised

/-- What is known of a tick stands while nothing throws. -/
theorem Local.Accounted.extend
    {process : Nat}
    {call : Local}
    (accounted : call.Accounted cron process before catalog)
    (grown : before.Extends after fun _ _ => False) :
    call.Accounted cron process after catalog := by
  cases call with
  | start arguments =>
      exact Evidence.Blank.extend accounted grown
  | claiming arguments nowIso =>
      exact ⟨accounted.1.extend grown, accounted.2⟩
  | between arguments nowIso rest summary =>
      obtain ⟨documents, entries, instances, runs, opened, account,
          known⟩ := accounted
      exact ⟨documents, entries, instances, runs, opened,
        account.extend grown, known⟩
  | handling arguments nowIso stage rest summary =>
      obtain ⟨documents, entries, instances, runs, opened, behind⟩ :=
        accounted
      exact ⟨documents, entries, instances, runs, opened,
        { behind with stage := behind.stage.extend grown }⟩
  | rollingBack | done =>
      trivial

/-- Steps of other processes keep what is known of a tick. -/
theorem Local.Accounted.exec_other
    {process other : Nat}
    {statement : CatalogStatement}
    {reply : CatalogReply}
    {call : Local}
    (accounted : call.Accounted cron process before catalog)
    (executed : catalog.exec other statement = some (next, reply))
    (different : process ≠ other) :
    call.Accounted cron process before next := by
  cases call with
  | claiming arguments nowIso =>
      obtain ⟨blank, instances, runs, opened, fresh⟩ := accounted
      exact ⟨blank, instances, runs, opened.other executed different, fresh⟩
  | between arguments nowIso rest summary =>
      obtain ⟨documents, entries, instances, runs, opened, account, guarded,
          counted, onInstances, onRuns⟩ := accounted
      have kept := Catalog.exec_kept executed different opened
      refine ⟨documents, entries, instances, runs,
        opened.other executed different, account,
        guarded.keeps kept ?_ runs.writesLocked, counted, onInstances,
        onRuns⟩
      intro document member
      rw [onInstances]
      exact locked_ledgerInstances member
  | handling arguments nowIso stage rest summary =>
      obtain ⟨documents, entries, instances, runs, opened, behind⟩ :=
        accounted
      have kept := Catalog.exec_kept executed different opened
      -- a lock taken before the savepoint is still held
      have claimed :
          ∀ document ∈ documents,
            document.instanceId ∈ instances.locked := by
        intro document member
        exact instances.savepointLocked _ behind.instancesSaved _
          (locked_ledgerInstances member)
      refine ⟨documents, entries, instances, runs,
        opened.other executed different, { behind with
          guarded := behind.guarded.keeps kept claimed runs.writesLocked
          guardedSaved := behind.guardedSaved.keeps kept claimed ?_ }⟩
      intro runId written
      exact runs.savepointLocked _ behind.runsSaved _
        ((ledgerRuns nowIso entries).writesLocked _ written)
  | start | rollingBack | done =>
      exact accounted

/-! ## The steps of a tick itself -/

/-- The instance that comes next is one of those claimed. -/
theorem Account.next_mem
    {document : InstanceDocument}
    (account :
      Account cron arguments nowIso before documents entries
        (document :: rest)) :
    document ∈ documents := by
  rw [account.handled]
  exact List.mem_append_right _ List.mem_cons_self

/-- The account behind a new savepoint. -/
theorem firstStage_accounted
    {document : InstanceDocument}
    (account :
      Account cron arguments nowIso before documents entries
        (document :: rest)) :
    (firstStage cron arguments nowIso document).Accounted cron arguments
      before nowIso documents entries rest (tally documents.length entries)
      (ledgerInstances nowIso documents entries)
      (ledgerRuns nowIso entries) := by
  unfold firstStage
  split
  · rename_i missing
    refine ⟨document, .computing, account.append ?_ ?_ ?_, rfl⟩
    · exact .silent before fun point instanceId => by
        simp [Entry.FailedAt, Failure.point?]
    · exact iff_of_true rfl missing
    · rintro runId ⟨⟩
  · rename_i firing computed
    obtain rfl := (firing?_eq_some computed).1
    split
    · rename_i served
      exact ⟨⟨computed, account⟩, rfl, rfl, rfl, served⟩
    · rename_i unserved
      exact ⟨⟨computed, account⟩, rfl, rfl, rfl, none,
        eq_false_of_ne_true unserved, rfl⟩

/-- A step behind a savepoint leads to the next stage or past the instance. -/
theorem Local.Accounted.proceed_handling
    {process : Nat}
    {environment : CatalogEnvironment}
    {stage : Stage}
    {reply : CatalogReply}
    (accounted :
      (Local.handling arguments nowIso stage rest summary).Accounted cron
        process before catalog)
    (fetched :
      ∀ firing, stage = .fetching firing →
        before.fetched firing.document.instanceId
          (catalog.definition firing.document.definitionId))
    (executed :
      catalog.exec process (stage.issue nowIso) = some (next, reply)) :
    (resume cron (.handling arguments nowIso stage rest summary)
      environment reply).Accounted cron process before next := by
  obtain ⟨documents, entries, instances, runs, opened, behind⟩ := accounted
  have accounted := behind.stage
  cases stage with
  | fetching firing =>
      have found := fetched firing rfl
      cases executed
      obtain ⟨pending, counted, onInstances, onRuns, served⟩ := accounted
      exact ⟨documents, entries, instances, runs, opened, { behind with
        stage := ⟨pending, counted, onInstances, onRuns, some _,
          ⟨served, _, found, rfl⟩, rfl⟩ }⟩
  | inserting firing runDocument =>
      obtain ⟨pending, rfl, onInstances, onRuns, snapshot, drafted, rfl⟩ :=
        accounted
      have quiet := Catalog.exec_uncommitted executed rfl
        (fun same => by cases same)
      obtain ⟨-, runsAfter, openedAfter, saved, work, unseen⟩ :=
        Catalog.exec_createRunTx executed opened
      have work :
          runsAfter.toWorkingSet =
            ledgerRuns nowIso
              (entries ++ [.fired firing snapshot reply.written]) := by
        rw [work, ledgerRuns_append, onRuns]
        rfl
      have guarded : Guarded catalog documents runsAfter.toWorkingSet := by
        rw [work]
        exact behind.guardedSaved.insert fun inserted =>
          (unseen.mp inserted).2
      refine ⟨documents, entries, instances, runsAfter, openedAfter,
        { instancesSaved := behind.instancesSaved
          runsSaved := saved.trans behind.runsSaved
          guarded := guarded.uncommitted quiet
          guardedSaved := behind.guardedSaved.uncommitted quiet
          stage := ⟨pending, onInstances, snapshot, reply.written,
            ⟨drafted, ?_⟩, rfl, work⟩ }⟩
      intro inserted listed
      refine (unseen.mp inserted).1 ?_
      rw [onRuns]
      exact mem_ledgerRuns.mpr listed
  | advancing firing =>
      obtain ⟨pending, onInstances, snapshot, created, placed, rfl,
          onRuns⟩ := accounted
      have quiet := Catalog.exec_uncommitted executed rfl
        (fun same => by cases same)
      have unwritten : firing.document.instanceId ∉ instances.writes := by
        rw [onInstances, mem_ledgerInstances]
        exact pending.account.unadvanced
      obtain ⟨-, instancesAfter, openedAfter, saved, work⟩ :=
        Catalog.exec_advanceInstance executed opened unwritten
          (behind.guarded.stored _ pending.account.next_mem)
      refine ⟨documents, entries, instancesAfter, runs, openedAfter,
        { instancesSaved := saved.trans behind.instancesSaved
          runsSaved := behind.runsSaved
          guarded := behind.guarded.uncommitted quiet
          guardedSaved := behind.guardedSaved.uncommitted quiet
          stage := ⟨pending, snapshot, created, placed, rfl, ?_, onRuns⟩ }⟩
      rw [work, ledgerInstances_append, onInstances]
      rfl
  | releasing firing =>
      obtain ⟨pending, snapshot, created, placed, rfl, onInstances,
          onRuns⟩ := accounted
      have quiet := Catalog.exec_uncommitted executed rfl
        (fun same => by cases same)
      obtain ⟨-, instancesAfter, runsAfter, openedAfter, sameInstances,
          sameRuns⟩ :=
        Catalog.exec_releaseSavepoint executed opened
      have account :
          Account cron arguments nowIso before documents
            (entries ++ [.fired firing snapshot created]) rest := by
        refine pending.account.append ?_
          ⟨pending.computed, placed.drafted⟩ ?_
        · exact .silent before fun point instanceId failed => failed
        · intro runId inserted
          cases created with
          | true =>
              cases inserted
              exact placed.unlisted rfl
          | false =>
              cases inserted
      refine ⟨documents, entries ++ [.fired firing snapshot created],
        instancesAfter, runsAfter, openedAfter, account, ?_, ?_,
        sameInstances.trans onInstances, sameRuns.trans onRuns⟩
      · rw [sameRuns]
        exact behind.guarded.uncommitted quiet
      · rw [tally_append]
        rfl
  | undoing =>
      obtain ⟨document, failure, account, rfl⟩ := accounted
      have quiet := Catalog.exec_uncommitted executed rfl
        (fun same => by cases same)
      obtain ⟨-, instancesAfter, runsAfter, openedAfter, backInstances,
          backRuns⟩ :=
        Catalog.exec_rollbackToSavepoint executed opened
      have onInstances :=
        Option.some.inj (backInstances.symm.trans behind.instancesSaved)
      have onRuns := Option.some.inj (backRuns.symm.trans behind.runsSaved)
      refine ⟨documents, entries ++ [.failed document failure],
        instancesAfter, runsAfter, openedAfter, account, ?_, ?_, ?_, ?_⟩
      · rw [onRuns]
        exact behind.guardedSaved.uncommitted quiet
      · rw [tally_append]
        rfl
      · rw [onInstances, ledgerInstances_append]
        rfl
      · rw [onRuns, ledgerRuns_append]
        rfl

/-- The claimed instances are all still to come. -/
theorem Local.Accounted.claim
    {process batchSize : Nat}
    {reply : CatalogReply}
    (accounted :
      (Local.claiming arguments nowIso).Accounted cron process before
        catalog)
    (claims :
      ∀ claim,
        after.claims claim ↔ claim = ⟨arguments, nowIso, reply.listed⟩)
    (raised : ∀ point instanceId, ¬ after.raised point instanceId)
    (executed :
      catalog.exec process (.claimDueInstances nowIso batchSize) =
        some (next, reply)) :
    (Local.between arguments nowIso reply.listed
      { checked := reply.listed.length }).Accounted cron process after
        next := by
  obtain ⟨-, instances, runs, opened, freshInstances, freshRuns⟩ := accounted
  have quiet := Catalog.exec_uncommitted executed rfl
    (fun same => by cases same)
  obtain ⟨-, distinct, stored, instancesAfter, openedAfter, work⟩ :=
    Catalog.exec_claimDueInstances executed opened
  have account :
      Account cron arguments nowIso after reply.listed [] reply.listed :=
    { claims := claims
      distinct := distinct
      handled := rfl
      raised := fun point instanceId => by
        simp [raised point instanceId]
      sound := fun entry member => nomatch member
      created := List.nodup_nil }
  have guarded : Guarded catalog reply.listed runs.toWorkingSet :=
    { stored := fun document member => (stored document member).1
      fresh := fun runId written => by
        rw [freshRuns] at written
        exact (AList.notMem_empty runId written).elim }
  refine ⟨reply.listed, [], instancesAfter, runs, openedAfter, account,
    guarded.uncommitted quiet, rfl, ?_, freshRuns⟩
  rw [work, freshInstances]
  rfl

/-- A tick's own step keeps what is known of it, once it has claimed. -/
theorem Local.Accounted.proceed
    {process : Nat}
    {call : Local}
    {environment : CatalogEnvironment}
    {statement : CatalogStatement}
    {reply : CatalogReply}
    (accounted : call.Accounted cron process before catalog)
    (claimed : ∀ arguments nowIso, call ≠ .claiming arguments nowIso)
    (fetched :
      ∀ arguments nowIso firing rest summary,
        call = .handling arguments nowIso (.fetching firing) rest summary →
        before.fetched firing.document.instanceId
          (catalog.definition firing.document.definitionId))
    (issued : issue call environment = some statement)
    (executed : catalog.exec process statement = some (next, reply)) :
    (resume cron call environment reply).Accounted cron process before
      next := by
  cases call with
  | start arguments =>
      by_cases dryRun : arguments.dryRun = true
      · simp only [resume, dryRun, if_true]
        trivial
      · simp only [issue, resume, dryRun] at issued ⊢
        cases issued
        exact ⟨accounted, Catalog.exec_begin executed⟩
  | claiming arguments nowIso =>
      exact (claimed arguments nowIso rfl).elim
  | between arguments nowIso rest summary =>
      cases rest with
      | nil =>
          trivial
      | cons document rest =>
          cases issued
          obtain ⟨documents, entries, instances, runs, opened, account,
              guarded, rfl, onInstances, onRuns⟩ := accounted
          have quiet := Catalog.exec_uncommitted executed rfl
            (fun same => by cases same)
          obtain ⟨-, instancesAfter, runsAfter, openedAfter, sameInstances,
              savedInstances, sameRuns, savedRuns⟩ :=
            Catalog.exec_savepoint executed opened
          rw [onInstances] at sameInstances savedInstances
          rw [onRuns] at guarded sameRuns savedRuns
          refine ⟨documents, entries, instancesAfter, runsAfter, openedAfter,
            { instancesSaved := savedInstances
              runsSaved := savedRuns
              guarded := ?_
              guardedSaved := guarded.uncommitted quiet
              stage := ?_ }⟩
          · rw [sameRuns]
            exact guarded.uncommitted quiet
          · rw [sameInstances, sameRuns]
            exact firstStage_accounted account
  | handling arguments nowIso stage rest summary =>
      cases issued
      refine accounted.proceed_handling ?_ executed
      rintro firing rfl
      exact fetched arguments nowIso firing rest summary rfl
  | rollingBack | done =>
      trivial

/-- An await that throws behind a savepoint gives the instance up. -/
theorem Local.Accounted.raise
    {process : Nat}
    {call : Local}
    {reply : CatalogReply}
    (accounted : call.Accounted cron process before catalog)
    (grown :
      before.Extends after fun point instanceId =>
        call.AwaitsAt point instanceId)
    (executed :
      catalog.exec process (raiseStatement call) = some (next, reply)) :
    (Tick.raise call).Accounted cron process after next := by
  cases call with
  | start arguments =>
      simp only [Tick.raise]
      split <;> trivial
  | handling arguments nowIso stage rest summary =>
      cases executed
      obtain ⟨documents, entries, instances, runs, opened, behind⟩ :=
        accounted
      have stageAccounted := behind.stage
      -- whatever is pending is given up as one more entry
      have undoing
          {firing : Firing}
          (failure : Failure)
          (pending :
            firing.Pending cron arguments nowIso before documents entries rest)
          (awaited :
            ∀ point instanceId,
              stage.AwaitsAt point instanceId ↔
                failure.point? = some point ∧
                  firing.document.instanceId = instanceId)
          (throws : failure.point? ≠ none)
          (counted :
            summary =
              (tally documents.length entries).interrupted failure) :
          (Local.handling arguments nowIso .undoing rest summary).Accounted
            cron process after catalog := by
        refine ⟨documents, entries, instances, runs, opened, { behind with
          stage := ⟨firing.document, failure,
            pending.account.append ?_ ?_ ?_, counted⟩ }⟩
        · exact ⟨grown.claims, grown.fetched, fun point instanceId =>
            (grown.raised point instanceId).trans
              (or_congr_right (awaited point instanceId))⟩
        · exact iff_of_false throws (by simp [pending.computed])
        · rintro runId ⟨⟩
      cases stage with
      | fetching firing =>
          exact undoing .fetching stageAccounted.1
            (fun point instanceId => by
              simp [Stage.AwaitsAt, Failure.point?, eq_comm])
            (Option.some_ne_none _)
            stageAccounted.2.1
      | inserting firing runDocument =>
          exact undoing .inserting stageAccounted.1
            (fun point instanceId => by
              simp [Stage.AwaitsAt, Failure.point?, eq_comm])
            (Option.some_ne_none _)
            stageAccounted.2.1
      | advancing firing =>
          obtain ⟨pending, -, snapshot, created, -, counted, -⟩ :=
            stageAccounted
          exact undoing (.advancing created) pending
            (fun point instanceId => by
              simp [Stage.AwaitsAt, Failure.point?, eq_comm])
            (Option.some_ne_none _)
            counted
      | releasing firing =>
          obtain ⟨pending, snapshot, created, -, counted, -⟩ :=
            stageAccounted
          exact undoing (.releasing created) pending
            (fun point instanceId => by
              simp [Stage.AwaitsAt, Failure.point?, eq_comm])
            (Option.some_ne_none _)
            counted
      | undoing =>
          trivial
  | _ =>
      trivial

end Accounts

end Tick

namespace CatalogPool

/-! ## The account of a tick along a run -/

/-- A tick claims these instances. -/
def Claims
    (process : Nat)
    (claim : Tick.Claim)
    (label : Label CatalogInput)
    (before after : CatalogPool) :
    Prop :=
  (∃ environment, label = (process, .proceed environment)) ∧
    before.locals process =
        .tick (.claiming claim.arguments claim.nowIso) ∧
      ∃ summary,
        after.locals process =
          .tick (.between claim.arguments claim.nowIso claim.documents
            summary)

/-- A tick fetches the definition of an instance. -/
def Fetches
    (process : Nat)
    (instanceId : String)
    (found : Option DefinitionDocument)
    (label : Label CatalogInput)
    (before _after : CatalogPool) :
    Prop :=
  (∃ environment, label = (process, .proceed environment)) ∧
    ∃ arguments nowIso firing rest summary,
      before.locals process =
          .tick (.handling arguments nowIso (.fetching firing) rest
            summary) ∧
        firing.document.instanceId = instanceId ∧
        before.shared.definition firing.document.definitionId = found

/-- What a tick awaits for an instance throws. -/
def RaisesAt
    (process : Nat)
    (point : Tick.Point)
    (instanceId : String)
    (label : Label CatalogInput)
    (before _after : CatalogPool) :
    Prop :=
  label = (process, .raise) ∧
    ∃ call,
      before.locals process = .tick call ∧ call.AwaitsAt point instanceId

/-- Some step of the run is of this kind. -/
abbrev Happened
    (cron : CronParser)
    (stored : Stored)
    (schedule : List (Label CatalogInput))
    (event : Label CatalogInput → CatalogPool → CatalogPool → Prop) :
    Prop :=
  (catalogSystem cron).Happened (initial stored) schedule event

/-- What a run shows of the tick of a process. -/
def evidence
    (cron : CronParser)
    (stored : Stored)
    (process : Nat)
    (schedule : List (Label CatalogInput)) :
    Tick.Evidence where
  claims claim := Happened cron stored schedule (Claims process claim)
  fetched instanceId found :=
    Happened cron stored schedule (Fetches process instanceId found)
  raised point instanceId :=
    Happened cron stored schedule (RaisesAt process point instanceId)

section Runs

variable {cron : CronParser}
variable {stored : Stored}
variable {process : Nat}
variable {schedule earlier : List (Label CatalogInput)}
variable {pool next : CatalogPool}
variable {label : Label CatalogInput}

/-- One step of a tick: its statement is executed, or it threw. -/
theorem tick_step
    {call : Tick.Local}
    (calling : pool.locals label.1 = .tick call)
    (stepped : (catalogSystem cron).step? pool label = some next) :
    ∃ reply,
      (∃ environment statement,
        label.2 = .proceed environment ∧
          Tick.issue call environment = some statement ∧
          pool.shared.exec label.1 statement = some (next.shared, reply) ∧
          next.locals label.1 =
            .tick (Tick.resume cron call environment reply)) ∨
        label.2 = .raise ∧
          pool.shared.exec label.1 (Tick.raiseStatement call) =
            some (next.shared, reply) ∧
          next.locals label.1 = .tick (Tick.raise call) := by
  obtain ⟨statement, reply, issued, executed, resumed⟩ := step_moves stepped
  rw [calling] at issued resumed
  refine ⟨reply, ?_⟩
  rcases label with ⟨process, input⟩
  cases input with
  | start request =>
      cases issued
  | proceed environment =>
      exact .inl ⟨environment, statement, rfl, issued, executed, resumed⟩
  | raise =>
      simp only [CatalogCall.issue] at issued
      split at issued <;> cases issued
      exact .inr ⟨rfl, executed, resumed⟩

/-- The first step of a process starts a call and changes no store. -/
theorem idle_step
    (calling : pool.locals label.1 = .idle)
    (stepped : (catalogSystem cron).step? pool label = some next) :
    ∃ request,
      label.2 = .start request ∧
        Catalog.Uncommitted pool.shared next.shared ∧
        next.locals label.1 = request.call := by
  obtain ⟨statement, reply, issued, executed, resumed⟩ := step_moves stepped
  rw [calling] at issued resumed
  rcases label with ⟨process, input⟩
  cases input with
  | start request =>
      cases issued
      generalize next.shared = shared at executed ⊢
      cases executed
      exact ⟨request, rfl, ⟨rfl, rfl⟩, resumed⟩
  | proceed environment =>
      cases issued
  | raise =>
      cases issued

/-- A call that is in progress stays the call it is. -/
theorem busy_step
    (busy : pool.locals label.1 ≠ .idle)
    (stepped : (catalogSystem cron).step? pool label = some next) :
    next.locals label.1 ≠ .idle ∧
      ∀ {after : Tick.Local},
        next.locals label.1 = .tick after →
        ∃ call, pool.locals label.1 = .tick call := by
  obtain ⟨statement, reply, issued, -, resumed⟩ := step_moves stepped
  rw [resumed]
  rcases label with ⟨process, input⟩
  change (pool.locals process).issue input = _ at issued
  change (pool.locals process).resume cron input reply ≠ _ ∧
    ∀ {after : Tick.Local},
      (pool.locals process).resume cron input reply = _ → _
  change pool.locals process ≠ _ at busy
  generalize pool.locals process = call at busy issued ⊢
  cases call with
  | idle =>
      exact (busy rfl).elim
  | tick call =>
      cases input with
      | start request =>
          cases issued
      | proceed environment =>
          exact ⟨nofun, fun _ => ⟨call, rfl⟩⟩
      | raise =>
          exact ⟨nofun, fun _ => ⟨call, rfl⟩⟩
  | _ =>
      cases input with
      | start request =>
          cases issued
      | proceed environment =>
          exact ⟨nofun, nofun⟩
      | raise =>
          exact ⟨nofun, nofun⟩

/--
Induction along a run from the point of view of one process: what holds while
it is idle, and what holds of its tick once one has been started.
-/
theorem tick_induction
    (idle : List (Label CatalogInput) → Prop)
    (ticking :
      List (Label CatalogInput) → CatalogPool → Tick.Local → Prop)
    (atStart : idle [])
    (started :
      ∀ {earlier : List (Label CatalogInput)} {pool next : CatalogPool}
        {label : Label CatalogInput} {arguments : Tick.Arguments},
        run? cron stored earlier = some pool →
        (catalogSystem cron).step? pool label = some next →
        label.1 = process →
        pool.locals process = .idle →
        idle earlier →
        ticking (earlier ++ [label]) next (.start arguments))
    (moved :
      ∀ {earlier : List (Label CatalogInput)} {pool next : CatalogPool}
        {label : Label CatalogInput} {call after : Tick.Local},
        run? cron stored earlier = some pool →
        (catalogSystem cron).step? pool label = some next →
        label.1 = process →
        pool.locals process = .tick call →
        next.locals process = .tick after →
        ticking earlier pool call →
        ticking (earlier ++ [label]) next after)
    (others :
      ∀ {earlier : List (Label CatalogInput)} {pool next : CatalogPool}
        {label : Label CatalogInput},
        run? cron stored earlier = some pool →
        (catalogSystem cron).step? pool label = some next →
        label.1 ≠ process →
        (idle earlier → idle (earlier ++ [label])) ∧
          ∀ {call : Tick.Local},
            ticking earlier pool call →
            ticking (earlier ++ [label]) next call)
    {call : Tick.Local}
    (ran : run? cron stored schedule = some pool)
    (calling : pool.locals process = .tick call) :
    ticking schedule pool call := by
  refine (System.run?_induction
    (fun visited reached =>
      (reached.locals process = .idle → idle visited) ∧
        ∀ {call : Tick.Local},
          reached.locals process = .tick call →
          ticking visited reached call)
    ⟨fun _ => atStart, ?_⟩ ?_ ran).2 calling
  · intro call calling
    cases calling
  · rintro earlier visited next label ranEarlier ⟨whileIdle, whileTicking⟩
      stepped
    by_cases own : label.1 = process
    · subst own
      by_cases before : visited.locals label.1 = .idle
      · obtain ⟨request, -, -, resumed⟩ := idle_step before stepped
        rw [resumed]
        refine ⟨fun same => ?_, fun {call} same => ?_⟩
        · cases request <;> cases same
        · cases request <;> cases same
          exact started ranEarlier stepped rfl before (whileIdle before)
      · obtain ⟨busy, wasTick⟩ := busy_step before stepped
        refine ⟨fun same => (busy same).elim, fun {after} entered => ?_⟩
        obtain ⟨call, calling⟩ := wasTick entered
        exact moved ranEarlier stepped rfl calling entered
          (whileTicking calling)
    · obtain ⟨keptIdle, keptTicking⟩ := others ranEarlier stepped own
      rw [System.step?_locals_other stepped (Ne.symm own)]
      exact ⟨fun before => keptIdle (whileIdle before),
        fun {call} calling => keptTicking (whileTicking calling)⟩

/-- What one step adds to what has been seen. -/
theorem evidence_extends
    {failed : Tick.Point → String → Prop}
    (ran : run? cron stored earlier = some pool)
    (stepped : (catalogSystem cron).step? pool label = some next)
    (unclaimed : ∀ claim, ¬ Claims process claim label pool next)
    (raised :
      ∀ point instanceId,
        RaisesAt process point instanceId label pool next ↔
          failed point instanceId) :
    (evidence cron stored process earlier).Extends
      (evidence cron stored process (earlier ++ [label])) failed where
  claims claim :=
    (System.happened_append_singleton ran stepped).trans
      (or_iff_left (unclaimed claim))
  fetched _ _ fetched :=
    (System.happened_append_singleton ran stepped).mpr (.inl fetched)
  raised point instanceId :=
    (System.happened_append_singleton ran stepped).trans
      (or_congr_right (raised point instanceId))

/-- A tick's own step keeps it accounted for. -/
theorem accounted_own_step
    {call : Tick.Local}
    (ran : run? cron stored earlier = some pool)
    (stepped : (catalogSystem cron).step? pool label = some next)
    (calling : pool.locals label.1 = .tick call)
    (accounted :
      call.Accounted cron label.1 (evidence cron stored label.1 earlier)
        pool.shared) :
    ∃ after,
      next.locals label.1 = .tick after ∧
        after.Accounted cron label.1
          (evidence cron stored label.1 (earlier ++ [label]))
          next.shared := by
  obtain ⟨reply, ⟨environment, statement, proceeds, issued, executed,
      resumed⟩ | ⟨raises, executed, resumed⟩⟩ :=
    tick_step calling stepped
  · refine ⟨_, resumed, ?_⟩
    have silent : ∀ point instanceId,
        ¬ RaisesAt label.1 point instanceId label pool next := by
      rintro point instanceId ⟨shape, -⟩
      rw [shape] at proceeds
      cases proceeds
    by_cases claiming :
        ∃ arguments nowIso, call = .claiming arguments nowIso
    · obtain ⟨arguments, nowIso, rfl⟩ := claiming
      cases issued
      refine accounted.claim ?_ ?_ executed
      · intro claim
        refine (System.happened_append_singleton ran stepped).trans
          ((or_iff_right (accounted.1.claims claim)).trans ?_)
        constructor
        · obtain ⟨claimArguments, claimNow, documents⟩ := claim
          rintro ⟨-, -, _, entered⟩
          rw [resumed] at entered
          cases entered
          rfl
        · rintro rfl
          exact ⟨⟨environment, Prod.ext rfl proceeds⟩, calling, _, resumed⟩
      · intro point instanceId raised
        rcases (System.happened_append_singleton ran stepped).mp raised with
          before | now
        · exact accounted.1.raised point instanceId before
        · exact silent point instanceId now
    · have grown :
          (evidence cron stored label.1 earlier).Extends
            (evidence cron stored label.1 (earlier ++ [label]))
            fun _ _ => False := by
        refine evidence_extends ran stepped ?_ ?_
        · rintro claim ⟨-, entered, -⟩
          rw [calling] at entered
          exact claiming ⟨_, _, CatalogCall.tick.inj entered⟩
        · exact fun point instanceId =>
            iff_false_intro (silent point instanceId)
      refine (accounted.extend grown).proceed ?_ ?_ issued executed
      · intro arguments nowIso shape
        exact claiming ⟨arguments, nowIso, shape⟩
      · rintro arguments nowIso firing rest summary rfl
        exact (System.happened_append_singleton ran stepped).mpr
          (.inr ⟨⟨environment, Prod.ext rfl proceeds⟩, arguments, nowIso,
            firing, rest, summary, calling, rfl, rfl⟩)
  · refine ⟨_, resumed, accounted.raise ?_ executed⟩
    refine evidence_extends ran stepped ?_ ?_
    · rintro claim ⟨⟨environment, shape⟩, -⟩
      rw [shape] at raises
      cases raises
    · intro point instanceId
      constructor
      · rintro ⟨-, other, entered, awaited⟩
        rw [calling] at entered
        cases entered
        exact awaited
      · intro awaited
        exact ⟨Prod.ext rfl raises, call, calling, awaited⟩

/-- Along every run, the ticks are accounted for. -/
theorem accounted_of_run
    {call : Tick.Local}
    (ran : run? cron stored schedule = some pool)
    (calling : pool.locals process = .tick call) :
    call.Accounted cron process (evidence cron stored process schedule)
      pool.shared := by
  refine tick_induction
    (fun visited => (evidence cron stored process visited).Blank)
    (fun visited reached call =>
      call.Accounted cron process (evidence cron stored process visited)
        reached.shared)
    ⟨fun claim => System.not_happened_nil,
      fun point instanceId => System.not_happened_nil⟩ ?_ ?_ ?_ ran calling
  · intro earlier visited next label arguments ranEarlier stepped own before
      blank
    refine blank.extend (evidence_extends ranEarlier stepped ?_ ?_)
    · rintro claim ⟨-, entered, -⟩
      rw [before] at entered
      cases entered
    · refine fun point instanceId => iff_false_intro ?_
      rintro ⟨-, call, entered, -⟩
      rw [before] at entered
      cases entered
  · intro earlier visited next label call after ranEarlier stepped own before
      entered accounted
    subst own
    obtain ⟨reached, enteredToo, accountedAfter⟩ :=
      accounted_own_step ranEarlier stepped before accounted
    cases entered.symm.trans enteredToo
    exact accountedAfter
  · intro earlier visited next label ranEarlier stepped different
    have grown :
        (evidence cron stored process earlier).Extends
          (evidence cron stored process (earlier ++ [label]))
          fun _ _ => False := by
      refine evidence_extends ranEarlier stepped ?_ ?_
      · rintro claim ⟨⟨environment, shape⟩, -⟩
        exact different (by rw [shape])
      · refine fun point instanceId => iff_false_intro ?_
        rintro ⟨shape, -⟩
        exact different (by rw [shape])
    obtain ⟨statement, reply, -, executed, -⟩ := step_moves stepped
    exact ⟨fun blank => blank.extend grown, fun accounted =>
      (accounted.exec_other executed (Ne.symm different)).extend grown⟩

end Runs

/-! ## Pieces of example schedules -/

/-- What a tick that is about to commit would answer. -/
def committing? :
    CatalogCall →
      Option (Tick.Arguments × Timestamp × Tick.Summary)
  | .tick (.between arguments nowIso [] summary) =>
      some (arguments, nowIso, summary)
  | _ => none

theorem committing_of_committing?
    {call : CatalogCall}
    {arguments : Tick.Arguments}
    {nowIso : Timestamp}
    {summary : Tick.Summary}
    (shape : committing? call = some (arguments, nowIso, summary)) :
    call = .tick (.between arguments nowIso [] summary) := by
  unfold committing? at shape
  split at shape
  · cases shape
    rfl
  · cases shape

/-- Two instances are stored, which are due at the same time. -/
def storedPair : Stored where
  definitions := ∅
  instances :=
    ((∅ : JobInstances).insert "hourly" hourlyInstance).insert "report"
      hourlyInstance
  runs := ∅

/-- A tick that has claimed both, and is behind its first savepoint. -/
def claimPair : List (Label CatalogInput) :=
  [startCall 1 (.tick ⟨false, 10, false⟩), proceedAt 1 5, proceedAt 1 5,
    proceedAt 1 5]

/-- The first instance is given up at its insert, the second one is fired. -/
def firePairPartly : List (Label CatalogInput) :=
  claimPair ++ [(1, .raise)] ++ List.replicate 5 (proceedAt 1 5)

end CatalogPool

end IgaScheduler
