import Bugalizer.Ingest.Sonicgrid
import Bugalizer.Store.Indexed

/-!
# The rows of the ingest, and the statements on them

A project carries the generation that every poll step is fenced by; its checkpoint is a row of
`ingest_state`. Imported reports fill the slot of their project and external id.
-/

namespace Bugalizer.Ingest

set_option autoImplicit false

open Store

structure IngestConfig where
  url : String
  table : String
  credentialEnv : String
  triageCredentialEnv : Option String
deriving DecidableEq, Repr

structure ProjectRow where
  id : String
  ingestSource : Option String
  ingestConfig : Option IngestConfig
  ingestGeneration : Nat

structure StateRow where
  projectId : String
  generation : Nat
  cursor : Option String := none
  rewalkCursor : Option String := none
  rewalkStartedAt : Option Nat := none
  lastFullWalkAt : Option Nat
  lastPollAt : Option Nat := none
  lastOkAt : Option Nat := none
  lastError : Option String := none
  consecutiveFailures : Nat := 0
  importedTotal : Nat := 0

/-- `deleted` says that the resolution reason is `deleted`. -/
structure ReportRow where
  id : String
  projectId : String
  externalId : Option String
  deleted : Bool
  imported : Option ImportRow

/-- The slot of `idx_bug_reports_external`. -/
def ReportRow.bug (row : ReportRow) : Option (String × String) :=
  row.externalId.map fun externalId => (row.projectId, externalId)

abbrev Projects := Table ProjectRow String ProjectRow.id

abbrev States := Table StateRow String StateRow.projectId

abbrev Reports := Indexed ReportRow String ReportRow.id ReportRow.bug

structure Database where
  projects : Projects
  states : States
  reports : Reports

def Database.empty : Database := ⟨.empty, .empty, .empty⟩

/-- `_poll_identity`: the triage credential configures the sync, not the poll. -/
def pollIdentity (config : IngestConfig) : IngestConfig := { config with triageCredentialEnv := none }

def ProjectRow.polled (row : ProjectRow) : Option String × Option IngestConfig :=
  (row.ingestSource, row.ingestConfig.map pollIdentity)

structure IngestFields where
  ingestSource : Option (Option String) := none
  ingestConfig : Option (Option IngestConfig) := none
deriving DecidableEq, Repr

def IngestFields.write (fields : IngestFields) (row : ProjectRow) : ProjectRow :=
  { row with
    ingestSource := fields.ingestSource.getD row.ingestSource
    ingestConfig := fields.ingestConfig.getD row.ingestConfig }

def ingestChanged (fields : IngestFields) (row : ProjectRow) : Bool :=
  (fields.ingestSource.isSome || fields.ingestConfig.isSome) &&
    decide ((fields.write row).polled ≠ row.polled)

/-- The row after the update; the generation moves with the source. -/
def IngestFields.apply (fields : IngestFields) (changed : Bool) (row : ProjectRow) : ProjectRow :=
  { fields.write row with
    ingestGeneration := if changed then row.ingestGeneration + 1 else row.ingestGeneration }

theorem apply_id (fields : IngestFields) (changed : Bool) (row : ProjectRow) :
    (fields.apply changed row).id = row.id := rfl

/-- The transaction of `project_update`, decided on the row it has read. -/
def projectUpdate (id : String) (existing : ProjectRow) (fields : IngestFields) (db : Database) :
    Database :=
  let changed := ingestChanged fields existing
  { db with
    projects := db.projects.update id (fun _ => true) (fields.apply changed)
      (apply_id fields changed)
    states := if changed then db.states.delete id fun _ => true else db.states }

def hasActiveReports (id : String) (db : Database) : Bool :=
  db.reports.rows.any fun row => row.projectId == id && !row.deleted

def purgeReports (id : String) (db : Database) : Database :=
  { db with reports := db.reports.deleteAll fun row => row.projectId == id && row.deleted }

def dropState (id : String) (db : Database) : Database :=
  { db with states := db.states.delete id fun _ => true }

/-- The deletions of `project_delete`; `none` where a report still refers to the project. -/
def projectDelete (id : String) (db : Database) : Option Database :=
  let cleared := dropState id (purgeReports id db)
  if cleared.reports.rows.any fun row => row.projectId == id then none
  else some { cleared with projects := cleared.projects.delete id fun _ => true }

def ReportRow.mark (row : ReportRow) : ReportRow := { row with deleted := true }

theorem mark_id (row : ReportRow) : row.mark.id = row.id := rfl

theorem mark_bug (row : ReportRow) : row.mark.bug = row.bug := rfl

/-- A report is marked deleted; its row stays. -/
def markDeleted (id : String) (reports : Reports) : Reports :=
  reports.updateAll (fun row => row.id == id) ReportRow.mark mark_id mark_bug

/-- What a failed `project_delete` may leave to a later commit of its connection: the deletions
it came to, and nothing of the one that failed. -/
inductive Leftover where
  | nothing
  | reports
  | reportsAndState

def Leftover.apply (leftover : Leftover) (id : String) (db : Database) : Database :=
  match leftover with
  | nothing => db
  | reports => purgeReports id db
  | reportsAndState => dropState id (purgeReports id db)

structure StateUpdates where
  cursor : Option (Option String) := none
  rewalkCursor : Option (Option String) := none
  rewalkStartedAt : Option (Option Nat) := none
  lastFullWalkAt : Option Nat := none
  lastPollAt : Option Nat := none
  lastOkAt : Option Nat := none
  lastError : Option (Option String) := none
  consecutiveFailures : Option Nat := none

def StateUpdates.write (updates : StateUpdates) (inserted failures : Nat) (row : StateRow) : StateRow :=
  { row with
    cursor := updates.cursor.getD row.cursor
    rewalkCursor := updates.rewalkCursor.getD row.rewalkCursor
    rewalkStartedAt := updates.rewalkStartedAt.getD row.rewalkStartedAt
    lastFullWalkAt := updates.lastFullWalkAt.orElse fun _ => row.lastFullWalkAt
    lastPollAt := updates.lastPollAt.orElse fun _ => row.lastPollAt
    lastOkAt := updates.lastOkAt.orElse fun _ => row.lastOkAt
    lastError := updates.lastError.getD row.lastError
    consecutiveFailures := updates.consecutiveFailures.getD row.consecutiveFailures + failures
    importedTotal := row.importedTotal + inserted }

theorem write_project (updates : StateUpdates) (inserted failures : Nat) (row : StateRow) :
    (updates.write inserted failures row).projectId = row.projectId := rfl

structure PollStep where
  reports : List ImportRow := []
  updates : StateUpdates := {}
  countFailure : Bool := false

/-- The reports of a step, one after the other; one that is there already is skipped. The ids
are drawn by `fresh`, and a taken one is a constraint error. -/
def importRows (projectId : String) (fresh : Nat → String) :
    List ImportRow → Nat → Reports → Option (Nat × Reports)
  | [], _, reports => some (0, reports)
  | row :: rows, index, reports =>
      if reports.holds (projectId, row.externalId) then
        importRows projectId fresh rows (index + 1) reports
      else
        (reports.insert
          { id := fresh index, projectId, externalId := some row.externalId, deleted := false
            imported := some row }).bind fun next =>
          (importRows projectId fresh rows (index + 1) next).map fun (count, last) => (count + 1, last)

/-- The checkpoint a step finds or makes: a new one counts its creation as the last full walk. -/
def checkpoint (projectId : String) (generation now : Nat) (states : States) : States :=
  let kept := states.delete projectId fun row => row.generation != generation
  (kept.insert { projectId, generation, lastFullWalkAt := some now }).getD kept

/-- The fence: the project is there, has a source, and stands at this generation. -/
def fenced (projectId : String) (generation : Nat) (db : Database) : Bool :=
  !(db.projects.get projectId).any fun row =>
    row.ingestSource.isSome && row.ingestGeneration == generation

/-- `none` where a constraint fails; else what it returns, which is `none` behind the fence. -/
def ingestCommit (projectId : String) (generation : Nat) (step : PollStep) (now : Nat)
    (fresh : Nat → String) (db : Database) : Option (Option Nat × Database) :=
  if fenced projectId generation db then some (none, db)
  else
    (importRows projectId fresh step.reports 0 db.reports).map fun (inserted, reports) =>
      (some inserted,
        { db with
          reports
          states := (checkpoint projectId generation now db.states).update projectId (fun _ => true)
            (step.updates.write inserted (if step.countFailure then 1 else 0))
            (write_project step.updates inserted (if step.countFailure then 1 else 0)) })

end Bugalizer.Ingest
