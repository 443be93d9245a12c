import Bugalizer.Store.Retry
import Bugalizer.Db.Rows
import Bugalizer.Ingest.Rows

/-!
# `project_delete`

The tables with their foreign keys: reports, usage and the poll checkpoint refer to a project;
analyses, proposals, usage and pushed results to a report. SQLite checks a key when a statement
ends, and a statement that breaks one changes nothing; what ran before it stays in the open
transaction.
-/

namespace Bugalizer.Deletion

set_option autoImplicit false

open Store Sql Session Coroutine Program

/-- Every table that refers to projects or to their reports. -/
structure Tables where
  db : Database
  ingestStates : Ingest.States

namespace Tables

variable (id : String) (tables : Tables)

def ofProject (report : Report) : Bool := report.projectId == id

def softDeleted (report : Report) : Bool :=
  ofProject id report && report.resolutionReason == some "deleted"

def namesReport (reportId : String) : Bool :=
  tables.db.stages.analyses.rows.any (fun row => row.bugReportId == reportId) ||
    tables.db.stages.proposals.rows.any (fun row => row.bugReportId == reportId) ||
      tables.db.stages.usage.any (fun row => row.bugReportId == reportId) ||
        tables.db.outbox.results.rows.any fun row => row.reportId == reportId

/-- A row that does not go with the project names it; the checkpoint goes by `ON DELETE CASCADE`. -/
def namesProject : Bool :=
  tables.db.reports.rows.any (ofProject id) ||
    tables.db.stages.usage.any fun row => row.projectId == id

def projectExists : Bool := (tables.db.projects.get id).isSome

/-- `project_has_active_reports`. -/
def hasActiveReports : Bool :=
  tables.db.reports.rows.any fun row => ofProject id row && row.resolutionReason != some "deleted"

def deleteResults : Tables :=
  { tables with
    db := { tables.db with
      outbox := { tables.db.outbox with
        results := tables.db.outbox.results.deleteAll fun row => row.projectId == id } } }

def deleteReports : Tables :=
  { tables with
    db := { tables.db with reports := tables.db.reports.deleteAll (softDeleted id) } }

def deleteIngestState : Tables :=
  { tables with ingestStates := tables.ingestStates.deleteAll fun row => row.projectId == id }

def deleteActions : Tables :=
  { tables with
    db := { tables.db with ledger := tables.db.ledger.deleteAll fun row => row.projectId == id } }

def deleteSyncState : Tables :=
  { tables with
    db := { tables.db with
      outbox := { tables.db.outbox with
        syncStates := tables.db.outbox.syncStates.deleteAll fun row => row.projectId == id } } }

def deleteProject : Tables :=
  { tables with
    db := { tables.db with projects := tables.db.projects.deleteAll fun row => row.id == id }
    ingestStates := tables.ingestStates.deleteAll fun row => row.projectId == id }

end Tables

open Tables

/-- A `DELETE` no foreign key is against. -/
def deletes (change : Tables → Tables) : Statement Tables := fun tables => some (0, change tables)

/-- A `DELETE` that is refused while other rows name what it would delete. -/
def deletesUnless (named : Tables → Bool) (change : Tables → Tables) : Statement Tables :=
  fun tables => if named tables then none else some (0, change tables)

def reportsNamed (id : String) (tables : Tables) : Bool :=
  tables.db.reports.rows.any fun row => softDeleted id row && tables.namesReport row.id

inductive Outcome where
  | deleted
  /-- `False`. -/
  | notFound
  | hasReports
deriving DecidableEq, Repr

def projectDelete (id : String) : Sql Tables Outcome := do
  let tables ← select
  if !tables.projectExists id then return .notFound
  else
    let tables ← select
    if tables.hasActiveReports id then return .hasReports
    else
      let _ ← execute (deletes (deleteResults id))
      let _ ← execute (deletesUnless (reportsNamed id) (deleteReports id))
      let _ ← execute (deletes (deleteIngestState id))
      let _ ← execute (deletes (deleteActions id))
      let _ ← execute (deletes (deleteSyncState id))
      let _ ← execute (deletesUnless (namesProject id) (deleteProject id))
      commit
      return .deleted

/-- A run of it on a connection with nothing open. -/
def run (id : String) (tables : Tables) : Except SqlError Outcome × Connection Tables :=
  attempt (fun _ => false) (projectDelete id) ⟨tables, none⟩

def belongs (id : String) (tables : Tables) (reportId : String) : Bool :=
  (tables.db.reports.get reportId).any (ofProject id)

/-- The tables without the project and without every row that refers to it, itself or by one of
its reports. -/
def without (id : String) (tables : Tables) : Tables where
  db :=
    { reports := tables.db.reports.deleteAll (ofProject id)
      stages :=
        { analyses := tables.db.stages.analyses.deleteAll fun row => belongs id tables row.bugReportId
          proposals := tables.db.stages.proposals.deleteAll fun row => belongs id tables row.bugReportId
          usage := tables.db.stages.usage.filter fun row =>
            !(row.projectId == id || belongs id tables row.bugReportId) }
      ledger := tables.db.ledger.deleteAll fun row => row.projectId == id
      projects := tables.db.projects.deleteAll fun row => row.id == id
      outbox :=
        { results := tables.db.outbox.results.deleteAll fun row =>
            row.projectId == id || belongs id tables row.reportId
          syncStates := tables.db.outbox.syncStates.deleteAll fun row => row.projectId == id } }
  ingestStates := tables.ingestStates.deleteAll fun row => row.projectId == id

/-- A project that is there and has no active report is removed with all that refers to it; any
other is left alone. Neither raises, and neither leaves a transaction open. -/
def Deletes (id : String) (tables : Tables) : Prop :=
  run id tables =
    if tables.projectExists id then
      if tables.hasActiveReports id then (.ok .hasReports, ⟨tables, none⟩)
      else (.ok .deleted, ⟨without id tables, none⟩)
    else (.ok .notFound, ⟨tables, none⟩)

/-- No row that `project_delete` leaves in place refers to the project or to a report of it. -/
def unreferenced (id : String) (tables : Tables) : Bool :=
  !tables.db.stages.analyses.rows.any (fun row => belongs id tables row.bugReportId) &&
    !tables.db.stages.proposals.rows.any (fun row => belongs id tables row.bugReportId) &&
      !tables.db.stages.usage.any (fun row => row.projectId == id || belongs id tables row.bugReportId) &&
        !tables.db.outbox.results.rows.any fun row =>
          row.projectId != id && belongs id tables row.reportId

/-- The tables once the reports are deleted and all else but the project. -/
def stripped (id : String) (tables : Tables) : Tables :=
  (((tables.deleteResults id).deleteReports id).deleteIngestState id |>.deleteActions id).deleteSyncState id

theorem run_eq (id : String) (tables : Tables) :
    run id tables =
      if tables.projectExists id then
        if tables.hasActiveReports id then (.ok .hasReports, ⟨tables, none⟩)
        else if reportsNamed id (tables.deleteResults id) then
          (.error .refused, ⟨tables, some (tables.deleteResults id)⟩)
        else if namesProject id (stripped id tables) then
          (.error .refused, ⟨tables, some (stripped id tables)⟩)
        else (.ok .deleted, ⟨(stripped id tables).deleteProject id, none⟩)
      else (.ok .notFound, ⟨tables, none⟩) := by
  simp only [run, attempt, projectDelete, bind_eq, play_bind, play_select, Bool.false_eq_true, if_false,
    Connection.view_closed]
  cases tables.projectExists id with
  | false => rfl
  | true =>
      simp only [Bool.not_true, Bool.false_eq_true, if_false, if_true, play_bind, play_select,
        Connection.view_closed]
      cases tables.hasActiveReports id with
      | true => rfl
      | false =>
          simp only [Bool.false_eq_true, if_false, play_bind, play_execute, deletes, deletesUnless,
            Connection.view_closed, Connection.view_pending]
          by_cases named : reportsNamed id (tables.deleteResults id) = true
          · simp [named, Connection.opened, Connection.view]
          · simp only [named, Bool.false_eq_true, if_false, Connection.view_pending]
            by_cases left : namesProject id (stripped id tables) = true
            · simp only [stripped] at left
              simp [left, stripped, Connection.opened, Connection.view]
            · simp only [stripped] at left
              simp [left, stripped, play_commit]

section

variable {id : String} {tables : Tables} (idle : tables.hasActiveReports id = false)

include idle

theorem soft_deleted_eq {row : Report} (member : row ∈ tables.db.reports.rows) :
    softDeleted id row = ofProject id row := by
  have inactive := List.any_eq_false.mp idle row member
  simp only [softDeleted, ofProject] at inactive ⊢
  by_cases own : row.projectId = id
  · simpa [own] using inactive
  · simp [own]

theorem belongs_iff {reportId : String} :
    belongs id tables reportId = true ↔
      ∃ row ∈ tables.db.reports.rows, softDeleted id row = true ∧ row.id = reportId := by
  constructor
  · intro found
    simp only [belongs, Option.any_eq_true] at found
    obtain ⟨row, present, own⟩ := found
    have member := Table.get_mem present
    exact ⟨row, member, by rwa [soft_deleted_eq idle member], Table.get_key present⟩
  · rintro ⟨row, member, own, rfl⟩
    rw [soft_deleted_eq idle member] at own
    simp only [belongs, Table.mem_get member, Option.any_some]
    exact own

theorem reports_kept_foreign {row : Report} (member : row ∈ (tables.deleteReports id).db.reports.rows) :
    ofProject id row = false := by
  simp only [Tables.deleteReports, Table.deleteAll, List.mem_filter] at member
  rw [soft_deleted_eq idle member.1] at member
  simpa using member.2

theorem reports_named_iff :
    reportsNamed id (tables.deleteResults id) = true ↔
      (∃ row ∈ tables.db.stages.analyses.rows, belongs id tables row.bugReportId = true) ∨
        (∃ row ∈ tables.db.stages.proposals.rows, belongs id tables row.bugReportId = true) ∨
          (∃ row ∈ tables.db.stages.usage, belongs id tables row.bugReportId = true) ∨
            ∃ row ∈ tables.db.outbox.results.rows,
              row.projectId ≠ id ∧ belongs id tables row.reportId = true := by
  have unfolded : reportsNamed id (tables.deleteResults id) = true ↔
      ∃ report ∈ tables.db.reports.rows, softDeleted id report = true ∧
        ((∃ row ∈ tables.db.stages.analyses.rows, row.bugReportId = report.id) ∨
          (∃ row ∈ tables.db.stages.proposals.rows, row.bugReportId = report.id) ∨
            (∃ row ∈ tables.db.stages.usage, row.bugReportId = report.id) ∨
              ∃ row ∈ tables.db.outbox.results.rows, row.projectId ≠ id ∧ row.reportId = report.id) := by
    simp [reportsNamed, namesReport, Tables.deleteResults, Table.deleteAll, or_assoc]
  rw [unfolded]
  simp only [belongs_iff idle]
  constructor
  · rintro ⟨report, member, own, ⟨row, here, same⟩ | ⟨row, here, same⟩ | ⟨row, here, same⟩ |
      ⟨row, here, foreign, same⟩⟩
    · exact .inl ⟨row, here, report, member, own, same.symm⟩
    · exact .inr (.inl ⟨row, here, report, member, own, same.symm⟩)
    · exact .inr (.inr (.inl ⟨row, here, report, member, own, same.symm⟩))
    · exact .inr (.inr (.inr ⟨row, here, foreign, report, member, own, same.symm⟩))
  · rintro (⟨row, here, report, member, own, same⟩ | ⟨row, here, report, member, own, same⟩ |
      ⟨row, here, report, member, own, same⟩ | ⟨row, here, foreign, report, member, own, same⟩)
    · exact ⟨report, member, own, .inl ⟨row, here, same.symm⟩⟩
    · exact ⟨report, member, own, .inr (.inl ⟨row, here, same.symm⟩)⟩
    · exact ⟨report, member, own, .inr (.inr (.inl ⟨row, here, same.symm⟩))⟩
    · exact ⟨report, member, own, .inr (.inr (.inr ⟨row, here, foreign, same.symm⟩))⟩

theorem names_project_iff :
    namesProject id (stripped id tables) = true ↔
      ∃ row ∈ tables.db.stages.usage, row.projectId = id := by
  have gone : ((stripped id tables).db.reports.rows.any (ofProject id)) = false := by
    rw [List.any_eq_false]
    intro row member
    have kept : row ∈ (tables.deleteReports id).db.reports.rows := member
    simp [reports_kept_foreign idle kept]
  simp only [namesProject, gone, Bool.false_or, List.any_eq_true, beq_iff_eq]
  rfl

/-- Nothing stands in the way exactly where nothing that stays refers to the project. -/
theorem unreferenced_iff :
    unreferenced id tables = true ↔
      reportsNamed id (tables.deleteResults id) = false ∧ namesProject id (stripped id tables) = false := by
  rw [← Bool.not_eq_true (reportsNamed _ _), ← Bool.not_eq_true (namesProject _ _),
    reports_named_iff idle, names_project_iff idle]
  simp only [unreferenced, Bool.and_eq_true, Bool.not_eq_true', List.any_eq_false, Bool.or_eq_true,
    beq_iff_eq, bne_iff_ne, not_or, not_exists, not_and]
  constructor
  · rintro ⟨⟨⟨analyses, proposals⟩, usage⟩, results⟩
    exact ⟨⟨analyses, proposals, fun row here => (usage row here).2, results⟩,
      fun row here => (usage row here).1⟩
  · rintro ⟨⟨analyses, proposals, usage, results⟩, named⟩
    exact ⟨⟨⟨analyses, proposals⟩, fun row here => ⟨named row here, usage row here⟩⟩, results⟩

theorem stripped_without (clear : unreferenced id tables = true) :
    (stripped id tables).deleteProject id = without id tables := by
  simp only [unreferenced, Bool.and_eq_true, Bool.not_eq_true', List.any_eq_false, Bool.or_eq_true,
    beq_iff_eq, bne_iff_ne, not_or, not_and, Bool.not_eq_true] at clear
  obtain ⟨⟨⟨analyses, proposals⟩, usage⟩, results⟩ := clear
  have own : tables.db.reports.deleteAll (softDeleted id) = tables.db.reports.deleteAll (ofProject id) :=
    Table.delete_all_congr fun row member => soft_deleted_eq idle member
  have kept_usage : (tables.db.stages.usage.filter fun row =>
      !(row.projectId == id || belongs id tables row.bugReportId)) = tables.db.stages.usage := by
    rw [List.filter_eq_self]
    intro row member
    simp [usage row member]
  have pushed : (tables.db.outbox.results.deleteAll fun row => row.projectId == id) =
      tables.db.outbox.results.deleteAll fun row =>
        row.projectId == id || belongs id tables row.reportId := by
    apply Table.delete_all_congr
    intro row member
    by_cases foreign : row.projectId = id
    · simp [foreign]
    · simp [results row member foreign]
  simp only [without, stripped, Tables.deleteProject, Tables.deleteSyncState, Tables.deleteActions,
    Tables.deleteIngestState, Tables.deleteReports, Tables.deleteResults, own, pushed, kept_usage,
    Table.delete_all_unhit analyses, Table.delete_all_unhit proposals, Table.delete_all_twice]

end

/-- `project_delete` does what it is for exactly when the project is missing, or has an active
report, or no row is left that refers to it or to one of its soft-deleted reports. -/
theorem deletes_iff (id : String) (tables : Tables) :
    Deletes id tables ↔
      tables.projectExists id = false ∨ tables.hasActiveReports id = true ∨
        unreferenced id tables = true := by
  rw [Deletes, run_eq]
  cases present : tables.projectExists id with
  | false => simp
  | true =>
      cases idle : tables.hasActiveReports id with
      | true => simp
      | false =>
          simp only [Bool.false_eq_true, if_true, if_false, Bool.true_eq_false, false_or]
          rw [unreferenced_iff idle]
          cases named : reportsNamed id (tables.deleteResults id) with
          | true => simp
          | false =>
              cases left : namesProject id (stripped id tables) with
              | true => simp
              | false =>
                  have clear := (unreferenced_iff idle).mpr ⟨named, left⟩
                  simp [stripped_without idle clear]

def project : Project where
  id := "p"
  repoUrl := "url"
  repoPath := none
  headSha := none
  defaultBranch := none
  llmProvider := none
  llmModel := none
  fixLlmProvider := none
  fixLlmModel := none
  ingestSource := none
  ingestConfig := .null
  createdAt := 1
  updatedAt := 1

def discarded : Report where
  id := "r"
  projectId := "p"
  title := "title"
  description := "description"
  featureArea := .null
  severity := .str "medium"
  status := .rejected
  analysisMode := .str "auto"
  claimToken := none
  resolutionReason := some "deleted"
  externalId := some "e"
  createdAt := 2
  updatedAt := 3

def analysed : Analysis where
  id := "a"
  bugReportId := "r"
  phase := .triage
  status := .completed
  result := none
  llmProvider := none
  llmModel := none
  promptTokens := 0
  completionTokens := 0
  startedAt := none
  completedAt := some 2
  triggerRef := none
  createdAt := 2

def pushed : TriageResult where
  reportId := "r"
  projectId := "p"
  fingerprint := "f"
  revision := 1
  payload := ⟨1, .null⟩
  ackedFingerprint := some "f"
  failedFingerprint := none
  lastStatus := some 200
  lastError := none
  pushedAt := some 3

/-- A project whose one report was triaged, pushed and then soft-deleted. -/
def triaged : Tables where
  db :=
    { reports := ⟨[discarded], List.nodup_singleton _⟩
      stages := ⟨⟨[analysed], List.nodup_singleton _⟩, .empty, []⟩
      ledger := .empty
      projects := ⟨[project], List.nodup_singleton _⟩
      outbox := ⟨⟨[pushed], List.nodup_singleton _⟩, .empty⟩ }
  ingestStates := .empty

/-- The deletion raises its constraint error with the pushed result deleted in a transaction that
stays open; the next commit of the connection makes that permanent, and the project stands. -/
theorem analysed_report_blocks_deletion :
    ¬Deletes "p" triaged ∧ (run "p" triaged).1 = .error .refused ∧
      (run "p" triaged).2.pending.isSome = true ∧
      (attempt (fun _ => false) commit (run "p" triaged).2).2.committed.db.outbox.results.rows.length = 0 ∧
      (attempt (fun _ => false) commit (run "p" triaged).2).2.committed.projectExists "p" = true := by
  have raised : (run "p" triaged).1 = .error .refused := by rfl
  refine ⟨?_, raised, by rfl, by rfl, by rfl⟩
  intro deletes
  have answered : (run "p" triaged).1 = .ok .deleted := congrArg Prod.fst deletes
  rw [raised] at answered
  cases answered

end Bugalizer.Deletion
