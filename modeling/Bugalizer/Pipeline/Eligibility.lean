import Bugalizer.Db.Queries
import Bugalizer.Pipeline.FixProposer

/-!
# The retry gate and the reports a fix is due for

`reports_eligible_for_fix` and the functions it decides by. The queue worker samples this
list once a cycle; nothing here is asked again when the sampled report is claimed.
-/

namespace Bugalizer

set_option autoImplicit false

open Store

/-- `_failed_attempts_after`, of rows newest first. -/
def failedAttemptsAfter (rows : List Analysis) (reference : Option Nat) : List Analysis :=
  rows.filter fun row => row.status == .failed && reference.all fun start => start < row.createdAt

/-- `isinstance(result, dict) and result.get("permanent")`. -/
def permanentFailure (row : Analysis) : Bool :=
  ((row.result.getD .null).get "permanent").truthy

/-- `_retry_blocked`, of failed rows newest first. -/
def retryBlocked (failed : List Analysis) (maxRetries retryDelay : Int) (now : Nat) : Bool :=
  match failed with
  | [] => false
  | latest :: _ =>
      failed.any permanentFailure || decide (maxRetries ≤ failed.length) ||
        latest.completedAt.any fun completed =>
          -- A subtraction of `Nat`: the elapsed time is clamped at zero.
          decide (((now - completed : Nat) : Int) < retryDelay * 1000000)

/-- The failed `fix` rows the gate counts for a report whose localization is `reference`. -/
def failedFixes (reportId : String) (reference : Nat) (db : Database) : List Analysis :=
  failedAttemptsAfter (Query.run (.analysesForReport reportId (some .fix)) db) (some reference)

/-- `COALESCE(analysis_mode, 'auto') = 'auto'`. -/
def autoDispatched (mode : Json) : Bool := mode.isNull || mode.isStr "auto"

/-- The freshness gate, for a project whose HEAD is known. -/
def freshAt (project : Project) (localization : Analysis) : Bool :=
  project.headSha.any fun head => head != "" && (localizationSha localization).isStr head

def proposedFor (reportId analysisId : String) (db : Database) : Bool :=
  !(db.stages.proposals.select fun row =>
      row.bugReportId == reportId && row.analysisId == analysisId).isEmpty

/-- The row of the query joined with its project, and the checks of the loop. -/
def fixDue (settings : Settings) (now : Nat) (db : Database) (report : Report) : Bool :=
  report.status == .triaged && autoDispatched report.analysisMode &&
    report.resolutionReason != some "deleted" &&
    (db.projects.get report.projectId).any fun project =>
      (Query.run (.latestCompletedLocalization report.id) db).any fun localization =>
        freshAt project localization && !proposedFor report.id localization.id db &&
          !retryBlocked (failedFixes report.id localization.createdAt db) settings.maxFixRetries
            settings.retryDelaySeconds now

def reportsEligibleForFix (settings : Settings) (now : Nat) (db : Database) : List Report :=
  Py.sortOn Report.createdAt (db.reports.select (fixDue settings now db))

namespace Py

theorem mem_sort_on {Row : Type} {stamp : Row → Nat} {rows : List Row} {row : Row} :
    row ∈ sortOn stamp rows ↔ row ∈ rows :=
  (List.perm_insertionSort _ rows).mem_iff

theorem sort_descending_sorted {Row : Type} (stamp : Row → Nat) (rows : List Row) :
    (sortDescending stamp rows).Pairwise fun first second => stamp second ≤ stamp first := by
  have total : Std.Total fun first second : Row => stamp second ≤ stamp first :=
    ⟨fun first second => Nat.le_total _ _⟩
  have trans : IsTrans Row fun first second => stamp second ≤ stamp first :=
    ⟨fun first second third late early => early.trans late⟩
  exact List.pairwise_insertionSort _ rows

theorem mem_sort_descending {Row : Type} {stamp : Row → Nat} {rows : List Row} {row : Row} :
    row ∈ sortDescending stamp rows ↔ row ∈ rows :=
  (List.perm_insertionSort _ rows).mem_iff

end Py

theorem mem_eligible_for_fix {settings : Settings} {now : Nat} {db : Database} {report : Report} :
    report ∈ reportsEligibleForFix settings now db ↔
      db.reports.get report.id = some report ∧ fixDue settings now db report := by
  rw [reportsEligibleForFix, Py.mem_sort_on]
  exact Table.mem_select

/-- What the gate counts: failed `fix` rows of the report made after the localization. -/
theorem mem_failed_fixes {reportId : String} {reference : Nat} {db : Database} {row : Analysis} :
    row ∈ failedFixes reportId reference db ↔
      db.stages.analyses.get row.id = some row ∧ row.bugReportId = reportId ∧
        row.phase = .fix ∧ row.status = .failed ∧ reference < row.createdAt := by
  rw [failedFixes, failedAttemptsAfter, List.mem_filter, Query.run, Py.mem_sort_descending,
    Table.mem_select]
  simp [and_assoc, eq_comm (a := StagePhase.fix)]

theorem latest_localization_is {reportId : String} {db : Database} {row : Analysis}
    (latest : Query.run (.latestCompletedLocalization reportId) db = some row) :
    db.stages.analyses.get row.id = some row ∧ row.bugReportId = reportId ∧
      row.phase = .localization ∧ row.status = .completed := by
  have member : row ∈ db.stages.analyses.select fun row =>
      row.bugReportId == reportId && row.phase == .localization && row.status == .completed := by
    rw [← Py.mem_sort_descending ]
    exact List.mem_of_head? latest
  rw [Table.mem_select] at member
  simpa [and_assoc] using member

/-- A permanent failure since the localization keeps the gate shut whatever the settings. -/
theorem permanent_failure_blocks {failed : List Analysis} {row : Analysis}
    (counted : row ∈ failed) (permanent : permanentFailure row) (maxRetries retryDelay : Int)
    (now : Nat) : retryBlocked failed maxRetries retryDelay now = true := by
  have shut : failed.any permanentFailure = true := List.any_eq_true.mpr ⟨row, counted, permanent⟩
  cases failed with
  | nil => cases counted
  | cons latest rest =>
      dsimp only [retryBlocked]
      rw [shut]
      rfl

theorem full_budget_blocks {failed : List Analysis} (some_failed : failed ≠ []) {maxRetries : Int}
    (full : maxRetries ≤ failed.length) (retryDelay : Int) (now : Nat) :
    retryBlocked failed maxRetries retryDelay now = true := by
  cases failed with
  | nil => exact absurd rfl some_failed
  | cons latest rest =>
      dsimp only [retryBlocked]
      rw [decide_eq_true full]
      simp

theorem roomy_budget_opens {failed : List Analysis} {maxRetries : Int}
    (transient : ∀ row ∈ failed, permanentFailure row = false)
    (room : (failed.length : Int) < maxRetries) (now : Nat) :
    retryBlocked failed maxRetries 0 now = false := by
  have none_permanent : failed.any permanentFailure = false := by
    rw [List.any_eq_false]
    intro row member
    simp [transient row member]
  cases failed with
  | nil => rfl
  | cons latest rest =>
      dsimp only [retryBlocked]
      rw [none_permanent, decide_eq_false (by omega)]
      have waited : ∀ completed : Nat,
          ¬(((now - completed : Nat) : Int) < (0 : Int) * 1000000) := by
        intro completed
        omega
      cases latest.completedAt with
      | none => rfl
      | some completed =>
          rw [Option.any_some, decide_eq_false (waited completed)]
          rfl

end Bugalizer
