import Bugalizer.Pipeline.Freshness
import Bugalizer.RetryCap
import Mathlib.Data.List.MinMax

/-!
# The failure a report shows and the failures its gates count

`report_failure_info` says that it mirrors the retry gate. It takes each phase's own last success as
the reference; the gate of the triage stops counting at any success, and the gate of the fix counts
from the newest localization.
-/

namespace Bugalizer

set_option autoImplicit false

open Store

def isCompleted (row : Analysis) : Bool := row.status == .completed

def isFailed (row : Analysis) : Bool := row.status == .failed

/-- `analyses_for_report` of one phase, newest first. -/
def phaseRows (reportId : String) (phase : StagePhase) (db : Database) : List Analysis :=
  Query.run (.analysesForReport reportId (some phase)) db

def triageAttemptDue (settings : Settings) (now : Nat) (rows : List Analysis) : Bool :=
  match rows with
  | [] => true
  | latest :: _ =>
      !rows.any isCompleted && decide (((rows.filter isFailed).length : Int) < settings.maxTriageRetries) &&
        !(isFailed latest && latest.completedAt.any fun completed =>
          decide (((now - completed : Nat) : Int) < settings.retryDelaySeconds * 1000000))

def triageDue (settings : Settings) (now : Nat) (db : Database) (report : Report) : Bool :=
  report.status == .triaged && !report.analysisMode.isStr "hold" &&
    report.resolutionReason != some "deleted" &&
    triageAttemptDue settings now (phaseRows report.id .triage db)

def triageEligibleReports (settings : Settings) (now : Nat) (db : Database) : List Report :=
  Py.sortOn Report.createdAt (db.reports.select (triageDue settings now db))

def retryablePhases : List StagePhase := [.triage, .localization, .fix]

def unresolved (reportId : String) (phase : StagePhase) (db : Database) : List Analysis :=
  failedAttemptsAfter (phaseRows reportId phase db) (latestCompletedCreatedAt (phaseRows reportId phase db))

def laterFailure (latest : Option Analysis) (candidate : Analysis) : Option Analysis :=
  match latest with
  | none => some candidate
  | some row => if row.createdAt < candidate.createdAt then some candidate else some row

def latestFailure (reportId : String) (db : Database) : Option Analysis :=
  retryablePhases.foldl
    (fun latest phase =>
      match (unresolved reportId phase db).head? with
      | none => latest
      | some candidate => laterFailure latest candidate)
    none

structure FailureInfo where
  failedStage : StagePhase
  lastError : Json
  permanent : Bool

def reportFailureInfo (reportId : String) (db : Database) : Option FailureInfo :=
  (latestFailure reportId db).map fun row =>
    { failedStage := row.phase, lastError := (row.result.getD .null).get "error", permanent := permanentFailure row }

/-- The failed rows that the eligibility query of a phase holds against its retry cap. -/
def counted (reportId : String) (phase : StagePhase) (db : Database) : List Analysis :=
  match phase with
  | .validation => []
  | .triage =>
      if (phaseRows reportId .triage db).any isCompleted then [] else (phaseRows reportId .triage db).filter isFailed
  | .localization =>
      failedAttemptsAfter (phaseRows reportId .localization db)
        (latestCompletedCreatedAt (phaseRows reportId .localization db))
  | .fix =>
      match Query.run (.latestCompletedLocalization reportId) db with
      | none => []
      | some localization => failedFixes reportId localization.createdAt db

/-- A report that an eligibility query lists has not spent its retries on the rows counted. -/
structure Gated (settings : Settings) (now : Nat) (db : Database) (report : Report) : Prop where
  triage : report ∈ triageEligibleReports settings now db → phaseRows report.id .triage db ≠ [] →
    ((counted report.id .triage db).length : Int) < settings.maxTriageRetries
  localization : ∀ listed, localizationEligibleReports settings now db = .ok listed → report ∈ listed →
    retryBlocked (counted report.id .localization db) settings.maxLocalizeRetries settings.retryDelaySeconds now =
      false
  fix : report ∈ reportsEligibleForFix settings now db →
    retryBlocked (counted report.id .fix db) settings.maxFixRetries settings.retryDelaySeconds now = false

section Gates

variable {settings : Settings} {now : Nat} {db : Database} {report : Report}

theorem triage_gate_counts (listed : report ∈ triageEligibleReports settings now db)
    (tried : phaseRows report.id .triage db ≠ []) :
    ((counted report.id .triage db).length : Int) < settings.maxTriageRetries := by
  have due := (Table.mem_select.mp (Py.mem_sort_on.mp listed)).2
  have attempt : triageAttemptDue settings now (phaseRows report.id .triage db) = true :=
    (Bool.and_eq_true_iff.mp due).2
  unfold counted
  dsimp only
  generalize phaseRows report.id .triage db = rows at attempt tried
  cases rows with
  | nil => exact absurd rfl tried
  | cons latest rest =>
      simp only [triageAttemptDue, Bool.and_eq_true, Bool.not_eq_true', decide_eq_true_eq] at attempt
      rw [if_neg (by rw [attempt.1.1]; exact Bool.false_ne_true)]
      exact attempt.1.2

theorem filter_m_passed {Row : Type} {check : Row → Except Exn Bool} {rows kept : List Row}
    (ran : rows.filterM check = .ok kept) {row : Row} (member : row ∈ kept) : check row = .ok true := by
  have onto : ∀ earlier, (∀ row ∈ earlier, check row = .ok true) → ∀ later,
      rows.filterAuxM check earlier = .ok later → ∀ row ∈ later, check row = .ok true := by
    clear ran
    induction rows with
    | nil =>
        intro earlier passed later ran
        cases ran
        exact passed
    | cons first rest ih =>
        intro earlier passed later ran
        rw [List.filterAuxM] at ran
        cases checked : check first with
        | error error =>
            rw [checked] at ran
            cases ran
        | ok wanted =>
            rw [checked] at ran
            cases wanted with
            | false => exact ih earlier passed later ran
            | true => exact ih (first :: earlier) (List.forall_mem_cons.mpr ⟨checked, passed⟩) later ran
  rw [List.filterM] at ran
  cases walked : rows.filterAuxM check [] with
  | error error =>
      rw [walked] at ran
      cases ran
  | ok later =>
      rw [walked] at ran
      cases ran
      exact onto [] (fun _ none => (nomatch none)) later walked row (List.mem_reverse.mp member)

theorem localization_gate_counts {listed : List Report}
    (ran : localizationEligibleReports settings now db = .ok listed) (member : report ∈ listed) :
    retryBlocked (counted report.id .localization db) settings.maxLocalizeRetries settings.retryDelaySeconds now =
      false := by
  have due := filter_m_passed ran member
  unfold localizationDue at due
  cases found : db.projects.get report.projectId with
  | none =>
      rw [found] at due
      cases due
  | some project =>
      rw [found] at due
      dsimp only at due
      split at due
      · rename_i localizes
        simp only [localizable, Bool.and_eq_true, Bool.not_eq_true'] at localizes
        exact localizes.2
      · cases due

theorem fix_gate_counts (listed : report ∈ reportsEligibleForFix settings now db) :
    retryBlocked (counted report.id .fix db) settings.maxFixRetries settings.retryDelaySeconds now = false := by
  have due := (Table.mem_select.mp (Py.mem_sort_on.mp listed)).2
  simp only [fixDue, Bool.and_eq_true, Option.any_eq_true, Bool.not_eq_true'] at due
  obtain ⟨_, project, _, localization, newest, _, unblocked⟩ := due
  unfold counted
  rw [newest]
  exact unblocked

end Gates

section Listing

/-- The first row of a sorted list that a test keeps, where a newer row passes whenever an older one does. -/
theorem head_filter_newest {Row : Type} (stamp : Row → Nat) {wanted : Row → Bool} {rows : List Row}
    (sorted : rows.Pairwise fun first second => stamp second ≤ stamp first)
    (newer : ∀ first second, stamp second ≤ stamp first → wanted second = true → wanted first = true) :
    (rows.filter wanted).head? = rows.head?.filter wanted := by
  cases rows with
  | nil => rfl
  | cons first rest =>
      by_cases kept : wanted first = true
      · rw [List.filter_cons_of_pos kept, List.head?_cons, List.head?_cons, Option.filter_some_pos kept]
      · have none_kept : rest.filter wanted = [] := by
          apply List.filter_eq_nil_iff.mpr
          intro row member passes
          exact kept (newer first row ((List.pairwise_cons.mp sorted).1 row member) passes)
        rw [List.filter_cons_of_neg kept, none_kept, List.head?_cons, Option.filter_some_neg (Bool.not_eq_true _ ▸ kept)]
        rfl

variable {rows : List Analysis}

theorem newest_completed_before (sorted : rows.Pairwise fun first second => second.createdAt ≤ first.createdAt)
    (time : Nat) :
    (latestCompletedCreatedAt rows).all (fun start => decide (start < time)) = true ↔
      ∀ row ∈ rows, row.status = .completed → row.createdAt < time := by
  induction rows with
  | nil => simp [latestCompletedCreatedAt]
  | cons first rest ih =>
      obtain ⟨older, sorted'⟩ := List.pairwise_cons.mp sorted
      by_cases completed : first.status = .completed
      · have found : latestCompletedCreatedAt (first :: rest) = some first.createdAt := by
          simp [latestCompletedCreatedAt, completed]
        rw [found, Option.all_some, decide_eq_true_eq]
        constructor
        · intro early row member _
          rcases List.mem_cons.mp member with rfl | later
          · exact early
          · exact lt_of_le_of_lt (older row later) early
        · intro all_early
          exact all_early first List.mem_cons_self completed
      · have skipped : latestCompletedCreatedAt (first :: rest) = latestCompletedCreatedAt rest := by
          simp [latestCompletedCreatedAt, completed]
        rw [skipped, ih sorted']
        constructor
        · intro all_early row member finished
          rcases List.mem_cons.mp member with rfl | later
          · exact absurd finished completed
          · exact all_early row later finished
        · intro all_early row member finished
          exact all_early row (List.mem_cons_of_mem first member) finished

theorem failed_after_head (sorted : rows.Pairwise fun first second => second.createdAt ≤ first.createdAt)
    (reference : Option Nat) :
    (failedAttemptsAfter rows reference).head? =
      (rows.filter isFailed).head?.filter fun row => reference.all fun start => start < row.createdAt := by
  have split : failedAttemptsAfter rows reference =
      (rows.filter isFailed).filter fun row => reference.all fun start => start < row.createdAt := by
    rw [List.filter_filter]
    apply List.filter_congr
    intro row _
    rw [Bool.and_comm]
    rfl
  rw [split]
  apply head_filter_newest Analysis.createdAt
  · exact sorted.filter _
  · intro first second older after
    cases reference with
    | none => rfl
    | some start =>
        simp only [Option.all_some, decide_eq_true_eq] at after ⊢
        omega

end Listing

section Report

variable (reportId : String) (db : Database)

def succeeded (phase : StagePhase) : List Analysis :=
  db.stages.analyses.select fun row => row.bugReportId == reportId && row.phase == phase && row.status == .completed

def failures (phase : StagePhase) : List Analysis :=
  db.stages.analyses.select fun row => row.bugReportId == reportId && row.phase == phase && row.status == .failed

def Newer (phase : StagePhase) (row : Analysis) : Prop :=
  ∀ completed ∈ succeeded reportId db phase, completed.createdAt < row.createdAt

/-- Of the failed rows of the phase, listed newest first, the row comes first. -/
def FailedLast (phase : StagePhase) (row : Analysis) : Prop :=
  row.status = .failed ∧ ∃ newer older, phaseRows reportId phase db = newer ++ row :: older ∧
    ∀ other ∈ newer, other.status ≠ .failed

variable {reportId db} {phase : StagePhase} {row : Analysis}

theorem mem_phase_rows :
    row ∈ phaseRows reportId phase db ↔
      db.stages.analyses.get row.id = some row ∧ row.bugReportId = reportId ∧ row.phase = phase := by
  rw [phaseRows, Query.run, Py.mem_sort_descending, Table.mem_select]
  simp [eq_comm (a := phase)]

theorem mem_succeeded :
    row ∈ succeeded reportId db phase ↔ row ∈ phaseRows reportId phase db ∧ row.status = .completed := by
  rw [mem_phase_rows, succeeded, Table.mem_select]
  simp [and_assoc]

theorem mem_failures :
    row ∈ failures reportId db phase ↔ row ∈ phaseRows reportId phase db ∧ row.status = .failed := by
  rw [mem_phase_rows, failures, Table.mem_select]
  simp [and_assoc]

theorem phase_rows_sorted :
    (phaseRows reportId phase db).Pairwise fun first second => second.createdAt ≤ first.createdAt :=
  Py.sort_descending_sorted Analysis.createdAt _

theorem completed_before_iff (time : Nat) :
    (latestCompletedCreatedAt (phaseRows reportId phase db)).all (fun start => decide (start < time)) = true ↔
      ∀ completed ∈ succeeded reportId db phase, completed.createdAt < time := by
  rw [newest_completed_before phase_rows_sorted]
  constructor
  · intro early completed member
    obtain ⟨listed, finished⟩ := mem_succeeded.mp member
    exact early completed listed finished
  · intro early completed listed finished
    exact early completed (mem_succeeded.mpr ⟨listed, finished⟩)

theorem mem_failed_after {reference : StagePhase} :
    row ∈ failedAttemptsAfter (phaseRows reportId phase db)
        (latestCompletedCreatedAt (phaseRows reportId reference db)) ↔
      row ∈ failures reportId db phase ∧ Newer reportId db reference row := by
  rw [failedAttemptsAfter, List.mem_filter, Bool.and_eq_true, completed_before_iff, beq_iff_eq, mem_failures,
    and_assoc]
  rfl

theorem mem_unresolved :
    row ∈ unresolved reportId phase db ↔ row ∈ failures reportId db phase ∧ Newer reportId db phase row :=
  mem_failed_after

theorem any_completed_iff :
    (phaseRows reportId phase db).any isCompleted = true ↔ succeeded reportId db phase ≠ [] := by
  rw [List.any_eq_true]
  constructor
  · rintro ⟨completed, listed, finished⟩
    apply List.ne_nil_of_mem
    exact mem_succeeded.mpr ⟨listed, beq_iff_eq.mp finished⟩
  · intro some_completed
    obtain ⟨completed, member⟩ := List.exists_mem_of_ne_nil _ some_completed
    obtain ⟨listed, finished⟩ := mem_succeeded.mp member
    exact ⟨completed, listed, beq_iff_eq.mpr finished⟩

theorem mem_counted_triage :
    row ∈ counted reportId .triage db ↔
      row ∈ failures reportId db .triage ∧ succeeded reportId db .triage = [] := by
  unfold counted
  by_cases completed : (phaseRows reportId .triage db).any isCompleted = true
  · rw [if_pos completed]
    apply iff_of_false
    · exact List.not_mem_nil
    · rintro ⟨_, none_completed⟩
      exact any_completed_iff.mp completed none_completed
  · rw [if_neg completed]
    have none_completed : succeeded reportId db .triage = [] := by
      by_contra some_completed
      exact completed (any_completed_iff.mpr some_completed)
    rw [List.mem_filter, mem_failures, isFailed, beq_iff_eq]
    constructor
    · intro failed
      exact ⟨failed, none_completed⟩
    · intro failed
      exact failed.1

theorem mem_counted_fix :
    row ∈ counted reportId .fix db ↔
      row ∈ failures reportId db .fix ∧
        succeeded reportId db .localization ≠ [] ∧ Newer reportId db .localization row := by
  have found := latest_localization_listed db reportId
  have reference : latestCompletedCreatedAt (phaseRows reportId .localization db) =
      (Query.run (.latestCompletedLocalization reportId) db).map Analysis.createdAt := by
    rw [found]
    rfl
  have some_completed : (Query.run (.latestCompletedLocalization reportId) db).isSome = true ↔
      succeeded reportId db .localization ≠ [] := by
    rw [← any_completed_iff, found, List.find?_isSome, List.any_eq_true]
    rfl
  unfold counted
  cases latest : Query.run (.latestCompletedLocalization reportId) db with
  | none =>
      rw [latest] at some_completed
      apply iff_of_false
      · exact List.not_mem_nil
      · rintro ⟨_, completed, _⟩
        cases some_completed.mpr completed
  | some localization =>
      rw [latest] at some_completed reference
      have completed := some_completed.mp rfl
      have counts : failedFixes reportId localization.createdAt db =
          failedAttemptsAfter (phaseRows reportId .fix db)
            (latestCompletedCreatedAt (phaseRows reportId .localization db)) := by
        rw [reference]
        rfl
      dsimp only
      rw [counts, mem_failed_after]
      constructor
      · rintro ⟨failed, newer⟩
        exact ⟨failed, completed, newer⟩
      · rintro ⟨failed, _, newer⟩
        exact ⟨failed, newer⟩

/-- The report shows what the gates count. -/
structure Mirrors (reportId : String) (db : Database) : Prop where
  failed : ∀ phase ∈ retryablePhases, (unresolved reportId phase db ≠ [] ↔ counted reportId phase db ≠ [])
  permanent : ∀ info, reportFailureInfo reportId db = some info → info.failedStage ≠ .triage →
    (info.permanent = true ↔ ∃ row ∈ counted reportId info.failedStage db, permanentFailure row = true)
  current : ∀ failure, latestFailure reportId db = some failure → failure.phase = .fix →
    Newer reportId db .localization failure

/-- The phases `report_failure_info` looks at before a phase; an equally old failure of theirs stays. -/
def earlierPhases (phase : StagePhase) : List StagePhase := retryablePhases.takeWhile (· != phase)

/-- No unresolved failure is newer than the row, and none of an earlier phase as new. -/
def Unsurpassed (reportId : String) (db : Database) (phase : StagePhase) (last : Analysis) : Prop :=
  ∀ other ∈ retryablePhases, ∀ row ∈ failures reportId db other, Newer reportId db other row →
    row.createdAt ≤ last.createdAt ∧ (other ∈ earlierPhases phase → row.createdAt < last.createdAt)

/-- A history without the five orders of rows on which the report and the gates part. -/
structure Aligned (reportId : String) (db : Database) : Prop where
  /-- No triage failed after all of those that completed, where one did. -/
  triage : ∀ row ∈ failures reportId db .triage, Newer reportId db .triage row →
    succeeded reportId db .triage = []
  /-- No fix failed after all that completed where no localization did. -/
  unlocalized : ∀ row ∈ failures reportId db .fix, Newer reportId db .fix row →
    succeeded reportId db .localization ≠ []
  /-- No fix failed after all that completed where a localization completed once all had failed. -/
  relocalized : ∀ row ∈ failures reportId db .fix, Newer reportId db .fix row →
    ∀ completed ∈ succeeded reportId db .localization,
      ∃ last ∈ failures reportId db .fix, completed.createdAt < last.createdAt
  /-- No fix failed after all the localizations where a fix completed once all had failed. -/
  fixed : ∀ row ∈ failures reportId db .fix, succeeded reportId db .localization ≠ [] →
    Newer reportId db .localization row → ∀ completed ∈ succeeded reportId db .fix,
      ∃ last ∈ failures reportId db .fix, completed.createdAt < last.createdAt
  /-- A last failure of the localization or the fix, after all that completed and with no later one of
  another phase, is permanent where one since the last localization is. -/
  permanent : ∀ phase ∈ [StagePhase.localization, .fix], ∀ last, FailedLast reportId db phase last →
    Newer reportId db phase last → Unsurpassed reportId db phase last →
    ∀ row ∈ failures reportId db phase, Newer reportId db .localization row →
      permanentFailure row = true → permanentFailure last = true

theorem newest_of {rows : List Analysis} (filled : rows ≠ []) :
    ∃ newest ∈ rows, ∀ row ∈ rows, row.createdAt ≤ newest.createdAt := by
  cases latest : rows.argmax Analysis.createdAt with
  | none => exact absurd (List.argmax_eq_none.mp latest) filled
  | some newest =>
      refine ⟨newest, List.argmax_mem latest, ?_⟩
      intro row member
      exact List.le_of_mem_argmax member latest

theorem newer_of_each {rows : List Analysis} (filled : rows ≠ [])
    (each : ∀ completed ∈ succeeded reportId db phase, ∃ last ∈ rows, completed.createdAt < last.createdAt) :
    ∃ row ∈ rows, Newer reportId db phase row := by
  obtain ⟨newest, member, above⟩ := newest_of filled
  refine ⟨newest, member, ?_⟩
  intro completed finished
  obtain ⟨last, listed, later⟩ := each completed finished
  exact lt_of_lt_of_le later (above last listed)

theorem ne_nil_iff {Row : Type} {rows : List Row} : rows ≠ [] ↔ ∃ row, row ∈ rows := by
  constructor
  · exact List.exists_mem_of_ne_nil rows
  · rintro ⟨row, member⟩
    exact List.ne_nil_of_mem member

theorem triage_failed_iff :
    (unresolved reportId .triage db ≠ [] ↔ counted reportId .triage db ≠ []) ↔
      ∀ row ∈ failures reportId db .triage, Newer reportId db .triage row →
        succeeded reportId db .triage = [] := by
  simp only [ne_nil_iff, mem_unresolved, mem_counted_triage]
  constructor
  · intro same row failed newer
    obtain ⟨_, _, none_completed⟩ := same.mp ⟨row, failed, newer⟩
    exact none_completed
  · intro follows
    constructor
    · rintro ⟨row, failed, newer⟩
      exact ⟨row, failed, follows row failed newer⟩
    · rintro ⟨row, failed, none_completed⟩
      refine ⟨row, failed, ?_⟩
      intro completed member
      rw [none_completed] at member
      cases member

theorem fix_failed_iff :
    (unresolved reportId .fix db ≠ [] ↔ counted reportId .fix db ≠ []) ↔
      (∀ row ∈ failures reportId db .fix, Newer reportId db .fix row →
        succeeded reportId db .localization ≠ [] ∧ ∀ completed ∈ succeeded reportId db .localization,
          ∃ last ∈ failures reportId db .fix, completed.createdAt < last.createdAt) ∧
      ∀ row ∈ failures reportId db .fix, succeeded reportId db .localization ≠ [] →
        Newer reportId db .localization row → ∀ completed ∈ succeeded reportId db .fix,
          ∃ last ∈ failures reportId db .fix, completed.createdAt < last.createdAt := by
  rw [ne_nil_iff, ne_nil_iff]
  simp only [mem_unresolved, mem_counted_fix]
  constructor
  · intro same
    constructor
    · intro row failed newer
      obtain ⟨last, failed', localized, newer'⟩ := same.mp ⟨row, failed, newer⟩
      refine ⟨localized, ?_⟩
      intro completed finished
      exact ⟨last, failed', newer' completed finished⟩
    · intro row failed localized newer completed finished
      obtain ⟨last, failed', newer'⟩ := same.mpr ⟨row, failed, localized, newer⟩
      exact ⟨last, failed', newer' completed finished⟩
  · rintro ⟨shown, gated⟩
    constructor
    · rintro ⟨row, failed, newer⟩
      obtain ⟨localized, each⟩ := shown row failed newer
      obtain ⟨last, failed', newer'⟩ := newer_of_each (List.ne_nil_of_mem failed) each
      exact ⟨last, failed', localized, newer'⟩
    · rintro ⟨row, failed, localized, newer⟩
      exact newer_of_each (List.ne_nil_of_mem failed) (gated row failed localized newer)

theorem failed_last_iff :
    ((phaseRows reportId phase db).filter isFailed).head? = some row ↔ FailedLast reportId db phase row := by
  rw [List.head?_filter, List.find?_eq_some_iff_append, FailedLast, isFailed, beq_iff_eq]
  apply and_congr_right
  intro _
  simp [isFailed]

theorem unresolved_head :
    (unresolved reportId phase db).head? = some row ↔
      FailedLast reportId db phase row ∧ Newer reportId db phase row := by
  rw [unresolved, failed_after_head phase_rows_sorted, Option.filter_eq_some_iff, completed_before_iff,
    failed_last_iff]
  rfl

theorem failed_last_failure (last : FailedLast reportId db phase row) : row ∈ failures reportId db phase := by
  obtain ⟨failed, newer, older, listed, -⟩ := last
  apply mem_failures.mpr
  rw [listed]
  exact ⟨List.mem_append_right _ List.mem_cons_self, failed⟩

theorem failed_last_newest {other : Analysis} (last : FailedLast reportId db phase row)
    (member : other ∈ failures reportId db phase) : other.createdAt ≤ row.createdAt := by
  obtain ⟨-, newer, older, listed, unfailed⟩ := last
  obtain ⟨held, failed⟩ := mem_failures.mp member
  have sorted := @phase_rows_sorted reportId db phase
  rw [listed] at held sorted
  obtain front | back := List.mem_append.mp held
  · exact absurd failed (unfailed other front)
  · obtain rfl | behind := List.mem_cons.mp back
    · exact le_rfl
    · exact (List.pairwise_cons.mp (List.pairwise_append.mp sorted).2.1).1 other behind

theorem head_bound_iff (bound : Nat → Prop) (down : ∀ one other, one ≤ other → bound other → bound one) :
    (∀ first, (unresolved reportId phase db).head? = some first → bound first.createdAt) ↔
      ∀ row ∈ failures reportId db phase, Newer reportId db phase row → bound row.createdAt := by
  constructor
  · intro bounded row failed newer
    have member := mem_unresolved.mpr ⟨failed, newer⟩
    cases head : (unresolved reportId phase db).head? with
    | none =>
        rw [List.head?_eq_none_iff.mp head] at member
        cases member
    | some first =>
        have above := failed_last_newest (unresolved_head.mp head).1 failed
        exact down _ _ above (bounded first head)
  · intro bounded first head
    obtain ⟨failed, newer⟩ := unresolved_head.mp head
    exact bounded first (failed_last_failure failed) newer

theorem head_phase (head : (unresolved reportId phase db).head? = some row) : row.phase = phase := by
  have failed := failed_last_failure (unresolved_head.mp head).1
  exact (mem_phase_rows.mp (mem_failures.mp failed).1).2.2

/-- What the loop of `report_failure_info` keeps after the candidate of a phase. -/
def keptFailure (latest candidate : Option Analysis) : Option Analysis :=
  match candidate with
  | none => latest
  | some candidate => laterFailure latest candidate

theorem kept_iff {latest candidate : Option Analysis} :
    keptFailure latest candidate = some row ↔
      (candidate = some row ∧ ∀ old, latest = some old → old.createdAt < row.createdAt) ∨
        (latest = some row ∧ ∀ new, candidate = some new → new.createdAt ≤ row.createdAt) := by
  cases candidate with
  | none => simp [keptFailure]
  | some new =>
      cases latest with
      | none => simp [keptFailure, laterFailure]
      | some old =>
          simp only [keptFailure, laterFailure, Option.some.injEq, forall_eq']
          by_cases later : old.createdAt < new.createdAt
          · rw [if_pos later, Option.some.injEq]
            constructor
            · rintro rfl
              exact .inl ⟨rfl, later⟩
            · rintro (⟨rfl, -⟩ | ⟨rfl, older⟩)
              · rfl
              · omega
          · rw [if_neg later, Option.some.injEq]
            constructor
            · rintro rfl
              exact .inr ⟨rfl, not_lt.mp later⟩
            · rintro (⟨rfl, earlier⟩ | ⟨rfl, -⟩)
              · exact absurd earlier later
              · rfl

theorem kept_below {latest candidate : Option Analysis} {bound : Nat} :
    (∀ old, keptFailure latest candidate = some old → old.createdAt < bound) ↔
      (∀ old, latest = some old → old.createdAt < bound) ∧ ∀ new, candidate = some new → new.createdAt < bound := by
  cases candidate with
  | none => simp [keptFailure]
  | some new =>
      cases latest with
      | none => simp [keptFailure, laterFailure]
      | some old =>
          simp only [keptFailure, laterFailure, Option.some.injEq, forall_eq']
          by_cases later : old.createdAt < new.createdAt
          · rw [if_pos later]
            simp only [Option.some.injEq, forall_eq']
            omega
          · rw [if_neg later]
            simp only [Option.some.injEq, forall_eq']
            omega

theorem latest_failure_kept :
    latestFailure reportId db =
      keptFailure (keptFailure (keptFailure none (unresolved reportId .triage db).head?) (unresolved reportId .localization db).head?)
        (unresolved reportId .fix db).head? := rfl

theorem latest_localization_iff :
    (latestFailure reportId db = some row ∧ row.phase = .localization) ↔
      (unresolved reportId .localization db).head? = some row ∧
        (∀ first, (unresolved reportId .triage db).head? = some first → first.createdAt < row.createdAt) ∧
        ∀ first, (unresolved reportId .fix db).head? = some first → first.createdAt ≤ row.createdAt := by
  rw [latest_failure_kept, kept_iff]
  constructor
  · rintro ⟨⟨head, _⟩ | ⟨earlier, older⟩, phased⟩
    · rw [head_phase head] at phased
      cases phased
    · obtain ⟨head, before⟩ | ⟨first, _⟩ := kept_iff.mp earlier
      · exact ⟨head, (kept_below.mp before).2, older⟩
      · obtain ⟨head, _⟩ | ⟨nothing, _⟩ := kept_iff.mp first
        · rw [head_phase head] at phased
          cases phased
        · cases nothing
  · rintro ⟨head, before, older⟩
    refine ⟨.inr ⟨kept_iff.mpr (.inl ⟨head, ?_⟩), older⟩, head_phase head⟩
    exact kept_below.mpr ⟨nofun, before⟩

theorem latest_fix_iff :
    (latestFailure reportId db = some row ∧ row.phase = .fix) ↔
      (unresolved reportId .fix db).head? = some row ∧
        (∀ first, (unresolved reportId .triage db).head? = some first → first.createdAt < row.createdAt) ∧
        ∀ first, (unresolved reportId .localization db).head? = some first → first.createdAt < row.createdAt := by
  rw [latest_failure_kept, kept_iff]
  constructor
  · rintro ⟨⟨head, before⟩ | ⟨earlier, _⟩, phased⟩
    · obtain ⟨triage, localization⟩ := kept_below.mp before
      exact ⟨head, (kept_below.mp triage).2, localization⟩
    · obtain ⟨head, _⟩ | ⟨first, _⟩ := kept_iff.mp earlier
      · rw [head_phase head] at phased
        cases phased
      · obtain ⟨head, _⟩ | ⟨nothing, _⟩ := kept_iff.mp first
        · rw [head_phase head] at phased
          cases phased
        · cases nothing
  · rintro ⟨head, triage, localization⟩
    refine ⟨.inl ⟨head, ?_⟩, head_phase head⟩
    exact kept_below.mpr ⟨kept_below.mpr ⟨nofun, triage⟩, localization⟩

theorem unsurpassed_iff {last : Analysis} :
    Unsurpassed reportId db phase last ↔
      ∀ other ∈ retryablePhases, ∀ first, (unresolved reportId other db).head? = some first →
        first.createdAt ≤ last.createdAt ∧ (other ∈ earlierPhases phase → first.createdAt < last.createdAt) := by
  apply forall_congr'
  intro other
  apply imp_congr_right
  intro _
  symm
  apply head_bound_iff fun time => time ≤ last.createdAt ∧ (other ∈ earlierPhases phase → time < last.createdAt)
  intro one later below bounded
  exact ⟨below.trans bounded.1, fun earlier => lt_of_le_of_lt below (bounded.2 earlier)⟩

/-- The failure shown of a localization or a fix, read off the rows. -/
theorem latest_failure_iff (chosen : phase ∈ [StagePhase.localization, .fix]) :
    (latestFailure reportId db = some row ∧ row.phase = phase) ↔
      FailedLast reportId db phase row ∧ Newer reportId db phase row ∧ Unsurpassed reportId db phase row := by
  rw [unsurpassed_iff, ← and_assoc, ← unresolved_head, retryablePhases, List.forall_mem_cons,
    List.forall_mem_cons, List.forall_mem_singleton]
  have own : ∀ {first : Analysis}, (unresolved reportId phase db).head? = some row →
      (unresolved reportId phase db).head? = some first → first = row := by
    intro first head other
    exact Option.some.inj (other.symm.trans head)
  cases phase with
  | validation => exact absurd chosen (by decide)
  | triage => exact absurd chosen (by decide)
  | localization =>
      rw [latest_localization_iff]
      apply and_congr_right
      intro head
      constructor
      · rintro ⟨triage, fix⟩
        refine ⟨?_, ?_, ?_⟩
        · intro first newest
          exact ⟨(triage first newest).le, fun _ => triage first newest⟩
        · intro first newest
          rw [own head newest]
          exact ⟨le_rfl, fun earlier => absurd earlier (by decide)⟩
        · intro first newest
          exact ⟨fix first newest, fun earlier => absurd earlier (by decide)⟩
      · rintro ⟨triage, -, fix⟩
        constructor
        · intro first newest
          exact (triage first newest).2 (by decide)
        · intro first newest
          exact (fix first newest).1
  | fix =>
      rw [latest_fix_iff]
      apply and_congr_right
      intro head
      constructor
      · rintro ⟨triage, localization⟩
        refine ⟨?_, ?_, ?_⟩
        · intro first newest
          exact ⟨(triage first newest).le, fun _ => triage first newest⟩
        · intro first newest
          exact ⟨(localization first newest).le, fun _ => localization first newest⟩
        · intro first newest
          rw [own head newest]
          exact ⟨le_rfl, fun earlier => absurd earlier (by decide)⟩
      · rintro ⟨triage, localization, -⟩
        constructor
        · intro first newest
          exact (triage first newest).2 (by decide)
        · intro first newest
          exact (localization first newest).2 (by decide)

theorem counted_newer (chosen : phase ∈ [StagePhase.localization, .fix]) (member : row ∈ counted reportId phase db) :
    row ∈ failures reportId db phase ∧ Newer reportId db .localization row := by
  cases phase with
  | validation => exact absurd chosen (by decide)
  | triage => exact absurd chosen (by decide)
  | localization => exact mem_failed_after.mp member
  | fix =>
      obtain ⟨failed, -, newer⟩ := mem_counted_fix.mp member
      exact ⟨failed, newer⟩

theorem shown_phase (shown : latestFailure reportId db = some row) (no_triage : row.phase ≠ .triage) :
    row.phase ∈ [StagePhase.localization, .fix] := by
  rw [latest_failure_kept, kept_iff] at shown
  rcases shown with ⟨head, -⟩ | ⟨earlier, -⟩
  · rw [head_phase head]
    decide
  · obtain ⟨head, -⟩ | ⟨first, -⟩ := kept_iff.mp earlier
    · rw [head_phase head]
      decide
    · obtain ⟨head, -⟩ | ⟨nothing, -⟩ := kept_iff.mp first
      · exact absurd (head_phase head) no_triage
      · cases nothing

/-- Where the gate of the fix counts a failure whenever one is shown, it counts the last of them. -/
theorem last_counted (failed : ∀ phase ∈ retryablePhases, (unresolved reportId phase db ≠ [] ↔ counted reportId phase db ≠ []))
    (chosen : phase ∈ [StagePhase.localization, .fix]) (head : (unresolved reportId phase db).head? = some row) :
    row ∈ counted reportId phase db := by
  have member : row ∈ unresolved reportId phase db := List.mem_of_head? head
  cases phase with
  | validation => exact absurd chosen (by decide)
  | triage => exact absurd chosen (by decide)
  | localization => exact member
  | fix =>
      obtain ⟨other, counts⟩ := ne_nil_iff.mp ((failed .fix (by decide)).mp (List.ne_nil_of_mem member))
      obtain ⟨failed', localized, newer⟩ := mem_counted_fix.mp counts
      refine mem_counted_fix.mpr ⟨(mem_unresolved.mp member).1, localized, ?_⟩
      have above := failed_last_newest (unresolved_head.mp head).1 failed'
      intro completed finished
      exact lt_of_lt_of_le (newer completed finished) above

theorem aligned_of_mirrors (mirrors : Mirrors reportId db) : Aligned reportId db := by
  obtain ⟨shown, gated⟩ := fix_failed_iff.mp (mirrors.failed .fix (by decide))
  refine ⟨triage_failed_iff.mp (mirrors.failed .triage (by decide)), ?_, ?_, gated, ?_⟩
  · intro row failed newer
    exact (shown row failed newer).1
  · intro row failed newer
    exact (shown row failed newer).2
  · intro phase chosen last failed newer unsurpassed row failed' newer' permanent
    obtain ⟨latest, phased⟩ := (latest_failure_iff chosen).mpr ⟨failed, newer, unsurpassed⟩
    have info : reportFailureInfo reportId db = some
        { failedStage := last.phase, lastError := (last.result.getD .null).get "error"
          permanent := permanentFailure last } := by
      rw [reportFailureInfo, latest]
      rfl
    have no_triage : last.phase ≠ .triage := by
      intro triage
      rw [← phased, triage] at chosen
      exact absurd chosen (by decide)
    refine (mirrors.permanent _ info no_triage).mpr ⟨row, ?_, permanent⟩
    dsimp only
    rw [phased]
    have counts := last_counted mirrors.failed chosen (unresolved_head.mpr ⟨failed, newer⟩)
    cases phase with
    | validation => exact absurd chosen (by decide)
    | triage => exact absurd chosen (by decide)
    | localization => exact mem_failed_after.mpr ⟨failed', newer'⟩
    | fix => exact mem_counted_fix.mpr ⟨failed', (mem_counted_fix.mp counts).2.1, newer'⟩

theorem aligned_fails_alike (aligned : Aligned reportId db) :
    ∀ phase ∈ retryablePhases, (unresolved reportId phase db ≠ [] ↔ counted reportId phase db ≠ []) := by
  intro phase retryable
  cases phase with
  | validation => exact absurd retryable (by decide)
  | triage => exact triage_failed_iff.mpr aligned.triage
  | localization => exact Iff.rfl
  | fix =>
      refine fix_failed_iff.mpr ⟨?_, aligned.fixed⟩
      intro row failed newer
      exact ⟨aligned.unlocalized row failed newer, aligned.relocalized row failed newer⟩

theorem mirrors_of_aligned (aligned : Aligned reportId db) : Mirrors reportId db := by
  have failed := aligned_fails_alike aligned
  refine ⟨failed, ?_, ?_⟩
  · intro info shown no_triage
    obtain ⟨last, latest, rfl⟩ := Option.map_eq_some_iff.mp shown
    have chosen := shown_phase latest no_triage
    obtain ⟨failed_last, newer, unsurpassed⟩ := (latest_failure_iff chosen).mp ⟨latest, rfl⟩
    constructor
    · intro permanent
      exact ⟨last, last_counted failed chosen (unresolved_head.mpr ⟨failed_last, newer⟩), permanent⟩
    · rintro ⟨row, counts, permanent⟩
      obtain ⟨failed', newer'⟩ := counted_newer chosen counts
      exact aligned.permanent last.phase chosen last failed_last newer unsurpassed row failed' newer' permanent
  · intro last latest fix
    have chosen : StagePhase.fix ∈ [StagePhase.localization, .fix] := by decide
    obtain ⟨failed_last, newer, -⟩ := (latest_failure_iff chosen).mp ⟨latest, fix⟩
    have counts := last_counted failed chosen (unresolved_head.mpr ⟨failed_last, newer⟩)
    exact (mem_counted_fix.mp counts).2.2

/-- The report mirrors the gates for a history exactly when its rows are aligned; and these are the gates
of the eligibility queries. -/
theorem failure_info_mirrors_iff (reportId : String) (db : Database) :
    (Mirrors reportId db ↔ Aligned reportId db) ∧
      ∀ settings now report, Gated settings now db report := by
  constructor
  · exact ⟨aligned_of_mirrors, mirrors_of_aligned⟩
  · intro settings now report
    exact ⟨triage_gate_counts, fun _ => localization_gate_counts, fix_gate_counts⟩

end Report

namespace Scenario

/-- The fix failed at 2 and the report was localized again, for a new head, at 3. -/
def relocalizedRows : List Analysis :=
  [localized 1, { localized 2 with id := "fix", phase := .fix, status := .failed, result := none },
    { localized 3 with id := "again" }]

theorem relocalized_distinct : (relocalizedRows.map Analysis.id).Nodup := by decide

def relocalized : Database :=
  { database .triaged .empty with stages := ⟨⟨relocalizedRows, relocalized_distinct⟩, .empty, []⟩ }

end Scenario

/-- The report still shows the old failure, and the gate counts nothing. -/
theorem old_fix_failure_shown :
    ((reportFailureInfo "r" Scenario.relocalized).map FailureInfo.failedStage = some .fix ∧
      (counted "r" .fix Scenario.relocalized).length = 0) ∧ ¬Mirrors "r" Scenario.relocalized := by
  have counts_none : (counted "r" .fix Scenario.relocalized).length = 0 := by decide
  have shows_one : (unresolved "r" .fix Scenario.relocalized).length = 1 := by decide
  refine ⟨⟨by decide, counts_none⟩, ?_⟩
  intro mirrors
  have shown : unresolved "r" .fix Scenario.relocalized ≠ [] := by
    intro empty
    rw [empty] at shows_one
    cases shows_one
  exact (mirrors.failed .fix (by decide)).mp shown (List.eq_nil_of_length_eq_zero counts_none)

end Bugalizer
