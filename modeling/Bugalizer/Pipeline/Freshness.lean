import Bugalizer.Api.Reports
import Bugalizer.Pipeline.Eligibility
import Bugalizer.Scenario
import Bugalizer.Sync.Stage

/-!
# One rule of freshness, and the check that departs from it

Six places ask whether a report's localization is current. Five of them look at the newest
completed localization and compare its commit with the project's head; the check inside
`process_localization` takes any completed one.
-/

namespace Bugalizer

set_option autoImplicit false

open Coroutine Program Store

/-- `_latest_completed_created_at`, of rows newest first. -/
def latestCompletedCreatedAt (rows : List Analysis) : Option Nat :=
  (rows.find? fun row => row.status == .completed).map Analysis.createdAt

/-- What the loop decides on the newest completed localization. A result that is no `dict` has no
`get`. -/
def relocalize (project : Project) (localization : Option Analysis) : Except Exn Bool :=
  match localization with
  | none => .ok true
  | some row =>
      match nonBlank project.headSha with
      | none => .ok false
      | some head =>
          match row.result with
          | none => .ok true
          | some result =>
              if result.isObj then .ok (!(result.get "repo_sha").isStr head)
              else .error (.plain "AttributeError" "object has no attribute 'get'")

/-- The row of the query, and the retry gate. -/
def localizable (settings : Settings) (now : Nat) (db : Database) (report : Report) (project : Project) :
    Bool :=
  report.status == .triaged && !report.analysisMode.isStr "hold" && project.repoPath.isSome &&
    report.resolutionReason != some "deleted" &&
    !(db.stages.analyses.select fun row =>
        row.bugReportId == report.id && row.phase == .triage && row.status == .completed).isEmpty &&
    let all := Query.run (.analysesForReport report.id (some .localization)) db
    !retryBlocked (failedAttemptsAfter all (latestCompletedCreatedAt all)) settings.maxLocalizeRetries
      settings.retryDelaySeconds now

def localizationDue (settings : Settings) (now : Nat) (db : Database) (report : Report) : Except Exn Bool :=
  match db.projects.get report.projectId with
  | none => .ok false
  | some project =>
      if localizable settings now db report project then
        relocalize project (Query.run (.latestCompletedLocalization report.id) db)
      else .ok false

def localizationEligibleReports (settings : Settings) (now : Nat) (db : Database) :
    Except Exn (List Report) :=
  (Py.sortOn Report.createdAt db.reports.rows).filterM (localizationDue settings now db)

def current (db : Database) (report : Report) (project : Project) : Bool :=
  (Query.run (.latestCompletedLocalization report.id) db).any (freshAt project)

/-- A completed localization is of the head only where the newest one is: the head did not come
back to a commit that was localized before another one. -/
def HeadNotRevisited (db : Database) (report : Report) (project : Project) : Prop :=
  ∀ row, db.stages.analyses.get row.id = some row → row.bugReportId = report.id →
    row.phase = .localization → row.status = .completed → freshAt project row = true →
    ∃ newest, Query.run (.latestCompletedLocalization report.id) db = some newest ∧
      freshAt project newest = true

section NewestFirst

variable {Row : Type} (stamp : Row → Nat)

/-- A row that is at least as new as all others goes to the front. -/
theorem insert_newest {row : Row} {rows : List Row} (newest : ∀ other ∈ rows, stamp other ≤ stamp row) :
    rows.orderedInsert (fun first second => stamp second ≤ stamp first) row = row :: rows := by
  cases rows with
  | nil => rfl
  | cons head rest =>
      apply List.orderedInsert_cons_of_le
      exact newest head List.mem_cons_self

theorem filter_ordered_insert (wanted : Row → Bool) (row : Row) {rows : List Row}
    (sorted : rows.Pairwise fun first second => stamp second ≤ stamp first) :
    (rows.orderedInsert (fun first second => stamp second ≤ stamp first) row).filter wanted =
      if wanted row then
        (rows.filter wanted).orderedInsert (fun first second => stamp second ≤ stamp first) row
      else rows.filter wanted := by
  induction rows with
  | nil =>
      simp only [List.orderedInsert_nil, List.filter_nil, List.filter_cons]
  | cons head rest ih =>
      obtain ⟨older, sorted'⟩ := List.pairwise_cons.mp sorted
      by_cases newer : stamp head ≤ stamp row
      · rw [List.orderedInsert_cons_of_le (r := fun first second => stamp second ≤ stamp first) rest newer,
          List.filter_cons]
        split
        · symm
          apply insert_newest
          intro other member
          have listed := (List.mem_filter.mp member).1
          rcases List.mem_cons.mp listed with rfl | later
          · exact newer
          · exact (older other later).trans newer
        · rfl
      · rw [List.orderedInsert_of_not_le (r := fun first second => stamp second ≤ stamp first) rest newer,
          List.filter_cons, ih sorted', List.filter_cons]
        by_cases kept : wanted head = true
        · simp only [kept, if_true]
          split
          · rw [List.orderedInsert_of_not_le (r := fun first second => stamp second ≤ stamp first) _ newer]
          · rfl
        · simp only [kept]
          rfl

end NewestFirst

theorem filter_sort_descending {Row : Type} (stamp : Row → Nat) (wanted : Row → Bool) (rows : List Row) :
    (Py.sortDescending stamp rows).filter wanted = Py.sortDescending stamp (rows.filter wanted) := by
  unfold Py.sortDescending
  induction rows with
  | nil => rfl
  | cons row rest ih =>
      have sorted : (rest.insertionSort fun first second => stamp second ≤ stamp first).Pairwise
          fun first second => stamp second ≤ stamp first := Py.sort_descending_sorted stamp rest
      rw [List.insertionSort_cons, filter_ordered_insert stamp wanted row sorted, ih, List.filter_cons]
      split
      · rw [List.insertionSort_cons]
      · rfl

/-- The newest row of a narrow selection is the first fitting one of a wider listing. -/
theorem newest_listed {Row Key : Type} {key : Row → Key} (table : Table Row Key key) (stamp : Row → Nat)
    {narrow wide wanted : Row → Bool} (same : ∀ row, narrow row = (wide row && wanted row)) :
    (Py.sortDescending stamp (table.select narrow)).head? =
      (Py.sortDescending stamp (table.select wide)).find? wanted := by
  have narrowed : table.select narrow = (table.select wide).filter wanted := by
    simp only [Table.select, List.filter_filter]
    congr 1
    funext row
    rw [same, Bool.and_comm]
  rw [← List.head?_filter, filter_sort_descending, narrowed]

theorem latest_localization_listed (db : Database) (reportId : String) :
    Query.run (.latestCompletedLocalization reportId) db =
      (Query.run (.analysesForReport reportId (some .localization)) db).find?
        fun row => row.status == .completed := by
  apply newest_listed
  intro row
  simp [Bool.beq_comm (a := StagePhase.localization)]

theorem latest_localization_of_all (db : Database) (reportId : String) :
    Query.run (.latestCompletedLocalization reportId) db =
      (Query.run (.analysesForReport reportId none) db).find?
        fun row => row.phase == .localization && row.status == .completed := by
  apply newest_listed
  intro row
  simp [Bool.and_assoc]

def StagePhase.value : StagePhase → String
  | validation => "validation"
  | triage => "triage"
  | localization => "localization"
  | fix => "fix"

def AnalysisStatus.value : AnalysisStatus → String
  | running => "running"
  | completed => "completed"
  | failed => "failed"

section Shown

-- What `json.loads` makes of the text of a float.
variable (real : String → Wire.Double)

mutual

/-- A value of a column as `json.loads` yields it. -/
def Json.toValue : Json → Wire.Value
  | .null => .null
  | .bool value => .bool value
  | .int value => .int value
  | .real text => .real (real text)
  | .str text => .str (Wire.Text.of text)
  | .arr items => .list (Json.toItems items)
  | .obj fields => .dict (Json.toFields fields)

def Json.toItems : List Json → List Wire.Value
  | [] => []
  | item :: items => item.toValue :: Json.toItems items

def Json.toFields : List (String × Json) → List (Wire.Text × Wire.Value)
  | [] => []
  | (name, value) :: fields => (Wire.Text.of name, value.toValue) :: Json.toFields fields

end

structure ShownAnalysis (row : Analysis) (shown : Results.AnalysisRow) : Prop where
  phase : shown.phase = row.phase.value
  status : shown.status = row.status.value
  result : shown.result = (row.result.getD .null).toValue real

/-- The rows `stage_of` is given of a report. -/
structure Shown (db : Database) (report : Report) (project : Project) (rows : Results.Rows) : Prop where
  project : rows.project.bind Results.ProjectRow.headSha = project.headSha
  analyses : List.Forall₂ (ShownAnalysis real) (Query.run (.analysesForReport report.id none) db)
    rows.analyses

theorem lookup_to_fields (name : String) (fields : List (String × Json)) :
    (Json.toFields real fields).lookup (Wire.Text.of name) = (fields.lookup name).map (Json.toValue real) := by
  induction fields with
  | nil => rfl
  | cons field fields ih =>
      obtain ⟨other, value⟩ := field
      simp only [Json.toFields, List.lookup_cons]
      by_cases same : name = other
      · simp [same]
      · have apart : Wire.Text.of name ≠ Wire.Text.of other := fun texts => same (Wire.Text.of_injective texts)
        simp only [beq_false_of_ne apart, beq_false_of_ne same]
        exact ih

theorem to_value_get (name : String) (value : Json) :
    (value.toValue real).get name = (value.get name).toValue real := by
  cases value with
  | obj fields =>
      simp only [Json.toValue, Wire.Value.get, Json.get, Json.field?, lookup_to_fields]
      cases fields.lookup name <;> rfl
  | _ => rfl

theorem to_value_is_str (text : String) (value : Json) :
    (value.toValue real).isStr text = value.isStr text := by
  cases value with
  | str other =>
      simp only [Json.toValue, Wire.Value.isStr, Json.isStr]
      by_cases same : other = text
      · simp [same]
      · have apart : Wire.Text.of other ≠ Wire.Text.of text := fun texts => same (Wire.Text.of_injective texts)
        simp [same, apart]
  | _ => rfl

variable {real} {db : Database} {report : Report} {project : Project}

theorem shown_fresh {row : Analysis} {shown : Results.AnalysisRow} {rows : Results.Rows}
    (shows : Shown real db report project rows) (same : ShownAnalysis real row shown) :
    Results.fresh shown rows.project = freshAt project row := by
  simp only [Results.fresh, freshAt, shows.project, same.result, to_value_get, to_value_is_str,
    localizationSha]

theorem shown_newest {rows : List Results.AnalysisRow} {stored : List Analysis}
    (shows : List.Forall₂ (ShownAnalysis real) stored rows) :
    (Results.newest rows "localization" (some "completed")).isSome =
        (stored.find? fun row => row.phase == .localization && row.status == .completed).isSome ∧
      ∀ shown, Results.newest rows "localization" (some "completed") = some shown →
        ∃ row, stored.find? (fun row => row.phase == .localization && row.status == .completed) = some row ∧
          ShownAnalysis real row shown := by
  induction shows with
  | nil => exact ⟨rfl, fun _ found => by cases found⟩
  | cons same rest ih =>
      rename_i row shown rows stored
      have fits : (shown.phase == "localization" && (some "completed").all (shown.status == ·)) =
          (row.phase == .localization && row.status == .completed) := by
        rw [same.phase, same.status]
        cases row.phase <;> cases row.status <;> rfl
      simp only [Results.newest, List.find?_cons, fits] at ih ⊢
      cases row.phase == .localization && row.status == .completed with
      | true => exact ⟨rfl, fun other found => ⟨row, rfl, by cases found; exact same⟩⟩
      | false => exact ih

end Shown

def AnsweredBy (db : Database) (answers : (op : Op) → Except Exn op.Ans) : Prop :=
  ∀ query : Query, answers (.query query) = .ok (query.run db)

/-- The conditions of `reports_eligible_for_fix` beside the freshness of the localization. -/
def fixable (settings : Settings) (now : Nat) (db : Database) (report : Report) (localization : Analysis) :
    Bool :=
  report.status == .triaged && autoDispatched report.analysisMode &&
    report.resolutionReason != some "deleted" && !proposedFor report.id localization.id db &&
      !retryBlocked (failedFixes report.id localization.createdAt db) settings.maxFixRetries
        settings.retryDelaySeconds now

/-- What `propose_fix` does behind its freshness gate. -/
def bundledFiles (settings : Settings) (analysis : Analysis) (project : Project) (repoPath : String) :
    Py (Project × List (String × String)) := do
  let candidates ← collectCandidateFiles analysis
  if candidates.isEmpty then raise (.fixProposalDefer "Localization produced no candidate files")
  else do
    let read ← remote (.readCandidateFiles repoPath (.arr candidates) settings.localizeMaxFiles
      settings.fixMaxFileBytes)
    let capped := capBundle settings.fixMaxBundleBytes read.files
    if capped.isEmpty then raise (.fixProposalDefer
      "No candidate file contents available after path+size checks")
    else pure (project, capped)

/-- Every place that asks for freshness answers by the same rule. -/
structure OneJudgement (db : Database) (report : Report) (project : Project) : Prop where
  localizing : ∀ row head due, Query.run (.latestCompletedLocalization report.id) db = some row →
    nonBlank project.headSha = some head → relocalize project (some row) = .ok due →
    due = !current db report project
  fixing : ∀ settings now row, Query.run (.latestCompletedLocalization report.id) db = some row →
    fixDue settings now db report = (fixable settings now db report row && current db report project)
  requested : report.status = .triaged → ∀ answers, AnsweredBy db answers →
    ((checkCloudAnalysis report (some project)).eval answers = .ok none ↔ current db report project = true)
  rechecked : ∀ settings row repoPath, Query.run (.latestCompletedLocalization report.id) db = some row →
    nonBlank project.repoPath = some repoPath →
    gatherFiles settings row (some project) =
      if current db report project then bundledFiles settings row project repoPath
      else raise (.fixProposalDefer (staleMessage row project.headSha))
  shown : ∀ real rows, Shown real db report project rows → ∀ shown,
    Results.newest rows.analyses "localization" (some "completed") = some shown →
      Results.fresh shown rows.project = current db report project
  skipped : ∀ head, nonBlank project.headSha = some head →
    (Query.run (.analysesForReport report.id (some .localization)) db).any (freshFor head) =
      current db report project
  /-- No report is due for a localization and for a fix. -/
  apart : ∀ settings now, localizationDue settings now db report = .ok true →
    fixDue settings now db report = false
  /-- A localization of a report that is due, at a head that did not move, is not skipped. -/
  worked : ∀ settings now llm triggerRef head repoPath answers,
    localizationDue settings now db report = .ok true → nonBlank project.headSha = some head →
    AnsweredBy db answers → answers (.remote (.getHeadSha repoPath)) = .ok head →
    (localizeClaimed settings report.id report project repoPath llm triggerRef).eval answers ≠
      .ok .alreadyFresh

section Judgements

variable {db : Database} {report : Report} {project : Project}

theorem current_of_latest {row : Analysis}
    (latest : Query.run (.latestCompletedLocalization report.id) db = some row) :
    current db report project = freshAt project row := by
  rw [current, latest, Option.any_some]

theorem fresh_at_head {row : Analysis} {head : String} (known : nonBlank project.headSha = some head) :
    freshAt project row = (localizationSha row).isStr head := by
  obtain ⟨stored, filled⟩ := Option.filter_eq_some_iff.mp known
  rw [freshAt, stored, Option.any_some, filled, Bool.true_and]

theorem fresh_at_unknown {row : Analysis} (unknown : nonBlank project.headSha = none) :
    freshAt project row = false := by
  unfold freshAt
  cases stored : project.headSha with
  | none => rfl
  | some head =>
      rw [nonBlank, stored, Option.filter_some] at unknown
      split at unknown
      · cases unknown
      · rename_i blank
        rw [Option.any_some, Bool.and_eq_false_iff]
        exact .inl (by simpa using blank)

theorem fresh_for_iff {row : Analysis} {head : String} :
    freshFor head row = true ↔ row.status = .completed ∧ (localizationSha row).isStr head = true := by
  unfold freshFor localizationSha
  cases row.result with
  | none => simp [Json.get, Json.field?, Json.isStr]
  | some result =>
      cases result with
      | obj fields =>
          cases fields with
          | nil => simp [Json.get, Json.field?, Json.isStr, Json.truthy]
          | cons field fields => simp [Json.truthy, Json.isObj]
      | _ => simp [Json.get, Json.field?, Json.isStr, Json.isObj]

theorem relocalize_judges {row : Analysis} {head : String} {due : Bool}
    (latest : Query.run (.latestCompletedLocalization report.id) db = some row)
    (known : nonBlank project.headSha = some head) (decided : relocalize project (some row) = .ok due) :
    due = !current db report project := by
  rw [current_of_latest latest, fresh_at_head known]
  simp only [relocalize, known] at decided
  unfold localizationSha
  cases stored : row.result with
  | none =>
      rw [stored] at decided
      cases decided
      rfl
  | some result =>
      rw [stored] at decided
      dsimp only at decided
      split at decided
      · cases decided
        rfl
      · cases decided

theorem fix_due_judges (stored : db.projects.get report.projectId = some project) {settings : Settings}
    {now : Nat} {row : Analysis}
    (latest : Query.run (.latestCompletedLocalization report.id) db = some row) :
    fixDue settings now db report = (fixable settings now db report row && current db report project) := by
  rw [current_of_latest latest]
  unfold fixDue fixable
  rw [stored, latest, Option.any_some, Option.any_some]
  cases freshAt project row <;> simp [Bool.and_assoc]

theorem request_judges (triaged : report.status = .triaged) {answers : (op : Op) → Except Exn op.Ans}
    (answered : AnsweredBy db answers) :
    (checkCloudAnalysis report (some project)).eval answers = .ok none ↔ current db report project = true := by
  have asked : (latestCompletedLocalization report.id).eval answers =
      .ok (Query.run (.latestCompletedLocalization report.id) db) :=
    (eval_perform _).trans (answered (.latestCompletedLocalization report.id))
  simp only [checkCloudAnalysis, triaged, if_true, bind_eq, eval_bind, asked, Except.bind]
  cases latest : Query.run (.latestCompletedLocalization report.id) db with
  | none => simp [current, latest]
  | some row =>
      rw [current_of_latest latest, Option.bind_some]
      cases known : nonBlank project.headSha with
      | none => simp [fresh_at_unknown known]
      | some head =>
          rw [fresh_at_head known]
          simp only [Option.any_some]
          split
          · rename_i same
            simp [same]
          · rename_i differs
            simp [differs]

theorem recheck_judges {settings : Settings} {row : Analysis} {repoPath : String}
    (latest : Query.run (.latestCompletedLocalization report.id) db = some row)
    (cloned : nonBlank project.repoPath = some repoPath) :
    gatherFiles settings row (some project) =
      if current db report project then bundledFiles settings row project repoPath
      else raise (.fixProposalDefer (staleMessage row project.headSha)) := by
  rw [current_of_latest latest]
  simp only [gatherFiles, Option.bind_some, cloned, Option.map_some]
  cases known : nonBlank project.headSha with
  | none =>
      rw [fresh_at_unknown known]
      rfl
  | some head =>
      rw [fresh_at_head known]
      rfl

theorem listed_localization {row : Analysis} :
    row ∈ Query.run (.analysesForReport report.id (some .localization)) db ↔
      db.stages.analyses.get row.id = some row ∧ row.bugReportId = report.id ∧ row.phase = .localization := by
  simp only [Query.run]
  rw [Py.mem_sort_descending, Table.mem_select]
  simp [eq_comm (a := StagePhase.localization)]

/-- The check of `process_localization` judges as the others do exactly where the head did not
come back. -/
theorem skip_judges_iff :
    (∀ head, nonBlank project.headSha = some head →
      (Query.run (.analysesForReport report.id (some .localization)) db).any (freshFor head) =
        current db report project) ↔ HeadNotRevisited db report project := by
  constructor
  · intro skipped row stored ofReport phase completed fresh
    cases known : nonBlank project.headSha with
    | none =>
        rw [fresh_at_unknown known] at fresh
        cases fresh
    | some head =>
        have listed := listed_localization.mpr ⟨stored, ofReport, phase⟩
        have hit : (Query.run (.analysesForReport report.id (some .localization)) db).any (freshFor head) =
            true := by
          refine List.any_eq_true.mpr ⟨row, listed, fresh_for_iff.mpr ⟨completed, ?_⟩⟩
          rw [← fresh_at_head known]
          exact fresh
        rw [skipped head known] at hit
        exact (Option.any_eq_true _ _).mp hit
  · intro kept head known
    rw [Bool.eq_iff_iff, List.any_eq_true]
    constructor
    · rintro ⟨row, listed, fresh⟩
      obtain ⟨completed, same⟩ := fresh_for_iff.mp fresh
      obtain ⟨stored, ofReport, phase⟩ := listed_localization.mp listed
      rw [← fresh_at_head known] at same
      obtain ⟨newest, latest, also⟩ := kept row stored ofReport phase completed same
      rw [current_of_latest latest]
      exact also
    · intro judged
      obtain ⟨newest, latest, fresh⟩ := (Option.any_eq_true _ _).mp judged
      rw [latest_localization_listed] at latest
      refine ⟨newest, List.mem_of_find?_eq_some latest, fresh_for_iff.mpr ⟨?_, ?_⟩⟩
      · simpa using List.find?_some latest
      · rw [← fresh_at_head known]
        exact fresh

theorem due_not_current (stored : db.projects.get report.projectId = some project) {settings : Settings}
    {now : Nat} (due : localizationDue settings now db report = .ok true) :
    current db report project = false := by
  simp only [localizationDue, stored] at due
  split at due
  · cases latest : Query.run (.latestCompletedLocalization report.id) db with
    | none => rw [current, latest, Option.any_none]
    | some row =>
        rw [latest] at due
        cases known : nonBlank project.headSha with
        | none =>
            simp only [relocalize, known] at due
            cases due
        | some head =>
            have judged := relocalize_judges latest known due
            simpa using judged.symm
  · cases due

theorem due_not_fixed (stored : db.projects.get report.projectId = some project) {settings : Settings}
    {now : Nat} (due : localizationDue settings now db report = .ok true) :
    fixDue settings now db report = false := by
  have stale := due_not_current stored due
  cases latest : Query.run (.latestCompletedLocalization report.id) db with
  | none =>
      unfold fixDue
      rw [stored, latest]
      simp
  | some row => rw [fix_due_judges stored latest, stale, Bool.and_false]

theorem not_skipped_eval {settings : Settings} {llm : Option LlmPin} {triggerRef : Option String}
    {head repoPath : String} {answers : (op : Op) → Except Exn op.Ans} (answered : AnsweredBy db answers)
    (head_read : answers (.remote (.getHeadSha repoPath)) = .ok head)
    (unfresh : (Query.run (.analysesForReport report.id (some .localization)) db).any (freshFor head) =
      false) :
    (localizeClaimed settings report.id report project repoPath llm triggerRef).eval answers ≠
      .ok .alreadyFresh := by
  have read : (remote (.getHeadSha repoPath)).eval answers = .ok head := (eval_perform _).trans head_read
  have listed : (analysesForReport report.id (some .localization)).eval answers =
      .ok (Query.run (.analysesForReport report.id (some .localization)) db) :=
    (eval_perform _).trans (answered (.analysesForReport report.id (some .localization)))
  intro skipped
  obtain ⟨sha, read', skipped⟩ := eval_bind_ok skipped
  rw [read] at read'
  cases read'
  obtain ⟨-, -, skipped⟩ := eval_bind_ok skipped
  obtain ⟨existing, listed', skipped⟩ := eval_bind_ok skipped
  rw [listed] at listed'
  cases listed'
  rw [unfresh, if_neg (by decide)] at skipped
  -- Every way through the rest ends in `completed`, or raises.
  obtain ⟨repoMap, -, skipped⟩ := eval_bind_ok skipped
  obtain ⟨triages, -, skipped⟩ := eval_bind_ok skipped
  obtain ⟨summary, -, skipped⟩ := eval_bind_ok skipped
  obtain ⟨-, -, skipped⟩ := eval_bind_ok skipped
  obtain ⟨-, -, skipped⟩ := eval_bind_ok skipped
  cases skipped

/-- The six places judge freshness by one rule exactly where no completed localization but the
newest is of the current head. -/
theorem one_judgement_iff (db : Database) (report : Report) (project : Project)
    (stored : db.projects.get report.projectId = some project) :
    OneJudgement db report project ↔ HeadNotRevisited db report project := by
  constructor
  · intro judgement
    exact skip_judges_iff.mp judgement.skipped
  · intro kept
    have skipped := skip_judges_iff.mpr kept
    exact
      { localizing := fun row head due latest known decided => relocalize_judges latest known decided
        fixing := fun settings now row latest => fix_due_judges stored latest
        requested := fun triaged answers answered => request_judges triaged answered
        rechecked := fun settings row repoPath latest cloned => recheck_judges latest cloned
        shown := fun real rows shows shown newest => by
          obtain ⟨row, found, same⟩ := (shown_newest shows.analyses).2 shown newest
          rw [← latest_localization_of_all] at found
          rw [shown_fresh shows same, current_of_latest found]
        skipped
        apart := fun settings now due => due_not_fixed stored due
        worked := fun settings now llm triggerRef head repoPath answers due known answered head_read => by
          refine not_skipped_eval answered head_read ?_
          rw [skipped head known]
          exact due_not_current stored due }

end Judgements

namespace Scenario

/-- The rows of a triaged report that was localized at these commits, oldest first. -/
def history (shas : List String) : List Analysis :=
  { localized 0 with id := "triage", phase := .triage, result := some (.obj [("summary", .str "s")]) } ::
    shas.zipIdx.map fun (sha, index) =>
      { localized (index + 1) with id := sha, result := some (.obj [("repo_sha", .str sha)]) }

def localizedAt (shas : List String) (distinct : ((history shas).map Analysis.id).Nodup) : Database :=
  { database .triaged .empty with stages := ⟨⟨history shas, distinct⟩, .empty, []⟩ }

theorem returned_distinct : ((history ["sha", "other"]).map Analysis.id).Nodup := by decide

theorem advanced_distinct : ((history ["other", "sha"]).map Analysis.id).Nodup := by decide

/-- The rows of the database, a clone at `sha`, and writes that succeed. -/
def answering (db : Database) : (op : Op) → Except Exn op.Ans
  | .query query => .ok (query.run db)
  | .remote (.getHeadSha _) => .ok "sha"
  | .project .. | .report _ => .ok true
  | .dbWriteLock => .ok ()
  | _ => .error (.plain "Error" "")

end Scenario

theorem one_judgement_iff_advanced :
    OneJudgement (Scenario.localizedAt ["other", "sha"] Scenario.advanced_distinct)
      (Scenario.report .triaged) Scenario.project := by
  apply (one_judgement_iff _ _ _ (by rfl)).mpr
  intro row stored ofReport phase completed fresh
  exact ⟨_, rfl, by decide⟩

/-- A head that came back: the report is due for a localization, and the localization is skipped. -/
theorem revisited_head_skipped :
    ¬∀ db report project, db.projects.get report.projectId = some project → OneJudgement db report project := by
  intro claim
  have judgement := claim (Scenario.localizedAt ["sha", "other"] Scenario.returned_distinct)
    (Scenario.report .triaged) Scenario.project (by rfl)
  have due : localizationDue Scenario.settings 0
      (Scenario.localizedAt ["sha", "other"] Scenario.returned_distinct) (Scenario.report .triaged) =
      .ok true := by rfl
  refine judgement.worked Scenario.settings 0 none none "sha" "/repos/p"
    (Scenario.answering (Scenario.localizedAt ["sha", "other"] Scenario.returned_distinct)) due (by rfl)
    (fun query => rfl) rfl ?_
  rfl

end Bugalizer
