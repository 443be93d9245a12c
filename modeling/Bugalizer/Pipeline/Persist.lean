import Bugalizer.Alone
import Bugalizer.Restart

/-!
# A fix that is cut off while it is stored

The last step of `propose_fix` is four statements that commit one by one. It can be cut off
between any two of them: a statement raises, and the stage's own handler runs on what has
been committed so far, or the process stops, and the next start does.
-/

namespace Bugalizer

set_option autoImplicit false

open Coroutine Program Store

/-- What a run of `propose_fix` brings to its last step. -/
structure Proposing where
  args : FixArgs
  report : Report
  analysis : Analysis
  response : LlmResponse
  validated : ValidatedProposal

namespace Proposing

def persist (run : Proposing) : Py String :=
  persistProposal run.args run.report run.analysis run.response run.validated

def completedFix (run : Proposing) : NewAnalysis :=
  { bugReportId := run.report.id, phase := .fix, status := .completed
    result := some run.validated.result, llmProvider := some run.response.provider
    llmModel := some run.response.model, promptTokens := run.response.promptTokens
    completionTokens := run.response.completionTokens, triggerRef := run.args.triggerRef }

def proposal (run : Proposing) : NewFixProposal :=
  { bugReportId := run.report.id, analysisId := run.analysis.id
    rootCause := run.validated.rootCause, explanation := run.validated.explanation
    diff := run.validated.diff, confidence := run.validated.confidence
    filesChanged := run.validated.filesChanged, triggerRef := run.args.triggerRef }

def usage (run : Proposing) : NewTokenUsage := fixUsage run.args run.report run.response

end Proposing

inductive Stored (run : Proposing) (before : Database) : Nat → Database → Prop
  | nothing : Stored run before 0 before
  | fix (id : String) (now : Nat) (analyses : Analyses)
      (inserted : before.stages.analyses.insert (run.completedFix.row id now) = some analyses) :
      Stored run before 1 { before with stages := { before.stages with analyses } }
  | proposal (db : Database) (earlier : Stored run before 1 db) (id : String) (now : Nat)
      (proposals : FixProposals)
      (inserted : db.stages.proposals.insert (run.proposal.row id now) = some proposals) :
      Stored run before 2 { db with stages := { db.stages with proposals } }
  | usage (db : Database) (earlier : Stored run before 2 db) (now : Nat) :
      Stored run before 3
        { db with stages := { db.stages with usage := db.stages.usage ++ [run.usage.row now] } }
  | status (db : Database) (earlier : Stored run before 3 db) (now : Nat) :
      Stored run before 4
        { db with
          reports := (ReportWrite.updateStatus run.report.id .fixProposed none none).apply now db.reports }

section Statements

variable (self : Nat) (run : Proposing) (start : Database)

abbrev Partly : World → Prop := fun point => ∃ count, Stored run start count point.db

abbrev Faulted : Exn → World → Prop := fun error _ => ∃ fault, error = .fault fault

variable {start} {before : World}

theorem fix_stored (entered : before.db = start) :
    (analysisCreate run.completedFix).Meets (Op.alone self) (Partly run start) before
      (fun _ after => Stored run start 1 after.db) Faulted := by
  subst entered
  apply meets_stage (alone_faithful self) ⟨0, .nothing⟩ _ fun fault => ⟨fault, rfl⟩
  intro clock id written applied
  obtain ⟨analyses, inserted, rfl⟩ := Option.map_eq_some_iff.mp applied
  have stored := Stored.fix id (before.now clock) analyses inserted
  exact ⟨⟨1, stored⟩, stored⟩

theorem proposal_stored (stored : Stored run start 1 before.db) :
    (fixProposalCreate run.proposal).Meets (Op.alone self) (Partly run start) before
      (fun _ after => Stored run start 2 after.db) Faulted := by
  apply meets_stage (alone_faithful self) ⟨1, stored⟩ _ fun fault => ⟨fault, rfl⟩
  intro clock id written applied
  obtain ⟨proposals, inserted, rfl⟩ := Option.map_eq_some_iff.mp applied
  have next := Stored.proposal before.db stored id (before.now clock) proposals inserted
  exact ⟨⟨2, next⟩, next⟩

theorem usage_stored (stored : Stored run start 2 before.db) :
    (tokenUsageCreate run.usage).Meets (Op.alone self) (Partly run start) before
      (fun _ after => Stored run start 3 after.db) Faulted := by
  apply meets_stage (alone_faithful self) ⟨2, stored⟩ _ fun fault => ⟨fault, rfl⟩
  intro clock id written applied
  cases applied
  have next := Stored.usage before.db stored (before.now clock)
  exact ⟨⟨3, next⟩, next⟩

/-- The statement commits before the row is read again, and the read can fail. -/
theorem status_stored (stored : Stored run start 3 before.db) :
    (setStatus run.report.id .fixProposed none).Meets (Op.alone self) (Partly run start) before
      (fun _ after => Stored run start 4 after.db) Faulted := by
  apply (meets_bind _ _ _ _).mpr
  apply (meets_bind _ _ _ _).mpr
  apply meets_report (alone_faithful self) ⟨3, stored⟩ _ fun fault => ⟨fault, rfl⟩
  intro clock
  have next := Stored.status before.db stored (before.now clock)
  refine ⟨⟨4, next⟩, ?_⟩
  apply meets_query (alone_faithful self) ⟨4, next⟩ _ fun fault => ⟨fault, rfl⟩
  exact ⟨⟨4, next⟩, next⟩

/-- Wherever the step is, it has come so far; it raises nothing but faults. -/
theorem persist_meets (before : World) :
    run.persist.Meets (Op.alone self) (Partly run before.db) before
      (fun _ after => Stored run before.db 4 after.db) Faulted := by
  unfold Proposing.persist persistProposal
  apply meets_write_lock (alone_faithful self)
  apply (meets_bind _ _ _ _).mpr
  apply (fix_stored self run rfl).mono _ fun _ _ _ raised => raised
  intro _ first _ stored
  apply (meets_bind _ _ _ _).mpr
  apply (proposal_stored self run stored).mono _ fun _ _ _ raised => raised
  intro _ second _ stored
  apply (meets_bind _ _ _ _).mpr
  apply (usage_stored self run stored).mono _ fun _ _ _ raised => raised
  intro _ third _ stored
  apply (meets_bind _ _ _ _).mpr
  apply (status_stored self run stored).mono _ fun _ _ _ raised => raised
  intro _ fourth _ stored
  exact ⟨⟨4, stored⟩, stored⟩

end Statements

section Prefix

variable {run : Proposing} {before after : Database} {count : Nat}

theorem stored_nothing (stored : Stored run before 0 after) : after = before := by
  cases stored
  rfl

theorem stored_fix (stored : Stored run before count after) (begun : 0 < count) :
    ∃ id now, before.stages.analyses.insert (run.completedFix.row id now) =
      some after.stages.analyses := by
  induction stored with
  | nothing => omega
  | fix id now analyses inserted => exact ⟨id, now, inserted⟩
  | proposal db earlier id now proposals inserted ih => exact ih (by omega)
  | usage db earlier now ih => exact ih (by omega)
  | status db earlier now ih => exact ih (by omega)

theorem stored_unspent (stored : Stored run before count after) (early : count < 3) :
    after.stages.usage = before.stages.usage := by
  induction stored with
  | nothing => rfl
  | fix id now analyses inserted => rfl
  | proposal db earlier id now proposals inserted ih => exact ih (by omega)
  | usage db earlier now ih => omega
  | status db earlier now ih => omega

theorem stored_proposal (stored : Stored run before count after) (proposed : 2 ≤ count) :
    ∃ id now, before.stages.proposals.insert (run.proposal.row id now) =
      some after.stages.proposals := by
  induction stored with
  | nothing => omega
  | fix id now analyses inserted => omega
  | proposal db earlier id now proposals inserted ih =>
      cases earlier
      exact ⟨id, now, inserted⟩
  | usage db earlier now ih => exact ih (by omega)
  | status db earlier now ih => exact ih (by omega)

theorem stored_spent (stored : Stored run before count after) (spent : 3 ≤ count) :
    ∃ now, after.stages.usage = before.stages.usage ++ [run.usage.row now] := by
  induction stored with
  | nothing => omega
  | fix id now analyses inserted => omega
  | proposal db earlier id now proposals inserted ih => omega
  | usage db earlier now ih => exact ⟨now, by rw [stored_unspent earlier (by omega)]⟩
  | status db earlier now ih => exact ih (by omega)

end Prefix

/-- The `except` clause for what a database call raises: a failed row, and the report handed
back if the claim on it still stands. -/
structure Handled (reportId : String) (point after : Database) : Prop where
  failed : ∃ row : Analysis, row.bugReportId = reportId ∧ row.phase = .fix ∧ row.status = .failed ∧
    point.stages.analyses.insert row = some after.stages.analyses
  proposals : after.stages.proposals = point.stages.proposals
  usage : after.stages.usage = point.stages.usage
  reports : ∃ now, after.reports =
    (ReportWrite.tryClaim reportId .fixProposing .triaged none).apply now point.reports

theorem fix_failed_meets (self : Nat) (reportId : String) (args : FixArgs) (fault : Fault)
    (point : World) :
    (fixFailed reportId args (.fault fault)).Meets (Op.alone self) (fun _ => True) point
      (fun _ after => Handled reportId point.db after.db) (fun _ _ => True) := by
  unfold fixFailed
  apply (meets_bind _ _ _ _).mpr
  apply meets_write_lock (alone_faithful self)
  apply (meets_bind _ _ _ _).mpr
  apply meets_outer (alone_faithful self) rfl trivial _ fun _ => trivial
  intro completedAt
  apply (meets_bind _ _ _ _).mpr
  apply meets_stage (alone_faithful self) trivial _ fun _ => trivial
  intro clock id written applied
  refine ⟨trivial, ?_⟩
  obtain ⟨analyses, inserted, rfl⟩ := Option.map_eq_some_iff.mp applied
  apply (meets_bind _ _ _ _).mpr
  apply meets_report (alone_faithful self) trivial _ fun _ => trivial
  intro later
  refine ⟨trivial, trivial, trivial, ?_⟩
  exact
    { failed := ⟨_, rfl, rfl, rfl, inserted⟩
      proposals := rfl
      usage := rfl
      reports := ⟨_, rfl⟩ }

/-- Who takes over: the stage's own handler, or the next start of the process. -/
inductive Recovery where
  | handler
  | restart (boot : Boot)

def Recovery.hands : Recovery → BugStatus → BugStatus
  | handler, status => if status = .fixProposing then .triaged else status
  | restart _, status => if status.stageClaim then status.rollback else status

/-- The step is cut off at `point`, and `after` is what the recovery makes of that. -/
inductive CutOff (self : Nat) (run : Proposing) (before : World) : Recovery → World → World → Prop
  | raised {point after : World} {error : Exn} {outcome : FixOutcome}
      (ran : run.persist.Runs (Op.alone self) before (.error error) point)
      (handled : (fixFailed run.report.id run.args error).Runs (Op.alone self) point
        (.ok outcome) after) :
      CutOff self run before .handler point after
  | stopped {point : World} (boot : Boot) (reached : run.persist.Reaches (Op.alone self) before point) :
      CutOff self run before (.restart boot) point (point.restart boot)

def statusIn (db : Database) (reportId : String) : Option BugStatus :=
  (db.reports.get reportId).map Report.status

def NewFix (status : AnalysisStatus) (reportId : String) (before after : Database) : Prop :=
  ∃ id row, after.stages.analyses.get id = some row ∧ before.stages.analyses.get id = none ∧
    row.bugReportId = reportId ∧ row.phase = .fix ∧ row.status = status

def NewProposal (reportId : String) (before after : Database) : Prop :=
  ∃ id row, after.stages.proposals.get id = some row ∧ before.stages.proposals.get id = none ∧
    row.bugReportId = reportId

structure Undone (reportId : String) (before after : Database) : Prop where
  status : statusIn after reportId = some .triaged
  proposal : ¬NewProposal reportId before after
  completed : ¬NewFix .completed reportId before after

/-- Everything of the run, and no failure beside it. -/
structure Whole (run : Proposing) (before after : Database) : Prop where
  status : statusIn after run.report.id = some .fixProposed
  completed : ∃ id now, after.stages.analyses.get id = some (run.completedFix.row id now) ∧
    before.stages.analyses.get id = none
  proposal : ∃ id now, after.stages.proposals.get id = some (run.proposal.row id now) ∧
    before.stages.proposals.get id = none
  usage : ∃ now, after.stages.usage = before.stages.usage ++ [run.usage.row now]
  failed : ¬NewFix .failed run.report.id before after

def AsOne (run : Proposing) (before after : Database) : Prop :=
  Undone run.report.id before after ∨ Whole run before after

/-- The step is cut off before its first statement, on a report the recovery hands back; or
the process stops with the spend recorded and the report in `fix_proposed`. -/
def CleanCut (run : Proposing) (recovery : Recovery) (before point : Database) : Prop :=
  (point.stages = before.stages ∧
    (statusIn before run.report.id).map recovery.hands = some .triaged) ∨
  ((∃ boot, recovery = .restart boot) ∧ point.stages.usage ≠ before.stages.usage ∧
    statusIn point run.report.id = some .fixProposed)

structure Recovered (recovery : Recovery) (reportId : String) (point after : Database) : Prop where
  status : statusIn after reportId = (statusIn point reportId).map recovery.hands
  kept : ∀ id row, point.stages.analyses.get id = some row → row.status = .completed →
    after.stages.analyses.get id = some row
  made : ∀ id row, after.stages.analyses.get id = some row → row.status = .completed →
    point.stages.analyses.get id = some row
  proposals : after.stages.proposals = point.stages.proposals
  usage : after.stages.usage = point.stages.usage

theorem handled_recovered {reportId : String} {point after : Database}
    (handled : Handled reportId point after) : Recovered .handler reportId point after := by
  obtain ⟨failure, -, -, failed, inserted⟩ := handled.failed
  have seen := Table.get_insert inserted
  refine ⟨?_, ?_, ?_, handled.proposals, handled.usage⟩
  · obtain ⟨now, reports⟩ := handled.reports
    rw [statusIn, statusIn, reports, ReportWrite.get_apply, Option.map_map, Option.map_map]
    congr 1
    funext row
    by_cases claimed : row.status = .fixProposing
    · simp [ReportWrite.reportId, ReportWrite.condition, ReportWrite.change, Recovery.hands, claimed]
    · simp [ReportWrite.condition, Recovery.hands, claimed]
  · intro id row found completed
    rw [seen, if_neg]
    · exact found
    · intro same
      rw [← same, Table.insert_free inserted] at found
      cases found
  · intro id row found completed
    rw [seen] at found
    split at found
    · cases found
      rw [failed] at completed
      cases completed
    · exact found

theorem restart_recovered (boot : Boot) (reportId : String) (point : World) :
    Recovered (.restart boot) reportId point.db (point.restart boot).db := by
  simp only [World.restart]
  refine ⟨?_, ?_, ?_, rfl, rfl⟩
  · rw [statusIn, statusIn, restart_reports, Option.map_map, Option.map_map]
    congr 1
    funext row
    by_cases claimed : row.status.stageClaim = true
    · simp [Recovery.hands, claimed]
    · simp [Recovery.hands, claimed]
  · intro id row found completed
    simp only [releaseOrphanedClaims]
    rw [record_interrupted_fix_eq]
    apply record_from_keeps
    apply fail_running_keeps found
    rw [completed]
    decide
  · intro id row found completed
    simp only [releaseOrphanedClaims] at found
    rw [record_interrupted_fix_eq] at found
    obtain before | ⟨other, -, rfl⟩ := record_from_only found
    · rw [failRunning, Table.get_update_all, Option.map_eq_some_iff] at before
      obtain ⟨old, present, same⟩ := before
      split at same
      · rw [← same] at completed
        cases completed
      · rw [← same]
        exact present
    · cases completed

/-- A restart makes no failed fix of a report that is not in `fix_proposing`. -/
theorem restart_spares {boot : Boot} {reportId : String} {point : Database}
    (status : statusIn point reportId = some .fixProposed) {id : String} {row : Analysis}
    (found : (releaseOrphanedClaims boot.clock boot.fresh point).stages.analyses.get id = some row)
    (own : row.bugReportId = reportId) :
    (failRunning boot.clock point.stages.analyses).get id = some row := by
  simp only [releaseOrphanedClaims] at found
  rw [record_interrupted_fix_eq] at found
  obtain before | ⟨other, member, rfl⟩ := record_from_only found
  · exact before
  · obtain ⟨report, listed, same⟩ := List.mem_map.mp member
    have fixing := Table.mem_select.mp listed
    rw [statusIn, ← own, show (interruptedFix boot.clock id other).bugReportId = report.id from same.symm,
      fixing.1] at status
    simp only [Option.map_some, Option.some.injEq] at status
    rw [status] at fixing
    cases fixing.2

section AsOne

variable {run : Proposing} {recovery : Recovery} {before point after : Database} {count : Nat}

theorem stored_same_iff (stored : Stored run before count point) :
    point.stages = before.stages ↔ count = 0 := by
  constructor
  · intro same
    by_contra begun
    obtain ⟨id, now, inserted⟩ := stored_fix stored (by omega)
    have free := Table.insert_free inserted
    rw [← same, Table.get_insert inserted, if_pos rfl] at free
    cases free
  · intro none
    subst none
    rw [stored_nothing stored]

theorem stored_spent_iff (stored : Stored run before count point) :
    point.stages.usage ≠ before.stages.usage ↔ 3 ≤ count := by
  constructor
  · intro changed
    by_contra early
    exact changed (stored_unspent stored (by omega))
  · intro spent same
    obtain ⟨now, usage⟩ := stored_spent stored spent
    rw [usage] at same
    simpa using congrArg List.length same

theorem completed_recovered (stored : Stored run before count point) (begun : 0 < count)
    (recovered : Recovered recovery run.report.id point after) :
    ∃ id now, after.stages.analyses.get id = some (run.completedFix.row id now) ∧
      before.stages.analyses.get id = none := by
  obtain ⟨id, now, inserted⟩ := stored_fix stored begun
  refine ⟨id, now, ?_, Table.insert_free inserted⟩
  apply recovered.kept _ _ _ rfl
  rw [Table.get_insert inserted]
  exact if_pos rfl

theorem undone_iff (stored : Stored run before count point)
    (recovered : Recovered recovery run.report.id point after) :
    Undone run.report.id before after ↔
      count = 0 ∧ (statusIn before run.report.id).map recovery.hands = some .triaged := by
  constructor
  · intro undone
    have none : count = 0 := by
      by_contra begun
      obtain ⟨id, now, found, free⟩ := completed_recovered stored (by omega) recovered
      exact undone.completed ⟨id, _, found, free, rfl, rfl, rfl⟩
    subst none
    have status := undone.status
    rw [recovered.status, stored_nothing stored] at status
    exact ⟨rfl, status⟩
  · intro clean
    obtain ⟨rfl, handed⟩ := clean
    have same := stored_nothing stored
    subst same
    refine ⟨?_, ?_, ?_⟩
    · rw [recovered.status]
      exact handed
    · intro proposed
      obtain ⟨id, row, found, free, -⟩ := proposed
      rw [recovered.proposals, free] at found
      cases found
    · intro fixed
      obtain ⟨id, row, found, free, -, -, completed⟩ := fixed
      rw [recovered.made id row found completed] at free
      cases free

theorem hands_fix_proposed {status : BugStatus} (handed : recovery.hands status = .fixProposed) :
    status = .fixProposed := by
  cases recovery <;> cases status <;> first | rfl | cases handed

/-- No recovery makes a status `fix_proposed` that was not. -/
theorem proposed_recovered (recovered : Recovered recovery run.report.id point after) :
    statusIn after run.report.id = some .fixProposed ↔
      statusIn point run.report.id = some .fixProposed := by
  rw [recovered.status]
  constructor
  · intro handed
    obtain ⟨status, found, same⟩ := Option.map_eq_some_iff.mp handed
    rw [found, hands_fix_proposed same]
  · intro found
    rw [found]
    cases recovery <;> rfl

theorem handled_fails (stored : Stored run before count point)
    (handled : Handled run.report.id point after) : NewFix .failed run.report.id before after := by
  obtain ⟨failure, own, phase, failed, inserted⟩ := handled.failed
  refine ⟨failure.id, failure, ?_, ?_, own, phase, failed⟩
  · rw [Table.get_insert inserted]
    exact if_pos rfl
  · have free := Table.insert_free inserted
    by_cases begun : 0 < count
    · obtain ⟨id, now, stored⟩ := stored_fix stored begun
      rw [Table.get_insert stored] at free
      split at free
      · cases free
      · exact free
    · have none : count = 0 := by omega
      subst none
      rw [stored_nothing stored] at free
      exact free

theorem whole_restarted_iff {boot : Boot} {point : World} (stored : Stored run before count point.db) :
    Whole run before (point.restart boot).db ↔
      3 ≤ count ∧ statusIn point.db run.report.id = some .fixProposed := by
  have recovered := restart_recovered boot run.report.id point
  constructor
  · intro whole
    refine ⟨(stored_spent_iff stored).mp ?_, (proposed_recovered recovered).mp whole.status⟩
    intro same
    obtain ⟨now, usage⟩ := whole.usage
    rw [recovered.usage, same] at usage
    simpa using congrArg List.length usage
  · intro kept
    obtain ⟨spent, status⟩ := kept
    refine ⟨(proposed_recovered recovered).mpr status,
      completed_recovered stored (by omega) recovered, ?_, ?_, ?_⟩
    · obtain ⟨id, now, inserted⟩ := stored_proposal stored (by omega)
      refine ⟨id, now, ?_, Table.insert_free inserted⟩
      rw [recovered.proposals, Table.get_insert inserted]
      exact if_pos rfl
    · rw [recovered.usage]
      exact stored_spent stored spent
    · intro fixed
      obtain ⟨id, row, found, free, own, -, failed⟩ := fixed
      have present := restart_spares status found own
      rw [failRunning, Table.get_update_all, Option.map_eq_some_iff] at present
      obtain ⟨old, there, same⟩ := present
      obtain ⟨made, now, inserted⟩ := stored_fix stored (by omega)
      rw [Table.get_insert inserted, free] at there
      split at there
      · cases there
        rw [← same] at failed
        cases failed
      · cases there

/-- The stored step and the recovery after it stand or fall together exactly when the cut is
clean. -/
theorem cut_as_one_iff {self : Nat} {before point after : World}
    (cut : CutOff self run before recovery point after) :
    AsOne run before.db after.db ↔ CleanCut run recovery before.db point.db := by
  have met := persist_meets self run before
  cases cut with
  | raised ran handled =>
      obtain ⟨fault, rfl⟩ := met.raised ran
      obtain ⟨count, stored⟩ := met.reached ran.reaches
      have failure := (fix_failed_meets self run.report.id run.args fault point).returned handled
      have recovered := handled_recovered failure
      rw [AsOne, CleanCut, undone_iff stored recovered, stored_same_iff stored]
      constructor
      · intro kept
        obtain clean | whole := kept
        · exact .inl clean
        · exact absurd (handled_fails stored failure) whole.failed
      · intro kept
        obtain clean | ⟨⟨boot, other⟩, -⟩ := kept
        · exact .inl clean
        · cases other
  | stopped boot reached =>
      obtain ⟨count, stored⟩ := met.reached reached
      have recovered := restart_recovered boot run.report.id point
      rw [AsOne, CleanCut, undone_iff stored recovered, stored_same_iff stored,
        stored_spent_iff stored, whole_restarted_iff stored]
      apply or_congr_right
      exact (and_iff_right ⟨boot, rfl⟩).symm

end AsOne

namespace Scenario

/-- A fix of the report that is about to be stored. -/
def proposing : Proposing where
  args := {}
  report := report .fixProposing
  analysis := localized 0
  response :=
    { content := "", model := "claude", provider := "anthropic"
      promptTokens := 10, completionTokens := 5 }
  validated :=
    { rootCause := "cause", explanation := "because", diff := "diff", confidence := "0.9"
      filesChanged := ["a.py"], result := .obj [("confidence", .str "0.9")] }

/-- Only the first of the four statements has committed. -/
def halfStored : World :=
  { (world (interrupted 0)).stamp 1 with
    db := { interrupted 0 with
      stages := ⟨⟨[localized 0, proposing.completedFix.row "id" 1], by decide⟩, .empty, []⟩ } }

end Scenario

/-- The process stops before the first statement. -/
theorem cut_as_one_iff_at_once :
    AsOne Scenario.proposing (Scenario.interrupted 0)
      ((Scenario.world (Scenario.interrupted 0)).restart (Scenario.bootAt 9)).db := by
  have cut : CutOff 0 Scenario.proposing (Scenario.world (Scenario.interrupted 0))
      (.restart (Scenario.bootAt 9)) (Scenario.world (Scenario.interrupted 0)) _ :=
    .stopped (Scenario.bootAt 9) (.inl rfl)
  apply (cut_as_one_iff cut).mpr
  exact .inl ⟨rfl, by decide⟩

/-- The process stops between the first statement and the second: the report goes back to
`triaged` and keeps a completed fix beside the failed one. -/
theorem stop_leaves_half :
    ∃ after, CutOff 0 Scenario.proposing (Scenario.world (Scenario.interrupted 0))
        (.restart (Scenario.bootAt 9)) Scenario.halfStored after ∧
      ¬AsOne Scenario.proposing (Scenario.interrupted 0) after.db := by
  refine ⟨_, .stopped _ (.inr ⟨.ok (), _, ⟨0, ⟨none, 0, ""⟩, rfl⟩,
    .inr ⟨.ok "id", _, ⟨0, ⟨none, 1, "id"⟩, rfl⟩, .inl rfl⟩⟩), ?_⟩
  intro one
  obtain undone | whole := one
  · apply undone.completed
    exact ⟨"id", Scenario.proposing.completedFix.row "id" 1, by rfl, by rfl, rfl, rfl, rfl⟩
  · have status := whole.status
    revert status
    decide

end Bugalizer
