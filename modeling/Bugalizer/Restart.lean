import Bugalizer.Pipeline.Eligibility
import Bugalizer.Scenario

/-!
# What a restart makes of an interrupted fix

The paid call of a report found in `fix_proposing` may have been billed, so the restart
records a permanent failure and hands the report back: it is not to be sampled again before
somebody resets its failed rows or a newer localization completes. The gate that is to hold
it back compares the failure's `created_at` with the localization's, and the clock of the
new process need not read later than the rows it finds.
-/

namespace Bugalizer

set_option autoImplicit false

open Store

/-- The ids a restart draws: distinct, and none of them taken. -/
structure FreshIds (fresh : Nat → String) (db : Database) : Prop where
  distinct : Function.Injective fresh
  untaken : ∀ index, db.stages.analyses.get (fresh index) = none

/-- `recordInterruptedFix`, as a recursion. -/
def recordFrom (now : Nat) (fresh : Nat → String) : List String → Nat → Analyses → Analyses
  | [], _, analyses => analyses
  | reportId :: reportIds, start, analyses =>
      recordFrom now fresh reportIds (start + 1)
        ((analyses.insert (interruptedFix now (fresh start) reportId)).getD analyses)

theorem record_interrupted_fix_eq (now : Nat) (reportIds : List String) (fresh : Nat → String)
    (analyses : Analyses) :
    recordInterruptedFix now reportIds fresh analyses = recordFrom now fresh reportIds 0 analyses := by
  unfold recordInterruptedFix
  generalize 0 = start
  induction reportIds generalizing start analyses with
  | nil => rfl
  | cons reportId reportIds ih =>
      rw [List.zipIdx_cons, List.foldl_cons, recordFrom]
      exact ih _ (start + 1)

structure FixesAdded (now : Nat) (reportIds : List String) (before after : Analyses) : Prop where
  kept : ∀ id row, before.get id = some row → after.get id = some row
  made : ∀ reportId ∈ reportIds, ∃ id, after.get id = some (interruptedFix now id reportId)
  only : ∀ id row, after.get id = some row →
    before.get id = some row ∨ ∃ reportId, row = interruptedFix now id reportId
  unseen : ∀ wanted : Analysis → Bool,
    (∀ id reportId, wanted (interruptedFix now id reportId) = false) →
      after.select wanted = before.select wanted

theorem record_from_adds {now : Nat} {fresh : Nat → String} (distinct : Function.Injective fresh)
    (reportIds : List String) (start : Nat) (analyses : Analyses)
    (untaken : ∀ index, start ≤ index → analyses.get (fresh index) = none) :
    FixesAdded now reportIds analyses (recordFrom now fresh reportIds start analyses) := by
  induction reportIds generalizing start analyses with
  | nil =>
      exact
        { kept := fun id row found => found
          made := fun reportId member => by cases member
          only := fun id row found => .inl found
          unseen := fun wanted apart => rfl }
  | cons reportId reportIds ih =>
      have free := untaken start le_rfl
      obtain ⟨next, inserted⟩ :
          ∃ next, analyses.insert (interruptedFix now (fresh start) reportId) = some next :=
        Table.insert_of_free free
      have seen : ∀ id, next.get id =
          if fresh start = id then some (interruptedFix now (fresh start) reportId)
          else analyses.get id := Table.get_insert inserted
      have later : ∀ index, start + 1 ≤ index → next.get (fresh index) = none := by
        intro index bound
        have other : fresh start ≠ fresh index := by
          intro same
          have := distinct same
          omega
        rw [seen, if_neg other]
        exact untaken index (by omega)
      have rest := ih (start + 1) next later
      rw [recordFrom, inserted, Option.getD_some]
      refine ⟨?_, ?_, ?_, ?_⟩
      · intro id row found
        have other : fresh start ≠ id := by
          intro same
          rw [same, found] at free
          cases free
        apply rest.kept
        rw [seen, if_neg other]
        exact found
      · intro wanted member
        rcases List.mem_cons.mp member with rfl | member
        · have first := seen (fresh start)
          rw [if_pos rfl] at first
          exact ⟨fresh start, rest.kept _ _ first⟩
        · exact rest.made wanted member
      · intro id row found
        rcases rest.only id row found with before | recorded
        · rw [seen] at before
          by_cases same : fresh start = id
          · rw [if_pos same, same] at before
            cases before
            exact .inr ⟨reportId, rfl⟩
          · rw [if_neg same] at before
            exact .inl before
        · exact .inr recorded
      · intro wanted apart
        rw [rest.unseen wanted apart, Table.select_insert inserted (apart _ _)]

/-- A row that is there stays, whatever ids are drawn. -/
theorem record_from_keeps {now : Nat} {fresh : Nat → String} {reportIds : List String} {start : Nat}
    {analyses : Analyses} {id : String} {row : Analysis} (found : analyses.get id = some row) :
    (recordFrom now fresh reportIds start analyses).get id = some row := by
  induction reportIds generalizing start analyses with
  | nil => exact found
  | cons reportId reportIds ih =>
      rw [recordFrom]
      apply ih
      cases inserted : analyses.insert (interruptedFix now (fresh start) reportId) with
      | none => exact found
      | some next =>
          have free := Table.insert_free inserted
          have other : fresh start ≠ id := by
            intro same
            rw [show (interruptedFix now (fresh start) reportId).id = fresh start from rfl, same,
              found] at free
            cases free
          rw [Option.getD_some, Table.get_insert inserted, if_neg]
          · exact found
          · exact other

theorem record_from_only {now : Nat} {fresh : Nat → String} {reportIds : List String} {start : Nat}
    {analyses : Analyses} {id : String} {row : Analysis}
    (found : (recordFrom now fresh reportIds start analyses).get id = some row) :
    analyses.get id = some row ∨ ∃ reportId ∈ reportIds, row = interruptedFix now id reportId := by
  induction reportIds generalizing start analyses with
  | nil => exact .inl found
  | cons reportId reportIds ih =>
      rw [recordFrom] at found
      obtain earlier | ⟨other, member, same⟩ := ih found
      · cases inserted : analyses.insert (interruptedFix now (fresh start) reportId) with
        | none =>
            rw [inserted] at earlier
            exact .inl earlier
        | some next =>
            rw [inserted, Option.getD_some, Table.get_insert inserted] at earlier
            split at earlier
            · rename_i here
              cases earlier
              exact .inr ⟨reportId, List.mem_cons_self, by rw [← here]; rfl⟩
            · exact .inl earlier
      · exact .inr ⟨other, List.mem_cons_of_mem _ member, same⟩

theorem restart_reports (now : Nat) (fresh : Nat → String) (db : Database) (id : String) :
    (releaseOrphanedClaims now fresh db).reports.get id =
      (db.reports.get id).map fun row =>
        if row.status.stageClaim then { row with status := row.status.rollback, updatedAt := now }
        else row := by
  simp only [releaseOrphanedClaims, rollBackClaims]
  rw [Table.get_update_all]

/-- The analyses a restart leaves: the running ones failed, and one row more for each report
found in `fix_proposing`. -/
theorem restart_analyses {boot : Boot} {db : Database} (ids : FreshIds boot.fresh db) :
    FixesAdded boot.clock ((db.reports.select fun row => row.status == .fixProposing).map Report.id)
      (failRunning boot.clock db.stages.analyses)
      (releaseOrphanedClaims boot.clock boot.fresh db).stages.analyses := by
  simp only [releaseOrphanedClaims]
  rw [record_interrupted_fix_eq]
  apply record_from_adds ids.distinct
  intro index _
  rw [failRunning, Table.get_update_all, ids.untaken index]
  rfl

theorem fail_running_keeps {now : Nat} {analyses : Analyses} {id : String} {row : Analysis}
    (found : analyses.get id = some row) (stopped : row.status ≠ .running) :
    (failRunning now analyses).get id = some row := by
  rw [failRunning, Table.get_update_all, found, Option.map_some, if_neg]
  simpa using stopped

/-- A row that failed by the restart carries no `permanent` mark of its own. -/
theorem fail_running_only {now : Nat} {analyses : Analyses} {id : String} {row : Analysis}
    (found : (failRunning now analyses).get id = some row) :
    row.status ≠ .running ∧ (analyses.get id = some row ∨ permanentFailure row = false) := by
  rw [failRunning, Table.get_update_all, Option.map_eq_some_iff] at found
  obtain ⟨before, present, rfl⟩ := found
  by_cases running : before.status = .running
  · simp [running, permanentFailure, Json.get, Json.field?, List.lookup, Json.truthy]
  · simp [running, present]

theorem no_claim_left (now : Nat) (fresh : Nat → String) (db : Database) {id : String}
    {row : Report} (found : (releaseOrphanedClaims now fresh db).reports.get id = some row) :
    row.status.stageClaim = false := by
  rw [restart_reports, Option.map_eq_some_iff] at found
  obtain ⟨before, -, rfl⟩ := found
  by_cases claimed : before.status.stageClaim = true
  · rw [if_pos claimed]
    exact rollback_leaves_claims before.status
  · rw [if_neg claimed]
    simpa using claimed

theorem none_left_running {boot : Boot} {db : Database} (ids : FreshIds boot.fresh db)
    {id : String} {row : Analysis}
    (found : (releaseOrphanedClaims boot.clock boot.fresh db).stages.analyses.get id = some row) :
    row.status ≠ .running := by
  rcases (restart_analyses ids).only id row found with failed | ⟨reportId, rfl⟩
  · exact (fail_running_only failed).1
  · intro running
    cases running

/-- A restart on a database without claims and running rows changes nothing. -/
theorem release_settled (now : Nat) (fresh : Nat → String) {db : Database}
    (unclaimed : ∀ row ∈ db.reports.rows, row.status.stageClaim = false)
    (stopped : ∀ row ∈ db.stages.analyses.rows, row.status ≠ .running) :
    releaseOrphanedClaims now fresh db = db := by
  have none_fixing : (db.reports.select fun row => row.status == .fixProposing) = [] := by
    rw [Table.select, List.filter_eq_nil_iff]
    intro row member fixing
    have status : row.status = .fixProposing := by simpa using fixing
    have left := unclaimed row member
    rw [status] at left
    cases left
  have same_reports : rollBackClaims now db.reports = db.reports :=
    Table.update_all_unhit _ _ unclaimed
  have same_analyses : failRunning now db.stages.analyses = db.stages.analyses :=
    Table.update_all_unhit _ _ (by simpa using stopped)
  simp only [releaseOrphanedClaims, none_fixing, List.map_nil, same_reports, same_analyses]
  rfl

theorem release_twice {boot : Boot} {db : Database} (ids : FreshIds boot.fresh db) (now : Nat)
    (fresh : Nat → String) :
    releaseOrphanedClaims now fresh (releaseOrphanedClaims boot.clock boot.fresh db) =
      releaseOrphanedClaims boot.clock boot.fresh db := by
  apply release_settled
  · intro row member
    exact no_claim_left boot.clock boot.fresh db (Table.mem_get member)
  · intro row member
    exact none_left_running ids (Table.mem_get member)

theorem restart_keeps_localization {boot : Boot} {db : Database} (ids : FreshIds boot.fresh db)
    (reportId : String) :
    Query.run (.latestCompletedLocalization reportId)
        (releaseOrphanedClaims boot.clock boot.fresh db) =
      Query.run (.latestCompletedLocalization reportId) db := by
  simp only [Query.run]
  rw [(restart_analyses ids).unseen _ (by intro id wanted; simp [interruptedFix]), failRunning,
    Table.select_update_all]
  intro row _ running
  have status : row.status = .running := by simpa using running
  simp [status]

/-- `after` is a later database in which nobody reset the report's failed fixes and no newer
localization of it completed. A proposal is never removed. -/
structure Standing (reportId : String) (before after : Database) : Prop where
  failures : ∀ row, before.stages.analyses.get row.id = some row → row.bugReportId = reportId →
    row.phase = .fix → row.status = .failed → after.stages.analyses.get row.id = some row
  localization : Query.run (.latestCompletedLocalization reportId) after =
    Query.run (.latestCompletedLocalization reportId) before
  proposals : ∀ analysisId, proposedFor reportId analysisId before = true →
    proposedFor reportId analysisId after = true

/-- What a restart on `db` is to leave behind. -/
structure RestartLaw (boot : Boot) (db : Database) : Prop where
  unclaimed : ∀ id row,
    (releaseOrphanedClaims boot.clock boot.fresh db).reports.get id = some row →
      row.status.stageClaim = false
  stopped : ∀ id row,
    (releaseOrphanedClaims boot.clock boot.fresh db).stages.analyses.get id = some row →
      row.status ≠ .running
  settled : ∀ now fresh,
    releaseOrphanedClaims now fresh (releaseOrphanedClaims boot.clock boot.fresh db) =
      releaseOrphanedClaims boot.clock boot.fresh db
  parked : ∀ id report, db.reports.get id = some report → report.status = .fixProposing →
    ∀ after, Standing id (releaseOrphanedClaims boot.clock boot.fresh db) after →
      ∀ settings now, id ∉ (reportsEligibleForFix settings now after).map Report.id

/-- A localization the worker could still send to the paid model: it names a commit, has no
proposal, and no permanent failure came after it. -/
structure Proposable (db : Database) (reportId : String) (localization : Analysis) : Prop where
  current : Query.run (.latestCompletedLocalization reportId) db = some localization
  fresh : ∃ head, head ≠ "" ∧ (localizationSha localization).isStr head = true
  unproposed : proposedFor reportId localization.id db = false
  transient : ∀ row ∈ failedFixes reportId localization.createdAt db, permanentFailure row = false

/-- The clock of the restart reads later than every localization an interrupted fix used. -/
def ClockRanOn (clock : Nat) (db : Database) : Prop :=
  ∀ id report, db.reports.get id = some report → report.status = .fixProposing →
    ∀ localization, Proposable db id localization → localization.createdAt < clock

theorem interrupted_fix_is_permanent (now : Nat) (id reportId : String) :
    permanentFailure (interruptedFix now id reportId) = true := by
  rfl

theorem restart_keeps_failures {boot : Boot} {db : Database} (ids : FreshIds boot.fresh db)
    {row : Analysis} (found : db.stages.analyses.get row.id = some row) (failed : row.status = .failed) :
    (releaseOrphanedClaims boot.clock boot.fresh db).stages.analyses.get row.id = some row := by
  apply (restart_analyses ids).kept
  apply fail_running_keeps found
  rw [failed]
  intro same
  cases same

theorem restart_parks {boot : Boot} {db : Database} (ids : FreshIds boot.fresh db)
    (ran_on : ClockRanOn boot.clock db) {id : String} {report : Report}
    (present : db.reports.get id = some report) (fixing : report.status = .fixProposing)
    {after : Database}
    (standing : Standing id (releaseOrphanedClaims boot.clock boot.fresh db) after)
    (settings : Settings) (now : Nat) :
    id ∉ (reportsEligibleForFix settings now after).map Report.id := by
  intro member
  obtain ⟨row, eligible, same⟩ := List.mem_map.mp member
  have due := (mem_eligible_for_fix.mp eligible).2
  subst same
  simp only [fixDue, Bool.and_eq_true, Option.any_eq_true, Bool.not_eq_true'] at due
  obtain ⟨-, project, -, localization, latest, ⟨fresh, unproposed⟩, unblocked⟩ := due
  have current : Query.run (.latestCompletedLocalization row.id) db = some localization := by
    rw [← restart_keeps_localization ids, ← standing.localization]
    exact latest
  -- Any permanent failure that the restart leaves behind the localization shuts the gate.
  have shut : ∀ failure : Analysis,
      (releaseOrphanedClaims boot.clock boot.fresh db).stages.analyses.get failure.id =
        some failure → failure.bugReportId = row.id → failure.phase = .fix →
      failure.status = .failed → permanentFailure failure = true →
      ¬localization.createdAt < failure.createdAt := by
    intro failure left ofReport phase failed permanent later
    have counted : failure ∈ failedFixes row.id localization.createdAt after :=
      mem_failed_fixes.mpr ⟨standing.failures failure left ofReport phase failed, ofReport, phase,
        failed, later⟩
    rw [permanent_failure_blocks counted permanent] at unblocked
    cases unblocked
  have recorded : boot.clock ≤ localization.createdAt := by
    have key := Table.get_key present
    have claimed : row.id ∈
        (db.reports.select fun row => row.status == .fixProposing).map Report.id := by
      rw [← key]
      apply List.mem_map_of_mem
      rw [Table.mem_select, key]
      exact ⟨present, by simp [fixing]⟩
    obtain ⟨made, left⟩ := (restart_analyses ids).made row.id claimed
    have counted := shut (interruptedFix boot.clock made row.id) left rfl rfl rfl
      (interrupted_fix_is_permanent boot.clock made row.id)
    simpa [interruptedFix] using counted
  have proposable : Proposable db row.id localization := by
    refine ⟨current, ?_, ?_, ?_⟩
    · simp only [freshAt, Option.any_eq_true, Bool.and_eq_true] at fresh
      obtain ⟨head, -, nonempty, named⟩ := fresh
      exact ⟨head, by simpa using nonempty, named⟩
    · cases before : proposedFor row.id localization.id db with
      | false => rfl
      | true =>
          rw [standing.proposals localization.id before] at unproposed
          cases unproposed
    · intro failure counted
      obtain ⟨found, ofReport, phase, failed, later⟩ := mem_failed_fixes.mp counted
      by_contra permanent
      exact shut failure (restart_keeps_failures ids found failed) ofReport phase failed
        (by simpa using permanent) later
  have := ran_on row.id report present fixing localization proposable
  omega

/-- The restarted database when the report's project stands at `head` and nothing else keeps
the report from being sampled. -/
def sampledAt (boot : Boot) (db : Database) (report : Report) (head : String) : Database :=
  { releaseOrphanedClaims boot.clock boot.fresh db with
    reports := ⟨[{ report with
      status := .triaged, analysisMode := .null, resolutionReason := none }], List.nodup_singleton _⟩
    projects := ⟨[{ Scenario.project with
      id := report.projectId, headSha := some head }], List.nodup_singleton _⟩ }

theorem early_restart_counts_none {boot : Boot} {db : Database} (ids : FreshIds boot.fresh db)
    {id : String} {localization : Analysis} (proposable : Proposable db id localization)
    (early : boot.clock ≤ localization.createdAt) :
    ∀ row ∈ failedFixes id localization.createdAt (releaseOrphanedClaims boot.clock boot.fresh db),
      permanentFailure row = false := by
  intro row counted
  obtain ⟨found, ofReport, phase, failed, later⟩ := mem_failed_fixes.mp counted
  rcases (restart_analyses ids).only row.id row found with stopped | ⟨reportId, made⟩
  · rcases (fail_running_only stopped).2 with before | transient
    · exact proposable.transient row
        (mem_failed_fixes.mpr ⟨before, ofReport, phase, failed, later⟩)
    · exact transient
  · have stamp : row.createdAt = boot.clock := by
      rw [made]
      rfl
    omega

theorem parked_needs_clock {boot : Boot} {db : Database} (ids : FreshIds boot.fresh db)
    (law : RestartLaw boot db) : ClockRanOn boot.clock db := by
  intro id report present fixing localization proposable
  by_contra late
  have early : boot.clock ≤ localization.createdAt := by omega
  obtain ⟨head, nonempty, named⟩ := proposable.fresh
  have key := Table.get_key present
  let after := sampledAt boot db report head
  let failed := failedFixes id localization.createdAt after
  let settings := { Scenario.settings with
    retryDelaySeconds := 0, maxFixRetries := failed.length + 1 }
  have standing : Standing id (releaseOrphanedClaims boot.clock boot.fresh db) after :=
    { failures := by
        intro row found _ _ _
        exact found
      localization := rfl
      proposals := by
        intro analysisId before
        exact before }
  have current : Query.run (.latestCompletedLocalization id) after = some localization := by
    rw [standing.localization, restart_keeps_localization ids]
    exact proposable.current
  have open_gate : retryBlocked failed settings.maxFixRetries settings.retryDelaySeconds 0 = false :=
    roomy_budget_opens (early_restart_counts_none ids proposable early)
      (lt_add_one _) 0
  have unproposed : proposedFor id localization.id after = false := proposable.unproposed
  have named_head : freshAt { Scenario.project with
      id := report.projectId, headSha := some head } localization = true := by
    simp [freshAt, nonempty, named]
  apply law.parked id report present fixing after standing settings 0
  rw [List.mem_map]
  refine ⟨{ report with
    status := .triaged, analysisMode := .null, resolutionReason := none }, ?_, key⟩
  rw [mem_eligible_for_fix]
  subst key
  constructor
  · simp [after, sampledAt, Table.get]
  · have project : after.projects.get report.projectId = some { Scenario.project with
        id := report.projectId, headSha := some head } := by
      simp [after, sampledAt, Table.get]
    simp only [fixDue, project, current, Option.any_some, named_head, unproposed, Bool.not_false]
    simp only [failed] at open_gate
    rw [open_gate]
    rfl

/-- A restart keeps the whole promise exactly when its clock reads later than each
localization an interrupted fix was for: else the failure it records is not counted and the
paid call is made again. -/
theorem restart_law_iff_clock_ran_on (boot : Boot) (db : Database) (ids : FreshIds boot.fresh db) :
    RestartLaw boot db ↔ ClockRanOn boot.clock db := by
  constructor
  · exact parked_needs_clock ids
  · intro ran_on
    exact
      { unclaimed := fun _ _ found => no_claim_left boot.clock boot.fresh db found
        stopped := fun _ _ found => none_left_running ids found
        settled := release_twice ids
        parked := fun _ _ present fixing _ standing settings now =>
          restart_parks ids ran_on present fixing standing settings now }

namespace Scenario

/-- The process died in the fix of a report localized at this time. -/
def interrupted (createdAt : Nat) : Database :=
  { database .fixProposing .empty with
    stages := ⟨⟨[localized createdAt], List.nodup_singleton _⟩, .empty, []⟩ }

/-- A restart at this time, drawing the ids `f`, `ff` and so on. -/
def bootAt (clock : Nat) : Boot :=
  { settings, clock, fresh := fun index => String.ofList (List.replicate (index + 1) 'f') }

theorem boot_ids_fresh (clock createdAt : Nat) :
    FreshIds (bootAt clock).fresh (interrupted createdAt) := by
  constructor
  · intro first second same
    have letters := congrArg (fun text => text.toList.length) same
    simpa [bootAt] using letters
  · intro index
    have other : "loc" ≠ String.ofList (List.replicate (index + 1) 'f') := by
      intro same
      have letters := congrArg (fun text => text.toList.head?) same
      simp [List.replicate_succ] at letters
    simp [interrupted, bootAt, Table.get, localized, other]

end Scenario

theorem restart_law_iff_clock_ran_on_interrupted :
    RestartLaw (Scenario.bootAt 9) (Scenario.interrupted 7) := by
  apply (restart_law_iff_clock_ran_on (Scenario.bootAt 9) (Scenario.interrupted 7)
    (Scenario.boot_ids_fresh 9 7)).mpr
  intro id report present fixing localization proposable
  have row := latest_localization_is proposable.current
  have member := Table.get_mem row.1
  simp only [Scenario.interrupted, List.mem_singleton] at member
  rw [member]
  decide

/-- The clock of the restart reads 5, the localization was made at 7: the report is sampled
again at once. -/
theorem early_restart_bills_again :
    ¬RestartLaw (Scenario.bootAt 5) (Scenario.interrupted 7) := by
  intro law
  have parked := law.parked "r" (Scenario.report .fixProposing) (by rfl) (by rfl)
    (releaseOrphanedClaims 5 (Scenario.bootAt 5).fresh (Scenario.interrupted 7))
    ⟨fun _ found _ _ _ => found, rfl, fun _ before => before⟩ Scenario.settings 100
  exact parked (by decide)

end Bugalizer
