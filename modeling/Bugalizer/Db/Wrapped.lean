import Bugalizer.Store.Retry
import Bugalizer.Db.Joint
import Bugalizer.Ingest.Rows

/-!
# The functions under `retry_on_locked`

Each function of `db.py` the decorator wraps, statement by statement on one connection. `_now()`
and `_new_id()` are drawn by each attempt anew. A foreign key is checked where a row is inserted,
or one that others refer to is deleted.
-/

namespace Bugalizer.Wrapped

set_option autoImplicit false

open Store Sql Coroutine Program

structure Draws where
  now : Nat
  ids : Nat → String

def rowcount (hit : Bool) : Nat := if hit then 1 else 0

/-- An `UPDATE bug_reports`. -/
def reportStatement (write : ReportWrite) (draws : Draws) : Statement Database := fun db =>
  if write.accepted then
    some (rowcount (write.hits db.reports), { db with reports := write.apply draws.now db.reports })
  else none

def reportUpdateStatus (id : String) (new : BugStatus) (reason : Option String)
    (expected : Option BugStatus) (draws : Draws) : Sql Database (Option Report) := do
  let count ← execute (reportStatement (.updateStatus id new reason expected) draws)
  commit
  if expected.isSome && count != 1 then return none
  else
    let db ← select
    return db.reports.get id

def tryClaimReport (id : String) (expected new : BugStatus) (token : Option String) (draws : Draws) :
    Sql Database Bool := do
  let count ← execute (reportStatement (.tryClaim id expected new token) draws)
  commit
  return count == 1

def adoptClaim (id : String) (observed : Option String) (token : String) (draws : Draws) :
    Sql Database Bool := do
  let count ← execute (reportStatement (.adoptClaim id observed token) draws)
  commit
  return count == 1

def releaseClaim (id token : String) (draws : Draws) : Sql Database Bool := do
  let count ← execute (reportStatement (.releaseClaim id token) draws)
  commit
  return count == 1

def reportUpdateFields (id : String) (fields : ReportFields) (draws : Draws) :
    Sql Database (Option Report) := do
  let _ ← execute (reportStatement (.updateFields id fields) draws)
  commit
  let db ← select
  return db.reports.get id

/-- `ORPHANED_CLAIM_ROLLBACK`, in its order. -/
def orphanedClaimRollback : List (BugStatus × BugStatus) :=
  [(.validating, .submitted), (.analyzing, .triaged), (.fixProposing, .triaged)]

def recordInterrupted (draws : Draws) : List String → Nat → Sql Database Unit
  | [], _ => return ()
  | reportId :: reportIds, index => do
      let _ ← execute fun db =>
        (db.stages.analyses.insert (interruptedFix draws.now (draws.ids index) reportId)).map
          fun analyses => (1, { db with stages := { db.stages with analyses } })
      recordInterrupted draws reportIds (index + 1)

def rollBackEach (draws : Draws) :
    List (BugStatus × BugStatus) → Sql Database (List (BugStatus × Nat))
  | [] => return []
  | (claimed, rollback) :: rest => do
      let count ← execute fun db =>
        some ((db.reports.select fun row => row.status == claimed).length,
          { db with
            reports := db.reports.updateAll (fun row => row.status == claimed)
              (fun row => { row with status := rollback, updatedAt := draws.now }) fun _ => rfl })
      let released ← rollBackEach draws rest
      return if count = 0 then released else (claimed, count) :: released

/-- The body of `with conn:`. -/
def releaseEach (draws : Draws) : Sql Database (List (BugStatus × Nat)) := do
  let _ ← execute fun db =>
    some ((db.stages.analyses.select fun row => row.status == .running).length,
      { db with stages := { db.stages with analyses := failRunning draws.now db.stages.analyses } })
  let db ← select
  recordInterrupted draws ((db.reports.select fun row => row.status == .fixProposing).map Report.id) 0
  rollBackEach draws orphanedClaimRollback

def releaseOrphanedClaims (draws : Draws) : Sql Database (List (BugStatus × Nat)) :=
  within (releaseEach draws)

def referenced : StageWrite → Database → Bool
  | .analysisCreate new, db => (db.reports.get new.bugReportId).isSome
  | .fixProposalCreate new, db =>
      (db.reports.get new.bugReportId).isSome && (db.stages.analyses.get new.analysisId).isSome
  | .tokenUsageCreate new, db =>
      (db.projects.get new.projectId).isSome && (db.reports.get new.bugReportId).isSome
  | _, _ => true

/-- An `INSERT` or `UPDATE` of the stages' tables; nothing reads its row count. -/
def stageStatement (write : StageWrite) (draws : Draws) : Statement Database := fun db =>
  if referenced write db then
    (write.apply draws.now (draws.ids 0) db.stages).map fun (_, stages) => (1, { db with stages })
  else none

def analysisCreate (new : NewAnalysis) (draws : Draws) : Sql Database (Option Analysis) := do
  let _ ← execute (stageStatement (.analysisCreate new) draws)
  commit
  let db ← select
  return db.stages.analyses.get (draws.ids 0)

def analysisUpdate (id : String) (fields : AnalysisFields) (draws : Draws) :
    Sql Database (Option Analysis) := do
  let _ ← execute (stageStatement (.analysisUpdate id fields) draws)
  commit
  let db ← select
  return db.stages.analyses.get id

def fixProposalCreate (new : NewFixProposal) (draws : Draws) : Sql Database (Option FixProposal) := do
  let _ ← execute (stageStatement (.fixProposalCreate new) draws)
  commit
  let db ← select
  return db.stages.proposals.get (draws.ids 0)

def fixProposalRecordPushIntent (proposalId sha branch : String) (draws : Draws) :
    Sql Database Unit := do
  let _ ← execute (stageStatement (.recordPushIntent proposalId sha branch) draws)
  commit

def prCheckRecord (proposalId : String) (check : PrCheck) (draws : Draws) : Sql Database Unit := do
  let _ ← execute (stageStatement (.prCheckRecord proposalId check) draws)
  commit

/-- What `token_usage_create` returns: its arguments but the report. -/
structure RecordedUsage where
  projectId : String
  provider : String
  model : String
  promptTokens : Nat
  completionTokens : Nat
  keySource : Option KeySource
  keyRef : Option String

def RecordedUsage.of (new : NewTokenUsage) : RecordedUsage :=
  { new with }

def tokenUsageCreate (new : NewTokenUsage) (draws : Draws) : Sql Database RecordedUsage := do
  let _ ← execute (stageStatement (.tokenUsageCreate new) draws)
  commit
  return .of new

def retryablePhases : List StagePhase := [.triage, .localization, .fix]

def failedAttempt (reportId : String) (row : Analysis) : Bool :=
  row.bugReportId == reportId && row.status == .failed && retryablePhases.contains row.phase

def deleteFailed (reportId : String) : Statement Database := fun db =>
  let failed := db.stages.analyses.select (failedAttempt reportId)
  if failed.any fun row => db.stages.proposals.rows.any fun proposal => proposal.analysisId == row.id then
    none
  else
    some (failed.length,
      { db with
        stages := { db.stages with analyses := db.stages.analyses.deleteAll (failedAttempt reportId) } })

def resetStageRetries (reportId : String) (_ : Draws) : Sql Database Bool := do
  let count ← execute (deleteFailed reportId)
  commit
  return decide (0 < count)

/-- An `UPDATE fix_proposals ... WHERE id = ? AND bug_report_id = ?`. -/
def proposalStatement (id : String) (condition : FixProposal → Bool)
    (change : FixProposal → FixProposal) (keyed : ∀ row, (change row).id = row.id) :
    Statement Database := fun db =>
  some (rowcount (db.stages.proposals.matched id condition),
    { db with
      stages := { db.stages with proposals := db.stages.proposals.update id condition change keyed } })

/-- An `UPDATE bug_reports ... WHERE id = ? AND` a condition. -/
def reportUpdate (id : String) (condition : Report → Bool) (change : Report → Report)
    (keyed : ∀ row, (change row).id = row.id) : Statement Database := fun db =>
  some (rowcount (db.reports.matched id condition),
    { db with reports := db.reports.update id condition change keyed })

def recordPullRequest (record : PullRequestRecord) (draws : Draws) : Sql Database Unit :=
  transaction do
    -- _record_pr_proposal
    let count ← execute <| proposalStatement record.proposalId record.ownsProposal
      (record.writeProposal draws.now) fun _ => rfl
    if count ≠ 1 then raise (.python "ValueError" "proposal does not belong to the report")
    else
      -- _record_pr_report
      let count ← execute <| reportUpdate record.bugReportId record.holdsClaim
        (PullRequestRecord.writeReport draws.now) fun _ => rfl
      if count ≠ 1 then
        raise (.python "ClaimLostError" "open-pr claim lost before the PR was recorded")
      else commit

def prSettle (settlement : PrSettlement) (draws : Draws) : Sql Database Bool :=
  transaction do
    let count ← execute <| reportUpdate settlement.bugReportId PrSettlement.committed
      (settlement.writeReport draws.now) (settlement.write_report_id draws.now)
    let _ ← execute <| proposalStatement settlement.proposalId settlement.ownsProposal
      (settlement.writeProposal draws.now) fun _ => rfl
    commit
    return count == 1

def reopenForAction (reportId actionId message : String) (draws : Draws) : Sql Database Reopened :=
  transaction do
    let count ← execute <| reportUpdate reportId (fun row => row.status == .closed)
      (reopenReport draws.now) fun _ => rfl
    if count ≠ 1 then do
      rollback
      return .notClosed
    else
      let count ← execute fun db =>
        some (rowcount (db.ledger.matched actionId fun row => row.phase == .dispatched),
          { db with
            ledger := db.ledger.update actionId (fun row => row.phase == .dispatched)
              (finishReopened draws.now message) fun _ => rfl })
      if count ≠ 1 then do
        rollback
        return .ledgerMoved
      else
        commit
        return .done

/-- The result row's report, where a row is inserted; no statement deletes a report here. -/
def resultStatement (write : OutboxWrite) (reportId : String) (draws : Draws) : Statement Database :=
  fun db =>
    if (db.reports.get reportId).isSome then
      some (1, { db with outbox := (write.apply draws.now db.outbox).2 })
    else none

def triageResultStage (reportId projectId fingerprint : String) (payload : Payload) (draws : Draws) :
    Sql Database Unit := do
  let _ ← execute <| resultStatement (.triageResultStage reportId projectId fingerprint payload)
    reportId draws
  commit

def triageResultUpdate (reportId : String) (fields : TriageResultFields) (draws : Draws) :
    Sql Database Unit := do
  let _ ← execute fun db =>
    some (1, { db with outbox := ((OutboxWrite.triageResultUpdate reportId fields).apply draws.now db.outbox).2 })
  commit

/-- A write of `triage_actions`. -/
def ledgerStatement (write : LedgerWrite) (draws : Draws) : Statement Database := fun db =>
  some (rowcount (write.apply draws.now db.ledger).1,
    { db with ledger := (write.apply draws.now db.ledger).2 })

def triageActionReserve (actionId projectId reportId : String) (kind : Kind) (params : Json)
    (requestedByUserId : Option String) (draws : Draws) : Sql Database Bool := do
  let count ← execute <| ledgerStatement
    (.reserve actionId projectId reportId kind params requestedByUserId) draws
  commit
  return count == 1

def triageActionDeleteReserved (actionId : String) (draws : Draws) : Sql Database Unit := do
  let _ ← execute (ledgerStatement (.deleteReserved actionId) draws)
  commit

/-- `UPDATE ... SET` with no column is no statement. -/
def setsNothing (fields : TriageActionFields) : Bool :=
  fields.phase.isNone && fields.noAutoRetry.isNone && fields.pinnedLlm.isNone &&
    fields.intentAt.isNone && fields.dispatchedAt.isNone && fields.fixProposalId.isNone &&
    fields.prUrl.isNone && fields.attempts.isNone && fields.steps.isNone &&
    fields.terminalAcked.isNone && fields.terminalError.isNone && fields.lateOutcome.isNone &&
    fields.keyMode.isNone

def triageActionUpdate (actionId : String) (expected : Option LedgerPhase)
    (fields : TriageActionFields) (draws : Draws) : Sql Database Bool := do
  let count ← execute fun db =>
    if setsNothing fields then none else ledgerStatement (.update actionId expected fields) draws db
  commit
  return count == 1

def triageActionFinish (actionId : String) (outcome : Verdict) (message : Option String)
    (steps : Option (List ActionStep)) (expected : Option LedgerPhase) (draws : Draws) :
    Sql Database Bool := do
  let count ← execute (ledgerStatement (.finish actionId outcome message steps expected) draws)
  commit
  return count == 1

/-- `INSERT INTO triage_sync_state ... ON CONFLICT DO NOTHING`. -/
def ensureState (projectId : String) (db : Database) : Database :=
  { db with
    outbox := { db.outbox with
      syncStates := (db.outbox.syncStates.insert ⟨projectId, none, none, none, 0, 0⟩).getD
        db.outbox.syncStates } }

def recordState (projectId : String) (error : Option String) (unresolved : Nat) (draws : Draws) :
    Statement Database := fun db =>
  some (1, { db with
    outbox := { db.outbox with
      syncStates := db.outbox.syncStates.update projectId (fun _ => true)
        (OutboxWrite.recordTick draws.now error unresolved)
        (OutboxWrite.record_tick_id draws.now error unresolved) } })

def triageSyncStateRecord (projectId : String) (error : Option String) (unresolved : Nat)
    (draws : Draws) : Sql Database Nat := do
  let _ ← execute fun db => some (0, ensureState projectId db)
  let _ ← execute (recordState projectId error unresolved draws)
  commit
  let db ← select
  return (db.outbox.syncStates.get projectId).elim 0 TriageSyncState.consecutiveFailures

/-- One report of the page; the pair that is there already is skipped. -/
def insertReport (projectId : String) (id : String) (row : Ingest.ImportRow) :
    Statement Ingest.Database := fun db =>
  if db.reports.holds (projectId, row.externalId) then some (0, db)
  else
    (db.reports.insert
      { id, projectId, externalId := some row.externalId, deleted := false
        imported := some row }).map fun reports => (1, { db with reports })

def insertReports (projectId : String) (draws : Draws) :
    List Ingest.ImportRow → Nat → Sql Ingest.Database Nat
  | [], _ => return 0
  | row :: rows, index => do
      let count ← execute (insertReport projectId (draws.ids index) row)
      let inserted ← insertReports projectId draws rows (index + 1)
      return count + inserted

theorem write_step_project (step : Ingest.PollStep) (inserted failures : Nat) (row : Ingest.StateRow) :
    (step.updates.write inserted failures row).projectId = row.projectId :=
  Ingest.write_project step.updates inserted failures row

def ingestCommit (projectId : String) (generation : Nat) (step : Ingest.PollStep) (draws : Draws) :
    Sql Ingest.Database (Option Nat) :=
  fencing do
    let db ← select
    if Ingest.fenced projectId generation db then do
      rollback
      return none
    else
      let _ ← execute fun db =>
        some (0, { db with
          states := db.states.delete projectId fun row => row.generation != generation })
      let _ ← execute fun db =>
        some (0, { db with
          states := (db.states.insert
            { projectId, generation, lastFullWalkAt := some draws.now }).getD db.states })
      let inserted ← insertReports projectId draws step.reports 0
      let failures := if step.countFailure then 1 else 0
      let _ ← execute fun db =>
        some (1, { db with
          states := db.states.update projectId (fun _ => true)
            (step.updates.write inserted failures)
            (write_step_project step inserted failures) })
      commit
      return some inserted

end Bugalizer.Wrapped
