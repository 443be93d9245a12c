import Bugalizer.Db.Reports
import Bugalizer.Db.Stages
import Bugalizer.Db.Ledger

/-!
# Transactions over several tables

`record_pull_request`, `pr_settle` and `reopen_for_action` write a report together with
its proposal or its ledger row, or write nothing.
-/

namespace Bugalizer

set_option autoImplicit false

open Store

structure PullRequestRecord where
  bugReportId : String
  proposalId : String
  claimToken : String
  prUrl : String
  prNumber : Int
  /-- `None` keeps the recorded value. -/
  pushedSha : Option String
  branchName : String

inductive Recorded where
  | recorded
  /-- `ValueError`: the proposal does not belong to the report. -/
  | foreignProposal
  /-- `ClaimLostError`. -/
  | claimLost
deriving DecidableEq, Repr

inductive Reopened where
  | done | notClosed | ledgerMoved
deriving DecidableEq, Repr

namespace PullRequestRecord

variable (record : PullRequestRecord)

def ownsProposal (row : FixProposal) : Bool := row.bugReportId == record.bugReportId

/-- `_record_pr_proposal`'s `SET`. -/
def writeProposal (now : Nat) (row : FixProposal) : FixProposal :=
  { row with
    prUrl := some record.prUrl
    prNumber := some record.prNumber
    pushedSha := record.pushedSha.or row.pushedSha
    branchName := some record.branchName
    prOpenedAt := some now
    status := .prOpened
    updatedAt := now }

/-- `_record_pr_report`'s condition: the caller still owns the claim. -/
def holdsClaim (row : Report) : Bool :=
  row.status == .fixApproved && row.claimToken == some record.claimToken

def writeReport (now : Nat) (row : Report) : Report :=
  { row with status := .fixCommitted, claimToken := none, updatedAt := now }

end PullRequestRecord

/-- `pr_settle`, for the two states that settle. -/
structure PrSettlement where
  proposalId : String
  bugReportId : String
  prNumber : Int
  merged : Bool

namespace PrSettlement

variable (settlement : PrSettlement)

def committed (row : Report) : Bool := row.status == .fixCommitted

def writeReport (now : Nat) (row : Report) : Report :=
  if settlement.merged then
    { row with
      status := .closed
      resolutionReason := some ("pr_merged:" ++ toString settlement.prNumber)
      updatedAt := now }
  else { row with status := .triaged, updatedAt := now }

theorem write_report_id (now : Nat) (row : Report) :
    (settlement.writeReport now row).id = row.id := by
  unfold writeReport
  split <;> rfl

def ownsProposal (row : FixProposal) : Bool := row.bugReportId == settlement.bugReportId

def writeProposal (now : Nat) (row : FixProposal) : FixProposal :=
  { row with
    prState := some (if settlement.merged then .merged else .closed)
    prCheckedAt := some now
    prSettledAt := some now
    prCheckError := none
    updatedAt := now }

end PrSettlement

def reopenReport (now : Nat) (row : Report) : Report :=
  { row with status := .triaged, resolutionReason := none, updatedAt := now }

/-- The ledger half of `reopen_for_action`. -/
def finishReopened (now : Nat) (message : String) (row : TriageAction) : TriageAction :=
  { row with
    phase := .finished
    outcome := some .done
    message := some message
    steps := none
    finishedAt := some now }

inductive JointWrite where
  | recordPullRequest (record : PullRequestRecord)
  | prSettle (settlement : PrSettlement)
  | reopenForAction (reportId actionId message : String)

namespace JointWrite

abbrev Ans : JointWrite → Type
  | recordPullRequest _ => Recorded
  | prSettle _ => Bool
  | reopenForAction .. => Reopened

def apply (now : Nat) : (write : JointWrite) → Database → write.Ans × Database
  | recordPullRequest record, db =>
      if db.stages.proposals.matched record.proposalId record.ownsProposal then
        if db.reports.matched record.bugReportId record.holdsClaim then
          (.recorded,
            { db with
              stages := { db.stages with
                proposals := db.stages.proposals.update record.proposalId record.ownsProposal
                  (record.writeProposal now) fun _ => rfl }
              reports := db.reports.update record.bugReportId record.holdsClaim
                (PullRequestRecord.writeReport now) fun _ => rfl })
        else (.claimLost, db)
      else (.foreignProposal, db)
  | prSettle settlement, db =>
      (db.reports.matched settlement.bugReportId PrSettlement.committed,
        { db with
          reports := db.reports.update settlement.bugReportId PrSettlement.committed
            (settlement.writeReport now) (settlement.write_report_id now)
          stages := { db.stages with
            proposals := db.stages.proposals.update settlement.proposalId settlement.ownsProposal
              (settlement.writeProposal now) fun _ => rfl } })
  | reopenForAction reportId actionId message, db =>
      if db.reports.matched reportId (fun row => row.status == .closed) then
        if db.ledger.matched actionId (fun row => row.phase == .dispatched) then
          (.done,
            { db with
              reports := db.reports.update reportId (fun row => row.status == .closed)
                (reopenReport now) fun _ => rfl
              ledger := db.ledger.update actionId (fun row => row.phase == .dispatched)
                (finishReopened now message) fun _ => rfl })
        else (.ledgerMoved, db)
      else (.notClosed, db)

end JointWrite

/-- The columns `project_update` is called with; `some none` clears a nullable one. -/
structure ProjectFields where
  repoUrl : Option String := none
  repoPath : Option String := none
  headSha : Option String := none
  defaultBranch : Option String := none
  llmProvider : Option String := none
  llmModel : Option String := none
  fixLlmProvider : Option (Option String) := none
  fixLlmModel : Option (Option String) := none
  ingestSource : Option (Option String) := none
  ingestConfig : Option Json := none

def ProjectFields.write (fields : ProjectFields) (now : Nat) (row : Project) : Project :=
  { row with
    repoUrl := fields.repoUrl.getD row.repoUrl
    repoPath := fields.repoPath.or row.repoPath
    headSha := fields.headSha.or row.headSha
    defaultBranch := fields.defaultBranch.or row.defaultBranch
    llmProvider := fields.llmProvider.or row.llmProvider
    llmModel := fields.llmModel.or row.llmModel
    fixLlmProvider := fields.fixLlmProvider.getD row.fixLlmProvider
    fixLlmModel := fields.fixLlmModel.getD row.fixLlmModel
    ingestSource := fields.ingestSource.getD row.ingestSource
    ingestConfig := fields.ingestConfig.getD row.ingestConfig
    updatedAt := now }

/-- `project_update`'s `UPDATE`; the row count. -/
def projectUpdate (now : Nat) (id : String) (fields : ProjectFields) (projects : Projects) :
    Bool × Projects :=
  (projects.matched id fun _ => true,
    projects.update id (fun _ => true) (fields.write now) fun _ => rfl)

structure TriageResultFields where
  revision : Option Int := none
  ackedFingerprint : Option String := none
  failedFingerprint : Option String := none
  lastStatus : Nat
  lastError : Option String
  pushedAt : Nat

def TriageResultFields.write (fields : TriageResultFields) (row : TriageResult) : TriageResult :=
  { row with
    revision := fields.revision.getD row.revision
    ackedFingerprint := fields.ackedFingerprint.or row.ackedFingerprint
    failedFingerprint := fields.failedFingerprint.or row.failedFingerprint
    lastStatus := some fields.lastStatus
    lastError := fields.lastError
    pushedAt := some fields.pushedAt }

inductive OutboxWrite where
  | triageResultStage (reportId projectId fingerprint : String) (payload : Payload)
  | triageResultUpdate (reportId : String) (fields : TriageResultFields)
  | syncStateRecord (projectId : String) (error : Option String) (unresolved : Nat)

namespace OutboxWrite

/-- `triage_sync_state_record` answers the consecutive failures after it. -/
abbrev Ans : OutboxWrite → Type
  | syncStateRecord .. => Nat
  | _ => Unit

def newResult (reportId projectId fingerprint : String) (payload : Payload) : TriageResult :=
  { reportId, projectId, fingerprint, payload
    revision := payload.revision
    ackedFingerprint := none
    failedFingerprint := none
    lastStatus := none
    lastError := none
    pushedAt := none }

def recordTick (now : Nat) (error : Option String) (unresolved : Nat) (row : TriageSyncState) :
    TriageSyncState :=
  match error with
  | none =>
      { row with
        lastTickAt := some now, lastOkAt := some now, lastError := none
        consecutiveFailures := 0, unresolvedActions := unresolved }
  | some code =>
      { row with
        lastTickAt := some now, lastError := some code
        consecutiveFailures := row.consecutiveFailures + 1, unresolvedActions := unresolved }

theorem record_tick_id (now : Nat) (error : Option String) (unresolved : Nat)
    (row : TriageSyncState) : (recordTick now error unresolved row).projectId = row.projectId := by
  cases error <;> rfl

def apply (now : Nat) : (write : OutboxWrite) → Outbox → write.Ans × Outbox
  | triageResultStage reportId projectId fingerprint payload, outbox =>
      ((), { outbox with
        results :=
          match outbox.results.insert (newResult reportId projectId fingerprint payload) with
          | some inserted => inserted
          | none => outbox.results.update reportId (fun _ => true)
              (fun row => { row with
                fingerprint, payload, revision := payload.revision
                failedFingerprint := none, lastError := none })
              fun _ => rfl })
  | triageResultUpdate reportId fields, outbox =>
      ((), { outbox with
        results := outbox.results.update reportId (fun _ => true) fields.write fun _ => rfl })
  | syncStateRecord projectId error unresolved, outbox =>
      let present := (outbox.syncStates.insert
        ⟨projectId, none, none, none, 0, 0⟩).getD outbox.syncStates
      let recorded := present.update projectId (fun _ => true) (recordTick now error unresolved)
        (record_tick_id now error unresolved)
      ((recorded.get projectId).elim 0 TriageSyncState.consecutiveFailures,
        { outbox with syncStates := recorded })

end OutboxWrite

end Bugalizer
