import Bugalizer.Db.Joint

/-!
# Reads

Each `SELECT` of `db.py` that a modelled function runs. A read answers from the whole
database and changes nothing.
-/

namespace Bugalizer

set_option autoImplicit false

open Store

inductive Query where
  | reportGet (id : String)
  | reportByExternalId (projectId externalId : String)
  | syncReports (projectId : String)
  | analysesForReport (reportId : String) (phase : Option StagePhase)
  | analysesByTrigger (triggerRef : String)
  | latestCompletedLocalization (reportId : String)
  | fixAnalysisForProposal (proposal : FixProposal)
  | fixProposalsForReport (reportId : String)
  | fixProposalOfReport (reportId proposalId : String)
  | fixProposalsByTrigger (triggerRef : String)
  | recordedPullRequest (reportId : String)
  | prsToCheck (projectId : String) (checkedBefore : Int)
  | projectGet (id : String)
  | projectsWithTriageSync
  | triageActionGet (id : String)
  | triageActionsOpen (projectId : Option String)
  | triageActionsUnacked (projectId : String)
  | triageResultGet (reportId : String)

namespace Query

/-- A look-up by primary key answers a row of that key. -/
abbrev Ans : Query → Type
  | reportGet id => Option {row : Report // row.id = id}
  | reportByExternalId .. => Option Report
  | syncReports _ => List Report
  | analysesForReport .. | analysesByTrigger _ => List Analysis
  | latestCompletedLocalization _ | fixAnalysisForProposal _ => Option Analysis
  | fixProposalsForReport _ | fixProposalsByTrigger _ | prsToCheck .. => List FixProposal
  | fixProposalOfReport .. | recordedPullRequest _ => Option FixProposal
  | projectGet id => Option {row : Project // row.id = id}
  | projectsWithTriageSync => List Project
  | triageActionGet id => Option {row : TriageAction // row.actionId = id}
  | triageActionsOpen _ | triageActionsUnacked _ => List TriageAction
  | triageResultGet _ => Option TriageResult

/-- `phase IN ('intent', 'dispatched', 'fix_done')`. -/
def openPhase : LedgerPhase → Bool
  | .intent | .dispatched | .fixDone => true
  | _ => false

def unread (checkedBefore : Int) (proposal : FixProposal) : Bool :=
  proposal.prNumber.isSome && proposal.prSettledAt.isNone &&
    proposal.prCheckedAt.all fun checked => decide ((checked : Int) < checkedBefore)

/-- `ORDER BY pr_checked_at IS NOT NULL, pr_checked_at`. -/
def checkOrder (proposal : FixProposal) : Nat := proposal.prCheckedAt.elim 0 (· + 1)

def run : (query : Query) → Database → query.Ans
  | reportGet id, db => db.reports.find id
  | reportByExternalId projectId externalId, db =>
      (db.reports.select fun row =>
        row.projectId == projectId && row.externalId == some externalId).head?
  | syncReports projectId, db =>
      Py.sortOn Report.createdAt
        (db.reports.select fun row => row.projectId == projectId && row.externalId.isSome)
  | analysesForReport reportId phase, db =>
      Py.sortDescending Analysis.createdAt
        (db.stages.analyses.select fun row =>
          row.bugReportId == reportId && phase.all (· == row.phase))
  | analysesByTrigger triggerRef, db =>
      Py.sortDescending Analysis.createdAt
        (db.stages.analyses.select fun row => row.triggerRef == some triggerRef)
  | latestCompletedLocalization reportId, db =>
      (Py.sortDescending Analysis.createdAt
        (db.stages.analyses.select fun row =>
          row.bugReportId == reportId && row.phase == .localization &&
            row.status == .completed)).head?
  | fixAnalysisForProposal proposal, db =>
      (Py.sortDescending Analysis.createdAt
        (db.stages.analyses.select fun row =>
          row.bugReportId == proposal.bugReportId && row.phase == .fix &&
            row.status == .completed && row.createdAt ≤ proposal.createdAt)).head?
  | fixProposalsForReport reportId, db =>
      Py.sortDescending FixProposal.createdAt
        (db.stages.proposals.select fun row => row.bugReportId == reportId)
  | fixProposalOfReport reportId proposalId, db =>
      (db.stages.proposals.get proposalId).filter fun row => row.bugReportId == reportId
  | fixProposalsByTrigger triggerRef, db =>
      Py.sortDescending FixProposal.createdAt
        (db.stages.proposals.select fun row => row.triggerRef == some triggerRef)
  | recordedPullRequest reportId, db =>
      (Py.sortOn (fun row => row.prOpenedAt.elim 0 (· + 1))
        (db.stages.proposals.select fun row =>
          row.bugReportId == reportId && row.prUrl.isSome)).head?
  | prsToCheck projectId checkedBefore, db =>
      Py.sortOn checkOrder
        (db.stages.proposals.select fun row =>
          unread checkedBefore row &&
            (db.reports.get row.bugReportId).any fun report =>
              report.projectId == projectId && report.status == .fixCommitted)
  | projectGet id, db => db.projects.find id
  | projectsWithTriageSync, db =>
      Py.sortOn Project.createdAt
        (db.projects.select fun row =>
          row.ingestSource.isSome && (row.ingestConfig.get "triage_credential_env").truthy)
  | triageActionGet id, db => db.ledger.find id
  | triageActionsOpen projectId, db =>
      db.ledger.select fun row => openPhase row.phase && projectId.all (· == row.projectId)
  | triageActionsUnacked projectId, db =>
      Py.sortOn (fun row => row.finishedAt.elim 0 (· + 1))
        (db.ledger.select fun row =>
          row.projectId == projectId && row.phase == .finished && !row.terminalAcked)
  | triageResultGet reportId, db => db.outbox.results.get reportId

end Query

end Bugalizer
