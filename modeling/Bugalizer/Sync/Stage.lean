import Bugalizer.Wire.Value

/-!
# The board lane of a report

The rows are those the result builder reads. A text column holds no surrogates, as the driver
binds none; the `result` of an analysis is decoded JSON, where the model's answer stands as it
came.
-/

namespace Bugalizer.Results

set_option autoImplicit false

open Wire

structure ReportRow where
  status : String
  severity : Option String
  analysisMode : String
  resolutionReason : Option String
  createdAt : String
  updatedAt : String

structure AnalysisRow where
  phase : String
  status : String
  result : Value
  llmProvider : Option String
  llmModel : Option String
  completedAt : Option String
  createdAt : String

structure ProposalRow where
  rootCause : Option String
  explanation : Option String
  diff : Option String
  confidence : Option Double
  branchName : Option String
  prUrl : Option String
  prNumber : Option Int
  prState : Option String
  prSettledAt : Option String
  createdAt : String
  updatedAt : String

structure ProjectRow where
  headSha : Option String

/-- The rows one payload is built from, analyses and proposals newest first. -/
structure Rows where
  report : ReportRow
  analyses : List AnalysisRow
  proposals : List ProposalRow
  project : Option ProjectRow

/-- `text or other`. -/
def orElse (other : String) : Option String → String
  | none => other
  | some text => if text = "" then other else text

def newest (rows : List AnalysisRow) (phase : String) (status : Option String) :
    Option AnalysisRow :=
  rows.find? fun row => row.phase == phase && status.all (row.status == ·)

def fresh (localization : AnalysisRow) (project : Option ProjectRow) : Bool :=
  (project.bind ProjectRow.headSha).any fun head =>
    head != "" && (localization.result.get "repo_sha").isStr head

def createdStamp (row : Option AnalysisRow) : String := row.elim "" AnalysisRow.createdAt

/-- The fix failed after the localization, and no proposal came since. -/
def fixFailed (fix localization : Option AnalysisRow) (newestProposal : Option ProposalRow) : Bool :=
  fix.any fun fix =>
    fix.status == "failed" && decide (createdStamp localization < fix.createdAt) &&
      decide (newestProposal.elim "" ProposalRow.createdAt < fix.createdAt)

/-- The newest proposal's pull request was closed, and nothing happened since it settled. -/
def prClosed (fix localization : Option AnalysisRow) (newestProposal : Option ProposalRow) : Bool :=
  newestProposal.any fun proposal =>
    let settled := orElse proposal.updatedAt proposal.prSettledAt
    proposal.prState == some "closed" && decide (createdStamp localization ≤ settled) &&
      decide (createdStamp fix ≤ settled)

def triagedDetail (rows : Rows) : String :=
  let localization := newest rows.analyses "localization" (some "completed")
  let fix := newest rows.analyses "fix" none
  if rows.report.status = "clarification_needed" then "needs_clarification"
  else if rows.report.status = "deferred" then "deferred"
  else if rows.report.analysisMode = "hold" then "held"
  else if fixFailed fix localization rows.proposals.head? then "fix_failed"
  else if prClosed fix localization rows.proposals.head? then "pr_closed"
  else match localization with
    | some localization => if fresh localization rows.project then "localized" else "stale"
    | none => "not_localized"

/-- `_RUNNING_DETAIL.get(phase, "starting")`. -/
def runningDetail (phase : String) : String :=
  if phase = "triage" then "triaging" else if phase = "localization" then "localizing" else "starting"

/-- `stage` and `stage_detail`. -/
def stageOf (rows : Rows) : String × String :=
  let status := orElse "submitted" (some rows.report.status)
  if status = "submitted" ∨ status = "validating" then
    ("submitted", if status = "validating" then "validating" else "queued")
  else if status = "analyzing" then
    let running := rows.analyses.find? fun row => row.status == "running"
    ("triage", runningDetail (running.elim "" AnalysisRow.phase))
  else if status = "triaged" ∨ status = "clarification_needed" ∨ status = "deferred" then
    ("triaged", triagedDetail rows)
  else if status = "fix_proposing" then ("fix", "proposing")
  else if status = "fix_proposed" then ("review", "fix_ready")
  else if status = "fix_approved" then ("review", "opening_pr")
  else if status = "fix_committed" then ("review", "pr_open")
  else if status = "rejected" ∨ status = "duplicate" then ("completed", status)
  else if status = "closed" ∨ status = "verified" then
    ("completed",
      if "pr_merged:".toList.isPrefixOf (rows.report.resolutionReason.getD "").toList then "merged"
      else "closed")
  else ("submitted", "queued")

def lanes : List String := ["submitted", "triage", "triaged", "fix", "review", "completed"]

def laneDetails : List String :=
  ["queued", "validating", "triaging", "localizing", "starting", "needs_clarification", "deferred",
    "held", "fix_failed", "pr_closed", "localized", "stale", "not_localized", "proposing",
    "fix_ready", "opening_pr", "pr_open", "rejected", "duplicate", "merged", "closed"]

theorem running_detail_token (phase : String) : runningDetail phase ∈ laneDetails := by
  unfold runningDetail
  split
  · decide
  · split <;> decide

theorem triaged_detail_token (rows : Rows) : triagedDetail rows ∈ laneDetails := by
  unfold triagedDetail
  dsimp only
  repeat' split
  all_goals decide

/-- A report is always put into one of the lanes, with one of the tokens. -/
theorem stage_of_lane (rows : Rows) :
    (stageOf rows).1 ∈ lanes ∧ (stageOf rows).2 ∈ laneDetails := by
  unfold stageOf
  dsimp only
  split
  · refine ⟨(by decide : "submitted" ∈ lanes), ?_⟩
    dsimp only
    split <;> decide
  split
  · exact ⟨(by decide : "triage" ∈ lanes), running_detail_token _⟩
  split
  · exact ⟨(by decide : "triaged" ∈ lanes), triaged_detail_token rows⟩
  iterate 4
    split
    · decide
  split
  · rename_i judged
    refine ⟨(by decide : "completed" ∈ lanes), ?_⟩
    rcases judged with judged | judged <;> rw [judged] <;> decide
  split
  · refine ⟨(by decide : "completed" ∈ lanes), ?_⟩
    dsimp only
    split <;> decide
  · decide

end Bugalizer.Results
