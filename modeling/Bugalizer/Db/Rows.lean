import Bugalizer.Models
import Bugalizer.Store.Table

/-!
# The rows of the database

One structure a table, with the columns some modelled function reads or writes.
Timestamps are microseconds: `_now` and `datetime.now` write one fixed ISO-8601 form,
whose order as text is the order of the instants.
-/

namespace Bugalizer

set_option autoImplicit false

open Store

structure Report where
  id : String
  projectId : String
  title : String
  description : String
  featureArea : Json
  severity : Json
  status : BugStatus
  analysisMode : Json
  claimToken : Option String
  resolutionReason : Option String
  externalId : Option String
  createdAt : Nat
  updatedAt : Nat

inductive StagePhase where
  | validation | triage | localization | fix
deriving DecidableEq, Repr

inductive AnalysisStatus where
  | running | completed | failed
deriving DecidableEq, Repr

structure Analysis where
  id : String
  bugReportId : String
  phase : StagePhase
  status : AnalysisStatus
  result : Option Json
  llmProvider : Option String
  llmModel : Option String
  promptTokens : Nat
  completionTokens : Nat
  startedAt : Option Nat
  completedAt : Option Nat
  triggerRef : Option String
  createdAt : Nat

inductive ProposalStatus where
  | proposed | prOpened
deriving DecidableEq, Repr

inductive PrState where
  | isOpen | merged | closed
deriving DecidableEq, Repr

structure FixProposal where
  id : String
  bugReportId : String
  analysisId : String
  branchName : Option String
  diff : String
  explanation : String
  /-- The text of the number. -/
  confidence : String
  rootCause : String
  filesChanged : List String
  status : ProposalStatus
  prUrl : Option String
  prNumber : Option Int
  pushedSha : Option String
  prOpenedAt : Option Nat
  triggerRef : Option String
  prState : Option PrState
  prCheckedAt : Option Nat
  prSettledAt : Option Nat
  prCheckError : Option String
  createdAt : Nat
  updatedAt : Nat

inductive KeySource where
  | request | env
deriving DecidableEq, Repr

structure TokenUsage where
  projectId : String
  bugReportId : String
  provider : String
  model : String
  promptTokens : Nat
  completionTokens : Nat
  keySource : Option KeySource
  keyRef : Option String
  createdAt : Nat

structure Project where
  id : String
  repoUrl : String
  repoPath : Option String
  headSha : Option String
  defaultBranch : Option String
  llmProvider : Option String
  llmModel : Option String
  fixLlmProvider : Option String
  fixLlmModel : Option String
  ingestSource : Option String
  /-- `null` also for a column that is no JSON. -/
  ingestConfig : Json
  createdAt : Nat
  updatedAt : Nat

/-- A pinned stage, `[provider, model]`. -/
abbrev LlmPin := String × String

/-- `pinned_llm`, by stage. -/
structure PinnedLlm where
  triage : Option LlmPin
  localization : Option LlmPin
  fix : Option LlmPin
deriving DecidableEq

/-- The states of an action and of its steps: `fixDone` is the compound checkpoint and
`prPending` a late answer that was no outcome. -/
inductive Verdict where
  | done | failed | refused | fixDone | skipped | prPending
deriving DecidableEq, Repr

def Verdict.value : Verdict → String
  | done => "done"
  | failed => "failed"
  | refused => "refused"
  | fixDone => "fix_done"
  | skipped => "skipped"
  | prPending => "pr_pending"

inductive StepName where
  | fix | openPr
deriving DecidableEq, Repr

structure ActionStep where
  step : StepName
  state : Verdict
  ref : Option String := none
  message : Option String := none
deriving DecidableEq

inductive Kind where
  | analyzeLocal | analyzeCloud | fixAndOpenPr | openPr | setMode | close | reopen
  | unknown (text : String)
deriving DecidableEq, Repr

namespace Kind

/-- `KINDS`. -/
def parse (text : String) : Kind :=
  if text = "analyze_local" then analyzeLocal
  else if text = "analyze_cloud" then analyzeCloud
  else if text = "fix_and_open_pr" then fixAndOpenPr
  else if text = "open_pr" then openPr
  else if text = "set_mode" then setMode
  else if text = "close" then close
  else if text = "reopen" then reopen
  else unknown text

/-- `PAID_KINDS`. -/
def paid : Kind → Bool
  | analyzeCloud | fixAndOpenPr => true
  | _ => false

/-- `LLM_KINDS`. -/
def llm : Kind → Bool
  | analyzeLocal | analyzeCloud | fixAndOpenPr => true
  | _ => false

end Kind

/-- The ledger phases; `fixDone` is left by the PR step only. -/
inductive LedgerPhase where
  | reserved | intent | dispatched | fixDone | finished
deriving DecidableEq, Repr

structure TriageAction where
  actionId : String
  projectId : String
  reportId : String
  kind : Kind
  params : Json
  requestedByUserId : Option String
  phase : LedgerPhase
  noAutoRetry : Bool
  pinnedLlm : Option PinnedLlm
  reservedAt : Nat
  intentAt : Option Nat
  dispatchedAt : Option Nat
  finishedAt : Option Nat
  outcome : Option Verdict
  message : Option String
  steps : Option (List ActionStep)
  fixProposalId : Option String
  prUrl : Option String
  attempts : Nat
  terminalAcked : Bool
  terminalError : Option String
  lateOutcome : Option Verdict
  keyMode : Option String

/-- A result payload as it is pushed: `{"revision": revision, **core}`. -/
structure Payload where
  revision : Int
  core : Json

structure TriageResult where
  reportId : String
  projectId : String
  fingerprint : String
  revision : Int
  payload : Payload
  ackedFingerprint : Option String
  failedFingerprint : Option String
  lastStatus : Option Nat
  lastError : Option String
  pushedAt : Option Nat

structure TriageSyncState where
  projectId : String
  lastTickAt : Option Nat
  lastOkAt : Option Nat
  lastError : Option String
  consecutiveFailures : Nat
  unresolvedActions : Nat

abbrev Reports := Table Report String Report.id
abbrev Analyses := Table Analysis String Analysis.id
abbrev FixProposals := Table FixProposal String FixProposal.id
abbrev Projects := Table Project String Project.id
abbrev TriageActions := Table TriageAction String TriageAction.actionId
abbrev TriageResults := Table TriageResult String TriageResult.reportId
abbrev TriageSyncStates := Table TriageSyncState String TriageSyncState.projectId

structure Stages where
  analyses : Analyses
  proposals : FixProposals
  usage : List TokenUsage

structure Outbox where
  results : TriageResults
  syncStates : TriageSyncStates

structure Database where
  reports : Reports
  stages : Stages
  ledger : TriageActions
  projects : Projects
  outbox : Outbox

def Database.empty : Database :=
  ⟨.empty, ⟨.empty, .empty, []⟩, .empty, .empty, ⟨.empty, .empty⟩⟩

end Bugalizer
