import Bugalizer.Effects

/-!
# The calls the program makes, under the source's names

A database function that reads back what it wrote is a write followed by a read; a
`lock` guard is acquired before its body and given back whatever the body does.
-/

namespace Bugalizer

set_option autoImplicit false

open Coroutine Program

def ask (op : Op) : Py op.Ans := perform op

def query (q : Query) : Py q.Ans := ask (.query q)

def reportGet (id : String) : Py (Option {row : Report // row.id = id}) := query (.reportGet id)

/-- `project_get`; where no caller compares the row's id with `id`, the row alone. -/
def projectGet (id : String) : Py (Option Project) := do
  let row ← query (.projectGet id)
  pure (row.map Subtype.val)

def triageActionGet (id : String) : Py (Option {row : TriageAction // row.actionId = id}) :=
  query (.triageActionGet id)

def fixProposalsForReport (id : String) : Py (List FixProposal) :=
  query (.fixProposalsForReport id)

def analysesForReport (id : String) (phase : Option StagePhase) : Py (List Analysis) :=
  query (.analysesForReport id phase)

def latestCompletedLocalization (id : String) : Py (Option Analysis) :=
  query (.latestCompletedLocalization id)

def reportUpdateStatus (id : String) (new : BugStatus) (reason : Option String)
    (expected : Option BugStatus) : Py (Option {row : Report // row.id = id}) := do
  let hit ← ask (.report (.updateStatus id new reason expected))
  if expected.isSome && !hit then pure none else reportGet id

/-- `report_update_status` as the stages call it: no expected status. -/
def setStatus (id : String) (new : BugStatus) (reason : Option String) : Py Unit := do
  let _ ← reportUpdateStatus id new reason none

def reportDelete (id : String) (expectedStatus : Option BugStatus)
    (expectedToken : Option (Option String)) : Py Bool :=
  ask (.report (.delete id expectedStatus expectedToken))

def tryClaimReport (id : String) (expected new : BugStatus) (token : Option String) : Py Bool :=
  ask (.report (.tryClaim id expected new token))

def adoptClaim (id : String) (observed : Option String) (token : String) : Py Bool :=
  ask (.report (.adoptClaim id observed token))

def releaseClaim (id token : String) : Py Bool := ask (.report (.releaseClaim id token))

def reportUpdateFields (id : String) (fields : ReportFields) :
    Py (Option {row : Report // row.id = id}) := do
  let _ ← ask (.report (.updateFields id fields))
  reportGet id

def analysisCreate (new : NewAnalysis) : Py String := ask (.stage (.analysisCreate new))

def analysisUpdate (id : String) (fields : AnalysisFields) : Py Unit :=
  ask (.stage (.analysisUpdate id fields))

def fixProposalCreate (new : NewFixProposal) : Py String := ask (.stage (.fixProposalCreate new))

def tokenUsageCreate (new : NewTokenUsage) : Py Unit := ask (.stage (.tokenUsageCreate new))

def recordPushIntent (proposalId sha branch : String) : Py Unit :=
  ask (.stage (.recordPushIntent proposalId sha branch))

def prCheckRecord (proposalId : String) (check : PrCheck) : Py Unit :=
  ask (.stage (.prCheckRecord proposalId check))

def recordPullRequest (record : PullRequestRecord) : Py Unit := do
  match ← ask (.joint (.recordPullRequest record)) with
  | .recorded => pure ()
  | .foreignProposal => raise (.plain "ValueError" "proposal does not belong to the report")
  | .claimLost => raise .claimLost

def prSettle (settlement : PrSettlement) : Py Bool := ask (.joint (.prSettle settlement))

def reopenForAction (reportId actionId message : String) : Py Reopened :=
  ask (.joint (.reopenForAction reportId actionId message))

def triageActionReserve (actionId projectId reportId : String) (kind : Kind) (params : Json)
    (user : Option String) : Py Bool :=
  ask (.ledger (.reserve actionId projectId reportId kind params user))

def triageActionDeleteReserved (actionId : String) : Py Unit := do
  let _ ← ask (.ledger (.deleteReserved actionId))

def triageActionUpdate (actionId : String) (expected : Option LedgerPhase)
    (fields : TriageActionFields) : Py Bool :=
  ask (.ledger (.update actionId expected fields))

def triageActionFinish (actionId : String) (outcome : Verdict) (message : Option String)
    (steps : Option (List ActionStep)) (expected : Option LedgerPhase) : Py Bool :=
  ask (.ledger (.finish actionId outcome message steps expected))

def projectUpdateCall (id : String) (fields : ProjectFields) : Py (Option Project) := do
  match ← projectGet id with
  | none => pure none
  | some _ => do
      let _ ← ask (.project id fields)
      projectGet id

def clock : Py Nat := ask (.observe .clock)

def resolveEnvCredential (name : String) : Py (Option String) :=
  ask (.observe (.resolveEnvCredential name))

def triageBaseUrl (config : Json) : Py (Option String) := ask (.compute (.triageBaseUrl config))

def parseJson (content : String) : Py Json := ask (.compute (.parseJson content))

def formatPrompt (prompt : Prompt) : Py Unit := ask (.compute (.formatPrompt prompt))

def note (mark : Note) : Py Unit := ask (.note mark)

def remote (call : Remote) : Py call.Ans := ask (.remote call)

def tryHold (actionId reportId : String) (llm : Bool) : Py Bool :=
  ask (.memory (.tryHold actionId reportId llm))

def release (actionId : String) : Py Unit := ask (.memory (.release actionId))

def taskRunning (actionId : String) : Py Bool := ask (.memory (.taskRunning actionId))

def openPrRunning (reportId : String) : Py Bool := ask (.memory (.openPrRunning reportId))

def createTask (actionId : String) (job : Job) : Py Unit := ask (.createTask actionId job)

/-- `async with db_write_lock: body`. -/
def underWriteLock {Result : Type} (body : Py Result) : Py Result := do
  ask .dbWriteLock
  body

/-- `async with lock: body`. -/
def underLock {Result : Type} (lock : LockName) (body : Py Result) : Py Result := do
  ask (.acquire lock)
  body.ensuring (ask (.memory (.unlock lock)))

/-- `value.get(name)`, which only a `dict` has. -/
def getField (value : Json) (name : String) : Py Json :=
  match value with
  | .obj fields => pure ((fields.lookup name).getD .null)
  | _ => raise (.plain "AttributeError" ("no attribute 'get' for " ++ name))

/-- `value or default`, for strings. -/
def orDefault (value : Option String) (default : String) : String :=
  match value with
  | none => default
  | some text => if text = "" then default else text

/-- `value or None`. -/
def nonBlank (value : Option String) : Option String := value.filter (· != "")

end Bugalizer
