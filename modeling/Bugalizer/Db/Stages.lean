import Bugalizer.Db.Rows

/-!
# Writes of `analyses`, `fix_proposals` and `token_usage`

The rows the pipeline stages leave beside the report.
-/

namespace Bugalizer

set_option autoImplicit false

open Store

structure NewAnalysis where
  bugReportId : String
  phase : StagePhase
  status : AnalysisStatus
  result : Option Json := none
  llmProvider : Option String := none
  llmModel : Option String := none
  promptTokens : Nat := 0
  completionTokens : Nat := 0
  startedAt : Option Nat := none
  completedAt : Option Nat := none
  triggerRef : Option String := none

namespace NewAnalysis

/-- `json.dumps(result) if result else None`. -/
def stored (result : Option Json) : Option Json := result.filter Json.truthy

def row (new : NewAnalysis) (id : String) (now : Nat) : Analysis :=
  { id
    bugReportId := new.bugReportId
    phase := new.phase
    status := new.status
    result := stored new.result
    llmProvider := new.llmProvider
    llmModel := new.llmModel
    promptTokens := new.promptTokens
    completionTokens := new.completionTokens
    startedAt := new.startedAt
    completedAt := new.completedAt
    triggerRef := new.triggerRef
    createdAt := now }

end NewAnalysis

/-- The columns `analysis_update` is called with; `llm` is set on success only. -/
structure AnalysisFields where
  status : AnalysisStatus
  result : Json
  completedAt : Nat
  llm : Option (String × String × Nat × Nat) := none

namespace AnalysisFields

def write (fields : AnalysisFields) (row : Analysis) : Analysis :=
  let written := { row with
    status := fields.status
    result := some fields.result
    completedAt := some fields.completedAt }
  match fields.llm with
  | none => written
  | some (provider, model, promptTokens, completionTokens) =>
      { written with llmProvider := some provider, llmModel := some model,
                     promptTokens, completionTokens }

theorem write_id (fields : AnalysisFields) (row : Analysis) : (fields.write row).id = row.id := by
  unfold write
  cases fields.llm <;> rfl

/-- A `list` or another result that is no `dict` is bound as it is. -/
def accepted (fields : AnalysisFields) : Bool := fields.result.isObj || fields.result.bindable

end AnalysisFields

structure NewFixProposal where
  bugReportId : String
  analysisId : String
  rootCause : String
  explanation : String
  diff : String
  confidence : String
  filesChanged : List String
  triggerRef : Option String

def NewFixProposal.row (new : NewFixProposal) (id : String) (now : Nat) : FixProposal :=
  { id
    bugReportId := new.bugReportId
    analysisId := new.analysisId
    branchName := none
    diff := new.diff
    explanation := new.explanation
    confidence := new.confidence
    rootCause := new.rootCause
    filesChanged := new.filesChanged
    status := .proposed
    prUrl := none
    prNumber := none
    pushedSha := none
    prOpenedAt := none
    triggerRef := new.triggerRef
    prState := none
    prCheckedAt := none
    prSettledAt := none
    prCheckError := none
    createdAt := now
    updatedAt := now }

structure NewTokenUsage where
  projectId : String
  provider : String
  model : String
  bugReportId : String
  promptTokens : Nat
  completionTokens : Nat
  keySource : Option KeySource := none
  keyRef : Option String := none

def NewTokenUsage.row (new : NewTokenUsage) (now : Nat) : TokenUsage :=
  { projectId := new.projectId
    bugReportId := new.bugReportId
    provider := new.provider
    model := new.model
    promptTokens := new.promptTokens
    completionTokens := new.completionTokens
    keySource := new.keySource
    keyRef := new.keyRef
    createdAt := now }

/-- What `pr_check_record` records: the PR is `open`, or the read failed. -/
inductive PrCheck where
  | isOpen
  | failed (code : String)

inductive StageWrite where
  | analysisCreate (new : NewAnalysis)
  | analysisUpdate (id : String) (fields : AnalysisFields)
  | fixProposalCreate (new : NewFixProposal)
  | tokenUsageCreate (new : NewTokenUsage)
  | recordPushIntent (proposalId sha branch : String)
  | prCheckRecord (proposalId : String) (check : PrCheck)

namespace StageWrite

/-- The id of the row the statement makes; empty where it makes none. -/
abbrev Ans : StageWrite → Type
  | analysisCreate _ => String
  | fixProposalCreate _ => String
  | _ => Unit

/-- The answer and the tables after the statement, `none` when it breaks a constraint;
`fresh` is what `_new_id()` draws. -/
def apply (now : Nat) (fresh : String) : (write : StageWrite) → Stages → Option (write.Ans × Stages)
  | analysisCreate new, stages =>
      (stages.analyses.insert (new.row fresh now)).map fun analyses =>
        (fresh, { stages with analyses })
  | analysisUpdate id fields, stages =>
      if fields.accepted then
        some ((), { stages with
          analyses := stages.analyses.update id (fun _ => true) fields.write fields.write_id })
      else none
  | fixProposalCreate new, stages =>
      (stages.proposals.insert (new.row fresh now)).map fun proposals =>
        (fresh, { stages with proposals })
  | tokenUsageCreate new, stages =>
      some ((), { stages with usage := stages.usage ++ [new.row now] })
  | recordPushIntent proposalId sha branch, stages =>
      some ((), { stages with
        proposals := stages.proposals.update proposalId (fun _ => true)
          (fun row => { row with pushedSha := some sha, branchName := some branch, updatedAt := now })
          fun _ => rfl })
  | prCheckRecord proposalId .isOpen, stages =>
      some ((), { stages with
        proposals := stages.proposals.update proposalId (fun _ => true)
          (fun row => { row with
            prState := some .isOpen, prCheckedAt := some now, prCheckError := none })
          fun _ => rfl })
  | prCheckRecord proposalId (.failed code), stages =>
      some ((), { stages with
        proposals := stages.proposals.update proposalId (fun _ => true)
          (fun row => { row with prCheckedAt := some now, prCheckError := some code })
          fun _ => rfl })

end StageWrite

def interruptedError : String := "interrupted: the process stopped mid-stage"

/-- The `running` rows of a dead process, failed by `release_orphaned_claims`. -/
def failRunning (now : Nat) (analyses : Analyses) : Analyses :=
  analyses.updateAll (fun row => row.status == .running)
    (fun row => { row with
      status := .failed
      result := some (.obj [("error", .str interruptedError), ("interrupted", .bool true)])
      completedAt := some now })
    fun _ => rfl

/-- The failed `fix` row of a report found in `fix_proposing`. -/
def interruptedFix (now : Nat) (id reportId : String) : Analysis :=
  { id
    bugReportId := reportId
    phase := .fix
    status := .failed
    result := some (.obj
      [("error", .str interruptedError), ("interrupted", .bool true), ("permanent", .bool true)])
    llmProvider := none
    llmModel := none
    promptTokens := 0
    completionTokens := 0
    startedAt := none
    completedAt := some now
    triggerRef := none
    createdAt := now }

/-- One such row for each report, under the ids `_new_id` draws, which `uuid4` keeps apart. -/
def recordInterruptedFix (now : Nat) (reportIds : List String) (fresh : Nat → String)
    (analyses : Analyses) : Analyses :=
  reportIds.zipIdx.foldl
    (fun table (reportId, index) =>
      (table.insert (interruptedFix now (fresh index) reportId)).getD table)
    analyses

end Bugalizer
