import Bugalizer.GitOps.PullRequest
import Bugalizer.Pipeline.Orchestrator

/-!
# Report endpoints

The checks the endpoints share with the triage sync, and the handlers that change a
report. A handler that refuses raises its `HTTPException`.
-/

namespace Bugalizer

set_option autoImplicit false

open Coroutine Program

def checkLocalAnalysis (row : Report) : Option String :=
  if row.status = .triaged ∨ row.status = .clarificationNeeded then none
  else some ("Report is in status '" ++ row.status.value ++
    "'; manual local analysis requires 'triaged' or 'clarification_needed'")

/-- `repr` of an optional SHA, as the detail text shows it. -/
def shaText (sha : Json) : String := (sha.string?.map fun text => "'" ++ text ++ "'").getD "None"

def checkCloudAnalysis (row : Report) (project : Option Project) : Py (Option String) := do
  if row.status = .triaged then do
    match ← latestCompletedLocalization row.id with
    | none => pure (some "No completed localization; run local analysis first")
    | some localization => do
        let headSha := project.bind fun project => nonBlank project.headSha
        if headSha.any fun sha => (localizationSha localization).isStr sha then pure none
        else pure (some ("Localization is stale (repo_sha=" ++ shaText (localizationSha localization) ++
          " != project head_sha=" ++
          shaText ((project.bind Project.headSha).elim .null .str) ++
          "); re-run local analysis first"))
  else pure (some ("Report is in status '" ++ row.status.value ++
    "'; cloud analysis requires 'triaged' (run local analysis first)"))

def checkStatusTransition (row : Report) (target : BugStatus) : Option String :=
  if row.status.terminal then
    some ("Cannot transition from terminal status '" ++ row.status.value ++ "'")
  else if validateTransition row.status target true then none
  else some ("Invalid transition: '" ++ row.status.value ++ "' → '" ++ target.value ++ "'")

/-- `PATCH /reports/{id}/status`. -/
def updateReportStatus (reportId : String) (target : BugStatus) (reason : Option String) :
    Py Unit := do
  match ← reportGet reportId with
  | none => raise (.httpException 404)
  | some ⟨row, _⟩ =>
      if (checkStatusTransition row target).isSome then raise (.httpException 409)
      else do
        let updated ← reportUpdateStatus reportId target reason (some row.status)
        if updated.isNone then raise (.httpException 409) else pure ()

/-- `PATCH /reports/{id}/analysis_mode`. -/
def updateAnalysisMode (reportId : String) (mode : AnalysisMode) : Py Unit := do
  match ← reportGet reportId with
  | none => raise (.httpException 404)
  | some _ => do
      let _ ← reportUpdateFields reportId { analysisMode := some (.str mode.value) }

/-- `DELETE /reports/{id}`. -/
def deleteReport (reportId : String) : Py Unit := do
  match ← reportGet reportId with
  | none => raise (.httpException 404)
  | some ⟨row, _⟩ =>
      if row.resolutionReason = some "deleted" then raise (.httpException 404)
      else do
        let running ← openPrRunning reportId
        if running then raise (.httpException 409)
        else do
          let deleted ← reportDelete reportId (some row.status) (some row.claimToken)
          if deleted then pure () else raise (.httpException 409)

/-- The rules on a request's model override, each a 422. -/
def overrideRefused (tier : AnalysisTier) (override : LLMOverride) : Bool :=
  tier != .cloud || (override.keyRef.isSome && !override.hasKey) ||
    (override.keyRef.isSome && override.apiKey.isSome && override.keyRef == override.apiKey)

/-- Whether the override names anything; else the task runs without one. -/
def overrideGiven (override : LLMOverride) : Bool :=
  (nonBlank override.provider).isSome || (nonBlank override.model).isSome || override.hasKey

/-- `POST /reports/{id}/analyze`, and the background task it leaves to run after its answer. -/
def analyzeReport (settings : Settings) (reportId : String) (tier : AnalysisTier)
    (override : Option LLMOverride) : Py Unit := do
  match ← reportGet reportId with
  | none => raise (.httpException 404)
  | some ⟨row, _⟩ =>
      if override.any (overrideRefused tier) then raise (.httpException 422)
      else
        match tier with
        | .localTier =>
            if (checkLocalAnalysis row).isSome then raise (.httpException 409)
            else do
              let _ ← runLocalAnalysis settings reportId {}
        | .cloud => do
            let project ← projectGet row.projectId
            let refusal ← checkCloudAnalysis row project
            if refusal.isSome then raise (.httpException 409)
            else do
              let _ ← processFixProposal settings reportId (override.filter overrideGiven)

/-- `POST /reports/{id}/open-pr`; every failure is an answer. -/
def openPr (settings : Settings) (reportId : String) (proposalId : Option String) : Py Unit := do
  match ← reportGet reportId with
  | none => raise (.httpException 404)
  | some _ => do
      let call : Py Unit := do
        let _ ← openPullRequest settings reportId proposalId
      call.catching fun _ => pure ()

end Bugalizer
