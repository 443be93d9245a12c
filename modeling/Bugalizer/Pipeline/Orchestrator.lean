import Bugalizer.Pipeline.FixProposer
import Bugalizer.Pipeline.Localizer
import Bugalizer.Pipeline.Triage

/-!
# The stages of a single report

Each stage claims the report by a compare-and-set, runs, and writes the status it leaves.
-/

namespace Bugalizer

set_option autoImplicit false

open Coroutine Program

inductive LocalOutcome where
  | completed | failed | notClaimed | noRepo | alreadyFresh | triageOnly
deriving DecidableEq, Repr

def validateClaimed (reportId : String) (report : Report) : Py Unit := do
  let startedAt ← clock
  let validation ← ask (.compute (.validateReport report))
  underWriteLock do
    let completedAt ← clock
    let _ ← analysisCreate
      { bugReportId := reportId, phase := .validation, status := .completed
        result := some validation.result, startedAt := some startedAt
        completedAt := some completedAt }
    match nonBlank validation.duplicateOf with
    | some other => setStatus reportId .duplicate (some ("duplicate_of:" ++ other))
    | none => setStatus reportId .triaged none

def processSubmitted (reportId : String) : Py Unit := do
  let claimed ← underWriteLock (tryClaimReport reportId .submitted .validating none)
  if claimed then do
    match ← reportGet reportId with
    | none => pure ()
    | some ⟨report, _⟩ =>
        (validateClaimed reportId report).catching fun _ => do
          let _ ← underWriteLock (tryClaimReport reportId .validating .submitted none)
  else pure ()

def processTriaged (settings : Settings) (reportId : String) (llm : Option LlmPin)
    (triggerRef : Option String) : Py Bool := do
  let claimed ← underWriteLock (tryClaimReport reportId .triaged .analyzing none)
  if claimed then do
    match ← reportGet reportId with
    | none => pure false
    | some ⟨report, _⟩ => do
        let run : Py Unit := do
          let _ ← triageReport settings report (llm.map Prod.snd) (llm.map Prod.fst) triggerRef
        run.catching fun _ => pure ()
        pure true
  else pure false

/-- Whether a localization row is current for `sha`. -/
def freshFor (sha : String) (analysis : Analysis) : Bool :=
  analysis.status == .completed && analysis.result.any fun result =>
    result.truthy && result.isObj && (result.get "repo_sha").isStr sha

def triageSummaryOf (analyses : List Analysis) : Py Json :=
  match analyses.find? fun analysis =>
      analysis.status == .completed && analysis.result.any Json.truthy with
  | none => pure .null
  | some analysis => getField (analysis.result.getD .null) "summary"

/-- The body of `process_localization`'s `try`. -/
def localizeClaimed (settings : Settings) (reportId : String) (report : Report) (project : Project)
    (repoPath : String) (llm : Option LlmPin) (triggerRef : Option String) : Py LocalOutcome := do
  let sha ← remote (.getHeadSha repoPath)
  let _ ← projectUpdateCall project.id { headSha := some sha }
  let existing ← analysesForReport reportId (some .localization)
  if existing.any (freshFor sha) then do
    underWriteLock (setStatus reportId .triaged none)
    pure .alreadyFresh
  else do
    let repoMapText ← remote (.getOrBuildRepoMap project.id project.defaultBranch repoPath)
    let triageAnalyses ← analysesForReport reportId (some .triage)
    let triageSummary ← triageSummaryOf triageAnalyses
    let picked := llm.getD (resolveLocalLlm settings (some project) .localize)
    let _ ← localizeReport settings report repoMapText sha repoPath (some picked.2)
      (some picked.1) triageSummary triggerRef
    underWriteLock (setStatus reportId .triaged none)
    pure .completed

def processLocalization (settings : Settings) (reportId : String) (llm : Option LlmPin)
    (triggerRef : Option String) : Py LocalOutcome := do
  let claimed ← underWriteLock (tryClaimReport reportId .triaged .analyzing none)
  if claimed then do
    match ← reportGet reportId with
    | none => pure .notClaimed
    | some ⟨report, _⟩ => do
        let project ← projectGet report.projectId
        match project.bind fun project =>
            (nonBlank project.repoPath).map fun path => (project, path) with
        | none => do
            underWriteLock (setStatus reportId .triaged none)
            pure .noRepo
        | some (project, repoPath) =>
            (localizeClaimed settings reportId report project repoPath llm triggerRef).catching
              fun _ => do
                underWriteLock (setStatus reportId .triaged none)
                pure .failed
  else pure .notClaimed

structure LocalArgs where
  triageLlm : Option LlmPin := none
  localizeLlm : Option LlmPin := none
  triggerRef : Option String := none

/-- A report waiting for clarification is moved on first: the user asked to analyze it anyway. -/
def pushClarified (reportId : String) (report : Report) : Py Unit :=
  if report.status = .clarificationNeeded then
    underWriteLock do
      let claimed ← tryClaimReport reportId .clarificationNeeded .analyzing none
      if claimed then setStatus reportId .triaged none else pure ()
  else pure ()

def runLocalAnalysis (settings : Settings) (reportId : String) (args : LocalArgs) :
    Py LocalOutcome := do
  match ← reportGet reportId with
  | none => pure .notClaimed
  | some ⟨report, _⟩ => do
      pushClarified reportId report
      let triages ← analysesForReport reportId (some .triage)
      let triagedNow ← if triages.any fun analysis => analysis.status == .completed
        then pure false
        else processTriaged settings reportId args.triageLlm args.triggerRef
      let outcome ← processLocalization settings reportId args.localizeLlm args.triggerRef
      if outcome = .notClaimed && triagedNow then pure .triageOnly else pure outcome

def processFixProposal (settings : Settings) (reportId : String) (override : Option LLMOverride) :
    Py FixOutcome :=
  proposeFix settings reportId { override }

end Bugalizer
