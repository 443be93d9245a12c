import Bugalizer.Llm.Client

/-!
# Stage 2: triage
-/

namespace Bugalizer

set_option autoImplicit false

open Coroutine Program

/-- The provider and model of a triage run: explicit arguments win, field by field. -/
def triageModel (settings : Settings) (report : Report) (model provider : Option String) :
    Py LlmPin := do
  match provider, model with
  | some provider, some model => pure (provider, model)
  | provider, model => do
      let project ← projectGet report.projectId
      let resolved := resolveLocalLlm settings project .triage
      pure (orDefault provider resolved.1, orDefault model resolved.2)

/-- `update_fields`: what the model's answer sets on the report. -/
def triageFields (severity featureArea : Json) : ReportFields :=
  { severity := if severity.truthy then some severity else none
    featureArea := if featureArea.truthy then some featureArea else none }

def triageWrites (report : Report) (analysisId : String) (response : LlmResponse)
    (result : Json) (completedAt : Nat) : Py Json := do
  analysisUpdate analysisId
    { status := .completed, result, completedAt
      llm := some (response.provider, response.model, response.promptTokens,
        response.completionTokens) }
  let severity ← getField result "severity"
  let featureArea ← getField result "feature_area"
  let fields := triageFields severity featureArea
  if fields.severity.isSome || fields.featureArea.isSome then do
    let _ ← reportUpdateFields report.id fields
  else pure ()
  tokenUsageCreate
    { projectId := report.projectId, provider := response.provider, model := response.model
      bugReportId := report.id, promptTokens := response.promptTokens
      completionTokens := response.completionTokens }
  let needsClarification ← getField result "needs_clarification"
  if needsClarification.truthy then setStatus report.id .clarificationNeeded none
  else setStatus report.id .triaged none
  pure result

def triageRun (settings : Settings) (report : Report) (provider model analysisId : String) :
    Py Json := do
  formatPrompt (.triage report)
  let response ← complete settings { model := some model, messages := .triage report, provider }
  let result ← parseJson response.content
  let completedAt ← clock
  underWriteLock (triageWrites report analysisId response result completedAt)

def triageFailed (report : Report) (analysisId : String) (error : Exn) : Py Json := do
  let completedAt ← clock
  underWriteLock do
    analysisUpdate analysisId
      { status := .failed, result := .obj [("error", .str error.text)], completedAt }
    setStatus report.id .triaged none
  raise error

def triageReport (settings : Settings) (report : Report) (model provider : Option String)
    (triggerRef : Option String) : Py Json := do
  let (provider, model) ← triageModel settings report model provider
  let startedAt ← clock
  let analysisId ← underWriteLock <| analysisCreate
    { bugReportId := report.id, phase := .triage, status := .running
      startedAt := some startedAt, triggerRef }
  (triageRun settings report provider model analysisId).catching
    (triageFailed report analysisId)

end Bugalizer
