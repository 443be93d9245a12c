import Bugalizer.Llm.Client

/-!
# Stage 3: localization

Two passes: the repo map names candidate files, and a confident first pass is refined on
their contents.
-/

namespace Bugalizer

set_option autoImplicit false

open Coroutine Program

/-- What one pass leaves: the parsed answer and its response. -/
structure Pass where
  result : Json
  response : LlmResponse

def localizePass (settings : Settings) (prompt : Prompt) (provider model : String) : Py Pass := do
  formatPrompt prompt
  let response ← complete settings { model := some model, messages := prompt, provider }
  let result ← parseJson response.content
  pure ⟨result, response⟩

def localizeUsage (report : Report) (response : LlmResponse) : Py Unit :=
  underWriteLock <| tokenUsageCreate
    { projectId := report.projectId, provider := response.provider, model := response.model
      bugReportId := report.id, promptTokens := response.promptTokens
      completionTokens := response.completionTokens }

/-- Pass 2, when the first pass is confident and its candidate files can be read. -/
def confirmPass (settings : Settings) (report : Report) (repoPath provider model : String)
    (triageSummary confidence candidateFiles : Json) : Py (Option Pass) := do
  let confident ← ask (.compute (.reachesThreshold confidence))
  if confident && candidateFiles.truthy then do
    let read ← remote (.readCandidateFiles repoPath candidateFiles settings.localizeMaxFiles
      settings.localizeMaxFileChars)
    if read.files.isEmpty then pure none
    else do
      let pass ← localizePass settings (.confirm report read.files triageSummary) provider model
      localizeUsage report pass.response
      pure (some pass)
  else pure none

def localizeRun (settings : Settings) (report : Report)
    (repoMapText repoSha repoPath provider model : String) (triageSummary : Json)
    (analysisId : String) : Py Json := do
  let first ← localizePass settings (.localize report repoMapText triageSummary) provider model
  localizeUsage report first.response
  let confidence ← getField first.result "confidence"
  let candidateFiles ← getField first.result "candidate_files"
  -- `.get("confidence", 0)`: only a missing key is replaced, a `null` stays.
  let confidence := if (first.result.field? "confidence").isSome then confidence else .int 0
  let second ← confirmPass settings report repoPath provider model triageSummary confidence
    candidateFiles
  let result := Json.obj
    [("pass1", first.result), ("pass2", second.elim .null Pass.result), ("repo_sha", .str repoSha)]
  let completedAt ← clock
  underWriteLock <| analysisUpdate analysisId
    { status := .completed, result, completedAt
      llm := some (first.response.provider, first.response.model,
        first.response.promptTokens + second.elim 0 (·.response.promptTokens),
        first.response.completionTokens + second.elim 0 (·.response.completionTokens)) }
  pure result

def localizeFailed (analysisId : String) (error : Exn) : Py Json := do
  let completedAt ← clock
  underWriteLock <| analysisUpdate analysisId
    { status := .failed, result := .obj [("error", .str error.text)], completedAt }
  raise error

def localizeReport (settings : Settings) (report : Report)
    (repoMapText repoSha repoPath : String) (model provider : Option String)
    (triageSummary : Json) (triggerRef : Option String) : Py Json := do
  let startedAt ← clock
  let analysisId ← underWriteLock <| analysisCreate
    { bugReportId := report.id, phase := .localization, status := .running
      startedAt := some startedAt, triggerRef }
  (localizeRun settings report repoMapText repoSha repoPath (provider.getD "ollama")
    (model.getD settings.defaultLocalizeModel) triageSummary analysisId).catching
    (localizeFailed analysisId)

end Bugalizer
