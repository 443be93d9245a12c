import Bugalizer.Calls

/-!
# Project endpoints that change a project
-/

namespace Bugalizer

set_option autoImplicit false

open Coroutine Program

/-- `_check_triage_source`: one sync consumer per sonicgrid. -/
def checkTriageSource (projectId : String) (config : Json) : Py Unit :=
  if config.isObj && (config.get "triage_credential_env").truthy then do
    let base ← triageBaseUrl config
    let others ← query .projectsWithTriageSync
    forEach others fun other =>
      if other.id = projectId then pure ()
      else do
        let taken ← triageBaseUrl other.ingestConfig
        if taken = base then raise (.httpException 409) else pure ()
  else pure ()

/-- The ingest pair of the merged row; a `null` on either clears both. -/
def mergedIngest (updates : ProjectFields) (existing : Project) : Option String × Json :=
  if updates.ingestSource = some none || updates.ingestConfig.any Json.isNull then (none, .null)
  else (updates.ingestSource.getD existing.ingestSource,
    updates.ingestConfig.getD existing.ingestConfig)

/-- `PATCH /projects/{id}`. -/
def updateProject (projectId : String) (updates : ProjectFields) : Py Unit := do
  let checked ← if updates.ingestSource.isSome || updates.ingestConfig.isSome then do
      match ← projectGet projectId with
      | none => raise (.httpException 404)
      | some existing => do
          let merged := mergedIngest updates existing
          let pair ← ask (.compute (.validateIngestPair merged.1 merged.2))
          checkTriageSource projectId pair.2
          pure { updates with ingestSource := some pair.1, ingestConfig := some pair.2 }
    else pure updates
  let row ← projectUpdateCall projectId checked
  if row.isNone then raise (.httpException 404) else pure ()

/-- `POST /projects/{id}/clone`. -/
def cloneProjectRepo (projectId : String) : Py Unit := do
  match ← projectGet projectId with
  | none => raise (.httpException 404)
  | some project => do
      let repoPath ← remote (.cloneRepo project.repoUrl projectId project.defaultBranch)
      let headSha ← remote (.getHeadSha repoPath)
      let _ ← projectUpdateCall projectId { repoPath := some repoPath, headSha := some headSha }

/-- `POST /projects/{id}/refresh-map`. -/
def refreshRepoMap (projectId : String) : Py Unit := do
  match ← projectGet projectId with
  | none => raise (.httpException 404)
  | some project =>
      match nonBlank project.repoPath with
      | none => raise (.httpException 400)
      | some repoPath => do
          remote (.pullRepo repoPath)
          let sha ← remote (.buildRepoMap projectId project.defaultBranch repoPath)
          let _ ← projectUpdateCall projectId { headSha := some sha }

end Bugalizer
