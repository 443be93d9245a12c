import Bugalizer.Api.Reports

/-!
# The action executor

Authorization of a sonicgrid action, its execution, and the evidence its own rows leave.
-/

namespace Bugalizer

set_option autoImplicit false

open Coroutine Program

def allowlistRefusal : String :=
  "Cloud analysis from sonicgrid is limited to allowlisted users (BUGALIZER_SONICGRID_CLOUD_USERS). Local analysis is available to every admin."

def userKeysOffRefusal : String := "Per-user keys are not enabled on Bugalizer yet; nothing ran."

def legacyRefusal : String := "Requested before per-user keys; request again."

def noPinRefusal : String := "Requested without a model pin; request again."

def reopened : String := "Report reopened in Bugalizer"

def repoWriteRefusal : String := "The repo-write consent was not given."

def cloudSpendRefusal : String := "The cloud-spend consent was not given."

def invalidCredential : String := "invalid credential response"

def reopenRefusal (status : String) : String :=
  "Only a closed report can be reopened; this one is " ++ orDefault (some status) "unknown"

/-- `clip`, with `MESSAGE_MAX`. -/
def clip (text : String) : String := Py.clipTo 2000 text

/-- `(provider or "").strip().lower() not in LOCAL_PROVIDERS`. -/
def isPaid (provider : String) : Bool :=
  Py.lowered (Py.stripped provider.toList) != "ollama".toList

def openPrRefused : List String :=
  ["report_not_found", "proposal_not_found", "no_proposal", "wrong_status",
    "github_not_configured", "not_github", "not_cloned", "bad_default_branch", "bad_id",
    "pr_exists", "pr_unattributed", "diff_does_not_apply", "branch_exists"]

def requester : String := "requester"

def requesterProvider : String := "anthropic"

/-- A listed action that passed `_well_formed`. -/
structure ListedAction where
  id : String
  bugId : String
  kind : Kind
  params : Json
  consents : Json
  requestedBy : Json

structure Result where
  outcome : Verdict
  message : Option String := none
  steps : Option (List ActionStep) := none
  proposalId : Option String := none
  prUrl : Option String := none

structure Authorization where
  refusal : Option Result := none
  pinned : PinnedLlm := ⟨none, none, none⟩
  noAutoRetry : Bool := false
  keyMode : Option String := none

def skippedPr : ActionStep := { step := .openPr, state := .skipped }

def compoundSteps (fix : ActionStep) (pr : Option ActionStep) : List ActionStep :=
  [fix, pr.getD skippedPr]

def stepResult (kind : Kind) (state : Verdict) (message : String) : Result :=
  if kind = .fixAndOpenPr then
    { outcome := state, message := some message
      steps := some (compoundSteps
        { step := .fix, state, message := some (clip message) } none) }
  else { outcome := state, message := some message }

def refuse (kind : Kind) (message : String) : Result := stepResult kind .refused message

def requesterPin (params : Json) : Option LlmPin :=
  match params.field? "llm" with
  | some (.obj fields) =>
      match (Json.obj fields).get "provider", (Json.obj fields).get "model" with
      | .str provider, .str model =>
          if provider = requesterProvider ∧ ¬ Py.isBlank model ∧ model.length ≤ 200 then
            some (provider, model)
          else none
      | _, _ => none
  | _ => none

def fixPin (pin : LlmPin) : PinnedLlm := ⟨none, none, some pin⟩

def refused (kind : Kind) (message : String) (pinned : PinnedLlm := ⟨none, none, none⟩) :
    Authorization :=
  { refusal := some (refuse kind message), pinned }

/-- `value or {}`. -/
def objectOr (value : Json) : Json := if value.truthy then value else .obj []

/-- `consents.get(name) is True`. -/
def consented (action : ListedAction) (name : String) : Py Bool := do
  let given ← getField (objectOr action.consents) name
  pure given.isTrue

def allowlisted (settings : Settings) (email : Json) : Py Bool :=
  match email with
  | .str text =>
      pure (text != "" &&
        decide (settings.casefold (Py.strip text) ∈ settings.sonicgridCloudUserSet))
  | email =>
      if email.truthy then raise (.plain "AttributeError" "no attribute 'strip'") else pure false

/-- The last check of a paid action, and its authorization if that passes. -/
def authorizeChecked (project : Project) (report : Report) (kind : Kind)
    (granted : Authorization) : Py Authorization := do
  match ← checkCloudAnalysis report (some project) with
  | some message => pure (refused kind message granted.pinned)
  | none => pure granted

def authorizeRequester (project : Project) (report : Report) (action : ListedAction)
    (params : Json) : Py Authorization := do
  let kind := action.kind
  if (params.field? "llm").isNone then pure (refused kind legacyRefusal)
  else
    match requesterPin params with
    | none => pure (refused kind noPinRefusal)
    | some pin => do
        let repoWrite ← if kind = .fixAndOpenPr then consented action "repoWrite" else pure true
        if !repoWrite then pure (refused kind repoWriteRefusal (fixPin pin))
        else do
          let cloudSpend ← if kind = .fixAndOpenPr then consented action "cloudSpend" else pure true
          if !cloudSpend then pure (refused kind cloudSpendRefusal (fixPin pin))
          else do
            let granted : Authorization :=
              { pinned := fixPin pin, noAutoRetry := true, keyMode := some requester }
            authorizeChecked project report kind granted

/-- The `analyze_local` branch: both stages on unpaid providers only. -/
def authorizeLocal (settings : Settings) (project : Project) (report : Report)
    (action : ListedAction) : Authorization :=
  let triage := resolveLocalLlm settings (some project) .triage
  let localize := resolveLocalLlm settings (some project) .localize
  let pinned : PinnedLlm := ⟨some triage, some localize, none⟩
  match [triage, localize].find? fun pin => isPaid pin.1 with
  | some paid => refused action.kind
      ("This project's local stages are configured for a non-local provider (" ++ paid.1 ++
        "); Analyze (local) from sonicgrid runs only on local models.") pinned
  | none =>
      match checkLocalAnalysis report with
      | some message => refused action.kind message pinned
      | none => { pinned }

/-- The paid kinds with per-user keys off. -/
def authorizeLegacy (settings : Settings) (project : Project) (report : Report)
    (action : ListedAction) (params email : Json) : Py Authorization := do
  let kind := action.kind
  if (params.field? "llm").isSome then pure (refused kind userKeysOffRefusal)
  else do
    let fix := resolveFixLlm settings (some project)
    let paid := isPaid fix.1
    let repoWrite ← if kind = .fixAndOpenPr then consented action "repoWrite" else pure true
    if !repoWrite then pure (refused kind repoWriteRefusal (fixPin fix))
    else do
      let cloudSpend ← if kind = .fixAndOpenPr && paid then consented action "cloudSpend"
        else pure true
      if !cloudSpend then pure (refused kind cloudSpendRefusal (fixPin fix))
      else do
        let allowed ← if decide (kind = .analyzeCloud) || paid then allowlisted settings email
          else pure true
        if !allowed then pure (refused kind allowlistRefusal (fixPin fix))
        else do
          let granted : Authorization :=
            { pinned := fixPin fix, noAutoRetry := decide (kind = .analyzeCloud) || paid }
          authorizeChecked project report kind granted

def modes : List AnalysisMode := [.auto, .localOnly, .hold]

/-- `set_mode`: a mode that cannot be hashed is an exception, not a refusal. -/
def authorizeMode (action : ListedAction) : Py Authorization := do
  match ← getField (objectOr action.params) "mode" with
  | .arr _ | .obj _ => raise (.plain "TypeError" "unhashable type")
  | mode =>
      if modes.any fun known => mode.isStr known.value then pure {}
      else pure (refused action.kind "params.mode must be auto, local_only or hold")

def authorize (settings : Settings) (project : Project) (report : Report)
    (action : ListedAction) : Py Authorization := do
  let email ← getField (objectOr action.requestedBy) "email"
  let params := if action.params.isObj then action.params else .obj []
  match action.kind with
  | .unknown text => pure (refused action.kind ("Unknown action kind '" ++ text ++ "'"))
  | .analyzeLocal => pure (authorizeLocal settings project report action)
  | .analyzeCloud | .fixAndOpenPr =>
      if settings.sonicgridUserKeys then authorizeRequester project report action params
      else authorizeLegacy settings project report action params email
  | .openPr => do
      let repoWrite ← consented action "repoWrite"
      if repoWrite then pure {} else pure (refused action.kind repoWriteRefusal)
  | .setMode => authorizeMode action
  | .reopen =>
      if report.status = .closed then pure {}
      else pure (refused action.kind (reopenRefusal report.status.value))
  | .close =>
      match checkStatusTransition report .closed with
      | some message => pure (refused action.kind message)
      | none => pure {}

def attributionRef (row : TriageAction) : Option String :=
  (nonBlank row.requestedByUserId).map fun user => Py.clipTo 128 ("sonicgrid:" ++ user)

def mapLocal : LocalOutcome → Result
  | .completed => { outcome := .done, message := some "Local analysis finished: localization written" }
  | .failed =>
      { outcome := .failed
        message := some "Local analysis ran and failed; see Bugalizer for the error" }
  | .triageOnly =>
      { outcome := .failed
        message := some "Triage asked for clarification; no localization was produced" }
  | .alreadyFresh =>
      { outcome := .refused
        message := some "Localization is already current for this commit; nothing re-run" }
  | .noRepo => { outcome := .refused, message := some "The project repo is not cloned on Bugalizer" }
  | .notClaimed =>
      { outcome := .refused, message := some "Another analysis held this report; nothing ran" }

def fixMessage (outcome : FixOutcome) : String :=
  match outcome.kind with
  | .failed => "The fix proposal failed: " ++ orDefault outcome.error "error"
  | .alreadyProposed =>
      "The latest localization already has fix proposal " ++ outcome.proposalId.getD "None" ++
        "; request Open PR for it, or re-run local analysis first"
  | .deferred => "The fix did not run: " ++ orDefault outcome.error "precondition not met"
  | _ => "Another run held this report; nothing ran"

def mapFix (kind : Kind) (outcome : FixOutcome) : Result :=
  match outcome.kind with
  | .proposed =>
      if kind = .fixAndOpenPr then { outcome := .fixDone, proposalId := outcome.proposalId }
      else
        { outcome := .done
          message := some ("Fix proposal " ++ outcome.proposalId.getD "None" ++ " made")
          proposalId := outcome.proposalId }
  | .failed => stepResult kind .failed (fixMessage outcome)
  | _ => stepResult kind .refused (fixMessage outcome)

def validationError : Exn := .plain "ValidationError" "LLMOverride"

/-- `LLMOverride(...)`, whose field bounds may refuse. -/
def makeOverride (pin : LlmPin) (apiKey keyRef : Option String) : Py LLMOverride :=
  match LLMOverride.validate (some pin.1) (some pin.2) apiKey keyRef with
  | some override => pure override
  | none => raise validationError

def runRequester (settings : Settings) (row : TriageAction) (apiKey : Option String) :
    Py Result := do
  match row.pinnedLlm.bind PinnedLlm.fix, nonBlank apiKey with
  | some pin, some key =>
      if pin.1 = requesterProvider then do
        let override ← makeOverride pin (some key) (attributionRef row)
        let outcome ← proposeFix settings row.reportId
          { override := some override, triggerRef := some row.actionId, requireRequestKey := true }
        pure (mapFix row.kind outcome)
      else pure (stepResult row.kind .failed invalidCredential)
  | _, _ => pure (stepResult row.kind .failed invalidCredential)

def runLegacyFix (settings : Settings) (row : TriageAction) : Py Result := do
  let pin := row.pinnedLlm.bind PinnedLlm.fix
  if settings.sonicgridUserKeys && pin.all fun pin => isPaid pin.1 then
    pure (refuse row.kind legacyRefusal)
  else do
    let override ← match pin with
      | none => pure none
      | some pin => do
          let override ← makeOverride pin none none
          pure (some override)
    let outcome ← proposeFix settings row.reportId
      { override, attributionRef := attributionRef row, triggerRef := some row.actionId }
    pure (mapFix row.kind outcome)

def runLlm (settings : Settings) (row : TriageAction) (apiKey : Option String) : Py Result := do
  note (.runLlm row.actionId)
  if row.keyMode = some requester then runRequester settings row apiKey
  else if row.kind = .analyzeLocal then do
    let outcome ← runLocalAnalysis settings row.reportId
      { triageLlm := row.pinnedLlm.bind PinnedLlm.triage
        localizeLlm := row.pinnedLlm.bind PinnedLlm.localization
        triggerRef := some row.actionId }
    pure (mapLocal outcome)
  else runLegacyFix settings row

/-- `StepResult`; no `state` is no outcome yet. -/
structure StepResult where
  state : Option Verdict
  message : Option String := none
  ref : Option String := none
  attempts : Nat := 0

def pushedNote (reportId : String) (proposalId : Option String) : Py String := do
  let proposals ← fixProposalsForReport reportId
  let target := (proposals.find? fun proposal => some proposal.id = proposalId).or proposals.head?
  match target.bind fun proposal => nonBlank proposal.pushedSha,
      target.bind fun proposal => nonBlank proposal.branchName with
  | some _, some branch => pure ("branch `" ++ branch ++ "` pushed; ")
  | _, _ => pure ""

/-- The end of a failed attempt: stay claimed, or fail at `PR_STEP_MAX_ATTEMPTS`. -/
def prAttemptFailed (reportId : String) (proposalId : Option String) (attempts : Nat)
    (detail : String) : Py StepResult := do
  if attempts + 1 < 3 then pure { state := none, attempts := attempts + 1 }
  else do
    let pushed ← pushedNote reportId proposalId
    pure
      { state := some .failed
        message := some (pushed ++ "PR creation failed after " ++ toString (attempts + 1) ++
          " attempts (" ++ detail ++ "); a later Open PR request resumes from here")
        attempts := attempts + 1 }

def prRefusal (error : OpenPrError) (attempts : Nat) : StepResult :=
  let message := match nonBlank error.prUrl with
    | some url => error.message ++ " (" ++ url ++ ")"
    | none => error.message
  { state := some .refused, message := some (error.code ++ ": " ++ message), attempts }

/-- The `else` of `pr_step`'s `try`: a body without a branch is an uncaught `KeyError`. -/
def prOpened (answer : PrAnswer) (attempts : Nat) : Py StepResult :=
  match answer.branch with
  | none => raise (.plain "KeyError" "branch")
  | some branch =>
      let verb := if answer.created.getD true then "opened" else "already open"
      pure
        { state := some .done
          message := some ("PR #" ++ toString answer.prNumber ++ " " ++ verb ++ " on " ++ branch)
          ref := some answer.prUrl, attempts }

def prStepFailed (reportId : String) (proposalId : Option String) (attempts : Nat)
    (error : Exn) : Py StepResult :=
  match error with
  | .openPr error =>
      if error.code ∈ openPrRefused then pure (prRefusal error attempts)
      else if error.code = "in_progress" then pure { state := none, attempts }
      else prAttemptFailed reportId proposalId attempts error.code
  | error => prAttemptFailed reportId proposalId attempts error.typeName

/-- `pr_step`. Only the call itself is inside its `try`. -/
def prStep (settings : Settings) (reportId : String) (proposalId : Option String)
    (attempts : Nat) : Py StepResult := do
  let opened : Py (Except StepResult PrAnswer) := do
    let answer ← openPullRequest settings reportId proposalId
    pure (.ok answer)
  match ← opened.catching fun error => do
      let step ← prStepFailed reportId proposalId attempts error
      pure (.error step) with
  | .ok answer => prOpened answer attempts
  | .error step => pure step

def runSetMode (row : TriageAction) : Py Result := do
  let write : Py Result := do
    let _ ← reportUpdateFields row.reportId { analysisMode := some (row.params.get "mode") }
    pure
      { outcome := .done
        message := some ("Analysis mode set to " ++ ((row.params.get "mode").string?.getD "None")) }
  write.catching fun error =>
    pure { outcome := .failed, message := some ("Could not set the mode (" ++ error.typeName ++ ")") }

def runClose (row : TriageAction) (report : Report) : Py Result := do
  if report.status = .closed then pure { outcome := .done, message := some "Report closed in Bugalizer" }
  else
    match checkStatusTransition report .closed with
    | some message => pure { outcome := .refused, message := some message }
    | none => do
        let write : Py Result := do
          let updated ← reportUpdateStatus row.reportId .closed none (some report.status)
          if updated.isNone then
            pure
              { outcome := .refused
                message := some "Report status changed during the update; request again" }
          else pure { outcome := .done, message := some "Report closed in Bugalizer" }
        write.catching fun error =>
          pure
            { outcome := .failed
              message := some ("Could not close the report (" ++ error.typeName ++ ")") }

/-- `run_inline`: `set_mode` and `close`. -/
def runInlineResult (row : TriageAction) : Py Result := do
  note (.runInline row.actionId)
  match ← reportGet row.reportId with
  | none => pure { outcome := .refused, message := some "Bug report not found in Bugalizer" }
  | some ⟨report, _⟩ => if row.kind = .setMode then runSetMode row else runClose row report

def interrupted (analysis : Analysis) : Bool :=
  analysis.result.any fun result => result.isObj && (result.get "interrupted").truthy

def finishedRows (actionId : String) : Py (List Analysis) := do
  let rows ← query (.analysesByTrigger actionId)
  pure (rows.filter fun analysis => !interrupted analysis)

def fixFailedMessage : String := "The fix proposal failed; see Bugalizer for the error"

/-- A failed compound action whose PR step never ran, or a plain failure. -/
def failedFix (kind : Kind) (message : String) : Result :=
  if kind = .fixAndOpenPr then
    { outcome := .failed, message := some message
      steps := some (compoundSteps { step := .fix, state := .failed, message := some message } none) }
  else { outcome := .failed, message := some message }

def localEvidence (rows : List Analysis) : Option Result :=
  if rows.any fun analysis => analysis.phase == .localization && analysis.status == .completed then
    some (mapLocal .completed)
  else if rows.any fun analysis => analysis.status == .failed then some (mapLocal .failed)
  else none

def paidEvidence (row : TriageAction) : Py (Option Result) := do
  let proposals ← query (.fixProposalsByTrigger row.actionId)
  match proposals with
  | newest :: _ =>
      if row.kind = .fixAndOpenPr then
        pure (some { outcome := .fixDone, proposalId := some newest.id })
      else
        pure (some
          { outcome := .done, message := some ("Fix proposal " ++ newest.id ++ " made")
            proposalId := some newest.id })
  | [] => do
      let rows ← finishedRows row.actionId
      if rows.any fun analysis => analysis.phase == .fix && analysis.status == .failed then
        pure (some (failedFix row.kind fixFailedMessage))
      else pure none

def evidence (row : TriageAction) : Py (Option Result) := do
  match row.kind with
  | .analyzeLocal => do
      let rows ← finishedRows row.actionId
      pure (localEvidence rows)
  | .analyzeCloud | .fixAndOpenPr => paidEvidence row
  | _ => pure none

def stageClaimHeld (reportId : String) : Py Bool := do
  let report ← reportGet reportId
  pure (report.any fun report =>
    report.1.status == .analyzing || report.1.status == .fixProposing)

def unconfirmedFailure (kind : Kind) : Result :=
  failedFix kind
    "dispatch could not be confirmed; not retried automatically to avoid a second cloud charge; request again"

end Bugalizer
