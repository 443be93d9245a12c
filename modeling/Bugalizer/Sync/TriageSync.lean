import Bugalizer.Sync.Actions

/-!
# The triage sync

One tick of a project: the time bound, the pull requests, the drain of finished
outcomes, the walk over the listed actions, and the push of results. An action goes
reserved, intent, dispatched and, if it is compound, fix done; each step is one
conditional write of its ledger row.
-/

namespace Bugalizer

set_option autoImplicit false

open Coroutine Program

/-- `_Api._request`: the failures that end a project's tick. -/
def request (call : Remote) (read : call.Ans → HttpResponse) : Py HttpResponse := do
  let answer ← (remote call).catching fun error =>
    match error with
    | .fault ⟨.httpTimeout, _, _⟩ => raise (.abort "timeout")
    | .fault ⟨.http, _, _⟩ => raise (.abort "network_error")
    | error => raise error
  let response := read answer
  if response.status = 401 then raise (.abort "unauthorized")
  else if response.status = 503 then raise (.abort "source_not_configured")
  else if 500 ≤ response.status ∧ response.status < 600 then raise (.abort "upstream_error")
  else pure response

/-- `_json`: a body that is no object is `{}`. -/
def jsonBody (response : HttpResponse) : Json :=
  match response.body with
  | some (.obj fields) => .obj fields
  | _ => .obj []

/-- `_well_formed`, with the fields a well-formed action is read for. -/
def wellFormed (action : Json) : Option ListedAction :=
  match action.get "id", action.get "bugId", action.get "kind" with
  | .str id, .str bugId, .str kind =>
      if id != "" && bugId != "" &&
          ((action.get "state").isStr "pending" || (action.get "state").isStr "claimed") then
        some
          { id, bugId, kind := .parse kind, params := action.get "params"
            consents := action.get "consents", requestedBy := action.get "requestedBy" }
      else none
  | _, _, _ => none

/-- `list_actions`, from a cursor on; `pages` is what is left of `MAX_PAGES`. -/
def listActions (endpoint : Endpoint) : Nat → Option String → Py (List ListedAction)
  | 0, _ => pure []
  | pages + 1, cursor => do
      let response ← request (.listActions endpoint cursor) id
      if response.status = 200 then do
        let body := jsonBody response
        match body.get "actions" with
        | .arr items => do
            let listed := items.filterMap wellFormed
            match (body.get "next_cursor").string? with
            | none => pure listed
            | some next =>
                if next = "" then pure listed
                else do
                  let rest ← listActions endpoint pages (some next)
                  pure (listed ++ rest)
        | _ => raise (.abort "malformed_response")
      else raise (.abort ("unexpected_status:" ++ toString response.status))

def advance (endpoint : Endpoint) (actionId : String) (body : AdvanceBody) :
    Py (Nat × Json) := do
  let response ← request (.advance endpoint actionId body) id
  pure (response.status, jsonBody response)

def putResult (endpoint : Endpoint) (externalId : String) (payload : Payload) :
    Py (Nat × Json) := do
  let response ← request (.putResult endpoint externalId payload) id
  pure (response.status, jsonBody response)

def terminalBody (row : TriageAction) : AdvanceBody :=
  let state := row.outcome.getD .failed
  .terminal state ((nonBlank row.message).map clip) <|
    if row.kind = .fixAndOpenPr then
      some ((row.steps.filter fun steps => !steps.isEmpty).getD
        (compoundSteps { step := .fix, state } none))
    else none

def finish (actionId : String) (result : Result) (expected : Option LedgerPhase) : Py Bool := do
  let finished ← triageActionFinish actionId result.outcome (result.message.map clip)
    result.steps expected
  match finished, nonBlank result.prUrl with
  | true, some prUrl => do
      let _ ← triageActionUpdate actionId none { prUrl := some prUrl }
  | true, none => pure ()
  | false, _ => do
      let _ ← triageActionUpdate actionId none { lateOutcome := some result.outcome }
  pure finished

def timedOut (settings : Settings) (row : TriageAction) : Py Bool := do
  match row.intentAt with
  | none => pure false
  | some started => do
      let now ← clock
      pure (decide (settings.triageActionTimeout ≤ (now : Int) - (started : Int)))

def timeoutResult (settings : Settings) (row : TriageAction) : Result :=
  let message := "timed out after " ++ settings.triageActionTimeoutText ++ " min"
  if row.kind = .fixAndOpenPr then
    match row.phase, row.steps.getD [] with
    | .fixDone, fix :: _ =>
        { outcome := .failed, message := some message
          steps := some (compoundSteps fix
            (some { step := .openPr, state := .failed, message := some message })) }
    | _, _ =>
        { outcome := .failed, message := some message
          steps := some (compoundSteps
            { step := .fix, state := .failed, message := some message } none) }
  else { outcome := .failed, message := some message }

def expireIfOverdue (settings : Settings) (actionId : String) : Py Bool := do
  match ← triageActionGet actionId with
  | none => pure true
  | some ⟨row, _⟩ =>
      if row.phase = .finished then pure true
      else do
        let overdue ← timedOut settings row
        if overdue then do
          let _ ← finish actionId (timeoutResult settings row) none
          pure true
        else pure false

def expireRow (settings : Settings) (row : TriageAction) : Py Unit := do
  let overdue ← timedOut settings row
  if overdue then do
    let _ ← finish row.actionId (timeoutResult settings row) none
  else pure ()

def expireOverdue (settings : Settings) (projectId : Option String) : Py Unit := do
  let rows ← query (.triageActionsOpen projectId)
  forEach rows (expireRow settings)

def runInline (row : TriageAction) : Py Unit := do
  if row.kind = .reopen then do
    note (.reopenForAction row.actionId)
    match ← reopenForAction row.reportId row.actionId reopened with
    | .done => pure ()
    | .ledgerMoved => pure ()
    | .notClosed => do
        let report ← reportGet row.reportId
        let message := match report with
          | some ⟨report, _⟩ => reopenRefusal report.status.value
          | none => "Bug report not found in Bugalizer"
        let _ ← finish row.actionId { outcome := .refused, message := some message }
          (some .dispatched)
  else do
    let result ← runInlineResult row
    let _ ← finish row.actionId result (some .dispatched)

/-- `_credential_code`. Of the letters that `str.islower` takes only those of ASCII are taken here, which
the text of a refusal alone shows. -/
def credentialCode (body : Json) : String :=
  let code := if (body.get "error").truthy then body.get "error" else body.get "code"
  match code with
  | .str text =>
      if text != "" && text.length ≤ 40 && text.toList.all fun c => c.isLower || c = '_' then text
      else "unknown"
  | _ => "unknown"

/-- `_credential_outcome`: the key, or the result that ends the action. -/
def credentialOutcome (row : TriageAction) (response : HttpResponse) : Except Result String :=
  let body := jsonBody response
  let code := credentialCode body
  if response.status = 200 then
    let pinnedProvider := (row.pinnedLlm.bind PinnedLlm.fix).map Prod.fst
    match body.get "apiKey" with
    | .str key =>
        if (body.get "provider").isStr requesterProvider ∧
            pinnedProvider = some requesterProvider ∧ key ≠ "" then .ok key
        else .error (stepResult row.kind .failed invalidCredential)
    | _ => .error (stepResult row.kind .failed invalidCredential)
  else if response.status = 409 ∧ code = "already_released" then
    .error (stepResult row.kind .failed "credential already used; request again")
  else if response.status = 409 ∧ code = "no_key" then
    .error (stepResult row.kind .refused
      "No Claude API key is saved for the requester; add it in AI settings and request again")
  else if response.status = 403 then
    .error (stepResult row.kind .refused "The requester is no longer a sonicgrid admin")
  else if response.status = 404 ∨ response.status = 409 then
    .error (stepResult row.kind .refused ("Sonicgrid did not release a key for this action (" ++
      (if response.status = 409 then code else "not_found") ++ ")"))
  else .error (stepResult row.kind .failed "could not fetch your API key; request again")

def fetchFailed (row : TriageAction) : Result :=
  stepResult row.kind .failed "could not fetch your API key; request again"

/-- `resolve_env_credential(name)`; a name that is no string is a `TypeError`. -/
def credentialNamed (name : Json) : Py (Option String) :=
  match name with
  | .str name => resolveEnvCredential name
  | _ => raise (.plain "TypeError" "str expected")

def endpointOf (base token : Option String) : Option Endpoint :=
  match nonBlank base, nonBlank token with
  | some base, some token => some ⟨base, token⟩
  | _, _ => none

/-- The base URL and the token of a project's triage source, as far as both are there. -/
def triageEndpoint (project : Option Project) : Py (Option Endpoint) := do
  let config := (project.map Project.ingestConfig).getD .null
  if config.isObj then do
    let envName := config.get "triage_credential_env"
    let base ← triageBaseUrl config
    let token ← if envName.truthy then credentialNamed envName else pure none
    pure (endpointOf base token)
  else pure none

/-- `_fetch_key`: one request, and no second one whatever comes back. -/
def fetchKey (row : TriageAction) : Py (Except Result String) := do
  let project ← projectGet row.projectId
  match ← triageEndpoint project with
  | none => pure (.error (fetchFailed row))
  | some endpoint => do
      let answered : Py (Except Result String) := do
        let response ← remote (.credential endpoint row.actionId)
        pure (credentialOutcome row response)
      answered.catching fun error =>
        match error with
        | .fault ⟨.http, _, _⟩ => pure (.error (fetchFailed row))
        | .fault ⟨.httpTimeout, _, _⟩ => pure (.error (fetchFailed row))
        | error => raise error

/-- The outcome of a finished PR step: its own for `open_pr`, two steps when compound. -/
def prResult (row : TriageAction) (state : Verdict) (step : StepResult) : Result :=
  let message := step.message.getD "None"
  if row.kind = .fixAndOpenPr then
    let fix := ((row.steps.getD []).head?).getD { step := .fix, state := .done }
    { outcome := state
      message := some (match state with
        | .done => "Fix proposed and " ++ message
        | .refused => "Fix proposed; the PR was refused: " ++ message
        | _ => "Fix proposed; the PR step failed: " ++ message)
      steps := some (compoundSteps fix (some
        { step := .openPr, state, ref := step.ref, message := step.message.map clip }))
      prUrl := step.ref }
  else
    { outcome := state
      message := match nonBlank step.ref with
        | some ref => some (message ++ ": " ++ ref)
        | none => step.message
      prUrl := step.ref }

def prPhase (kind : Kind) : LedgerPhase := if kind = .fixAndOpenPr then .fixDone else .dispatched

def runPr (settings : Settings) (actionId : String) : Py Unit := do
  match ← triageActionGet actionId with
  | none => pure ()
  | some ⟨row, _⟩ =>
      if row.phase = prPhase row.kind then do
        let expired ← expireIfOverdue settings actionId
        if expired then pure ()
        else do
          note (.prStep actionId)
          let step ← prStep settings row.reportId
            (if row.kind = .fixAndOpenPr then row.fixProposalId else none) row.attempts
          let late ← expireIfOverdue settings actionId
          if late then do
            let _ ← triageActionUpdate actionId none
              { lateOutcome := some (step.state.getD .prPending) }
          else
            match step.state with
            | none => do
                let _ ← triageActionUpdate actionId (some (prPhase row.kind))
                  { attempts := some step.attempts }
            | some state => do
                let _ ← finish actionId (prResult row state step) (some (prPhase row.kind))
      else pure ()

def checkpointFix (actionId proposalId : String) (fromPhase : LedgerPhase) : Py Bool :=
  triageActionUpdate actionId (some fromPhase)
    { phase := some .fixDone, fixProposalId := some proposalId
      steps := some
        [{ step := .fix, state := .done, ref := some proposalId, message := some "Proposal made" }] }

def prTask (settings : Settings) (actionId : String) : Py Unit :=
  (runPr settings actionId).ensuring (release actionId)

def spawnPr (actionId : String) : Py Unit := createTask actionId (.prTask actionId)

/-- An exception of the key fetch or of the stages, as a result. -/
def unexpectedFailure (row : TriageAction) (error : Exn) : Result :=
  let message := "The analysis failed unexpectedly (" ++ error.typeName ++ ")"
  { outcome := .failed, message := some message
    steps := if row.kind = .fixAndOpenPr then
      some (compoundSteps { step := .fix, state := .failed, message := some message } none)
    else none }

/-- The key, then the model: the body of `_run_task`'s inner `try`. -/
def runKeyed (settings : Settings) (row : TriageAction) : Py Result := do
  if row.keyMode = some requester then do
    match ← fetchKey row with
    | .error result => pure result
    | .ok key => runLlm settings row (some key)
  else runLlm settings row none

/-- What `_run_task` does with the result of the stages. -/
def concludeTask (settings : Settings) (actionId : String) (result : Result) : Py Unit := do
  let late ← expireIfOverdue settings actionId
  if late then do
    let _ ← triageActionUpdate actionId none { lateOutcome := some result.outcome }
  else if result.outcome = .fixDone then do
    let checkpointed ← checkpointFix actionId (orDefault result.proposalId "") .dispatched
    if checkpointed then runPr settings actionId
    else do
      let _ ← triageActionUpdate actionId none { lateOutcome := some .fixDone }
  else do
    let _ ← finish actionId result (some .dispatched)

def runTask (settings : Settings) (actionId : String) : Py Unit :=
  let body : Py Unit := do
    match ← triageActionGet actionId with
    | none => pure ()
    | some ⟨row, _⟩ => do
        let result ← (runKeyed settings row).catching fun error =>
          pure (unexpectedFailure row error)
        concludeTask settings actionId result
  body.ensuring (release actionId)

def dispatch (actionId : String) (row : TriageAction) (fromPhase : LedgerPhase) : Py Unit := do
  let now ← clock
  let moved ← triageActionUpdate actionId (some fromPhase)
    { phase := some .dispatched, dispatchedAt := some now }
  if !moved then release actionId
  else if row.kind.llm then createTask actionId (.actionTask actionId)
  else if row.kind = .openPr then spawnPr actionId
  else (runInline row).ensuring (release actionId)

def releaseUnlessRunning (actionId : String) : Py Unit := do
  let running ← taskRunning actionId
  if running then pure () else release actionId

/-- The row of an authorized action after its `intent` write; the write just made it. -/
def dispatchAuthorized (actionId : String) : Py Unit := do
  match ← triageActionGet actionId with
  | none => raise (.plain "TypeError" "'NoneType' object is not subscriptable")
  | some ⟨row, _⟩ => dispatch actionId row .intent

/-- Authorization, and the one write that either finishes the reservation or pins it. -/
def authorizeReserved (settings : Settings) (project : Project) (report : Report)
    (action : ListedAction) : Py Unit := do
  let auth ← authorize settings project report action
  match auth.refusal with
  | some refusal => do
      note (.authorized action.id none)
      let _ ← finish action.id refusal (some .reserved)
  | none => do
      note (.authorized action.id (some ⟨auth.pinned, auth.noAutoRetry, auth.keyMode⟩))
      let now ← clock
      let moved ← triageActionUpdate action.id (some .reserved)
        { phase := some .intent, intentAt := some now, pinnedLlm := some auth.pinned
          noAutoRetry := some auth.noAutoRetry, keyMode := some auth.keyMode }
      if moved then dispatchAuthorized action.id else pure ()

def claimAndStart (settings : Settings) (endpoint : Endpoint) (project : Project)
    (action : ListedAction) : Py Unit :=
  let body : Py Unit := do
    let (status, _) ← advance endpoint action.id .claimed
    if status = 404 ∨ status = 409 then triageActionDeleteReserved action.id
    else if status = 200 then do
      match ← triageActionGet action.id with
      | none => pure ()
      | some ⟨row, _⟩ => do
          match ← reportGet row.reportId with
          | none => pure ()
          | some ⟨report, _⟩ => authorizeReserved settings project report action
    else pure ()
  body.ensuring (releaseUnlessRunning action.id)

def applyEvidence (row : TriageAction) (found : Result) : Py Unit := do
  if found.outcome = .fixDone then do
    let checkpointed ← checkpointFix row.actionId (orDefault found.proposalId "") row.phase
    if checkpointed then do
      let held ← tryHold row.actionId row.reportId false
      if held then spawnPr row.actionId else pure ()
    else pure ()
  else do
    let _ ← finish row.actionId found (some row.phase)

/-- Recovery of an LLM action in `intent` or `dispatched`, or of an inline one in `intent`. -/
def recoverDispatch (settings : Settings) (row : TriageAction) : Py Unit := do
  match ← evidence row with
  | some found => applyEvidence row found
  | none => do
      let held ← if row.phase = .dispatched then stageClaimHeld row.reportId else pure false
      if held then pure ()
      else if row.phase = .intent && settings.sonicgridUserKeys && row.kind.paid &&
          row.keyMode != some requester then do
        let _ ← finish row.actionId (stepResult row.kind .refused legacyRefusal) (some row.phase)
      else if row.noAutoRetry then do
        let _ ← finish row.actionId (unconfirmedFailure row.kind) (some row.phase)
      else do
        let slot ← tryHold row.actionId row.reportId row.kind.llm
        if slot then
          (dispatch row.actionId row row.phase).ensuring (releaseUnlessRunning row.actionId)
        else pure ()

/-- An inline or `open_pr` action found `dispatched`: nothing was spent, run it again. -/
def recoverInline (row : TriageAction) : Py Unit := do
  let held ← tryHold row.actionId row.reportId false
  if held then
    if row.kind = .openPr then spawnPr row.actionId
    else (runInline row).ensuring (release row.actionId)
  else pure ()

def recover (settings : Settings) (row : TriageAction) : Py Unit := do
  let overdue ← timedOut settings row
  if overdue then do
    let _ ← finish row.actionId (timeoutResult settings row) none
  else if row.phase = .fixDone then do
    let held ← tryHold row.actionId row.reportId false
    if held then spawnPr row.actionId else pure ()
  else if row.phase = .dispatched && !row.kind.llm then recoverInline row
  else if row.phase = .intent || row.phase = .dispatched then recoverDispatch settings row
  else pure ()

def handleNew (settings : Settings) (endpoint : Endpoint) (project : Project)
    (action : ListedAction) : Py Unit := do
  match ← query (.reportByExternalId project.id action.bugId) with
  | none => ask (.memory (.addUnresolved project.id))
  | some report => do
      let held ← tryHold action.id report.id action.kind.llm
      if held then do
        let user ← getField (objectOr action.requestedBy) "userId"
        let reserved ← triageActionReserve action.id project.id report.id action.kind
          (if action.params.isObj then action.params else .obj []) user.string?
        if reserved then claimAndStart settings endpoint project action
        else release action.id
      else pure ()

/-- A row whose task runs here, or that is finished: only the time bound applies. -/
def handleRunning (settings : Settings) (row : TriageAction) (running : Bool) : Py Unit := do
  if running && row.phase != .finished then do
    let overdue ← timedOut settings row
    if overdue then do
      let _ ← finish row.actionId (timeoutResult settings row) none
    else pure ()
  else pure ()

def handle (settings : Settings) (endpoint : Endpoint) (project : Project)
    (action : ListedAction) : Py Unit := do
  match ← triageActionGet action.id with
  | none => handleNew settings endpoint project action
  | some ⟨row, _⟩ => do
      let running ← taskRunning action.id
      if row.phase = .finished || running then handleRunning settings row running
      else if row.phase = .reserved then do
        let held ← tryHold action.id row.reportId row.kind.llm
        if held then claimAndStart settings endpoint project action else pure ()
      else recover settings row

/-- `currentState` of an answer to a terminal POST. -/
def currentState (body : Json) : Py Json :=
  if (body.get "currentState").truthy then pure (body.get "currentState")
  else getField (objectOr (body.get "action")) "state"

def drainRow (endpoint : Endpoint) (row : TriageAction) : Py Unit := do
  let (status, body) ← advance endpoint row.actionId (terminalBody row)
  let current ← currentState body
  if status = 200 then do
    let _ ← triageActionUpdate row.actionId none { terminalAcked := some true }
  else if status = 409 ∧ row.outcome.any fun outcome => current.isStr outcome.value then do
    let _ ← triageActionUpdate row.actionId none { terminalAcked := some true }
  else if status = 400 ∨ status = 404 ∨ status = 409 then do
    let shown ← ask (.observe (.formatted current))
    let suffix := if current.truthy then ":" ++ shown else ""
    let _ ← triageActionUpdate row.actionId none
      { terminalAcked := some true, terminalError := some ("http_" ++ toString status ++ suffix) }
  else pure ()

def drain (endpoint : Endpoint) (projectId : String) : Py Unit := do
  let rows ← query (.triageActionsUnacked projectId)
  forEach rows (drainRow endpoint)

/-- A push of this tick: a new payload, or the stored one again. -/
structure Todo where
  stamp : Nat
  report : Report
  fingerprint : String
  core : Option Json
  stored : Option TriageResult

def todoOf (project : Project) (report : Report) : Py (Option Todo) := do
  let analyses ← analysesForReport report.id none
  let proposals ← fixProposalsForReport report.id
  let built ← ask (.compute (.buildPayload report analyses proposals project))
  match ← query (.triageResultGet report.id) with
  | some stored =>
      if stored.fingerprint = built.fingerprint then
        if stored.ackedFingerprint = some built.fingerprint ∨
            stored.failedFingerprint = some built.fingerprint then pure none
        else pure (some ⟨built.updatedAt, report, built.fingerprint, none, some stored⟩)
      else pure (some ⟨built.updatedAt, report, built.fingerprint, some built.core, some stored⟩)
  | none => pure (some ⟨built.updatedAt, report, built.fingerprint, some built.core, none⟩)

def collectTodo (project : Project) : List Report → Py (List Todo)
  | [] => pure []
  | report :: reports => do
      let first ← todoOf project report
      let rest ← collectTodo project reports
      pure (first.toList ++ rest)

/-- The payload of one push, staged before it is sent when it is new. -/
def stagePush (project : Project) (todo : Todo) : Py Payload := do
  match todo.core, todo.stored with
  | some core, stored => do
      let now ← clock
      let revision := max (stored.elim (-1) TriageResult.revision + 1) (now : Int)
      ask (.outbox (.triageResultStage todo.report.id project.id todo.fingerprint ⟨revision, core⟩))
      pure ⟨revision, core⟩
  | none, some stored => pure stored.payload
  | none, none => raise (.plain "TypeError" "'NoneType' object is not subscriptable")

def storedRevision (body : Json) (revision : Int) : Option Int :=
  match body.get "applied", body.get "storedRevision" with
  | .bool false, .int stored => if revision ≤ stored then some stored else none
  | _, _ => none

def pushOne (endpoint : Endpoint) (project : Project) (todo : Todo) : Py Unit := do
  let payload ← stagePush project todo
  let (status, body) ← putResult endpoint (todo.report.externalId.getD "") payload
  let now ← clock
  let fields : TriageResultFields :=
    if status = 200 then
      { ackedFingerprint := some todo.fingerprint, lastStatus := 200, lastError := none
        pushedAt := now, revision := storedRevision body payload.revision }
    else if status = 400 ∨ status = 404 ∨ status = 413 then
      { failedFingerprint := some todo.fingerprint, lastStatus := status
        lastError := some ("http_" ++ toString status), pushedAt := now }
    else
      { lastStatus := status, lastError := some ("unexpected_status:" ++ toString status)
        pushedAt := now }
  ask (.outbox (.triageResultUpdate todo.report.id fields))

def push (settings : Settings) (endpoint : Endpoint) (project : Project) : Py Unit := do
  let reports ← query (.syncReports project.id)
  let todo ← collectTodo project reports
  forEach ((Py.sortOn Todo.stamp todo).take (max 1 settings.triagePushPerTick).toNat)
    (pushOne endpoint project)

/-- `_check_prs`' read and write of one pull request; true when a rate limit ends the reads. -/
def checkNumbered (settings : Settings) (project : Project) (proposal : FixProposal)
    (number : Int) : Py Bool := do
  let reading : Py (Except String PrState) := do
    let state ← readPrState settings project number
    pure (.ok state)
  match ← reading.catching fun error =>
      match error with
      | .prRead code => pure (.error code)
      | error => raise error with
  | .error code => do
      prCheckRecord proposal.id (.failed code)
      pure (code = "rate_limited")
  | .ok .isOpen => do
      prCheckRecord proposal.id .isOpen
      pure false
  | .ok state => do
      let _ ← prSettle
        { proposalId := proposal.id, bugReportId := proposal.bugReportId, prNumber := number
          merged := decide (state = .merged) }
      pure false

/-- One unsettled pull request; true when a rate limit ends this tick's reads. -/
def checkPr (settings : Settings) (project : Project) (proposal : FixProposal) : Py Bool :=
  match proposal.prNumber with
  | some number => checkNumbered settings project proposal number
  | none => raise (.plain "TypeError" "int() argument must not be None")

def checkEach (settings : Settings) (project : Project) : List FixProposal → Py Unit
  | [] => pure ()
  | proposal :: proposals => do
      let limited ← checkPr settings project proposal
      if limited then pure () else checkEach settings project proposals

def checkPrs (settings : Settings) (project : Project) : Py Unit := do
  if settings.githubTokenValue.isNone then pure ()
  else do
    let now ← clock
    let proposals ← query (.prsToCheck project.id ((now : Int) - 300000000))
    checkEach settings project proposals

def checkPrsOnly (settings : Settings) (projectId : String) : Py Unit := do
  let locked ← ask (.memory (.lockHeld (.tick projectId)))
  if locked then pure ()
  else underLock (.tick projectId) do
    match ← projectGet projectId with
    | none => pure ()
    | some project => checkPrs settings project

def duplicateSource (projectId base : String) : List Project → Py Bool
  | [] => pure false
  | other :: others => do
      if other.id = projectId then duplicateSource projectId base others
      else do
        let taken ← triageBaseUrl other.ingestConfig
        if taken = some base then pure true else duplicateSource projectId base others

/-- Drain, walk, drain, push. -/
def exchange (settings : Settings) (endpoint : Endpoint) (project : Project) : Py Unit := do
  drain endpoint project.id
  let listed ← listActions endpoint 100 none
  forEach listed (handle settings endpoint project)
  drain endpoint project.id
  push settings endpoint project

/-- The part of a tick whose failures are recorded by code; the code of its own refusal. -/
def tickBody (settings : Settings) (project : Project) (envName : Json) (base : String) :
    Py (Option String) := do
  let others ← query .projectsWithTriageSync
  let duplicate ← duplicateSource project.id base others
  if duplicate then pure (some "duplicate_triage_source")
  else do
    match nonBlank (← credentialNamed envName) with
    | none => pure (some "credential_missing")
    | some token => do
        exchange settings ⟨base, token⟩ project
        pure none

def tickError : Exn → String
  | .abort code => code
  | _ => "internal_error"

/-- The project with its credential name and base URL, when it is configured for the sync. -/
def configured (project : Option Project) : Py (Option (Project × Json × String)) := do
  match project with
  | none => pure none
  | some project =>
      if project.ingestConfig.isObj then do
        let base ← triageBaseUrl project.ingestConfig
        let envName := project.ingestConfig.get "triage_credential_env"
        match nonBlank project.ingestSource, nonBlank base with
        | some _, some base =>
            if envName.truthy then pure (some (project, envName, base)) else pure none
        | _, _ => pure none
      else pure none

/-- The tick of a configured project, under its lock. -/
def tick (settings : Settings) (project : Project) (envName : Json) (base : String) : Py Unit := do
  ask (.memory (.resetUnresolved project.id))
  expireOverdue settings (some project.id)
  (checkPrs settings project).catching fun _ => pure ()
  let error ← (tickBody settings project envName base).catching fun error =>
    pure (some (tickError error))
  let unresolved ← ask (.memory (.unresolved project.id))
  let _ ← ask (.outbox (.syncStateRecord project.id error unresolved))

/-- The body of `sync_project` under the project's lock. -/
def syncLocked (settings : Settings) (projectId : String) : Py Unit := do
  let project ← projectGet projectId
  match ← configured project with
  | none => pure ()
  | some (project, envName, base) => tick settings project envName base

def syncProject (settings : Settings) (projectId : String) (manual : Bool) : Py Unit := do
  let locked ← if manual then ask (.memory (.lockHeld (.tick projectId))) else pure false
  if locked then raise .tickInProgress
  else underLock (.tick projectId) (syncLocked settings projectId)

end Bugalizer
