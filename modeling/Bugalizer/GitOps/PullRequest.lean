import Bugalizer.Calls

/-!
# One open-pr call

`open_pull_request` claims a report by a fresh token, works on the remote under the
project's git lock, and gives the claim back or records the pull request.
-/

namespace Bugalizer

set_option autoImplicit false

open Coroutine Program

def openPrError (status : Nat) (code message : String) : Exn := .openPr { status, code, message }

/-- The status and body of an answer. An error body that is returned, not raised, has
neither a `branch` nor `created`. -/
structure PrAnswer where
  status : Nat
  prUrl : String
  prNumber : Int
  branch : Option String
  created : Option Bool

def branchFor (reportId : String) : String := "fix/bugalizer-" ++ reportId

/-- What `$` leaves of a text: it also matches before one final newline. -/
def beforeNewline (text : List Char) : List Char :=
  if text.getLast? = some '\n' then text.dropLast else text

def matchesAll (allowed : Char → Bool) (text : String) : Bool :=
  !(beforeNewline text.toList).isEmpty && (beforeNewline text.toList).all allowed

def safeId (id : String) : Bool :=
  matchesAll (fun c => c.isAlphanum || c = '_' || c = '-') id

/-- `..` somewhere in a text. -/
def hasDotDot : List Char → Bool
  | '.' :: '.' :: _ => true
  | _ :: rest => hasDotDot rest
  | [] => false

/-- `_SAFE_BRANCH`, and no `..`. -/
def safeBranch (branch : String) : Bool :=
  matchesAll (fun c => c.isAlphanum || c ∈ ['.', '_', '/', '-']) branch &&
    !hasDotDot branch.toList

/-- `_answer`; a row without its PR fields is an exception. -/
def prAnswer (proposal : FixProposal) (created : Bool) : Py PrAnswer :=
  match proposal.prUrl, proposal.prNumber with
  | some prUrl, some prNumber =>
      pure
        { status := if created then 201 else 200
          prUrl, prNumber
          branch := some (orDefault proposal.branchName (branchFor proposal.bugReportId))
          created := some created }
  | _, _ => raise (.plain "TypeError" "the proposal has no pull request")

def prExists (prUrl : Option String) : Exn :=
  .openPr
    { status := 409
      code := "pr_exists"
      message := "This report already has a pull request, opened from another proposal"
      prUrl }

def recordedAnswer (recorded : FixProposal) (requestedId : Option String) : Py PrAnswer :=
  if requestedId.any (· != recorded.id) then raise (prExists recorded.prUrl)
  else prAnswer recorded false

def githubError (message : String) : Exn := openPrError 502 "github_error" message

/-- A REST answer of the `_GitHub` client, its `_GitHubError` turned into an outcome. -/
def githubOr {Answer : Type} (answer : Except GithubFailure Answer) : Py Answer :=
  match answer with
  | .ok value => pure value
  | .error (.failed message) => raise (githubError message)
  | .error .alreadyExists => raise (githubError "a pull request already exists")

/-- `_record`. -/
def recordCall (prCall : PrCall) (proposalId : String) (pr : PullRequest)
    (pushedSha : Option String) : Py FixProposal := do
  let prUrl ← match pr.htmlUrl with
    | some url => pure url
    | none => raise (.plain "KeyError" "html_url")
  (recordPullRequest
    { bugReportId := prCall.reportId, proposalId, claimToken := prCall.claimToken, prUrl
      prNumber := pr.number, pushedSha, branchName := branchFor prCall.reportId }).catching
    fun error => match error with
      | .claimLost => raise (openPrError 409 "in_progress" "The open-pr claim was lost; retry")
      | error => raise error
  ask (.memory (.setFinalized prCall.claimToken))
  match ← query (.fixProposalOfReport prCall.reportId proposalId) with
  | some recorded => pure recorded
  | none => raise (.plain "AssertionError" "")

/-- The first commit whose trailers name this report and one of its proposals. -/
def trailerOwner (reportId : String) (ids : List String) : List PrCommit → Py (Option String)
  | [] => pure none
  | commit :: commits => do
      let proposalId ← ask (.observe (.trailer commit.message "Bugalizer-Proposal"))
      let report ← ask (.observe (.trailer commit.message "Bugalizer-Report"))
      if report = some reportId && proposalId.any (· ∈ ids) then pure proposalId
      else trailerOwner reportId ids commits

def resolveOwner (prCall : PrCall) (proposals : List FixProposal) (pr : PullRequest)
    (commits : List PrCommit) : Py (Option String) :=
  let shas := commits.filterMap PrCommit.sha ++ pr.headSha.toList
  match proposals.filter fun proposal => (nonBlank proposal.pushedSha).any (· ∈ shas) with
  | [owner] => pure (some owner.id)
  | _ => trailerOwner prCall.reportId (proposals.map FixProposal.id) commits

/-- `_record_existing_pr`. The pull request of another proposal is recorded first and then
answered by an error body. -/
def recordExistingPr (prCall : PrCall) (proposals : List FixProposal) (pr : PullRequest) :
    Py PrAnswer := do
  let commits ← githubOr (← remote (.prCommits prCall pr.number))
  let owner ← resolveOwner prCall proposals pr commits
  match owner.or prCall.requestedId with
  | none =>
      raise (.openPr
        { status := 409
          code := "pr_unattributed"
          message := "A pull request exists for this report's branch, but the proposal it implements cannot be established; call again naming fix_proposal_id"
          prUrl := pr.htmlUrl })
  | some ownerId => do
      let recorded ← recordCall prCall ownerId pr none
      let answer ← prAnswer recorded false
      if prCall.requestedId.any (· != ownerId) then
        pure { answer with status := 409, branch := none, created := none }
      else pure answer

def createPr (prCall : PrCall) (proposals : List FixProposal) (proposal : FixProposal)
    (sha : String) : Py PrAnswer := do
  let analysis ← query (.fixAnalysisForProposal proposal)
  match ← remote (.createPr prCall proposal analysis) with
  | .ok pr => do
      let recorded ← recordCall prCall proposal.id pr (some sha)
      prAnswer recorded true
  | .error .alreadyExists => do
      match ← githubOr (← remote (.findPr prCall)) with
      | none => raise (githubError "GitHub reported an existing PR it cannot find")
      | some existing => recordExistingPr prCall proposals existing
  | .error (.failed message) => raise (githubError message)

def buildError : BuildFailure → Exn
  | .fetch => githubError "Fetching the default branch failed"
  | .oldGit => githubError "git 2.29 or later is required (--no-write-fetch-head)"
  | .git step => openPrError 500 "git_error" ("Local git " ++ step ++ " failed")
  | .doesNotApply => openPrError 409 "diff_does_not_apply"
      "The proposed diff does not apply to the current default branch"
  | .noChange => openPrError 409 "diff_does_not_apply" "The proposed diff makes no change"

def branchExists (message : String) : Exn := openPrError 409 "branch_exists" message

def pushError (branch : String) : PushFailure → Exn
  | .branchAppeared =>
      branchExists ("Branch " ++ branch ++ " appeared on the remote; it is left untouched")
  | .failed => githubError "Pushing the branch failed"

/-- Steps 6 to 9: build the commit, record the intent, push, open the PR. -/
def pushAndOpen (prCall : PrCall) (proposals : List FixProposal) : Py PrAnswer := do
  match ← remote (.buildCommit prCall) with
  | .error failure => raise (buildError failure)
  | .ok sha => do
      recordPushIntent prCall.proposal.id sha (branchFor prCall.reportId)
      match ← remote (.push prCall) with
      | .error failure => raise (pushError (branchFor prCall.reportId) failure)
      | .ok () => createPr prCall proposals prCall.proposal sha

def resumeBranch (prCall : PrCall) (proposals : List FixProposal) (tip : String) : Py PrAnswer :=
  let branch := branchFor prCall.reportId
  match proposals.find? fun proposal => proposal.pushedSha == some tip with
  | none => raise (branchExists ("Branch " ++ branch ++
      " exists on the remote and was not pushed by Bugalizer; it is left untouched (see deploy-windows.md)"))
  | some pusher =>
      if prCall.requestedId.any (· != pusher.id) then
        raise (branchExists ("Branch " ++ branch ++ " was pushed for another proposal"))
      else createPr prCall proposals pusher tip

def runClaimed (prCall : PrCall) : Py PrAnswer := do
  let proposals ← fixProposalsForReport prCall.reportId
  match ← githubOr (← remote (.findPr prCall)) with
  | some pr => recordExistingPr prCall proposals pr
  | none => do
      match ← remote (.remoteBranchTip prCall) with
      | none => raise (githubError "Listing the remote branch failed")
      | some (some tip) => resumeBranch prCall proposals tip
      | some none => pushAndOpen prCall proposals

/-- Cleanup, the call itself, and cleanup again, under the project's git lock. -/
def lockedCall (prCall : PrCall) : Py PrAnswer :=
  let cleanup : Py Unit := remote (.cleanup prCall)
  let body : Py PrAnswer := do
    cleanup
    runClaimed prCall
  underLock (.git prCall.project.id) (body.ensuring (cleanup.catching fun _ => pure ()))

/-- A release that fails is only logged: the next call adopts the claim. -/
def releaseQuietly (reportId claimToken : String) : Py Unit :=
  let attempt : Py Unit := do
    let _ ← releaseClaim reportId claimToken
  attempt.catching fun _ => pure ()

/-- The outer `finally`: give the claim back unless it was recorded, then forget it. -/
def settleClaim (prCall : PrCall) : Py Unit := do
  let finalized ← ask (.memory (.finalized prCall.claimToken))
  if finalized then pure () else releaseQuietly prCall.reportId prCall.claimToken
  ask (.memory (.dropClaim prCall.reportId prCall.claimToken))

/-- What the checks before the claim settle. -/
structure PrChecks where
  reportId : String
  report : Report
  project : Project
  owner : String
  repo : String
  token : String
  clone : String
  defaultBranch : String
  proposal : FixProposal

/-- The checks on the configuration, in the source's order. -/
def checkDestination (settings : Settings) (reportId : String) (report : Report)
    (proposal : FixProposal) : Py PrChecks := do
  match settings.githubTokenValue with
  | none => raise (openPrError 503 "github_not_configured" "BUGALIZER_GITHUB_TOKEN is not set")
  | some token => do
      let project ← projectGet report.projectId
      let slug ← ask (.observe (.parseGithubSlug ((project.map Project.repoUrl).getD "")))
      match project, slug with
      | some project, some (owner, repo) => do
          let clone := orDefault project.repoPath ""
          let cloned ← if clone = "" then pure false else ask (.observe (.cloneExists clone))
          let defaultBranch := orDefault project.defaultBranch "main"
          if !cloned then
            raise (openPrError 400 "not_cloned" "Project repo not cloned. Run POST /clone first.")
          else if !safeBranch defaultBranch then
            raise (openPrError 400 "bad_default_branch"
              "The project's default branch name is invalid")
          else if !safeId reportId || !safeId project.id then
            raise (openPrError 400 "bad_id" "Report or project id is not path-safe")
          else pure { reportId, report, project, owner, repo, token, clone, defaultBranch, proposal }
      | _, _ =>
          raise (openPrError 400 "not_github" "The project repo is not a github.com repository")

def inProgress : Exn :=
  openPrError 409 "in_progress" "An open-pr request for this report is running"

def takeClaim (reportId : String) (report : Report) (claimToken : String) : Py Bool :=
  if report.status = .fixApproved then adoptClaim reportId report.claimToken claimToken
  else tryClaimReport reportId .fixProposed .fixApproved (some claimToken)

def claimRefused (reportId : String) : Py PrAnswer := do
  let current ← reportGet reportId
  if current.any fun report => report.1.status = .fixApproved then raise inProgress
  else raise (openPrError 409 "wrong_status" "The report changed status; retry")

def ownedCall (checks : PrChecks) (claimToken : String) (requestedId : Option String) :
    Py PrAnswer := do
  ask (.memory (.registerClaim checks.reportId claimToken))
  ask (.compute (.resolvePaths checks.clone checks.project.id checks.reportId))
  let prCall : PrCall :=
    { reportId := checks.reportId, report := checks.report, project := checks.project, owner := checks.owner
      repo := checks.repo, token := checks.token, clone := checks.clone
      defaultBranch := checks.defaultBranch, claimToken, requestedId
      proposal := checks.proposal }
  (lockedCall prCall).ensuring (settleClaim prCall)

def claimAndRun (checks : PrChecks) (requestedId : Option String) : Py PrAnswer := do
  let claimToken ← ask .newToken
  let won ← takeClaim checks.reportId checks.report claimToken
  if won then ownedCall checks claimToken requestedId else claimRefused checks.reportId

def wrongStatus (status : BugStatus) : Exn :=
  openPrError 409 "wrong_status"
    ("Report is in status '" ++ status.value ++ "'; open-pr requires 'fix_proposed'")

def checkReport (settings : Settings) (reportId : String) (report : Report)
    (proposal : FixProposal) (requestedId : Option String) : Py PrAnswer := do
  let running ← openPrRunning reportId
  if running then raise inProgress
  else if report.status = .fixProposed ∨ report.status = .fixApproved then do
    let checks ← checkDestination settings reportId report proposal
    claimAndRun checks requestedId
  else raise (wrongStatus report.status)

def requestedProposal (reportId : String) (requestedId : Option String) :
    Py (Option FixProposal) := do
  match requestedId with
  | none => pure none
  | some proposalId => do
      match ← query (.fixProposalOfReport reportId proposalId) with
      | none => raise (openPrError 404 "proposal_not_found" "Fix proposal not found for this report")
      | some proposal => pure (some proposal)

def openPullRequest (settings : Settings) (reportId : String) (requestedId : Option String) :
    Py PrAnswer := do
  match ← reportGet reportId with
  | none => raise (openPrError 404 "report_not_found" "Bug report not found")
  | some ⟨report, _⟩ => do
      let requested ← requestedProposal reportId requestedId
      match ← query (.recordedPullRequest reportId) with
      | some recorded => recordedAnswer recorded requestedId
      | none => do
          let proposals ← fixProposalsForReport reportId
          match proposals with
          | [] => raise (openPrError 409 "no_proposal" "The report has no fix proposal")
          | newest :: _ => checkReport settings reportId report (requested.getD newest) requestedId

def prStateOf (body : Json) : Py PrState :=
  if (body.get "merged").isTrue || (body.get "merged_at").truthy then pure .merged
  else if (body.get "state").isStr "open" then pure .isOpen
  else if (body.get "state").isStr "closed" then pure .closed
  else raise (.prRead "malformed_response")

def readPrState (settings : Settings) (project : Project) (number : Int) : Py PrState := do
  match settings.githubTokenValue with
  | none => raise (.prRead "github_not_configured")
  | some token => do
      match ← ask (.observe (.parseGithubSlug project.repoUrl)) with
      | none => raise (.prRead "not_github")
      | some (owner, repo) => do
          let response ← (remote (.getPr owner repo token number)).catching fun error =>
            match error with
            | .fault ⟨.http, _, _⟩ => raise (.prRead "network_error")
            | .fault ⟨.httpTimeout, _, _⟩ => raise (.prRead "network_error")
            | error => raise error
          if response.status = 200 then
            match response.body with
            | some (.obj fields) => prStateOf (.obj fields)
            | _ => raise (.prRead "malformed_response")
          else if response.status = 429 || (response.status = 403 && response.noneRemaining) then
            raise (.prRead "rate_limited")
          else if response.status = 401 || response.status = 403 then raise (.prRead "unauthorized")
          else if response.status = 404 then raise (.prRead "not_found")
          else raise (.prRead ("http_" ++ toString response.status))

end Bugalizer
