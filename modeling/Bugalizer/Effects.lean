import Bugalizer.Config
import Bugalizer.Coroutine.EventLoop
import Bugalizer.Db.Queries

/-!
# What the program asks of its surroundings

Every database call, every use of the process's own tables (slots, claims, locks), every
request that leaves the process and every helper whose answer the model leaves open is an
operation. What an operation answers is computed from the world where the code decides it
and is chosen by the outside where it does not.
-/

namespace Bugalizer

set_option autoImplicit false

open Coroutine Store

inductive FaultFamily where
  | httpTimeout | http | runtime | other
deriving DecidableEq, Repr

/-- `type(exc).__name__`. No exception class of the program or of its packages has a name of
more characters. -/
structure ClassName where
  text : String
  short : text.length ≤ 255
deriving DecidableEq, Repr

def ClassName.of (name : String) : ClassName := ⟨Py.clipTo 255 name, Py.clip_length 255 name⟩

/-- An exception the code only tells apart by its family, its type name and its text. -/
structure Fault where
  family : FaultFamily
  typeName : ClassName
  text : String
deriving DecidableEq, Repr

/-- `OpenPrError`, with the extra fields a caller reads. -/
structure OpenPrError where
  status : Nat
  code : String
  message : String
  prUrl : Option String := none
deriving DecidableEq, Repr

inductive Exn where
  | fault (fault : Fault)
  | openPr (error : OpenPrError)
  | claimLost
  | fixProposalError (message : String) (permanent : Bool)
  | fixProposalDefer (message : String)
  | abort (code : String)
  | tickInProgress
  | prRead (code : String)
  | httpException (status : Nat)
deriving DecidableEq, Repr

namespace Exn

def typeName : Exn → String
  | fault f => f.typeName.text
  | openPr _ => "OpenPrError"
  | claimLost => "ClaimLostError"
  | fixProposalError .. => "FixProposalError"
  | fixProposalDefer _ => "FixProposalDefer"
  | abort _ => "_Abort"
  | tickInProgress => "TickInProgress"
  | prRead _ => "PrReadError"
  | httpException _ => "HTTPException"

/-- `str(exc)`. -/
def text : Exn → String
  | fault f => f.text
  | openPr error => error.message
  | claimLost => "open-pr claim lost before the PR was recorded"
  | fixProposalError message _ => message
  | fixProposalDefer message => message
  | abort code => code
  | tickInProgress => ""
  | prRead code => code
  | httpException _ => ""

def plain (typeName text : String) : Exn := fault ⟨.other, .of typeName, text⟩

/-- A `RuntimeError`, or one of a class below it. -/
def runtime (typeName text : String) : Exn := fault ⟨.runtime, .of typeName, text⟩

/-- `isinstance(exc, RuntimeError)`. -/
def isRuntimeError : Exn → Bool
  | fault f => f.family == .runtime
  | claimLost => true
  | _ => false

end Exn

inductive Prompt where
  | triage (report : Report)
  | localize (report : Report) (repoMap : String) (triageSummary : Json)
  | confirm (report : Report) (files : List (String × String)) (triageSummary : Json)
  | fix (report : Report) (analysis : Analysis) (files : List (String × String)) (caching : Bool)

/-- The three branches of `complete`. -/
inductive Route where
  | ollama | anthropic | passthrough
deriving DecidableEq, Repr

/-- The `kwargs` of `litellm.acompletion`, with the provider it was routed for. -/
structure LlmCall where
  provider : String
  requestedModel : String
  route : Route
  model : String
  apiBase : Option String
  apiKey : Option String
  messages : Prompt
  timeout : Nat

structure Completion where
  content : String
  promptTokens : Nat
  completionTokens : Nat

/-- A sonicgrid answer; a body that is no JSON is `none`. -/
structure HttpResponse where
  status : Nat
  body : Option Json

/-- Where a project's sonicgrid requests go, and the bearer token they carry. -/
structure Endpoint where
  base : String
  token : String

inductive AdvanceBody where
  | claimed
  | terminal (state : Verdict) (message : Option String) (steps : Option (List ActionStep))

structure PullRequest where
  number : Int
  htmlUrl : Option String
  headSha : Option String

structure PrCommit where
  sha : Option String
  message : String

inductive GithubFailure where
  | failed (message : String)
  | alreadyExists

inductive BuildFailure where
  | fetch | oldGit | git (step : String) | doesNotApply | noChange

inductive PushFailure where
  | branchAppeared | failed

/-- The parts of `_Call` the git workers and the REST client use. -/
structure PrCall where
  reportId : String
  report : Report
  project : Project
  owner : String
  repo : String
  token : String
  clone : String
  defaultBranch : String
  claimToken : String
  requestedId : Option String
  proposal : FixProposal

inductive Remote where
  | acompletion (call : LlmCall)
  | listActions (endpoint : Endpoint) (cursor : Option String)
  | advance (endpoint : Endpoint) (actionId : String) (body : AdvanceBody)
  | credential (endpoint : Endpoint) (actionId : String)
  | putResult (endpoint : Endpoint) (externalId : String) (payload : Payload)
  | getPr (owner repo token : String) (number : Int)
  | findPr (call : PrCall)
  | prCommits (call : PrCall) (number : Int)
  | createPr (call : PrCall) (proposal : FixProposal) (analysis : Option Analysis)
  | cleanup (call : PrCall)
  | remoteBranchTip (call : PrCall)
  | buildCommit (call : PrCall)
  | push (call : PrCall)
  | getHeadSha (repoPath : String)
  | getOrBuildRepoMap (projectId : String) (branch : Option String) (repoPath : String)
  | readCandidateFiles (repoPath : String) (candidates : Json) (maxFiles maxChars : Int)
  | cloneRepo (url projectId : String) (branch : Option String)
  | pullRepo (repoPath : String)
  | buildRepoMap (projectId : String) (branch : Option String) (repoPath : String)

/-- A GitHub answer to `GET /pulls/{number}`. -/
structure PrResponse where
  status : Nat
  body : Option Json
  noneRemaining : Bool

/-- A dict that `read_candidate_files` returns: its paths are those of candidates within the limit, and no
text is longer than the read. -/
structure FilesRead (candidates : Json) (maxFiles maxChars : Int) where
  files : List (String × String)
  named : ∀ file ∈ files, ∃ entry ∈ Pipeline.upTo maxFiles (candidates.list?.getD []),
    entry.get "path" = .str file.1
  short : 0 ≤ maxChars → ∀ file ∈ files, (file.2.length : Int) ≤ maxChars

/-- Every candidate within the limit names a file, and each file is empty. -/
def FilesRead.blank (candidates : Json) (maxFiles maxChars : Int) : FilesRead candidates maxFiles maxChars where
  files := (Pipeline.upTo maxFiles (candidates.list?.getD [])).filterMap fun entry =>
    (entry.get "path").string?.map fun path => (path, "")
  named := by
    intro file member
    obtain ⟨entry, listed, named⟩ := List.mem_filterMap.mp member
    refine ⟨entry, listed, ?_⟩
    cases path : entry.get "path" with
    | str text =>
        rw [path] at named
        cases named
        rfl
    | _ =>
        rw [path] at named
        cases named
  short := by
    intro bounded file member
    obtain ⟨entry, _, named⟩ := List.mem_filterMap.mp member
    obtain ⟨path, _, rfl⟩ := Option.map_eq_some_iff.mp named
    exact bounded

abbrev Remote.Ans : Remote → Type
  | acompletion _ => Completion
  | listActions .. | advance .. | credential .. | putResult .. => HttpResponse
  | getPr .. => PrResponse
  | findPr _ => Except GithubFailure (Option PullRequest)
  | prCommits .. => Except GithubFailure (List PrCommit)
  | createPr .. => Except GithubFailure PullRequest
  | cleanup _ => Unit
  | remoteBranchTip _ => Option (Option String)
  | buildCommit _ => Except BuildFailure String
  | push _ => Except PushFailure Unit
  | getHeadSha _ => String
  | getOrBuildRepoMap .. => String
  | readCandidateFiles _ candidates maxFiles maxChars => FilesRead candidates maxFiles maxChars
  | cloneRepo .. => String
  | pullRepo _ => Unit
  | buildRepoMap .. => String

/-- `validate_report`'s result. -/
structure Validation where
  result : Json
  duplicateOf : Option String

structure ValidatedProposal where
  rootCause : String
  explanation : String
  diff : String
  confidence : String
  filesChanged : List String
  result : Json

structure BuiltPayload where
  updatedAt : Nat
  fingerprint : String
  core : Json

inductive Observe where
  /-- `datetime.now`, `time.time`, in microseconds. -/
  | clock
  | resolveEnvCredential (name : String)
  | parseGithubSlug (url : String)
  | cloneExists (path : String)
  | trailer (message key : String)
  /-- `f"{value}"`. -/
  | formatted (value : Json)

abbrev Observe.Ans : Observe → Type
  | clock => Nat
  | resolveEnvCredential _ => Option String
  | parseGithubSlug _ => Option (String × String)
  | cloneExists _ => Bool
  | trailer .. => Option String
  | formatted _ => String

inductive Compute where
  | triageBaseUrl (config : Json)
  | validateReport (report : Report)
  | formatPrompt (prompt : Prompt)
  /-- `_parse_triage_response`, `_parse_json_response`. -/
  | parseJson (content : String)
  /-- `confidence >= settings.localize_confidence_threshold`. -/
  | reachesThreshold (confidence : Json)
  /-- `_extract_json` and `_validate_proposal`; their own error is a `FixProposalError`. -/
  | parseProposal (content : String)
  /-- `Path(clone).resolve()` and `_worktree_path`. -/
  | resolvePaths (clone projectId reportId : String)
  | buildPayload (report : Report) (analyses : List Analysis) (proposals : List FixProposal)
      (project : Project)
  | validateIngestPair (source : Option String) (config : Json)

abbrev Compute.Ans : Compute → Type
  | triageBaseUrl _ => Option String
  | validateReport _ => Validation
  | formatPrompt _ => Unit
  | parseJson _ => Json
  | reachesThreshold _ => Bool
  | parseProposal _ => Except String ValidatedProposal
  | resolvePaths .. => Unit
  | buildPayload .. => BuiltPayload
  | validateIngestPair .. => Option String × Json

inductive LockName where
  | tick (projectId : String)
  | git (projectId : String)
deriving DecidableEq, Repr

inductive MemoryCall where
  | taskRunning (actionId : String)
  | tryHold (actionId reportId : String) (llm : Bool)
  | release (actionId : String)
  | openPrRunning (reportId : String)
  | registerClaim (reportId token : String)
  /-- `if _active_claims.get(report_id) == token: del _active_claims[report_id]`. -/
  | dropClaim (reportId token : String)
  /-- `call.finalized = True`, of the call that drew this token. -/
  | setFinalized (token : String)
  | finalized (token : String)
  | lockHeld (lock : LockName)
  | unlock (lock : LockName)
  /-- `outcome = TickOutcome()`, of the project's tick. -/
  | resetUnresolved (projectId : String)
  /-- `outcome.unresolved += 1`. -/
  | addUnresolved (projectId : String)
  | unresolved (projectId : String)

abbrev MemoryCall.Ans : MemoryCall → Type
  | unresolved _ => Nat
  | taskRunning _ | tryHold .. | openPrRunning _ | finalized _ | lockHeld _ => Bool
  | _ => Unit

structure Hold where
  reportId : String
  llm : Bool
  task : Option Nat
deriving DecidableEq

structure Memory where
  holds : List (String × Hold)
  activeClaims : List (String × String)
  finalized : List String
  locks : List LockName
  /-- `outcome.unresolved`, by project. -/
  unresolved : List (String × Nat)
  /-- Finished tasks. -/
  doneTasks : List Nat
  /-- `_last_now_dt`. -/
  lastNow : Option Nat

def Memory.empty : Memory := ⟨[], [], [], [], [], [], none⟩

structure World where
  db : Database
  memory : Memory
  settings : Settings
  /-- Every claim token drawn so far: `uuid4` draws no value twice. -/
  drawn : List String

/-- `hold.task.done()`. -/
def Memory.taskDone (memory : Memory) (task : Nat) : Bool := task ∈ memory.doneTasks

def Memory.taskRunning (memory : Memory) (actionId : String) : Bool :=
  (memory.holds.lookup actionId).any fun hold => hold.task.any fun task => !memory.taskDone task

def Memory.tryHold (memory : Memory) (limit : Int) (actionId reportId : String) (llm : Bool) :
    Bool × Memory :=
  if (memory.holds.lookup actionId).isSome then (true, memory)
  else if memory.holds.any fun (_, hold) => hold.reportId == reportId then (false, memory)
  else if llm && decide (max 1 limit ≤ ((memory.holds.filter fun (_, hold) => hold.llm).length : Int))
  then (false, memory)
  else (true, { memory with holds := memory.holds ++ [(actionId, ⟨reportId, llm, none⟩)] })

/-- `_release`, called by task `self`. -/
def Memory.release (memory : Memory) (self : Nat) (actionId : String) : Memory :=
  match memory.holds.lookup actionId with
  | none => memory
  | some hold =>
      if hold.task.all fun task => memory.taskDone task || task == self then
        { memory with holds := memory.holds.filter fun (id, _) => id != actionId }
      else memory

/-- `_holds[action_id].task = task`. -/
def Memory.attach (memory : Memory) (actionId : String) (task : Nat) : Memory :=
  { memory with
    holds := memory.holds.map fun (id, hold) =>
      if id == actionId then (id, { hold with task := some task }) else (id, hold) }

def Memory.unresolvedOf (memory : Memory) (projectId : String) : Nat :=
  (memory.unresolved.lookup projectId).getD 0

def Memory.setUnresolved (memory : Memory) (projectId : String) (count : Nat) : Memory :=
  { memory with
    unresolved := (projectId, count) :: memory.unresolved.filter fun (id, _) => id != projectId }

def MemoryCall.exec (self : Nat) (settings : Settings) :
    (call : MemoryCall) → Memory → call.Ans × Memory
  | taskRunning actionId, memory => (memory.taskRunning actionId, memory)
  | tryHold actionId reportId llm, memory =>
      memory.tryHold settings.triageMaxConcurrent actionId reportId llm
  | release actionId, memory => ((), memory.release self actionId)
  | openPrRunning reportId, memory => ((memory.activeClaims.lookup reportId).isSome, memory)
  | registerClaim reportId token, memory =>
      ((), { memory with
        activeClaims := (reportId, token) ::
          memory.activeClaims.filter fun (id, _) => id != reportId })
  | dropClaim reportId token, memory =>
      ((), if memory.activeClaims.lookup reportId = some token then
        { memory with activeClaims := memory.activeClaims.filter fun (id, _) => id != reportId }
      else memory)
  | setFinalized token, memory => ((), { memory with finalized := token :: memory.finalized })
  | finalized token, memory => (decide (token ∈ memory.finalized), memory)
  | lockHeld lock, memory => (decide (lock ∈ memory.locks), memory)
  | unlock lock, memory => ((), { memory with locks := memory.locks.filter (· != lock) })
  | resetUnresolved projectId, memory => ((), memory.setUnresolved projectId 0)
  | addUnresolved projectId, memory =>
      ((), memory.setUnresolved projectId (memory.unresolvedOf projectId + 1))
  | unresolved projectId, memory => (memory.unresolvedOf projectId, memory)

inductive AnalysisTier where
  | localTier | cloud
deriving DecidableEq, Repr

/-- The coroutines and request handlers of the process. -/
inductive Job where
  | processSubmitted (reportId : String)
  | processTriaged (reportId : String)
  | processLocalization (reportId : String)
  | processFixProposal (reportId : String)
  | analyzeReport (reportId : String) (tier : AnalysisTier) (override : Option LLMOverride)
  | updateReportStatus (reportId : String) (target : BugStatus) (reason : Option String)
  | updateAnalysisMode (reportId : String) (mode : AnalysisMode)
  | deleteReport (reportId : String)
  | openPr (reportId : String) (proposalId : Option String)
  | updateProject (projectId : String) (updates : ProjectFields)
  | cloneProjectRepo (projectId : String)
  | refreshRepoMap (projectId : String)
  | syncProject (projectId : String) (manual : Bool)
  | expireOverdue
  | checkPrsOnly (projectId : String)
  /-- `_run_task`. -/
  | actionTask (actionId : String)
  /-- `_pr_task`. -/
  | prTask (actionId : String)

/-- What `authorize` decided, as far as a trace records it. -/
structure Authorized where
  pinned : PinnedLlm
  noAutoRetry : Bool
  keyMode : Option String
deriving DecidableEq

/-- Points of the code a trace marks. They touch nothing and never fail. -/
inductive Note where
  | proposeFix (reportId : String) (triggerRef : Option String)
  | authorized (actionId : String) (auth : Option Authorized)
  | runLlm (actionId : String)
  | runInline (actionId : String)
  | reopenForAction (actionId : String)
  | prStep (actionId : String)

inductive Op where
  | query (query : Query)
  | report (write : ReportWrite)
  | stage (write : StageWrite)
  | ledger (write : LedgerWrite)
  | joint (write : JointWrite)
  | project (id : String) (fields : ProjectFields)
  | outbox (write : OutboxWrite)
  | memory (call : MemoryCall)
  | remote (call : Remote)
  | compute (call : Compute)
  | observe (call : Observe)
  | newToken
  /-- `async with` on a lock. -/
  | acquire (lock : LockName)
  /-- `async with db_write_lock`. No body it guards ever suspends, so on one loop the lock
  is free whenever it is asked for, and a free lock is taken without giving the loop away. -/
  | dbWriteLock
  | note (note : Note)
  /-- `_holds[action_id].task = asyncio.create_task(...)`. -/
  | createTask (actionId : String) (job : Job)

/-- How a database call goes: it fails and has no effect, or commits at `clock`. -/
structure Weather where
  fault : Option (ClassName × String)
  clock : Nat
  fresh : String

namespace Op

abbrev Ans : Op → Type
  | query q => q.Ans
  | report _ => Bool
  | stage write => write.Ans
  | ledger _ => Bool
  | joint write => write.Ans
  | project .. => Bool
  | outbox write => write.Ans
  | memory call => call.Ans
  | remote call => call.Ans
  | compute call => call.Ans
  | observe call => call.Ans
  | newToken => String
  | _ => Unit

abbrev Env : Op → Type
  | remote call => Except Fault call.Ans
  | compute call => Except Fault call.Ans
  | observe call => call.Ans
  | newToken => String
  | _ => Weather

def suspends : Op → Bool
  | remote _ | acquire _ => true
  | _ => false

def isDb : Op → Bool
  | query _ | report _ | stage _ | ledger _ | joint _ | project .. | outbox _ => true
  | _ => false

def neverFails : Op → Bool
  | memory _ | observe _ | newToken | acquire _ | dbWriteLock | note _ => true
  | _ => false

def spawns : Op → Option Job
  | createTask _ job => some job
  | _ => none

end Op

abbrev Py := Program Op Op.Ans Exn

/-- `_now()`: strictly later than every stamp before it in this process. -/
def World.now (world : World) (clock : Nat) : Nat :=
  match world.memory.lastNow with
  | none => clock
  | some last => max clock (last + 1)

def World.stamp (world : World) (clock : Nat) : World :=
  { world with memory := { world.memory with lastNow := some (world.now clock) } }

def World.tokenUsed (world : World) (token : String) : Bool :=
  token ∈ world.drawn || world.db.reports.rows.any fun row => row.claimToken == some token

def underWeather {Ans : Type} (weather : Weather) (world : World)
    (commit : Option (Ans × World)) : Option (Except Exn Ans × World) :=
  match weather.fault with
  | some (typeName, text) => some (.error (.fault ⟨.other, typeName, text⟩), world)
  | none =>
      match commit with
      | some (answer, after) => some (.ok answer, after)
      | none => some (.error (.plain "IntegrityError" "constraint failed"), world)

def Op.exec (self fresh : Nat) :
    (op : Op) → op.Env → World → Option (Except Exn op.Ans × World)
  | query q, weather, world => underWeather weather world (some (q.run world.db, world))
  | report write, weather, world =>
      underWeather weather world <|
        if write.accepted then
          some (write.hits world.db.reports,
            { world.stamp weather.clock with
              db := { world.db with
                reports := write.apply (world.now weather.clock) world.db.reports } })
        else none
  | stage write, weather, world =>
      underWeather weather world <|
        (write.apply (world.now weather.clock) weather.fresh world.db.stages).map fun written =>
          (written.1,
            { world.stamp weather.clock with db := { world.db with stages := written.2 } })
  | ledger write, weather, world =>
      let written := write.apply (world.now weather.clock) world.db.ledger
      underWeather weather world <|
        some (written.1,
          { world.stamp weather.clock with db := { world.db with ledger := written.2 } })
  | joint write, weather, world =>
      let written := write.apply (world.now weather.clock) world.db
      underWeather weather world <|
        some (written.1, { world.stamp weather.clock with db := written.2 })
  | project id fields, weather, world =>
      let written := projectUpdate (world.now weather.clock) id fields world.db.projects
      underWeather weather world <|
        some (written.1,
          { world.stamp weather.clock with db := { world.db with projects := written.2 } })
  | outbox write, weather, world =>
      let written := write.apply (world.now weather.clock) world.db.outbox
      underWeather weather world <|
        some (written.1,
          { world.stamp weather.clock with db := { world.db with outbox := written.2 } })
  | memory call, _, world =>
      let called := call.exec self world.settings world.memory
      some (.ok called.1, { world with memory := called.2 })
  | remote _, answer, world => some (answer.mapError .fault, world)
  | compute _, answer, world => some (answer.mapError .fault, world)
  | observe _, answer, world => some (.ok answer, world)
  | newToken, token, world =>
      if world.tokenUsed token then none
      else some (.ok token, { world with drawn := token :: world.drawn })
  | acquire lock, _, world =>
      if lock ∈ world.memory.locks then none
      else some (.ok (), { world with
        memory := { world.memory with locks := lock :: world.memory.locks } })
  | dbWriteLock, _, world => some (.ok (), world)
  | note _, _, world => some (.ok (), world)
  | createTask actionId _, _, world =>
      if (world.memory.holds.lookup actionId).isSome then
        some (.ok (), { world with memory := world.memory.attach actionId fresh })
      else some (.error (.plain "KeyError" actionId), world)

theorem exec_never_fails {self fresh : Nat} {op : Op} {env : op.Env} {before after : World}
    {answer : Except Exn op.Ans} (sure : op.neverFails)
    (ran : op.exec self fresh env before = some (answer, after)) : ∃ value, answer = .ok value := by
  cases op with
  | newToken =>
      simp only [Op.exec] at ran
      split at ran <;> cases ran
      exact ⟨_, rfl⟩
  | acquire lock =>
      simp only [Op.exec] at ran
      split at ran <;> cases ran
      exact ⟨_, rfl⟩
  | memory call => cases ran; exact ⟨_, rfl⟩
  | observe call => cases ran; exact ⟨_, rfl⟩
  | dbWriteLock => cases ran; exact ⟨_, rfl⟩
  | note mark => cases ran; exact ⟨_, rfl⟩
  | query _ | report _ | stage _ | ledger _ | joint _ | project _ _ | outbox _ | remote _
  | compute _ | createTask _ _ => cases sure

/-- The operations whose answer is the outside's, and that touch nothing. -/
def Op.outer : Op → Bool
  | remote _ | compute _ | observe _ | dbWriteLock | note _ => true
  | _ => false

def World.commit (world : World) (clock : Nat) (db : Database) : World :=
  { world.stamp clock with db }

@[simp] theorem commit_db (world : World) (clock : Nat) (db : Database) :
    (world.commit clock db).db = db := rfl

inductive OpMoves (self fresh : Nat) (before : World) :
    (op : Op) → Except Exn op.Ans → World → Prop
  | failed (op : Op) (error : Exn) : OpMoves self fresh before op (.error error) before
  | read (q : Query) : OpMoves self fresh before (.query q) (.ok (q.run before.db)) before
  | report (write : ReportWrite) (clock : Nat) (accepted : write.accepted) :
      OpMoves self fresh before (.report write) (.ok (write.hits before.db.reports))
        (before.commit clock
          { before.db with reports := write.apply (before.now clock) before.db.reports })
  | stage (write : StageWrite) (clock : Nat) (drawn : String) (written : write.Ans × Stages)
      (applied : write.apply (before.now clock) drawn before.db.stages = some written) :
      OpMoves self fresh before (.stage write) (.ok written.1)
        (before.commit clock { before.db with stages := written.2 })
  | ledger (write : LedgerWrite) (clock : Nat) :
      OpMoves self fresh before (.ledger write)
        (.ok (write.apply (before.now clock) before.db.ledger).1)
        (before.commit clock
          { before.db with ledger := (write.apply (before.now clock) before.db.ledger).2 })
  | joint (write : JointWrite) (clock : Nat) :
      OpMoves self fresh before (.joint write) (.ok (write.apply (before.now clock) before.db).1)
        (before.commit clock (write.apply (before.now clock) before.db).2)
  | project (id : String) (fields : ProjectFields) (clock : Nat) :
      OpMoves self fresh before (.project id fields)
        (.ok (projectUpdate (before.now clock) id fields before.db.projects).1)
        (before.commit clock
          { before.db with
            projects := (projectUpdate (before.now clock) id fields before.db.projects).2 })
  | outbox (write : OutboxWrite) (clock : Nat) :
      OpMoves self fresh before (.outbox write)
        (.ok (write.apply (before.now clock) before.db.outbox).1)
        (before.commit clock
          { before.db with outbox := (write.apply (before.now clock) before.db.outbox).2 })
  | memory (call : MemoryCall) :
      OpMoves self fresh before (.memory call)
        (.ok (call.exec self before.settings before.memory).1)
        { before with memory := (call.exec self before.settings before.memory).2 }
  | outer (op : Op) (answer : Except Exn op.Ans) (outer : op.outer) :
      OpMoves self fresh before op answer before
  | token (token : String) (unused : before.tokenUsed token = false) :
      OpMoves self fresh before .newToken (.ok token)
        { before with drawn := token :: before.drawn }
  | acquire (lock : LockName) (free : lock ∉ before.memory.locks) :
      OpMoves self fresh before (.acquire lock) (.ok ())
        { before with memory := { before.memory with locks := lock :: before.memory.locks } }
  | createTask (actionId : String) (job : Job)
      (held : (before.memory.holds.lookup actionId).isSome) :
      OpMoves self fresh before (.createTask actionId job) (.ok ())
        { before with memory := before.memory.attach actionId fresh }

/-- A database call either fails and changes nothing, or commits. -/
theorem under_weather {Ans : Type} {weather : Weather} {before after : World}
    {commit : Option (Ans × World)} {answer : Except Exn Ans}
    (ran : underWeather weather before commit = some (answer, after)) :
    ((∃ error, answer = .error error) ∧ after = before) ∨
      ∃ value, commit = some (value, after) ∧ answer = .ok value := by
  unfold underWeather at ran
  split at ran
  · cases ran
    exact .inl ⟨⟨_, rfl⟩, rfl⟩
  · split at ran
    · cases ran
      exact .inr ⟨_, rfl, rfl⟩
    · cases ran
      exact .inl ⟨⟨_, rfl⟩, rfl⟩

theorem exec_moves {self fresh : Nat} {op : Op} {env : op.Env} {before after : World}
    {answer : Except Exn op.Ans} (ran : op.exec self fresh env before = some (answer, after)) :
    OpMoves self fresh before op answer after := by
  cases op with
  | query q =>
      simp only [Op.exec] at ran
      rcases under_weather ran with ⟨⟨error, rfl⟩, rfl⟩ | ⟨value, commit, rfl⟩
      · exact .failed _ error
      · cases commit
        exact .read q
  | report write =>
      simp only [Op.exec] at ran
      rcases under_weather ran with ⟨⟨error, rfl⟩, rfl⟩ | ⟨value, commit, rfl⟩
      · exact .failed _ error
      · split at commit <;> cases commit
        exact .report write _ ‹_›
  | stage write =>
      simp only [Op.exec] at ran
      rcases under_weather ran with ⟨⟨error, rfl⟩, rfl⟩ | ⟨value, commit, rfl⟩
      · exact .failed _ error
      · obtain ⟨written, applied, same⟩ := Option.map_eq_some_iff.mp commit
        cases same
        exact .stage write _ _ written applied
  | ledger write =>
      simp only [Op.exec] at ran
      rcases under_weather ran with ⟨⟨error, rfl⟩, rfl⟩ | ⟨value, commit, rfl⟩
      · exact .failed _ error
      · cases commit
        exact .ledger write _
  | joint write =>
      simp only [Op.exec] at ran
      rcases under_weather ran with ⟨⟨error, rfl⟩, rfl⟩ | ⟨value, commit, rfl⟩
      · exact .failed _ error
      · cases commit
        exact .joint write _
  | project id fields =>
      simp only [Op.exec] at ran
      rcases under_weather ran with ⟨⟨error, rfl⟩, rfl⟩ | ⟨value, commit, rfl⟩
      · exact .failed _ error
      · cases commit
        exact .project id fields _
  | outbox write =>
      simp only [Op.exec] at ran
      rcases under_weather ran with ⟨⟨error, rfl⟩, rfl⟩ | ⟨value, commit, rfl⟩
      · exact .failed _ error
      · cases commit
        exact .outbox write _
  | newToken =>
      simp only [Op.exec] at ran
      split at ran <;> cases ran
      rename_i unused
      exact .token _ (by simpa using unused)
  | acquire lock =>
      simp only [Op.exec] at ran
      split at ran <;> cases ran
      rename_i free
      exact .acquire lock free
  | createTask id job =>
      simp only [Op.exec] at ran
      split at ran <;> cases ran
      · rename_i held
        exact .createTask id job held
      · exact .failed _ _
  | memory call => cases ran; exact .memory call
  | remote call => cases ran; exact .outer _ _ rfl
  | compute call => cases ran; exact .outer _ _ rfl
  | observe call => cases ran; exact .outer _ _ rfl
  | dbWriteLock => cases ran; exact .outer _ _ rfl
  | note mark => cases ran; exact .outer _ _ rfl

end Bugalizer
