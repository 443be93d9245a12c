import Bugalizer.Coroutine.EventLoop
import Bugalizer.Ingest.Rows

/-!
# The ingest poller, and what runs beside it

A poll holds its project's lock, walks forward, walks again when that is due, and books the
result; each of its writes is one `ingest_commit`. Requests that change or delete a project run
on worker threads, so they fall between any two operations of a poll, and between the reads and
the writes of one another.
-/

namespace Bugalizer.Ingest

set_option autoImplicit false

open Coroutine Program

structure Settings where
  ingestPageLimit : Int
  ingestMaxPages : Nat
  ingestRewalkPages : Nat
  /-- `timedelta(hours=settings.ingest_rewalk_hours)`, in microseconds. -/
  ingestRewalkInterval : Int
  urlsplit : String → Option (String × Option String)

inductive Exn where
  | stale
  | fault (typeName : String)
  | httpException (status : Nat)
deriving DecidableEq, Repr

/-- What becomes of a request to the source, short of an exception of another family. -/
inductive Reply where
  | timeout
  | httpError
  | response (status : Nat) (body : Option Json)

inductive Walk where
  | forward | rewalk | bookkeeping
deriving DecidableEq, Repr

inductive Op where
  | acquire (projectId : String)
  | release (projectId : String)
  | projectGet (projectId : String)
  | projectUpdate (projectId : String) (existing : ProjectRow) (fields : IngestFields)
  | projectCreate (source : Option String) (config : Option IngestConfig)
  | projectExists (projectId : String)
  | hasActiveReports (projectId : String)
  | projectDelete (projectId : String)
  | reportCreate (projectId : String)
  | reportDelete (reportId : String)
  | stateGet (projectId : String)
  | commit (walk : Walk) (projectId : String) (generation : Nat) (step : PollStep)
  | fetch (url token : String) (limit : Nat) (cursor : Option String)
  | credential (name : String)
  | now
  /-- `_checked_ingest_pair` and `_check_triage_source`: the validated pair, or a refusal. -/
  | checkedPair (source : Option String) (config : Option Json)

namespace Op

abbrev Ans : Op → Type
  | projectGet _ => Option ProjectRow
  | projectExists _ => Bool
  | hasActiveReports _ => Bool
  | stateGet _ => Option StateRow
  | commit .. => Option Nat
  | fetch .. => Reply
  | credential _ => Option String
  | now => Nat
  | checkedPair .. => Option (String × IngestConfig)
  | _ => Unit

/-- How a database call goes: the exception it raises, else the clock and the ids it draws. -/
structure Weather where
  fault : Option String
  clock : Nat
  fresh : Nat → String

abbrev Env : Op → Type
  | projectDelete _ => Option String × Leftover
  | fetch .. => Except String Reply
  | credential _ => Option String
  | now => Nat
  | checkedPair .. => Except Exn (Option (String × IngestConfig))
  | _ => Weather

/-- A poll gives the loop away for its lock, for an answer, and for the write lock. -/
def suspends : Op → Bool
  | acquire _ | fetch .. | commit .. => true
  | _ => false

end Op

abbrev Coro := Program Op Op.Ans Exn

def ask (op : Op) : Coro op.Ans := perform op

def Settings.pageLimit (settings : Settings) : Nat :=
  (max 1 (min 200 settings.ingestPageLimit)).toNat

/-- `_fetch`, once the request has its reply: one page, or a fixed error code. -/
def readReply : Reply → Except String PollPage
  | .timeout => .error "timeout"
  | .httpError => .error "network_error"
  | .response status body =>
      if status = 200 then
        match body.bind parsePage with
        | some page => .ok page
        | none => .error "malformed_response"
      else if status = 400 then .error "bad_cursor"
      else if status = 401 then .error "unauthorized"
      else if status = 503 then .error "source_not_configured"
      else if 500 ≤ status ∧ status < 600 then .error "upstream_error"
      else .error ("unexpected_status:" ++ toString status)

/-- No further page: no cursor, or a short page. -/
def walkEnds (settings : Settings) (page : PollPage) : Bool :=
  page.nextCursor.isNone || decide (page.reports.length < settings.pageLimit)

structure Poll where
  projectId : String
  generation : Nat
  source : String
  url : String
  token : String

def Poll.commit (poll : Poll) (walk : Walk) (step : PollStep) : Coro Unit := do
  let inserted ← ask (.commit walk poll.projectId poll.generation step)
  if inserted.isNone then raise .stale else pure ()

def fetch (settings : Settings) (poll : Poll) (cursor : Option String) :
    Coro (Except String PollPage) := do
  let reply ← ask (.fetch poll.url poll.token settings.pageLimit cursor)
  pure (readReply reply)

def forwardStep (settings : Settings) (source : String) (page : PollPage) : PollStep :=
  { reports := mapPage settings.urlsplit page source
    updates := { cursor := page.nextCursor.map some } }

/-- `_forward`, with the pages it may still take; its error, if it had one. -/
def forward (settings : Settings) (poll : Poll) : Nat → Option String → Coro (Option String)
  | 0, _ => pure none
  | pages + 1, cursor => do
      match ← fetch settings poll cursor with
      | .error code => do
          if code = "bad_cursor" then
            poll.commit .forward { updates := { cursor := some none } }
          pure (some code)
      | .ok page => do
          poll.commit .forward (forwardStep settings poll.source page)
          if walkEnds settings page then pure none
          else forward settings poll pages page.nextCursor

def rewalkDue (settings : Settings) (state : Option StateRow) : Coro Bool := do
  match state.bind StateRow.lastFullWalkAt with
  | none => pure false
  | some last => do
      let now ← ask .now
      pure (decide (settings.ingestRewalkInterval ≤ (now : Int) - last))

def rewalkStep (settings : Settings) (source : String) (started : Nat) (page : PollPage) :
    PollStep :=
  { reports := mapPage settings.urlsplit page source
    updates :=
      if walkEnds settings page then
        { lastFullWalkAt := some started, rewalkStartedAt := some none, rewalkCursor := some none }
      else { rewalkCursor := page.nextCursor.map some } }

/-- The loop of `_rewalk`. -/
def rewalkLoop (settings : Settings) (poll : Poll) (started : Nat) :
    Nat → Option String → Coro (Option String)
  | 0, _ => pure none
  | pages + 1, cursor => do
      match ← fetch settings poll cursor with
      | .error code => do
          if code = "bad_cursor" then
            poll.commit .rewalk { updates := { rewalkCursor := some none } }
          pure (some code)
      | .ok page => do
          poll.commit .rewalk (rewalkStep settings poll.source started page)
          if walkEnds settings page then pure none
          else rewalkLoop settings poll started pages page.nextCursor

def startRewalk (settings : Settings) (poll : Poll) : Coro (Option String) := do
  let started ← ask .now
  poll.commit .rewalk
    { updates := { rewalkStartedAt := some (some started), rewalkCursor := some none } }
  rewalkLoop settings poll started settings.ingestRewalkPages none

def rewalk (settings : Settings) (poll : Poll) (full : Bool) : Coro (Option String) := do
  let state ← ask (.stateGet poll.projectId)
  match state.bind StateRow.rewalkStartedAt with
  | some started =>
      rewalkLoop settings poll started settings.ingestRewalkPages (state.bind StateRow.rewalkCursor)
  | none =>
      if full then startRewalk settings poll
      else do
        if ← rewalkDue settings state then startRewalk settings poll else pure none

def finish (poll : Poll) (error : Option String) : Coro Unit := do
  let now ← ask .now
  match error with
  | some code =>
      poll.commit .bookkeeping
        { updates := { lastPollAt := some now, lastError := some (some code) }, countFailure := true }
  | none =>
      poll.commit .bookkeeping
        { updates :=
            { lastPollAt := some now, lastOkAt := some now, lastError := some none
              consecutiveFailures := some 0 } }
  let _ ← ask (.stateGet poll.projectId)

/-- The body of `poll_project`'s `try`. -/
def walks (settings : Settings) (poll : Poll) (credentialEnv : String) (full : Bool) : Coro Unit := do
  let token ← ask (.credential credentialEnv)
  if token.getD "" = "" then finish poll (some "credential_missing")
  else do
    let poll := { poll with token := token.getD "" }
    let state ← ask (.stateGet poll.projectId)
    let current := state.filter fun row => row.generation == poll.generation
    let error ← forward settings poll settings.ingestMaxPages (current.bind StateRow.cursor)
    let error ← if error.isNone then rewalk settings poll full else pure error
    finish poll error

/-- The handlers of `poll_project`: a stale poll ends, any other error is booked. -/
def containFailure (poll : Poll) (error : Exn) : Coro Unit :=
  if error = .stale then pure ()
  else (finish poll (some "internal_error")).catching fun _ => pure ()

/-- `poll_project`, under its lock. -/
def pollLocked (settings : Settings) (projectId : String) (full : Bool) : Coro Unit := do
  match ← ask (.projectGet projectId) with
  | none => pure ()
  | some project =>
      match project.ingestConfig with
      | none => pure ()
      | some config =>
          if project.ingestSource.getD "" = "" then pure ()
          else
            let poll : Poll :=
              { projectId, generation := project.ingestGeneration
                source := project.ingestSource.getD "", url := config.url, token := "" }
            (walks settings poll config.credentialEnv full).catching (containFailure poll)

def pollProject (settings : Settings) (projectId : String) (full : Bool) : Coro Unit := do
  ask (.acquire projectId)
  (pollLocked settings projectId full).ensuring (ask (.release projectId))

structure Patch where
  ingestSource : Option (Option String) := none
  ingestConfig : Option (Option Json) := none

def IngestConfig.toJson (config : IngestConfig) : Json :=
  .obj ([("url", .str config.url), ("table", .str config.table),
    ("credential_env", .str config.credentialEnv)] ++
    config.triageCredentialEnv.toList.map fun name => ("triage_credential_env", .str name))

/-- The pair of the merged row; a `null` on either clears both. -/
def Patch.merged (patch : Patch) (existing : ProjectRow) : Option String × Option Json :=
  if patch.ingestSource = some none || patch.ingestConfig.any Option.isNone then (none, none)
  else (patch.ingestSource.getD existing.ingestSource,
    patch.ingestConfig.getD (existing.ingestConfig.map IngestConfig.toJson))

/-- `project_update`. -/
def projectUpdateCall (projectId : String) (fields : IngestFields) : Coro (Option ProjectRow) := do
  match ← ask (.projectGet projectId) with
  | none => pure none
  | some existing => do
      ask (.projectUpdate projectId existing fields)
      ask (.projectGet projectId)

/-- `PATCH /projects/{id}`. -/
def updateProject (projectId : String) (patch : Patch) : Coro Unit := do
  let fields ← if patch.ingestSource.isSome || patch.ingestConfig.isSome then do
      match ← ask (.projectGet projectId) with
      | none => raise (.httpException 404)
      | some existing => do
          let merged := patch.merged existing
          let pair ← ask (.checkedPair merged.1 merged.2)
          pure { ingestSource := some (pair.map Prod.fst), ingestConfig := some (pair.map Prod.snd) }
    else pure {}
  let row ← projectUpdateCall projectId fields
  if row.isNone then raise (.httpException 404) else pure ()

/-- `POST /projects`. -/
def createProject (source : Option String) (config : Option Json) : Coro Unit := do
  let pair ← ask (.checkedPair source config)
  ask (.projectCreate (pair.map Prod.fst) (pair.map Prod.snd))

/-- `DELETE /projects/{id}`. -/
def deleteProject (projectId : String) : Coro Unit := do
  if ← ask (.projectExists projectId) then
    if ← ask (.hasActiveReports projectId) then raise (.httpException 409)
    else ask (.projectDelete projectId)
  else raise (.httpException 404)

inductive Job where
  | poll (projectId : String) (full : Bool)
  | updateProject (projectId : String) (patch : Patch)
  | createProject (source : Option String) (config : Option Json)
  | deleteProject (projectId : String)
  /-- A report filed through the API, or marked deleted there. -/
  | reportCreate (projectId : String)
  | reportDelete (reportId : String)

/-- `drawn` are the ids of all projects that ever were. -/
structure World where
  db : Database
  locks : List String
  drawn : List String
  settings : Settings

def underWeather {Ans : Type} (weather : Op.Weather) (world : World)
    (commit : Option (Ans × World)) : Option (Except Exn Ans × World) :=
  match weather.fault with
  | some typeName => some (.error (.fault typeName), world)
  | none =>
      match commit with
      | some (answer, after) => some (.ok answer, after)
      | none => some (.error (.fault "IntegrityError"), world)

def Op.exec (_self _fresh : Nat) :
    (op : Op) → op.Env → World → Option (Except Exn op.Ans × World)
  | acquire projectId, _, world =>
      if projectId ∈ world.locks then none
      else some (.ok (), { world with locks := projectId :: world.locks })
  | release projectId, _, world =>
      some (.ok (), { world with locks := world.locks.erase projectId })
  | projectGet id, weather, world => underWeather weather world (some (world.db.projects.get id, world))
  | projectUpdate id existing fields, weather, world =>
      underWeather weather world
        (some ((), { world with db := Ingest.projectUpdate id existing fields world.db }))
  | projectCreate source config, weather, world =>
      if weather.fresh 0 ∈ world.drawn then none
      else underWeather weather world <|
        (world.db.projects.insert ⟨weather.fresh 0, source, config, 0⟩).map fun projects =>
          ((), { world with
            db := { world.db with projects }, drawn := weather.fresh 0 :: world.drawn })
  | projectExists id, weather, world =>
      underWeather weather world (some ((world.db.projects.get id).isSome, world))
  | hasActiveReports id, weather, world =>
      underWeather weather world (some (Ingest.hasActiveReports id world.db, world))
  | projectDelete id, weather, world =>
      match weather.1, Ingest.projectDelete id world.db with
      | none, some db => some (.ok (), { world with db })
      | fault, _ =>
          some (.error (.fault (fault.getD "IntegrityError")),
            { world with db := weather.2.apply id world.db })
  | reportCreate projectId, weather, world =>
      underWeather weather world <|
        if (world.db.projects.get projectId).isNone then none
        else (world.db.reports.insert ⟨weather.fresh 0, projectId, none, false, none⟩).map
          fun reports => ((), { world with db := { world.db with reports } })
  | reportDelete id, weather, world =>
      underWeather weather world <|
        some ((), { world with db := { world.db with reports := markDeleted id world.db.reports } })
  | stateGet id, weather, world => underWeather weather world (some (world.db.states.get id, world))
  | commit _ projectId generation step, weather, world =>
      underWeather weather world <|
        (ingestCommit projectId generation step weather.clock weather.fresh world.db).map
          fun (inserted, db) => (inserted, { world with db })
  | fetch .., reply, world => some (reply.mapError .fault, world)
  | credential _, value, world => some (.ok value, world)
  | now, clock, world => some (.ok clock, world)
  | checkedPair .., pair, world => some (pair, world)

namespace Job

def program (settings : Settings) : Job → Coro Unit
  | poll projectId full => pollProject settings projectId full
  | updateProject projectId patch => Ingest.updateProject projectId patch
  | createProject source config => Ingest.createProject source config
  | deleteProject projectId => Ingest.deleteProject projectId
  | reportCreate projectId => ask (.reportCreate projectId)
  | reportDelete reportId => ask (.reportDelete reportId)

def threaded : Job → Bool
  | poll .. => false
  | _ => true

end Job

def ingest : Machine Op Op.Ans Op.Env Exn World Job Settings where
  program world job := job.program world.settings
  rooted _ := true
  threaded := Job.threaded
  suspends := Op.suspends
  spawns _ := none
  exec := Op.exec
  ended _ world := world
  restart settings world := { world with locks := [], settings }

abbrev Sys := State Op Op.Ans Exn World Job

abbrev Ev := Event Op Op.Ans Exn Job

/-- A process just started on a database without checkpoints of projects that are not there. -/
def World.initial (db : Database) (settings : Settings) : World :=
  { db, locks := [], drawn := db.projects.rows.map ProjectRow.id, settings }

end Bugalizer.Ingest
