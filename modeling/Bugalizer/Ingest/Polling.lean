import Bugalizer.Coroutine.Conduct
import Bugalizer.Ingest.Statements

/-!
# What a poll may ask for

A poll captures its project once, under the lock, and then walks: it sends the cursor it stands
at, commits the page it was answered, and moves on. The ghost of a poll is where it stands.
-/

namespace Bugalizer.Ingest

set_option autoImplicit false

open Coroutine Program

/-- `forward` and `rewalk` stand at the cursor that is sent next, or was sent for the page that
is not committed yet. -/
inductive Position where
  | idle
  | forward (cursor : Option String) (page : Option PollPage)
  | ready
  | starting (started : Nat)
  | rewalk (started : Nat) (cursor : Option String) (page : Option PollPage)

namespace Position

def afterState (generation : Nat) (state : Option StateRow) : Position → Position
  | idle => forward ((state.filter fun row => row.generation == generation).bind StateRow.cursor) none
  | forward _ _ =>
      match state.bind StateRow.rewalkStartedAt with
      | some started => rewalk started (state.bind StateRow.rewalkCursor) none
      | none => ready
  | other => other

def afterNow (clock : Nat) : Position → Position
  | ready => starting clock
  | starting _ => starting clock
  | other => other

def afterPage (page : PollPage) : Position → Position
  | forward cursor _ => forward cursor (some page)
  | rewalk started cursor _ => rewalk started cursor (some page)
  | other => other

def afterCommit (settings : Settings) (walk : Walk) (position : Position) : Position :=
  match walk, position with
  | .forward, forward _ (some page) => forward page.nextCursor none
  | .forward, forward _ none => forward none none
  | .rewalk, starting started => rewalk started none none
  | .rewalk, rewalk started _ (some page) =>
      if walkEnds settings page then idle else rewalk started page.nextCursor none
  | .rewalk, rewalk started _ none => rewalk started none none
  | _, other => other

def sends (cursor : Option String) : Position → Prop
  | forward stands none => cursor = stands
  | rewalk _ stands none => cursor = stands
  | _ => False

end Position

def StateUpdates.Walkless (updates : StateUpdates) : Prop :=
  updates.cursor = none ∧ updates.rewalkCursor = none ∧ updates.rewalkStartedAt = none ∧
    updates.lastFullWalkAt = none

/-- A step that fits where the poll stands. -/
def Fits (settings : Settings) (source : String) (position : Position) (walk : Walk)
    (step : PollStep) : Prop :=
  match walk, position with
  | .forward, .forward _ (some page) => step = forwardStep settings source page
  | .forward, .forward _ none => step = { updates := { cursor := some none } }
  | .rewalk, .starting started =>
      step = { updates := { rewalkStartedAt := some (some started), rewalkCursor := some none } }
  | .rewalk, .rewalk started _ (some page) => step = rewalkStep settings source started page
  | .rewalk, .rewalk _ _ none => step = { updates := { rewalkCursor := some none } }
  | .bookkeeping, _ => step.reports = [] ∧ step.updates.Walkless
  | _, _ => False

structure Hold where
  projectId : String
  captured : Option ProjectRow := none
  position : Position := .idle

/-- The settings a coroutine runs under, whether it is a poll, and one before its lock, and what it
holds behind it. -/
structure Grip where
  settings : Settings
  polling : Bool := false
  outside : Bool := false
  hold : Option Hold := none

namespace Grip

def move (change : Nat → Position → Position) (grip : Grip) : Grip :=
  { grip with
    hold := grip.hold.map fun hold =>
      { hold with
        position := change (hold.captured.elim 0 ProjectRow.ingestGeneration) hold.position } }

end Grip

def pollNext (grip : Grip) (op : Op) (answer : Except Exn op.Ans) : Grip :=
  match op, answer with
  | .acquire projectId, .ok _ => { grip with outside := false, hold := some { projectId } }
  | .release _, _ => { grip with hold := none }
  | .projectGet _, .ok row => { grip with hold := grip.hold.map fun hold => { hold with captured := row } }
  | .stateGet _, .ok state => grip.move fun generation => Position.afterState generation state
  | .now, .ok clock => grip.move fun _ => Position.afterNow clock
  | .fetch .., .ok reply =>
      match readReply reply with
      | .ok page => grip.move fun _ => Position.afterPage page
      | .error _ => grip
  | .commit walk _ _ _, .ok (some _) => grip.move fun _ => Position.afterCommit grip.settings walk
  | _, _ => grip

def pollAllowed (grip : Grip) : Op → Prop
  | .acquire _ => grip.outside = true ∧ grip.hold = none
  | .release projectId => ∃ hold, grip.hold = some hold ∧ hold.projectId = projectId
  | .projectGet projectId =>
      grip.outside = false ∧
        ∀ hold, grip.hold = some hold → hold.projectId = projectId ∧ hold.captured = none
  | .stateGet projectId => ∃ hold, grip.hold = some hold ∧ hold.projectId = projectId
  | .commit walk projectId generation step =>
      ∃ hold row source, grip.hold = some hold ∧ hold.projectId = projectId ∧
        hold.captured = some row ∧ row.ingestGeneration = generation ∧
        row.ingestSource = some source ∧ Fits grip.settings source hold.position walk step
  | .fetch _ _ limit cursor =>
      ∃ hold, grip.hold = some hold ∧ limit = grip.settings.pageLimit ∧ hold.position.sends cursor
  | .projectUpdate .. | .projectCreate .. | .projectDelete _ | .reportCreate _ | .reportDelete _ =>
      grip.polling = false
  | _ => True

def polls : Discipline Op Op.Ans Exn where
  Ghost := Grip
  allowed := pollAllowed
  next := pollNext

section Follows

variable {settings : Settings} {row : ProjectRow} {poll : Poll}

def standing (settings : Settings) (projectId : String) (row : ProjectRow) (position : Position) :
    Grip :=
  ⟨settings, true, false, some ⟨projectId, some row, position⟩⟩

/-- Somewhere behind the lock, the project captured. -/
def Standing (settings : Settings) (projectId : String) (row : ProjectRow) (grip : Grip) : Prop :=
  ∃ position, grip = standing settings projectId row position

structure Poll.Of (poll : Poll) (row : ProjectRow) : Prop where
  generation : row.ingestGeneration = poll.generation
  source : row.ingestSource = some poll.source

abbrev Poll.At (poll : Poll) (settings : Settings) (row : ProjectRow) : Grip → Prop :=
  Standing settings poll.projectId row

theorem commit_follows (made : poll.Of row) {position : Position} {walk : Walk} {step : PollStep}
    (fits : Fits settings poll.source position walk step) :
    (poll.commit walk step).Follows polls (standing settings poll.projectId row position)
      (fun _ reached => reached =
        standing settings poll.projectId row (position.afterCommit settings walk))
      (fun _ => poll.At settings row) := by
  refine ⟨⟨_, row, poll.source, rfl, rfl, rfl, made.generation, made.source, fits⟩, fun answer => ?_⟩
  cases answer with
  | error error => exact ⟨position, rfl⟩
  | ok inserted =>
      cases inserted with
      | none => exact ⟨position, rfl⟩
      | some count => rfl

theorem clock_follows {projectId : String} {position : Position} :
    (ask .now).Follows polls (standing settings projectId row position)
      (fun clock reached => reached = standing settings projectId row (position.afterNow clock))
      (fun _ => Standing settings projectId row) := by
  refine ⟨trivial, fun answer => ?_⟩
  cases answer with
  | error error => exact ⟨position, rfl⟩
  | ok clock => rfl

theorem state_follows {projectId : String} {position : Position} :
    (ask (.stateGet projectId)).Follows polls (standing settings projectId row position)
      (fun state reached => reached =
        standing settings projectId row (position.afterState row.ingestGeneration state))
      (fun _ => Standing settings projectId row) := by
  refine ⟨⟨_, rfl, rfl⟩, fun answer => ?_⟩
  cases answer with
  | error error => exact ⟨position, rfl⟩
  | ok state => rfl

/-- A page moves the poll to where it is to be committed; an error leaves it. -/
def Fetched (settings : Settings) (projectId : String) (row : ProjectRow) (position : Position)
    (result : Except String PollPage) (reached : Grip) : Prop :=
  match result with
  | .ok page => reached = standing settings projectId row (position.afterPage page)
  | .error _ => reached = standing settings projectId row position

theorem fetch_follows {position : Position} {cursor : Option String} (sends : position.sends cursor) :
    (fetch settings poll cursor).Follows polls (standing settings poll.projectId row position)
      (Fetched settings poll.projectId row position) (fun _ => poll.At settings row) := by
  refine ⟨⟨_, rfl, rfl, sends⟩, fun answer => ?_⟩
  cases answer with
  | error error => exact ⟨position, rfl⟩
  | ok reply =>
      show Fetched settings poll.projectId row position (readReply reply) _
      cases read : readReply reply with
      | ok page =>
          simp only [Fetched, polls, pollNext, read]
          rfl
      | error code => simp only [Fetched, polls, pollNext, read]

theorem forward_follows (made : poll.Of row) (pages : Nat) (cursor : Option String) :
    (forward settings poll pages cursor).Follows polls
      (standing settings poll.projectId row (.forward cursor none))
      (fun _ reached => ∃ stands page,
        reached = standing settings poll.projectId row (.forward stands page))
      (fun _ => poll.At settings row) := by
  induction pages generalizing cursor with
  | zero => exact ⟨cursor, none, rfl⟩
  | succ pages ih =>
      refine Follows.andThen (fetch_follows (by rfl)) (fun result reached at' => ?_) fun _ _ at' => at'
      cases result with
      | error code =>
          have here : reached = _ := at'
          subst here
          dsimp only
          split
          · exact Follows.andThen (commit_follows made (by rfl)) (fun _ _ same => ⟨none, none, same⟩)
              fun _ _ at' => at'
          · exact ⟨cursor, none, rfl⟩
      | ok page =>
          have here : reached = _ := at'
          subst here
          dsimp only
          refine Follows.andThen (commit_follows made (by rfl)) (fun _ reached same => ?_)
            fun _ _ at' => at'
          subst same
          split
          · exact ⟨page.nextCursor, none, rfl⟩
          · exact ih page.nextCursor

theorem rewalk_loop_follows (made : poll.Of row) (started pages : Nat) (cursor : Option String) :
    (rewalkLoop settings poll started pages cursor).Follows polls
      (standing settings poll.projectId row (.rewalk started cursor none))
      (fun _ => poll.At settings row) (fun _ => poll.At settings row) := by
  induction pages generalizing cursor with
  | zero => exact ⟨_, rfl⟩
  | succ pages ih =>
      refine Follows.andThen (fetch_follows (by rfl)) (fun result reached at' => ?_) fun _ _ at' => at'
      cases result with
      | error code =>
          have here : reached = _ := at'
          subst here
          dsimp only
          split
          · exact Follows.andThen (commit_follows made (by rfl)) (fun _ _ same => ⟨_, same⟩)
              fun _ _ at' => at'
          · exact ⟨_, rfl⟩
      | ok page =>
          have here : reached = _ := at'
          subst here
          dsimp only
          refine Follows.andThen (commit_follows made (by rfl)) (fun _ reached same => ?_)
            fun _ _ at' => at'
          subst same
          cases ends : walkEnds settings page with
          | true =>
              rw [if_pos rfl]
              exact ⟨_, rfl⟩
          | false =>
              rw [if_neg (by decide)]
              have next : Position.afterCommit settings .rewalk
                  (.afterPage page (.rewalk started cursor none)) =
                  .rewalk started page.nextCursor none := by
                simp [Position.afterCommit, Position.afterPage, ends]
              rw [next]
              exact ih page.nextCursor

theorem bookkeeping_fits {source : String} {position : Position} {step : PollStep}
    (reports : step.reports = []) (walkless : step.updates.Walkless) :
    Fits settings source position .bookkeeping step := ⟨reports, walkless⟩

theorem finish_follows (made : poll.Of row) (error : Option String) {position : Position} :
    (finish poll error).Follows polls (standing settings poll.projectId row position)
      (fun _ => poll.At settings row) (fun _ => poll.At settings row) := by
  have booked : ∀ (clock : Nat) (step : PollStep), step.reports = [] → step.updates.Walkless →
      ((poll.commit .bookkeeping step).bind fun _ =>
        (ask (.stateGet poll.projectId)).bind fun _ => done ()).Follows polls
        (standing settings poll.projectId row (position.afterNow clock))
        (fun _ => poll.At settings row) (fun _ => poll.At settings row) := by
    intro clock step reports walkless
    refine Follows.andThen (commit_follows made (bookkeeping_fits reports walkless))
      (fun _ reached same => ?_) fun _ _ at' => at'
    subst same
    exact Follows.andThen state_follows (fun _ _ same => ⟨_, same⟩) fun _ _ at' => at'
  refine Follows.andThen clock_follows (fun clock reached same => ?_) fun _ _ at' => at'
  subst same
  cases error with
  | none => exact booked clock _ rfl ⟨rfl, rfl, rfl, rfl⟩
  | some code => exact booked clock _ rfl ⟨rfl, rfl, rfl, rfl⟩

/-- A re-walk that is not in progress reads the clock before it starts. -/
theorem rewalk_due_follows (state : Option StateRow) {position : Position}
    (idle : position = .ready ∨ ∃ started, position = .starting started) :
    (rewalkDue settings state).Follows polls (standing settings poll.projectId row position)
      (fun _ reached => ∃ next, (next = .ready ∨ ∃ started, next = .starting started) ∧
        reached = standing settings poll.projectId row next)
      (fun _ => poll.At settings row) := by
  unfold rewalkDue
  split
  · exact ⟨position, idle, rfl⟩
  · refine Follows.andThen clock_follows (fun clock reached same => ?_) fun _ _ at' => at'
    refine ⟨.starting clock, .inr ⟨clock, rfl⟩, ?_⟩
    rcases idle with rfl | ⟨started, rfl⟩ <;> exact same

theorem start_rewalk_follows (made : poll.Of row) {position : Position}
    (idle : position = .ready ∨ ∃ started, position = .starting started) :
    (startRewalk settings poll).Follows polls (standing settings poll.projectId row position)
      (fun _ => poll.At settings row) (fun _ => poll.At settings row) := by
  refine Follows.andThen clock_follows (fun clock reached same => ?_) fun _ _ at' => at'
  have started : position.afterNow clock = .starting clock := by
    rcases idle with rfl | ⟨started, rfl⟩ <;> rfl
  rw [started] at same
  subst same
  refine Follows.andThen (commit_follows made (by rfl)) (fun _ reached same => ?_)
    fun _ _ at' => at'
  subst same
  exact rewalk_loop_follows made clock _ none

theorem rewalk_follows (made : poll.Of row) (full : Bool) {stands : Option String}
    {page : Option PollPage} :
    (rewalk settings poll full).Follows polls
      (standing settings poll.projectId row (.forward stands page))
      (fun _ => poll.At settings row) (fun _ => poll.At settings row) := by
  refine Follows.andThen state_follows (fun state reached same => ?_) fun _ _ at' => at'
  simp only [Position.afterState] at same
  cases progress : state.bind StateRow.rewalkStartedAt with
  | some started =>
      rw [progress] at same
      subst same
      exact rewalk_loop_follows made started _ _
  | none =>
      rw [progress] at same
      subst same
      dsimp only
      split
      · exact start_rewalk_follows made (.inl rfl)
      · refine Follows.andThen (rewalk_due_follows state (.inl rfl)) (fun due reached idle => ?_)
          fun _ _ at' => at'
        obtain ⟨next, idle, rfl⟩ := idle
        split
        · exact start_rewalk_follows made idle
        · exact ⟨next, rfl⟩

theorem walks_follows (made : poll.Of row) (credentialEnv : String) (full : Bool) :
    (walks settings poll credentialEnv full).Follows polls
      (standing settings poll.projectId row .idle)
      (fun _ => poll.At settings row) (fun _ => poll.At settings row) := by
  have credential : (ask (.credential credentialEnv)).Follows polls
      (standing settings poll.projectId row .idle)
      (fun _ reached => reached = standing settings poll.projectId row .idle)
      (fun _ => poll.At settings row) := by
    refine ⟨trivial, fun answer => ?_⟩
    cases answer with
    | error error => exact ⟨_, rfl⟩
    | ok token => rfl
  refine Follows.andThen credential (fun token reached same => ?_) fun _ _ at' => at'
  subst same
  split
  · exact finish_follows made _
  · have made' : Poll.Of { poll with token := token.getD "" } row := ⟨made.generation, made.source⟩
    refine Follows.andThen state_follows (fun state reached same => ?_) fun _ _ at' => at'
    rw [made.generation] at same
    subst same
    refine Follows.andThen (forward_follows made' _ _) (fun error reached at' => ?_)
      fun _ _ at' => at'
    obtain ⟨stands, page, rfl⟩ := at'
    split
    · refine Follows.andThen (rewalk_follows made' full) (fun error reached at' => ?_)
        fun _ _ at' => at'
      obtain ⟨position, rfl⟩ := at'
      exact finish_follows made' error
    · exact finish_follows made' error

theorem contain_failure_follows (made : poll.Of row) (error : Exn) {grip : Grip}
    (at' : poll.At settings row grip) :
    (containFailure poll error).Follows polls grip
      (fun _ => poll.At settings row) (fun _ => poll.At settings row) := by
  unfold containFailure
  split
  · exact at'
  · obtain ⟨position, rfl⟩ := at'
    exact (finish_follows made _).caught (fun _ _ at' => at') fun _ _ at' => at'

def Behind (settings : Settings) (projectId : String) (grip : Grip) : Prop :=
  grip.settings = settings ∧ ∃ hold, grip.hold = some hold ∧ hold.projectId = projectId

theorem standing_behind {projectId : String} {grip : Grip}
    (stands : Standing settings projectId row grip) : Behind settings projectId grip := by
  obtain ⟨position, rfl⟩ := stands
  exact ⟨rfl, _, rfl, rfl⟩

theorem poll_locked_follows (projectId : String) (full : Bool) :
    (pollLocked settings projectId full).Follows polls ⟨settings, true, false, some { projectId }⟩
      (fun _ => Behind settings projectId) (fun _ => Behind settings projectId) := by
  refine ⟨⟨rfl, fun hold same => by cases same; exact ⟨rfl, rfl⟩⟩, fun answer => ?_⟩
  cases answer with
  | error error => exact ⟨rfl, _, rfl, rfl⟩
  | ok found =>
      dsimp only [ask, perform, Program.bind]
      split
      · exact ⟨rfl, _, rfl, rfl⟩
      · rename_i project
        split
        · exact ⟨rfl, _, rfl, rfl⟩
        · rename_i config configured
          split
          · exact ⟨rfl, _, rfl, rfl⟩
          · rename_i named
            have made : Poll.Of ⟨projectId, project.ingestGeneration, project.ingestSource.getD "",
                config.url, ""⟩ project := by
              refine ⟨rfl, ?_⟩
              cases source : project.ingestSource with
              | none => rw [source] at named; exact absurd rfl named
              | some value => rfl
            exact ((walks_follows made _ full).caught (fun _ _ at' => at')
              fun error _ at' => contain_failure_follows made error at').mono
                (fun _ _ => standing_behind) fun _ _ => standing_behind

theorem poll_project_follows (projectId : String) (full : Bool) :
    (pollProject settings projectId full).Follows polls ⟨settings, true, true, none⟩
      (fun _ grip => grip.hold = none) (fun _ grip => grip.hold = none) := by
  refine ⟨⟨rfl, rfl⟩, fun answer => ?_⟩
  cases answer with
  | error error => rfl
  | ok locked =>
      have released : ∀ {Result : Type} (result : Result) (grip : Grip), Behind settings projectId grip →
          (ask (.release projectId)).Follows polls grip (fun _ grip => grip.hold = none)
            (fun _ grip => grip.hold = none) := by
        intro Result result grip behind
        obtain ⟨-, hold, held, same⟩ := behind
        refine ⟨⟨hold, held, same⟩, fun answer => ?_⟩
        cases answer <;> rfl
      exact (poll_locked_follows projectId full).ensured
        (fun _ grip behind => released () grip behind)
        fun _ grip behind => released () grip behind

end Follows

/-- The operations of the endpoints, which hold no lock. -/
def Op.unlocked : Op → Prop
  | acquire _ | release _ | stateGet _ | commit .. | fetch .. => False
  | _ => True

theorem ask_unlocked (op : Op) (unlocked : op.unlocked) : (ask op).Only Op.unlocked :=
  only_perform unlocked

theorem unlocked_follows {body : Coro Unit} (only : body.Only Op.unlocked) (settings : Settings) :
    body.Follows polls ⟨settings, false, false, none⟩ (fun _ grip => grip.hold = none)
      (fun _ grip => grip.hold = none) := by
  refine (Only.follows polls only (fun grip => grip.polling = false ∧ grip.outside = false ∧ grip.hold = none)
    (fun grip op free allowed => ?_) (fun grip op answer free allowed => ?_) ⟨rfl, rfl, rfl⟩).mono
    (fun _ _ free => free.2.2) fun _ _ free => free.2.2
  · cases op with
    | projectGet id =>
        refine ⟨free.2.1, fun hold held => ?_⟩
        rw [free.2.2] at held
        cases held
    | acquire _ | release _ | stateGet _ | commit _ _ _ _ | fetch _ _ _ _ => exact allowed.elim
    | projectUpdate _ _ _ | projectCreate _ _ | projectDelete _ | reportCreate _ | reportDelete _ =>
        exact free.1
    | _ => trivial
  · obtain ⟨endpoint, inside, free⟩ := free
    cases op with
    | acquire _ | release _ | stateGet _ | commit _ _ _ _ | fetch _ _ _ _ => exact allowed.elim
    | projectGet id => cases answer <;> simp [polls, pollNext, endpoint, inside, free]
    | now => cases answer <;> simp [polls, pollNext, Grip.move, endpoint, inside, free]
    | _ => exact ⟨endpoint, inside, free⟩

theorem update_project_unlocked (projectId : String) (patch : Patch) :
    (updateProject projectId patch).Only Op.unlocked := by
  have call : ∀ fields, (projectUpdateCall projectId fields).Only Op.unlocked := by
    intro fields
    refine only_bind (only_perform trivial) fun found => ?_
    cases found with
    | none => trivial
    | some existing =>
        exact only_bind (only_perform trivial) fun _ => only_perform trivial
  have stored : ∀ fields, ((projectUpdateCall projectId fields).bind fun row =>
      if row.isNone then raise (.httpException 404) else done ()).Only Op.unlocked := by
    intro fields
    refine only_bind (call fields) fun row => ?_
    split <;> trivial
  unfold updateProject
  split
  · refine only_bind (only_perform trivial) fun found => ?_
    cases found with
    | none => trivial
    | some existing => exact only_bind (only_perform trivial) fun _ => stored _
  · exact stored _

theorem delete_project_unlocked (projectId : String) :
    (deleteProject projectId).Only Op.unlocked := by
  refine only_bind (only_perform trivial) fun present => ?_
  split
  · refine only_bind (only_perform trivial) fun active => ?_
    split
    · trivial
    · exact only_perform trivial
  · trivial

/-- A poll begins before its lock; the endpoints take none. -/
def Job.grip (settings : Settings) : Job → Grip
  | poll .. => { settings, polling := true, outside := true }
  | _ => { settings }

theorem job_follows (settings : Settings) (job : Job) :
    (job.program settings).Follows polls (job.grip settings) (fun _ grip => grip.hold = none)
      (fun _ grip => grip.hold = none) := by
  cases job with
  | poll projectId full => exact poll_project_follows projectId full
  | updateProject projectId patch =>
      exact unlocked_follows (update_project_unlocked projectId patch) settings
  | createProject source config =>
      refine unlocked_follows ?_ settings
      exact only_bind (ask_unlocked _ trivial) fun pair =>
        ask_unlocked (.projectCreate (pair.map Prod.fst) (pair.map Prod.snd)) trivial
  | deleteProject projectId => exact unlocked_follows (delete_project_unlocked projectId) settings
  | reportCreate projectId =>
      exact unlocked_follows (ask_unlocked (.reportCreate projectId) trivial) settings
  | reportDelete reportId =>
      exact unlocked_follows (ask_unlocked (.reportDelete reportId) trivial) settings

/-- Every job of the process walks as `polls` says, under the settings it began with. -/
abbrev pollConduct : Conduct ingest where
  discipline := polls
  initial world job := job.grip world.settings
  final _ grip := grip.hold = none
  keeps world job := job_follows world.settings job

end Bugalizer.Ingest
