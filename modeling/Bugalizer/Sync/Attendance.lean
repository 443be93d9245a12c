import Bugalizer.Sync.Attended

/-!
# What every coroutine of a run knows

Along any run what each coroutine knows of its action is so. Only the coroutine that has the loop
knows a row as it stands; the others know what no write takes back.
-/

namespace Bugalizer

set_option autoImplicit false

open Coroutine Program Store

def Insight.task : Insight → Option String
  | tasked actionId => some actionId
  | engaged row | keyed row _ | working row _ | proposing row _ => some row.actionId
  | _ => none

theorem engagement_task {insight : Insight} {row : TriageAction} (engaged : insight.engagement = some row) :
    insight.task = some row.actionId := by
  cases insight with
  | engaged other =>
      cases engaged
      rfl
  | keyed other key =>
      cases engaged
      rfl
  | working other key =>
      cases engaged
      rfl
  | proposing other key =>
      cases engaged
      rfl
  | _ => cases engaged

section Next

variable {listed : ListedAction → Prop} {insight : Insight} {actionId : String}

theorem yield_task : insight.yield.task = insight.task := by
  cases insight with
  | _ => rfl

theorem after_task (op : Op) : (insight.after op).task = insight.task := by
  unfold Insight.after
  split
  · exact yield_task
  · rfl

theorem found_task {row : TriageAction} (task : (insight.found row).task = some actionId) :
    insight.task = some actionId := by
  unfold Insight.found at task
  split at task
  · cases task
  · cases task
  · split at task
    · rename_i same
      split at task
      · cases task
      · rw [← task]
        exact congrArg some same.symm
    · exact task
  · split at task
    · split at task
      · cases task
      · cases task
    · cases task

theorem updated_task {id : String} {expected : LedgerPhase} {fields : TriageActionFields} {hit : Bool}
    (task : (insight.updated id expected fields hit).task = some actionId) :
    insight.task = some actionId := by
  unfold Insight.updated at task
  split at task
  swap
  · exact task
  split at task
  swap
  · exact yield_task ▸ task
  split at task
  · split at task
    · split at task
      · cases task
      · cases task
    · cases task
  · split at task
    · cases task
    · exact task

theorem completed_task {prompt : Prompt} (task : (insight.completed prompt).task = some actionId) :
    insight.task = some actionId := by
  cases insight with
  | working row key =>
      simp only [Insight.completed] at task
      split at task
      · cases task
      · exact task
  | proposing row key =>
      simp only [Insight.completed] at task
      split at task
      · cases task
      · exact task
  | _ => exact task

theorem keyed_task {response : HttpResponse}
    (task : (insight.answeredKey response).task = some actionId) : insight.task = some actionId := by
  cases insight with
  | engaged row =>
      simp only [Insight.answeredKey] at task
      split at task
      · exact task
      · exact task
  | _ => exact task

/-- A coroutine never takes on another action's task. -/
theorem next_task {op : Op} {answer : Except Exn op.Ans}
    (task : (insightNext listed insight op answer).task = some actionId) :
    insight.task = some actionId := by
  cases answer with
  | error error =>
      simp only [insightNext] at task
      split at task
      · cases task
      split at task
      · cases insight with
        | _ => exact task
      · exact completed_task task
      · cases insight with
        | sent row => cases task
        | _ => exact task
      · exact after_task _ ▸ task
  | ok value =>
      unfold insightNext at task
      dsimp only at task
      split at task
      · exact found_task task
      · unfold Insight.missing at task
        split at task
        · split at task
          · cases task
          · exact task
        · exact task
      · exact updated_task task
      · exact yield_task ▸ task
      · exact yield_task ▸ task
      · cases insight with
        | read row =>
            simp only [Insight.decided] at task
            split at task
            · cases task
            · cases task
        | _ => exact task
      · cases insight with
        | keyed row key =>
            cases key with
            | none => exact task
            | some key => exact task
        | _ => exact task
      · cases insight with
        | _ => exact task
      · cases insight with
        | read row => cases task
        | sent row => cases task
        | _ => exact task
      · exact keyed_task task
      · exact completed_task task
      · split at task
        · exact yield_task ▸ task
        · cases task
      · cases insight with
        | sent row => cases task
        | _ => exact task
      · exact after_task _ ▸ task

end Next

theorem next_inside {listed : ListedAction → Prop} {insight : Insight} {op : Op}
    {answer : Except Exn op.Ans} (inside : insight ≠ .outside) :
    insightNext listed insight op answer ≠ .outside := by
  cases insight with
  | outside => exact absurd rfl inside
  | tasked id =>
      have afterwards : ∀ op, (Insight.tasked id).after op ≠ .outside := by
        intro op
        unfold Insight.after
        split
        · simp [Insight.yield]
        · simp
      cases answer with
      | error error =>
          simp only [insightNext]
          split
          · simp
          split
          · simp [Insight.keyless, Insight.yield]
          · simp [Insight.completed, Insight.yield]
          · simp [Insight.spawned]
          · exact afterwards _
      | ok value =>
          unfold insightNext
          dsimp only
          split
          · unfold Insight.found
            dsimp only
            split
            · split
              · simp
              · simp
            · simp
          · simp [Insight.missing, Insight.exact]
          · simp [Insight.updated, Insight.exact]
          · simp [Insight.yield]
          · simp [Insight.yield]
          · simp [Insight.decided]
          · simp [Insight.started]
          · simp [Insight.proposes]
          · simp [Insight.stepped]
          · simp [Insight.answeredKey, Insight.yield]
          · simp [Insight.completed, Insight.yield]
          · split
            · simp [Insight.yield]
            · simp
          · simp [Insight.spawned]
          · exact afterwards _
  | _ => exact begun_inside (begun_next op answer rfl)

theorem next_judged {listed : ListedAction → Prop} {insight : Insight} {op : Op}
    {answer : Except Exn op.Ans} {row : TriageAction} {auth : Option Authorized}
    (judged : insightNext listed insight op answer = .judged row auth) :
    insight = .judged row auth ∨
      insight = .read row ∧ op = .note (.authorized row.actionId auth) := by
  have yields : insight.yield ≠ .judged row auth := by
    cases insight with
    | _ =>
        intro same
        cases same
  have afterwards : ∀ op, insight.after op = .judged row auth → insight = .judged row auth := by
    intro op same
    unfold Insight.after at same
    split at same
    · exact absurd same yields
    · exact same
  have completes : ∀ prompt, insight.completed prompt ≠ .judged row auth := by
    intro prompt same
    cases insight with
    | working row key =>
        simp only [Insight.completed] at same
        split at same
        · cases same
        · cases same
    | proposing row key =>
        simp only [Insight.completed] at same
        split at same
        · cases same
        · cases same
    | _ => exact yields same
  cases answer with
  | error error =>
      simp only [insightNext] at judged
      split at judged
      · cases judged
      split at judged
      · cases insight with
        | engaged row => cases judged
        | _ => exact absurd judged yields
      · exact absurd judged (completes _)
      · cases insight with
        | sent row => cases judged
        | _ => exact .inl judged
      · exact .inl (afterwards _ judged)
  | ok value =>
      unfold insightNext at judged
      dsimp only at judged
      split at judged
      · unfold Insight.found at judged
        split at judged
        · cases judged
        · cases judged
        · split at judged
          · split at judged
            · cases judged
            · cases judged
          · cases judged
        · split at judged
          · split at judged
            · cases judged
            · cases judged
          · cases judged
      · unfold Insight.missing at judged
        split at judged
        · split at judged
          · cases judged
          · exact .inl judged
        · exact .inl judged
      · unfold Insight.updated at judged
        split at judged
        swap
        · exact .inl judged
        split at judged
        swap
        · exact absurd judged yields
        split at judged
        · split at judged
          · split at judged
            · cases judged
            · cases judged
          · cases judged
        · split at judged
          · cases judged
          · exact .inl judged
      · exact absurd judged yields
      · exact absurd judged yields
      · cases insight with
        | read known =>
            simp only [Insight.decided] at judged
            split at judged
            · rename_i same
              cases judged
              rw [same]
              exact .inr ⟨rfl, rfl⟩
            · cases judged
        | _ => exact .inl judged
      · cases insight with
        | keyed row key =>
            cases key with
            | none => cases judged
            | some key => cases judged
        | engaged row => cases judged
        | _ => exact .inl judged
      · cases insight with
        | working row key => cases judged
        | _ => exact .inl judged
      · cases insight with
        | read row => cases judged
        | sent row => cases judged
        | _ => exact .inl judged
      · cases insight with
        | engaged row =>
            simp only [Insight.answeredKey] at judged
            split at judged
            · cases judged
            · cases judged
        | _ => exact absurd judged yields
      · exact absurd judged (completes _)
      · split at judged
        · exact absurd judged yields
        · cases judged
      · cases insight with
        | sent row => cases judged
        | _ => exact .inl judged
      · exact .inl (afterwards _ judged)

section Attendance

variable {listed : ListedAction → Prop}

abbrev AttendanceShadow (listed : ListedAction → Prop) :=
  Shadow Op (insightConduct listed).Ghost World Job

def insightOf (actor : Actor Op (insightConduct listed).Ghost Job) : Insight := actor.ghost.2

def settingsOf (actor : Actor Op (insightConduct listed).Ghost Job) : Settings := actor.ghost.1

structure Attends (ledger : TriageActions) (holder : Option Nat) (id : Nat)
    (actor : Actor Op (insightConduct listed).Ghost Job) : Prop where
  sound : (insightOf actor).Sound ledger
  exact : actor.waiting = none → (insightOf actor).Exact ledger
  loop : actor.waiting = none → (insightOf actor).exact ≠ none → holder = some id
  waits : ∀ op, actor.waiting = some op → op.suspends = true
  outside : actor.job.syncs = false → insightOf actor = .outside
  inside : actor.job.syncs = true → insightOf actor ≠ .outside
  own : ∀ actionId, (insightOf actor).task = some actionId → actor.job = .actionTask actionId
  granted : ∀ row auth, insightOf actor = .judged row (some auth) →
    ∃ action, listed action ∧ action.id = row.actionId ∧ Grants (settingsOf actor) action.kind auth

structure Attended (shadow : AttendanceShadow listed) : Prop where
  attends : ∀ id actor, shadow.actors id = some actor →
    Attends shadow.world.db.ledger shadow.holder id actor
  numbered : ∀ id actor, shadow.actors id = some actor → id < shadow.fresh

theorem attended_boot (world : World) : Attended (Shadow.boot (insightConduct listed) world) where
  attends id actor found := by cases found
  numbered id actor found := by cases found

theorem initial_exact (job : Job) : (Insight.initial job).exact = none := by
  cases job with
  | _ => rfl

theorem initial_task {job : Job} {actionId : String}
    (task : (Insight.initial job).task = some actionId) : job = .actionTask actionId := by
  cases job with
  | actionTask id =>
      cases task
      rfl
  | _ => cases task

theorem initial_outside {job : Job} (outside : job.syncs = false) :
    Insight.initial job = .outside := by
  cases job with
  | syncProject id manual => cases outside
  | expireOverdue => cases outside
  | checkPrsOnly id => cases outside
  | actionTask id => cases outside
  | prTask id => cases outside
  | _ => rfl

/-- A task that begins, when the action of its own task was dispatched. -/
theorem attends_begun {ledger : TriageActions} (holder : Option Nat) (id : Nat) (job : Job)
    (settings : Settings)
    (dispatched : ∀ actionId, job = .actionTask actionId →
      ∃ terms, ledger.StartedOn actionId terms ∧ terms.kind.llm = true) :
    Attends ledger holder id (⟨job, ⟨settings, Insight.initial job⟩, none⟩ :
      Actor Op (insightConduct listed).Ghost Job) := by
  have blind := initial_exact job
  constructor
  · constructor
    · intro lost
      cases job with
      | _ => cases lost
    · intro row sent
      cases job with
      | _ => cases sent
    · intro actionId tasked
      apply dispatched
      cases job with
      | actionTask id =>
          cases tasked
          rfl
      | _ => cases tasked
    · intro row engaged
      cases job with
      | _ => cases engaged
  · intro _ row known
    exact absurd (blind.symm.trans known) (by simp)
  · intro _ known
    exact absurd blind known
  · intro op waits
    cases waits
  · exact initial_outside
  · intro syncs outside
    cases job with
    | syncProject id manual => cases outside
    | expireOverdue => cases outside
    | checkPrsOnly id => cases outside
    | actionTask id => cases outside
    | prTask id => cases outside
    | _ => cases syncs
  · intro actionId task
    exact initial_task task
  · intro row auth judged
    cases job with
    | _ => cases judged

/-- The listings of the run name only these actions. -/
def listsOnly (listed : ListedAction → Prop) : Ev → Prop
  | .answered _ (.remote (.listActions ..)) (.ok response) => ∀ action ∈ listedIn response, listed action
  | _ => True

theorem lists_anything (event : Ev) : listsOnly (fun _ => True) event := by
  unfold listsOnly
  split
  · exact fun _ _ => trivial
  · trivial

/-- What a coroutine goes by: the settings of its process and its insight. -/
theorem allowed_attends {actor : Actor Op (insightConduct listed).Ghost Job} {op : Op}
    (allowed : (insightConduct listed).discipline.allowed actor.ghost op) :
    programOp op ∧ insightAllowed listed (settingsOf actor) (insightOf actor) op := allowed

theorem insight_resumed (actor : Actor Op (insightConduct listed).Ghost Job) (op : Op)
    (answer : Except Exn op.Ans) :
    insightOf ({ actor with
      ghost := (insightConduct listed).discipline.next actor.ghost op answer, waiting := none } :
        Actor Op (insightConduct listed).Ghost Job) = insightNext listed (insightOf actor) op answer := rfl

section Steps

variable {ledger ledger' : TriageActions} {holder holder' : Option Nat} {id : Nat}
  {actor : Actor Op (insightConduct listed).Ghost Job}

theorem attends_beside {op : Op} {answer : Except Exn op.Ans}
    (attends : Attends ledger holder id actor)
    (moves : ∀ actionId, RowMoves actionId op answer (ledger.get actionId) (ledger'.get actionId))
    (still : actor.waiting = none → (insightOf actor).exact ≠ none → holder = some id →
      holder' = some id ∧ ledger' = ledger) :
    Attends ledger' holder' id actor where
  sound := sound_kept moves attends.sound
  exact awake row known := by
    have seen : (insightOf actor).exact ≠ none := by
      rw [known]
      simp
    rw [(still awake seen (attends.loop awake seen)).2]
    exact attends.exact awake row known
  loop awake seen := (still awake seen (attends.loop awake seen)).1
  waits := attends.waits
  outside := attends.outside
  inside := attends.inside
  own := attends.own
  granted := attends.granted

/-- A coroutine beside one that gave the loop away, began or ended. -/
theorem attends_still (attends : Attends ledger holder id actor)
    (still : holder = some id → holder' = some id) : Attends ledger holder' id actor where
  sound := attends.sound
  exact := attends.exact
  loop awake seen := still (attends.loop awake seen)
  waits := attends.waits
  outside := attends.outside
  inside := attends.inside
  own := attends.own
  granted := attends.granted

theorem attends_waiting {op : Op} (attends : Attends ledger holder id actor)
    (suspends : op.suspends = true) (holder' : Option Nat) :
    Attends ledger holder' id ({ actor with waiting := some op } :
      Actor Op (insightConduct listed).Ghost Job) where
  sound := attends.sound
  exact awake := by cases awake
  loop awake := by cases awake
  waits other waits := by
    cases waits
    exact suspends
  outside := attends.outside
  inside := attends.inside
  own := attends.own
  granted := attends.granted

theorem threaded_outside {job : Job} (threaded : job.threaded = true) : job.syncs = false := by
  cases job with
  | updateReportStatus id target reason => rfl
  | updateAnalysisMode id mode => rfl
  | deleteReport id => rfl
  | updateProject id updates => rfl
  | _ => cases threaded

theorem outside_ledger {op : Op} {answer : Except Exn op.Ans} (outside : outsideOp op)
    (step : LedgerStep ledger op answer ledger') : ledger' = ledger := by
  apply quiet_ledger step
  cases op with
  | ledger write => cases outside
  | joint write =>
      cases write with
      | reopenForAction reportId actionId message => cases outside
      | _ => rfl
  | _ => rfl

theorem outside_allowed {settings : Settings} {op : Op}
    (allowed : insightAllowed listed settings .outside op) : outsideOp op := by
  obtain lost | outside | inside := allowed
  · cases lost
  · exact outside.2
  · exact absurd rfl inside.1

theorem inside_allowed {settings : Settings} {insight : Insight} {op : Op}
    (sane : insight ≠ .lost) (inside : insight ≠ .outside)
    (allowed : insightAllowed listed settings insight op) : attendedOp listed settings insight op := by
  obtain lost | outside | attended := allowed
  · exact absurd lost sane
  · exact absurd outside.1 inside
  · exact attended.2

end Steps

section Shadows

variable {before after : AttendanceShadow listed}

theorem attended_begun {job : Job} (attended : Attended before)
    (dispatched : ∀ actionId, job = .actionTask actionId →
      ∃ terms, before.world.db.ledger.StartedOn actionId terms ∧ terms.kind.llm = true) :
    Attended (before.begin (insightConduct listed) job) where
  attends other rival found := by
    obtain ⟨-, same⟩ | ⟨-, was⟩ := updated_found found
    · cases same
      exact attends_begun _ _ _ _ dispatched
    · exact attended.attends other rival was
  numbered other rival found := by
    show other < before.fresh + 1
    obtain ⟨same, -⟩ | ⟨-, was⟩ := updated_found found
    · omega
    · have young := attended.numbered other rival was
      omega

/-- The step of a coroutine, but for a task it starts. -/
theorem attended_resumed {id : Nat} {actor : Actor Op (insightConduct listed).Ghost Job} {op : Op}
    {env : op.Env} {answer : Except Exn op.Ans} {world : World} (attended : Attended before)
    (present : before.actors id = some actor)
    (running : before.MayRun (insightConduct listed) id actor)
    (permitted : (insightConduct listed).discipline.allowed actor.ghost op)
    (ready : op.suspends = true → actor.waiting = some op)
    (pending : ∀ other, actor.waiting = some other → other = op)
    (ran : op.exec id before.fresh env before.world = some (answer, world))
    (lists : listsOnly listed (.answered id op answer)) :
    Attended (before.resume (insightConduct listed) id actor op answer world) := by
  obtain ⟨program, allowed⟩ := allowed_attends permitted
  have attends := attended.attends id actor present
  have step := op_ledger (exec_moves ran)
  have moves (actionId : String) := row_moves actionId program step
  have awake (waits : op.suspends = false) : actor.waiting = none := by
    cases waiting : actor.waiting with
    | none => rfl
    | some other =>
        have suspends := attends.waits other waiting
        rw [pending other waiting, waits] at suspends
        cases suspends
  have knows : (insightNext listed (insightOf actor) op answer).Knows world.db.ledger := by
    apply insight_moves ran program attends.sound
    · intro waits
      exact attends.exact (awake waits)
    · intro endpoint cursor response same answered
      subst same
      cases answered
      exact lists
  constructor
  · intro other rival found
    obtain ⟨rfl, same⟩ | ⟨apart, was⟩ := updated_found found
    · cases same
      constructor
      · exact knows.sound
      · exact fun _ => knows.exact
      · intro _ seen
        have place : (if actor.job.threaded then before.holder else some other) = some other := by
          split
          · rename_i threaded
            have idle := attends.outside (threaded_outside threaded)
            rw [idle] at allowed
            rw [insight_resumed, idle] at seen
            obtain moved | lost := outside_next (outside_allowed allowed) answer
            · rw [moved] at seen
              exact absurd rfl seen
            · rw [lost] at seen
              exact absurd rfl seen
          · rfl
        exact place
      · intro asked waits
        cases waits
      · intro outside
        have idle := attends.outside outside
        rw [idle] at allowed
        rw [insight_resumed, idle]
        obtain moved | lost := outside_next (outside_allowed allowed) answer
        · exact moved
        · rw [idle] at knows
          exact absurd lost knows.sound.sane
      · intro syncs
        exact next_inside (attends.inside syncs)
      · intro actionId task
        exact attends.own actionId (next_task task)
      · intro row auth judged
        obtain known | ⟨reads, same⟩ := next_judged judged
        · exact attends.granted row auth known
        · subst same
          have reads : insightOf actor = .read row := reads
          have inside : insightOf actor ≠ .outside := by
            rw [reads]
            simp
          exact (inside_allowed attends.sound.sane inside allowed).2
    · apply attends_beside (attended.attends other rival was) moves
      intro _ _ holds
      obtain threaded | free := running
      · have outside := attends.outside (threaded_outside threaded)
        rw [outside] at allowed
        refine ⟨?_, outside_ledger (outside_allowed allowed) step⟩
        show (if actor.job.threaded then before.holder else some id) = some other
        have onThread : actor.job.threaded = true := threaded
        rw [if_pos onThread]
        exact holds
      · exact absurd (free other holds) apart
  · intro other rival found
    obtain ⟨rfl, -⟩ | ⟨-, was⟩ := updated_found found
    · exact attended.numbered _ _ present
    · exact attended.numbered other rival was

theorem attended_step {event : Ev} (attended : Attended before) (lists : listsOnly listed event)
    (moves : ShadowMoves (insightConduct listed) before event after) : Attended after := by
  cases moves with
  | started job rooted =>
      apply attended_begun attended
      intro actionId same
      subst same
      cases rooted
  | issued id actor op found running allowed suspends awake =>
      constructor
      · intro other rival present
        obtain ⟨rfl, same⟩ | ⟨apart, was⟩ := updated_found present
        · cases same
          exact attends_waiting (attended.attends _ _ found) suspends _
        · apply attends_still (attended.attends other rival was)
          intro holds
          show (if actor.job.threaded then before.holder else none) = some other
          split
          · exact holds
          · obtain threaded | free := running
            · rename_i loop
              exact absurd threaded loop
            · exact absurd (free other holds) apart
      · intro other rival present
        obtain ⟨rfl, -⟩ | ⟨-, was⟩ := updated_found present
        · exact attended.numbered _ _ found
        · exact attended.numbered other rival was
  | answered id actor op env answer world found running permitted ready pending ran =>
      have executed : op.exec id before.fresh env before.world = some (answer, world) := ran
      have resumed := attended_resumed attended found running permitted ready pending ran lists
      cases op with
      | createTask actionId job =>
          apply attended_begun resumed
          intro own same
          subst same
          obtain ⟨program, allowed⟩ := allowed_attends permitted
          have attends := attended.attends id actor found
          have inside : insightOf actor ≠ .outside := by
            intro outside
            rw [outside] at allowed
            cases outside_allowed allowed
          have step := op_ledger (exec_moves executed)
          obtain ⟨same, row, sent, keyed, llm⟩ | other := inside_allowed attends.sound.sane inside allowed
          · cases same
            have started := attends.sound.sent row sent
            rw [keyed] at started
            exact ⟨row.terms, started_kept (row_moves _ program step) started, llm⟩
          · cases other
      | _ => exact resumed
  | ended id actor found running awake finished =>
      constructor
      · intro other rival present
        obtain ⟨-, same⟩ | ⟨apart, was⟩ := updated_found present
        · cases same
        · apply attends_still (attended.attends other rival was)
          intro holds
          show (if before.holder = some id then none else before.holder) = some other
          rw [if_neg]
          · exact holds
          · rw [holds]
            intro same
            cases same
            exact apart rfl
      · intro other rival present
        obtain ⟨-, same⟩ | ⟨-, was⟩ := updated_found present
        · cases same
        · exact attended.numbered other rival was
  | restarted boot =>
      constructor
      · intro other rival present
        cases present
      · intro other rival present
        cases present

/-- The invariant rule for what rests on the attendance: what every step of an attended shadow keeps
holds along the run. -/
theorem run_attended {world : World} {events : List Ev} {last : Sys}
    (run : Run bugalizer (State.boot world) events last)
    (lists : ∀ event ∈ events, listsOnly listed event)
    {holds : List Ev → AttendanceShadow listed → Prop}
    (initially : holds [] (Shadow.boot (insightConduct listed) world))
    (keep : ∀ past state before event after, Run bugalizer (State.boot world) past state →
      state.world = before.world → Attended before → holds past before → listsOnly listed event →
        ShadowMoves (insightConduct listed) before event after → holds (past ++ [event]) after) :
    ∃ shadow, Shades (insightConduct listed) last shadow ∧ Attended shadow ∧ holds events shadow := by
  induction run with
  | nil => exact ⟨_, shades_boot world, attended_boot world, initially⟩
  | snoc before stepped ih =>
      have earlier : ∀ event ∈ _, listsOnly listed event :=
        fun event member => lists event (List.mem_append_left _ member)
      obtain ⟨shadow, shades, attended, held⟩ := ih earlier
      obtain ⟨after, moved, shaded⟩ := moves_shadowed shades stepped
      have now := lists _ (List.mem_append_right _ (List.mem_singleton_self _))
      exact ⟨after, shaded, attended_step attended now moved,
        keep _ _ _ _ _ before shades.world attended held now moved⟩

end Shadows

end Attendance

end Bugalizer
