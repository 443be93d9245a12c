import Bugalizer.Keeping

/-!
# The rows of an attempt

A triage or a localization makes its row as `running` and writes it once, when it ends; only
a triage may write it a second time, from its handler. Every other row of `analyses` is
written once and for all when it is made. So a row that is no longer running keeps its
phase and its status, and a localization that completed stays completed.
-/

namespace Bugalizer

set_option autoImplicit false

open Coroutine Program Store

/-- The row a coroutine made as `running` last, and whether it was written since. -/
structure Attempt where
  id : String
  phase : StagePhase
  written : Bool

def attemptNext (attempt : Option Attempt) (op : Op) (answer : Except Exn op.Ans) :
    Option Attempt :=
  match op, answer with
  | .stage (.analysisCreate new), .ok id =>
      if new.status = .running then some ⟨id, new.phase, false⟩ else attempt
  | .stage (.analysisUpdate ..), .ok _ => attempt.map fun own => { own with written := true }
  | _, _ => attempt

/-- A row is made running by the announced phases alone, and written by its maker. Only tasks
of actions are spawned. -/
def attemptAllowed (attempt : Option Attempt) : Op → Prop
  | .stage (.analysisCreate new) => new.status = .running ↔ new.phase.announced = true
  | .stage (.analysisUpdate id fields) =>
      fields.status ≠ .running ∧
        ∃ own, attempt = some own ∧ own.id = id ∧ (own.written = true → own.phase = .triage)
  | .createTask _ job => job.rooted = false
  | _ => True

abbrev attempts : Discipline Op Op.Ans Exn where
  Ghost := Option Attempt
  allowed := attemptAllowed
  next := attemptNext

def settledOp : Op → Prop
  | .stage (.analysisCreate new) => new.status ≠ .running ∧ new.phase.announced = false
  | .stage (.analysisUpdate ..) => False
  | .createTask _ job => job.rooted = false
  | _ => True

theorem settled_allowed {op : Op} (settled : settledOp op) (attempt : Option Attempt) :
    attemptAllowed attempt op ∧ ∀ answer, attemptNext attempt op answer = attempt := by
  unfold settledOp at settled
  split at settled
  · rename_i new
    constructor
    · simp [attemptAllowed, settled.1, settled.2]
    · intro answer
      cases answer with
      | ok id => simp [attemptNext, settled.1]
      | error error => rfl
  · cases settled
  · exact ⟨settled, fun answer => rfl⟩
  · rename_i create update spawn
    constructor
    · unfold attemptAllowed
      split
      · exact absurd rfl (create _)
      · exact absurd rfl (update _ _)
      · exact absurd rfl (spawn _ _)
      · trivial
    · intro answer
      unfold attemptNext
      split
      · exact absurd rfl (create _)
      · exact absurd rfl (update _ _)
      · rfl

theorem calm_settled {op : Op} (calm : calmOp op) : settledOp op := by
  unfold calmOp at calm
  split at calm
  · exact calm.1
  · cases calm
  · cases calm
  · exact calm
  · rename_i create update propose spawn
    unfold settledOp
    split
    · exact absurd rfl (create _)
    · exact absurd rfl (update _ _)
    · exact absurd rfl (spawn _ _)
    · trivial

/-- Any ghost is calm; a row is open while it is the one made last. -/
abbrev attemptKeeping : Keeping where
  rules := attempts
  calm _ := True
  permitted ghost op _ calm := (settled_allowed (calm_settled calm) ghost).1
  kept _ _ _ _ _ := trivial
  row id phase written ghost := ghost = some ⟨id, phase, written⟩
  row_calm _ _ _ _ _ := trivial
  row_kept id phase written ghost op answer held calm :=
    ((settled_allowed (calm_settled calm) ghost).2 answer).trans held
  opens ghost new _ running announced :=
    ⟨iff_of_true running announced, fun id => if_pos running, fun _ => trivial⟩
  writes id phase written ghost fields held stopped again :=
    ⟨⟨stopped, _, held, rfl, again⟩, ⟨fun _ => by rw [held]; rfl, trivial⟩, fun _ => held⟩

theorem attempts_store {settings : Settings} (args : FixArgs) (input : FixInput) :
    attemptKeeping.Tidy (storeFix settings args input) := by
  have persisted (response : LlmResponse) (validated : ValidatedProposal) :
      (persistProposal args input.report input.analysis response validated).Only settledOp := by
    apply only_bind (only_ask trivial)
    intro _
    apply only_bind (only_ask ⟨completed_stopped, rfl⟩)
    intro _
    apply only_bind (only_ask trivial)
    intro _
    apply only_bind (only_ask trivial)
    intro _
    exact only_bind ((calm_status _ _ _).mono fun _ => calm_settled) fun _ => trivial
  have stored : (storeFix settings args input).Only settledOp := by
    apply only_bind
    · exact (calm_ask_for_fix _ _).mono fun _ => calm_settled
    · intro asked
      exact only_bind (persisted _ _) fun _ => trivial
  intro ghost _
  exact (stored.stays (fun op settled => settled_allowed settled ghost) (fun _ => trivial)
    fun _ => trivial)

theorem attempts_job {settings : Settings} (job : Job) (attempt : Option Attempt) :
    (job.program settings).Follows attempts attempt (fun _ _ => True) (fun _ _ => True) :=
  tidy_job attempts_store job attempt trivial

inductive AttemptStep (before : Analyses) : Ev → Analyses → Prop
  | same (event : Ev) : AttemptStep before event before
  | made (task : Nat) (new : NewAnalysis) (id : String) (now : Nat) (after : Analyses)
      (inserted : before.insert (new.row id now) = some after)
      (announced : new.status = .running ↔ new.phase.announced = true) :
      AttemptStep before (.answered task (.stage (.analysisCreate new)) (.ok id)) after
  | written (task : Nat) (id : String) (fields : AnalysisFields) (row : Analysis)
      (found : before.get id = some row) (announced : row.phase.announced = true)
      (stopped : fields.status ≠ .running) (again : row.status ≠ .running → row.phase = .triage) :
      AttemptStep before (.answered task (.stage (.analysisUpdate id fields)) (.ok ()))
        (before.update id (fun _ => true) fields.write fields.write_id)
  | restarted (now : Nat) (reportIds : List String) (fresh : Nat → String) :
      AttemptStep before .restarted
        (recordInterruptedFix now reportIds fresh (failRunning now before))

/-- What an operation that writes no row of `analyses` leaves of them. -/
theorem op_keeps_analyses {self fresh : Nat} {before after : World} {op : Op}
    {answer : Except Exn op.Ans} (moves : OpMoves self fresh before op answer after)
    (settled : (∀ new, op ≠ .stage (.analysisCreate new)) ∧
      ∀ id fields, op ≠ .stage (.analysisUpdate id fields)) :
    after.db.stages.analyses = before.db.stages.analyses := by
  cases moves with
  | stage write clock drawn written applied =>
      cases write with
      | analysisCreate new => exact absurd rfl (settled.1 new)
      | analysisUpdate id fields => exact absurd rfl (settled.2 id fields)
      | fixProposalCreate new =>
          obtain ⟨proposals, -, rfl⟩ := Option.map_eq_some_iff.mp applied
          rfl
      | tokenUsageCreate new => cases applied; rfl
      | recordPushIntent id sha branch => cases applied; rfl
      | prCheckRecord id check => cases check <;> cases applied <;> rfl
  | joint write clock =>
      simp only [commit_db]
      cases write with
      | recordPullRequest record =>
          simp only [JointWrite.apply]
          split
          · split <;> rfl
          · rfl
      | prSettle settlement => rfl
      | reopenForAction reportId actionId message =>
          simp only [JointWrite.apply]
          split
          · split <;> rfl
          · rfl
  | _ => rfl

abbrev attemptConduct : Conduct bugalizer where
  discipline := attempts
  initial _ _ := none
  final _ _ := True
  keeps _ job := attempts_job job none

abbrev AttemptShadow := Shadow Op attemptConduct.Ghost World Job

/-- The row a coroutine has open is there, in its phase, and running until it is written. -/
def Attempt.Open (own : Attempt) (analyses : Analyses) : Prop :=
  own.phase.announced = true ∧ ∃ row, analyses.get own.id = some row ∧ row.phase = own.phase ∧
    (own.written = false → row.status = .running)

structure Announced (shadow : AttemptShadow) : Prop where
  present : ∀ id actor own, shadow.actors id = some actor → actor.ghost = some own →
    own.Open shadow.world.db.stages.analyses
  apart : ∀ id other actor rival own theirs, shadow.actors id = some actor →
    shadow.actors other = some rival → id ≠ other → actor.ghost = some own →
    rival.ghost = some theirs → own.id ≠ theirs.id

/-- A step that touches neither the open rows nor who has which open. -/
theorem announced_kept {before after : AttemptShadow} (held : Announced before)
    (ghosts : ∀ id actor own, after.actors id = some actor → actor.ghost = some own →
      ∃ earlier, before.actors id = some earlier ∧ earlier.ghost = some own)
    (rows : ∀ own : Attempt, own.Open before.world.db.stages.analyses →
      own.Open after.world.db.stages.analyses) : Announced after where
  present id actor own found ghost := by
    obtain ⟨earlier, found', ghost'⟩ := ghosts id actor own found ghost
    exact rows own (held.present id earlier own found' ghost')
  apart id other actor rival own theirs found found' distinct ghost ghost' := by
    obtain ⟨earlier, was, had⟩ := ghosts id actor own found ghost
    obtain ⟨earlier', was', had'⟩ := ghosts other rival theirs found' ghost'
    exact held.apart id other earlier earlier' own theirs was was' distinct had had'

theorem announced_begin {shadow : AttemptShadow} (held : Announced shadow) (job : Job) :
    Announced (shadow.begin attemptConduct job) := by
  refine announced_kept held (fun id actor own found ghost => ?_) fun _ still => still
  simp only [Shadow.begin, Function.update_apply] at found
  split at found
  · cases found
    cases ghost
  · exact ⟨actor, found, ghost⟩

theorem announced_begin_all {shadow : AttemptShadow} (held : Announced shadow) (job : Option Job) :
    Announced (shadow.beginAll attemptConduct job) := by
  cases job with
  | none => exact held
  | some job => exact announced_begin held job

theorem open_inserted {own : Attempt} {before after : Analyses} {row : Analysis}
    (still : own.Open before) (inserted : before.insert row = some after) : own.Open after := by
  obtain ⟨announced, kept, found, phase, running⟩ := still
  refine ⟨announced, kept, ?_, phase, running⟩
  have free := Table.insert_free inserted
  rw [Table.get_insert inserted, if_neg, found]
  intro same
  rw [same, found] at free
  cases free

theorem open_updated {own : Attempt} {before : Analyses} {id : String} {fields : AnalysisFields}
    (still : own.Open before) (other : own.id ≠ id) :
    own.Open (before.update id (fun _ => true) fields.write fields.write_id) := by
  obtain ⟨announced, kept, found, phase, running⟩ := still
  refine ⟨announced, kept, ?_, phase, running⟩
  rw [Table.get_update_other _ _ _ fields.write_id other, found]

theorem write_phase (fields : AnalysisFields) (row : Analysis) :
    (fields.write row).phase = row.phase ∧ (fields.write row).status = fields.status ∧
      (fields.write row).bugReportId = row.bugReportId ∧
      (fields.write row).createdAt = row.createdAt := by
  unfold AnalysisFields.write
  cases fields.llm <;> exact ⟨rfl, rfl, rfl, rfl⟩

section Answered

variable {shadow : AttemptShadow} {id : Nat} {actor : Actor Op attemptConduct.Ghost Job}

/-- Who holds a row after an answer: whoever held it, and the task that was answered. -/
theorem resumed_actor {op : Op} {answer : Except Exn op.Ans} {world : World} {other : Nat}
    {rival : Actor Op attemptConduct.Ghost Job}
    (found : (shadow.resume attemptConduct id actor op answer world).actors other = some rival) :
    (other = id ∧ rival.ghost = attemptNext actor.ghost op answer) ∨
      (other ≠ id ∧ shadow.actors other = some rival) := by
  simp only [Shadow.resume, Function.update_apply] at found
  split at found
  · rename_i here
    cases found
    exact .inl ⟨here, rfl⟩
  · rename_i elsewhere
    exact .inr ⟨elsewhere, found⟩

theorem announced_resume {op : Op} {answer : Except Exn op.Ans} {world : World}
    (held : Announced shadow) (present : shadow.actors id = some actor)
    (ghost : attemptNext actor.ghost op answer = actor.ghost)
    (rows : ∀ own : Attempt, own.Open shadow.world.db.stages.analyses →
      own.Open world.db.stages.analyses) :
    Announced (shadow.resume attemptConduct id actor op answer world) := by
  refine announced_kept held (fun other rival own found has => ?_) rows
  rcases resumed_actor found with ⟨rfl, same⟩ | ⟨-, was⟩
  · exact ⟨actor, present, by rw [← ghost, ← same]; exact has⟩
  · exact ⟨rival, was, has⟩

theorem announced_made {new : NewAnalysis} {drawn : String} {now : Nat} {world : World}
    (held : Announced shadow) (running : new.status = .running)
    (announced : new.phase.announced = true)
    (inserted : shadow.world.db.stages.analyses.insert (new.row drawn now) =
      some world.db.stages.analyses) :
    Announced (shadow.resume attemptConduct id actor (.stage (.analysisCreate new)) (.ok drawn)
      world) := by
  have opened : attemptNext actor.ghost (.stage (.analysisCreate new)) (.ok drawn) =
      some ⟨drawn, new.phase, false⟩ := by simp [attemptNext, running]
  have free := Table.insert_free inserted
  have fresh : ∀ own : Attempt, own.Open shadow.world.db.stages.analyses → own.id ≠ drawn := by
    intro own still same
    obtain ⟨-, row, found, -⟩ := still
    have taken : shadow.world.db.stages.analyses.get drawn = none := free
    rw [same, taken] at found
    cases found
  constructor
  · intro other rival own found ghost
    rcases resumed_actor found with ⟨rfl, same⟩ | ⟨-, was⟩
    · rw [same, opened] at ghost
      cases ghost
      refine ⟨announced, new.row drawn now, ?_, rfl, fun _ => running⟩
      have seen := Table.get_insert inserted drawn
      have key : (new.row drawn now).id = drawn := rfl
      rwa [if_pos key] at seen
    · exact open_inserted (held.present other rival own was ghost) inserted
  · intro first second one two own theirs found found' distinct ghost ghost'
    rcases resumed_actor found with ⟨rfl, same⟩ | ⟨-, was⟩
    · rw [same, opened] at ghost
      cases ghost
      rcases resumed_actor found' with ⟨rfl, -⟩ | ⟨-, was'⟩
      · exact absurd rfl distinct
      · exact (fresh theirs (held.present second two theirs was' ghost')).symm
    · rcases resumed_actor found' with ⟨rfl, same'⟩ | ⟨-, was'⟩
      · rw [same', opened] at ghost'
        cases ghost'
        exact fresh own (held.present first one own was ghost)
      · exact held.apart first second one two own theirs was was' distinct ghost ghost'

theorem announced_written {fields : AnalysisFields} {own : Attempt} {world : World}
    (held : Announced shadow) (present : shadow.actors id = some actor)
    (ghost : actor.ghost = some own)
    (written : world.db.stages.analyses =
      shadow.world.db.stages.analyses.update own.id (fun _ => true) fields.write fields.write_id) :
    Announced (shadow.resume attemptConduct id actor (.stage (.analysisUpdate own.id fields))
      (.ok ()) world) := by
  have closed : attemptNext actor.ghost (.stage (.analysisUpdate own.id fields)) (.ok ()) =
      some { own with written := true } := by simp [attemptNext, ghost]
  constructor
  · intro other rival theirs found has
    show theirs.Open world.db.stages.analyses
    rw [written]
    rcases resumed_actor found with ⟨rfl, same⟩ | ⟨elsewhere, was⟩
    · rw [same, closed] at has
      cases has
      obtain ⟨announced, row, stored, phase, -⟩ := held.present other actor own present ghost
      refine ⟨announced, fields.write row, ?_, (write_phase fields row).1.trans phase, ?_⟩
      · rw [Table.get_update_same, stored]
        rfl
      · intro unwritten
        cases unwritten
    · exact open_updated (held.present other rival theirs was has)
        (held.apart other id rival actor theirs own was present elsewhere has ghost)
  · intro first second one two mine theirs found found' distinct has has'
    rcases resumed_actor found with ⟨rfl, same⟩ | ⟨-, was⟩
    · rw [same, closed] at has
      cases has
      rcases resumed_actor found' with ⟨rfl, -⟩ | ⟨-, was'⟩
      · exact absurd rfl distinct
      · exact held.apart first second actor two own theirs present was' distinct ghost has'
    · rcases resumed_actor found' with ⟨rfl, same'⟩ | ⟨-, was'⟩
      · rw [same', closed] at has'
        cases has'
        exact held.apart first second one actor mine own was present distinct has ghost
      · exact held.apart first second one two mine theirs was was' distinct has has'

end Answered

/-- An operation that writes a row of `analyses` either fails and changes nothing or commits. -/
theorem failed_keeps_world {self fresh : Nat} {before after : World} {op : Op} {error : Exn}
    (inner : op.outer = false) (moves : OpMoves self fresh before op (.error error) after) :
    after = before := by
  generalize same : (Except.error error : Except Exn op.Ans) = answer at moves
  cases moves with
  | failed op error => rfl
  | outer op answer outer =>
      rw [inner] at outer
  | _ => cases same

theorem announced_idle {shadow : AttemptShadow} (idle : ∀ id, shadow.actors id = none) :
    Announced shadow := by
  constructor
  · intro id actor own found ghost
    rw [idle] at found
    cases found
  · intro id other actor rival own theirs found
    rw [idle] at found
    cases found

/-- The step lemma: the rows stay with their makers, and the table moves as told. -/
theorem announced_step {before after : AttemptShadow} {event : Ev} (held : Announced before)
    (moved : ShadowMoves attemptConduct before event after) :
    Announced after ∧ AttemptStep before.world.db.stages.analyses event
      after.world.db.stages.analyses := by
  cases moved with
  | started job rooted => exact ⟨announced_begin held job, .same _⟩
  | issued id actor op found running allowed suspends awake =>
      refine ⟨announced_kept held (fun other rival own found' ghost => ?_) fun _ still => still,
        .same _⟩
      simp only [Shadow.await, Function.update_apply] at found'
      split at found'
      · rename_i here
        cases found'
        exact ⟨actor, here ▸ found, ghost⟩
      · exact ⟨rival, found', ghost⟩
  | answered id actor op env answer world found running allowed ready pending ran =>
      have moves : OpMoves id before.fresh before.world op answer world := exec_moves ran
      have stage : Announced (before.resume attemptConduct id actor op answer world) ∧
          AttemptStep before.world.db.stages.analyses (.answered id op answer)
            world.db.stages.analyses := by
        by_cases creates : ∃ new, op = .stage (.analysisCreate new)
        · obtain ⟨new, rfl⟩ := creates
          have announced : new.status = .running ↔ new.phase.announced = true := allowed
          cases answer with
          | error error =>
              rw [failed_keeps_world rfl moves]
              exact ⟨announced_resume held found rfl fun _ still => still, .same _⟩
          | ok drawn =>
              obtain ⟨now, inserted⟩ : ∃ now, before.world.db.stages.analyses.insert
                  (new.row drawn now) = some world.db.stages.analyses := by
                cases moves with
                | stage write clock drawn' written applied =>
                    obtain ⟨analyses, inserted, rfl⟩ := Option.map_eq_some_iff.mp applied
                    exact ⟨_, inserted⟩
                | outer op answer outer => cases outer
              refine ⟨?_, .made id new drawn now _ inserted announced⟩
              by_cases running : new.status = .running
              · exact announced_made held running (announced.mp running) inserted
              · exact announced_resume held found (by simp [attemptNext, running]) fun own still =>
                  open_inserted still inserted
        by_cases writes : ∃ rowId fields, op = .stage (.analysisUpdate rowId fields)
        · obtain ⟨rowId, fields, rfl⟩ := writes
          obtain ⟨stopped, own, ghost, rfl, again⟩ : fields.status ≠ .running ∧
              ∃ own, actor.ghost = some own ∧ own.id = rowId ∧
                (own.written = true → own.phase = .triage) := allowed
          cases answer with
          | error error =>
              rw [failed_keeps_world rfl moves]
              exact ⟨announced_resume held found rfl fun _ still => still, .same _⟩
          | ok done =>
              have written : world.db.stages.analyses = before.world.db.stages.analyses.update own.id
                  (fun _ => true) fields.write fields.write_id := by
                cases moves with
                | stage write clock drawn written applied =>
                    simp only [StageWrite.apply] at applied
                    split at applied <;> cases applied
                    rfl
                | outer op answer outer => cases outer
              obtain ⟨announced, row, stored, phase, unwritten⟩ :=
                held.present id actor own found ghost
              refine ⟨announced_written held found ghost written, ?_⟩
              rw [written]
              refine .written id own.id fields row stored (phase ▸ announced) stopped fun settled => ?_
              rw [phase]
              apply again
              cases was : own.written with
              | true => rfl
              | false => exact absurd (unwritten was) settled
        · have settled : (∀ new, op ≠ .stage (.analysisCreate new)) ∧
              ∀ rowId fields, op ≠ .stage (.analysisUpdate rowId fields) :=
            ⟨fun new same => creates ⟨new, same⟩, fun rowId fields same => writes ⟨rowId, fields, same⟩⟩
          have kept := op_keeps_analyses moves settled
          have ghost : attemptNext actor.ghost op answer = actor.ghost := by
            unfold attemptNext
            split
            · exact absurd rfl (settled.1 _)
            · exact absurd rfl (settled.2 _ _)
            · rfl
          rw [kept]
          exact ⟨announced_resume held found ghost fun own still => by rw [kept]; exact still, .same _⟩
      refine ⟨announced_begin_all stage.1 _, ?_⟩
      have same : ((before.resume attemptConduct id actor op answer world).beginAll attemptConduct
          (bugalizer.spawns op)).world = world := by
        cases bugalizer.spawns op <;> rfl
      rw [same]
      exact stage.2
  | ended id actor found running awake finished =>
      refine ⟨announced_kept held (fun other rival own found' ghost => ?_) fun _ still => still,
        .same _⟩
      simp only [Shadow.finish, Function.update_apply] at found'
      split at found'
      · cases found'
      · exact ⟨rival, found', ghost⟩
  | restarted boot =>
      exact ⟨announced_idle fun _ => rfl, .restarted _ _ _⟩

theorem announced_boot (world : World) : Announced (Shadow.boot attemptConduct world) :=
  announced_idle fun _ => rfl

theorem run_attempts {world : World} {events : List Ev} {state next : Sys} {event : Ev}
    (run : Run bugalizer (State.boot world) events state) (moves : Moves bugalizer state event next) :
    AttemptStep state.world.db.stages.analyses event next.world.db.stages.analyses := by
  obtain ⟨shadow, shades, held⟩ := @Guarded.shadowed _ _ _ _ _ _ _ _ attemptConduct _ _ _ _
    run.guarded (fun _ shadow => Announced shadow) (announced_boot world)
    fun _ _ _ _ _ _ _ held _ _ _ moved => (announced_step held moved).1
  obtain ⟨after, moved, shaded⟩ := moves_shadowed shades moves
  rw [shades.world, shaded.world]
  exact (announced_step held moved).2

theorem run_spawns {world : World} {events : List Ev} {state next : Sys} {id : Nat} {op : Op}
    {answer : Except Exn op.Ans} {job : Job}
    (run : Run bugalizer (State.boot world) events state)
    (moves : Moves bugalizer state (.answered id op answer) next) (spawns : op.spawns = some job) :
    job.rooted = false := by
  have programs : ∀ world job, (bugalizer.program world job).Only fun op =>
      ∃ attempt, attemptAllowed attempt op := fun world job => (attempts_job job none).only
  obtain ⟨attempt, allowed⟩ := (moves_within programs (run_within programs run).2 moves).1
  cases op with
  | createTask actionId spawned =>
      cases spawns
      exact allowed
  | _ => cases spawns

end Bugalizer
