import Bugalizer.AuthorizedRuns

/-!
# A finished action starts nothing

The time bound may finish a row while a task of the action waits for an answer. That task goes on
with the stage it is in, but whatever else the sync starts it starts on a row that it has just read.
-/

namespace Bugalizer

set_option autoImplicit false

open Coroutine Store

/-- A task of the action is made, or the action is executed by the coroutine itself. -/
def Starts (actionId : String) : Ev → Prop
  | .answered _ (.createTask _ (.actionTask id)) _ => id = actionId
  | .answered _ (.note (.runInline id)) _ | .answered _ (.note (.reopenForAction id)) _
  | .answered _ (.note (.prStep id)) _ | .answered _ (.joint (.reopenForAction _ id _)) _ =>
      id = actionId
  | _ => False

abbrev anyListed : ListedAction → Prop := fun _ => True

def SentDispatched (shadow : AttendanceShadow anyListed) : Prop :=
  ∀ id actor row, shadow.actors id = some actor → insightOf actor = .sent row → row.phase = .dispatched

theorem sent_dispatched_step {before after : AttendanceShadow anyListed} {event : Ev}
    (held : SentDispatched before) (moves : ShadowMoves (insightConduct anyListed) before event after) :
    SentDispatched after := by
  have begun : ∀ job row, Insight.initial job ≠ .sent row := by
    intro job row sent
    cases job with
    | _ => cases sent
  have started : ∀ (shadow : AttendanceShadow anyListed) (job : Job), SentDispatched shadow →
      SentDispatched (shadow.begin (insightConduct anyListed) job) := by
    intro shadow job held id actor row found sent
    obtain ⟨-, same⟩ | ⟨-, was⟩ := updated_found found
    · cases same
      exact absurd sent (begun job row)
    · exact held id actor row was sent
  cases moves with
  | started job rooted => exact started before job held
  | issued id actor op found running allowed suspends awake =>
      intro other rival row present sent
      obtain ⟨-, same⟩ | ⟨-, was⟩ := updated_found present
      · cases same
        exact held id actor row found sent
      · exact held other rival row was sent
  | answered id actor op env answer world found running permitted ready pending ran =>
      have resumed : SentDispatched (before.resume (insightConduct anyListed) id actor op answer world) := by
        intro other rival row present sent
        obtain ⟨-, same⟩ | ⟨-, was⟩ := updated_found present
        · cases same
          obtain known | ⟨known, fields, -, -, dispatches, written⟩ := next_sent sent
          · exact held id actor row found known
          · rw [written]
            show fields.phase.getD known.phase = .dispatched
            rw [dispatches]
            rfl
        · exact held other rival row was sent
      cases op with
      | createTask created job => exact started _ job resumed
      | _ => exact resumed
  | ended id actor found running awake finished =>
      intro other rival row present sent
      obtain ⟨-, same⟩ | ⟨-, was⟩ := updated_found present
      · cases same
      · exact held other rival row was sent
  | restarted boot =>
      intro other rival row present
      cases present

section Steps

variable {shadow after : AttendanceShadow anyListed} {event : Ev}

theorem answered_awake {id : Nat} {actor : Actor Op (insightConduct anyListed).Ghost Job} {op : Op}
    (attends : Attends shadow.world.db.ledger shadow.holder id actor)
    (pending : ∀ other, actor.waiting = some other → other = op) (waits : op.suspends = false) :
    actor.waiting = none := by
  cases waiting : actor.waiting with
  | none => rfl
  | some other =>
      have suspends := attends.waits other waiting
      rw [pending other waiting, waits] at suspends
      cases suspends

theorem current_open {id : Nat} {actor : Actor Op (insightConduct anyListed).Ghost Job} {actionId : String}
    (attends : Attends shadow.world.db.ledger shadow.holder id actor) (awake : actor.waiting = none)
    (current : (insightOf actor).Current actionId) :
    ∃ row, shadow.world.db.ledger.get actionId = some row ∧ row.phase ≠ .reserved ∧
      row.phase ≠ .finished := by
  obtain ⟨row, known, keyed, claimed, unfinished⟩ := current
  have seen : (insightOf actor).exact = some row := by
    obtain reads | sent := known
    · rw [reads]
      rfl
    · rw [sent]
      rfl
  have stored := attends.exact awake row seen
  rw [keyed] at stored
  exact ⟨row, stored, claimed, unfinished⟩

theorem starts_open {actionId : String} (attended : Attended shadow) (sent : SentDispatched shadow)
    (moves : ShadowMoves (insightConduct anyListed) shadow event after)
    (starts : Starts actionId event) : ∃ row, shadow.world.db.ledger.get actionId = some row ∧
      row.phase ≠ .reserved ∧ row.phase ≠ .finished := by
  cases moves with
  | answered id actor op env answer world found running permitted ready pending ran =>
      obtain ⟨program, allowed⟩ := allowed_attends permitted
      have attends := attended.attends id actor found
      have inside : ¬outsideOp op → attendedOp anyListed (settingsOf actor) (insightOf actor) op := by
        intro other
        obtain lost | outside | inside := allowed
        · exact absurd lost attends.sound.sane
        · exact absurd outside.2 other
        · exact inside.2
      cases op with
      | createTask created job =>
          cases job with
          | actionTask own =>
              have same : own = actionId := starts
              subst same
              obtain ⟨same, row, dispatched, keyed, llm⟩ | other := inside fun outside => outside
              · cases same
                have stored := attends.exact (answered_awake attends pending rfl) row
                  (by rw [dispatched]; rfl)
                rw [keyed] at stored
                refine ⟨row, stored, ?_, ?_⟩
                · rw [sent id actor row found dispatched]
                  simp
                · rw [sent id actor row found dispatched]
                  simp
              · cases other
          | _ => cases starts
      | note mark =>
          have awake := answered_awake attends pending rfl
          cases mark with
          | runInline own =>
              have same : own = actionId := starts
              subst same
              exact current_open attends awake (inside fun outside => outside)
          | reopenForAction own =>
              have same : own = actionId := starts
              subst same
              exact current_open attends awake (inside fun outside => outside)
          | prStep own =>
              have same : own = actionId := starts
              subst same
              exact current_open attends awake (inside fun outside => outside)
          | _ => cases starts
      | joint write =>
          cases write with
          | reopenForAction reportId own message =>
              have same : own = actionId := starts
              subst same
              exact current_open attends (answered_awake attends pending rfl)
                (inside fun outside => outside)
          | _ => cases starts
      | _ => cases starts
  | _ => cases starts

end Steps

section Runs

variable {world : World} {past rest : List Ev} {middle last : Sys} {actionId : String}

theorem run_dispatched (run : Run bugalizer (State.boot world) past last) :
    ∃ shadow, Shades (insightConduct anyListed) last shadow ∧ Attended shadow ∧
      SentDispatched shadow :=
  @run_attended anyListed _ _ _ run (fun event _ => lists_anything event)
    (fun _ shadow => SentDispatched shadow) (fun id actor row found => by cases found)
    (fun _ _ _ _ _ _ _ _ held _ moves => sent_dispatched_step held moves)

theorem step_starts_nothing (run : Run bugalizer (State.boot world) past last)
    (finished : last.world.db.ledger.finished actionId = true) {event : Ev} {next : Sys}
    (moves : Moves bugalizer last event next) : ¬Starts actionId event := by
  intro starts
  obtain ⟨shadow, shades, attended, sent⟩ := run_dispatched run
  obtain ⟨after, moved, -⟩ := moves_shadowed shades moves
  obtain ⟨row, stored, -, unfinished⟩ := starts_open attended sent moved starts
  rw [shades.world] at finished
  obtain ⟨other, found, phase⟩ := finished_iff.mp finished
  rw [stored] at found
  cases found
  exact unfinished phase

theorem tasks_before {before after : Sys} {event : Ev} (moves : Moves bugalizer before event after)
    (quiet : ¬Starts actionId event) {id : Nat} {task : Task Op Op.Ans Exn Job}
    (found : after.tasks id = some task) (own : task.job = .actionTask actionId) :
    event ≠ .restarted ∧ ∃ earlier, before.tasks id = some earlier ∧ earlier.job = .actionTask actionId := by
  cases moves with
  | started job rooted =>
      refine ⟨by simp, ?_⟩
      obtain ⟨-, same⟩ | ⟨-, was⟩ := updated_found found
      · cases same
        have own : job = .actionTask actionId := own
        subst own
        cases rooted
      · exact ⟨task, was, own⟩
  | issued place asker op rest' present running asks suspends awake =>
      refine ⟨by simp, ?_⟩
      obtain ⟨here, same⟩ | ⟨-, was⟩ := updated_found found
      · cases same
        exact ⟨asker, here ▸ present, own⟩
      · exact ⟨task, was, own⟩
  | answered place asker op rest' env answer world' present running asks ready ran =>
      refine ⟨by simp, ?_⟩
      have resumed : Function.update before.tasks place
          (some { asker with rest := rest' answer, waiting := false }) id = some task →
          ∃ earlier, before.tasks id = some earlier ∧ earlier.job = .actionTask actionId := by
        intro there
        obtain ⟨here, same⟩ | ⟨-, was⟩ := updated_found there
        · cases same
          exact ⟨asker, here ▸ present, own⟩
        · exact ⟨task, was, own⟩
      cases op with
      | createTask created job =>
          obtain ⟨-, same⟩ | ⟨-, was⟩ := updated_found found
          · cases same
            have own : job = .actionTask actionId := own
            subst own
            exact absurd rfl quiet
          · exact resumed was
      | _ => exact resumed found
  | ended place asker present running closed =>
      refine ⟨by simp, ?_⟩
      obtain ⟨-, same⟩ | ⟨-, was⟩ := updated_found found
      · cases same
      · exact ⟨task, was, own⟩
  | restarted boot => cases found

/-- A task of an action that is finished was alive when the action was finished. -/
theorem alive_since (run : Run bugalizer (State.boot world) past middle)
    (finished : middle.world.db.ledger.finished actionId = true) (more : Run bugalizer middle rest last)
    {id : Nat} {task : Task Op Op.Ans Exn Job} (found : last.tasks id = some task)
    (own : task.job = .actionTask actionId) :
    .restarted ∉ rest ∧ ∃ earlier, middle.tasks id = some earlier ∧ earlier.job = .actionTask actionId := by
  have within := (run_within (fun _ job => job_only job) run).2
  induction more generalizing id task with
  | nil => exact ⟨by simp, task, found, own⟩
  | snoc before moves ih =>
      have still := keeps_finished (run_keeps_outcomes within before) finished
      have quiet := step_starts_nothing (run.trans before) still moves
      obtain ⟨alive, earlier, was, job⟩ := tasks_before moves quiet found own
      obtain ⟨unbroken, first, there, same⟩ := ih was job
      refine ⟨?_, first, there, same⟩
      intro member
      obtain sooner | now := List.mem_append.mp member
      · exact unbroken sooner
      · exact alive (List.mem_singleton.mp now).symm

end Runs

namespace Scenario

/-- The time bound passes while the action's task waits for the key. -/
def overdue : Script bugalizer pinnedTick.last :=
  ⟨steps 1 (reached 6) 5 ++ .start .expireOverdue :: steps 2 (outside 10000000000) 4,
    by decide +kernel⟩

/-- The key arrives, and the task goes on to the model. -/
def goesOn : Script bugalizer overdue.last := ⟨steps 1 (reached 10000000001) 13, by decide +kernel⟩

end Scenario

/-- What a step starts for an action: a model call or a write of the report by its own task, a PR step,
or an inline run. -/
inductive OnBehalf (actionId : String) (state : Sys) : Ev → Prop where
  | modelCall {id : Nat} {task : Task Op Op.Ans Exn Job} {call : LlmCall}
      (found : state.tasks id = some task) (own : task.job = .actionTask actionId) :
      OnBehalf actionId state (.issued id (.remote (.acompletion call)))
  | reportWrite {id : Nat} {task : Task Op Op.Ans Exn Job} {write : ReportWrite} {answer : Except Exn Bool}
      (found : state.tasks id = some task) (own : task.job = .actionTask actionId) :
      OnBehalf actionId state (.answered id (.report write) answer)
  | prStep {id : Nat} {answer : Except Exn Unit} :
      OnBehalf actionId state (.answered id (.note (.prStep actionId)) answer)
  | runInline {id : Nat} {answer : Except Exn Unit} :
      OnBehalf actionId state (.answered id (.note (.runInline actionId)) answer)
  | reopen {id : Nat} {reportId message : String}
      {answer : Except Exn (JointWrite.reopenForAction reportId actionId message).Ans} :
      OnBehalf actionId state (.answered id (.joint (.reopenForAction reportId actionId message)) answer)

/-- The step is one of the action's own task, which was alive in the earlier state. -/
def OfTaskAlive (actionId : String) (earlier : Sys) : Ev → Prop
  | .issued id _ | .answered id _ _ =>
      ∃ task, earlier.tasks id = some task ∧ task.job = .actionTask actionId
  | _ => False

namespace Scenario

/-- The key is answered behind the bound. -/
def lateKey : Script bugalizer overdue.last := ⟨steps 1 (reached 10000000001) 12, by decide +kernel⟩

def lateCall : Scene bugalizer lateKey.last := ⟨.advance 1 (reached 10000000001), by decide +kernel⟩

/-- The action's task waits for the answer to its credential request. -/
def waitsForKey (state : Sys) : Bool :=
  (state.tasks 1).any fun task =>
    isTaskOf "a" task.job && task.waiting &&
      match task.rest with
      | .call (.remote (.credential ..)) _ => true
      | _ => false

end Scenario

end Bugalizer
