import Bugalizer.Scenario
import Bugalizer.Sync.Jobs

/-!
# An action's outcome is written once

The ledger moves by its own writes and by `reopen_for_action`, and by nothing else. A row
that is finished keeps its outcome through every write the program makes, and only one
write finishes it.
-/

namespace Bugalizer

set_option autoImplicit false

open Coroutine Store

def Op.writesLedger : (op : Op) → Except Exn op.Ans → Bool
  | .ledger _, .ok _ => true
  | .joint (.reopenForAction ..), .ok .done => true
  | _, _ => false

theorem finish_reopened_id (now : Nat) (message : String) (row : TriageAction) :
    (finishReopened now message row).actionId = row.actionId := rfl

inductive LedgerStep : TriageActions → (op : Op) → Except Exn op.Ans → TriageActions → Prop
  | kept (ledger : TriageActions) (op : Op) (answer : Except Exn op.Ans)
      (quiet : op.writesLedger answer = false) : LedgerStep ledger op answer ledger
  | wrote (ledger : TriageActions) (write : LedgerWrite) (now : Nat) :
      LedgerStep ledger (.ledger write) (.ok (write.apply now ledger).1) (write.apply now ledger).2
  | reopened (ledger : TriageActions) (reportId actionId message : String) (now : Nat)
      (dispatched : ledger.matched actionId fun row => row.phase == .dispatched) :
      LedgerStep ledger (.joint (.reopenForAction reportId actionId message)) (.ok .done)
        (ledger.update actionId (fun row => row.phase == .dispatched)
          (finishReopened now message) (finish_reopened_id now message))

theorem joint_ledger (now : Nat) (write : JointWrite) (db : Database) :
    LedgerStep db.ledger (.joint write) (.ok (write.apply now db).1) (write.apply now db).2.ledger := by
  cases write with
  | recordPullRequest record =>
      simp only [JointWrite.apply]
      split
      · split <;> exact .kept _ _ _ rfl
      · exact .kept _ _ _ rfl
  | prSettle settlement => exact .kept _ _ _ rfl
  | reopenForAction reportId actionId message =>
      simp only [JointWrite.apply]
      split
      · split
        · rename_i dispatched
          exact .reopened _ _ _ _ now dispatched
        · exact .kept _ _ _ rfl
      · exact .kept _ _ _ rfl

theorem op_ledger {self fresh : Nat} {op : Op} {before after : World}
    {answer : Except Exn op.Ans} (moved : OpMoves self fresh before op answer after) :
    LedgerStep before.db.ledger op answer after.db.ledger := by
  cases moved with
  | failed op error =>
      refine .kept _ _ _ ?_
      cases op <;> first | rfl | (rename_i write; cases write <;> rfl)
  | ledger write clock => exact .wrote _ _ _
  | joint write clock => exact joint_ledger _ write before.db
  | outer op answer outer =>
      refine .kept _ _ _ ?_
      cases op <;> first | rfl | cases outer
  | _ => exact .kept _ _ _ rfl

theorem program_ledger {write : LedgerWrite} (program : programOp (.ledger write)) :
    LedgerShape write := by
  rcases program with ⟨scope, staged⟩ | pr | sync | endpoint
  · cases staged
  · cases pr
  · exact sync
  · cases endpoint

/-- The ledger holds an outcome for the action. -/
def TriageActions.finished (ledger : TriageActions) (actionId : String) : Bool :=
  ledger.matched actionId fun row => row.phase == .finished

/-- An answered operation that finished the action's row. -/
def Op.finishes (actionId : String) : (op : Op) → Except Exn op.Ans → Bool
  | .ledger (.finish id ..), .ok hit => id == actionId && hit
  | .joint (.reopenForAction _ id _), .ok .done => id == actionId
  | _, _ => false

abbrev Outcome := Verdict × Option String × Option (List ActionStep)

/-- What a finishing operation writes. -/
def Op.outcome : Op → Option Outcome
  | .ledger (.finish _ outcome message steps _) => some (outcome, message, steps)
  | .joint (.reopenForAction _ _ message) => some (.done, some message, none)
  | _ => none

def TriageAction.written (row : TriageAction) : Option Outcome :=
  row.outcome.map fun outcome => (outcome, row.message, row.steps)

/-- The same row, but for an acknowledgement, a late outcome and a pull request's URL. -/
def TriageAction.Frozen (before after : TriageAction) : Prop :=
  after = { before with
    prUrl := after.prUrl, terminalAcked := after.terminalAcked
    terminalError := after.terminalError, lateOutcome := after.lateOutcome }

theorem TriageAction.Frozen.trans {first middle last : TriageAction} (one : first.Frozen middle)
    (two : middle.Frozen last) : first.Frozen last := by
  rw [Frozen, two, one]

/-- A finished row is there still, and frozen. -/
def TriageActions.Keeps (before after : TriageActions) : Prop :=
  ∀ actionId row, before.get actionId = some row → row.phase = .finished →
    ∃ row', after.get actionId = some row' ∧ row.Frozen row'

theorem keeps_refl (ledger : TriageActions) : ledger.Keeps ledger :=
  fun _ row found _ => ⟨row, found, rfl⟩

theorem keeps_trans {first middle last : TriageActions} (one : first.Keeps middle)
    (two : middle.Keeps last) : first.Keeps last := by
  intro actionId row found finished
  obtain ⟨row', found', frozen⟩ := one actionId row found finished
  have finished' : row'.phase = .finished := by
    rw [frozen]
    exact finished
  obtain ⟨row'', found'', frozen'⟩ := two actionId row' found' finished'
  exact ⟨row'', found'', frozen.trans frozen'⟩

/-- An update that leaves finished rows alone but for the columns that may still move. -/
theorem update_keeps {ledger : TriageActions} {actionId : String} {condition : TriageAction → Bool}
    {change : TriageAction → TriageAction}
    (keyed : ∀ row, (change row).actionId = row.actionId)
    (frozen : ∀ row, condition row = true → row.phase = .finished → row.Frozen (change row)) :
    ledger.Keeps (ledger.update actionId condition change keyed) := by
  intro other row found finished
  rw [Table.get_update, found]
  refine ⟨_, rfl, ?_⟩
  dsimp only
  split
  · rename_i hit
    exact frozen row hit.2 finished
  · rfl

theorem phase_condition {phase : LedgerPhase} {row : TriageAction} {fields : TriageActionFields}
    {actionId : String} (hit : (LedgerWrite.update actionId (some phase) fields).condition row) :
    row.phase = phase := by
  simp only [LedgerWrite.condition, Option.all_some, beq_iff_eq] at hit
  exact hit.symm

theorem shape_keeps {write : LedgerWrite} (shape : LedgerShape write) (now : Nat)
    (ledger : TriageActions) : ledger.Keeps (write.apply now ledger).2 := by
  have guarded : ∀ (actionId : String) (phase : LedgerPhase) (fields : TriageActionFields),
      phase ≠ .finished → ledger.Keeps
        ((LedgerWrite.update actionId (some phase) fields).apply now ledger).2 := by
    intro actionId phase fields open'
    exact update_keeps (LedgerWrite.change_id now _) fun row hit finished =>
      absurd ((phase_condition hit).symm.trans finished) open'
  cases shape with
  | reserve actionId projectId reportId kind params user =>
      intro other row found finished
      simp only [LedgerWrite.apply]
      cases inserted : ledger.insert
          (LedgerWrite.reservedRow actionId projectId reportId kind params user now) with
      | none => exact ⟨row, found, rfl⟩
      | some next =>
          refine ⟨row, ?_, rfl⟩
          have free := Table.insert_free inserted
          rw [Table.get_insert inserted, if_neg ?_]
          · exact found
          · rintro same
            rw [same, found] at free
            cases free
  | deleteReserved actionId =>
      intro other row found finished
      refine ⟨row, ?_, rfl⟩
      simp only [LedgerWrite.apply, Table.get_delete, found]
      simp [LedgerWrite.condition, finished]
  | finish actionId outcome message steps expected =>
      refine update_keeps (LedgerWrite.change_id now _) fun row hit finished => ?_
      simp [LedgerWrite.condition, finished] at hit
  | prUrl actionId url => exact update_keeps (LedgerWrite.change_id now _) fun _ _ _ => rfl
  | late actionId outcome => exact update_keeps (LedgerWrite.change_id now _) fun _ _ _ => rfl
  | acked actionId error => exact update_keeps (LedgerWrite.change_id now _) fun _ _ _ => rfl
  | attempted actionId kind attempts =>
      refine guarded actionId _ _ ?_
      unfold prPhase
      split <;> (intro same; cases same)
  | intent actionId auth now' => exact guarded actionId _ _ (by intro same; cases same)
  | dispatched actionId phase now' open' =>
      refine guarded actionId _ _ ?_
      rcases open' with rfl | rfl <;> (intro same; cases same)
  | fixDone actionId proposalId phase open' =>
      refine guarded actionId _ _ ?_
      rcases open' with rfl | rfl <;> (intro same; cases same)

theorem step_keeps {before after : TriageActions} {op : Op} {answer : Except Exn op.Ans}
    (program : programOp op) (step : LedgerStep before op answer after) : before.Keeps after := by
  cases step with
  | kept op answer quiet => exact keeps_refl _
  | wrote write now => exact shape_keeps (program_ledger program) now _
  | reopened reportId actionId message now dispatched =>
      refine update_keeps (finish_reopened_id now message) fun row hit finished => ?_
      simp [finished] at hit

/-- What the program's writes leave of every finished row, over any part of a run. -/
theorem run_keeps_outcomes {first last : Sys} {events : List Ev}
    (within : first.Within programOp) (run : Run bugalizer first events last) :
    first.world.db.ledger.Keeps last.world.db.ledger := by
  have path := run_world (fun _ job => job_only job) within run
  refine @Path.relates _ _ _ (fun before after : World => before.db.ledger.Keeps after.db.ledger) _ _ _ path
    (fun _ => keeps_refl _) (fun _ _ _ => keeps_trans) fun before event after moved => ?_
  cases moved with
  | same event quiet => exact keeps_refl _
  | operation after self fresh op env answer asks ran =>
      exact step_keeps asks (op_ledger (exec_moves ran))
  | ending id => exact keeps_refl _
  | restarting boot => exact keeps_refl _

theorem finished_iff {ledger : TriageActions} {actionId : String} :
    ledger.finished actionId = true ↔ ∃ row, ledger.get actionId = some row ∧
      row.phase = .finished := by
  simp [TriageActions.finished, Table.matched_iff]

theorem keeps_finished {before after : TriageActions} {actionId : String}
    (keeps : before.Keeps after) (finished : before.finished actionId = true) :
    after.finished actionId = true := by
  obtain ⟨row, found, phase⟩ := finished_iff.mp finished
  obtain ⟨row', found', frozen⟩ := keeps actionId row found phase
  refine finished_iff.mpr ⟨row', found', ?_⟩
  rw [frozen]
  exact phase

/-- A finishing operation finds the row unfinished and writes its outcome. -/
theorem finishes_once {before after : TriageActions} {op : Op} {answer : Except Exn op.Ans}
    {actionId : String} (step : LedgerStep before op answer after)
    (finishes : op.finishes actionId answer = true) :
    before.finished actionId = false ∧ ∃ row, after.get actionId = some row ∧
      row.phase = .finished ∧ row.written = op.outcome := by
  have unfinished : ∀ {condition : TriageAction → Bool}, before.matched actionId condition = true →
      (∀ row, condition row = true → row.phase ≠ .finished) →
      before.finished actionId = false := by
    intro condition matched open'
    obtain ⟨row, found, hit⟩ := Table.matched_iff.mp matched
    simp only [TriageActions.finished, Table.matched, found, Option.any_some]
    simpa using open' row hit
  cases step with
  | kept op answer quiet =>
      cases op with
      | ledger write =>
          cases answer with
          | error error => cases write <;> cases finishes
          | ok hit => cases quiet
      | joint write =>
          cases write with
          | reopenForAction reportId id message =>
              cases answer with
              | error error => cases finishes
              | ok reopened =>
                  cases reopened with
                  | done => cases quiet
                  | _ => cases finishes
          | _ => cases finishes
      | _ => cases finishes
  | wrote write now =>
      cases write with
      | finish id outcome message steps expected =>
          simp only [Op.finishes, LedgerWrite.apply, Bool.and_eq_true, beq_iff_eq] at finishes
          obtain ⟨rfl, hit⟩ := finishes
          refine ⟨unfinished hit fun row hit => ?_, ?_⟩
          · simp only [LedgerWrite.condition, Bool.and_eq_true, bne_iff_ne] at hit
            exact hit.1
          · obtain ⟨row, found, hit⟩ := Table.matched_iff.mp hit
            refine ⟨(LedgerWrite.finish id outcome message steps expected).change now row, ?_, rfl, rfl⟩
            have found : before.get id = some row := found
            simp only [LedgerWrite.apply, LedgerWrite.actionId]
            rw [Table.get_update_same, found, Option.map_some, if_pos hit]
      | _ => cases finishes
  | reopened reportId id message now dispatched =>
      simp only [Op.finishes, beq_iff_eq] at finishes
      subst finishes
      refine ⟨unfinished dispatched fun row hit => ?_, ?_⟩
      · simp only [beq_iff_eq] at hit
        simp [hit]
      · obtain ⟨row, found, hit⟩ := Table.matched_iff.mp dispatched
        refine ⟨finishReopened now message row, ?_, rfl, rfl⟩
        rw [Table.get_update_same, found, Option.map_some, if_pos hit]

theorem unfinished_phase {ledger : TriageActions} {actionId : String} {row : TriageAction}
    (found : ledger.get actionId = some row) (unfinished : ledger.finished actionId = false) :
    row.phase ≠ .finished := by
  intro finished
  rw [finished_iff.mpr ⟨row, found, finished⟩] at unfinished
  cases unfinished

/-- The generic updater is never asked for `finished`. -/
theorem shape_open {actionId : String} {expected : Option LedgerPhase} {fields : TriageActionFields}
    (shape : LedgerShape (.update actionId expected fields)) : fields.phase ≠ some .finished := by
  cases shape <;> (intro same; cases same)

theorem unfinished_kept {before after : TriageActions} {op : Op} {answer : Except Exn op.Ans}
    {actionId : String} (program : programOp op) (step : LedgerStep before op answer after)
    (quiet : op.finishes actionId answer = false) (unfinished : before.finished actionId = false) :
    after.finished actionId = false := by
  have updates : ∀ {id : String} {condition : TriageAction → Bool}
      {change : TriageAction → TriageAction} (keyed : ∀ row, (change row).actionId = row.actionId),
      (∀ row, id = actionId → before.get actionId = some row → condition row = true →
        (change row).phase ≠ .finished) →
      TriageActions.finished (before.update id condition change keyed) actionId = false := by
    intro id condition change keyed moves
    cases found : before.get actionId with
    | none => simp [TriageActions.finished, Table.matched, found]
    | some row =>
        have open' := unfinished_phase found unfinished
        simp only [TriageActions.finished, Table.matched, Table.get_update, found, Option.map_some,
          Option.any_some, beq_eq_false_iff_ne]
        split
        · rename_i hit
          exact moves row hit.1.symm found hit.2
        · exact open'
  cases step with
  | kept op answer quiet => exact unfinished
  | wrote write now =>
      have shape := program_ledger program
      cases write with
      | reserve id projectId reportId kind params user =>
          simp only [LedgerWrite.apply]
          cases inserted : before.insert
              (LedgerWrite.reservedRow id projectId reportId kind params user now) with
          | none => exact unfinished
          | some next =>
              simp only [TriageActions.finished, Table.matched, Table.get_insert inserted]
              split
              · rfl
              · exact unfinished
      | deleteReserved id =>
          simp only [TriageActions.finished, Table.matched, LedgerWrite.apply, Table.get_delete]
          cases found : before.get actionId with
          | none => rfl
          | some row =>
              have open' := unfinished_phase found unfinished
              rw [Option.filter_some]
              split
              · simpa using open'
              · rfl
      | finish id outcome message steps expected =>
          refine updates (LedgerWrite.change_id now _) fun row same found hit => ?_
          exfalso
          have same : id = actionId := same
          have matched : before.matched id
              (LedgerWrite.finish id outcome message steps expected).condition = true :=
            Table.matched_iff.mpr ⟨row, same ▸ found, hit⟩
          have finishes : Op.finishes actionId
              (.ledger (.finish id outcome message steps expected))
              (.ok (before.matched id
                (LedgerWrite.finish id outcome message steps expected).condition)) = true := by
            rw [matched, same]
            simp [Op.finishes]
          exact Bool.false_ne_true (quiet.symm.trans finishes)
      | update id expected fields =>
          refine updates (LedgerWrite.change_id now _) fun row same found hit => ?_
          have kept := shape_open shape
          show fields.phase.getD row.phase ≠ .finished
          cases moved : fields.phase with
          | none => exact unfinished_phase found unfinished
          | some phase => exact fun finished => kept (moved.trans (congrArg some finished))
  | reopened reportId id message now dispatched =>
      refine updates (finish_reopened_id now message) fun row same found hit => ?_
      exfalso
      have finishes : Op.finishes actionId (.joint (.reopenForAction reportId id message))
          (.ok .done) = true := by
        simp [Op.finishes, same]
      exact Bool.false_ne_true (quiet.symm.trans finishes)

/-- The event of an operation that finished the action's row. -/
def Ev.finishes (actionId : String) : Ev → Bool
  | .answered _ op answer => op.finishes actionId answer
  | _ => false

/-- Each step finishes the row at most once, and only from unfinished. -/
theorem count_finishes {first last : Sys} {events : List Ev} (actionId : String)
    (within : first.Within programOp) (run : Run bugalizer first events last) :
    (events.countP (Ev.finishes actionId)) + (first.world.db.ledger.finished actionId).toNat =
      (last.world.db.ledger.finished actionId).toNat := by
  have path := run_world (fun _ job => job_only job) within run
  clear run
  generalize first.world = begin at path
  generalize last.world = final at path
  induction path with
  | nil => simp
  | @snoc before after events event earlier moved ih =>
      rw [List.countP_append, List.countP_singleton]
      suffices step : (if Ev.finishes actionId event then 1 else 0) +
          (before.db.ledger.finished actionId).toNat =
          (after.db.ledger.finished actionId).toNat by omega
      cases moved with
      | same event quiet =>
          cases event <;> first | exact absurd rfl (quiet _ _ _) | simp [Ev.finishes]
      | operation after self fresh op env answer asks ran =>
          have step := op_ledger (exec_moves ran)
          by_cases finishes : op.finishes actionId answer = true
          · obtain ⟨open', row, found, phase, _⟩ := finishes_once step finishes
            have finished := finished_iff.mpr ⟨row, found, phase⟩
            simp [Ev.finishes, finishes, open', finished]
          · simp only [Ev.finishes, finishes]
            cases finished : before.db.ledger.finished actionId with
            | true => simp [keeps_finished (step_keeps asks step) finished]
            | false =>
                simp [unfinished_kept asks step (by simpa using finishes) finished]
      | ending id => simp [Ev.finishes]; rfl
      | restarting boot => simp [Ev.finishes]; rfl

/-- A finished row keeps its outcome, message, steps and time in every later state of every
run; only one of all competing writes finishes it, and what that write says is what stays. -/
theorem outcome_written_once {world : World} {before after : List Ev} {middle last : Sys}
    (actionId : String) (reached : Run bugalizer (State.boot world) before middle)
    (run : Run bugalizer middle after last) :
    (∀ row, middle.world.db.ledger.get actionId = some row → row.phase = .finished →
      ∃ row', last.world.db.ledger.get actionId = some row' ∧ row'.phase = .finished ∧
        row'.outcome = row.outcome ∧ row'.message = row.message ∧ row'.steps = row.steps ∧
        row'.finishedAt = row.finishedAt ∧ row.Frozen row') ∧
      after.countP (Ev.finishes actionId) + (middle.world.db.ledger.finished actionId).toNat =
        (last.world.db.ledger.finished actionId).toNat ∧
      ∀ id op answer, Event.answered id op answer ∈ after → op.finishes actionId answer = true →
        ∃ row', last.world.db.ledger.get actionId = some row' ∧ row'.phase = .finished ∧
          row'.written = op.outcome := by
  have within := (run_within (fun _ job => job_only job) reached).2
  refine ⟨fun row found finished => ?_, count_finishes actionId within run,
    fun id op answer member finishes => ?_⟩
  · obtain ⟨row', found', frozen⟩ := run_keeps_outcomes within run actionId row found finished
    refine ⟨row', found', ?_, ?_, ?_, ?_, ?_, frozen⟩ <;> rw [frozen]
    exact finished
  · obtain ⟨early, late, cut⟩ := List.append_of_mem member
    obtain ⟨start, next, head, moved, tail⟩ := run.split cut
    have startWithin := (within_run (fun _ job => job_only job) within head).2
    have nextWithin := (moves_within (fun _ job => job_only job) startWithin moved).2
    have wrote : ∃ row, next.world.db.ledger.get actionId = some row ∧ row.phase = .finished ∧
        row.written = op.outcome := by
      have world := moves_world startWithin moved
      generalize start.world = earlier at world
      generalize next.world = later at world ⊢
      cases world with
      | same event quiet => exact absurd rfl (quiet _ _ _)
      | operation after self fresh op env answer asks ran =>
          exact (finishes_once (op_ledger (exec_moves ran)) finishes).2
    obtain ⟨row, found, finished, written⟩ := wrote
    obtain ⟨row', found', frozen⟩ := run_keeps_outcomes nextWithin tail actionId row found finished
    refine ⟨row', found', ?_, ?_⟩
    · rw [frozen]
      exact finished
    · rw [frozen]
      exact written

/-- A sweep finds an action past its time bound. -/
def overdueSweep : Option (List Ev × Sys) :=
  (State.boot (Scenario.world (Scenario.database .triaged
    (Scenario.single (Scenario.action .analyzeLocal .dispatched))))).steps bugalizer
    (.start .expireOverdue :: Scenario.steps 0 (Scenario.outside 100) 4)

theorem overdue_sweep_runs : overdueSweep.isSome := by decide

theorem outcome_written_once_by_the_sweep :
    (overdueSweep.get overdue_sweep_runs).1.countP (Ev.finishes "a") + 0 =
      ((overdueSweep.get overdue_sweep_runs).2.world.db.ledger.finished "a").toNat ∧
      (overdueSweep.get overdue_sweep_runs).2.world.db.ledger.finished "a" = true :=
  ⟨(outcome_written_once "a" .nil (steps_get overdue_sweep_runs)).2.1, by decide⟩

end Bugalizer
