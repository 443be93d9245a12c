import Bugalizer.ReportMoves
import Bugalizer.Scenario
import Bugalizer.Sync.Jobs

/-!
# Terminal statuses

Every writer of a report's status compares it first, but for the writes a stage ends with.
A report that is closed, rejected or a duplicate stays so exactly as long as no such write
lands on it.
-/

namespace Bugalizer

set_option autoImplicit false

open Coroutine Store

def Op.overwrites (row : Report) : Op → Bool
  | .report (.updateStatus id new _ none) => decide (id = row.id ∧ new ≠ row.status)
  | _ => false

/-- `DELETE`, when it hit. -/
def Op.deletes (reportId : String) : (op : Op) → Except Exn op.Ans → Bool
  | .report (.delete id _ _), .ok hit => id == reportId && hit
  | _, _ => false

def Op.reopens (reportId : String) : (op : Op) → Except Exn op.Ans → Bool
  | .joint (.reopenForAction id _ _), .ok .done => id == reportId
  | _, _ => false

theorem program_claim {id : String} {expected new : BugStatus} {token : Option String}
    (program : programOp (.report (.tryClaim id expected new token))) : expected.terminal = false := by
  rcases program with ⟨scope, _, _, listed, _⟩ | pr | sync | endpoint
  · simp only [stageClaims, List.mem_cons, List.not_mem_nil, or_false, Prod.mk.injEq] at listed
    rcases listed with ⟨rfl, _⟩ | ⟨rfl, _⟩ | ⟨rfl, _⟩ | ⟨rfl, _⟩ | ⟨rfl, _⟩ | ⟨rfl, _⟩ <;> rfl
  · obtain ⟨rfl, _⟩ := pr
    rfl
  · cases sync
  · cases endpoint

theorem program_status {id : String} {expected new : BugStatus} {reason : Option String}
    (program : programOp (.report (.updateStatus id new reason (some expected)))) :
    validateTransition expected new true := by
  rcases program with ⟨scope, _, absent, _⟩ | pr | sync | endpoint
  · cases absent
  · cases pr
  · exact sync
  · exact endpoint

theorem program_overwrite {id : String} {new : BugStatus} {reason : Option String}
    (program : programOp (.report (.updateStatus id new reason none))) : new ∈ stageOutcomes := by
  rcases program with ⟨scope, _, _, outcome⟩ | pr | sync | endpoint
  · exact outcome
  · cases pr
  · cases sync
  · cases endpoint

/-- What an operation that changes a terminal report does, unless it overwrites the status:
it leaves the status alone, deletes the report, or reopens a closed one. -/
theorem change_of_terminal {row row' : Report} {op : Op} {answer : Except Exn op.Ans}
    (program : programOp op) (change : ReportChange row op answer row')
    (terminal : row.status.terminal = true) (kept : op.overwrites row = false) :
    (row'.status = row.status ∧
        (row.status = .rejected → row'.resolutionReason = row.resolutionReason)) ∨
      (op.deletes row.id answer = true ∧ row'.status = .rejected ∧
        row'.resolutionReason = some "deleted") ∨
      (op.reopens row.id answer = true ∧ row.status = .closed ∧ row'.status = .triaged) := by
  cases change with
  | written write now same hit =>
      cases write with
      | updateStatus id new reason expected =>
          have same : id = row.id := same
          cases expected with
          | none =>
              have unchanged : new = row.status := by
                by_contra changed
                simp only [Op.overwrites, decide_eq_false_iff_not, not_and, not_not] at kept
                exact changed (kept same)
              refine .inl ⟨unchanged, fun rejected => ?_⟩
              have outcome := program_overwrite program
              rw [unchanged, rejected] at outcome
              exact absurd outcome (by decide)
          | some expected =>
              have current : expected = row.status := by
                simpa [ReportWrite.condition] using hit
              have valid := program_status program
              rw [current, terminal_has_no_transition terminal] at valid
              cases valid
      | delete id status token =>
          have same : id = row.id := same
          exact .inr (.inl ⟨by simp [Op.deletes, same], rfl, rfl⟩)
      | tryClaim id expected new token =>
          have current : row.status = expected := by simpa [ReportWrite.condition] using hit
          have open' := program_claim program
          rw [← current, terminal] at open'
          cases open'
      | adoptClaim id observed token =>
          simp only [ReportWrite.condition, Bool.and_eq_true, beq_iff_eq] at hit
          rw [hit.1] at terminal
          cases terminal
      | releaseClaim id token =>
          simp only [ReportWrite.condition, Bool.and_eq_true, beq_iff_eq] at hit
          rw [hit.1] at terminal
          cases terminal
      | updateFields id fields => exact .inl ⟨rfl, fun _ => rfl⟩
  | recorded record now same hit =>
      simp only [PullRequestRecord.holdsClaim, Bool.and_eq_true, beq_iff_eq] at hit
      rw [hit.1] at terminal
      cases terminal
  | settled settlement now same hit =>
      simp only [PrSettlement.committed, beq_iff_eq] at hit
      rw [hit] at terminal
      cases terminal
  | reopened actionId message now closed =>
      exact .inr (.inr ⟨by simp [Op.reopens], closed, rfl⟩)

section Steps

variable (reportId : String)

/-- A committed write of another status that compared nothing, on a terminal report. -/
def Ev.overwrites (db : Database) : Ev → Prop
  | .answered _ op (.ok _) => ∃ row, db.reports.get reportId = some row ∧
      row.status.terminal = true ∧ op.overwrites row = true
  | _ => False

def Ev.deletes : Ev → Bool
  | .answered _ op answer => op.deletes reportId answer
  | _ => false

def Ev.reopens : Ev → Bool
  | .answered _ op answer => op.reopens reportId answer
  | _ => false

/-- A terminal report keeps its status in this step, or the step is one of the two that may
move it. -/
def TerminalStep (before : Database) (event : Ev) (after : Database) : Prop :=
  ∀ row, before.reports.get reportId = some row → row.status.terminal = true →
    ∃ row', after.reports.get reportId = some row' ∧
      (row'.status = row.status ∨
        (Ev.deletes reportId event = true ∧ row'.status = .rejected ∧
          row'.resolutionReason = some "deleted") ∨
        (Ev.reopens reportId event = true ∧ row.status = .closed ∧ row'.status = .triaged))

variable {reportId}

theorem step_of_terminal {before after : World} {event : Ev} {row : Report}
    (moved : WorldMoves bugalizer programOp before event after)
    (found : before.db.reports.get reportId = some row) (terminal : row.status.terminal = true)
    (kept : ¬Ev.overwrites reportId before.db event) :
    ∃ row', after.db.reports.get reportId = some row' ∧
      ((row'.status = row.status ∧
          (row.status = .rejected → row'.resolutionReason = row.resolutionReason)) ∨
        (Ev.deletes reportId event = true ∧ row'.status = .rejected ∧
          row'.resolutionReason = some "deleted") ∨
        (Ev.reopens reportId event = true ∧ row.status = .closed ∧ row'.status = .triaged)) := by
  cases moved with
  | same event quiet => exact ⟨row, found, .inl ⟨rfl, fun _ => rfl⟩⟩
  | operation after self fresh op env answer asks ran =>
      rcases op_report (exec_moves ran) found with same | ⟨row', found', change⟩
      · exact ⟨row, same, .inl ⟨rfl, fun _ => rfl⟩⟩
      · refine ⟨row', found', ?_⟩
        have key := Table.get_key found
        subst key
        cases answer with
        | error error => cases change
        | ok value =>
            refine change_of_terminal asks change terminal ?_
            simpa using fun overwrites => kept ⟨row, found, terminal, overwrites⟩
  | ending id => exact ⟨row, found, .inl ⟨rfl, fun _ => rfl⟩⟩
  | restarting boot =>
      refine ⟨row, ?_, .inl ⟨rfl, fun _ => rfl⟩⟩
      have quiet : row.status.stageClaim = false := by
        cases status : row.status <;> rw [status] at terminal <;> first | rfl | cases terminal
      show (World.restart boot before).db.reports.get reportId = some row
      rw [restart_report, found, Option.map_some, quiet]
      rfl

theorem overwritten_moves {before after : World} {event : Ev}
    (moved : WorldMoves bugalizer programOp before event after)
    (overwrites : Ev.overwrites reportId before.db event) :
    ¬TerminalStep reportId before.db event after.db := by
  intro kept
  cases moved with
  | same event quiet =>
      cases event <;> first | exact absurd rfl (quiet _ _ _) | cases overwrites
  | ending id => cases overwrites
  | restarting boot => cases overwrites
  | operation after self fresh op env answer asks ran =>
      cases answer with
      | error error => cases overwrites
      | ok value =>
          obtain ⟨row, found, terminal, writes⟩ := overwrites
          obtain ⟨row', found', outcome⟩ := kept row found terminal
          cases op with
          | report write =>
              cases write with
              | updateStatus id new reason expected =>
                  cases expected with
                  | some expected => cases writes
                  | none =>
                      simp only [Op.overwrites, decide_eq_true_eq] at writes
                      have ran : Op.exec self fresh (.report (.updateStatus id new reason none)) env
                        before = some (.ok value, after) := ran
                      cases exec_moves ran with
                      | outer op answer outer => cases outer
                      | report write clock accepted =>
                          have key := Table.get_key found
                          have written : row'.status = new := by
                            simp only [commit_db, ReportWrite.get_apply, found, Option.map_some]
                              at found'
                            rw [if_pos ⟨key.symm.trans writes.1.symm, rfl⟩] at found'
                            cases found'
                            rfl
                          rcases outcome with same | ⟨deletes, _⟩ | ⟨reopens, _⟩
                          · exact writes.2 (written.symm.trans same)
                          · cases deletes
                          · cases reopens
              | _ => cases writes
          | _ => cases writes

end Steps

/-- Every step of every run keeps a terminal status exactly when it is no unconditional write
of another one; along a run of such steps the status stays, but for a `DELETE`, until the
report is reopened. -/
theorem terminal_unless_overwritten (world : World) (reportId : String) :
    (∀ events event (state next : Sys), Run bugalizer (State.boot world) events state →
      Moves bugalizer state event next →
      (TerminalStep reportId state.world.db event next.world.db ↔
        ¬Ev.overwrites reportId state.world.db event)) ∧
      ∀ before after (middle last : Sys) row, Run bugalizer (State.boot world) before middle →
        middle.world.db.reports.get reportId = some row → row.status.terminal = true →
        Guarded (Moves bugalizer)
          (fun _ state event => ¬Ev.overwrites reportId state.world.db event) middle after last →
        (∀ event ∈ after, Ev.reopens reportId event = false) →
        ∃ row', last.world.db.reports.get reportId = some row' ∧
          (row'.status = row.status ∨
            row'.status = .rejected ∧ row'.resolutionReason = some "deleted") := by
  have programs : ∀ (world : World) job, (bugalizer.program world job).Only programOp :=
    fun _ job => job_only job
  refine ⟨fun events event state next run moves => ?_,
    fun before after middle last row reached found terminal guarded unopened => ?_⟩
  · have moved := moves_world (run_within programs run).2 moves
    refine ⟨fun kept overwrites => overwritten_moves moved overwrites kept, fun quiet row found
      terminal => ?_⟩
    obtain ⟨row', found', outcome⟩ := step_of_terminal moved found terminal quiet
    exact ⟨row', found', outcome.imp And.left id⟩
  · have within := (run_within programs reached).2
    induction guarded with
    | nil => exact ⟨row, found, .inl rfl⟩
    | @snoc state final events event earlier moves quiet ih =>
        obtain ⟨row', found', settled⟩ := ih fun other member => unopened other (by simp [member])
        have moved := moves_world (within_run programs within earlier.path).2 moves
        have terminal' : row'.status.terminal = true := by
          rcases settled with same | ⟨rejected, _⟩
          · rw [same]
            exact terminal
          · rw [rejected]
            rfl
        obtain ⟨row'', found'', outcome⟩ := step_of_terminal moved found' terminal' quiet
        refine ⟨row'', found'', ?_⟩
        rcases outcome with ⟨same, reason⟩ | ⟨_, rejected, deleted⟩ | ⟨reopens, _⟩
        · rcases settled with kept | ⟨rejected, deleted⟩
          · exact .inl (same.trans kept)
          · exact .inr ⟨same.trans rejected, (reason rejected).trans deleted⟩
        · exact .inr ⟨rejected, deleted⟩
        · rw [unopened event (by simp)] at reopens
          cases reopens

def Ev.unconditional : Ev → Bool
  | .answered _ (.report (.updateStatus _ _ _ none)) _ => true
  | _ => false

theorem conditional_keeps {reportId : String} {db : Database} {event : Ev}
    (conditional : event.unconditional = false) : ¬Ev.overwrites reportId db event := by
  intro overwrites
  cases event with
  | answered id op answer =>
      cases answer with
      | error error => cases overwrites
      | ok value =>
          obtain ⟨row, _, _, writes⟩ := overwrites
          cases op with
          | report write =>
              cases write with
              | updateStatus id new reason expected =>
                  cases expected with
                  | none => cases conditional
                  | some expected => cases writes
              | _ => cases writes
          | _ => cases writes
  | _ => cases overwrites

def closedThenDeleted : Option (List Ev × Sys) :=
  (State.boot (Scenario.world (Scenario.database .closed .empty))).steps bugalizer
    (.start (.deleteReport "r") :: Scenario.steps 0 (Scenario.outside 5) 4)

theorem closed_then_deleted_runs : closedThenDeleted.isSome := by decide

theorem terminal_unless_overwritten_deleted :
    ∃ row', (closedThenDeleted.get closed_then_deleted_runs).2.world.db.reports.get "r" = some row' ∧
      (row'.status = .closed ∨ row'.status = .rejected ∧ row'.resolutionReason = some "deleted") := by
  have run := steps_get closed_then_deleted_runs
  have conditional : ∀ event ∈ (closedThenDeleted.get closed_then_deleted_runs).1,
      Ev.unconditional event = false ∧ Ev.reopens "r" event = false := by decide
  exact (terminal_unless_overwritten _ "r").2 [] _ _ _ (Scenario.report .closed) .nil rfl rfl
    (run.guarded_by fun event member _ _ => conditional_keeps (conditional event member).1)
    fun event member => (conditional event member).2

def Scenario.statusOf (state : Sys) : Option BugStatus :=
  (state.world.db.reports.get "r").map Report.status

/-- A localization waits for the head commit when a `DELETE` of its report is answered. -/
def deletedMidStage : Option (List Ev × Sys) :=
  (State.boot (Scenario.world (Scenario.database .triaged .empty))).steps bugalizer
    (.start (.processLocalization "r") :: Scenario.steps 0 (Scenario.outside 5) 5 ++
      .start (.deleteReport "r") :: Scenario.steps 1 (Scenario.outside 5) 4)

theorem deleted_mid_stage_runs : deletedMidStage.isSome := by decide

/-- The request for the head commit then fails, and the stage ends. -/
def stageEnds : Option (List Ev × Sys) :=
  (deletedMidStage.get deleted_mid_stage_runs).2.steps bugalizer
    (Scenario.steps 0 (Scenario.outside 5) 3)

theorem stage_ends_runs : stageEnds.isSome := by decide

/-- A report that was rejected by a `DELETE` does not stay rejected. -/
theorem deleted_report_comes_back :
    ¬∀ before after (middle last : Sys),
      Run bugalizer (State.boot (Scenario.world (Scenario.database .triaged .empty))) before middle →
      Run bugalizer middle after last → Scenario.statusOf middle = some .rejected →
      (∀ event ∈ after, Ev.deletes "r" event = false ∧ Ev.reopens "r" event = false) →
      Scenario.statusOf last = some .rejected := by
  intro claim
  have kept := claim _ _ _ _ (steps_get deleted_mid_stage_runs) (steps_get stage_ends_runs)
    (by decide) (by decide)
  exact absurd kept (by decide)

end Bugalizer
