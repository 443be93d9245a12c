import Bugalizer.Db.Rows

/-!
# Writes of the action ledger

`triage_actions`: reservation, the generic field updater, and the one statement that
writes an outcome.
-/

namespace Bugalizer

set_option autoImplicit false

open Store

/-- `_TRIAGE_ACTION_FIELDS`, each set or left. -/
structure TriageActionFields where
  phase : Option LedgerPhase := none
  noAutoRetry : Option Bool := none
  pinnedLlm : Option PinnedLlm := none
  intentAt : Option Nat := none
  dispatchedAt : Option Nat := none
  fixProposalId : Option String := none
  prUrl : Option String := none
  attempts : Option Nat := none
  steps : Option (List ActionStep) := none
  terminalAcked : Option Bool := none
  terminalError : Option String := none
  lateOutcome : Option Verdict := none
  keyMode : Option (Option String) := none

def TriageActionFields.write (fields : TriageActionFields) (row : TriageAction) : TriageAction :=
  { row with
    phase := fields.phase.getD row.phase
    noAutoRetry := fields.noAutoRetry.getD row.noAutoRetry
    pinnedLlm := fields.pinnedLlm.or row.pinnedLlm
    intentAt := fields.intentAt.or row.intentAt
    dispatchedAt := fields.dispatchedAt.or row.dispatchedAt
    fixProposalId := fields.fixProposalId.or row.fixProposalId
    prUrl := fields.prUrl.or row.prUrl
    attempts := fields.attempts.getD row.attempts
    steps := fields.steps.or row.steps
    terminalAcked := fields.terminalAcked.getD row.terminalAcked
    terminalError := fields.terminalError.or row.terminalError
    lateOutcome := fields.lateOutcome.or row.lateOutcome
    keyMode := fields.keyMode.getD row.keyMode }

inductive LedgerWrite where
  | reserve (actionId projectId reportId : String) (kind : Kind) (params : Json)
      (requestedByUserId : Option String)
  | deleteReserved (actionId : String)
  | update (actionId : String) (expected : Option LedgerPhase) (fields : TriageActionFields)
  | finish (actionId : String) (outcome : Verdict) (message : Option String)
      (steps : Option (List ActionStep)) (expected : Option LedgerPhase)

namespace LedgerWrite

def actionId : LedgerWrite → String
  | reserve id .. | deleteReserved id | update id .. | finish id .. => id

def reservedRow (actionId projectId reportId : String) (kind : Kind) (params : Json)
    (requestedByUserId : Option String) (now : Nat) : TriageAction :=
  { actionId, projectId, reportId, kind, params, requestedByUserId
    phase := .reserved
    noAutoRetry := false
    pinnedLlm := none
    reservedAt := now
    intentAt := none
    dispatchedAt := none
    finishedAt := none
    outcome := none
    message := none
    steps := none
    fixProposalId := none
    prUrl := none
    attempts := 0
    terminalAcked := false
    terminalError := none
    lateOutcome := none
    keyMode := none }

/-- The `WHERE` clause beside the id, of the statements that have one. -/
def condition : LedgerWrite → TriageAction → Bool
  | reserve .., _ => false
  | deleteReserved _, row => row.phase == .reserved
  | update _ expected _, row => expected.all (· == row.phase)
  | finish _ _ _ _ expected, row => row.phase != .finished && expected.all (· == row.phase)

def change (now : Nat) : LedgerWrite → TriageAction → TriageAction
  | update _ _ fields, row => fields.write row
  | finish _ outcome message steps _, row =>
      { row with phase := .finished, outcome := some outcome, message, steps, finishedAt := some now }
  | _, row => row

theorem change_id (now : Nat) (write : LedgerWrite) (row : TriageAction) :
    (write.change now row).actionId = row.actionId := by
  cases write <;> rfl

/-- The row count, and the ledger after the statement. -/
def apply (now : Nat) (write : LedgerWrite) (ledger : TriageActions) : Bool × TriageActions :=
  match write with
  | reserve actionId projectId reportId kind params user =>
      match ledger.insert (reservedRow actionId projectId reportId kind params user now) with
      | some inserted => (true, inserted)
      | none => (false, ledger)
  | deleteReserved actionId =>
      (ledger.matched actionId (condition write), ledger.delete actionId (condition write))
  | update .. =>
      (ledger.matched write.actionId write.condition,
        ledger.update write.actionId write.condition (write.change now) (write.change_id now))
  | finish .. =>
      (ledger.matched write.actionId write.condition,
        ledger.update write.actionId write.condition (write.change now) (write.change_id now))

end LedgerWrite

end Bugalizer
