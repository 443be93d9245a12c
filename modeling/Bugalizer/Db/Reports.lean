import Bugalizer.Db.Rows

/-!
# Writes of `bug_reports`

Every statement that changes a report, as `db.py` has it: the columns it sets, the
condition it is subject to, and the row count it answers by. `report_update_status`
reads the row again after its commit; that read is a call of its own (`Effects`).
-/

namespace Bugalizer

set_option autoImplicit false

open Store

/-- The columns `report_update_fields` is called with. -/
structure ReportFields where
  analysisMode : Option Json := none
  severity : Option Json := none
  featureArea : Option Json := none

namespace ReportFields

def values (fields : ReportFields) : List Json :=
  fields.analysisMode.toList ++ fields.severity.toList ++ fields.featureArea.toList

/-- Whether SQLite takes the values: all bind, and `analysis_mode` is `NOT NULL`. -/
def accepted (fields : ReportFields) : Bool :=
  fields.values.all Json.bindable && !(fields.analysisMode.any Json.isNull)

def write (fields : ReportFields) (now : Nat) (row : Report) : Report :=
  { row with
    analysisMode := fields.analysisMode.getD row.analysisMode
    severity := fields.severity.getD row.severity
    featureArea := fields.featureArea.getD row.featureArea
    updatedAt := now }

end ReportFields

inductive ReportWrite where
  /-- `report_update_status`'s `UPDATE`. -/
  | updateStatus (id : String) (new : BugStatus) (reason : Option String)
      (expected : Option BugStatus)
  | delete (id : String) (expectedStatus : Option BugStatus)
      (expectedToken : Option (Option String))
  | tryClaim (id : String) (expected new : BugStatus) (token : Option String)
  | adoptClaim (id : String) (observed : Option String) (token : String)
  | releaseClaim (id : String) (token : String)
  | updateFields (id : String) (fields : ReportFields)

namespace ReportWrite

def reportId : ReportWrite → String
  | updateStatus id .. | delete id .. | tryClaim id .. | adoptClaim id .. | releaseClaim id ..
  | updateFields id .. => id

/-- The `WHERE` clause beside the id. -/
def condition : ReportWrite → Report → Bool
  | updateStatus _ _ _ expected, row => expected.all (· == row.status)
  | delete _ expectedStatus expectedToken, row =>
      row.resolutionReason != some "deleted" && expectedStatus.all (· == row.status) &&
        expectedToken.all (· == row.claimToken)
  | tryClaim _ expected _ _, row => row.status == expected
  | adoptClaim _ observed _, row => row.status == .fixApproved && row.claimToken == observed
  | releaseClaim _ token, row => row.status == .fixApproved && row.claimToken == some token
  | updateFields .., _ => true

/-- The `SET` clause. -/
def change (now : Nat) : ReportWrite → Report → Report
  | updateStatus _ new reason _, row =>
      { row with
        status := new
        resolutionReason := if reason.isSome then reason else row.resolutionReason
        updatedAt := now }
  | delete .., row =>
      { row with status := .rejected, resolutionReason := some "deleted", updatedAt := now }
  | tryClaim _ _ new token, row =>
      { row with
        status := new
        claimToken := if token.isSome then token else row.claimToken
        updatedAt := now }
  | adoptClaim _ _ token, row => { row with claimToken := some token, updatedAt := now }
  | releaseClaim .., row =>
      { row with status := .fixProposed, claimToken := none, updatedAt := now }
  | updateFields _ fields, row => fields.write now row

def accepted : ReportWrite → Bool
  | updateFields _ fields => fields.accepted
  | _ => true

theorem change_id (now : Nat) (write : ReportWrite) (row : Report) :
    (write.change now row).id = row.id := by
  cases write <;> rfl

def apply (now : Nat) (write : ReportWrite) (reports : Reports) : Reports :=
  reports.update write.reportId write.condition (write.change now) (write.change_id now)

/-- `cursor.rowcount == 1`. -/
def hits (write : ReportWrite) (reports : Reports) : Bool :=
  reports.matched write.reportId write.condition

theorem get_apply (now : Nat) (write : ReportWrite) (reports : Reports) (id : String) :
    (write.apply now reports).get id =
      (reports.get id).map fun row =>
        if id = write.reportId ∧ write.condition row then write.change now row else row :=
  Table.get_update reports write.reportId id write.condition _ _

end ReportWrite

/-- The three `UPDATE`s of `release_orphaned_claims` on `bug_reports`. Each claim rolls back
to a status that is no claim, so one pass by `rollback` is all three. -/
def rollBackClaims (now : Nat) (reports : Reports) : Reports :=
  reports.updateAll (fun row => row.status.stageClaim)
    (fun row => { row with status := row.status.rollback, updatedAt := now }) fun _ => rfl

theorem rollback_leaves_claims (status : BugStatus) : status.rollback.stageClaim = false := by
  cases status <;> rfl

end Bugalizer
