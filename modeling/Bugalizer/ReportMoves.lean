import Bugalizer.System

/-!
# How a report moves

A report's row is changed by the writes of `bug_reports`, by the three transactions over
several tables, and by the rollback of claims at a restart. Nothing removes one.
-/

namespace Bugalizer

set_option autoImplicit false

open Coroutine Store

inductive ReportChange (row : Report) : (op : Op) → Except Exn op.Ans → Report → Prop
  | written (write : ReportWrite) (now : Nat) (same : write.reportId = row.id)
      (hit : write.condition row = true) :
      ReportChange row (.report write) (.ok true) (write.change now row)
  | recorded (record : PullRequestRecord) (now : Nat) (same : record.bugReportId = row.id)
      (hit : record.holdsClaim row = true) :
      ReportChange row (.joint (.recordPullRequest record)) (.ok .recorded)
        (PullRequestRecord.writeReport now row)
  | settled (settlement : PrSettlement) (now : Nat) (same : settlement.bugReportId = row.id)
      (hit : PrSettlement.committed row = true) :
      ReportChange row (.joint (.prSettle settlement)) (.ok true) (settlement.writeReport now row)
  | reopened (actionId message : String) (now : Nat) (closed : row.status = .closed) :
      ReportChange row (.joint (.reopenForAction row.id actionId message)) (.ok .done)
        (reopenReport now row)

theorem report_written (now : Nat) (write : ReportWrite) (reports : Reports) {id : String}
    {row : Report} (found : reports.get id = some row) :
    (write.apply now reports).get id = some row ∨
      ∃ row', (write.apply now reports).get id = some row' ∧
        ReportChange row (.report write) (.ok (write.hits reports)) row' := by
  have key := Table.get_key found
  rw [ReportWrite.get_apply, found, Option.map_some]
  by_cases hit : id = write.reportId ∧ write.condition row = true
  · rw [if_pos hit]
    refine .inr ⟨_, rfl, ?_⟩
    have hits : write.hits reports = true := Table.matched_iff.mpr ⟨row, hit.1 ▸ found, hit.2⟩
    rw [hits]
    exact .written write now (hit.1.symm.trans key.symm) hit.2
  · rw [if_neg hit]
    exact .inl rfl

theorem report_joint (now : Nat) (write : JointWrite) (db : Database) {id : String}
    {row : Report} (found : db.reports.get id = some row) :
    (write.apply now db).2.reports.get id = some row ∨
      ∃ row', (write.apply now db).2.reports.get id = some row' ∧
        ReportChange row (.joint write) (.ok (write.apply now db).1) row' := by
  have key := Table.get_key found
  have unmoved : ∀ {wanted : String} {condition : Report → Bool} (change : Report → Report)
      (keyed : ∀ row, (change row).id = row.id), ¬(id = wanted ∧ condition row = true) →
      (db.reports.update wanted condition change keyed).get id = some row := by
    intro wanted condition change keyed missed
    rw [Table.get_update, found, Option.map_some, if_neg missed]
  have moved : ∀ {condition : Report → Bool} (change : Report → Report)
      (keyed : ∀ row, (change row).id = row.id), condition row = true →
      (db.reports.update id condition change keyed).get id = some (change row) := by
    intro condition change keyed hit
    rw [Table.get_update_same, found, Option.map_some, if_pos hit]
  cases write with
  | recordPullRequest record =>
      simp only [JointWrite.apply]
      split
      swap
      · exact .inl found
      split
      swap
      · exact .inl found
      by_cases hit : id = record.bugReportId ∧ record.holdsClaim row = true
      · obtain ⟨rfl, hit⟩ := hit
        exact .inr ⟨_, moved (PullRequestRecord.writeReport now) (fun _ => rfl) hit,
          .recorded record now key.symm hit⟩
      · exact .inl (unmoved (PullRequestRecord.writeReport now) (fun _ => rfl) hit)
  | prSettle settlement =>
      simp only [JointWrite.apply]
      by_cases hit : id = settlement.bugReportId ∧ PrSettlement.committed row = true
      · obtain ⟨rfl, hit⟩ := hit
        have matched : db.reports.matched settlement.bugReportId PrSettlement.committed = true :=
          Table.matched_iff.mpr ⟨row, found, hit⟩
        rw [matched]
        exact .inr ⟨_, moved _ (settlement.write_report_id now) hit,
          .settled settlement now key.symm hit⟩
      · exact .inl (unmoved _ (settlement.write_report_id now) hit)
  | reopenForAction reportId actionId message =>
      simp only [JointWrite.apply]
      split
      swap
      · exact .inl found
      split
      swap
      · exact .inl found
      by_cases hit : id = reportId ∧ (row.status == .closed) = true
      · obtain ⟨rfl, hit⟩ := hit
        refine .inr ⟨_, moved (reopenReport now) (fun _ => rfl) hit, ?_⟩
        rw [← key]
        exact .reopened actionId message now (by simpa using hit)
      · exact .inl (unmoved (reopenReport now) (fun _ => rfl) hit)

theorem op_report {self fresh : Nat} {op : Op} {before after : World}
    {answer : Except Exn op.Ans} (moves : OpMoves self fresh before op answer after) {id : String}
    {row : Report} (found : before.db.reports.get id = some row) :
    after.db.reports.get id = some row ∨
      ∃ row', after.db.reports.get id = some row' ∧ ReportChange row op answer row' := by
  cases moves with
  | report write clock accepted => exact report_written _ write _ found
  | joint write clock => exact report_joint _ write _ found
  | _ => exact .inl found

theorem restart_report (boot : Boot) (world : World) (id : String) :
    (world.restart boot).db.reports.get id = (world.db.reports.get id).map fun row =>
      if row.status.stageClaim then { row with status := row.status.rollback, updatedAt := boot.clock }
      else row := by
  simp only [World.restart, releaseOrphanedClaims, rollBackClaims]
  exact Table.get_update_all _ _ _ _ _

end Bugalizer
