import Bugalizer.Db.Wrapped

/-!
# What a call under `retry_on_locked` has done when it returns

Every wrapped function against every pattern of locked statements and commits. A pattern lands
a write where it stops an attempt after its statements: the write stays in the open transaction,
or is committed already where only the reading after it was stopped, and the next attempt finds
it. The call is then right only where its write does not mind.
-/

namespace Bugalizer.Wrapped

set_option autoImplicit false

open Store Sql Coroutine Program

inductive Call where
  | reportUpdateStatus (id : String) (new : BugStatus) (reason : Option String)
      (expected : Option BugStatus)
  | tryClaimReport (id : String) (expected new : BugStatus) (token : Option String)
  | releaseOrphanedClaims
  | adoptClaim (id : String) (observed : Option String) (token : String)
  | releaseClaim (id token : String)
  | reportUpdateFields (id : String) (fields : ReportFields)
  | analysisCreate (new : NewAnalysis)
  | analysisUpdate (id : String) (fields : AnalysisFields)
  | fixProposalCreate (new : NewFixProposal)
  | fixProposalRecordPushIntent (proposalId sha branch : String)
  | recordPullRequest (record : PullRequestRecord)
  | prCheckRecord (proposalId : String) (check : PrCheck)
  | prSettle (settlement : PrSettlement)
  | resetStageRetries (reportId : String)
  | tokenUsageCreate (new : NewTokenUsage)
  | ingestCommit (projectId : String) (generation : Nat) (step : Ingest.PollStep)
  | triageResultStage (reportId projectId fingerprint : String) (payload : Payload)
  | triageResultUpdate (reportId : String) (fields : TriageResultFields)
  | triageActionReserve (actionId projectId reportId : String) (kind : Kind) (params : Json)
      (requestedByUserId : Option String)
  | triageActionDeleteReserved (actionId : String)
  | triageActionUpdate (actionId : String) (expected : Option LedgerPhase)
      (fields : TriageActionFields)
  | triageActionFinish (actionId : String) (outcome : Verdict) (message : Option String)
      (steps : Option (List ActionStep)) (expected : Option LedgerPhase)
  | reopenForAction (reportId actionId message : String)
  | triageSyncStateRecord (projectId : String) (error : Option String) (unresolved : Nat)

namespace Call

/-- The tables a function works on. -/
abbrev Tables : Call → Type
  | ingestCommit .. => Ingest.Database
  | _ => Database

abbrev Value : Call → Type
  | reportUpdateStatus .. | reportUpdateFields .. => Option Report
  | releaseOrphanedClaims => List (BugStatus × Nat)
  | analysisCreate _ | analysisUpdate .. => Option Analysis
  | fixProposalCreate _ => Option FixProposal
  | tokenUsageCreate _ => RecordedUsage
  | ingestCommit .. => Option Nat
  | reopenForAction .. => Reopened
  | triageSyncStateRecord .. => Nat
  | tryClaimReport .. | adoptClaim .. | releaseClaim .. | prSettle _ | resetStageRetries _
  | triageActionReserve .. | triageActionUpdate .. | triageActionFinish .. => Bool
  | fixProposalRecordPushIntent .. | recordPullRequest _ | prCheckRecord .. | triageResultStage ..
  | triageResultUpdate .. | triageActionDeleteReserved _ => Unit

def body : (call : Call) → Draws → Sql call.Tables call.Value
  | reportUpdateStatus id new reason expected => Wrapped.reportUpdateStatus id new reason expected
  | tryClaimReport id expected new token => Wrapped.tryClaimReport id expected new token
  | releaseOrphanedClaims => Wrapped.releaseOrphanedClaims
  | adoptClaim id observed token => Wrapped.adoptClaim id observed token
  | releaseClaim id token => Wrapped.releaseClaim id token
  | reportUpdateFields id fields => Wrapped.reportUpdateFields id fields
  | analysisCreate new => Wrapped.analysisCreate new
  | analysisUpdate id fields => Wrapped.analysisUpdate id fields
  | fixProposalCreate new => Wrapped.fixProposalCreate new
  | fixProposalRecordPushIntent proposalId sha branch =>
      Wrapped.fixProposalRecordPushIntent proposalId sha branch
  | recordPullRequest record => Wrapped.recordPullRequest record
  | prCheckRecord proposalId check => Wrapped.prCheckRecord proposalId check
  | prSettle settlement => Wrapped.prSettle settlement
  | resetStageRetries reportId => Wrapped.resetStageRetries reportId
  | tokenUsageCreate new => Wrapped.tokenUsageCreate new
  | ingestCommit projectId generation step => Wrapped.ingestCommit projectId generation step
  | triageResultStage reportId projectId fingerprint payload =>
      Wrapped.triageResultStage reportId projectId fingerprint payload
  | triageResultUpdate reportId fields => Wrapped.triageResultUpdate reportId fields
  | triageActionReserve actionId projectId reportId kind params user =>
      Wrapped.triageActionReserve actionId projectId reportId kind params user
  | triageActionDeleteReserved actionId => Wrapped.triageActionDeleteReserved actionId
  | triageActionUpdate actionId expected fields => Wrapped.triageActionUpdate actionId expected fields
  | triageActionFinish actionId outcome message steps expected =>
      Wrapped.triageActionFinish actionId outcome message steps expected
  | reopenForAction reportId actionId message => Wrapped.reopenForAction reportId actionId message
  | triageSyncStateRecord projectId error unresolved =>
      Wrapped.triageSyncStateRecord projectId error unresolved

/-- `delays`, in milliseconds. -/
def delays : List Nat := [100, 200, 400]

/-- The call through the decorator: attempt `n` draws `draws n`, and the pattern says of each of
its operations whether the database is locked. -/
def retryOnLocked (call : Call) (faults : Nat → Nat → Bool) (draws : Nat → Draws)
    (conn : Connection call.Tables) : Except SqlError call.Value × Connection call.Tables :=
  retrying faults (fun number => call.body (draws number)) delays 0 conn

/-- The tables a call may take effect on: what its connection sees at its start. `with conn:`
rolls back whatever it finds open as well. -/
def bases : (call : Call) → Connection call.Tables → List call.Tables
  | releaseOrphanedClaims, conn => [conn.view, conn.committed]
  | _, conn => [conn.view]

/-- The statements before the commit, for the functions that roll nothing back. -/
def writes : Call → Nat
  | triageSyncStateRecord .. => 2
  | _ => 1

def reads : Call → Bool
  | reportUpdateStatus .. | reportUpdateFields .. | analysisCreate _ | analysisUpdate ..
  | fixProposalCreate _ | triageSyncStateRecord .. => true
  | _ => false

/-- The pattern stops an attempt at its commit or at its reading, and those before it earlier. -/
def Landed (call : Call) (faults : Nat → Nat → Bool) : Prop :=
  ∃ number, (∀ earlier < number, ∃ op < call.writes, faults earlier op = true) ∧
    (∀ op < call.writes, faults number op = false) ∧
    (faults number call.writes = true ∨
      call.reads = true ∧ faults number (call.writes + 1) = true)

/-- The calls that their own write changes: what inserts or counts, and what is conditional on a
value it changes. -/
def fragile : (call : Call) → call.Tables → Bool
  | reportUpdateStatus id new _ expected, db =>
      (db.reports.get id).any fun row => expected == some row.status && new != row.status
  | tryClaimReport id expected new _, db =>
      (db.reports.get id).any fun row => row.status == expected && new != expected
  | adoptClaim id observed token, db =>
      (db.reports.get id).any fun row =>
        row.status == .fixApproved && row.claimToken == observed && observed != some token
  | releaseClaim id token, db =>
      (db.reports.get id).any fun row => row.status == .fixApproved && row.claimToken == some token
  | analysisCreate _, _ | fixProposalCreate _, _ | tokenUsageCreate _, _ => true
  | resetStageRetries reportId, db => db.stages.analyses.rows.any (failedAttempt reportId)
  | triageActionReserve actionId .., db => (db.ledger.get actionId).isNone
  | triageActionUpdate actionId expected fields, db =>
      (db.ledger.get actionId).any fun row =>
        expected == some row.phase && fields.phase.any (· != row.phase)
  | triageActionFinish actionId _ _ _ expected, db =>
      (db.ledger.get actionId).any fun row =>
        row.phase != .finished && expected.all (· == row.phase)
  | triageSyncStateRecord _ error _, _ => error.isSome
  | _, _ => false

end Call

section Shapes

variable {Value : Type}

abbrev byCount (write : Draws → Statement Database) (answer : Nat → Value) :
    Written Database Draws Value where
  write := write
  answer _ count := .inl (answer count)
  reads := false
  reading _ _ right := Bool.noConfusion right

abbrev byReading (write : Draws → Statement Database) (query : Draws → Database → Value) :
    Written Database Draws Value where
  write := write
  answer draws _ := .inr (query draws)
  reads := true
  reading _ _ _ := rfl

theorem by_count_unit (write : Draws → Statement Database) :
    (byCount write fun _ => ()).body = fun draws => (execute (write draws)).bind fun _ => commit := by
  funext draws
  simp only [Written.body, Written.main, bind_eq, pure_eq]
  congr 1
  funext count
  exact bind_done commit

end Shapes

abbrev statusWritten (id : String) (new : BugStatus) (reason : Option String)
    (expected : Option BugStatus) : Written Database Draws (Option Report) where
  write := reportStatement (.updateStatus id new reason expected)
  answer _ count :=
    if expected.isSome && count != 1 then .inl none else .inr fun db => db.reports.get id
  reads := true
  reading _ _ _ := rfl

theorem status_written_body (id : String) (new : BugStatus) (reason : Option String)
    (expected : Option BugStatus) :
    (statusWritten id new reason expected).body = reportUpdateStatus id new reason expected := by
  funext draws
  simp only [Written.body, Written.main, reportUpdateStatus]
  congr 1
  funext count
  congr 1
  funext committed
  cases chosen : expected.isSome && count != 1 <;> rfl

theorem ensure_state_twice (projectId : String) (db : Database) :
    ensureState projectId (ensureState projectId db) = ensureState projectId db := by
  cases inserted : db.outbox.syncStates.insert ⟨projectId, none, none, none, 0, 0⟩ with
  | none => simp [ensureState, inserted]
  | some states =>
      have taken : states.insert ⟨projectId, none, none, none, 0, 0⟩ = none := by
        cases again : states.insert ⟨projectId, none, none, none, 0, 0⟩ with
        | none => rfl
        | some other =>
            have free := Table.insert_free again
            rw [Table.get_insert inserted] at free
            simp at free
      simp [ensureState, inserted, taken]

abbrev stateWritten (projectId : String) (error : Option String) (unresolved : Nat) :
    Written Database Draws Nat where
  prepare := some ⟨ensureState projectId, ensure_state_twice projectId⟩
  write := recordState projectId error unresolved
  answer _ _ := .inr fun db =>
    (db.outbox.syncStates.get projectId).elim 0 TriageSyncState.consecutiveFailures
  reads := true
  reading _ _ _ := rfl

variable {Value : Type}

theorem change_twice (write : ReportWrite) (first second : Nat) (row : Report) :
    write.change second (write.change first row) = write.change second row := by
  cases write with
  | updateStatus id new reason expected => cases reason <;> rfl
  | delete id expectedStatus expectedToken => rfl
  | tryClaim id expected new token => cases token <;> rfl
  | adoptClaim id observed token => rfl
  | releaseClaim id token => rfl
  | updateFields id fields =>
      simp only [ReportWrite.change, ReportFields.write]
      cases fields.analysisMode <;> cases fields.severity <;> cases fields.featureArea <;> rfl

theorem report_again {write : ReportWrite} {db after : Database} {draws next : Draws} {count : Nat}
    (settled : ∀ row, db.reports.get write.reportId = some row → write.condition row = true →
      ∀ now, write.condition (write.change now row) = true)
    (wrote : reportStatement write draws db = some (count, after)) :
    reportStatement write next after = reportStatement write next db := by
  simp only [reportStatement] at wrote ⊢
  split at wrote
  · rename_i accepted
    cases wrote
    have keeps : ∀ row, db.reports.get write.reportId = some row → write.condition row = true →
        write.condition (write.change draws.now row) = true :=
      fun row found met => settled row found met draws.now
    have hits : write.hits (write.apply draws.now db.reports) = write.hits db.reports :=
      Table.matched_update keeps _
    have applied : write.apply next.now (write.apply draws.now db.reports) =
        write.apply next.now db.reports :=
      Table.update_twice keeps _ _ fun row _ _ => change_twice write _ _ row
    simp only [hits, applied]
  · cases wrote

theorem report_absorbs {written : Written Database Draws Value} (write : ReportWrite) {base : Database}
    (unprepared : written.prepare = none) (writes : written.write = reportStatement write)
    (settled : ∀ row, base.reports.get write.reportId = some row → write.condition row = true →
      ∀ now, write.condition (write.change now row) = true) :
    written.Absorbs base := by
  apply Written.absorbs_of_again unprepared
  intro draws next count after wrote
  rw [writes] at wrote ⊢
  exact report_again settled wrote

/-- An update of one row by a change that undoes itself, in whichever table `put` puts it. -/
theorem stage_again {write : StageWrite} {db after : Database} {draws next : Draws} {count : Nat}
    (free : ∀ db, referenced write db = true)
    (twice : ∀ {answer stages}, write.apply draws.now (draws.ids 0) db.stages = some (answer, stages) →
      write.apply next.now (next.ids 0) stages = write.apply next.now (next.ids 0) db.stages)
    (wrote : stageStatement write draws db = some (count, after)) :
    stageStatement write next after = stageStatement write next db := by
  simp only [stageStatement, free, if_true, Option.map_eq_some_iff, Prod.mk.injEq] at wrote ⊢
  obtain ⟨⟨answer, stages⟩, applied, -, rfl⟩ := wrote
  simp only [twice applied]

theorem always_settled {Row Key : Type} {key : Row → Key} [DecidableEq Key]
    (table : Table Row Key key) (wanted : Key) (change : Row → Row)
    (keyed : ∀ row, key (change row) = key row) (next : Row → Row)
    (rekeyed : ∀ row, key (next row) = key row) (undone : ∀ row, next (change row) = next row) :
    (table.update wanted (fun _ => true) change keyed).update wanted (fun _ => true) next rekeyed =
      table.update wanted (fun _ => true) next rekeyed :=
  Table.update_twice (fun _ _ _ => rfl) keyed rekeyed fun row _ _ => undone row

theorem analysis_update_twice (id : String) (fields : AnalysisFields) {stages left : Stages}
    {first second : Nat} {fresh again : String} {answer : Unit}
    (applied : (StageWrite.analysisUpdate id fields).apply first fresh stages = some (answer, left)) :
    (StageWrite.analysisUpdate id fields).apply second again left =
      (StageWrite.analysisUpdate id fields).apply second again stages := by
  simp only [StageWrite.apply] at applied ⊢
  split at applied
  · cases applied
    simp only
    rw [always_settled]
    intro row
    simp only [AnalysisFields.write]
    cases fields.llm <;> rfl
  · cases applied

theorem push_intent_twice (id sha branch : String) {stages left : Stages} {first second : Nat}
    {fresh again : String} {answer : Unit}
    (applied : (StageWrite.recordPushIntent id sha branch).apply first fresh stages = some (answer, left)) :
    (StageWrite.recordPushIntent id sha branch).apply second again left =
      (StageWrite.recordPushIntent id sha branch).apply second again stages := by
  simp only [StageWrite.apply] at applied ⊢
  cases applied
  simp only
  rw [always_settled]
  exact fun row => rfl

theorem pr_check_twice (id : String) (check : PrCheck) {stages left : Stages} {first second : Nat}
    {fresh again : String} {answer : Unit}
    (applied : (StageWrite.prCheckRecord id check).apply first fresh stages = some (answer, left)) :
    (StageWrite.prCheckRecord id check).apply second again left =
      (StageWrite.prCheckRecord id check).apply second again stages := by
  cases check with
  | isOpen =>
      simp only [StageWrite.apply] at applied ⊢
      cases applied
      simp only
      rw [always_settled]
      exact fun row => rfl
  | failed code =>
      simp only [StageWrite.apply] at applied ⊢
      cases applied
      simp only
      rw [always_settled]
      exact fun row => rfl

theorem result_stage_twice (reportId projectId fingerprint : String) (payload : Payload)
    (first second : Nat) (outbox : Outbox) :
    ((OutboxWrite.triageResultStage reportId projectId fingerprint payload).apply second
        ((OutboxWrite.triageResultStage reportId projectId fingerprint payload).apply first outbox).2).2 =
      ((OutboxWrite.triageResultStage reportId projectId fingerprint payload).apply second outbox).2 := by
  obtain ⟨results, syncStates⟩ := outbox
  cases inserted : results.insert (OutboxWrite.newResult reportId projectId fingerprint payload) with
  | some staged =>
      have found := Table.get_insert inserted reportId
      rw [if_pos (show (OutboxWrite.newResult reportId projectId fingerprint payload).reportId = reportId
        from rfl)] at found
      have taken : staged.insert (OutboxWrite.newResult reportId projectId fingerprint payload) = none := by
        rw [Table.insert_taken]
        exact (congrArg Option.isSome found).trans rfl
      simp only [OutboxWrite.apply, inserted, taken]
      rw [Table.update_fixed]
      intro row here met
      rw [found] at here
      cases here
      rfl
  | none =>
      have taken : (results.update reportId (fun _ => true)
          (fun row => { row with
            fingerprint, payload, revision := payload.revision
            failedFingerprint := none, lastError := none })
          fun _ => rfl).insert (OutboxWrite.newResult reportId projectId fingerprint payload) = none := by
        rw [Table.insert_taken] at inserted ⊢
        rw [Table.get_update]
        simpa using inserted
      simp only [OutboxWrite.apply, inserted, taken]
      rw [always_settled]
      exact fun row => rfl

theorem result_update_twice (reportId : String) (fields : TriageResultFields) (first second : Nat)
    (outbox : Outbox) :
    ((OutboxWrite.triageResultUpdate reportId fields).apply second
        ((OutboxWrite.triageResultUpdate reportId fields).apply first outbox).2).2 =
      ((OutboxWrite.triageResultUpdate reportId fields).apply second outbox).2 := by
  have twice : ∀ row, fields.write (fields.write row) = fields.write row := by
    intro row
    simp only [TriageResultFields.write]
    cases fields.revision <;> cases fields.ackedFingerprint <;> cases fields.failedFingerprint <;> rfl
  have same := always_settled outbox.results reportId fields.write (fun _ => rfl) fields.write
    (fun _ => rfl) twice
  exact congrArg (fun results => ({ outbox with results } : Outbox)) same

theorem getD_twice {Field : Type} (set : Option Field) (stored : Field) :
    set.getD (set.getD stored) = set.getD stored := by
  cases set <;> rfl

theorem or_twice {Field : Type} (set stored : Option Field) : set.or (set.or stored) = set.or stored := by
  cases set <;> rfl

theorem fields_twice (fields : TriageActionFields) (row : TriageAction) :
    fields.write (fields.write row) = fields.write row := by
  simp only [TriageActionFields.write, getD_twice, or_twice]

theorem ledger_update_again {actionId : String} {expected : Option LedgerPhase}
    {fields : TriageActionFields} {db after : Database} {draws next : Draws} {count : Nat}
    (settled : ∀ row, db.ledger.get actionId = some row →
      (LedgerWrite.update actionId expected fields).condition row = true →
        (LedgerWrite.update actionId expected fields).condition (fields.write row) = true)
    (wrote : ledgerStatement (.update actionId expected fields) draws db = some (count, after)) :
    ledgerStatement (.update actionId expected fields) next after =
      ledgerStatement (.update actionId expected fields) next db := by
  cases wrote
  have keyed : ∀ row, (fields.write row).actionId = row.actionId := fun _ => rfl
  have matched := Table.matched_update settled keyed
  have twice := Table.update_twice settled keyed keyed fun row _ _ => fields_twice fields row
  have reported := congrArg rowcount matched
  have stored := congrArg (fun ledger => ({ db with ledger } : Database)) twice
  exact congrArg some (Prod.ext reported stored)

theorem ledger_missed {write : LedgerWrite} {now : Nat} {ledger : TriageActions}
    (missed : (write.apply now ledger).1 = false) : (write.apply now ledger).2 = ledger := by
  have unmet : ∀ {condition : TriageAction → Bool} {row : TriageAction} {id : String},
      ledger.matched id condition = false → ledger.get id = some row → condition row = true → False := by
    intro condition row id missed found met
    simp [Table.matched, found, met] at missed
  cases write with
  | reserve actionId projectId reportId kind params user =>
      simp only [LedgerWrite.apply] at missed ⊢
      split at missed
      · cases missed
      · rfl
  | deleteReserved actionId =>
      apply Table.delete_all_unhit
      intro row member
      by_contra hit
      simp only [Bool.and_eq_true, decide_eq_true_eq, Bool.not_eq_false] at hit
      exact unmet missed (hit.1 ▸ Table.mem_get member) hit.2
  | update actionId expected fields =>
      exact Table.update_fixed (LedgerWrite.change_id now _) fun row found met =>
        (unmet missed found met).elim
  | finish actionId outcome message steps expected =>
      exact Table.update_fixed (LedgerWrite.change_id now _) fun row found met =>
        (unmet missed found met).elim

theorem ledger_absorbs {written : Written Database Draws Value} (write : LedgerWrite) {base : Database}
    (unprepared : written.prepare = none) (writes : written.write = ledgerStatement write)
    (missed : ∀ now, (write.apply now base.ledger).1 = false) : written.Absorbs base := by
  apply Written.absorbs_of_again unprepared
  intro draws next count after wrote
  rw [writes] at wrote ⊢
  cases wrote
  rw [ledger_missed (missed draws.now)]

theorem count_hit (hit : Bool) : (rowcount hit == 1) = hit := by
  cases hit <;> rfl

/-- A conditional write of a report that no longer meets the condition once written. -/
theorem hits_after {write : ReportWrite} {db : Database} {now : Nat}
    (changes : ∀ row, write.condition row = true → write.condition (write.change now row) = false) :
    write.hits (write.apply now db.reports) = false := by
  simp only [ReportWrite.hits, Table.matched, ReportWrite.get_apply]
  cases found : db.reports.get write.reportId with
  | none => rfl
  | some row =>
      by_cases met : write.condition row = true
      · simp [met, changes row met]
      · simp [met]

theorem claim_spoils {write : ReportWrite} {base : Database} (hit : write.hits base.reports = true)
    (changes : ∀ row now, write.condition row = true → write.condition (write.change now row) = false) :
    (byCount (reportStatement write) (· == 1)).Spoils base fun db => write.hits db.reports = false := by
  apply Written.spoils_of_hit rfl (fun db : Database => write.hits db.reports) false hit
  · intro draws count db after wrote
    simp only [reportStatement] at wrote
    split at wrote
    · cases wrote
      exact hits_after fun row => changes row draws.now
    · cases wrote
  · intro draws count db after missed wrote
    simp only [reportStatement] at wrote
    split at wrote
    · cases wrote
      simp only [Written.value, count_hit, missed]
    · cases wrote
  · intro draws count db after hits wrote
    refine ⟨?_, fun reads => Bool.noConfusion reads⟩
    simp only [reportStatement] at wrote
    split at wrote
    · cases wrote
      simp only [Written.value, count_hit, hits]
      decide
    · cases wrote

theorem ledger_spoils {write : LedgerWrite} {base : Database} {refused : Bool}
    (hit : TriageActions → Bool) (here : hit base.ledger = true)
    (reports : ∀ ledger now, (write.apply now ledger).1 = hit ledger)
    (falls : ∀ ledger now, hit (write.apply now ledger).2 = false) :
    (byCount (fun draws db => if refused then none else ledgerStatement write draws db) (· == 1)).Spoils
      base fun db => hit db.ledger = false := by
  apply Written.spoils_of_hit rfl (fun db : Database => hit db.ledger) false here
  · intro draws count db after wrote
    simp only at wrote
    split at wrote
    · cases wrote
    · cases wrote
      exact falls db.ledger draws.now
  · intro draws count db after missed wrote
    simp only at wrote
    split at wrote
    · cases wrote
    · cases wrote
      simp only [Written.value, count_hit, reports, missed]
  · intro draws count db after hits wrote
    refine ⟨?_, fun reads => Bool.noConfusion reads⟩
    simp only at wrote
    split at wrote
    · cases wrote
    · cases wrote
      simp only [Written.value, count_hit, reports, hits]
      decide

theorem status_spoils {id : String} {new expected : BugStatus} {reason : Option String}
    {base : Database} (apart : new ≠ expected)
    (hit : (ReportWrite.updateStatus id new reason (some expected)).hits base.reports = true) :
    (statusWritten id new reason (some expected)).Spoils base fun db =>
      (ReportWrite.updateStatus id new reason (some expected)).hits db.reports = false := by
  have wins : ∀ {draws : Draws} {count : Nat} {db after : Database},
      (ReportWrite.updateStatus id new reason (some expected)).hits db.reports = true →
        (statusWritten id new reason (some expected)).write draws db = some (count, after) →
          count = 1 ∧ (after.reports.get id).isSome := by
    intro draws count db after hits wrote
    cases wrote
    refine ⟨by rw [hits]; rfl, ?_⟩
    obtain ⟨row, found, -⟩ := Table.matched_iff.mp hits
    change ((ReportWrite.apply draws.now _ db.reports).get id).isSome
    rw [ReportWrite.get_apply, show db.reports.get id = some row from found]
    rfl
  apply Written.spoils_of_hit rfl
    (fun db : Database => (ReportWrite.updateStatus id new reason (some expected)).hits db.reports) none hit
  · intro draws count db after wrote
    cases wrote
    apply hits_after
    intro row met
    simpa [ReportWrite.condition, ReportWrite.change] using apart.symm
  · intro draws count db after missed wrote
    cases wrote
    simp [Written.value, missed, rowcount]
  · intro draws count db after hits wrote
    obtain ⟨one, present⟩ := wins hits wrote
    subst one
    refine ⟨?_, fun _ => rfl⟩
    intro lost
    rw [show after.reports.get id = none from lost] at present
    cases present

theorem reset_spoils {reportId : String} {base : Database}
    (failed : base.stages.analyses.rows.any (failedAttempt reportId) = true) :
    (byCount (fun _ : Draws => deleteFailed reportId) fun count => decide (0 < count)).Spoils base
      fun db => db.stages.analyses.rows.any (failedAttempt reportId) = false := by
  have deleted : ∀ {count : Nat} {db after : Database}, deleteFailed reportId db = some (count, after) →
      count = (db.stages.analyses.select (failedAttempt reportId)).length ∧
        after.stages.analyses.rows.any (failedAttempt reportId) = false := by
    intro count db after wrote
    simp only [deleteFailed] at wrote
    split at wrote
    · cases wrote
    · cases wrote
      simp [Table.deleteAll]
  apply Written.spoils_of_hit rfl
    (fun db : Database => db.stages.analyses.rows.any (failedAttempt reportId)) false failed
  · intro draws count db after wrote
    exact (deleted wrote).2
  · intro draws count db after none_failed wrote
    obtain ⟨rfl, -⟩ := deleted wrote
    simpa [Written.value, Table.select] using none_failed
  · intro draws count db after some_failed wrote
    obtain ⟨rfl, -⟩ := deleted wrote
    refine ⟨?_, fun reads => Bool.noConfusion reads⟩
    simpa [Written.value, Table.select] using some_failed

theorem stage_grows {write : StageWrite} {draws : Draws} {db after : Database} {count : Nat}
    (size : Stages → Nat)
    (grows : ∀ {answer stages}, write.apply draws.now (draws.ids 0) db.stages = some (answer, stages) →
      size stages = size db.stages + 1)
    (wrote : stageStatement write draws db = some (count, after)) :
    size after.stages = size db.stages + 1 := by
  simp only [stageStatement] at wrote
  split at wrote
  · simp only [Option.map_eq_some_iff, Prod.mk.injEq] at wrote
    obtain ⟨⟨answer, stages⟩, applied, -, rfl⟩ := wrote
    exact grows applied
  · cases wrote

theorem insert_length {Row Key : Type} {key : Row → Key} [DecidableEq Key]
    {table next : Table Row Key key} {row : Row} (inserted : table.insert row = some next) :
    next.rows.length = table.rows.length + 1 := by
  rw [Indexed.insert_rows inserted, List.length_append, List.length_singleton]

theorem analysis_spoils (new : NewAnalysis) (base : Database) :
    (byReading (stageStatement (.analysisCreate new)) fun draws db =>
      db.stages.analyses.get (draws.ids 0)).Spoils base
        fun db => base.stages.analyses.rows.length < db.stages.analyses.rows.length := by
  apply Written.spoils_of_count rfl (fun db : Database => db.stages.analyses.rows.length)
  · intro draws count db after wrote
    apply stage_grows (fun stages => stages.analyses.rows.length) _ wrote
    intro answer stages applied
    simp only [StageWrite.apply, Option.map_eq_some_iff, Prod.mk.injEq] at applied
    obtain ⟨analyses, inserted, -, rfl⟩ := applied
    exact insert_length inserted
  · exact fun _ _ _ => rfl

theorem proposal_spoils (new : NewFixProposal) (base : Database) :
    (byReading (stageStatement (.fixProposalCreate new)) fun draws db =>
      db.stages.proposals.get (draws.ids 0)).Spoils base
        fun db => base.stages.proposals.rows.length < db.stages.proposals.rows.length := by
  apply Written.spoils_of_count rfl (fun db : Database => db.stages.proposals.rows.length)
  · intro draws count db after wrote
    apply stage_grows (fun stages => stages.proposals.rows.length) _ wrote
    intro answer stages applied
    simp only [StageWrite.apply, Option.map_eq_some_iff, Prod.mk.injEq] at applied
    obtain ⟨proposals, inserted, -, rfl⟩ := applied
    exact insert_length inserted
  · exact fun _ _ _ => rfl

theorem usage_spoils (new : NewTokenUsage) (base : Database) :
    (byCount (stageStatement (.tokenUsageCreate new)) fun _ => RecordedUsage.of new).Spoils base
      fun db => base.stages.usage.length < db.stages.usage.length := by
  apply Written.spoils_of_count rfl (fun db : Database => db.stages.usage.length)
  · intro draws count db after wrote
    apply stage_grows (fun stages => stages.usage.length) _ wrote
    intro answer stages applied
    cases applied
    simp
  · exact fun _ _ reads => Bool.noConfusion reads

def Counted (projectId : String) (least : Nat) (db : Database) : Prop :=
  ∃ row, db.outbox.syncStates.get projectId = some row ∧ least < row.consecutiveFailures

theorem ensure_state_get (projectId : String) (db : Database) :
    ∃ row, (ensureState projectId db).outbox.syncStates.get projectId = some row ∧
      row.consecutiveFailures =
        (db.outbox.syncStates.get projectId).elim 0 TriageSyncState.consecutiveFailures := by
  cases inserted : db.outbox.syncStates.insert ⟨projectId, none, none, none, 0, 0⟩ with
  | some states =>
      have free := Table.insert_free inserted
      simp only at free
      refine ⟨⟨projectId, none, none, none, 0, 0⟩, ?_, by rw [free]; rfl⟩
      simp only [ensureState, inserted, Option.getD_some]
      rw [Table.get_insert inserted, if_pos rfl]
  | none =>
      obtain ⟨row, found⟩ := Option.isSome_iff_exists.mp (Table.insert_taken.mp inserted)
      simp only at found
      refine ⟨row, ?_, by rw [found]; rfl⟩
      simp only [ensureState, inserted, Option.getD_none]
      exact found

theorem record_state_row {projectId : String} {error : Option String} {unresolved : Nat}
    {draws : Draws} {db after : Database} {count : Nat} {row : TriageSyncState}
    (found : db.outbox.syncStates.get projectId = some row)
    (wrote : recordState projectId error unresolved draws db = some (count, after)) :
    after.outbox.syncStates.get projectId = some (OutboxWrite.recordTick draws.now error unresolved row) := by
  cases wrote
  simp only
  rw [Table.get_update_same, found]
  rfl

theorem record_state_get {projectId code : String} {unresolved : Nat} {draws : Draws}
    {db after : Database} {count : Nat} {row : TriageSyncState}
    (found : db.outbox.syncStates.get projectId = some row)
    (wrote : recordState projectId (some code) unresolved draws db = some (count, after)) :
    ∃ next, after.outbox.syncStates.get projectId = some next ∧
      next.consecutiveFailures = row.consecutiveFailures + 1 :=
  ⟨_, record_state_row found wrote, rfl⟩

theorem state_spoils (projectId code : String) (unresolved : Nat) (base : Database) :
    (stateWritten projectId (some code) unresolved).Spoils base
      (Counted projectId ((base.outbox.syncStates.get projectId).elim 0
        TriageSyncState.consecutiveFailures)) := by
  have first : ∀ {draws : Draws} {count : Nat} {after : Database},
      recordState projectId (some code) unresolved draws (ensureState projectId base) =
        some (count, after) → ∃ next, after.outbox.syncStates.get projectId = some next ∧
          next.consecutiveFailures =
            (base.outbox.syncStates.get projectId).elim 0 TriageSyncState.consecutiveFailures + 1 := by
    intro draws count after wrote
    obtain ⟨row, found, start⟩ := ensure_state_get projectId base
    obtain ⟨next, stored, grown⟩ := record_state_get found wrote
    exact ⟨next, stored, by omega⟩
  constructor
  · intro draws count after wrote
    obtain ⟨next, stored, grown⟩ := first wrote
    exact ⟨next, stored, by omega⟩
  · exact fun _ _ => rfl
  · rintro db ⟨row, found, counted⟩
    obtain ⟨kept, stored, same⟩ := ensure_state_get projectId db
    rw [found] at same
    exact ⟨kept, stored, by simpa [same] using counted⟩
  · rintro draws count db after ⟨row, found, counted⟩ wrote
    obtain ⟨next, stored, grown⟩ := record_state_get found wrote
    exact ⟨next, stored, by omega⟩
  · rintro draws count db after ⟨row, found, counted⟩ wrote other ran
    obtain ⟨next, stored, grown⟩ := record_state_get found wrote
    simp only [Written.effect, Option.map_eq_some_iff, Prod.mk.injEq] at ran
    obtain ⟨⟨number, reached⟩, alone, -, rfl⟩ := ran
    obtain ⟨last, kept, once⟩ := first alone
    rw [stored] at kept
    cases kept
    omega

theorem ensure_state_present {projectId : String} {db : Database} {row : TriageSyncState}
    (found : db.outbox.syncStates.get projectId = some row) : ensureState projectId db = db := by
  have taken : db.outbox.syncStates.insert ⟨projectId, none, none, none, 0, 0⟩ = none := by
    rw [Table.insert_taken]
    exact (congrArg Option.isSome found).trans rfl
  simp [ensureState, taken]

theorem state_absorbs (projectId : String) (unresolved : Nat) (base : Database) :
    (stateWritten projectId none unresolved).Absorbs base := by
  intro draws value after ran next
  simp only [Written.effect, Option.map_eq_some_iff, Prod.mk.injEq] at ran
  obtain ⟨⟨count, reached⟩, wrote, -, rfl⟩ := ran
  obtain ⟨row, found, -⟩ := ensure_state_get projectId base
  have again : recordState projectId none unresolved next (ensureState projectId reached) =
      recordState projectId none unresolved next (ensureState projectId base) := by
    have written : recordState projectId none unresolved draws (ensureState projectId base) =
        some (count, reached) := wrote
    rw [ensure_state_present (record_state_row found written)]
    cases written
    have twice := always_settled (ensureState projectId base).outbox.syncStates projectId
      (OutboxWrite.recordTick draws.now none unresolved)
      (OutboxWrite.record_tick_id draws.now none unresolved)
      (OutboxWrite.recordTick next.now none unresolved)
      (OutboxWrite.record_tick_id next.now none unresolved) fun _ => rfl
    simp only [recordState, twice]
  have effect := congrArg (Option.map fun written : Nat × Database =>
    ((stateWritten projectId none unresolved).value next written.1 written.2, written.2)) again
  exact effect

namespace Call

variable {call : Call} {faults : Nat → Nat → Bool} {draws : Nat → Draws}
  {conn left : Connection call.Tables} {value : call.Value}

/-- The call's effect is that of one undisturbed run, and so is what it returned. -/
def AppliedOnce (call : Call) (conn : Connection call.Tables) (value : call.Value)
    (left : Connection call.Tables) : Prop :=
  ∃ base ∈ call.bases conn, Once call.body base value left

/-- The function is one write, which over these tables absorbs itself where it is not fragile, and
spoils its condition where it is. -/
def OneWrite (call : Call) (db : call.Tables) : Prop :=
  ∃ written : Written call.Tables Draws call.Value,
    written.body = call.body ∧ written.writes = call.writes ∧ written.reads = call.reads ∧
      (call.fragile db = false → written.Absorbs db) ∧
        (call.fragile db = true → ∃ Spoilt, written.Spoils db Spoilt)

theorem applied_iff_of_written (based : call.bases conn = [conn.view])
    (single : call.OneWrite conn.view)
    (returned : call.retryOnLocked faults draws conn = (.ok value, left)) :
    call.AppliedOnce conn value left ↔ ¬(call.Landed faults ∧ call.fragile conn.view = true) := by
  obtain ⟨written, same, count, reads, absorbs, spoils⟩ := single
  simp only [AppliedOnce, based, List.mem_singleton, exists_eq_left, ← same]
  have again : retrying faults (fun number => written.body (draws number)) delays 0 conn =
      (.ok value, left) := by
    rw [same]
    exact returned
  have start : written.Like conn.view conn.view := fun _ => rfl
  constructor
  · rintro once ⟨⟨number, before, passed, stopped⟩, fragile⟩
    obtain ⟨Spoilt, spoils⟩ := spoils fragile
    rw [← count, ← reads] at stopped
    rw [← count] at before passed
    exact Written.retrying_landed spoils rfl (Nat.zero_le number) before passed stopped again once
  · intro sound
    cases fragile : call.fragile conn.view with
    | false => exact Written.retrying_absorbs (absorbs fragile) start again
    | true =>
        apply Written.retrying_unlanded start _ _ again
        · intro earlier sooner
          exact absurd sooner (Nat.not_lt_zero earlier)
        · intro landed
          apply sound
          refine ⟨?_, fragile⟩
          simpa only [Written.Landed, Landed, count, reads] using landed

theorem applied_iff_of_atomic (atomic : Atomic call.body call.bases)
    (sturdy : call.fragile conn.view = false)
    (returned : call.retryOnLocked faults draws conn = (.ok value, left)) :
    call.AppliedOnce conn value left ↔ ¬(call.Landed faults ∧ call.fragile conn.view = true) := by
  constructor
  · rintro - ⟨-, fragile⟩
    rw [sturdy] at fragile
    cases fragile
  · intro _
    exact retrying_atomic atomic returned

theorem record_atomic (record : PullRequestRecord) :
    Atomic (recordPullRequest record).body (recordPullRequest record).bases := by
  apply transaction_atomic
  intro draws
  apply inner_closing (inner_perform rfl)
  intro count
  split
  · trivial
  · apply inner_closing (inner_perform rfl)
    intro count
    split
    · trivial
    · exact closing_perform rfl fun _ => ⟨(), rfl⟩

theorem settle_atomic (settlement : PrSettlement) :
    Atomic (prSettle settlement).body (prSettle settlement).bases := by
  apply transaction_atomic
  intro draws
  apply inner_closing (inner_perform rfl)
  intro count
  apply inner_closing (inner_perform rfl)
  intro settled
  exact closing_perform rfl fun _ => ⟨_, rfl⟩

theorem reopen_atomic (reportId actionId message : String) :
    Atomic (reopenForAction reportId actionId message).body
      (reopenForAction reportId actionId message).bases := by
  apply transaction_atomic
  intro draws
  apply inner_closing (inner_perform rfl)
  intro count
  split
  · exact closing_perform rfl fun _ => ⟨_, rfl⟩
  · apply inner_closing (inner_perform rfl)
    intro finished
    split <;> exact closing_perform rfl fun _ => ⟨_, rfl⟩

theorem interrupted_inner (draws : Draws) (reportIds : List String) (index : Nat) :
    Inner (recordInterrupted draws reportIds index) ∧ Viewed (recordInterrupted draws reportIds index) := by
  induction reportIds generalizing index with
  | nil => exact ⟨trivial, trivial⟩
  | cons reportId reportIds ih =>
      constructor
      · exact inner_bind (inner_perform rfl) fun _ => (ih (index + 1)).1
      · exact viewed_bind (viewed_perform rfl) fun _ => (ih (index + 1)).2

theorem roll_back_inner (draws : Draws) (claims : List (BugStatus × BugStatus)) :
    Inner (rollBackEach draws claims) ∧ Viewed (rollBackEach draws claims) := by
  induction claims with
  | nil => exact ⟨trivial, trivial⟩
  | cons claim claims ih =>
      constructor
      · apply inner_bind (inner_perform rfl)
        intro count
        exact inner_bind ih.1 fun _ => trivial
      · apply viewed_bind (viewed_perform rfl)
        intro count
        exact viewed_bind ih.2 fun _ => trivial

theorem release_inner (draws : Draws) : Inner (releaseEach draws) ∧ Viewed (releaseEach draws) := by
  constructor
  · apply inner_bind (inner_perform rfl)
    intro failed
    apply inner_bind (inner_perform rfl)
    intro db
    apply inner_bind (interrupted_inner draws _ 0).1
    intro recorded
    exact (roll_back_inner draws orphanedClaimRollback).1
  · apply viewed_bind (viewed_perform rfl)
    intro failed
    apply viewed_bind (viewed_perform rfl)
    intro db
    apply viewed_bind (interrupted_inner draws _ 0).2
    intro recorded
    exact (roll_back_inner draws orphanedClaimRollback).2

theorem release_atomic : Atomic releaseOrphanedClaims.body releaseOrphanedClaims.bases :=
  within_atomic (fun draws => (release_inner draws).1) fun draws => (release_inner draws).2

theorem insert_reports_inner (projectId : String) (draws : Draws) (rows : List Ingest.ImportRow)
    (index : Nat) : Inner (insertReports projectId draws rows index) := by
  induction rows generalizing index with
  | nil => trivial
  | cons row rows ih =>
      apply inner_bind (inner_perform rfl)
      intro count
      exact inner_bind (ih (index + 1)) fun _ => trivial

theorem ingest_atomic (projectId : String) (generation : Nat) (step : Ingest.PollStep) :
    Atomic (ingestCommit projectId generation step).body
      (ingestCommit projectId generation step).bases := by
  apply fencing_atomic
  intro draws
  apply inner_closing (inner_perform rfl)
  intro db
  split
  · exact closing_perform rfl fun _ => ⟨_, rfl⟩
  · apply inner_closing (inner_perform rfl)
    intro cleared
    apply inner_closing (inner_perform rfl)
    intro made
    apply inner_closing (insert_reports_inner projectId draws step.reports 0)
    intro inserted
    apply inner_closing (inner_perform rfl)
    intro updated
    exact closing_perform rfl fun _ => ⟨_, rfl⟩

theorem not_any {Row : Type} {found : Option Row} {test : Row → Bool} (unmet : found.any test = false)
    {row : Row} (here : found = some row) : test row = false := by
  rw [here] at unmet
  exact unmet

theorem any_some {Row : Type} {found : Option Row} {test : Row → Bool} (met : found.any test = true) :
    ∃ row, found = some row ∧ test row = true := by
  simpa [Option.any_eq_true] using met

theorem status_single (id : String) (new : BugStatus) (reason : Option String)
    (expected : Option BugStatus) (db : Database) :
    (reportUpdateStatus id new reason expected).OneWrite db := by
  refine ⟨_, status_written_body id new reason expected, rfl, rfl, ?_, ?_⟩
  · intro sturdy
    apply report_absorbs (.updateStatus id new reason expected) rfl rfl
    intro row found met now
    have kept := not_any sturdy found
    simp only [ReportWrite.condition, ReportWrite.change] at met ⊢
    cases expected with
    | none => rfl
    | some status => simp_all
  · intro fragile
    obtain ⟨row, found, met⟩ := any_some fragile
    simp only [Bool.and_eq_true, beq_iff_eq, bne_iff_ne] at met
    obtain ⟨rfl, apart⟩ := met
    refine ⟨_, status_spoils apart ?_⟩
    exact Table.matched_iff.mpr ⟨row, found, by simp [ReportWrite.condition]⟩

theorem try_claim_single (id : String) (expected new : BugStatus) (token : Option String)
    (db : Database) : (tryClaimReport id expected new token).OneWrite db := by
  refine ⟨byCount (reportStatement (.tryClaim id expected new token)) (· == 1), rfl, rfl, rfl, ?_, ?_⟩
  · intro sturdy
    apply report_absorbs (.tryClaim id expected new token) rfl rfl
    intro row found met now
    have kept := not_any sturdy found
    simp_all [ReportWrite.condition, ReportWrite.change]
  · intro fragile
    obtain ⟨row, found, met⟩ := any_some fragile
    simp only [Bool.and_eq_true, beq_iff_eq, bne_iff_ne] at met
    refine ⟨_, claim_spoils (Table.matched_iff.mpr ⟨row, found, by simp [ReportWrite.condition, met]⟩) ?_⟩
    intro row now _
    simp [ReportWrite.condition, ReportWrite.change, met.2]

theorem adopt_single (id : String) (observed : Option String) (token : String) (db : Database) :
    (adoptClaim id observed token).OneWrite db := by
  refine ⟨byCount (reportStatement (.adoptClaim id observed token)) (· == 1), rfl, rfl, rfl, ?_, ?_⟩
  · intro sturdy
    apply report_absorbs (.adoptClaim id observed token) rfl rfl
    intro row found met now
    have kept := not_any sturdy found
    simp_all [ReportWrite.condition, ReportWrite.change]
  · intro fragile
    obtain ⟨row, found, met⟩ := any_some fragile
    simp only [Bool.and_eq_true, beq_iff_eq, bne_iff_ne] at met
    obtain ⟨⟨status, here⟩, apart⟩ := met
    refine ⟨_, claim_spoils (Table.matched_iff.mpr ⟨row, found, ?_⟩) ?_⟩
    · simp [ReportWrite.condition, status, here]
    · intro row now _
      simp [ReportWrite.condition, ReportWrite.change, apart.symm]

theorem release_single (id token : String) (db : Database) : (releaseClaim id token).OneWrite db := by
  refine ⟨byCount (reportStatement (.releaseClaim id token)) (· == 1), rfl, rfl, rfl, ?_, ?_⟩
  · intro sturdy
    apply report_absorbs (.releaseClaim id token) rfl rfl
    intro row found met now
    rw [show (ReportWrite.releaseClaim id token).condition row = _ from not_any sturdy found] at met
    cases met
  · intro fragile
    obtain ⟨row, found, met⟩ := any_some fragile
    refine ⟨_, claim_spoils (Table.matched_iff.mpr ⟨row, found, met⟩) ?_⟩
    intro row now _
    simp [ReportWrite.condition, ReportWrite.change]

theorem update_fields_single (id : String) (fields : ReportFields) (db : Database) :
    (reportUpdateFields id fields).OneWrite db := by
  refine ⟨byReading (reportStatement (.updateFields id fields)) fun _ db => db.reports.get id,
    rfl, rfl, rfl, ?_, ?_⟩
  · intro _
    apply report_absorbs (.updateFields id fields) rfl rfl
    intro row found met now
    rfl
  · intro fragile
    cases fragile

theorem analysis_create_single (new : NewAnalysis) (db : Database) : (analysisCreate new).OneWrite db := by
  refine ⟨byReading (stageStatement (.analysisCreate new)) fun draws db =>
    db.stages.analyses.get (draws.ids 0), rfl, rfl, rfl, ?_, ?_⟩
  · intro sturdy
    cases sturdy
  · intro _
    exact ⟨_, analysis_spoils new db⟩

theorem proposal_create_single (new : NewFixProposal) (db : Database) :
    (fixProposalCreate new).OneWrite db := by
  refine ⟨byReading (stageStatement (.fixProposalCreate new)) fun draws db =>
    db.stages.proposals.get (draws.ids 0), rfl, rfl, rfl, ?_, ?_⟩
  · intro sturdy
    cases sturdy
  · intro _
    exact ⟨_, proposal_spoils new db⟩

theorem usage_create_single (new : NewTokenUsage) (db : Database) : (tokenUsageCreate new).OneWrite db := by
  refine ⟨byCount (stageStatement (.tokenUsageCreate new)) fun _ => .of new, rfl, rfl, rfl, ?_, ?_⟩
  · intro sturdy
    cases sturdy
  · intro _
    exact ⟨_, usage_spoils new db⟩

theorem analysis_update_single (id : String) (fields : AnalysisFields) (db : Database) :
    (analysisUpdate id fields).OneWrite db := by
  refine ⟨byReading (stageStatement (.analysisUpdate id fields)) fun _ db => db.stages.analyses.get id,
    rfl, rfl, rfl, ?_, ?_⟩
  · intro _
    apply Written.absorbs_of_again rfl
    intro draws next count after wrote
    exact stage_again (fun _ => rfl) (analysis_update_twice id fields) wrote
  · intro fragile
    cases fragile

theorem push_intent_single (id sha branch : String) (db : Database) :
    (fixProposalRecordPushIntent id sha branch).OneWrite db := by
  refine ⟨byCount (stageStatement (.recordPushIntent id sha branch)) fun _ => (),
    by_count_unit _, rfl, rfl, ?_, ?_⟩
  · intro _
    apply Written.absorbs_of_again rfl
    intro draws next count after wrote
    exact stage_again (fun _ => rfl) (push_intent_twice id sha branch) wrote
  · intro fragile
    cases fragile

theorem pr_check_single (id : String) (check : PrCheck) (db : Database) :
    (prCheckRecord id check).OneWrite db := by
  refine ⟨byCount (stageStatement (.prCheckRecord id check)) fun _ => (),
    by_count_unit _, rfl, rfl, ?_, ?_⟩
  · intro _
    apply Written.absorbs_of_again rfl
    intro draws next count after wrote
    exact stage_again (fun _ => rfl) (pr_check_twice id check) wrote
  · intro fragile
    cases fragile

theorem reset_single (reportId : String) (db : Database) : (resetStageRetries reportId).OneWrite db := by
  refine ⟨byCount (fun _ => deleteFailed reportId) fun count => decide (0 < count), rfl, rfl, rfl, ?_, ?_⟩
  · intro sturdy
    apply Written.absorbs_of_again rfl
    intro draws next count after wrote
    have same : after = db := by
      simp only [deleteFailed] at wrote
      split at wrote
      · cases wrote
      · cases wrote
        have kept : db.stages.analyses.deleteAll (failedAttempt reportId) = db.stages.analyses := by
          apply Table.delete_all_unhit
          intro row member
          have unhit := List.any_eq_false.mp sturdy row member
          simpa using unhit
        rw [kept]
    rw [same]
  · intro failed
    exact ⟨_, reset_spoils failed⟩

theorem result_stage_single (reportId projectId fingerprint : String) (payload : Payload)
    (db : Database) : (triageResultStage reportId projectId fingerprint payload).OneWrite db := by
  refine ⟨byCount (resultStatement (.triageResultStage reportId projectId fingerprint payload) reportId)
    fun _ => (), by_count_unit _, rfl, rfl, ?_, ?_⟩
  · intro _
    apply Written.absorbs_of_again rfl
    intro draws next count after wrote
    simp only [resultStatement] at wrote ⊢
    split at wrote
    · cases wrote
      simp only [result_stage_twice]
    · cases wrote
  · intro fragile
    cases fragile

theorem result_update_single (reportId : String) (fields : TriageResultFields) (db : Database) :
    (triageResultUpdate reportId fields).OneWrite db := by
  refine ⟨byCount (fun draws db => some (1, { db with
      outbox := ((OutboxWrite.triageResultUpdate reportId fields).apply draws.now db.outbox).2 }))
    fun _ => (), by_count_unit _, rfl, rfl, ?_, ?_⟩
  · intro _
    apply Written.absorbs_of_again rfl
    intro draws next count after wrote
    cases wrote
    simp only [result_update_twice]
  · intro fragile
    cases fragile

theorem delete_reserved_single (actionId : String) (db : Database) :
    (triageActionDeleteReserved actionId).OneWrite db := by
  refine ⟨byCount (ledgerStatement (.deleteReserved actionId)) fun _ => (), by_count_unit _, rfl, rfl, ?_, ?_⟩
  · intro _ draws value after ran next
    simp only [Written.effect, Option.map_eq_some_iff, Prod.mk.injEq] at ran
    obtain ⟨⟨count, reached⟩, wrote, -, rfl⟩ := ran
    cases wrote
    simp [Written.effect, Written.prepared, ledgerStatement, LedgerWrite.apply, Table.delete,
      Table.delete_all_twice]
  · intro fragile
    cases fragile

/-- A reservation reports a row where the id is free, whenever it is made. -/
theorem reserve_reports (actionId projectId reportId : String) (kind : Kind) (params : Json)
    (user : Option String) (now : Nat) (ledger : TriageActions) :
    ((LedgerWrite.reserve actionId projectId reportId kind params user).apply now ledger).1 =
      (ledger.get actionId).isNone := by
  simp only [LedgerWrite.apply]
  cases found : ledger.get actionId with
  | none =>
      have free : ledger.get (LedgerWrite.reservedRow actionId projectId reportId kind params user now).actionId =
          none := found
      obtain ⟨next, inserted⟩ := Table.insert_of_free free
      simp only [inserted]
      rfl
  | some row =>
      have taken : ledger.insert (LedgerWrite.reservedRow actionId projectId reportId kind params user now) =
          none := by
        rw [Table.insert_taken]
        exact (congrArg Option.isSome found).trans rfl
      simp only [taken]
      rfl

theorem reserve_fills (actionId projectId reportId : String) (kind : Kind) (params : Json)
    (user : Option String) (now : Nat) (ledger : TriageActions) :
    (((LedgerWrite.reserve actionId projectId reportId kind params user).apply now ledger).2.get
      actionId).isNone = false := by
  simp only [LedgerWrite.apply]
  split
  · rename_i next inserted
    have found := Table.get_insert inserted actionId
    rw [if_pos (show (LedgerWrite.reservedRow actionId projectId reportId kind params user now).actionId =
      actionId from rfl)] at found
    exact (congrArg Option.isNone found).trans rfl
  · rename_i refused
    rw [Table.insert_taken] at refused
    exact Option.isNone_eq_false_iff.mpr refused

theorem reserve_single (actionId projectId reportId : String) (kind : Kind) (params : Json)
    (user : Option String) (db : Database) :
    (triageActionReserve actionId projectId reportId kind params user).OneWrite db := by
  refine ⟨byCount (ledgerStatement (.reserve actionId projectId reportId kind params user)) (· == 1),
    rfl, rfl, rfl, ?_, ?_⟩
  · intro taken
    apply ledger_absorbs (.reserve actionId projectId reportId kind params user) rfl rfl
    intro now
    rw [reserve_reports]
    exact taken
  · intro free
    exact ⟨_, @ledger_spoils _ db false (fun ledger => (ledger.get actionId).isNone) free
      (fun ledger now => reserve_reports actionId projectId reportId kind params user now ledger)
      fun ledger now => reserve_fills actionId projectId reportId kind params user now ledger⟩

theorem matched_after {ledger : TriageActions} {actionId : String} {condition : TriageAction → Bool}
    {change : TriageAction → TriageAction} (keyed : ∀ row, (change row).actionId = row.actionId)
    (leaves : ∀ row, condition row = true → condition (change row) = false) :
    (ledger.update actionId condition change keyed).matched actionId condition = false := by
  simp only [Table.matched, Table.get_update_same]
  cases found : ledger.get actionId with
  | none => rfl
  | some row =>
      by_cases met : condition row = true
      · simp [met, leaves row met]
      · simp [met]

theorem action_update_single (actionId : String) (expected : Option LedgerPhase)
    (fields : TriageActionFields) (db : Database) :
    (triageActionUpdate actionId expected fields).OneWrite db := by
  refine ⟨byCount (fun draws db => if setsNothing fields then none
    else ledgerStatement (.update actionId expected fields) draws db) (· == 1), rfl, rfl, rfl, ?_, ?_⟩
  · intro sturdy
    apply Written.absorbs_of_again rfl
    intro draws next count after wrote
    simp only at wrote ⊢
    split at wrote
    · cases wrote
    · rename_i sets
      rw [if_neg sets, if_neg sets]
      apply ledger_update_again _ wrote
      intro row found met
      have kept := not_any sturdy found
      simp only [LedgerWrite.condition, TriageActionFields.write] at met ⊢
      cases expected with
      | none => rfl
      | some phase =>
          cases set : fields.phase <;> simp_all
  · intro fragile
    obtain ⟨row, found, met⟩ := any_some fragile
    simp only [Bool.and_eq_true, beq_iff_eq] at met
    obtain ⟨rfl, moves⟩ := met
    obtain ⟨phase, set, apart⟩ := any_some moves
    refine ⟨_, ledger_spoils
      (fun ledger => ledger.matched actionId (LedgerWrite.update actionId (some row.phase) fields).condition)
      (Table.matched_iff.mpr ⟨row, found, by simp [LedgerWrite.condition]⟩) (fun _ _ => rfl) ?_⟩
    intro ledger now
    apply matched_after (LedgerWrite.change_id now _)
    intro other _
    simp only [LedgerWrite.condition, LedgerWrite.change, TriageActionFields.write, set,
      Option.getD_some, Option.all_some, beq_eq_false_iff_ne]
    intro same
    exact bne_iff_ne.mp apart same.symm

theorem action_finish_single (actionId : String) (outcome : Verdict) (message : Option String)
    (steps : Option (List ActionStep)) (expected : Option LedgerPhase) (db : Database) :
    (triageActionFinish actionId outcome message steps expected).OneWrite db := by
  refine ⟨byCount (ledgerStatement (.finish actionId outcome message steps expected)) (· == 1),
    rfl, rfl, rfl, ?_, ?_⟩
  · intro sturdy
    apply ledger_absorbs (.finish actionId outcome message steps expected) rfl rfl
    intro now
    exact sturdy
  · intro fragile
    refine ⟨_, @ledger_spoils _ db false (fun ledger => ledger.matched actionId
      (LedgerWrite.finish actionId outcome message steps expected).condition) fragile
      (fun _ _ => rfl) ?_⟩
    intro ledger now
    apply matched_after (LedgerWrite.change_id now _)
    intro row _
    simp [LedgerWrite.condition, LedgerWrite.change]

theorem state_single (projectId : String) (error : Option String) (unresolved : Nat) (db : Database) :
    (triageSyncStateRecord projectId error unresolved).OneWrite db := by
  refine ⟨stateWritten projectId error unresolved, rfl, rfl, rfl, ?_, ?_⟩
  · intro sturdy
    cases error with
    | none => exact state_absorbs projectId unresolved db
    | some code => cases sturdy
  · intro fragile
    cases error with
    | none => cases fragile
    | some code => exact ⟨_, state_spoils projectId code unresolved db⟩

/-- Whatever a call under the decorator returns, its effect is that of one run, unless the pattern
stopped an attempt after its write and the write is one that its own effect changes. -/
theorem applied_once_iff (returned : call.retryOnLocked faults draws conn = (.ok value, left)) :
    call.AppliedOnce conn value left ↔ ¬(call.Landed faults ∧ call.fragile conn.view = true) := by
  cases call with
  | reportUpdateStatus id new reason expected =>
      exact applied_iff_of_written rfl (status_single id new reason expected _) returned
  | tryClaimReport id expected new token =>
      exact applied_iff_of_written rfl (try_claim_single id expected new token _) returned
  | releaseOrphanedClaims => exact applied_iff_of_atomic release_atomic rfl returned
  | adoptClaim id observed token =>
      exact applied_iff_of_written rfl (adopt_single id observed token _) returned
  | releaseClaim id token => exact applied_iff_of_written rfl (release_single id token _) returned
  | reportUpdateFields id fields =>
      exact applied_iff_of_written rfl (update_fields_single id fields _) returned
  | analysisCreate new => exact applied_iff_of_written rfl (analysis_create_single new _) returned
  | analysisUpdate id fields =>
      exact applied_iff_of_written rfl (analysis_update_single id fields _) returned
  | fixProposalCreate new => exact applied_iff_of_written rfl (proposal_create_single new _) returned
  | fixProposalRecordPushIntent proposalId sha branch =>
      exact applied_iff_of_written rfl (push_intent_single proposalId sha branch _) returned
  | recordPullRequest record => exact applied_iff_of_atomic (record_atomic record) rfl returned
  | prCheckRecord proposalId check =>
      exact applied_iff_of_written rfl (pr_check_single proposalId check _) returned
  | prSettle settlement => exact applied_iff_of_atomic (settle_atomic settlement) rfl returned
  | resetStageRetries reportId => exact applied_iff_of_written rfl (reset_single reportId _) returned
  | tokenUsageCreate new => exact applied_iff_of_written rfl (usage_create_single new _) returned
  | ingestCommit projectId generation step =>
      exact applied_iff_of_atomic (ingest_atomic projectId generation step) rfl returned
  | triageResultStage reportId projectId fingerprint payload =>
      exact applied_iff_of_written rfl (result_stage_single reportId projectId fingerprint payload _)
        returned
  | triageResultUpdate reportId fields =>
      exact applied_iff_of_written rfl (result_update_single reportId fields _) returned
  | triageActionReserve actionId projectId reportId kind params user =>
      exact applied_iff_of_written rfl (reserve_single actionId projectId reportId kind params user _)
        returned
  | triageActionDeleteReserved actionId =>
      exact applied_iff_of_written rfl (delete_reserved_single actionId _) returned
  | triageActionUpdate actionId expected fields =>
      exact applied_iff_of_written rfl (action_update_single actionId expected fields _) returned
  | triageActionFinish actionId outcome message steps expected =>
      exact applied_iff_of_written rfl (action_finish_single actionId outcome message steps expected _)
        returned
  | reopenForAction reportId actionId message =>
      exact applied_iff_of_atomic (reopen_atomic reportId actionId message) rfl returned
  | triageSyncStateRecord projectId error unresolved =>
      exact applied_iff_of_written rfl (state_single projectId error unresolved _) returned

def proposed : Report where
  id := "r"
  projectId := "p"
  title := "title"
  description := "description"
  featureArea := .null
  severity := .str "medium"
  status := .fixProposed
  analysisMode := .str "auto"
  claimToken := none
  resolutionReason := none
  externalId := none
  createdAt := 1
  updatedAt := 1

/-- One report, waiting for its pull request. -/
def waiting : Connection Database :=
  ⟨{ Database.empty with reports := ⟨[proposed], List.nodup_singleton _⟩ }, none⟩

/-- `open-pr`'s claim of it. -/
abbrev claiming : Call := .tryClaimReport "r" .fixProposed .fixApproved (some "token")

def ticking (number : Nat) : Draws := ⟨number + 2, fun _ => "id"⟩

/-- The commit of the first attempt finds the database locked. -/
def commitLocked (number op : Nat) : Bool := number == 0 && op == 1

theorem applied_once_iff_unlocked :
    claiming.AppliedOnce waiting true
      (claiming.retryOnLocked (fun _ _ => false) ticking waiting).2 := by
  have returned : claiming.retryOnLocked (fun _ _ => false) ticking waiting =
      (.ok true, (claiming.retryOnLocked (fun _ _ => false) ticking waiting).2) := by rfl
  apply (applied_once_iff returned).mpr
  rintro ⟨⟨number, -, -, locked | ⟨reads, -⟩⟩, -⟩
  · cases locked
  · cases reads

/-- The call returns `False` and its claim stands, which no run of the function does. -/
theorem claim_lost_and_committed :
    (claiming.retryOnLocked commitLocked ticking waiting).1 = .ok false ∧
      ((claiming.retryOnLocked commitLocked ticking waiting).2.committed.reports.get "r").map
        Report.claimToken = some (some "token") ∧
      ¬claiming.AppliedOnce waiting false (claiming.retryOnLocked commitLocked ticking waiting).2 := by
  refine ⟨by rfl, by rfl, ?_⟩
  rintro ⟨base, among, -, draws, ran⟩
  rw [List.mem_singleton.mp among] at ran
  have won : (attempt (fun _ => false) (claiming.body draws) ⟨waiting.view, none⟩).1 = .ok true := by rfl
  have lost := (congrArg Prod.fst ran).symm.trans won
  cases lost

end Call

end Bugalizer.Wrapped
