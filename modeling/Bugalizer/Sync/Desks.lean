import Bugalizer.ReportMoves
import Bugalizer.Sync.Pushing

/-!
# PushDesks along a run

The lock of a project's tick is held by at most one coroutine, and a report stays with its
project. So what a desk has read of a result is what the table holds, until the desk itself
writes it.
-/

namespace Bugalizer

set_option autoImplicit false

open Coroutine Store

abbrev PushShadow := Shadow Op pushConduct.Ghost World Job

def pushingOf (actor : Actor Op pushConduct.Ghost Job) : Pushing := actor.ghost

/-- The results after an answer: no clock and no tick bookkeeping goes into them. -/
def resultsAfter : (op : Op) → Except Exn op.Ans → TriageResults → TriageResults
  | .outbox write, .ok _, results => (write.apply 0 ⟨results, .empty⟩).2.results
  | _, _, results => results

def locksAfter : (op : Op) → Except Exn op.Ans → List LockName → List LockName
  | .acquire lock, .ok _, locks => lock :: locks
  | .memory (.unlock lock), .ok _, locks => locks.filter (· != lock)
  | _, _, locks => locks

section Operations

variable {self fresh : Nat} {op : Op} {answer : Except Exn op.Ans} {before after : World}

theorem outbox_results (now : Nat) (write : OutboxWrite) (outbox : Outbox) :
    (write.apply now outbox).2.results = (write.apply 0 ⟨outbox.results, .empty⟩).2.results := by
  cases write with
  | _ => rfl

theorem result_staged (results : TriageResults) (reportId projectId fingerprint : String)
    (payload : Payload) (value : Unit) :
    (resultsAfter (.outbox (.triageResultStage reportId projectId fingerprint payload)) (.ok value)
        results).get reportId =
      some (stagedResult (results.get reportId) reportId projectId fingerprint payload) :=
  (get_staged 0 ⟨results, .empty⟩ reportId projectId fingerprint payload reportId).trans (if_pos rfl)

theorem result_answered (results : TriageResults) (reportId : String) (fields : TriageResultFields)
    (value : Unit) :
    (resultsAfter (.outbox (.triageResultUpdate reportId fields)) (.ok value) results).get reportId =
      (results.get reportId).map fields.write :=
  (get_answered 0 ⟨results, .empty⟩ reportId fields reportId).trans (if_pos rfl)

theorem results_failed (op : Op) (error : Exn) (results : TriageResults) :
    resultsAfter op (.error error) results = results := by
  cases op with
  | _ => rfl

theorem op_results (moves : OpMoves self fresh before op answer after) :
    after.db.outbox.results = resultsAfter op answer before.db.outbox.results := by
  cases moves with
  | failed op error => cases op <;> rfl
  | outbox write clock => exact outbox_results _ write _
  | joint write clock =>
      show (write.apply _ _).2.outbox.results = _
      cases write with
      | recordPullRequest record =>
          simp only [JointWrite.apply]
          split
          · split
            · rfl
            · rfl
          · rfl
      | prSettle settlement => rfl
      | reopenForAction reportId actionId message =>
          simp only [JointWrite.apply]
          split
          · split
            · rfl
            · rfl
          · rfl
  | outer op answer outer => cases op <;> first | rfl | cases outer
  | _ => rfl

theorem op_locks (moves : OpMoves self fresh before op answer after) :
    after.memory.locks = locksAfter op answer before.memory.locks := by
  cases moves with
  | failed op error =>
      cases op with
      | memory asked => cases asked <;> rfl
      | _ => rfl
  | memory asked =>
      cases asked with
      | unlock lock => rfl
      | tryHold actionId reportId llm =>
          show (before.memory.tryHold _ _ _ _).2.locks = _
          unfold Memory.tryHold
          split
          · rfl
          split
          · rfl
          split
          · rfl
          · rfl
      | release actionId =>
          show (before.memory.release _ _).locks = _
          unfold Memory.release
          split
          · rfl
          split
          · rfl
          · rfl
      | dropClaim reportId token =>
          simp only [MemoryCall.exec]
          split
          · rfl
          · rfl
      | _ => rfl
  | outer op answer outer => cases op <;> first | rfl | cases outer
  | _ => rfl

theorem acquired_free {lock : LockName} {env : (Op.acquire lock).Env}
    {answer : Except Exn (Op.acquire lock).Ans}
    (ran : (Op.acquire lock).exec self fresh env before = some (answer, after)) :
    lock ∉ before.memory.locks := by
  intro taken
  simp only [Op.exec] at ran
  rw [if_pos taken] at ran
  cases ran

/-- What a change of a report leaves: the project it is of and its external id. -/
theorem change_keeps_home {row row' : Report} (change : ReportChange row op answer row') :
    row'.projectId = row.projectId ∧ row'.externalId = row.externalId := by
  cases change with
  | written write now same hit => cases write <;> exact ⟨rfl, rfl⟩
  | settled settlement now same hit =>
      unfold PrSettlement.writeReport
      split
      · exact ⟨rfl, rfl⟩
      · exact ⟨rfl, rfl⟩
  | _ => exact ⟨rfl, rfl⟩

/-- A report stays, with its project and its external id. -/
theorem op_home (moves : OpMoves self fresh before op answer after) {id : String} {row : Report}
    (found : before.db.reports.get id = some row) :
    ∃ row', after.db.reports.get id = some row' ∧ row'.projectId = row.projectId ∧
      row'.externalId = row.externalId := by
  obtain still | ⟨row', found', change⟩ := op_report moves found
  · exact ⟨row, still, rfl, rfl⟩
  · exact ⟨row', found', change_keeps_home change⟩

end Operations

/-- A row is its payload's, and is ahead of it only by an acknowledgement. -/
structure TriageResult.Sound (row : TriageResult) : Prop where
  reached : row.payload.revision ≤ row.revision
  ahead : row.revision ≠ row.payload.revision → row.ackedFingerprint = some row.fingerprint

theorem staged_sound (stored : Option TriageResult) (reportId projectId fingerprint : String)
    (payload : Payload) : (stagedResult stored reportId projectId fingerprint payload).Sound where
  reached := by rw [staged_revision, staged_payload]
  ahead different := by
    rw [staged_revision, staged_payload] at different
    exact absurd rfl different

theorem stored_revision_above {body : Json} {revision stored : Int}
    (reported : storedRevision body revision = some stored) : revision ≤ stored := by
  unfold storedRevision at reported
  split at reported
  · split at reported
    · cases reported
      assumption
    · cases reported
  · cases reported

structure AnswerRecord (row : TriageResult) (response : HttpResponse) (fields : TriageResultFields) :
    Prop where
  acked : ∀ fingerprint, fields.ackedFingerprint = some fingerprint →
    fingerprint = row.fingerprint ∧ response.status = 200
  failed : ∀ fingerprint, fields.failedFingerprint = some fingerprint →
    fingerprint = row.fingerprint ∧
      (response.status = 400 ∨ response.status = 404 ∨ response.status = 413)
  revision : ∀ revision, fields.revision = some revision →
    fields.ackedFingerprint = some row.fingerprint ∧ row.payload.revision ≤ revision

theorem answer_recorded (row : TriageResult) (response : HttpResponse) (now : Nat) :
    AnswerRecord row response (answerFields row response now) := by
  unfold answerFields
  split
  · rename_i accepted
    constructor
    · intro fingerprint same
      cases same
      exact ⟨rfl, accepted⟩
    · intro fingerprint same
      cases same
    · intro revision same
      exact ⟨rfl, stored_revision_above same⟩
  split
  · rename_i refused
    constructor
    · intro fingerprint same
      cases same
    · intro fingerprint same
      cases same
      exact ⟨rfl, refused⟩
    · intro revision same
      cases same
  · constructor
    · intro fingerprint same
      cases same
    · intro fingerprint same
      cases same
    · intro revision same
      cases same

theorem answered_sound {row : TriageResult} (sound : row.Sound) (pending : row.Pending)
    (response : HttpResponse) (now : Nat) : ((answerFields row response now).write row).Sound := by
  have recorded := answer_recorded row response now
  generalize answerFields row response now = fields at recorded
  cases revised : fields.revision with
  | some revision =>
      obtain ⟨acked, above⟩ := recorded.revision revision revised
      constructor
      · show row.payload.revision ≤ fields.revision.getD row.revision
        rw [revised]
        exact above
      · intro _
        show fields.ackedFingerprint.or row.ackedFingerprint = some row.fingerprint
        rw [acked]
        rfl
  | none =>
      constructor
      · show row.payload.revision ≤ fields.revision.getD row.revision
        rw [revised]
        exact sound.reached
      · show fields.revision.getD row.revision ≠ row.payload.revision →
          fields.ackedFingerprint.or row.ackedFingerprint = some row.fingerprint
        rw [revised]
        intro different
        have acked := sound.ahead different
        obtain unacked | same := pending.2
        · exact absurd acked unacked
        · exact absurd same different

/-- The desk is honest: its lock is held, what it lists are reports of its project, and what
it knows is what is stored. -/
structure PushDesk.Honest (desk : PushDesk) (world : World) : Prop where
  locked : .tick desk.projectId ∈ world.memory.locks
  listed : ∀ report ∈ desk.listed, ∃ row, world.db.reports.get report.id = some row ∧
    row.projectId = desk.projectId ∧ row.externalId = report.externalId ∧ report.externalId.isSome
  known : ∀ reportId stored, desk.known reportId = some stored →
    desk.lists reportId ∧ world.db.outbox.results.get reportId = stored

structure PushDesks (shadow : PushShadow) : Prop where
  rows : ∀ id row, shadow.world.db.outbox.results.get id = some row → row.Sound
  found : ∀ id actor, shadow.actors id = some actor → pushingOf actor ≠ .lost
  honest : ∀ id actor desk, shadow.actors id = some actor → pushingOf actor = .under desk →
    desk.Honest shadow.world
  alone : ∀ id other actor rival desk its, shadow.actors id = some actor → shadow.actors other = some rival →
    pushingOf actor = .under desk → pushingOf rival = .under its → desk.projectId = its.projectId →
    id = other

section Invariant

variable {world world' : World} {desk : PushDesk}

theorem lists_home (honest : desk.Honest world) {reportId : String} (lists : desk.lists reportId) :
    ∃ row, world.db.reports.get reportId = some row ∧ row.projectId = desk.projectId := by
  obtain ⟨report, member, rfl⟩ := List.mem_map.mp lists
  obtain ⟨row, found, own, -⟩ := honest.listed report member
  exact ⟨row, found, own⟩

theorem opened_honest {projectId : String} (locked : .tick projectId ∈ world.memory.locks) :
    (PushDesk.opened projectId).Honest world where
  locked := locked
  listed report member := by cases member
  known reportId stored known := by cases known

variable {self fresh : Nat} {op : Op} {answer : Except Exn op.Ans}

/-- A desk stays honest through what leaves its lock and its results alone. -/
theorem honest_beside (honest : desk.Honest world) (moves : OpMoves self fresh world op answer world')
    (locked : .tick desk.projectId ∈ world'.memory.locks)
    (results : ∀ reportId, desk.lists reportId →
      world'.db.outbox.results.get reportId = world.db.outbox.results.get reportId) :
    desk.Honest world' where
  locked := locked
  listed report member := by
    obtain ⟨row, found, own, named, some⟩ := honest.listed report member
    obtain ⟨row', found', own', named'⟩ := op_home moves found
    exact ⟨row', found', own'.trans own, named'.trans named, some⟩
  known reportId stored known := by
    obtain ⟨lists, same⟩ := honest.known reportId stored known
    exact ⟨lists, (results reportId lists).trans same⟩

/-- The locks an operation leaves, if it is not the release of the desk's own. -/
theorem lock_stays {lock : LockName} (held : lock ∈ world.memory.locks)
    (moves : OpMoves self fresh world op answer world')
    (other : ∀ value, (⟨op, answer⟩ : Σ op : Op, Except Exn op.Ans) ≠ ⟨.memory (.unlock lock), .ok value⟩) :
    lock ∈ world'.memory.locks := by
  rw [op_locks moves]
  cases answer with
  | error error =>
      cases op with
      | memory asked => cases asked <;> exact held
      | _ => exact held
  | ok value =>
      cases op with
      | memory asked =>
          cases asked with
          | unlock released =>
              apply List.mem_filter.mpr
              refine ⟨held, ?_⟩
              rw [bne_iff_ne]
              intro same
              subst same
              exact other value rfl
          | _ => exact held
      | acquire taken => exact List.mem_cons_of_mem _ held
      | _ => exact held

def Op.result : Op → Option String
  | .outbox (.triageResultStage reportId ..) | .outbox (.triageResultUpdate reportId _) => some reportId
  | _ => none

theorem results_stay (op : Op) (answer : Except Exn op.Ans) (results : TriageResults) {reportId : String}
    (apart : op.result ≠ some reportId) :
    (resultsAfter op answer results).get reportId = results.get reportId := by
  cases answer with
  | error error => cases op <;> rfl
  | ok value =>
      cases op with
      | outbox write =>
          cases write with
          | triageResultStage other projectId fingerprint payload =>
              refine (get_staged 0 ⟨results, .empty⟩ other projectId fingerprint payload reportId).trans ?_
              apply if_neg
              intro same
              exact apart (same ▸ rfl)
          | triageResultUpdate other fields =>
              refine (get_answered 0 ⟨results, .empty⟩ other fields reportId).trans ?_
              apply if_neg
              intro same
              exact apart (same ▸ rfl)
          | syncStateRecord projectId error unresolved => rfl
      | _ => rfl

theorem result_listed {pushing : Pushing} {reportId : String} (found : pushing ≠ .lost)
    (allowed : pushingAllowed pushing op) (result : op.result = some reportId) :
    ∃ desk, pushing = .under desk ∧ desk.lists reportId := by
  cases op with
  | outbox write =>
      cases write with
      | triageResultStage other projectId fingerprint payload =>
          cases result
          cases pushing with
          | away => cases allowed
          | lost => cases found rfl
          | under desk => exact ⟨desk, rfl, allowed.2.1⟩
      | triageResultUpdate other fields =>
          cases result
          cases pushing with
          | away => cases allowed
          | lost => cases found rfl
          | under desk =>
              obtain ⟨report, member, same, -⟩ := allowed
              exact ⟨desk, rfl, List.mem_map.mpr ⟨report, member, same⟩⟩
      | syncStateRecord projectId error unresolved => cases result
  | _ => cases result

theorem unlock_owned {pushing : Pushing} {projectId : String} (found : pushing ≠ .lost)
    (allowed : pushingAllowed pushing (.memory (.unlock (.tick projectId)))) :
    ∃ desk, pushing = .under desk ∧ desk.projectId = projectId := by
  cases pushing with
  | away => cases allowed
  | lost => cases found rfl
  | under desk =>
      have same : projectId = desk.projectId := allowed
      exact ⟨desk, rfl, same.symm⟩

theorem rows_sound {pushing : Pushing} (rows : ∀ id row,
      world.db.outbox.results.get id = some row → row.Sound)
    (found : pushing ≠ .lost) (honest : ∀ desk, pushing = .under desk → desk.Honest world)
    (allowed : pushingAllowed pushing op) (moves : OpMoves self fresh world op answer world') {id : String}
    {row : TriageResult} (got : world'.db.outbox.results.get id = some row) : row.Sound := by
  rw [op_results moves] at got
  by_cases apart : op.result = some id
  swap
  · rw [results_stay op answer _ apart] at got
    exact rows id row got
  obtain ⟨desk, rfl, -⟩ := result_listed found allowed apart
  cases answer with
  | error error =>
      rw [results_failed] at got
      exact rows id row got
  | ok value =>
      cases op with
      | outbox write =>
          cases write with
          | triageResultStage other projectId fingerprint payload =>
              cases apart
              rw [result_staged] at got
              cases got
              exact staged_sound _ _ _ _ _
          | triageResultUpdate other fields =>
              cases apart
              obtain ⟨-, -, -, stored, response, now, known, pending, -, rfl⟩ := allowed
              obtain ⟨-, same⟩ := (honest desk rfl).known id (some stored) known
              rw [result_answered, same] at got
              cases got
              exact answered_sound (rows id stored same) pending response now
          | syncStateRecord projectId error unresolved => cases apart
      | _ => cases apart

theorem sync_reports_own (db : Database) (projectId : String) :
    (((Query.syncReports projectId).run db).map Report.id).Nodup ∧
      ∀ row ∈ (Query.syncReports projectId).run db,
        db.reports.get row.id = some row ∧ row.projectId = projectId ∧ row.externalId.isSome := by
  have perm : ((Query.syncReports projectId).run db).Perm
      (db.reports.select fun row => row.projectId == projectId && row.externalId.isSome) :=
    List.perm_insertionSort _ _
  constructor
  · rw [(perm.map _).nodup_iff]
    exact db.reports.distinct.sublist (List.filter_sublist.map _)
  · intro row member
    have member := perm.mem_iff.mp member
    obtain ⟨member, chosen⟩ := List.mem_filter.mp member
    rw [Bool.and_eq_true, beq_iff_eq] at chosen
    exact ⟨Table.mem_get member, chosen⟩

theorem listing_honest (honest : desk.Honest world) (projectId : String) :
    ∃ next, Pushing.listing projectId ((Query.syncReports projectId).run world.db) (.under desk) =
      .under next ∧ next.projectId = desk.projectId ∧ next.Honest world := by
  obtain ⟨distinct, own⟩ := sync_reports_own world.db projectId
  unfold Pushing.listing
  dsimp only
  rw [if_pos ⟨distinct, fun row member => (own row member).2⟩]
  split
  swap
  · exact ⟨desk, rfl, rfl, honest⟩
  rename_i same
  refine ⟨_, rfl, same, ?_⟩
  constructor
  · show LockName.tick projectId ∈ _
    rw [same]
    exact honest.locked
  · intro report member
    obtain ⟨found, here, named⟩ := own report member
    exact ⟨report, found, here, rfl, named⟩
  · intro reportId stored known
    cases known

theorem learns_honest {reportId : String} {stored : Option TriageResult} (honest : desk.Honest world)
    (lists : desk.lists reportId) (same : world.db.outbox.results.get reportId = stored) :
    (desk.learns reportId stored).Honest world where
  locked := honest.locked
  listed := honest.listed
  known other row known := by
    by_cases here : other = reportId
    · subst here
      rw [show (desk.learns other stored).known other = some stored from Function.update_self ..] at known
      cases known
      exact ⟨lists, same⟩
    · rw [show (desk.learns reportId stored).known other = desk.known other from
        Function.update_of_ne here ..] at known
      exact honest.known other row known

theorem reading_honest (honest : desk.Honest world) (reportId : String) :
    ∃ next, Pushing.reading reportId (world.db.outbox.results.get reportId) (.under desk) = .under next ∧
      next.projectId = desk.projectId ∧ next.Honest world := by
  unfold Pushing.reading
  dsimp only
  split
  · rename_i lists
    exact ⟨_, rfl, rfl, learns_honest honest lists rfl⟩
  · exact ⟨desk, rfl, rfl, honest⟩

theorem forgets_honest {reportId : String} (honest : desk.Honest world)
    (moves : OpMoves self fresh world op answer world')
    (locked : ∀ value, (⟨op, answer⟩ : Σ op : Op, Except Exn op.Ans) ≠
      ⟨.memory (.unlock (.tick desk.projectId)), .ok value⟩)
    (result : op.result = some reportId) : (desk.forgets reportId).Honest world' where
  locked := lock_stays honest.locked moves locked
  listed report member := by
    obtain ⟨row, found, own, named, some⟩ := honest.listed report member
    obtain ⟨row', found', own', named'⟩ := op_home moves found
    exact ⟨row', found', own'.trans own, named'.trans named, some⟩
  known other row known := by
    by_cases here : other = reportId
    · subst here
      rw [show (desk.forgets other).known other = none from Function.update_self ..] at known
      cases known
    · rw [show (desk.forgets reportId).known other = desk.known other from
        Function.update_of_ne here ..] at known
      obtain ⟨lists, same⟩ := honest.known other row known
      refine ⟨lists, ?_⟩
      rw [op_results moves, results_stay]
      · exact same
      · rw [result]
        intro same
        cases same
        exact here rfl

theorem own_desk (honest : desk.Honest world) (allowed : pushDeskAllowed desk op)
    (moves : OpMoves self fresh world op answer world')
    (sure : op.neverFails = true → ∃ value, answer = .ok value) :
    (pushingNext (.under desk) op answer = .away ∧
        ∃ value, (⟨op, answer⟩ : Σ op : Op, Except Exn op.Ans) =
          ⟨.memory (.unlock (.tick desk.projectId)), .ok value⟩) ∨
      ∃ next, pushingNext (.under desk) op answer = .under next ∧ next.projectId = desk.projectId ∧
        next.Honest world' := by
  have beside : (∀ value, (⟨op, answer⟩ : Σ op : Op, Except Exn op.Ans) ≠
      ⟨.memory (.unlock (.tick desk.projectId)), .ok value⟩) → op.result = none → desk.Honest world' := by
    intro locked apart
    refine honest_beside honest moves (lock_stays honest.locked moves locked) ?_
    intro reportId _
    rw [op_results moves]
    apply results_stay
    rw [apart]
    simp
  cases answer with
  | error error =>
      have still : desk.Honest world' := by
        cases moves with
        | failed _ _ => exact honest
        | outer _ _ _ => exact honest
      refine .inr ⟨desk, ?_, rfl, still⟩
      simp only [pushingNext]
      split
      · rename_i certain
        obtain ⟨value, same⟩ := sure certain
        cases same
      · rfl
  | ok value =>
      cases op with
      | acquire lock =>
          cases lock with
          | tick projectId => cases allowed
          | git projectId =>
              refine .inr ⟨desk, rfl, rfl, beside ?_ rfl⟩
              intro other same
              cases same
      | memory asked =>
          cases asked with
          | unlock lock =>
              cases lock with
              | tick projectId =>
                  have own : projectId = desk.projectId := allowed
                  subst own
                  exact .inl ⟨rfl, value, rfl⟩
              | git projectId =>
                  refine .inr ⟨desk, rfl, rfl, beside ?_ rfl⟩
                  intro other same
                  cases same
          | _ =>
              refine .inr ⟨desk, rfl, rfl, beside ?_ rfl⟩
              intro other same
              cases same
      | query q =>
          cases moves with
          | outer _ _ outer => cases outer
          | read _ =>
              cases q with
              | syncReports projectId => exact .inr (listing_honest honest projectId)
              | triageResultGet reportId => exact .inr (reading_honest honest reportId)
              | _ => exact .inr ⟨desk, rfl, rfl, honest⟩
      | outbox write =>
          have results := op_results moves
          cases write with
          | syncStateRecord projectId error unresolved =>
              refine .inr ⟨desk, rfl, rfl, beside ?_ rfl⟩
              intro other same
              cases same
          | triageResultStage reportId projectId fingerprint payload =>
              obtain ⟨-, lists, stored, known, -⟩ := allowed
              obtain ⟨-, same⟩ := honest.known reportId stored known
              refine .inr ⟨_, staging_known known projectId fingerprint payload, rfl, ?_⟩
              have apart : (desk.forgets reportId).Honest world' := by
                apply forgets_honest honest moves
                · intro other same
                  cases same
                · rfl
              have stored' : world'.db.outbox.results.get reportId =
                  some (stagedResult stored reportId projectId fingerprint payload) := by
                rw [results, ← same]
                exact result_staged _ _ _ _ _ _
              have relearned := (learns_honest apart lists stored').known
              simp only [PushDesk.learns, PushDesk.forgets, Function.update_idem] at relearned
              exact ⟨apart.locked, apart.listed, relearned⟩
          | triageResultUpdate reportId fields =>
              refine .inr ⟨desk.forgets reportId, rfl, rfl, forgets_honest honest moves ?_ rfl⟩
              intro other same
              cases same
      | remote asked =>
          have still : desk.Honest world' := by
            apply beside
            · intro other same
              cases same
            · rfl
          cases asked with
          | putResult endpoint externalId payload =>
              exact .inr ⟨_, rfl, rfl, still.locked, still.listed, still.known⟩
          | _ => exact .inr ⟨desk, rfl, rfl, still⟩
      | _ =>
          refine .inr ⟨desk, rfl, rfl, beside ?_ rfl⟩
          intro other same
          cases same

theorem away_desk (allowed : awayAllowed op) (sure : op.neverFails = true → ∃ value, answer = .ok value) :
    pushingNext .away op answer = .away ∨
      ∃ projectId value, (⟨op, answer⟩ : Σ op : Op, Except Exn op.Ans) =
          ⟨.acquire (.tick projectId), .ok value⟩ ∧
        pushingNext .away op answer = .under (.opened projectId) := by
  cases answer with
  | error error =>
      refine .inl ?_
      simp only [pushingNext]
      split
      · rename_i certain
        obtain ⟨value, same⟩ := sure certain
        cases same
      · rfl
  | ok value =>
      cases op with
      | acquire lock =>
          cases lock with
          | tick projectId => exact .inr ⟨projectId, value, rfl, rfl⟩
          | git projectId => exact .inl rfl
      | memory asked =>
          cases asked with
          | unlock lock => cases lock <;> exact .inl rfl
          | _ => exact .inl rfl
      | query q => cases q <;> exact .inl rfl
      | outbox write => cases write <;> exact .inl rfl
      | remote asked => cases asked <;> exact .inl rfl
      | _ => exact .inl rfl

/-- A coroutine at a desk was at a desk of the same project, or took a lock that was free. -/
theorem own_next {pushing : Pushing} {env : op.Env}
    (ran : op.exec self fresh env world = some (answer, world')) (found : pushing ≠ .lost)
    (honest : ∀ desk, pushing = .under desk → desk.Honest world) (allowed : pushingAllowed pushing op) :
    pushingNext pushing op answer = .away ∨
      ∃ next, pushingNext pushing op answer = .under next ∧ next.Honest world' ∧
        ((∃ desk, pushing = .under desk ∧ next.projectId = desk.projectId) ∨
          .tick next.projectId ∉ world.memory.locks) := by
  have sure : op.neverFails = true → ∃ value, answer = .ok value :=
    fun certain => exec_never_fails certain ran
  cases pushing with
  | lost => cases found rfl
  | away =>
      obtain away | ⟨projectId, value, same, opened⟩ := @away_desk op answer allowed sure
      · exact .inl away
      · cases same
        refine .inr ⟨_, opened, opened_honest ?_, .inr (acquired_free ran)⟩
        rw [op_locks (exec_moves ran)]
        exact List.mem_cons_self
  | under desk =>
      obtain ⟨away, -⟩ | ⟨next, at', same, kept⟩ := own_desk (honest desk rfl) allowed (exec_moves ran) sure
      · exact .inl away
      · exact .inr ⟨next, at', kept, .inl ⟨desk, rfl, same⟩⟩

end Invariant

section Steps

variable {before after : PushShadow}

theorem pusher_updated {actors : Nat → Option (Actor Op pushConduct.Ghost Job)} {id other : Nat}
    {next : Option (Actor Op pushConduct.Ghost Job)} {rival : Actor Op pushConduct.Ghost Job}
    (found : Function.update actors id next other = some rival) :
    (other = id ∧ next = some rival) ∨ (other ≠ id ∧ actors other = some rival) := by
  by_cases here : other = id
  · subst here
    rw [Function.update_self] at found
    exact .inl ⟨rfl, found⟩
  · rw [Function.update_of_ne here] at found
    exact .inr ⟨here, found⟩

theorem desks_boot (world : World)
    (sound : ∀ id row, world.db.outbox.results.get id = some row → row.Sound) :
    PushDesks (Shadow.boot pushConduct world) where
  rows := sound
  found id actor present := by cases present
  honest id actor desk present := by cases present
  alone id other actor rival desk its present := by cases present

theorem desks_quiet (held : PushDesks before) (world : after.world.db.outbox = before.world.db.outbox ∧
      after.world.db.reports = before.world.db.reports ∧
      after.world.memory.locks = before.world.memory.locks)
    (actors : ∀ id actor, after.actors id = some actor →
      (∃ old, before.actors id = some old ∧ pushingOf old = pushingOf actor) ∨ pushingOf actor = .away) :
    PushDesks after where
  rows id row got := by
    rw [world.1] at got
    exact held.rows id row got
  found id actor present lost := by
    obtain ⟨old, was, same⟩ | away := actors id actor present
    · exact held.found id old was (same.trans lost)
    · rw [away] at lost
      cases lost
  honest id actor desk present under := by
    obtain ⟨old, was, same⟩ | away := actors id actor present
    · have honest := held.honest id old desk was (same.trans under)
      constructor
      · rw [world.2.2]
        exact honest.locked
      · rw [world.2.1]
        exact honest.listed
      · rw [world.1]
        exact honest.known
    · rw [away] at under
      cases under
  alone id other actor rival desk its present elsewhere under beside same := by
    obtain ⟨old, was, here⟩ | away := actors id actor present
    · obtain ⟨older, were, there⟩ | away := actors other rival elsewhere
      · exact held.alone id other old older desk its was were (here.trans under) (there.trans beside) same
      · rw [away] at beside
        cases beside
    · rw [away] at under
      cases under

/-- The answer to a coroutine, but for a task it starts. -/
theorem desks_resumed {id : Nat} {actor : Actor Op pushConduct.Ghost Job} {op : Op} {env : op.Env}
    {answer : Except Exn op.Ans} {world : World} (held : PushDesks before)
    (present : before.actors id = some actor) (allowed : pushingAllowed (pushingOf actor) op)
    (ran : op.exec id before.fresh env before.world = some (answer, world)) :
    PushDesks (before.resume pushConduct id actor op answer world) := by
  have moves := exec_moves ran
  have found := held.found id actor present
  have mine : ∀ desk, pushingOf actor = .under desk → desk.Honest before.world :=
    fun desk under => held.honest id actor desk present under
  have own := own_next ran found mine allowed
  -- No other desk is of the project this one comes to.
  have apart : ∀ other rival its next, other ≠ id → before.actors other = some rival →
      pushingOf rival = .under its → pushingNext (pushingOf actor) op answer = .under next →
      next.projectId ≠ its.projectId := by
    intro other rival its next elsewhere present' beside under same
    obtain away | ⟨arrived, at', -, ⟨desk, here, kept⟩ | free⟩ := own
    · rw [away] at under
      cases under
    · rw [at'] at under
      cases under
      exact elsewhere (held.alone id other actor rival desk its present present' here beside
        (kept.symm.trans same)).symm
    · rw [at'] at under
      cases under
      rw [same] at free
      exact free (held.honest other rival its present' beside).locked
  constructor
  · exact fun wanted row got => rows_sound held.rows found mine allowed moves got
  · intro other rival there lost
    obtain ⟨rfl, same⟩ | ⟨-, was⟩ := pusher_updated there
    · cases same
      have lost : pushingNext (pushingOf actor) op answer = .lost := lost
      obtain away | ⟨next, at', -⟩ := own
      · rw [away] at lost
        cases lost
      · rw [at'] at lost
        cases lost
    · exact held.found other rival was lost
  · intro other rival desk there under
    obtain ⟨rfl, same⟩ | ⟨elsewhere, was⟩ := pusher_updated there
    · cases same
      have under : pushingNext (pushingOf actor) op answer = .under desk := under
      obtain away | ⟨next, at', honest, -⟩ := own
      · rw [away] at under
        cases under
      · rw [at'] at under
        cases under
        exact honest
    · have honest := held.honest other rival desk was under
      apply honest_beside honest moves
      · apply lock_stays honest.locked moves
        intro value same
        cases same
        obtain ⟨mine, here, same⟩ := unlock_owned found allowed
        exact elsewhere (held.alone id other actor rival mine desk present was here under same).symm
      · intro reportId lists
        rw [op_results moves]
        apply results_stay
        intro result
        obtain ⟨its, here, listed⟩ := result_listed found allowed result
        obtain ⟨row, got, same⟩ := lists_home honest lists
        obtain ⟨row', got', same'⟩ := lists_home (mine its here) listed
        rw [got] at got'
        cases got'
        exact elsewhere (held.alone id other actor rival its desk present was here under
          (same'.symm.trans same)).symm
  · intro one other actor' rival desk its there elsewhere under beside same
    obtain ⟨rfl, here⟩ | ⟨here, was⟩ := pusher_updated there
    · obtain ⟨rfl, -⟩ | ⟨apart', were⟩ := pusher_updated elsewhere
      · rfl
      · cases here
        exact absurd same (apart other rival its desk apart' were beside under)
    · obtain ⟨rfl, mine'⟩ | ⟨-, were⟩ := pusher_updated elsewhere
      · cases mine'
        exact absurd same.symm (apart one actor' desk its here was under beside)
      · exact held.alone one other actor' rival desk its was were under beside same

theorem desks_step {event : Ev} (held : PushDesks before)
    (moves : ShadowMoves pushConduct before event after) : PushDesks after := by
  cases moves with
  | started job rooted =>
      refine desks_quiet held ⟨?_, ?_, ?_⟩ ?_
      · rfl
      · rfl
      · rfl
      intro id actor present
      obtain ⟨-, same⟩ | ⟨-, was⟩ := pusher_updated present
      · cases same
        exact .inr rfl
      · exact .inl ⟨actor, was, rfl⟩
  | issued id actor op found running allowed suspends awake =>
      refine desks_quiet held ⟨?_, ?_, ?_⟩ ?_
      · rfl
      · rfl
      · rfl
      intro other rival present
      obtain ⟨rfl, same⟩ | ⟨-, was⟩ := pusher_updated present
      · cases same
        exact .inl ⟨actor, found, rfl⟩
      · exact .inl ⟨rival, was, rfl⟩
  | answered id actor op env answer world found running permitted ready pending ran =>
      have executed : op.exec id before.fresh env before.world = some (answer, world) := ran
      have resumed := desks_resumed held found permitted executed
      cases op with
      | createTask created job =>
          refine desks_quiet resumed ⟨?_, ?_, ?_⟩ ?_
          · rfl
          · rfl
          · rfl
          intro other rival present
          obtain ⟨-, same⟩ | ⟨-, was⟩ := pusher_updated present
          · cases same
            exact .inr rfl
          · exact .inl ⟨rival, was, rfl⟩
      | _ => exact resumed
  | ended id actor found running awake finished =>
      refine desks_quiet held ⟨?_, ?_, ?_⟩ ?_
      · rfl
      · rfl
      · rfl
      intro other rival present
      obtain ⟨-, same⟩ | ⟨-, was⟩ := pusher_updated present
      · cases same
      · exact .inl ⟨rival, was, rfl⟩
  | restarted boot =>
      constructor
      · exact held.rows
      · intro other rival present
        cases present
      · intro other rival desk present
        cases present
      · intro other one rival actor desk its present
        cases present

/-- The invariant rule for what rests on the desks: what every step keeps holds along the run. -/
theorem run_desks {world : World} {events : List Ev} {last : Sys}
    (run : Run bugalizer (State.boot world) events last)
    (sound : ∀ id row, world.db.outbox.results.get id = some row → row.Sound)
    {holds : List Ev → PushShadow → Prop} (initially : holds [] (Shadow.boot pushConduct world))
    (keep : ∀ past before event after, PushDesks before → holds past before →
      ShadowMoves pushConduct before event after → holds (past ++ [event]) after) :
    ∃ shadow, Shades pushConduct last shadow ∧ PushDesks shadow ∧ holds events shadow := by
  induction run with
  | nil => exact ⟨_, shades_boot world, desks_boot world sound, initially⟩
  | snoc before stepped ih =>
      obtain ⟨shadow, shades, desks, held⟩ := ih
      obtain ⟨after, moved, shaded⟩ := moves_shadowed shades stepped
      exact ⟨after, shaded, desks_step desks moved, keep _ _ _ _ desks held moved⟩

end Steps

end Bugalizer
