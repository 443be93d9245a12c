import Bugalizer.Pipeline.Eligibility
import Bugalizer.Sync.Jobs

/-!
# What a push rests on

A tick pushes the results of a project under the lock of that project. What it has read of a
result stays so until it writes it, so that a payload is staged above the revision that was
read, and what is sent is what is staged. The ghost of a coroutine is the desk it pushes from.
-/

namespace Bugalizer

set_option autoImplicit false

open Coroutine Program Store

/-- The row `triage_result_stage` leaves. -/
def stagedResult (stored : Option TriageResult) (reportId projectId fingerprint : String)
    (payload : Payload) : TriageResult :=
  match stored with
  | none => OutboxWrite.newResult reportId projectId fingerprint payload
  | some row =>
      { row with
        fingerprint, payload, revision := payload.revision
        failedFingerprint := none, lastError := none }

/-- What `_push` records of the answer to a payload. -/
def answerFields (row : TriageResult) (response : HttpResponse) (now : Nat) : TriageResultFields :=
  if response.status = 200 then
    { ackedFingerprint := some row.fingerprint, lastStatus := 200, lastError := none
      pushedAt := now, revision := storedRevision (jsonBody response) row.payload.revision }
  else if response.status = 400 ∨ response.status = 404 ∨ response.status = 413 then
    { failedFingerprint := some row.fingerprint, lastStatus := response.status
      lastError := some ("http_" ++ toString response.status), pushedAt := now }
  else
    { lastStatus := response.status
      lastError := some ("unexpected_status:" ++ toString response.status), pushedAt := now }

section Staged

variable (stored : Option TriageResult) (reportId projectId fingerprint : String) (payload : Payload)

@[simp] theorem staged_payload :
    (stagedResult stored reportId projectId fingerprint payload).payload = payload := by
  cases stored with
  | _ => rfl

@[simp] theorem staged_revision :
    (stagedResult stored reportId projectId fingerprint payload).revision = payload.revision := by
  cases stored with
  | _ => rfl

@[simp] theorem staged_fingerprint :
    (stagedResult stored reportId projectId fingerprint payload).fingerprint = fingerprint := by
  cases stored with
  | _ => rfl

@[simp] theorem staged_failed :
    (stagedResult stored reportId projectId fingerprint payload).failedFingerprint = none := by
  cases stored with
  | _ => rfl

theorem staged_acked : (stagedResult stored reportId projectId fingerprint payload).ackedFingerprint =
    stored.bind TriageResult.ackedFingerprint := by
  cases stored with
  | _ => rfl

end Staged

theorem get_staged (now : Nat) (outbox : Outbox) (reportId projectId fingerprint : String)
    (payload : Payload) (wanted : String) :
    ((OutboxWrite.triageResultStage reportId projectId fingerprint payload).apply now
        outbox).2.results.get wanted =
      if wanted = reportId then
        some (stagedResult (outbox.results.get reportId) reportId projectId fingerprint payload)
      else outbox.results.get wanted := by
  simp only [OutboxWrite.apply]
  cases inserted : outbox.results.insert (OutboxWrite.newResult reportId projectId fingerprint payload) with
  | some next =>
      have free := Table.insert_free inserted
      have same : OutboxWrite.newResult reportId projectId fingerprint payload =
          stagedResult (outbox.results.get reportId) reportId projectId fingerprint payload := by
        rw [show outbox.results.get reportId = none from free]
        rfl
      rw [Table.get_insert inserted, same]
      by_cases here : wanted = reportId
      · rw [if_pos here, if_pos]
        rw [← same, here]
        rfl
      · rw [if_neg here, if_neg]
        rw [← same]
        exact fun keyed => here keyed.symm
  | none =>
      obtain ⟨row, found⟩ := Option.isSome_iff_exists.mp (Table.insert_taken.mp inserted)
      have found : outbox.results.get reportId = some row := found
      by_cases here : wanted = reportId
      · subst here
        rw [Table.get_update_same, found, if_pos rfl]
        rfl
      · rw [Table.get_update_other _ _ _ _ here, if_neg here]

theorem get_answered (now : Nat) (outbox : Outbox) (reportId : String) (fields : TriageResultFields)
    (wanted : String) :
    ((OutboxWrite.triageResultUpdate reportId fields).apply now outbox).2.results.get wanted =
      if wanted = reportId then (outbox.results.get reportId).map fields.write
      else outbox.results.get wanted := by
  by_cases here : wanted = reportId
  · subst here
    rw [if_pos rfl]
    exact Table.get_update_same _ _ _ fields.write fun _ => rfl
  · rw [if_neg here]
    exact Table.get_update_other _ _ fields.write (fun _ => rfl) here

/-- What a coroutine under the lock of a project has listed, read and sent. -/
structure PushDesk where
  projectId : String
  listed : List Report
  known : String → Option (Option TriageResult)
  sent : Option (String × Payload × HttpResponse)

namespace PushDesk

def opened (projectId : String) : PushDesk := ⟨projectId, [], fun _ => none, none⟩

def lists (desk : PushDesk) (reportId : String) : Prop := reportId ∈ desk.listed.map Report.id

def learns (desk : PushDesk) (reportId : String) (stored : Option TriageResult) : PushDesk :=
  { desk with known := Function.update desk.known reportId (some stored) }

def forgets (desk : PushDesk) (reportId : String) : PushDesk :=
  { desk with known := Function.update desk.known reportId none, sent := none }

end PushDesk

/-- `away` holds no lock of a tick; `lost` is what no run reaches. -/
inductive Pushing where
  | away
  | under (desk : PushDesk)
  | lost

def TriageResult.Pending (row : TriageResult) : Prop :=
  row.failedFingerprint ≠ some row.fingerprint ∧
    (row.ackedFingerprint ≠ some row.fingerprint ∨ row.revision = row.payload.revision)

open Classical in
/-- The rows of `sync_reports` are reports of the project, each listed once. -/
noncomputable def Pushing.listing (projectId : String) (rows : List Report) : Pushing → Pushing
  | under desk =>
      if (rows.map Report.id).Nodup ∧
          ∀ row ∈ rows, row.projectId = projectId ∧ row.externalId.isSome then
        if projectId = desk.projectId then under { PushDesk.opened projectId with listed := rows }
        else under desk
      else lost
  | pushing => pushing

open Classical in
noncomputable def Pushing.reading (reportId : String) (stored : Option TriageResult) : Pushing → Pushing
  | under desk => if desk.lists reportId then under (desk.learns reportId stored) else under desk
  | pushing => pushing

def Pushing.staging (reportId projectId fingerprint : String) (payload : Payload) : Pushing → Pushing
  | under desk =>
      match desk.known reportId with
      | some stored =>
          under (desk.learns reportId
            (some (stagedResult stored reportId projectId fingerprint payload)))
      | none => lost
  | pushing => pushing

def Pushing.sending (externalId : String) (payload : Payload) (response : HttpResponse) :
    Pushing → Pushing
  | under desk => under { desk with sent := some (externalId, payload, response) }
  | pushing => pushing

def Pushing.filing (reportId : String) : Pushing → Pushing
  | under desk => under (desk.forgets reportId)
  | pushing => pushing

noncomputable def pushingNext (pushing : Pushing) (op : Op) (answer : Except Exn op.Ans) : Pushing :=
  match op, answer with
  | .acquire (.tick projectId), .ok _ => .under (.opened projectId)
  | .memory (.unlock (.tick _)), .ok _ => .away
  | .query (.syncReports projectId), .ok rows => pushing.listing projectId rows
  | .query (.triageResultGet reportId), .ok stored => pushing.reading reportId stored
  | .outbox (.triageResultStage reportId projectId fingerprint payload), .ok _ =>
      pushing.staging reportId projectId fingerprint payload
  | .outbox (.triageResultUpdate reportId _), .ok _ => pushing.filing reportId
  | .remote (.putResult _ externalId payload), .ok response =>
      pushing.sending externalId payload response
  | op, .error _ => if op.neverFails then .lost else pushing
  | _, .ok _ => pushing

/-- A payload is staged above the revision read, sent as it is staged, and its answer recorded. -/
def pushDeskAllowed (desk : PushDesk) : Op → Prop
  | .acquire (.tick _) => False
  | .memory (.unlock (.tick projectId)) => projectId = desk.projectId
  | .outbox (.triageResultStage reportId projectId _ payload) =>
      projectId = desk.projectId ∧ desk.lists reportId ∧
        ∃ stored, desk.known reportId = some stored ∧ ∀ row, stored = some row → row.revision < payload.revision
  | .outbox (.triageResultUpdate reportId fields) =>
      ∃ report ∈ desk.listed, report.id = reportId ∧ ∃ row response now,
        desk.known reportId = some (some row) ∧ row.Pending ∧
        desk.sent = some (report.externalId.getD "", row.payload, response) ∧
        fields = answerFields row response now
  | .remote (.putResult _ externalId payload) =>
      ∃ report ∈ desk.listed, report.externalId.getD "" = externalId ∧
        ∃ row, desk.known report.id = some (some row) ∧ row.Pending ∧ row.payload = payload
  | _ => True

def awayAllowed : Op → Prop
  | .memory (.unlock (.tick _)) => False
  | .outbox (.triageResultStage ..) | .outbox (.triageResultUpdate ..) => False
  | .remote (.putResult ..) => False
  | _ => True

def pushingAllowed : Pushing → Op → Prop
  | .away, op => awayAllowed op
  | .under desk, op => pushDeskAllowed desk op
  | .lost, _ => True

noncomputable abbrev pushings : Discipline Op Op.Ans Exn where
  Ghost := Pushing
  allowed := pushingAllowed
  next := pushingNext

/-- Under the lock of the project, or lost. -/
def Pushing.Inside (projectId : String) (pushing : Pushing) : Prop :=
  (∃ desk, pushing = .under desk ∧ desk.projectId = projectId) ∨ pushing = .lost

def Pushing.Gone (pushing : Pushing) : Prop := pushing = .away ∨ pushing = .lost

def bystandRealms : List Realm :=
  [.look, .row, .reports, .stages, .attempts, .strays, .ledger, .reopening, .projects, .slots, .claims,
    .git, .tally, .outside, .verdicts, .marks, .deeds, .proposals]

theorem bystander_allowed {op : Op} (quiet : within bystandRealms op) (pushing : Pushing) :
    pushingAllowed pushing op := by
  cases pushing with
  | lost => trivial
  | away =>
      cases op with
      | memory asked =>
          cases asked with
          | unlock lock => cases lock <;> trivial
          | _ => trivial
      | outbox write => cases write <;> trivial
      | remote asked => cases asked <;> trivial
      | _ => trivial
  | under desk =>
      cases op with
      | memory asked =>
          cases asked with
          | unlock lock => cases lock <;> trivial
          | _ => trivial
      | acquire lock => cases lock <;> trivial
      | outbox write => cases write <;> trivial
      | remote asked => cases asked <;> trivial
      | _ => trivial

theorem listing_inside {projectId wanted : String} {rows : List Report} {pushing : Pushing}
    (inside : pushing.Inside projectId) : (pushing.listing wanted rows).Inside projectId := by
  obtain ⟨desk, rfl, same⟩ | rfl := inside
  · unfold Pushing.listing
    dsimp only
    split
    · split
      · rename_i here
        exact .inl ⟨_, rfl, here.trans same⟩
      · exact .inl ⟨desk, rfl, same⟩
    · exact .inr rfl
  · exact .inr rfl

theorem reading_inside {projectId reportId : String} {stored : Option TriageResult} {pushing : Pushing}
    (inside : pushing.Inside projectId) : (pushing.reading reportId stored).Inside projectId := by
  obtain ⟨desk, rfl, same⟩ | rfl := inside
  · unfold Pushing.reading
    dsimp only
    split
    · exact .inl ⟨_, rfl, same⟩
    · exact .inl ⟨desk, rfl, same⟩
  · exact .inr rfl

/-- A bystander's operation only reads, as far as a desk can tell. -/
theorem bystander_next {op : Op} (quiet : within bystandRealms op) (pushing : Pushing)
    (answer : Except Exn op.Ans) :
    pushingNext pushing op answer = pushing ∨ pushingNext pushing op answer = .lost ∨
      (∃ projectId rows, pushingNext pushing op answer = pushing.listing projectId rows) ∨
      ∃ reportId stored, pushingNext pushing op answer = pushing.reading reportId stored := by
  cases answer with
  | error error =>
      simp only [pushingNext]
      split
      · exact .inr (.inl rfl)
      · exact .inl rfl
  | ok value =>
      cases op with
      | query q =>
          cases q with
          | syncReports projectId => exact .inr (.inr (.inl ⟨projectId, value, rfl⟩))
          | triageResultGet reportId => exact .inr (.inr (.inr ⟨reportId, value, rfl⟩))
          | _ => exact .inl rfl
      | memory asked =>
          cases asked with
          | unlock lock => cases lock <;> first | exact .inl rfl | cases quiet
          | _ => exact .inl rfl
      | acquire lock => cases lock <;> first | exact .inl rfl | cases quiet
      | outbox write => cases write <;> first | exact .inl rfl | cases quiet
      | remote asked => cases asked <;> first | exact .inl rfl | cases quiet
      | _ => exact .inl rfl

section Quiet

variable {Result : Type} {body : Py Result} {projectId : String} {pushing : Pushing}

theorem bystander_inside (only : body.Only (within bystandRealms)) (inside : pushing.Inside projectId) :
    body.Follows pushings pushing (fun _ => Pushing.Inside projectId)
      (fun _ => Pushing.Inside projectId) := by
  apply only.follows pushings (Pushing.Inside projectId)
  · intro reached op _ quiet
    exact bystander_allowed quiet reached
  · intro reached op answer inside quiet
    show (pushingNext reached op answer).Inside projectId
    obtain same | same | ⟨wanted, rows, same⟩ | ⟨reportId, stored, same⟩ := bystander_next quiet reached answer
    · rw [same]
      exact inside
    · exact .inr same
    · rw [same]
      exact listing_inside inside
    · rw [same]
      exact reading_inside inside
  · exact inside

theorem bystander_gone (only : body.Only (within bystandRealms)) (gone : pushing.Gone) :
    body.Follows pushings pushing (fun _ => Pushing.Gone) (fun _ => Pushing.Gone) := by
  apply only.follows pushings Pushing.Gone
  · intro reached op _ quiet
    exact bystander_allowed quiet reached
  · intro reached op answer gone quiet
    show (pushingNext reached op answer).Gone
    obtain same | same | ⟨wanted, rows, same⟩ | ⟨reportId, stored, same⟩ := bystander_next quiet reached answer
    · rw [same]
      exact gone
    · exact .inr same
    · rw [same]
      obtain rfl | rfl := gone
      · exact .inl rfl
      · exact .inr rfl
    · rw [same]
      obtain rfl | rfl := gone
      · exact .inl rfl
      · exact .inr rfl
  · exact gone

theorem inside_then {Second : Type} {rest : Result → Py Second} (inside : pushing.Inside projectId)
    (only : body.Only (within bystandRealms))
    (later : ∀ result (reached : Pushing), reached.Inside projectId →
      (rest result).Follows pushings reached (fun _ => Pushing.Inside projectId)
        (fun _ => Pushing.Inside projectId)) :
    (body.bind rest).Follows pushings pushing (fun _ => Pushing.Inside projectId)
      (fun _ => Pushing.Inside projectId) :=
  (bystander_inside only inside).andThen later fun _ _ inside => inside

theorem under_tick_lock {body : Py Unit} (gone : pushing.Gone)
    (follows : ∀ reached : Pushing, reached.Inside projectId →
      body.Follows pushings reached (fun _ => Pushing.Inside projectId)
        (fun _ => Pushing.Inside projectId)) :
    (underLock (.tick projectId) body).Follows pushings pushing (fun _ => Pushing.Gone)
      (fun _ => Pushing.Gone) := by
  have unlocks : ∀ reached : Pushing, reached.Inside projectId →
      (ask (.memory (.unlock (.tick projectId)))).Follows pushings reached (fun _ => Pushing.Gone)
        (fun _ => Pushing.Gone) := by
    intro reached inside
    apply (follows_perform pushings _ reached _).mpr
    refine ⟨?_, fun _ => .inl rfl, fun _ => .inr rfl⟩
    obtain ⟨desk, rfl, same⟩ | rfl := inside
    · exact same.symm
    · trivial
  apply (follows_bind ..).mpr
  apply (follows_perform pushings _ pushing _).mpr
  refine ⟨?_, fun _ => ?_, fun _ => .inr rfl⟩
  · obtain rfl | rfl := gone
    · trivial
    · trivial
  · exact (follows _ (.inl ⟨_, rfl, rfl⟩)).ensured (fun _ => unlocks) fun _ => unlocks

end Quiet

structure PushDesk.Due (desk : PushDesk) (todo : Todo) : Prop where
  listed : todo.report ∈ desk.listed
  known : desk.known todo.report.id = some todo.stored
  again : ∀ row, todo.core = none → todo.stored = some row → row.fingerprint = todo.fingerprint ∧
    row.ackedFingerprint ≠ some row.fingerprint ∧ row.failedFingerprint ≠ some row.fingerprint

section Push

variable {settings : Settings} {project : Project} {projectId : String}

structure PushDesk.Turned (before : PushDesk) (reportIds : List String) (after : PushDesk) : Prop where
  same : after.projectId = before.projectId
  listed : after.listed = before.listed
  known : ∀ other, other ∉ reportIds → after.known other = before.known other

theorem PushDesk.Due.turned {before after : PushDesk} {todo : Todo} {reportIds : List String}
    (due : before.Due todo) (turned : before.Turned reportIds after) (other : todo.report.id ∉ reportIds) :
    after.Due todo where
  listed := turned.listed ▸ due.listed
  known := (turned.known _ other).trans due.known
  again := due.again

def Pushing.Turns (before : PushDesk) (reportId : String) (pushing : Pushing) : Prop :=
  (∃ after, pushing = .under after ∧ before.Turned [reportId] after) ∨ pushing = .lost

structure PushDesk.Holds (before : PushDesk) (todo : Todo) (row : TriageResult) (after : PushDesk) : Prop where
  turned : before.Turned [todo.report.id] after
  known : after.known todo.report.id = some (some row)
  pending : row.Pending
  named : row.fingerprint = todo.fingerprint

/-- A payload is ready to be sent, or the coroutine is lost. -/
def Pushing.Ready (before : PushDesk) (todo : Todo) (payload : Payload) (pushing : Pushing) : Prop :=
  (∃ after row, pushing = .under after ∧ before.Holds todo row after ∧ row.payload = payload) ∨
    pushing = .lost

def Pushing.Answered (before : PushDesk) (todo : Todo) (payload : Payload) (answer : Nat × Json)
    (pushing : Pushing) : Prop :=
  (∃ after row response, pushing = .under after ∧ before.Holds todo row after ∧ row.payload = payload ∧
    after.sent = some (todo.report.externalId.getD "", payload, response) ∧ answer = (response.status, jsonBody response)) ∨
    pushing = .lost

theorem lost_next_lost {op : Op} (here : within [.look, .deliveries, .outbox] op)
    (answer : Except Exn op.Ans) : pushingNext .lost op answer = .lost := by
  cases answer with
  | error error =>
      simp only [pushingNext]
      split
      · rfl
      · rfl
  | ok value =>
      cases op with
      | query q => cases q <;> rfl
      | memory asked =>
          cases asked with
          | unlock lock => cases lock <;> cases here
          | _ => rfl
      | acquire lock => cases lock <;> cases here
      | outbox write => cases write <;> rfl
      | remote asked => cases asked <;> rfl
      | _ => rfl

theorem push_lost {Result : Type} {body : Py Result} {returns : Result → Pushing → Prop}
    {raises : Exn → Pushing → Prop} (only : body.Only (within [.look, .deliveries, .outbox]))
    (good : ∀ result, returns result .lost) (bad : ∀ error, raises error .lost) :
    body.Follows pushings Pushing.lost returns raises := by
  refine only.stays ?_ good bad
  intro op here
  exact ⟨trivial, lost_next_lost here⟩

theorem turned_refl (desk : PushDesk) (reportIds : List String) : desk.Turned reportIds desk where
  same := rfl
  listed := rfl
  known _ _ := rfl

theorem turned_learns {before after : PushDesk} {reportId : String} (turned : before.Turned [reportId] after)
    (stored : Option TriageResult) : before.Turned [reportId] (after.learns reportId stored) where
  same := turned.same
  listed := turned.listed
  known other apart := by
    show Function.update after.known reportId _ other = _
    rw [Function.update_of_ne (List.ne_of_not_mem_cons apart)]
    exact turned.known other apart

theorem turned_forgets {before after : PushDesk} {reportId : String} (turned : before.Turned [reportId] after) :
    before.Turned [reportId] (after.forgets reportId) where
  same := turned.same
  listed := turned.listed
  known other apart := by
    show Function.update after.known reportId _ other = _
    rw [Function.update_of_ne (List.ne_of_not_mem_cons apart)]
    exact turned.known other apart

theorem staging_known {desk : PushDesk} {reportId : String} {stored : Option TriageResult}
    (known : desk.known reportId = some stored) (projectId fingerprint : String) (payload : Payload) :
    Pushing.staging reportId projectId fingerprint payload (.under desk) =
      .under (desk.learns reportId
        (some (stagedResult stored reportId projectId fingerprint payload))) := by
  simp only [Pushing.staging, known]

theorem staged_ready (desk : PushDesk) (todo : Todo) (payload : Payload) (stored : Option TriageResult)
    (projectId : String) :
    Pushing.Ready desk todo payload (.under (desk.learns todo.report.id
      (some (stagedResult stored todo.report.id projectId todo.fingerprint payload)))) := by
  have pending : (stagedResult stored todo.report.id projectId todo.fingerprint payload).Pending := by
    constructor
    · rw [staged_failed]
      intro same
      cases same
    · rw [staged_revision, staged_payload]
      exact .inr rfl
  exact .inl ⟨_, _, rfl, ⟨turned_learns (turned_refl _ _) _, Function.update_self .., pending,
    staged_fingerprint ..⟩, staged_payload ..⟩

theorem stage_push_follows {desk : PushDesk} {todo : Todo} (due : desk.Due todo)
    (own : project.id = desk.projectId) :
    (stagePush project todo).Follows pushings (.under desk) (fun payload => Pushing.Ready desk todo payload)
      (fun _ => Pushing.Turns desk todo.report.id) := by
  have listed : desk.lists todo.report.id := List.mem_map_of_mem due.listed
  have still : Pushing.Turns desk todo.report.id (.under desk) := .inl ⟨desk, rfl, turned_refl _ _⟩
  obtain ⟨stamp, report, fingerprint, core, stored⟩ := todo
  cases core with
  | some core =>
      apply (follows_bind ..).mpr
      apply (follows_perform pushings _ _ _).mpr
      refine ⟨trivial, fun now => ?_, fun _ => .inr rfl⟩
      apply (follows_bind ..).mpr
      apply (follows_perform pushings _ _ _).mpr
      refine ⟨⟨own, listed, stored, due.known, ?_⟩, fun _ => ?_, fun _ => still⟩
      · intro row same
        show row.revision < max (stored.elim (-1) TriageResult.revision + 1) (now : Int)
        rw [same]
        show row.revision < max (row.revision + 1) (now : Int)
        omega
      · have known : desk.known report.id = some stored := due.known
        show Pushing.Ready desk _ _ (Pushing.staging report.id project.id fingerprint _ (.under desk))
        rw [staging_known known]
        exact staged_ready desk _ _ stored project.id
  | none =>
      cases stored with
      | none => exact still
      | some row =>
          obtain ⟨same, acked, failed⟩ := due.again row rfl rfl
          exact .inl ⟨desk, row, rfl, ⟨turned_refl _ _, due.known, ⟨failed, .inl acked⟩, same⟩, rfl⟩

theorem put_follows {endpoint : Endpoint} {before : PushDesk} {todo : Todo} {payload : Payload}
    {pushing : Pushing} (due : before.Due todo) (ready : pushing.Ready before todo payload) :
    (putResult endpoint (todo.report.externalId.getD "") payload).Follows pushings pushing
      (fun answer => Pushing.Answered before todo payload answer)
      (fun _ => Pushing.Turns before todo.report.id) := by
  obtain ⟨after, row, rfl, holds, same⟩ | rfl := ready
  swap
  · exact push_lost (only_wider (put_within ..) (by decide)) (fun _ => .inr rfl) fun _ => .inr rfl
  have still : Pushing.Turns before todo.report.id (.under after) := .inl ⟨after, rfl, holds.turned⟩
  apply (follows_bind ..).mpr
  apply (follows_bind ..).mpr
  apply (follows_catching ..).mpr
  apply (follows_perform pushings _ _ _).mpr
  refine ⟨⟨todo.report, ?_, rfl, row, holds.known, holds.pending, same⟩, fun response => ?_, fun error => ?_⟩
  · rw [holds.turned.listed]
    exact due.listed
  · have turns : Pushing.Turns before todo.report.id (.under
        { after with sent := some (todo.report.externalId.getD "", payload, response) }) :=
      .inl ⟨_, rfl, ⟨holds.turned.same, holds.turned.listed, holds.turned.known⟩⟩
    dsimp only [id]
    split
    · exact turns
    split
    · exact turns
    split
    · exact turns
    refine .inl ⟨_, row, response, rfl, ⟨?_, holds.known, holds.pending, holds.named⟩, same, rfl, rfl⟩
    exact ⟨holds.turned.same, holds.turned.listed, holds.turned.known⟩
  · show Follows pushings _ (Pushing.under after) _ _
    split
    · exact still
    · exact still
    · exact still

theorem push_one_follows {endpoint : Endpoint} {desk : PushDesk} {todo : Todo} (due : desk.Due todo)
    (own : project.id = desk.projectId) :
    (pushOne endpoint project todo).Follows pushings (.under desk)
      (fun _ => Pushing.Turns desk todo.report.id) (fun _ => Pushing.Turns desk todo.report.id) := by
  apply (stage_push_follows due own).andThen
  swap
  · exact fun _ _ turns => turns
  intro payload reached ready
  apply (put_follows due ready).andThen
  swap
  · exact fun _ _ turns => turns
  intro answer reached answered
  obtain ⟨after, row, response, rfl, holds, rfl, sent, rfl⟩ | rfl := answered
  swap
  · obtain ⟨status, body⟩ := answer
    refine push_lost ?_ (fun _ => .inr rfl) fun _ => .inr rfl
    exact only_bind (only_ask rfl) fun _ => only_ask rfl
  have listed : todo.report ∈ after.listed := by
    rw [holds.turned.listed]
    exact due.listed
  apply (follows_bind ..).mpr
  apply (follows_perform pushings _ _ _).mpr
  refine ⟨trivial, fun now => ?_, fun _ => .inr rfl⟩
  apply (follows_perform pushings _ _ _).mpr
  refine ⟨⟨todo.report, listed, rfl, row, response, now, holds.known, holds.pending, sent, ?_⟩, fun _ => ?_, fun _ => ?_⟩
  · unfold answerFields
    rw [holds.named]
  · exact .inl ⟨_, rfl, turned_forgets holds.turned⟩
  · exact .inl ⟨_, rfl, holds.turned⟩

/-- The loop of the push: each turn leaves the others as they are due. -/
theorem push_each_follows {endpoint : Endpoint} : ∀ {todos : List Todo} {desk : PushDesk},
    (todos.map fun todo => todo.report.id).Nodup → (∀ todo ∈ todos, desk.Due todo) →
      project.id = desk.projectId →
      (forEach todos (pushOne endpoint project)).Follows pushings (.under desk)
        (fun _ => Pushing.Inside project.id) (fun _ => Pushing.Inside project.id) := by
  intro todos
  induction todos with
  | nil =>
      intro desk _ _ own
      exact .inl ⟨desk, rfl, own.symm⟩
  | cons todo todos ih =>
      intro desk distinct due own
      obtain ⟨apart, distinct⟩ := List.nodup_cons.mp distinct
      have inside : ∀ reached : Pushing, reached.Turns desk todo.report.id → reached.Inside project.id := by
        intro reached turns
        obtain ⟨after, rfl, turned⟩ | rfl := turns
        · exact .inl ⟨after, rfl, turned.same.trans own.symm⟩
        · exact .inr rfl
      apply (push_one_follows (due todo List.mem_cons_self) own).andThen
      · intro _ reached turns
        obtain ⟨after, rfl, turned⟩ | rfl := turns
        · apply ih distinct
          · intro other member
            apply (due other (List.mem_cons_of_mem _ member)).turned turned
            rw [List.mem_singleton]
            intro same
            exact apart (List.mem_map.mpr ⟨other, member, same⟩)
          · exact own.trans turned.same.symm
        · exact push_lost (only_for_each fun _ _ => push_one_within _ _ _) (fun _ => .inr rfl)
            fun _ => .inr rfl
      · exact fun _ => inside

def Pushing.Found (before : PushDesk) (report : Report) (result : Option Todo) (pushing : Pushing) : Prop :=
  (∃ after, pushing = .under after ∧ before.Turned [report.id] after ∧
    ∀ todo ∈ result, todo.report = report ∧ after.Due todo) ∨ pushing = .lost

theorem todo_follows {desk : PushDesk} {report : Report} (member : report ∈ desk.listed) :
    (todoOf project report).Follows pushings (.under desk)
      (fun result => Pushing.Found desk report result) (fun _ => Pushing.Inside desk.projectId) := by
  have still : Pushing.Inside desk.projectId (.under desk) := .inl ⟨desk, rfl, rfl⟩
  have listed : desk.lists report.id := List.mem_map_of_mem member
  apply (follows_bind ..).mpr
  apply (follows_perform pushings _ _ _).mpr
  refine ⟨trivial, fun analyses => ?_, fun _ => still⟩
  apply (follows_bind ..).mpr
  apply (follows_perform pushings _ _ _).mpr
  refine ⟨trivial, fun proposals => ?_, fun _ => still⟩
  apply (follows_bind ..).mpr
  apply (follows_perform pushings _ _ _).mpr
  refine ⟨trivial, fun built => ?_, fun _ => still⟩
  apply (follows_bind ..).mpr
  apply (follows_perform pushings _ _ _).mpr
  refine ⟨trivial, fun stored => ?_, fun _ => still⟩
  have reads : pushingNext (.under desk) (.query (.triageResultGet report.id)) (.ok stored) =
      .under (desk.learns report.id stored) := if_pos listed
  rw [show pushings.next _ _ _ = _ from reads]
  have turned := turned_learns (turned_refl desk [report.id]) stored
  have known : (desk.learns report.id stored).known report.id = some stored := Function.update_self ..
  cases stored with
  | none =>
      refine .inl ⟨_, rfl, turned, fun todo same => ?_⟩
      cases same
      exact ⟨rfl, member, known, fun row same => by cases same⟩
  | some row =>
      dsimp only
      split
      · rename_i named
        split
        · exact .inl ⟨_, rfl, turned, fun todo same => by cases same⟩
        · rename_i pending
          refine .inl ⟨_, rfl, turned, fun todo same => ?_⟩
          cases same
          refine ⟨rfl, member, known, fun other _ same => ?_⟩
          cases same
          rw [named]
          exact ⟨rfl, fun acked => pending (.inl acked), fun failed => pending (.inr failed)⟩
      · refine .inl ⟨_, rfl, turned, fun todo same => ?_⟩
        cases same
        exact ⟨rfl, member, known, fun other same => by cases same⟩

/-- What the turns of several reports come to: of each at most one push, and all of them due. -/
def Pushing.Collected (before : PushDesk) (reports : List Report) (todos : List Todo) (pushing : Pushing) :
    Prop :=
  (∃ after, pushing = .under after ∧ before.Turned (reports.map Report.id) after ∧
    (todos.map fun todo => todo.report.id).Sublist (reports.map Report.id) ∧
    ∀ todo ∈ todos, after.Due todo) ∨ pushing = .lost

theorem turned_trans {first middle last : PushDesk} {reportId : String} {reportIds : List String}
    (one : first.Turned [reportId] middle) (others : middle.Turned reportIds last) :
    first.Turned (reportId :: reportIds) last where
  same := others.same.trans one.same
  listed := others.listed.trans one.listed
  known other apart := by
    rw [List.mem_cons, not_or] at apart
    obtain ⟨apart, rest⟩ := apart
    rw [others.known other rest]
    apply one.known other
    rw [List.mem_singleton]
    exact apart

theorem collect_follows : ∀ {reports : List Report} {desk : PushDesk}, (reports.map Report.id).Nodup →
    (∀ report ∈ reports, report ∈ desk.listed) →
      (collectTodo project reports).Follows pushings (.under desk)
        (fun todos => Pushing.Collected desk reports todos) (fun _ => Pushing.Inside desk.projectId) := by
  intro reports
  induction reports with
  | nil =>
      intro desk _ _
      exact .inl ⟨desk, rfl, turned_refl _ _, List.nil_sublist _, fun todo member => by cases member⟩
  | cons report reports ih =>
      intro desk distinct listed
      obtain ⟨apart, distinct⟩ := List.nodup_cons.mp distinct
      apply (todo_follows (listed report List.mem_cons_self)).andThen
      swap
      · exact fun _ _ inside => inside
      intro result reached found
      obtain ⟨middle, rfl, turned, due⟩ | rfl := found
      swap
      · refine push_lost ?_ (fun _ => .inr rfl) fun _ => .inr rfl
        exact only_bind (only_wider (collect_within _ _) (by decide)) fun _ => trivial
      have others : ∀ other ∈ reports, other ∈ middle.listed := by
        intro other member
        rw [turned.listed]
        exact listed other (List.mem_cons_of_mem _ member)
      apply (ih distinct others).andThen
      swap
      · intro _ reached inside
        rw [← turned.same]
        exact inside
      intro todos reached collected
      obtain ⟨after, rfl, rest, sublist, all⟩ | rfl := collected
      swap
      · exact .inr rfl
      refine .inl ⟨after, rfl, turned_trans turned rest, ?_, ?_⟩
      · cases result with
        | none => exact sublist.cons _
        | some todo =>
            obtain ⟨same, -⟩ := due todo rfl
            show (todo.report.id :: _).Sublist (report.id :: _)
            rw [same]
            exact sublist.cons_cons _
      · intro todo member
        obtain here | later := List.mem_append.mp member
        · obtain ⟨same, due⟩ := due todo (Option.mem_toList.mp here)
          apply due.turned rest
          rw [same]
          exact apart
        · exact all todo later

theorem push_pushes {endpoint : Endpoint} {pushing : Pushing} (inside : pushing.Inside project.id) :
    (push settings endpoint project).Follows pushings pushing (fun _ => Pushing.Inside project.id)
      (fun _ => Pushing.Inside project.id) := by
  have loses : ∀ rows, Follows pushings (collectTodo project rows >>= fun todo =>
      forEach ((Py.sortOn Todo.stamp todo).take (max 1 settings.triagePushPerTick).toNat)
        (pushOne endpoint project)) Pushing.lost (fun _ => Pushing.Inside project.id)
      (fun _ => Pushing.Inside project.id) := by
    intro rows
    refine push_lost ?_ (fun _ => .inr rfl) fun _ => .inr rfl
    exact only_bind (only_wider (collect_within _ _) (by decide)) fun _ =>
        only_for_each fun _ _ => push_one_within _ _ _
  apply (follows_bind ..).mpr
  apply (follows_perform pushings _ _ _).mpr
  refine ⟨?_, fun rows => ?_, fun _ => ?_⟩
  · obtain ⟨desk, rfl, -⟩ | rfl := inside
    · trivial
    · trivial
  · obtain ⟨desk, rfl, own⟩ | rfl := inside
    swap
    · exact loses rows
    show Follows pushings _ (Pushing.listing project.id rows (.under desk)) _ _
    unfold Pushing.listing
    dsimp only
    rw [if_pos own.symm]
    split
    swap
    · exact loses rows
    rename_i proper
    have listed : ∀ row ∈ rows, row ∈ ({ PushDesk.opened project.id with listed := rows } : PushDesk).listed :=
      fun _ member => member
    apply (collect_follows proper.1 listed).andThen
    swap
    · exact fun _ _ inside => inside
    intro todos reached collected
    obtain ⟨after, rfl, turned, sublist, due⟩ | rfl := collected
    swap
    · refine push_lost ?_ (fun _ => .inr rfl) fun _ => .inr rfl
      exact only_for_each fun _ _ => push_one_within _ _ _
    apply push_each_follows
    · have sorted : (Py.sortOn Todo.stamp todos).Perm todos := List.perm_insertionSort _ _
      apply ((List.take_sublist _ _).map _).nodup
      rw [(sorted.map _).nodup_iff]
      exact sublist.nodup proper.1
    · intro todo member
      exact due todo (Py.mem_sort_on.mp (List.mem_of_mem_take member))
    · exact turned.same.symm
  · exact inside

theorem exchange_pushes {endpoint : Endpoint} {pushing : Pushing} (inside : pushing.Inside project.id) :
    (exchange settings endpoint project).Follows pushings pushing (fun _ => Pushing.Inside project.id)
      (fun _ => Pushing.Inside project.id) := by
  apply inside_then inside (only_wider (drain_within _ _) (by decide))
  intro _ reached inside
  apply inside_then inside (only_wider (list_actions_within _ _ _) (by decide))
  intro listed reached inside
  apply inside_then inside (only_for_each fun action _ => only_wider (handle_within _ _ _) (by decide))
  intro _ reached inside
  apply inside_then inside (only_wider (drain_within _ _) (by decide))
  exact fun _ _ inside => push_pushes inside

theorem tick_body_pushes {envName : Json} {base : String} {pushing : Pushing}
    (inside : pushing.Inside project.id) :
    (tickBody settings project envName base).Follows pushings pushing (fun _ => Pushing.Inside project.id)
      (fun _ => Pushing.Inside project.id) := by
  apply inside_then inside
  · exact only_ask rfl
  intro others reached inside
  apply inside_then inside (only_wider (duplicate_source_within _ _ _) (by decide))
  intro duplicate reached inside
  split
  · exact inside
  apply inside_then inside (only_wider (credential_named_within _) (by decide))
  intro token reached inside
  split
  · exact inside
  · apply (exchange_pushes inside).andThen
    · exact fun _ _ inside => inside
    · exact fun _ _ inside => inside

theorem tick_pushes {envName : Json} {base : String} {pushing : Pushing}
    (inside : pushing.Inside project.id) :
    (tick settings project envName base).Follows pushings pushing (fun _ => Pushing.Inside project.id)
      (fun _ => Pushing.Inside project.id) := by
  apply inside_then inside
  · exact only_ask rfl
  intro _ reached inside
  apply inside_then inside (only_wider (expire_overdue_within _) (by decide))
  intro _ reached inside
  apply inside_then inside
  · exact only_catching (only_wider (check_prs_within _) (by decide)) fun _ => trivial
  intro _ reached inside
  have body : ((tickBody settings project envName base).catching fun error =>
      pure (some (tickError error))).Follows pushings reached (fun _ => Pushing.Inside project.id)
        (fun _ => Pushing.Inside project.id) :=
    (tick_body_pushes inside).caught (fun _ _ inside => inside) fun _ _ inside => inside
  apply body.andThen
  swap
  · exact fun _ _ inside => inside
  intro error reached inside
  refine bystander_inside ?_ inside
  exact only_bind (only_ask rfl) fun _ => only_bind (only_ask rfl) fun _ => trivial

theorem project_get_id {id : String} {project : Project}
    (returned : (projectGet id).Returns (some project)) : project.id = id := by
  obtain ⟨row, -, same⟩ := (returns_bind ..).mp returned
  cases row with
  | none => cases same
  | some row =>
      cases same
      exact row.2

theorem configured_project {found : Option Project} {project : Project} {rest : Json × String}
    (returned : (configured found).Returns (some (project, rest))) : found = some project := by
  unfold configured at returned
  split at returned
  · cases returned
  split at returned
  swap
  · cases returned
  obtain ⟨base, -, returned⟩ := (returns_bind ..).mp returned
  dsimp only at returned
  split at returned
  · split at returned
    · cases returned
      rfl
    · cases returned
  · cases returned

theorem sync_locked_pushes {pushing : Pushing} (inside : pushing.Inside projectId) :
    (syncLocked settings projectId).Follows pushings pushing (fun _ => Pushing.Inside projectId)
      (fun _ => Pushing.Inside projectId) := by
  have got := (bystander_inside (only_wider (project_get_within projectId) (by decide)) inside).returned
  apply got.andThen
  swap
  · exact fun _ _ inside => inside
  intro found reached both
  obtain ⟨inside, known⟩ := both
  have asked := (bystander_inside (only_wider (configured_within found) (by decide)) inside).returned
  apply asked.andThen
  swap
  · exact fun _ _ inside => inside
  intro configuration reached both
  obtain ⟨inside, returned⟩ := both
  cases configuration with
  | none => exact inside
  | some configuration =>
      obtain ⟨project, envName, base⟩ := configuration
      have same := configured_project returned
      rw [same] at known
      rw [← project_get_id known] at inside ⊢
      exact tick_pushes inside

end Push

section Jobs

variable {settings : Settings}

theorem sync_project_pushes (projectId : String) (manual : Bool) :
    (syncProject settings projectId manual).Follows pushings Pushing.away (fun _ => Pushing.Gone)
      (fun _ => Pushing.Gone) := by
  have rest : ∀ (held : Bool) (reached : Pushing), reached.Gone →
      (if held then raise .tickInProgress
        else underLock (.tick projectId) (syncLocked settings projectId) : Py Unit).Follows pushings
        reached (fun _ => Pushing.Gone) (fun _ => Pushing.Gone) := by
    intro held reached gone
    split
    · exact gone
    · exact under_tick_lock gone fun _ inside => sync_locked_pushes inside
  unfold syncProject
  dsimp only
  split
  · refine Follows.andThen (bystander_gone ?_ (.inl rfl)) rest ?_
    · exact only_ask rfl
    · exact fun _ _ gone => gone
  · exact rest false _ (.inl rfl)

theorem check_prs_only_pushes (projectId : String) :
    (checkPrsOnly settings projectId).Follows pushings Pushing.away (fun _ => Pushing.Gone)
      (fun _ => Pushing.Gone) := by
  refine Follows.andThen (bystander_gone ?_ (.inl rfl)) ?_ ?_
  · exact only_ask rfl
  swap
  · exact fun _ _ gone => gone
  intro locked reached gone
  split
  · exact gone
  apply under_tick_lock gone
  intro reached inside
  apply bystander_inside
  · apply only_bind (only_wider (project_get_within _) (by decide))
    intro project
    cases project with
    | none => trivial
    | some project => exact only_wider (check_prs_within project) (by decide)
  · exact inside

theorem job_pushes (job : Job) :
    (job.program settings).Follows pushings Pushing.away (fun _ => Pushing.Gone) (fun _ => Pushing.Gone) := by
  cases syncs : job.syncs with
  | false =>
      apply bystander_gone
      · exact (manual_only syncs).mono fun _ manual => within_wider (by decide) (manual_within manual)
      · exact .inl rfl
  | true =>
      cases job with
      | syncProject id manual => exact sync_project_pushes id manual
      | checkPrsOnly id => exact check_prs_only_pushes id
      | expireOverdue =>
          exact bystander_gone (only_wider (expire_overdue_within none) (by decide)) (.inl rfl)
      | actionTask id =>
          apply bystander_gone
          · exact only_ensuring (only_wider (run_action_within id) (by decide)) (only_ask rfl)
          · exact .inl rfl
      | prTask id =>
          apply bystander_gone
          · exact only_ensuring (only_wider (run_pr_within id) (by decide)) (only_ask rfl)
          · exact .inl rfl
      | _ => cases syncs

end Jobs

noncomputable abbrev pushConduct : Conduct bugalizer where
  discipline := pushings
  initial _ _ := .away
  final _ := Pushing.Gone
  keeps _ job := job_pushes job

end Bugalizer
