import Bugalizer.LeftOut

/-!
# What is staged is offered until it is answered

A push leaves a report out by the marks of its result. Staging takes a failure off the row and leaves
the acknowledgement, which then speaks of an earlier payload. Where no payload is staged over the
acknowledgement of its own fingerprint, a report is left out only when the payload staged last was
answered.
-/

namespace Bugalizer

set_option autoImplicit false

open Coroutine Store

/-- This payload was sent to the report's external id and answered 200, 400, 404 or 413. -/
def Settled (past : List Ev) (reports : Reports) (reportId : String) (payload : Payload) : Prop :=
  ∃ externalId response report, reports.get reportId = some report ∧ report.externalId = some externalId ∧
    Heard past externalId payload response ∧ response.status ∈ [200, 400, 404, 413]

def TriageResult.Answered (row : TriageResult) : Prop :=
  row.ackedFingerprint = some row.fingerprint ∨ row.failedFingerprint = some row.fingerprint

/-- The marks are those of a row that this run began with, and nothing was staged since. -/
def Inherited (world : World) (past : List Ev) (reportId : String) : Prop :=
  past.filterMap (stagedBy reportId) = [] ∧
    ∃ first, world.db.outbox.results.get reportId = some first ∧ first.Answered

/-- A row that is marked for its own fingerprint holds a payload that was answered. -/
structure Offered (world : World) (past : List Ev) (shadow : PushShadow) : Prop where
  heeded : Heeded world past shadow
  earned : ∀ reportId row, shadow.world.db.outbox.results.get reportId = some row → row.Answered →
    Settled past shadow.world.db.reports reportId row.payload ∨ Inherited world past reportId

/-- No payload is staged over the acknowledgement of its own fingerprint. -/
def StagedAnew (_ : List Ev) (state : Sys) : Ev → Prop
  | .answered _ (.outbox (.triageResultStage reportId _ fingerprint _)) (.ok _) =>
      (state.world.db.outbox.results.get reportId).all fun row => row.ackedFingerprint != some fingerprint
  | _ => True

instance (past : List Ev) (state : Sys) (event : Ev) : Decidable (StagedAnew past state event) := by
  unfold StagedAnew
  split
  · infer_instance
  · infer_instance

section Later

variable {world : World} {past : List Ev} {before after : Reports} {reportId : String}

theorem settled_later {payload : Payload} (keeps : KeepsNames before after)
    (settled : Settled past before reportId payload) (event : Ev) :
    Settled (past ++ [event]) after reportId payload := by
  obtain ⟨externalId, response, report, found, named, heard, status⟩ := settled
  obtain ⟨report', found', same⟩ := keeps reportId report found
  exact ⟨externalId, response, report', found', same.trans named, heard_later heard event, status⟩

theorem inherited_later {event : Ev} (inherited : Inherited world past reportId)
    (staged : stagedBy reportId event = none) : Inherited world (past ++ [event]) reportId := by
  refine ⟨?_, inherited.2⟩
  rw [List.filterMap_append, inherited.1]
  simp [staged]

theorem earned_later {payload : Payload} {event : Ev} (keeps : KeepsNames before after)
    (earned : Settled past before reportId payload ∨ Inherited world past reportId)
    (staged : stagedBy reportId event = none) :
    Settled (past ++ [event]) after reportId payload ∨ Inherited world (past ++ [event]) reportId := by
  obtain settled | inherited := earned
  · exact .inl (settled_later keeps settled event)
  · exact .inr (inherited_later inherited staged)

end Later

section Steps

variable {world : World} {past : List Ev} {before after : PushShadow} {event : Ev}

/-- A payload whose fingerprint is not acknowledged is staged without marks. -/
theorem staged_unmarked {stored : Option TriageResult} {reportId projectId fingerprint : String}
    {payload : Payload} (anew : stored.all (fun row => row.ackedFingerprint != some fingerprint) = true) :
    ¬(stagedResult stored reportId projectId fingerprint payload).Answered := by
  intro answered
  unfold TriageResult.Answered at answered
  rw [staged_fingerprint, staged_failed, staged_acked] at answered
  obtain acked | failed := answered
  · obtain ⟨row, same, acked⟩ := Option.bind_eq_some_iff.mp acked
    rw [same, Option.all_some] at anew
    exact bne_iff_ne.mp anew acked
  · cases failed

/-- The answer to a payload marks its row, or leaves the marks as they were. -/
theorem answered_marks {row : TriageResult} {response : HttpResponse} {now : Nat}
    (answered : ((answerFields row response now).write row).Answered) :
    response.status ∈ [200, 400, 404, 413] ∨ row.Answered := by
  have recorded := answer_recorded row response now
  obtain acked | failed := answered
  · cases fresh : (answerFields row response now).ackedFingerprint with
    | none =>
        have kept : (answerFields row response now).ackedFingerprint.or row.ackedFingerprint =
          some row.fingerprint := acked
        rw [fresh] at kept
        exact .inr (.inl kept)
    | some fingerprint =>
        rw [(recorded.acked fingerprint fresh).2]
        exact .inl (by decide)
  · cases fresh : (answerFields row response now).failedFingerprint with
    | none =>
        have kept : (answerFields row response now).failedFingerprint.or row.failedFingerprint =
          some row.fingerprint := failed
        rw [fresh] at kept
        exact .inr (.inr kept)
    | some fingerprint =>
        have status := (recorded.failed fingerprint fresh).2
        refine .inl ?_
        simp only [List.mem_cons, List.not_mem_nil, or_false]
        exact .inr status

theorem offered_quiet (held : Offered world past before) (heeded : Heeded world (past ++ [event]) after)
    (results : after.world.db.outbox.results = before.world.db.outbox.results)
    (keeps : KeepsNames before.world.db.reports after.world.db.reports)
    (staged : ∀ reportId, stagedBy reportId event = none) : Offered world (past ++ [event]) after where
  heeded := heeded
  earned reportId row stored answered := by
    rw [results] at stored
    exact earned_later keeps (held.earned reportId row stored answered) (staged reportId)

theorem offered_resumed {id : Nat} {actor : Actor Op pushConduct.Ghost Job} {op : Op} {env : op.Env}
    {answer : Except Exn op.Ans} {now : World} {state : Sys} (held : Offered world past before)
    (desks : PushDesks before) (same : state.world = before.world)
    (anew : StagedAnew past state (.answered id op answer))
    (found : before.actors id = some actor) (allowed : pushingAllowed (pushingOf actor) op)
    (ran : op.exec id before.fresh env before.world = some (answer, now))
    (reportId : String) (row : TriageResult) (stored : now.db.outbox.results.get reportId = some row)
    (answered : row.Answered) :
    Settled (past ++ [.answered id op answer]) now.db.reports reportId row.payload ∨
      Inherited world (past ++ [.answered id op answer]) reportId := by
  have moves := exec_moves ran
  have keeps := exec_keeps_names moves
  rw [op_results moves] at stored
  by_cases written : op.result = some reportId
  swap
  · rw [results_stay op answer _ written] at stored
    exact earned_later keeps (held.earned reportId row stored answered) (@unwritten id op answer reportId written).1
  obtain ⟨desk, under, -⟩ := result_listed (desks.found id actor found) allowed written
  have honest := desks.honest id actor desk found under
  rw [under] at allowed
  cases answer with
  | error error =>
      rw [results_failed] at stored
      refine earned_later keeps (held.earned reportId row stored answered) ?_
      cases op with
      | outbox write => cases write <;> rfl
      | _ => rfl
  | ok value =>
      cases op with
      | outbox write =>
          cases write with
          | syncStateRecord projectId error unresolved => cases written
          | triageResultStage other projectId fingerprint payload =>
              cases written
              rw [result_staged] at stored
              cases stored
              unfold StagedAnew at anew
              rw [same] at anew
              exact absurd answered (staged_unmarked anew)
          | triageResultUpdate other fields =>
              cases written
              obtain ⟨report, member, rfl, old, response, clock, known, -, sent, rfl⟩ := allowed
              have was := (honest.known _ _ known).2
              rw [result_answered, was] at stored
              cases stored
              obtain status | marked := answered_marks answered
              · obtain ⟨-, externalId, found', there, named, heard⟩ :=
                  sent_heard held.heeded desks found under member known sent
                exact .inl (settled_later keeps ⟨externalId, response, found', there, named, heard, status⟩ _)
              · exact earned_later keeps (held.earned report.id old was marked) rfl
      | _ => cases written

theorem offered_step {state : Sys} (held : Offered world past before) (desks : PushDesks before)
    (same : state.world = before.world) (anew : StagedAnew past state event)
    (moves : ShadowMoves pushConduct before event after) : Offered world (past ++ [event]) after := by
  have heeded := heeded_step desks held.heeded moves
  have kept : KeepsNames before.world.db.reports before.world.db.reports := fun _ row found => ⟨row, found, rfl⟩
  cases moves with
  | started job rooted => exact offered_quiet held heeded rfl kept fun _ => rfl
  | issued id actor op found running allowed suspends awake =>
      exact offered_quiet held heeded rfl kept fun _ => rfl
  | answered id actor op env answer now found running permitted ready pending ran =>
      have executed : op.exec id before.fresh env before.world = some (answer, now) := ran
      have resumed := offered_resumed held desks same anew found permitted executed
      refine ⟨heeded, ?_⟩
      cases op with
      | createTask created job => exact resumed
      | _ => exact resumed
  | ended id actor found running awake finished => exact offered_quiet held heeded rfl kept fun _ => rfl
  | restarted boot =>
      refine offered_quiet held heeded rfl ?_ fun _ => rfl
      intro id row found
      refine ⟨_, (restart_report boot before.world id).trans (by rw [found]; rfl), ?_⟩
      dsimp only
      split
      · rfl
      · rfl

end Steps

/-- In every run that stages no payload over the acknowledgement of its own fingerprint: where a push
leaves a report out, the payload staged for it last was sent and answered 200, 400, 404 or 413, or was
marked when the run began and nothing has been staged since. -/
theorem left_out_once_settled {world : World} {past : List Ev} {last : Sys}
    (run : Guarded (Moves bugalizer) StagedAnew (State.boot world) past last)
    (sound : ∀ id row, world.db.outbox.results.get id = some row → row.Sound)
    {project : Project} {report : Report} {answers : (op : Op) → Except Exn op.Ans}
    (reads : answers (.query (.triageResultGet report.id)) =
      .ok (last.world.db.outbox.results.get report.id))
    (left : (todoOf project report).eval answers = .ok none) :
    ∃ row, last.world.db.outbox.results.get report.id = some row ∧
      (stagings world report.id past).getLast? = some (row.fingerprint, row.payload) ∧
        (Settled past last.world.db.reports report.id row.payload ∨ Inherited world past report.id) := by
  obtain ⟨row, read, marks⟩ := todo_left_out left
  have stored : last.world.db.outbox.results.get report.id = some row := by
    rw [read] at reads
    exact (Except.ok.inj reads).symm
  have initially : PushDesks (Shadow.boot pushConduct world) ∧ Offered world [] (Shadow.boot pushConduct world) := by
    refine ⟨desks_boot world sound, ⟨recounted_boot world sound, ?_, ?_⟩, ?_⟩
    · intro id actor desk externalId payload response present
      cases present
    · intro reportId first found
      exact ⟨fun _ same => .inr ⟨first, found, same⟩, fun _ same => .inr ⟨first, found, same⟩⟩
    · intro reportId first found answered
      exact .inr ⟨rfl, first, found, answered⟩
  have kept : ∃ shadow, Shades pushConduct last shadow ∧ (PushDesks shadow ∧ Offered world past shadow) :=
    @Guarded.shadowed _ _ _ _ _ _ _ _ pushConduct _ _ _ _ run
      (fun past shadow => PushDesks shadow ∧ Offered world past shadow) initially
      fun _ _ _ _ _ _ _ held shades anew _ moves =>
        ⟨desks_step held.1 moves, offered_step held.2 held.1 shades.world anew moves⟩
  obtain ⟨shadow, shades, -, offered⟩ := kept
  rw [shades.world] at stored ⊢
  refine ⟨row, stored, ?_, offered.earned report.id row stored marks⟩
  have latest := (offered.heeded.recounted report.id).latest
  rw [stored] at latest
  exact latest.symm

namespace Scenario

/-- The result is accepted. -/
def accepting : GuardedScript bugalizer (State.boot unpushed) StagedAnew :=
  ⟨.start (.syncProject "p" false) :: steps 0 (deliver 5 "first" accepted) 29, by decide +kernel⟩

def afterAccepting : (op : Op) → Except Exn op.Ans
  | .query q => .ok (q.run accepting.last.world.db)
  | .compute (.buildPayload ..) => .ok ⟨0, "first", .str "first"⟩
  | _ => .error (.plain "Error" "")

theorem accepted_is_left : (todoOf project (report .closed)).eval afterAccepting = .ok none :=
  ok_none_of (by decide +kernel)

/-- No answer of these events is to the payload of this revision. -/
def unheard (revision : Int) : Ev → Bool
  | .answered _ (.remote (.putResult _ _ payload)) (.ok _) => payload.revision != revision
  | _ => true

end Scenario

/-- What was accepted is left out. -/
theorem left_out_once_settled_accepted :
    ∃ row, Scenario.accepting.last.world.db.outbox.results.get "r" = some row ∧
      Settled Scenario.accepting.events Scenario.accepting.last.world.db.reports "r" row.payload := by
  obtain ⟨row, stored, -, settled | ⟨-, first, began, -⟩⟩ :=
    left_out_once_settled Scenario.accepting.run Scenario.unpushed_sound rfl Scenario.accepted_is_left
  · exact ⟨row, stored, settled⟩
  · cases began

/-- The payload staged at time 7 comes back to the fingerprint that was acknowledged at time 5. Its
request is lost, and the next push leaves it out. -/
theorem unanswered_payload_left_out :
    ∃ row, Scenario.cameBack.last.world.db.outbox.results.get "r" = some row ∧
      (todoOf Scenario.project (Scenario.report .closed)).eval Scenario.nextPush = .ok none ∧
      (stagings Scenario.unpushed "r" Scenario.cameBack.events).getLast? = some (row.fingerprint, row.payload) ∧
      row.payload.revision = 7 ∧
      ¬Settled Scenario.cameBack.events Scenario.cameBack.last.world.db.reports "r" row.payload ∧
      ¬Inherited Scenario.unpushed Scenario.cameBack.events "r" := by
  obtain ⟨shadow, shades, -, recounted⟩ := run_recounted Scenario.cameBack.run Scenario.unpushed_sound
  have revision : (Scenario.cameBack.last.world.db.outbox.results.get "r").any
      (fun row => row.payload.revision == 7) = true := by decide +kernel
  obtain ⟨row, stored, seven⟩ := (Option.any_eq_true _ _).mp revision
  have seven : row.payload.revision = 7 := beq_iff_eq.mp seven
  refine ⟨row, stored, Scenario.next_push_leaves, ?_, seven, ?_, ?_⟩
  · have latest := (recounted "r").latest
    rw [← shades.world, stored] at latest
    exact latest.symm
  · rintro ⟨externalId, response, report, -, -, ⟨id, endpoint, heard⟩, -⟩
    have silent : ∀ event ∈ Scenario.cameBack.events, Scenario.unheard 7 event = true := by decide +kernel
    have apart := silent _ heard
    rw [Scenario.unheard, seven] at apart
    cases apart
  · rintro ⟨-, first, began, -⟩
    cases began

end Bugalizer
