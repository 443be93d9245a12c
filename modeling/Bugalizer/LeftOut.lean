import Bugalizer.ResultRevisions

/-!
# What a push leaves out

A report is left out of a push when its fingerprint is marked as answered. The marks are made of
answers to payloads that were staged under that fingerprint, though not always to the last one: a
result that comes back to an earlier fingerprint meets its old mark.
-/

namespace Bugalizer

set_option autoImplicit false

open Coroutine Store

def Heard (past : List Ev) (externalId : String) (payload : Payload) (response : HttpResponse) : Prop :=
  ∃ id endpoint,
    Event.answered id (.remote (.putResult endpoint externalId payload)) (.ok response) ∈ past

/-- A payload was staged for the report under this fingerprint, sent to the report's external id and
answered with a status of these. -/
def HeardOf (world : World) (past : List Ev) (reports : Reports) (reportId fingerprint : String)
    (statuses : List Nat) : Prop :=
  ∃ payload externalId response report, (fingerprint, payload) ∈ stagings world reportId past ∧
    reports.get reportId = some report ∧ report.externalId = some externalId ∧
    Heard past externalId payload response ∧ response.status ∈ statuses

structure Marked (world : World) (past : List Ev) (reports : Reports) (reportId : String)
    (row : TriageResult) : Prop where
  acked : ∀ fingerprint, row.ackedFingerprint = some fingerprint →
    HeardOf world past reports reportId fingerprint [200] ∨
      ∃ first, world.db.outbox.results.get reportId = some first ∧
        first.ackedFingerprint = some fingerprint
  failed : ∀ fingerprint, row.failedFingerprint = some fingerprint →
    HeardOf world past reports reportId fingerprint [400, 404, 413] ∨
      ∃ first, world.db.outbox.results.get reportId = some first ∧
        first.failedFingerprint = some fingerprint

/-- Every mark has its answer, and every answer a desk holds was given. -/
structure Heeded (world : World) (past : List Ev) (shadow : PushShadow) : Prop where
  recounted : Recounted world past shadow
  sent : ∀ id actor desk externalId payload response, shadow.actors id = some actor →
    pushingOf actor = .under desk → desk.sent = some (externalId, payload, response) →
    Heard past externalId payload response
  marked : ∀ reportId row, shadow.world.db.outbox.results.get reportId = some row →
    Marked world past shadow.world.db.reports reportId row

theorem heard_later {past : List Ev} {externalId : String} {payload : Payload} {response : HttpResponse}
    (heard : Heard past externalId payload response) (event : Ev) :
    Heard (past ++ [event]) externalId payload response := by
  obtain ⟨id, endpoint, member⟩ := heard
  exact ⟨id, endpoint, List.mem_append_left _ member⟩

theorem staging_later {world : World} {past : List Ev} {reportId : String} {staged : String × Payload}
    (member : staged ∈ stagings world reportId past) (event : Ev) :
    staged ∈ stagings world reportId (past ++ [event]) := by
  unfold stagings at member ⊢
  rw [List.filterMap_append, ← List.append_assoc]
  exact List.mem_append_left _ member

def KeepsNames (before after : Reports) : Prop :=
  ∀ id row, before.get id = some row → ∃ row', after.get id = some row' ∧ row'.externalId = row.externalId

section Later

variable {world : World} {past : List Ev} {before after : Reports} {reportId : String}

theorem heard_of_later {fingerprint : String} {statuses : List Nat} (keeps : KeepsNames before after)
    (heard : HeardOf world past before reportId fingerprint statuses) (event : Ev) :
    HeardOf world (past ++ [event]) after reportId fingerprint statuses := by
  obtain ⟨payload, externalId, response, report, staged, found, named, answered, status⟩ := heard
  obtain ⟨report', found', same⟩ := keeps reportId report found
  exact ⟨payload, externalId, response, report', staging_later staged event, found', same.trans named,
    heard_later answered event, status⟩

theorem marked_later {row : TriageResult} (keeps : KeepsNames before after)
    (marked : Marked world past before reportId row) (event : Ev) :
    Marked world (past ++ [event]) after reportId row where
  acked fingerprint same := (marked.acked fingerprint same).imp_left fun heard =>
    heard_of_later keeps heard event
  failed fingerprint same := (marked.failed fingerprint same).imp_left fun heard =>
    heard_of_later keeps heard event

end Later

theorem sent_from {pushing : Pushing} {op : Op} {answer : Except Exn op.Ans} {desk : PushDesk}
    {externalId : String} {payload : Payload} {response : HttpResponse}
    (under : pushingNext pushing op answer = .under desk)
    (sent : desk.sent = some (externalId, payload, response)) :
    (∃ old, pushing = .under old ∧ old.sent = some (externalId, payload, response)) ∨
      ∃ endpoint, (⟨op, answer⟩ : Σ op : Op, Except Exn op.Ans) =
        ⟨.remote (.putResult endpoint externalId payload), .ok response⟩ := by
  cases answer with
  | error error =>
      simp only [pushingNext] at under
      split at under
      · cases under
      · exact .inl ⟨desk, under, sent⟩
  | ok value =>
      unfold pushingNext at under
      split at under
      · cases under
        cases sent
      · cases under
      · unfold Pushing.listing at under
        split at under
        · split at under
          · split at under
            · cases under
              cases sent
            · cases under
              exact .inl ⟨_, rfl, sent⟩
          · cases under
        · exact .inl ⟨desk, under, sent⟩
      · unfold Pushing.reading at under
        split at under
        · split at under
          · cases under
            exact .inl ⟨_, rfl, sent⟩
          · cases under
            exact .inl ⟨_, rfl, sent⟩
        · exact .inl ⟨desk, under, sent⟩
      · unfold Pushing.staging at under
        split at under
        · split at under
          · cases under
            exact .inl ⟨_, rfl, sent⟩
          · cases under
        · exact .inl ⟨desk, under, sent⟩
      · unfold Pushing.filing at under
        split at under
        · cases under
          cases sent
        · exact .inl ⟨desk, under, sent⟩
      · rename_i same
        cases same
        unfold Pushing.sending at under
        split at under
        · cases under
          cases sent
          exact .inr ⟨_, rfl⟩
        · exact .inl ⟨desk, under, sent⟩
      · rename_i failed
        cases failed
      · exact .inl ⟨desk, under, sent⟩

section Steps

variable {world : World} {past : List Ev} {before after : PushShadow} {event : Ev}

theorem heeded_quiet (held : Heeded world past before) (recounted : Recounted world (past ++ [event]) after)
    (results : after.world.db.outbox.results = before.world.db.outbox.results)
    (keeps : KeepsNames before.world.db.reports after.world.db.reports)
    (actors : ∀ id actor, after.actors id = some actor →
      (∃ old, before.actors id = some old ∧ pushingOf old = pushingOf actor) ∨ pushingOf actor = .away) :
    Heeded world (past ++ [event]) after where
  recounted := recounted
  sent id actor desk externalId payload response present under sent := by
    obtain ⟨old, was, same⟩ | away := actors id actor present
    · exact heard_later (held.sent id old desk externalId payload response was (same.trans under) sent) event
    · rw [away] at under
      cases under
  marked reportId row stored := by
    rw [results] at stored
    exact marked_later keeps (held.marked reportId row stored) event

theorem exec_keeps_names {self fresh : Nat} {op : Op} {answer : Except Exn op.Ans} {one other : World}
    (moves : OpMoves self fresh one op answer other) : KeepsNames one.db.reports other.db.reports := by
  intro id row found
  obtain ⟨row', found', -, same⟩ := op_home moves found
  exact ⟨row', found', same⟩

/-- What was just sent for a listed report was sent to its external id, and is what its row holds. -/
theorem sent_heard {id : Nat} {actor : Actor Op pushConduct.Ghost Job} {desk : PushDesk}
    {report : Report} {row : TriageResult} {response : HttpResponse}
    (held : Heeded world past before) (desks : PushDesks before) (found : before.actors id = some actor)
    (under : pushingOf actor = .under desk) (member : report ∈ desk.listed)
    (known : desk.known report.id = some (some row))
    (sent : desk.sent = some (report.externalId.getD "", row.payload, response)) :
    (row.fingerprint, row.payload) ∈ stagings world report.id past ∧
      ∃ externalId stored, before.world.db.reports.get report.id = some stored ∧
        stored.externalId = some externalId ∧ Heard past externalId row.payload response := by
  have honest := desks.honest id actor desk found under
  obtain ⟨stored, there, -, same, named⟩ := honest.listed report member
  obtain ⟨externalId, has⟩ := Option.isSome_iff_exists.mp named
  have latest := (held.recounted report.id).latest
  rw [(honest.known report.id _ known).2, Option.map_some] at latest
  have heard := held.sent id actor desk _ row.payload response found under sent
  rw [has] at heard same
  exact ⟨List.mem_of_getLast? latest.symm, externalId, stored, there, same, heard⟩

theorem mark_heard {id : Nat} {actor : Actor Op pushConduct.Ghost Job} {desk : PushDesk}
    {report : Report} {row : TriageResult} {response : HttpResponse} {statuses : List Nat}
    (held : Heeded world past before) (desks : PushDesks before) (found : before.actors id = some actor)
    (under : pushingOf actor = .under desk) (member : report ∈ desk.listed)
    (known : desk.known report.id = some (some row))
    (sent : desk.sent = some (report.externalId.getD "", row.payload, response))
    (status : response.status ∈ statuses) :
    HeardOf world past before.world.db.reports report.id row.fingerprint statuses := by
  obtain ⟨staged, externalId, stored, there, named, heard⟩ :=
    sent_heard held desks found under member known sent
  exact ⟨row.payload, externalId, response, stored, staged, there, named, heard, status⟩

theorem heeded_resumed {id : Nat} {actor : Actor Op pushConduct.Ghost Job} {op : Op} {env : op.Env}
    {answer : Except Exn op.Ans} {now : World} (held : Heeded world past before) (desks : PushDesks before)
    (found : before.actors id = some actor) (allowed : pushingAllowed (pushingOf actor) op)
    (ran : op.exec id before.fresh env before.world = some (answer, now))
    (recounted : Recounted world (past ++ [.answered id op answer])
      (before.resume pushConduct id actor op answer now)) :
    Heeded world (past ++ [.answered id op answer]) (before.resume pushConduct id actor op answer now) := by
  have moves := exec_moves ran
  have keeps := exec_keeps_names moves
  refine ⟨recounted, ?_, ?_⟩
  · intro other rival desk externalId payload response there under sent
    obtain ⟨rfl, same⟩ | ⟨-, was⟩ := pusher_updated there
    · cases same
      obtain ⟨old, here, sent⟩ | ⟨endpoint, same⟩ := sent_from under sent
      · exact heard_later (held.sent other actor old _ _ _ found here sent) _
      · cases same
        exact ⟨other, endpoint, List.mem_append_right _ (List.mem_singleton_self _)⟩
    · exact heard_later (held.sent other rival desk _ _ _ was under sent) _
  · intro reportId row' stored
    have stored : now.db.outbox.results.get reportId = some row' := stored
    show Marked world _ now.db.reports reportId row'
    rw [op_results moves] at stored
    by_cases written : op.result = some reportId
    swap
    · rw [results_stay op answer _ written] at stored
      exact marked_later keeps (held.marked reportId row' stored) _
    obtain ⟨desk, under, -⟩ := result_listed (desks.found id actor found) allowed written
    have honest := desks.honest id actor desk found under
    rw [under] at allowed
    cases answer with
    | error error =>
        rw [results_failed] at stored
        exact marked_later keeps (held.marked reportId row' stored) _
    | ok value =>
        cases op with
        | outbox write =>
            cases write with
            | syncStateRecord projectId error unresolved => cases written
            | triageResultStage other projectId fingerprint payload =>
                cases written
                rw [result_staged] at stored
                cases stored
                constructor
                · intro wanted acked
                  rw [staged_acked] at acked
                  obtain ⟨row, was, acked⟩ := Option.bind_eq_some_iff.mp acked
                  exact (marked_later keeps (held.marked reportId row was) _).acked wanted acked
                · intro wanted failed
                  rw [staged_failed] at failed
                  cases failed
            | triageResultUpdate other fields =>
                cases written
                obtain ⟨report, member, rfl, row, response, clock, known, -, sent, rfl⟩ := allowed
                have was := (honest.known _ _ known).2
                rw [result_answered, was] at stored
                cases stored
                have recorded := answer_recorded row response clock
                have older := marked_later keeps (held.marked report.id row was)
                  (.answered id (.outbox (.triageResultUpdate report.id (answerFields row response clock)))
                    (.ok value))
                constructor
                · intro wanted acked
                  cases fresh : (answerFields row response clock).ackedFingerprint with
                  | none =>
                      have acked : (answerFields row response clock).ackedFingerprint.or
                        row.ackedFingerprint = some wanted := acked
                      rw [fresh] at acked
                      exact older.acked wanted acked
                  | some newer =>
                      have acked : (answerFields row response clock).ackedFingerprint.or
                        row.ackedFingerprint = some wanted := acked
                      rw [fresh] at acked
                      cases acked
                      obtain ⟨rfl, status⟩ := recorded.acked wanted fresh
                      refine .inl (heard_of_later keeps
                        (mark_heard held desks found under member known sent ?_) _)
                      rw [status]
                      exact List.mem_singleton_self _
                · intro wanted failed
                  cases fresh : (answerFields row response clock).failedFingerprint with
                  | none =>
                      have failed : (answerFields row response clock).failedFingerprint.or
                        row.failedFingerprint = some wanted := failed
                      rw [fresh] at failed
                      exact older.failed wanted failed
                  | some newer =>
                      have failed : (answerFields row response clock).failedFingerprint.or
                        row.failedFingerprint = some wanted := failed
                      rw [fresh] at failed
                      cases failed
                      obtain ⟨rfl, status⟩ := recorded.failed wanted fresh
                      refine .inl (heard_of_later keeps
                        (mark_heard held desks found under member known sent ?_) _)
                      simpa using status
        | _ => cases written

theorem heeded_step (desks : PushDesks before) (held : Heeded world past before)
    (moves : ShadowMoves pushConduct before event after) : Heeded world (past ++ [event]) after := by
  have recounted := recounted_step desks held.recounted moves
  have same : KeepsNames before.world.db.reports before.world.db.reports := fun _ row found => ⟨row, found, rfl⟩
  cases moves with
  | started job rooted =>
      refine heeded_quiet held recounted ?_ same ?_
      · rfl
      intro id actor present
      obtain ⟨-, here⟩ | ⟨-, was⟩ := pusher_updated present
      · cases here
        exact .inr rfl
      · exact .inl ⟨actor, was, rfl⟩
  | issued id actor op found running allowed suspends awake =>
      refine heeded_quiet held recounted ?_ same ?_
      · rfl
      intro other rival present
      obtain ⟨rfl, here⟩ | ⟨-, was⟩ := pusher_updated present
      · cases here
        exact .inl ⟨actor, found, rfl⟩
      · exact .inl ⟨rival, was, rfl⟩
  | answered id actor op env answer now found running permitted ready pending ran =>
      have executed : op.exec id before.fresh env before.world = some (answer, now) := ran
      have resumed := heeded_resumed held desks found permitted executed
      cases op with
      | createTask created job =>
          have resumed := resumed recounted
          refine ⟨recounted, ?_, resumed.marked⟩
          intro other rival desk externalId payload response present under sent
          obtain ⟨-, here⟩ | ⟨-, was⟩ := pusher_updated present
          · cases here
            cases under
          · exact resumed.sent other rival desk externalId payload response was under sent
      | _ => exact resumed recounted
  | ended id actor found running awake finished =>
      refine heeded_quiet held recounted ?_ same ?_
      · rfl
      intro other rival present
      obtain ⟨-, here⟩ | ⟨-, was⟩ := pusher_updated present
      · cases here
      · exact .inl ⟨rival, was, rfl⟩
  | restarted boot =>
      refine heeded_quiet held recounted rfl ?_ ?_
      · intro id row found
        refine ⟨_, (restart_report boot before.world id).trans (by rw [found]; rfl), ?_⟩
        dsimp only
        split
        · rfl
        · rfl
      · intro id actor present
        cases present

end Steps

/-- What `_push` leaves out: the result is stored under the fingerprint of today, and marked. -/
theorem todo_left_out {project : Project} {report : Report} {answers : (op : Op) → Except Exn op.Ans}
    (left : (todoOf project report).eval answers = .ok none) :
    ∃ row, answers (.query (.triageResultGet report.id)) = .ok (some row) ∧
      (row.ackedFingerprint = some row.fingerprint ∨ row.failedFingerprint = some row.fingerprint) := by
  obtain ⟨analyses, -, left⟩ := Program.eval_bind_ok left
  obtain ⟨proposals, -, left⟩ := Program.eval_bind_ok left
  obtain ⟨built, -, left⟩ := Program.eval_bind_ok left
  obtain ⟨stored, read, left⟩ := Program.eval_bind_ok left
  rw [show Program.eval answers (query _) = _ from Program.eval_perform _] at read
  cases stored with
  | none => cases left
  | some row =>
      dsimp only at left
      split at left
      swap
      · cases left
      rename_i named
      split at left
      · rename_i marked
        rw [← named] at marked
        exact ⟨row, read, marked⟩
      · cases left

/-- In every run: where a push leaves a report out, some payload that was staged for it under the
fingerprint of today has been sent to its external id and answered 200, 400, 404 or 413, or the mark
is one the run began with. -/
theorem left_out_was_answered {world : World} {past : List Ev} {last : Sys}
    (run : Run bugalizer (State.boot world) past last)
    (sound : ∀ id row, world.db.outbox.results.get id = some row → row.Sound)
    {project : Project} {report : Report} {answers : (op : Op) → Except Exn op.Ans}
    (reads : answers (.query (.triageResultGet report.id)) =
      .ok (last.world.db.outbox.results.get report.id))
    (left : (todoOf project report).eval answers = .ok none) :
    ∃ row, last.world.db.outbox.results.get report.id = some row ∧
      (HeardOf world past last.world.db.reports report.id row.fingerprint [200, 400, 404, 413] ∨
        ∃ first, world.db.outbox.results.get report.id = some first ∧
          (first.ackedFingerprint = some row.fingerprint ∨
            first.failedFingerprint = some row.fingerprint)) := by
  obtain ⟨row, read, marks⟩ := todo_left_out left
  have stored : last.world.db.outbox.results.get report.id = some row := by
    rw [read] at reads
    exact (Except.ok.inj reads).symm
  have initially : Heeded world [] (Shadow.boot pushConduct world) := by
    constructor
    · exact recounted_boot world sound
    · intro id actor desk externalId payload response present
      cases present
    · intro reportId first found
      exact ⟨fun _ same => .inr ⟨first, found, same⟩, fun _ same => .inr ⟨first, found, same⟩⟩
  obtain ⟨shadow, shades, -, held⟩ := run_desks run sound initially
    fun _ _ _ _ desks held moves => heeded_step desks held moves
  refine ⟨row, stored, ?_⟩
  rw [shades.world] at stored ⊢
  have marked := held.marked report.id row stored
  have widen : ∀ {statuses : List Nat}, (∀ status ∈ statuses, status ∈ [200, 400, 404, 413]) →
      HeardOf world past shadow.world.db.reports report.id row.fingerprint statuses →
      HeardOf world past shadow.world.db.reports report.id row.fingerprint [200, 400, 404, 413] := by
    intro statuses wider heard
    obtain ⟨payload, externalId, response, found, staged, there, named, answered, status⟩ := heard
    exact ⟨payload, externalId, response, found, staged, there, named, answered, wider _ status⟩
  obtain acked | failed := marks
  · obtain heard | ⟨first, began, same⟩ := marked.acked _ acked
    · exact .inl (widen (by decide) heard)
    · exact .inr ⟨first, began, .inl same⟩
  · obtain heard | ⟨first, began, same⟩ := marked.failed _ failed
    · exact .inl (widen (by decide) heard)
    · exact .inr ⟨first, began, .inr same⟩

theorem ok_none_of {Item : Type} {result : Except Exn (Option Item)}
    (left : result.toOption.any (fun found => found.isNone) = true) : result = .ok none := by
  cases result with
  | error error => cases left
  | ok found =>
      cases found with
      | none => rfl
      | some item => cases left

namespace Scenario

/-- The result is accepted, changes and is lost on the way, and comes back to what it was, to be lost
on the way again. -/
def cameBack : Script bugalizer (State.boot unpushed) :=
  ⟨.start (.syncProject "p" false) :: steps 0 (deliver 5 "first" accepted) 29 ++
    .start (.syncProject "p" false) :: steps 1 (deliver 6 "second" lostAnswer) 27 ++
      .start (.syncProject "p" false) :: steps 2 (deliver 7 "first" lostAnswer) 27, by decide +kernel⟩

def nextPush : (op : Op) → Except Exn op.Ans
  | .query q => .ok (q.run cameBack.last.world.db)
  | .compute (.buildPayload ..) => .ok ⟨0, "first", .str "first"⟩
  | _ => .error (.plain "Error" "")

theorem next_push_leaves : (todoOf project (report .closed)).eval nextPush = .ok none :=
  ok_none_of (by decide +kernel)

end Scenario

/-- The payload of time 7 was never answered, and is left out for the answer to that of time 5. -/
theorem left_out_was_answered_earlier :
    Scenario.cameBack.last.world.db.outbox.results.rows.map (fun row => row.revision) = [7] ∧
      ∃ row, Scenario.cameBack.last.world.db.outbox.results.get "r" = some row ∧
        HeardOf Scenario.unpushed Scenario.cameBack.events Scenario.cameBack.last.world.db.reports "r"
          row.fingerprint [200, 400, 404, 413] := by
  obtain ⟨row, stored, heard | ⟨first, began, -⟩⟩ :=
    left_out_was_answered Scenario.cameBack.run Scenario.unpushed_sound rfl Scenario.next_push_leaves
  · exact ⟨by decide +kernel, row, stored, heard⟩
  · cases began

end Bugalizer
