import Bugalizer.Scenario
import Bugalizer.Sync.Desks

/-!
# The revisions of a result

What a tick stages for a report, what sonicgrid has acknowledged of it and what is sent, over the
whole history of a run with its restarts and lost answers.
-/

namespace Bugalizer

set_option autoImplicit false

open Coroutine Store

/-- The payload an event stages for a report, and its fingerprint. -/
def stagedBy (reportId : String) : Ev → Option (String × Payload)
  | .answered _ (.outbox (.triageResultStage other _ fingerprint payload)) (.ok _) =>
      if other = reportId then some (fingerprint, payload) else none
  | _ => none

def reportedBy (reportId : String) : Ev → Option Int
  | .answered _ (.outbox (.triageResultUpdate other fields)) (.ok _) =>
      if other = reportId then fields.revision else none
  | _ => none

/-- What was staged for a report, oldest first, with what the run began with. -/
def stagings (world : World) (reportId : String) (past : List Ev) : List (String × Payload) :=
  ((world.db.outbox.results.get reportId).map fun row => (row.fingerprint, row.payload)).toList ++
    past.filterMap (stagedBy reportId)

/-- The revisions a report has used and the ones sonicgrid has reported for it. -/
def usedRevisions (world : World) (reportId : String) (past : List Ev) : List Int :=
  ((world.db.outbox.results.get reportId).map TriageResult.revision).toList ++
    past.filterMap fun event =>
      ((stagedBy reportId event).map fun staged => staged.2.revision).or (reportedBy reportId event)

structure Recounts (world : World) (past : List Ev) (reportId : String) (stored : Option TriageResult) :
    Prop where
  latest : stored.map (fun row => (row.fingerprint, row.payload)) = (stagings world reportId past).getLast?
  below : ∀ revision ∈ usedRevisions world reportId past, ∃ row, stored = some row ∧ revision ≤ row.revision
  behind : ∀ staged ∈ stagings world reportId past, ∃ row, stored = some row ∧
    staged.2.revision ≤ row.revision
  ordered : (stagings world reportId past).Pairwise fun older newer =>
    older.2.revision < newer.2.revision

theorem recounts_quiet {world : World} {past : List Ev} {reportId : String} {stored : Option TriageResult}
    {event : Ev} (recounts : Recounts world past reportId stored) (staged : stagedBy reportId event = none)
    (reported : reportedBy reportId event = none) : Recounts world (past ++ [event]) reportId stored := by
  have same : stagings world reportId (past ++ [event]) = stagings world reportId past := by
    simp [stagings, List.filterMap_append, staged]
  have used : usedRevisions world reportId (past ++ [event]) = usedRevisions world reportId past := by
    simp [usedRevisions, List.filterMap_append, staged, reported]
  constructor
  · rw [same]
    exact recounts.latest
  · rw [used]
    exact recounts.below
  · rw [same]
    exact recounts.behind
  · rw [same]
    exact recounts.ordered

theorem recounts_staged {world : World} {past : List Ev} {reportId projectId fingerprint : String}
    {payload : Payload} {stored : Option TriageResult} {event : Ev}
    (recounts : Recounts world past reportId stored)
    (above : ∀ row, stored = some row → row.revision < payload.revision)
    (staged : stagedBy reportId event = some (fingerprint, payload)) :
    Recounts world (past ++ [event]) reportId
      (some (stagedResult stored reportId projectId fingerprint payload)) := by
  have grown : stagings world reportId (past ++ [event]) =
      stagings world reportId past ++ [(fingerprint, payload)] := by
    simp [stagings, List.filterMap_append, staged]
  have used : usedRevisions world reportId (past ++ [event]) =
      usedRevisions world reportId past ++ [payload.revision] := by
    simp [usedRevisions, List.filterMap_append, staged]
  constructor
  · rw [grown, List.getLast?_concat]
    simp
  · rw [used]
    intro revision member
    refine ⟨_, rfl, ?_⟩
    rw [staged_revision]
    obtain older | newest := List.mem_append.mp member
    · obtain ⟨row, same, below⟩ := recounts.below revision older
      have later := above row same
      omega
    · rw [List.mem_singleton.mp newest]
  · rw [grown]
    intro one member
    refine ⟨_, rfl, ?_⟩
    rw [staged_revision]
    obtain older | newest := List.mem_append.mp member
    · obtain ⟨row, same, below⟩ := recounts.behind one older
      have later := above row same
      omega
    · rw [List.mem_singleton.mp newest]
  · rw [grown, List.pairwise_append]
    refine ⟨recounts.ordered, List.pairwise_singleton _ _, ?_⟩
    intro older member newest last
    obtain ⟨row, same, below⟩ := recounts.behind older member
    have later := above row same
    rw [List.mem_singleton.mp last]
    show older.2.revision < payload.revision
    omega

theorem recounts_answered {world : World} {past : List Ev} {reportId : String} {row : TriageResult}
    {fields : TriageResultFields} {event : Ev} (recounts : Recounts world past reportId (some row))
    (raised : ∀ revision, fields.revision = some revision → row.revision ≤ revision)
    (staged : stagedBy reportId event = none) (reported : reportedBy reportId event = fields.revision) :
    Recounts world (past ++ [event]) reportId (some (fields.write row)) := by
  have same : stagings world reportId (past ++ [event]) = stagings world reportId past := by
    simp [stagings, List.filterMap_append, staged]
  have used : usedRevisions world reportId (past ++ [event]) =
      usedRevisions world reportId past ++ fields.revision.toList := by
    cases revised : fields.revision with
    | none => simp [usedRevisions, List.filterMap_append, staged, reported, revised]
    | some revision => simp [usedRevisions, List.filterMap_append, staged, reported, revised]
  have kept : row.revision ≤ (fields.write row).revision := by
    show row.revision ≤ fields.revision.getD row.revision
    cases revised : fields.revision with
    | none => exact le_rfl
    | some revision => exact raised revision revised
  constructor
  · rw [same]
    exact recounts.latest
  · rw [used]
    intro revision member
    refine ⟨_, rfl, ?_⟩
    obtain older | newest := List.mem_append.mp member
    · obtain ⟨found, here, below⟩ := recounts.below revision older
      cases here
      omega
    · have revised : fields.revision = some revision := Option.mem_toList.mp newest
      show revision ≤ fields.revision.getD row.revision
      rw [revised]
      exact le_rfl
  · rw [same]
    intro one member
    obtain ⟨found, here, below⟩ := recounts.behind one member
    cases here
    exact ⟨_, rfl, below.trans kept⟩
  · rw [same]
    exact recounts.ordered

def Recounted (world : World) (past : List Ev) (shadow : PushShadow) : Prop :=
  ∀ reportId, Recounts world past reportId (shadow.world.db.outbox.results.get reportId)

theorem recounted_boot (world : World)
    (sound : ∀ id row, world.db.outbox.results.get id = some row → row.Sound) :
    Recounted world [] (Shadow.boot pushConduct world) := by
  intro reportId
  show Recounts world [] reportId (world.db.outbox.results.get reportId)
  cases found : world.db.outbox.results.get reportId with
  | none =>
      constructor
      · simp [stagings, found]
      · intro revision member
        simp [usedRevisions, found] at member
      · intro staged member
        simp [stagings, found] at member
      · simp [stagings, found]
  | some row =>
      constructor
      · simp [stagings, found]
      · intro revision member
        simp [usedRevisions, found] at member
        exact ⟨row, rfl, member.le⟩
      · intro staged member
        simp [stagings, found] at member
        rw [member]
        exact ⟨row, rfl, (sound reportId row found).reached⟩
      · simp [stagings, found]

theorem pending_revision {row : TriageResult} (sound : row.Sound) (pending : row.Pending) :
    row.revision = row.payload.revision := by
  by_contra different
  obtain unacked | same := pending.2
  · exact unacked (sound.ahead different)
  · exact different same

theorem unwritten {id : Nat} {op : Op} {answer : Except Exn op.Ans} {reportId : String}
    (apart : op.result ≠ some reportId) :
    stagedBy reportId (.answered id op answer) = none ∧ reportedBy reportId (.answered id op answer) = none := by
  cases op with
  | outbox write =>
      cases write with
      | triageResultStage other projectId fingerprint payload =>
          refine ⟨?_, rfl⟩
          cases answer with
          | error error => rfl
          | ok value =>
              apply if_neg
              intro same
              exact apart (same ▸ rfl)
      | triageResultUpdate other fields =>
          refine ⟨rfl, ?_⟩
          cases answer with
          | error error => rfl
          | ok value =>
              apply if_neg
              intro same
              exact apart (same ▸ rfl)
      | syncStateRecord projectId error unresolved => exact ⟨rfl, rfl⟩
  | _ => exact ⟨rfl, rfl⟩

section Steps

variable {world : World} {past : List Ev} {before after : PushShadow} {event : Ev}

theorem recounted_step (desks : PushDesks before) (recounted : Recounted world past before)
    (moves : ShadowMoves pushConduct before event after) : Recounted world (past ++ [event]) after := by
  intro reportId
  have recounts := recounted reportId
  cases moves with
  | answered id actor op env answer now found running permitted ready pending ran =>
      have executed : op.exec id before.fresh env before.world = some (answer, now) := ran
      have allowed : pushingAllowed (pushingOf actor) op := permitted
      have results := op_results (exec_moves executed)
      have there : (Shadow.beginAll pushConduct (bugalizer.spawns op)
          (before.resume pushConduct id actor op answer now)).world = now := by
        cases op <;> rfl
      rw [there, results]
      by_cases written : op.result = some reportId
      swap
      · rw [results_stay op answer _ written]
        obtain ⟨staged, reported⟩ := @unwritten id op answer reportId written
        exact recounts_quiet recounts staged reported
      obtain ⟨desk, under, -⟩ := result_listed (desks.found id actor found) allowed written
      have honest := desks.honest id actor desk found under
      rw [under] at allowed
      cases answer with
      | error error =>
          rw [results_failed]
          apply recounts_quiet recounts
          · cases op with
            | outbox write => cases write <;> rfl
            | _ => rfl
          · cases op with
            | outbox write => cases write <;> rfl
            | _ => rfl
      | ok value =>
          cases op with
          | outbox write =>
              cases write with
              | syncStateRecord projectId error unresolved => cases written
              | triageResultStage other projectId fingerprint payload =>
                  cases written
                  obtain ⟨-, -, stored, known, above⟩ := allowed
                  obtain ⟨-, same⟩ := honest.known reportId stored known
                  rw [result_staged]
                  apply recounts_staged recounts
                  · intro row here
                    exact above row (same.symm.trans here)
                  · exact if_pos rfl
              | triageResultUpdate other fields =>
                  cases written
                  obtain ⟨-, -, -, row, response, now, known, unanswered, -, rfl⟩ := allowed
                  obtain ⟨-, same⟩ := honest.known reportId (some row) known
                  rw [result_answered, same]
                  rw [same] at recounts
                  apply recounts_answered recounts
                  · intro revision revised
                    rw [pending_revision (desks.rows reportId row same) unanswered]
                    exact ((answer_recorded row response now).revision revision revised).2
                  · rfl
                  · exact if_pos rfl
          | _ => cases written
  | _ => exact recounts_quiet recounts rfl rfl

end Steps

section Runs

variable {world : World} {past : List Ev} {last next : Sys}

theorem run_recounted (run : Run bugalizer (State.boot world) past last)
    (sound : ∀ id row, world.db.outbox.results.get id = some row → row.Sound) :
    ∃ shadow, Shades pushConduct last shadow ∧ PushDesks shadow ∧ Recounted world past shadow :=
  run_desks run sound (recounted_boot world sound) fun _ _ _ _ desks held moves =>
    recounted_step desks held moves

end Runs

/-- In every run, whatever the clock reads, whichever answers are lost and however often the process
restarts: a payload is staged for a report above every revision staged for it before and above every
revision sonicgrid was recorded to hold. -/
theorem revisions_increase {world : World} {past : List Ev} {last next : Sys}
    (run : Run bugalizer (State.boot world) past last)
    (sound : ∀ id row, world.db.outbox.results.get id = some row → row.Sound)
    {id : Nat} {reportId projectId fingerprint : String} {payload : Payload}
    (moves : Moves bugalizer last (.answered id
      (.outbox (.triageResultStage reportId projectId fingerprint payload)) (.ok ())) next) :
    ∀ revision ∈ usedRevisions world reportId past, revision < payload.revision := by
  obtain ⟨shadow, shades, desks, recounted⟩ := run_recounted run sound
  obtain ⟨after, moved, -⟩ := moves_shadowed shades moves
  cases moved with
  | answered id actor op env answer now found running permitted ready pending ran =>
      have allowed : pushingAllowed (pushingOf actor)
        (.outbox (.triageResultStage reportId projectId fingerprint payload)) := permitted
      obtain ⟨desk, under, -⟩ := result_listed (desks.found id actor found) allowed rfl
      have honest := desks.honest id actor desk found under
      rw [under] at allowed
      obtain ⟨-, -, stored, known, above⟩ := allowed
      obtain ⟨-, same⟩ := honest.known reportId stored known
      intro revision member
      obtain ⟨row, here, below⟩ := (recounted reportId).below revision member
      have later := above row (same.symm.trans here)
      omega

namespace Scenario

/-- A sonicgrid that lists nothing and answers a result so; the result is built under `fingerprint`. -/
def deliver (clock : Nat) (fingerprint : String) (answer : Except Fault HttpResponse) :
    (op : Op) → op.Env
  | .compute (.triageBaseUrl _) => .ok (some "https://grid")
  | .compute (.buildPayload ..) => .ok ⟨0, fingerprint, .str fingerprint⟩
  | .remote (.listActions ..) => .ok ⟨200, some (.obj [("actions", .arr [])])⟩
  | .remote (.putResult ..) => answer
  | op => outside clock op

def accepted : Except Fault HttpResponse := .ok ⟨200, none⟩

def overruled : Except Fault HttpResponse :=
  .ok ⟨200, some (.obj [("applied", .bool false), ("storedRevision", .int 50)])⟩

def lostAnswer : Except Fault HttpResponse := .error ⟨.httpTimeout, .of "ReadTimeout", ""⟩

/-- A database with one report and no action. -/
def unpushed : World := world (database .closed ⟨[], List.nodup_nil⟩)

theorem unpushed_sound (id : String) (row : TriageResult)
    (stored : unpushed.db.outbox.results.get id = some row) : row.Sound := by
  cases stored

/-- A push at time 5 is overruled; the process restarts with its clock set back, and the result has
changed. -/
def setBack : Script bugalizer (State.boot unpushed) :=
  ⟨.start (.syncProject "p" false) :: steps 0 (deliver 5 "first" overruled) 29 ++
    .restart ⟨settings, 1, fun _ => "id"⟩ :: .start (.syncProject "p" false) ::
      steps 1 (deliver 3 "second" accepted) 20, by decide +kernel⟩

def restaged : Scene bugalizer setBack.last :=
  ⟨.advance 1 (deliver 3 "second" accepted), by decide +kernel⟩

/-- The answer to a push is lost, and the process restarts. -/
def unanswered : Script bugalizer (State.boot unpushed) :=
  ⟨.start (.syncProject "p" false) :: steps 0 (deliver 5 "first" lostAnswer) 27 ++
    .restart ⟨settings, 1, fun _ => "id"⟩ :: .start (.syncProject "p" false) ::
      steps 1 (deliver 3 "first" accepted) 19, by decide +kernel⟩

def resent : Scene bugalizer unanswered.last :=
  ⟨.advance 1 (deliver 3 "first" accepted), by decide +kernel⟩

end Scenario

theorem staged_event {event : Ev} {reportId fingerprint : String} {payload : Payload}
    (staged : stagedBy reportId event = some (fingerprint, payload)) :
    ∃ id projectId, event =
      .answered id (.outbox (.triageResultStage reportId projectId fingerprint payload)) (.ok ()) := by
  unfold stagedBy at staged
  split at staged
  · split at staged
    · rename_i same
      cases same
      cases staged
      exact ⟨_, _, rfl⟩
    · cases staged
  · cases staged

/-- The clock is behind, and what is staged is above what the overruled push was told. -/
theorem revisions_increase_set_back :
    ∃ payload : Payload, payload.revision = 51 ∧
      (5 : Int) ∈ usedRevisions Scenario.unpushed "r" Scenario.setBack.events ∧
      (50 : Int) ∈ usedRevisions Scenario.unpushed "r" Scenario.setBack.events ∧
      ∀ revision ∈ usedRevisions Scenario.unpushed "r" Scenario.setBack.events,
        revision < payload.revision := by
  have stages : (stagedBy "r" Scenario.restaged.event).any (fun staged => staged.2.revision == 51) =
      true := by decide +kernel
  obtain ⟨⟨fingerprint, payload⟩, staged, numbered⟩ := (Option.any_eq_true _ _).mp stages
  obtain ⟨id, projectId, same⟩ := staged_event staged
  have moves := Scenario.restaged.moves
  rw [same] at moves
  refine ⟨payload, beq_iff_eq.mp numbered, by decide +kernel, by decide +kernel, ?_⟩
  exact revisions_increase Scenario.setBack.run Scenario.unpushed_sound moves

/-- What a `PUT` carries: the payload staged last for a report with this external id, under the lock
of its project; no other payload was ever staged for the report under that revision. -/
structure SentAsStaged (world : World) (past : List Ev) (last : World) (externalId : String)
    (payload : Payload) : Prop where
  reported : ∃ reportId row fingerprint, last.db.reports.get reportId = some row ∧
    row.externalId = some externalId ∧ .tick row.projectId ∈ last.memory.locks ∧
    (stagings world reportId past).getLast? = some (fingerprint, payload) ∧
    ∀ staged ∈ stagings world reportId past, staged.2.revision = payload.revision →
      staged = (fingerprint, payload)

theorem pairwise_revision {staged : List (String × Payload)} {one other : String × Payload}
    (ordered : staged.Pairwise fun older newer => older.2.revision < newer.2.revision)
    (member : one ∈ staged) (also : other ∈ staged) (same : one.2.revision = other.2.revision) :
    one = other := by
  induction ordered with
  | nil => cases member
  | cons above _ ih =>
      cases member with
      | head =>
          cases also with
          | head => rfl
          | tail _ later => exact absurd same (above other later).ne
      | tail _ earlier =>
          cases also with
          | head => exact absurd same.symm (above one earlier).ne
          | tail _ later => exact ih earlier later

/-- In every run each `PUT` carries what was last staged for a report with that external id, so that
one revision of a report always means one payload, also when it is sent again after a lost answer or
a restart. -/
theorem sent_as_staged {world : World} {past : List Ev} {last next : Sys}
    (run : Run bugalizer (State.boot world) past last)
    (sound : ∀ id row, world.db.outbox.results.get id = some row → row.Sound)
    {id : Nat} {endpoint : Endpoint} {externalId : String} {payload : Payload}
    (moves : Moves bugalizer last (.issued id (.remote (.putResult endpoint externalId payload))) next) :
    SentAsStaged world past last.world externalId payload := by
  obtain ⟨shadow, shades, desks, recounted⟩ := run_recounted run sound
  obtain ⟨after, moved, -⟩ := moves_shadowed shades moves
  cases moved with
  | issued id actor op found running permitted suspends awake =>
      have allowed : pushingAllowed (pushingOf actor)
        (.remote (.putResult endpoint externalId payload)) := permitted
      cases under : pushingOf actor with
      | away =>
          rw [under] at allowed
          cases allowed
      | lost => exact absurd under (desks.found id actor found)
      | under desk =>
          rw [under] at allowed
          obtain ⟨report, member, named, row, known, -, same⟩ := allowed
          have honest := desks.honest id actor desk found under
          obtain ⟨stored, there, own, external, some⟩ := honest.listed report member
          obtain ⟨-, kept⟩ := honest.known report.id _ known
          have recounts := recounted report.id
          have latest := recounts.latest
          rw [kept, Option.map_some, same] at latest
          have there' : last.world.db.reports.get report.id = Option.some stored := by
            rw [shades.world]
            exact there
          have named' : stored.externalId = Option.some externalId := by
            obtain ⟨text, has⟩ := Option.isSome_iff_exists.mp some
            rw [has] at named external
            rw [external, ← named]
            rfl
          have locked : .tick stored.projectId ∈ last.world.memory.locks := by
            rw [own, shades.world]
            exact honest.locked
          refine ⟨report.id, stored, row.fingerprint, there', named', locked, latest.symm, ?_⟩
          intro staged older equal
          exact pairwise_revision recounts.ordered older (List.mem_of_getLast? latest.symm) equal

/-- The result an event sends, with the external id it is for. -/
def sentResult : Ev → Option (String × Payload)
  | .issued _ (.remote (.putResult _ externalId payload)) => some (externalId, payload)
  | _ => none

theorem sent_result_event {event : Ev} {externalId : String} {payload : Payload}
    (sent : sentResult event = some (externalId, payload)) :
    ∃ id endpoint, event = .issued id (.remote (.putResult endpoint externalId payload)) := by
  unfold sentResult at sent
  split at sent
  · cases sent
    exact ⟨_, _, rfl⟩
  · cases sent

/-- After the lost answer and the restart the payload of time 5 is sent again. -/
theorem sent_as_staged_again :
    ∃ payload : Payload, payload.revision = 5 ∧
      SentAsStaged Scenario.unpushed Scenario.unanswered.events Scenario.unanswered.last.world "bug"
        payload := by
  have sends : (sentResult Scenario.resent.event).any
      (fun sent => sent.1 == "bug" && sent.2.revision == 5) = true := by decide +kernel
  obtain ⟨⟨externalId, payload⟩, sent, named⟩ := (Option.any_eq_true _ _).mp sends
  rw [Bool.and_eq_true, beq_iff_eq, beq_iff_eq] at named
  obtain ⟨id, endpoint, same⟩ := sent_result_event sent
  have moves := Scenario.resent.moves
  rw [same] at moves
  have staged := sent_as_staged Scenario.unanswered.run Scenario.unpushed_sound moves
  rw [show externalId = "bug" from named.1] at staged
  exact ⟨payload, named.2, staged⟩

end Bugalizer
