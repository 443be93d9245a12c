import Bugalizer.Coroutine.Blame
import Bugalizer.Sync.Authorize

/-!
# What the handling of an action is to blame for

The parts of the handling that do not read the action raise nothing of their own. The calls may fail:
none of them is given a text of the action that it could refuse.
-/

namespace Bugalizer

set_option autoImplicit false

open Coroutine Program

/-- `pinned` follows the write that pins an authorization, until the loop is given away;
`spoiled` follows a failed call, a request that ends the tick, or the loss of the row that
was just pinned. -/
inductive Tally where
  | fine
  | pinned (actionId : String)
  | spoiled
deriving DecidableEq

def HttpResponse.aborts (response : HttpResponse) : Bool :=
  response.status = 401 || response.status = 503 ||
    (500 ≤ response.status && response.status < 600)

/-- A call that fails is excused: the action's own texts were let through before it. -/
def tallyNext (tally : Tally) (op : Op) (answer : Except Exn op.Ans) : Tally :=
  match answer with
  | .error _ => .spoiled
  | .ok value =>
      if tally = .spoiled then .spoiled
      else match op, value with
        | .remote (.advance ..), response => if response.aborts then .spoiled else .fine
        | .ledger (.update actionId (some .reserved) _), hit =>
            if hit = true then .pinned actionId else .fine
        | .query (.triageActionGet actionId), none =>
            if tally = .pinned actionId then .spoiled else tally
        | .query _, _ => tally
        | _, _ => .fine

def tallies : Blame Op Op.Ans Exn where
  discipline :=
    { Ghost := Tally
      allowed := fun _ _ => True
      next := tallyNext }
  blamed tally := tally = .spoiled
  allows _ _ := trivial
  failed _ _ _ := rfl
  kept tally op answer spoiled := by
    subst spoiled
    cases answer with
    | error error => rfl
    | ok value => simp [tallyNext]

/-- Has `.get`, as it is read with `or {}`. -/
def Json.Gettable (value : Json) : Prop := (objectOr value).isObj = true

/-- A member of a value with `.get`, as it is read with `or {}`. -/
def Json.member (value : Json) (name : String) : Json := (objectOr value).get name

theorem gettable_get {value : Json} (gettable : value.Gettable) (name : String) :
    getField (objectOr value) name = done (value.member name) := by
  unfold Json.Gettable at gettable
  unfold getField Json.member Json.get Json.field?
  cases read : objectOr value with
  | obj fields => rfl
  | _ => rw [read] at gettable; cases gettable

section Parts

variable {settings : Settings} {project : Project} {report : Report} {endpoint : Endpoint}

theorem blameless_ask (op : Op) : (ask op).Blameless tallies := blameless_perform op

theorem blameless_pure {Value : Type} {body : Py Value} {value : Value} (same : body = done value) :
    body.Blameless tallies := by
  rw [same]
  exact blameless_done value

theorem blameless_check_cloud (row : Report) (project : Option Project) :
    (checkCloudAnalysis row project).Blameless tallies := by
  unfold checkCloudAnalysis
  split
  swap
  · exact blameless_done _
  refine blameless_bind (blameless_ask _) fun localization => ?_
  split
  · exact blameless_done _
  · dsimp only
    split <;> exact blameless_done _

theorem blameless_authorize_checked (kind : Kind) (granted : Authorization) :
    (authorizeChecked project report kind granted).Blameless tallies := by
  refine blameless_bind (blameless_check_cloud _ _) fun refusal => ?_
  cases refusal <;> exact blameless_done _

theorem blameless_finish (actionId : String) (result : Result) (expected : Option LedgerPhase) :
    (finish actionId result expected).Blameless tallies := by
  refine blameless_bind (blameless_ask _) fun finished => ?_
  dsimp only
  split
  · exact blameless_bind (blameless_ask _) fun _ => blameless_done _
  · exact blameless_done _
  · exact blameless_bind (blameless_ask _) fun _ => blameless_done _

theorem blameless_timed_out (row : TriageAction) : (timedOut settings row).Blameless tallies := by
  unfold timedOut
  split
  · exact blameless_done _
  · exact blameless_bind (blameless_ask _) fun _ => blameless_done _

theorem blameless_run_inline (row : TriageAction) : (runInline row).Blameless tallies := by
  unfold runInline
  split
  · refine blameless_bind (blameless_ask _) fun _ => blameless_bind (blameless_ask _) fun answer => ?_
    split
    · exact blameless_done _
    · exact blameless_done _
    · exact blameless_bind (blameless_ask _) fun report =>
        blameless_bind (blameless_finish _ _ _) fun _ => blameless_done _
  · refine blameless_bind ?_ fun result => blameless_bind (blameless_finish _ _ _) fun _ =>
      blameless_done _
    refine blameless_bind (blameless_ask _) fun _ => blameless_bind (blameless_ask _) fun report => ?_
    split
    · exact blameless_done _
    split
    · exact blameless_catching (blameless_bind
        (blameless_bind (blameless_ask _) fun _ => blameless_ask _) fun _ => blameless_done _)
    unfold runClose
    split
    · exact blameless_done _
    split
    · exact blameless_done _
    refine blameless_catching (blameless_bind (blameless_bind (blameless_ask _) fun hit => ?_)
      fun updated => ?_)
    · split
      · exact blameless_done _
      · exact blameless_ask _
    · split <;> exact blameless_done _

theorem blameless_dispatch (actionId : String) (row : TriageAction) (phase : LedgerPhase) :
    (dispatch actionId row phase).Blameless tallies := by
  refine blameless_bind (blameless_ask _) fun now => blameless_bind (blameless_ask _) fun moved => ?_
  split
  · exact blameless_ask _
  split
  · exact blameless_ask _
  split
  · exact blameless_ask _
  · exact blameless_ensuring (blameless_run_inline row) (blameless_ask _)

theorem blameless_release_unless (actionId : String) :
    (releaseUnlessRunning actionId).Blameless tallies := by
  refine blameless_bind (blameless_ask _) fun running => ?_
  split
  · exact blameless_done _
  · exact blameless_ask _

theorem blameless_finished_rows (actionId : String) : (finishedRows actionId).Blameless tallies :=
  blameless_bind (blameless_ask _) fun _ => blameless_done _

theorem blameless_paid_evidence (row : TriageAction) : (paidEvidence row).Blameless tallies := by
  refine blameless_bind (blameless_ask _) fun proposals => ?_
  split
  · split <;> exact blameless_done _
  · refine blameless_bind (blameless_finished_rows _) fun found => ?_
    split <;> exact blameless_done _

theorem blameless_evidence (row : TriageAction) : (evidence row).Blameless tallies := by
  unfold evidence
  split
  · exact blameless_bind (blameless_finished_rows _) fun _ => blameless_done _
  · exact blameless_paid_evidence row
  · exact blameless_paid_evidence row
  · exact blameless_done _

theorem blameless_spawn_pr (actionId : String) : (spawnPr actionId).Blameless tallies :=
  blameless_ask _

theorem blameless_recover (row : TriageAction) : (recover settings row).Blameless tallies := by
  have expires : ∀ expected result, (do
      let _ ← finish row.actionId result expected
      pure () : Py Unit).Blameless tallies := fun expected result =>
    blameless_bind (blameless_finish _ _ _) fun _ => blameless_done _
  have spawns : (do
      let held ← tryHold row.actionId row.reportId false
      if held then spawnPr row.actionId else pure () : Py Unit).Blameless tallies := by
    refine blameless_bind (blameless_ask _) fun held => ?_
    split
    · exact blameless_spawn_pr _
    · exact blameless_done _
  have applies : ∀ found, (applyEvidence row found).Blameless tallies := by
    intro found
    unfold applyEvidence
    split
    · refine blameless_bind (blameless_ask _) fun checkpointed => ?_
      split
      · exact spawns
      · exact blameless_done _
    · exact expires _ _
  refine blameless_bind (blameless_timed_out row) fun overdue => ?_
  split
  · exact expires _ _
  split
  · exact spawns
  split
  · refine blameless_bind (blameless_ask _) fun held => ?_
    split
    · split
      · exact blameless_spawn_pr _
      · exact blameless_ensuring (blameless_run_inline row) (blameless_ask _)
    · exact blameless_done _
  split
  swap
  · exact blameless_done _
  refine blameless_bind (blameless_evidence row) fun found => ?_
  cases found with
  | some found => exact applies found
  | none =>
  have rest : ∀ held : Bool, Blameless tallies (if held then pure ()
      else if row.phase = .intent && settings.sonicgridUserKeys && row.kind.paid &&
          row.keyMode != some requester then do
        let _ ← finish row.actionId (stepResult row.kind .refused legacyRefusal) (some row.phase)
      else if row.noAutoRetry then do
        let _ ← finish row.actionId (unconfirmedFailure row.kind) (some row.phase)
      else do
        let slot ← tryHold row.actionId row.reportId row.kind.llm
        if slot then
          (dispatch row.actionId row row.phase).ensuring (releaseUnlessRunning row.actionId)
        else pure () : Py Unit) := by
    intro held
    split
    · exact blameless_done _
    split
    · exact expires _ _
    split
    · exact expires _ _
    refine blameless_bind (blameless_ask _) fun slot => ?_
    split
    · exact blameless_ensuring (blameless_dispatch _ _ _) (blameless_release_unless _)
    · exact blameless_done _
  dsimp only
  split
  · exact blameless_bind (blameless_bind (blameless_ask _) fun report => blameless_done _) rest
  · exact rest false

/-- The claim request: only an answer that ends the tick makes it raise. -/
theorem blameless_advance (actionId : String) (body : AdvanceBody) :
    (advance endpoint actionId body).Blameless tallies := by
  intro tally
  have asked : ∀ handler : Exn → Py HttpResponse,
      ((remote (.advance endpoint actionId body)).catching handler).Follows tallies.discipline tally
        (fun response reached => response.aborts = true → reached = .spoiled)
        fun _ => tallies.blamed := by
    intro handler
    refine (follows_catching ..).mpr ((follows_perform ..).mpr ⟨trivial, fun response => ?_,
      fun error => ?_⟩)
    · intro aborts
      show tallyNext tally (.remote (.advance endpoint actionId body)) (.ok response) = .spoiled
      simp [tallyNext, aborts]
    · exact (blamed_follows (handler error) rfl).mono (fun _ _ spoiled _ => spoiled)
        fun _ _ spoiled => spoiled
  have requested : (request (.advance endpoint actionId body) id).BlamelessFrom tallies tally := by
    refine Follows.andThen (asked _) (fun response reached blamed => ?_) fun _ _ spoiled => spoiled
    dsimp only [id]
    split
    · rename_i status
      exact blamed (by simp [HttpResponse.aborts, status])
    split
    · rename_i status
      exact blamed (by simp [HttpResponse.aborts, status])
    split
    · rename_i status
      exact blamed (by simp [HttpResponse.aborts, status])
    · trivial
  exact Follows.andThen requested (fun _ _ _ => trivial) fun _ _ spoiled => spoiled

theorem dispatch_authorized_blameless (actionId : String) :
    (dispatchAuthorized actionId).BlamelessFrom tallies (.pinned actionId) := by
  have read : (triageActionGet actionId).Follows tallies.discipline (.pinned actionId)
      (fun found reached => found = none → reached = .spoiled) fun _ => tallies.blamed := by
    refine (follows_perform ..).mpr ⟨trivial, fun found absent => ?_, fun _ => rfl⟩
    subst absent
    show tallyNext (.pinned actionId) (.query (.triageActionGet actionId)) (.ok none) = .spoiled
    simp [tallyNext]
  refine Follows.andThen read (fun found reached blamed => ?_) fun _ _ spoiled => spoiled
  cases found with
  | none => exact blamed rfl
  | some found => exact blameless_dispatch _ _ _ reached

theorem blameless_running (row : TriageAction) (running : Bool) :
    (handleRunning settings row running).Blameless tallies := by
  unfold handleRunning
  split
  · refine blameless_bind (blameless_timed_out row) fun overdue => ?_
    split
    · exact blameless_bind (blameless_finish _ _ _) fun _ => blameless_done _
    · exact blameless_done _
  · exact blameless_done _

end Parts

end Bugalizer
