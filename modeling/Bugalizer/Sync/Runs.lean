import Bugalizer.Sync.Footprints
import Bugalizer.Sync.StageRuns

/-!
# Every coroutine of the sync keeps its insight

Most of a tick rests on nothing: it may run whatever is known of an action (`freeOp`). The
rest is authorized, dispatched, executed and recovered on the row that was just read.
-/

namespace Bugalizer

set_option autoImplicit false

open Coroutine Program

/-- The coroutine attends to the sync, and if it is an action's task it has begun. -/
def Insight.begun : Insight → Bool
  | .outside | .tasked _ => false
  | _ => true

section Free

variable {listed : ListedAction → Prop} {settings : Settings} {insight : Insight}
variable {Result : Type} {body : Py Result}

theorem begun_inside (begun : insight.begun) : insight ≠ .outside := by
  rintro rfl
  cases begun

theorem yield_begun (begun : insight.begun) : insight.yield.begun := by
  cases insight <;> exact begun

theorem after_begun (op : Op) (begun : insight.begun) : (insight.after op).begun := by
  unfold Insight.after
  split
  · exact yield_begun begun
  · exact begun

theorem found_begun (row : TriageAction) (begun : insight.begun) : (insight.found row).begun := by
  unfold Insight.found
  split
  · cases begun
  · rfl
  · cases begun
  · split
    · split <;> rfl
    · rfl

theorem missing_begun (actionId : String) (begun : insight.begun) :
    (insight.missing actionId).begun := by
  unfold Insight.missing
  split
  · split
    · rfl
    · exact begun
  · exact begun

theorem updated_begun (actionId : String) (expected : LedgerPhase) (fields : TriageActionFields)
    (hit : Bool) (begun : insight.begun) :
    (insight.updated actionId expected fields hit).begun := by
  unfold Insight.updated
  split
  swap
  · exact begun
  split_ifs <;> first | rfl | exact begun | exact yield_begun begun

theorem begun_next (op : Op) (answer : Except Exn op.Ans) (begun : insight.begun) :
    (insightNext listed insight op answer).begun := by
  cases answer with
  | error error =>
      simp only [insightNext]
      split
      · rfl
      split
      · cases insight <;> first | rfl | cases begun
      · cases insight <;> simp only [Insight.completed] <;>
          first | rfl | (split <;> rfl) | cases begun
      · cases insight <;> first | rfl | cases begun
      · exact after_begun _ begun
  | ok value =>
      unfold insightNext
      dsimp only
      split
      · exact found_begun _ begun
      · exact missing_begun _ begun
      · exact updated_begun _ _ _ _ begun
      · exact yield_begun begun
      · exact yield_begun begun
      · cases insight <;> simp only [Insight.decided] <;>
          first | rfl | (split <;> rfl) | cases begun
      · unfold Insight.started
        split <;> first | rfl | exact begun
      · cases insight <;> first | rfl | cases begun
      · cases insight <;> first | rfl | cases begun
      · unfold Insight.answeredKey
        split
        · split <;> rfl
        · exact yield_begun begun
      · cases insight <;> simp only [Insight.completed] <;>
          first | rfl | (split <;> rfl) | cases begun
      · split
        · exact yield_begun begun
        · rfl
      · cases insight <;> first | rfl | cases begun
      · exact after_begun _ begun

def freeOp (listed : ListedAction → Prop) (settings : Settings) (op : Op) : Prop :=
  programOp op ∧ ∀ insight, attendedOp listed settings insight op

theorem free_follows (only : body.Only (freeOp listed settings)) (begun : insight.begun) :
    body.Follows (syncRun listed settings) insight (fun _ reached => reached.begun)
      (fun _ reached => reached.begun) :=
  only.follows (syncRun listed settings) (fun reached => Insight.begun reached)
    (fun (reached : Insight) _ begun free => ⟨free.1, .inr (.inr ⟨begun_inside begun,
      free.2 reached⟩)⟩)
    (fun _ _ answer begun _ => begun_next _ answer begun) begun

theorem free_ask {op : Op} (sync : syncOp op)
    (rests : ∀ insight, attendedOp listed settings insight op) :
    (ask op).Only (freeOp listed settings) := only_ask ⟨.inr (.inr (.inl sync)), rests⟩

def stillOp : Op → Prop
  | .query (.triageActionGet _) => False
  | .query _ | .compute _ | .observe _ | .outbox _ => True
  | .memory asked => syncOp (.memory asked)
  | _ => False

theorem still_free {op : Op} (still : stillOp op) : freeOp listed settings op := by
  unfold stillOp at still
  split at still
  · cases still
  · exact ⟨.inr (.inr (.inl trivial)), fun _ => trivial⟩
  · exact ⟨.inr (.inr (.inl trivial)), fun _ => trivial⟩
  · exact ⟨.inr (.inr (.inl trivial)), fun _ => trivial⟩
  · exact ⟨.inr (.inr (.inl trivial)), fun _ => trivial⟩
  · exact ⟨.inr (.inr (.inl still)), fun _ => trivial⟩
  · cases still

def Insight.Kept (known : Insight) (insight : Insight) : Prop := insight = known ∨ insight = .lost

theorem still_follows (only : body.Only stillOp) (known : Insight) (begun : known.begun)
    (kept : Insight.Kept known insight) :
    body.Follows (syncRun listed settings) insight (fun _ => Insight.Kept known)
      (fun _ => Insight.Kept known) := by
  refine only.follows (syncRun listed settings) (Insight.Kept known)
    (fun (reached : Insight) op kept still => ?_) (fun (reached : Insight) op answer kept still => ?_)
    kept
  · have free : freeOp listed settings op := still_free still
    rcases kept with rfl | lost
    · exact ⟨free.1, .inr (.inr ⟨begun_inside begun, free.2 _⟩)⟩
    · exact ⟨free.1, .inl lost⟩
  · show Insight.Kept known (insightNext listed reached op answer)
    have idle : idleOp op ∧ op.suspends = false := by
      cases op with
      | query q => cases q <;> first | exact ⟨rfl, rfl⟩ | cases still
      | _ => first | exact ⟨rfl, rfl⟩ | cases still
    rcases idle_next idle.1 answer with moved | lost
    · rw [moved, Insight.after, idle.2]
      exact kept
    · exact .inr lost

end Free

section Still

variable {settings : Settings}

theorem reads_still {Result : Type} {body : Py Result} (only : body.Only (within reads)) :
    body.Only stillOp := by
  refine only.mono fun op look => ?_
  have realm : op.realm = .look := List.mem_singleton.mp (List.mem_of_elem_eq_true look)
  cases op with
  | query q => cases q <;> first | exact trivial | cases realm
  | memory asked =>
      cases asked with
      | unlock lock => cases lock <;> cases realm
      | _ => first | exact trivial | cases realm
  | joint write => cases write <;> cases realm
  | stage write => cases write <;> cases realm
  | outbox write => cases write <;> cases realm
  | remote asked => cases asked <;> first | cases realm | (rename_i body; cases body <;> cases realm)
  | note mark => cases mark <;> cases realm
  | acquire lock => cases lock <;> cases realm
  | createTask id job => cases job <;> cases realm
  | compute asked => trivial
  | observe asked => trivial
  | _ => cases realm

theorem still_query {q : Query} (still : stillOp (.query q)) : (query q).Only stillOp :=
  only_ask still

theorem still_clock : clock.Only stillOp := only_ask trivial

theorem still_memory {asked : MemoryCall} (sync : syncOp (.memory asked)) :
    (ask (.memory asked)).Only stillOp := only_ask sync

theorem still_release_unless (actionId : String) : (releaseUnlessRunning actionId).Only stillOp := by
  refine only_bind (still_memory trivial) fun running => ?_
  split
  · trivial
  · exact still_memory trivial

theorem still_stage_push (project : Project) (todo : Todo) :
    (stagePush project todo).Only stillOp := by
  unfold stagePush
  split
  · exact only_bind still_clock fun _ => only_bind (only_ask trivial) fun _ => trivial
  · trivial
  · trivial

end Still

section FreeParts

variable {listed : ListedAction → Prop} {settings : Settings}

theorem still_is_free {Result : Type} {body : Py Result} (still : body.Only stillOp) :
    body.Only (freeOp listed settings) := still.mono fun _ => still_free

theorem free_read (actionId : String) :
    (triageActionGet actionId).Only (freeOp listed settings) := free_ask trivial fun _ => trivial

theorem free_ledger {write : LedgerWrite} (shape : LedgerShape write)
    (rests : ∀ insight, attendedOp listed settings insight (.ledger write)) :
    (ask (.ledger write)).Only (freeOp listed settings) := free_ask shape rests

theorem free_finish (actionId : String) (result : Result) (expected : Option LedgerPhase) :
    (finish actionId result expected).Only (freeOp listed settings) := by
  refine only_bind (free_ledger (.finish ..) fun _ => trivial) fun finished => ?_
  dsimp only
  split
  · exact only_bind (free_ledger (.prUrl ..) fun _ => trivial) fun _ => trivial
  · trivial
  · exact only_bind (free_ledger (.late ..) fun _ => trivial) fun _ => trivial

theorem free_remote {asked : Remote} (sync : syncOp (.remote asked))
    (rests : ∀ insight, attendedOp listed settings insight (.remote asked)) :
    (remote asked).Only (freeOp listed settings) := free_ask sync rests

theorem free_expire (actionId : String) :
    (expireIfOverdue settings actionId).Only (freeOp listed settings) := by
  refine only_bind (free_read actionId) fun found => ?_
  cases found with
  | none => trivial
  | some found =>
      dsimp only
      split
      · trivial
      refine only_bind (still_is_free (reads_still (timed_out_within _))) fun overdue => ?_
      split
      · exact only_bind (free_finish _ _ _) fun _ => trivial
      · trivial

theorem free_expire_row (row : TriageAction) :
    (expireRow settings row).Only (freeOp listed settings) := by
  refine only_bind (still_is_free (reads_still (timed_out_within _))) fun overdue => ?_
  split
  · exact only_bind (free_finish _ _ _) fun _ => trivial
  · trivial

theorem free_expire_overdue (projectId : Option String) :
    (expireOverdue settings projectId).Only (freeOp listed settings) :=
  only_bind (still_is_free (still_query trivial)) fun _ =>
    only_for_each fun row _ => free_expire_row row

theorem free_request {asked : Remote} {read : asked.Ans → HttpResponse}
    (sync : syncOp (.remote asked))
    (rests : ∀ insight, attendedOp listed settings insight (.remote asked)) :
    (request asked read).Only (freeOp listed settings) := by
  refine only_bind (only_catching (free_remote sync rests) fun error => ?_) fun answer => ?_
  · split <;> trivial
  · dsimp only
    split
    · trivial
    split
    · trivial
    split <;> trivial

theorem free_advance (endpoint : Endpoint) (actionId : String) (body : AdvanceBody) :
    (advance endpoint actionId body).Only (freeOp listed settings) :=
  only_bind (free_request trivial fun _ => trivial) fun _ => trivial

theorem free_drain_row (endpoint : Endpoint) (row : TriageAction) :
    (drainRow endpoint row).Only (freeOp listed settings) := by
  refine only_bind (free_advance _ _ _) fun answer => ?_
  refine only_bind (still_is_free (reads_still (current_state_within _))) fun current => ?_
  have acked : ∀ error, (do
      let _ ← triageActionUpdate row.actionId none
        { terminalAcked := some true, terminalError := error } : Py Unit).Only
        (freeOp listed settings) :=
    fun error => only_bind (free_ledger (.acked ..) fun _ => trivial) fun _ => trivial
  split
  · exact acked none
  split
  · exact acked none
  split
  · exact only_bind (still_is_free (only_ask trivial)) fun shown => acked _
  · trivial

theorem free_drain (endpoint : Endpoint) (projectId : String) :
    (drain endpoint projectId).Only (freeOp listed settings) :=
  only_bind (still_is_free (still_query trivial)) fun _ =>
    only_for_each fun row _ => free_drain_row endpoint row

theorem free_push_one (endpoint : Endpoint) (project : Project) (todo : Todo) :
    (pushOne endpoint project todo).Only (freeOp listed settings) := by
  refine only_bind (still_is_free (still_stage_push _ _)) fun payload => ?_
  refine only_bind (only_bind (free_request trivial fun _ => trivial) fun _ => trivial)
    fun answer => ?_
  exact only_bind (still_is_free still_clock) fun now => free_ask trivial fun _ => trivial

theorem free_push (endpoint : Endpoint) (project : Project) :
    (push settings endpoint project).Only (freeOp listed settings) :=
  only_bind (still_is_free (still_query trivial)) fun _ =>
    only_bind (still_is_free (reads_still (collect_within _ _))) fun _ =>
      only_for_each fun todo _ => free_push_one endpoint project todo

theorem free_read_pr_state (project : Project) (number : Int) :
    (readPrState settings project number).Only (freeOp listed settings) := by
  unfold readPrState
  split
  · trivial
  refine only_bind (still_is_free (only_ask trivial)) fun slug => ?_
  split
  · trivial
  refine only_bind (only_catching (free_remote trivial fun _ => trivial) fun error => ?_)
    fun response => ?_
  · split <;> trivial
  split
  · split
    · unfold prStateOf
      split
      · trivial
      split
      · trivial
      split <;> trivial
    · trivial
  split
  · trivial
  split
  · trivial
  split <;> trivial

theorem free_check_numbered (project : Project) (proposal : FixProposal) (number : Int) :
    (checkNumbered settings project proposal number).Only (freeOp listed settings) := by
  refine only_bind (only_catching (only_bind (free_read_pr_state _ _) fun _ => trivial)
    fun error => ?_) fun reading => ?_
  · split <;> trivial
  · split
    · exact only_bind (free_ask trivial fun _ => trivial) fun _ => trivial
    · exact only_bind (free_ask trivial fun _ => trivial) fun _ => trivial
    · exact only_bind (free_ask trivial fun _ => trivial) fun _ => trivial

theorem free_check_pr (project : Project) (proposal : FixProposal) :
    (checkPr settings project proposal).Only (freeOp listed settings) := by
  unfold checkPr
  split
  · exact free_check_numbered _ _ _
  · trivial

theorem free_check_each (project : Project) (proposals : List FixProposal) :
    (checkEach settings project proposals).Only (freeOp listed settings) := by
  induction proposals with
  | nil => trivial
  | cons proposal proposals ih =>
      refine only_bind (free_check_pr _ _) fun limited => ?_
      split
      · trivial
      · exact ih

theorem free_check_prs (project : Project) :
    (checkPrs settings project).Only (freeOp listed settings) := by
  unfold checkPrs
  split
  · trivial
  · exact only_bind (still_is_free still_clock) fun _ =>
      only_bind (still_is_free (still_query trivial)) fun _ => free_check_each _ _

theorem free_check_prs_only (projectId : String) :
    (checkPrsOnly settings projectId).Only (freeOp listed settings) := by
  refine only_bind (still_is_free (still_memory trivial)) fun locked => ?_
  split
  · trivial
  refine only_bind (free_ask trivial fun _ => trivial) fun _ =>
    only_ensuring (only_bind (still_is_free (reads_still (project_get_within _))) fun project => ?_)
      (still_is_free (still_memory trivial))
  cases project with
  | none => trivial
  | some project => exact free_check_prs project

/-- An open-pr call rests on nothing the sync knows. -/
theorem pr_free {op : Op} (pr : prOp op) : freeOp listed settings op := by
  refine ⟨.inr (.inl pr), fun insight => ?_⟩
  cases op with
  | report write =>
      cases write with
      | tryClaim id expected new token =>
          obtain ⟨-, rfl, -⟩ := pr
          exact fun enters => by cases enters
      | updateStatus id new reason expected => cases pr
      | updateFields id fields => cases pr
      | _ => trivial
  | joint write => cases write <;> trivial
  | remote asked => cases asked <;> trivial
  | note mark => cases pr
  | ledger write => cases pr
  | createTask id job => cases pr
  | _ => trivial

theorem free_pr_step (reportId : String) (proposalId : Option String) (attempts : Nat) :
    (prStep settings reportId proposalId attempts).Only (freeOp listed settings) := by
  have opens : (openPullRequest settings reportId proposalId).Only (freeOp listed settings) :=
    (@open_pull_request_follows .idle settings proposalId reportId (.inl rfl)).forget.2.mono
      fun _ => pr_free
  refine only_bind (only_catching (only_bind opens fun _ => trivial) fun error =>
    only_bind (still_is_free (reads_still (step_failed_within _ _ _ _))) fun _ => trivial) fun opened => ?_
  split
  · exact still_is_free (reads_still (pr_opened_within _ _))
  · trivial

end FreeParts

end Bugalizer
