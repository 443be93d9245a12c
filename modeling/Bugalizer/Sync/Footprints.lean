import Bugalizer.GitOps.Ownership
import Bugalizer.Pipeline.Runs
import Bugalizer.Sync.TriageSync

/-!
# What each part of the sync touches

Every operation belongs to one realm of the world. The footprint of a coroutine is a list of
realms its operations stay within; it is stated once for each part of the sync, and every
invariant that a realm cannot break is kept by the parts that do not touch it.
-/

namespace Bugalizer

set_option autoImplicit false

open Coroutine Program

/-- `look` reads and touches nothing, `row` reads a row of the ledger, `outside` leaves the
process, `verdicts` posts an outcome and `deliveries` a result, `tally` is a tick's own bookkeeping, `deeds` marks
what a tick does for an action, `attempts` are the rows of `analyses`, `proposals` the new ones
of `fix_proposals`, `strays` would be tasks of no action. -/
inductive Realm where
  | look | row | reports | stages | attempts | strays | ledger | reopening | outbox | projects | slots | claims | ticks
  | git | tally | outside | verdicts | deliveries | marks | deeds | proposals
deriving DecidableEq

def Op.realm : Op → Realm
  | .query (.triageActionGet _) => .row
  | .query _ | .compute _ | .observe _ => .look
  | .report _ => .reports
  | .stage (.analysisCreate _) | .stage (.analysisUpdate ..) => .attempts
  | .stage (.fixProposalCreate _) => .proposals
  | .stage _ => .stages
  | .ledger _ => .ledger
  | .joint (.reopenForAction ..) => .reopening
  | .joint _ => .reports
  | .project .. => .projects
  | .outbox (.syncStateRecord ..) => .tally
  | .outbox _ => .outbox
  | .memory (.lockHeld _) => .look
  | .memory (.taskRunning _) | .memory (.tryHold ..) | .memory (.release _) => .slots
  | .createTask _ (.actionTask _) | .createTask _ (.prTask _) => .slots
  | .createTask .. => .strays
  | .memory (.registerClaim ..) | .memory (.dropClaim ..) | .memory (.setFinalized _)
  | .memory (.finalized _) | .memory (.openPrRunning _) | .newToken => .claims
  | .memory (.unlock (.tick _)) | .acquire (.tick _) => .ticks
  | .memory (.unlock (.git _)) | .acquire (.git _) => .git
  | .memory (.resetUnresolved _) | .memory (.addUnresolved _) | .memory (.unresolved _) => .tally
  | .remote (.advance _ _ (.terminal ..)) => .verdicts
  | .remote (.putResult ..) => .deliveries
  | .remote _ => .outside
  | .note (.runInline _) | .note (.reopenForAction _) => .deeds
  | .note _ | .dbWriteLock => .marks

def within (realms : List Realm) (op : Op) : Prop := realms.elem op.realm = true

def reads : List Realm := [.look]

theorem within_wider {few many : List Realm} (wider : ∀ realm ∈ few, realm ∈ many) {op : Op}
    (here : within few op) : within many op :=
  List.elem_eq_true_of_mem (wider _ (List.mem_of_elem_eq_true here))

theorem only_wider {few many : List Realm} {Result : Type} {body : Py Result}
    (only : body.Only (within few)) (wider : ∀ realm ∈ few, realm ∈ many) :
    body.Only (within many) := only.mono fun _ here => within_wider wider here

section Reads

variable {settings : Settings}

theorem report_get_within (id : String) : (reportGet id).Only (within reads) := only_ask rfl

theorem clock_within : clock.Only (within reads) := only_ask rfl

theorem project_get_within (id : String) : (projectGet id).Only (within reads) :=
  only_bind (only_ask rfl) fun _ => trivial

theorem get_field_within (value : Json) (name : String) : (getField value name).Only (within reads) := by
  unfold getField
  split <;> trivial

theorem timed_out_within (row : TriageAction) : (timedOut settings row).Only (within reads) := by
  unfold timedOut
  split
  · trivial
  · exact only_bind clock_within fun _ => trivial

theorem consented_within (action : ListedAction) (name : String) :
    (consented action name).Only (within reads) :=
  only_bind (get_field_within _ _) fun _ => trivial

theorem allowlisted_within (email : Json) : (allowlisted settings email).Only (within reads) := by
  unfold allowlisted
  split
  · trivial
  · split <;> trivial

theorem check_cloud_within (row : Report) (project : Option Project) :
    (checkCloudAnalysis row project).Only (within reads) := by
  unfold checkCloudAnalysis
  split
  swap
  · trivial
  refine only_bind (only_ask rfl) fun localization => ?_
  split
  · trivial
  · dsimp only
    split <;> trivial

theorem authorize_checked_within (project : Project) (report : Report) (kind : Kind)
    (granted : Authorization) : (authorizeChecked project report kind granted).Only (within reads) := by
  refine only_bind (check_cloud_within _ _) fun refusal => ?_
  cases refusal <;> trivial

theorem finished_rows_within (actionId : String) : (finishedRows actionId).Only (within reads) :=
  only_bind (only_ask rfl) fun _ => trivial

theorem paid_evidence_within (row : TriageAction) : (paidEvidence row).Only (within reads) := by
  refine only_bind (only_ask rfl) fun proposals => ?_
  split
  · split <;> trivial
  · refine only_bind (finished_rows_within _) fun rows => ?_
    split <;> trivial

theorem evidence_within (row : TriageAction) : (evidence row).Only (within reads) := by
  unfold evidence
  split
  · exact only_bind (finished_rows_within _) fun _ => trivial
  · exact paid_evidence_within row
  · exact paid_evidence_within row
  · trivial

theorem stage_claim_within (reportId : String) : (stageClaimHeld reportId).Only (within reads) :=
  only_bind (only_ask rfl) fun _ => trivial

theorem credential_named_within (name : Json) : (credentialNamed name).Only (within reads) := by
  unfold credentialNamed
  split
  · exact only_ask rfl
  · trivial

theorem endpoint_within (project : Option Project) : (triageEndpoint project).Only (within reads) := by
  unfold triageEndpoint
  dsimp only
  split
  swap
  · trivial
  refine only_bind (only_ask rfl) fun base => ?_
  split
  · exact only_bind (credential_named_within _) fun token => trivial
  · trivial

theorem pushed_note_within (reportId : String) (proposalId : Option String) :
    (pushedNote reportId proposalId).Only (within reads) := by
  refine only_bind (only_ask rfl) fun proposals => ?_
  dsimp only
  split <;> trivial

theorem attempt_failed_within (reportId : String) (proposalId : Option String) (attempts : Nat)
    (detail : String) : (prAttemptFailed reportId proposalId attempts detail).Only (within reads) := by
  unfold prAttemptFailed
  split
  · trivial
  · exact only_bind (pushed_note_within _ _) fun _ => trivial

theorem step_failed_within (reportId : String) (proposalId : Option String) (attempts : Nat)
    (error : Exn) : (prStepFailed reportId proposalId attempts error).Only (within reads) := by
  unfold prStepFailed
  split
  · split
    · trivial
    split
    · trivial
    · exact attempt_failed_within _ _ _ _
  · exact attempt_failed_within _ _ _ _

theorem pr_opened_within (answer : PrAnswer) (attempts : Nat) :
    (prOpened answer attempts).Only (within reads) := by
  unfold prOpened
  split <;> trivial

theorem current_state_within (body : Json) : (currentState body).Only (within reads) := by
  unfold currentState
  split
  · trivial
  · exact get_field_within _ _

theorem todo_within (project : Project) (report : Report) : (todoOf project report).Only (within reads) := by
  refine only_bind (only_ask rfl) fun analyses => ?_
  refine only_bind (only_ask rfl) fun proposals => ?_
  refine only_bind (only_ask rfl) fun built => ?_
  refine only_bind (only_ask rfl) fun stored => ?_
  split
  · split
    · split <;> trivial
    · trivial
  · trivial

theorem collect_within (project : Project) (reports : List Report) :
    (collectTodo project reports).Only (within reads) := by
  induction reports with
  | nil => trivial
  | cons report reports ih =>
      exact only_bind (todo_within _ _) fun _ => only_bind ih fun _ => trivial

theorem duplicate_source_within (projectId base : String) (others : List Project) :
    (duplicateSource projectId base others).Only (within reads) := by
  induction others with
  | nil => trivial
  | cons other others ih =>
      unfold duplicateSource
      split
      · exact ih
      · refine only_bind (only_ask rfl) fun taken => ?_
        split
        · trivial
        · exact ih

theorem configured_within (project : Option Project) : (configured project).Only (within reads) := by
  unfold configured
  split
  · trivial
  split
  swap
  · trivial
  refine only_bind (only_ask rfl) fun base => ?_
  dsimp only
  split
  · split <;> trivial
  · trivial

theorem checked_within {checked : Prop} [Decidable checked] {check : Py Bool}
    {rest : Bool → Py Authorization} (first : check.Only (within reads))
    (later : ∀ given, (rest given).Only (within reads)) :
    (if checked then check >>= rest else Pure.pure true >>= rest).Only (within reads) := by
  split
  · exact only_bind first later
  · exact later true

theorem authorize_requester_within (project : Project) (report : Report) (action : ListedAction)
    (params : Json) : (authorizeRequester project report action params).Only (within reads) := by
  unfold authorizeRequester
  dsimp only
  split
  · trivial
  split
  · trivial
  refine checked_within (consented_within _ _) fun write => ?_
  split
  · trivial
  refine checked_within (consented_within _ _) fun spend => ?_
  split
  · trivial
  · exact authorize_checked_within _ _ _ _

theorem authorize_legacy_within (project : Project) (report : Report) (action : ListedAction)
    (params email : Json) :
    (authorizeLegacy settings project report action params email).Only (within reads) := by
  unfold authorizeLegacy
  dsimp only
  split
  · trivial
  refine checked_within (consented_within _ _) fun write => ?_
  split
  · trivial
  refine checked_within (consented_within _ _) fun spend => ?_
  split
  · trivial
  refine checked_within (allowlisted_within _) fun allowed => ?_
  split
  · trivial
  · exact authorize_checked_within _ _ _ _

theorem authorize_within (project : Project) (report : Report) (action : ListedAction) :
    (authorize settings project report action).Only (within reads) := by
  refine only_bind (get_field_within _ _) fun email => ?_
  have spend : (if settings.sonicgridUserKeys then
        authorizeRequester project report action
          (if action.params.isObj then action.params else .obj [])
      else authorizeLegacy settings project report action
        (if action.params.isObj then action.params else .obj []) email).Only (within reads) := by
    split
    · exact authorize_requester_within _ _ _ _
    · exact authorize_legacy_within _ _ _ _ _
  dsimp only
  split
  · trivial
  · trivial
  · exact spend
  · exact spend
  · refine only_bind (consented_within _ _) fun write => ?_
    split <;> trivial
  · refine only_bind (get_field_within _ _) fun mode => ?_
    split
    · trivial
    · trivial
    · split <;> trivial
  · split <;> trivial
  · split <;> trivial

end Reads

section Writes

variable {settings : Settings}

theorem finish_within (actionId : String) (result : Result) (expected : Option LedgerPhase) :
    (finish actionId result expected).Only (within [.ledger]) := by
  refine only_bind (only_ask rfl) fun finished => ?_
  dsimp only
  split
  · exact only_bind (only_ask rfl) fun _ => trivial
  · trivial
  · exact only_bind (only_ask rfl) fun _ => trivial

theorem expire_row_within (row : TriageAction) :
    (expireRow settings row).Only (within [.look, .ledger]) := by
  refine only_bind (only_wider (timed_out_within _) (by decide)) fun overdue => ?_
  split
  · exact only_bind (only_wider (finish_within _ _ _) (by decide)) fun _ => trivial
  · trivial

theorem expire_overdue_within (projectId : Option String) :
    (expireOverdue settings projectId).Only (within [.look, .ledger]) :=
  only_bind (only_ask rfl) fun _ => only_for_each fun row _ => expire_row_within row

theorem expire_within (actionId : String) :
    (expireIfOverdue settings actionId).Only (within [.look, .row, .ledger]) := by
  refine only_bind (only_ask rfl) fun found => ?_
  cases found with
  | none => trivial
  | some found =>
      dsimp only
      split
      · trivial
      refine only_bind (only_wider (timed_out_within _) (by decide)) fun overdue => ?_
      split
      · exact only_bind (only_wider (finish_within _ _ _) (by decide)) fun _ => trivial
      · trivial

theorem request_within {realm : Realm} (asked : Remote) (read : asked.Ans → HttpResponse)
    (leaves : within [realm] (.remote asked)) : (request asked read).Only (within [realm]) := by
  refine only_bind (only_catching (only_ask leaves) fun error => ?_) fun answer => ?_
  · split <;> trivial
  · dsimp only
    split
    · trivial
    split
    · trivial
    split <;> trivial

theorem claim_within (endpoint : Endpoint) (actionId : String) :
    (advance endpoint actionId .claimed).Only (within [.outside]) :=
  only_bind (request_within _ _ rfl) fun _ => trivial

theorem post_within (endpoint : Endpoint) (row : TriageAction) :
    (advance endpoint row.actionId (terminalBody row)).Only (within [.verdicts]) :=
  only_bind (request_within _ _ rfl) fun _ => trivial

theorem list_actions_within (endpoint : Endpoint) (pages : Nat) (cursor : Option String) :
    (listActions endpoint pages cursor).Only (within [.outside]) := by
  induction pages generalizing cursor with
  | zero => trivial
  | succ pages ih =>
      refine only_bind (request_within _ _ rfl) fun response => ?_
      split
      swap
      · trivial
      dsimp only
      split
      swap
      · trivial
      split
      · trivial
      split
      · trivial
      · exact only_bind (ih _) fun _ => trivial

theorem drain_row_within (endpoint : Endpoint) (row : TriageAction) :
    (drainRow endpoint row).Only (within [.look, .verdicts, .ledger]) := by
  refine only_bind (only_wider (post_within _ _) (by decide)) fun answer => ?_
  refine only_bind (only_wider (current_state_within _) (by decide)) fun current => ?_
  have acked : ∀ error, (do
      let _ ← triageActionUpdate row.actionId none
        { terminalAcked := some true, terminalError := error } : Py Unit).Only
        (within [.look, .verdicts, .ledger]) :=
    fun error => only_bind (only_ask rfl) fun _ => trivial
  split
  · exact acked none
  split
  · exact acked none
  split
  · exact only_bind (only_ask rfl) fun shown => acked _
  · trivial

theorem drain_within (endpoint : Endpoint) (projectId : String) :
    (drain endpoint projectId).Only (within [.look, .verdicts, .ledger]) :=
  only_bind (only_ask rfl) fun _ => only_for_each fun row _ => drain_row_within endpoint row

theorem stage_push_within (project : Project) (todo : Todo) :
    (stagePush project todo).Only (within [.look, .outbox]) := by
  unfold stagePush
  split
  · exact only_bind (only_ask rfl) fun _ => only_bind (only_ask rfl) fun _ => trivial
  · trivial
  · trivial

theorem put_within (endpoint : Endpoint) (externalId : String) (payload : Payload) :
    (putResult endpoint externalId payload).Only (within [.deliveries]) :=
  only_bind (request_within _ _ rfl) fun _ => trivial

theorem push_one_within (endpoint : Endpoint) (project : Project) (todo : Todo) :
    (pushOne endpoint project todo).Only (within [.look, .deliveries, .outbox]) := by
  refine only_bind (only_wider (stage_push_within _ _) (by decide)) fun payload => ?_
  refine only_bind (only_wider (put_within _ _ _) (by decide)) fun answer => ?_
  exact only_bind (only_ask rfl) fun now => only_ask rfl

theorem push_within (endpoint : Endpoint) (project : Project) :
    (push settings endpoint project).Only (within [.look, .deliveries, .outbox]) :=
  only_bind (only_ask rfl) fun _ =>
    only_bind (only_wider (collect_within _ _) (by decide)) fun _ =>
      only_for_each fun todo _ => push_one_within endpoint project todo

theorem read_pr_state_within (project : Project) (number : Int) :
    (readPrState settings project number).Only (within [.look, .outside]) := by
  unfold readPrState
  split
  · trivial
  refine only_bind (only_ask rfl) fun slug => ?_
  split
  · trivial
  refine only_bind (only_catching (only_ask rfl) fun error => ?_) fun response => ?_
  · split <;> trivial
  split
  · split
    · unfold prStateOf
      split
      · trivial
      split
      · trivial
      split <;> trivial
    · trivial
  split
  · trivial
  split
  · trivial
  split <;> trivial

theorem check_numbered_within (project : Project) (proposal : FixProposal) (number : Int) :
    (checkNumbered settings project proposal number).Only
      (within [.look, .outside, .stages, .reports]) := by
  refine only_bind (only_catching (only_bind (only_wider (read_pr_state_within _ _) (by decide))
    fun _ => trivial) fun error => ?_) fun reading => ?_
  · split <;> trivial
  · split
    · exact only_bind (only_ask rfl) fun _ => trivial
    · exact only_bind (only_ask rfl) fun _ => trivial
    · exact only_bind (only_ask rfl) fun _ => trivial

theorem check_pr_within (project : Project) (proposal : FixProposal) :
    (checkPr settings project proposal).Only (within [.look, .outside, .stages, .reports]) := by
  unfold checkPr
  split
  · exact check_numbered_within _ _ _
  · trivial

theorem check_each_within (project : Project) (proposals : List FixProposal) :
    (checkEach settings project proposals).Only (within [.look, .outside, .stages, .reports]) := by
  induction proposals with
  | nil => trivial
  | cons proposal proposals ih =>
      refine only_bind (check_pr_within _ _) fun limited => ?_
      split
      · trivial
      · exact ih

theorem check_prs_within (project : Project) :
    (checkPrs settings project).Only (within [.look, .outside, .stages, .reports]) := by
  unfold checkPrs
  split
  · trivial
  · exact only_bind (only_ask rfl) fun _ => only_bind (only_ask rfl) fun _ => check_each_within _ _

theorem fetch_key_within (row : TriageAction) : (fetchKey row).Only (within [.look, .outside]) := by
  refine only_bind (only_wider (project_get_within _) (by decide)) fun project => ?_
  refine only_bind (only_wider (endpoint_within _) (by decide)) fun endpoint => ?_
  split
  · trivial
  refine only_catching (only_bind (only_ask rfl) fun _ => trivial) fun error => ?_
  split <;> trivial

theorem release_unless_within (actionId : String) :
    (releaseUnlessRunning actionId).Only (within [.slots]) := by
  refine only_bind (only_ask rfl) fun running => ?_
  split
  · trivial
  · exact only_ask rfl

theorem run_set_mode_within (row : TriageAction) :
    (runSetMode row).Only (within [.look, .reports]) :=
  only_catching (only_bind (only_bind (only_ask rfl) fun _ => only_ask rfl) fun _ => trivial)
    fun _ => trivial

theorem run_close_within (row : TriageAction) (report : Report) :
    (runClose row report).Only (within [.look, .reports]) := by
  unfold runClose
  split
  · trivial
  split
  · trivial
  refine only_catching (only_bind (only_bind (only_ask rfl) fun hit => ?_) fun updated => ?_)
    fun _ => trivial
  · split
    · trivial
    · exact only_ask rfl
  · split <;> trivial

theorem run_inline_result_within (row : TriageAction) :
    (runInlineResult row).Only (within [.look, .reports, .deeds]) := by
  refine only_bind (only_ask rfl) fun _ => only_bind (only_ask rfl) fun found => ?_
  cases found with
  | none => trivial
  | some found =>
      dsimp only
      split
      · exact only_wider (run_set_mode_within row) (by decide)
      · exact only_wider (run_close_within row _) (by decide)

theorem run_inline_within (row : TriageAction) :
    (runInline row).Only (within [.look, .reports, .deeds, .ledger, .reopening]) := by
  unfold runInline
  split
  · refine only_bind (only_ask rfl) fun _ => only_bind (only_ask rfl) fun reopened => ?_
    cases reopened with
    | done => trivial
    | ledgerMoved => trivial
    | notClosed =>
        exact only_bind (only_ask rfl) fun report =>
          only_bind (only_wider (finish_within _ _ _) (by decide)) fun _ => trivial
  · exact only_bind (only_wider (run_inline_result_within row) (by decide)) fun result =>
      only_bind (only_wider (finish_within _ _ _) (by decide)) fun _ => trivial

def stageRealms : List Realm :=
  [.look, .reports, .stages, .attempts, .proposals, .projects, .outside, .marks]

def prRealms : List Realm := [.look, .row, .reports, .stages, .claims, .git, .outside, .marks]

theorem stage_within {scope : StageScope} {op : Op} (staged : stageOp scope op) :
    within stageRealms op := by
  cases op with
  | query q => cases q <;> first | rfl | cases staged
  | stage write => cases write <;> rfl
  | memory asked => cases staged
  | acquire lock => cases staged
  | outbox write => cases staged
  | joint write => cases staged
  | ledger write => cases staged
  | createTask id job => cases staged
  | newToken => cases staged
  | remote asked => cases asked <;> first | rfl | cases staged
  | note mark => cases mark <;> first | rfl | cases staged
  | _ => rfl

theorem pr_within {op : Op} (pr : prOp op) : within prRealms op := by
  cases op with
  | query q => cases q <;> rfl
  | stage write => cases write <;> first | rfl | cases pr
  | joint write => cases write <;> first | rfl | cases pr
  | memory asked =>
      cases asked with
      | unlock lock => cases lock <;> first | rfl | cases pr
      | _ => first | rfl | cases pr
  | acquire lock => cases lock <;> first | rfl | cases pr
  | project id fields => cases pr
  | ledger write => cases pr
  | outbox write => cases pr
  | createTask id job => cases pr
  | note mark => cases pr
  | remote asked => cases asked <;> first | rfl | cases pr
  | _ => rfl

/-- A stage run for an action, whatever it calls. -/
def actionScope (row : TriageAction) : StageScope :=
  { reportId := row.reportId, triggerRef := some row.actionId, calls := fun _ => True, claims := True
    proposes := True }

def llmOp (row : TriageAction) (op : Op) : Prop :=
  stageOp (actionScope row) op ∨ op = .note (.runLlm row.actionId)

theorem llm_within {row : TriageAction} {op : Op} (llm : llmOp row op) : within stageRealms op := by
  rcases llm with staged | rfl
  · exact stage_within staged
  · rfl

theorem propose_fix_llm (row : TriageAction) (args : FixArgs)
    (triggered : args.triggerRef = some row.actionId) :
    (proposeFix settings row.reportId args).Only (llmOp row) :=
  (@propose_fix_follows (actionScope row) settings .free trivial trivial args triggered
    (fun _ _ _ _ _ _ => trivial) (.inl rfl)).forget.2.mono fun _ staged => .inl staged

theorem local_analysis_llm (row : TriageAction) (args : LocalArgs)
    (triggered : args.triggerRef = some row.actionId) :
    (runLocalAnalysis settings row.reportId args).Only (llmOp row) :=
  (@run_local_analysis_follows (actionScope row) settings .free trivial args triggered
    (fun _ _ _ _ _ _ => trivial) (fun _ _ _ _ _ _ => trivial) (.inl rfl)).forget.2.mono
    fun _ staged => .inl staged

theorem make_override_llm {allowed : Op → Prop} (pin : LlmPin) (apiKey keyRef : Option String) :
    (makeOverride pin apiKey keyRef).Only allowed := by
  unfold makeOverride
  split <;> trivial

theorem run_llm_ops (row : TriageAction) (apiKey : Option String) :
    (runLlm settings row apiKey).Only (llmOp row) := by
  refine only_bind (only_ask (.inr rfl)) fun _ => ?_
  split
  · unfold runRequester
    split
    · split
      · exact only_bind (make_override_llm _ _ _) fun override =>
          only_bind (propose_fix_llm row _ rfl) fun _ => trivial
      · trivial
    · trivial
  split
  · exact only_bind (local_analysis_llm row _ rfl) fun _ => trivial
  · unfold runLegacyFix
    dsimp only
    split
    · trivial
    · have fix : ∀ override : Option LLMOverride, (do
          let outcome ← proposeFix settings row.reportId
            { override, attributionRef := attributionRef row, triggerRef := some row.actionId }
          Pure.pure (mapFix row.kind outcome) : Py Result).Only (llmOp row) :=
        fun override => only_bind (propose_fix_llm row _ rfl) fun _ => trivial
      split
      · exact fix none
      · exact only_bind (make_override_llm _ _ _) fun override => fix (some override)

theorem pr_step_ops (reportId : String) (proposalId : Option String) (attempts : Nat) :
    (prStep settings reportId proposalId attempts).Only (within prRealms) := by
  have opens : (openPullRequest settings reportId proposalId).Only (within prRealms) :=
    (@open_pull_request_follows .idle settings proposalId reportId (.inl rfl)).forget.2.mono
      fun _ pr => pr_within pr
  refine only_bind (only_catching (only_bind opens fun _ => trivial) fun error =>
    only_bind (only_wider (step_failed_within _ _ _ _) (by decide)) fun _ => trivial) fun opened => ?_
  split
  · exact only_wider (pr_opened_within _ _) (by decide)
  · trivial

def taskRealms : List Realm :=
  [.look, .row, .reports, .stages, .attempts, .proposals, .projects, .outside, .marks, .claims, .git,
    .ledger]

def prTaskRealms : List Realm :=
  [.look, .row, .reports, .stages, .outside, .marks, .claims, .git, .ledger]

theorem run_keyed_within (row : TriageAction) : (runKeyed settings row).Only (within stageRealms) := by
  have llm : ∀ key, (runLlm settings row key).Only (within stageRealms) :=
    fun key => (run_llm_ops row key).mono fun _ => llm_within
  unfold runKeyed
  split
  · refine only_bind (only_wider (fetch_key_within row) (by decide)) fun fetched => ?_
    split
    · trivial
    · exact llm _
  · exact llm none

theorem run_pr_within (actionId : String) : (runPr settings actionId).Only (within prTaskRealms) := by
  refine only_bind (only_ask rfl) fun found => ?_
  cases found with
  | none => trivial
  | some found =>
      dsimp only
      split
      swap
      · trivial
      refine only_bind (only_wider (expire_within _) (by decide)) fun expired => ?_
      split
      · trivial
      refine only_bind (only_ask rfl) fun _ => ?_
      refine only_bind (only_wider (pr_step_ops _ _ _) (by decide)) fun step => ?_
      refine only_bind (only_wider (expire_within _) (by decide)) fun late => ?_
      split
      · exact only_bind (only_ask rfl) fun _ => trivial
      split
      · exact only_bind (only_ask rfl) fun _ => trivial
      · exact only_bind (only_wider (finish_within _ _ _) (by decide)) fun _ => trivial

theorem conclude_task_within (actionId : String) (result : Result) :
    (concludeTask settings actionId result).Only (within prTaskRealms) := by
  refine only_bind (only_wider (expire_within _) (by decide)) fun late => ?_
  split
  · exact only_bind (only_ask rfl) fun _ => trivial
  split
  · refine only_bind (only_ask rfl) fun checkpointed => ?_
    split
    · exact run_pr_within _
    · exact only_bind (only_ask rfl) fun _ => trivial
  · exact only_bind (only_wider (finish_within _ _ _) (by decide)) fun _ => trivial

/-- `_run_task`, but for its `finally`. -/
def runAction (settings : Settings) (actionId : String) : Py Unit := do
  match ← triageActionGet actionId with
  | none => pure ()
  | some ⟨row, _⟩ => do
      let result ← (runKeyed settings row).catching fun error =>
        pure (unexpectedFailure row error)
      concludeTask settings actionId result

theorem run_task_eq (actionId : String) :
    runTask settings actionId = (runAction settings actionId).ensuring (release actionId) := rfl

theorem run_action_within (actionId : String) :
    (runAction settings actionId).Only (within taskRealms) := by
  refine only_bind (only_ask rfl) fun found => ?_
  cases found with
  | none => trivial
  | some found =>
      exact only_bind (only_catching (only_wider (run_keyed_within _) (by decide)) fun _ => trivial)
        fun _ => only_wider (conclude_task_within _ _) (by decide)

theorem check_prs_only_within (projectId : String) :
    (checkPrsOnly settings projectId).Only
      (within [.look, .outside, .stages, .reports, .ticks]) := by
  refine only_bind (only_ask rfl) fun locked => ?_
  split
  · trivial
  refine only_bind (only_ask rfl) fun _ =>
    only_ensuring (only_bind (only_wider (project_get_within _) (by decide)) fun project => ?_)
      (only_ask rfl)
  cases project with
  | none => trivial
  | some project => exact only_wider (check_prs_within project) (by decide)

def tickRealms : List Realm :=
  [.look, .row, .reports, .stages, .ledger, .reopening, .outbox, .slots, .ticks, .tally, .outside,
    .verdicts, .deliveries, .marks, .deeds]

def handlingRealms : List Realm :=
  [.look, .row, .reports, .stages, .ledger, .reopening, .slots, .tally, .outside, .marks, .deeds]

theorem dispatch_within (actionId : String) (row : TriageAction) (fromPhase : LedgerPhase) :
    (dispatch actionId row fromPhase).Only (within handlingRealms) := by
  refine only_bind (only_ask rfl) fun now => only_bind (only_ask rfl) fun moved => ?_
  split
  · exact only_ask rfl
  split
  · exact only_ask rfl
  split
  · exact only_ask rfl
  · exact only_ensuring (only_wider (run_inline_within row) (by decide)) (only_ask rfl)

theorem authorize_reserved_within (project : Project) (report : Report) (action : ListedAction) :
    (authorizeReserved settings project report action).Only (within handlingRealms) := by
  refine only_bind (only_wider (authorize_within _ _ _) (by decide)) fun auth => ?_
  split
  · exact only_bind (only_ask rfl) fun _ =>
      only_bind (only_wider (finish_within _ _ _) (by decide)) fun _ => trivial
  · refine only_bind (only_ask rfl) fun _ => only_bind (only_ask rfl) fun now =>
      only_bind (only_ask rfl) fun moved => ?_
    split
    · refine only_bind (only_ask rfl) fun found => ?_
      cases found with
      | none => trivial
      | some found => exact dispatch_within _ _ _
    · trivial

theorem claim_and_start_within (endpoint : Endpoint) (project : Project) (action : ListedAction) :
    (claimAndStart settings endpoint project action).Only (within handlingRealms) := by
  refine only_ensuring (only_bind (only_wider (claim_within _ _) (by decide)) fun answer => ?_)
    (only_wider (release_unless_within _) (by decide))
  dsimp only
  split
  · exact only_bind (only_ask rfl) fun _ => trivial
  split
  swap
  · trivial
  refine only_bind (only_ask rfl) fun found => ?_
  cases found with
  | none => trivial
  | some found =>
      refine only_bind (only_ask rfl) fun report => ?_
      cases report with
      | none => trivial
      | some report => exact authorize_reserved_within _ _ _

theorem spawn_held_within (row : TriageAction) :
    (tryHold row.actionId row.reportId false >>= fun held =>
      if held then spawnPr row.actionId else pure ()).Only (within handlingRealms) := by
  refine only_bind (only_ask rfl) fun held => ?_
  split
  · exact only_ask rfl
  · trivial

theorem apply_evidence_within (row : TriageAction) (found : Result) :
    (applyEvidence row found).Only (within handlingRealms) := by
  unfold applyEvidence
  split
  · refine only_bind (only_ask rfl) fun checkpointed => ?_
    split
    · exact spawn_held_within row
    · trivial
  · exact only_bind (only_wider (finish_within _ _ _) (by decide)) fun _ => trivial

theorem recover_dispatch_within (row : TriageAction) :
    (recoverDispatch settings row).Only (within handlingRealms) := by
  refine only_bind (only_wider (evidence_within row) (by decide)) fun found => ?_
  cases found with
  | some found => exact apply_evidence_within row found
  | none =>
      have finishes : ∀ result : Result, (finish row.actionId result (some row.phase) >>=
          fun _ => pure () : Py Unit).Only (within handlingRealms) := fun result =>
        only_bind (only_wider (finish_within _ _ _) (by decide)) fun _ => trivial
      have rest : ∀ held : Bool, (if held then pure ()
          else if row.phase = .intent && settings.sonicgridUserKeys && row.kind.paid &&
              row.keyMode != some requester then do
            let _ ← finish row.actionId (stepResult row.kind .refused legacyRefusal)
              (some row.phase)
          else if row.noAutoRetry then do
            let _ ← finish row.actionId (unconfirmedFailure row.kind) (some row.phase)
          else do
            let slot ← tryHold row.actionId row.reportId row.kind.llm
            if slot then
              (dispatch row.actionId row row.phase).ensuring (releaseUnlessRunning row.actionId)
            else pure () : Py Unit).Only (within handlingRealms) := by
        intro held
        split
        · trivial
        split
        · exact finishes _
        split
        · exact finishes _
        · refine only_bind (only_ask rfl) fun slot => ?_
          split
          · exact only_ensuring (dispatch_within _ _ _)
              (only_wider (release_unless_within _) (by decide))
          · trivial
      dsimp only
      split
      · exact only_bind (only_wider (stage_claim_within _) (by decide)) rest
      · exact rest false

theorem recover_inline_within (row : TriageAction) :
    (recoverInline row).Only (within handlingRealms) := by
  refine only_bind (only_ask rfl) fun held => ?_
  split
  · split
    · exact only_ask rfl
    · exact only_ensuring (only_wider (run_inline_within row) (by decide)) (only_ask rfl)
  · trivial

theorem recover_within (row : TriageAction) : (recover settings row).Only (within handlingRealms) := by
  refine only_bind (only_wider (timed_out_within row) (by decide)) fun overdue => ?_
  split
  · exact only_bind (only_wider (finish_within _ _ _) (by decide)) fun _ => trivial
  split
  · exact spawn_held_within row
  split
  · exact recover_inline_within row
  split
  · exact recover_dispatch_within row
  · trivial

theorem handle_new_within (endpoint : Endpoint) (project : Project) (action : ListedAction) :
    (handleNew settings endpoint project action).Only (within handlingRealms) := by
  refine only_bind (only_ask rfl) fun found => ?_
  cases found with
  | none => exact only_ask rfl
  | some report =>
      refine only_bind (only_ask rfl) fun held => ?_
      split
      swap
      · trivial
      refine only_bind (only_wider (get_field_within _ _) (by decide)) fun user => ?_
      refine only_bind (only_ask rfl) fun reserved => ?_
      split
      · exact claim_and_start_within _ _ _
      · exact only_ask rfl

theorem handle_running_within (row : TriageAction) (running : Bool) :
    (handleRunning settings row running).Only (within handlingRealms) := by
  unfold handleRunning
  split
  · refine only_bind (only_wider (timed_out_within row) (by decide)) fun overdue => ?_
    split
    · exact only_bind (only_wider (finish_within _ _ _) (by decide)) fun _ => trivial
    · trivial
  · trivial

theorem handle_within (endpoint : Endpoint) (project : Project) (action : ListedAction) :
    (handle settings endpoint project action).Only (within handlingRealms) := by
  refine only_bind (only_ask rfl) fun found => ?_
  cases found with
  | none => exact handle_new_within _ _ _
  | some found =>
      refine only_bind (only_ask rfl) fun running => ?_
      split
      · exact handle_running_within _ _
      split
      · refine only_bind (only_ask rfl) fun held => ?_
        split
        · exact claim_and_start_within _ _ _
        · trivial
      · exact recover_within _

theorem exchange_within (endpoint : Endpoint) (project : Project) :
    (exchange settings endpoint project).Only (within tickRealms) := by
  refine only_bind (only_wider (drain_within _ _) (by decide)) fun _ => ?_
  refine only_bind (only_wider (list_actions_within _ _ _) (by decide)) fun listed => ?_
  refine only_bind (only_for_each fun action _ => only_wider (handle_within _ _ _) (by decide)) fun _ => ?_
  refine only_bind (only_wider (drain_within _ _) (by decide)) fun _ => ?_
  exact only_wider (push_within _ _) (by decide)

theorem tick_body_within (project : Project) (envName : Json) (base : String) :
    (tickBody settings project envName base).Only (within tickRealms) := by
  refine only_bind (only_ask rfl) fun others => ?_
  refine only_bind (only_wider (duplicate_source_within _ _ _) (by decide)) fun duplicate => ?_
  split
  · trivial
  refine only_bind (only_wider (credential_named_within _) (by decide)) fun token => ?_
  split
  · trivial
  · exact only_bind (exchange_within _ _) fun _ => trivial

theorem tick_within (project : Project) (envName : Json) (base : String) :
    (tick settings project envName base).Only (within tickRealms) := by
  refine only_bind (only_ask rfl) fun _ => ?_
  refine only_bind (only_wider (expire_overdue_within _) (by decide)) fun _ => ?_
  refine only_bind (only_catching (only_wider (check_prs_within _) (by decide)) fun _ => trivial)
    fun _ => ?_
  refine only_bind (only_catching (tick_body_within _ _ _) fun _ => trivial) fun error => ?_
  exact only_bind (only_ask rfl) fun unresolved => only_bind (only_ask rfl) fun _ => trivial

theorem sync_project_within (projectId : String) (manual : Bool) :
    (syncProject settings projectId manual).Only (within tickRealms) := by
  have locked : (syncLocked settings projectId).Only (within tickRealms) := by
    refine only_bind (only_wider (project_get_within _) (by decide)) fun project => ?_
    refine only_bind (only_wider (configured_within _) (by decide)) fun found => ?_
    cases found with
    | none => trivial
    | some found => exact tick_within _ _ _
  have rest : ∀ held : Bool, (if held then raise .tickInProgress
      else underLock (.tick projectId) (syncLocked settings projectId) : Py Unit).Only
      (within tickRealms) := by
    intro held
    split
    · trivial
    · exact only_bind (only_ask rfl) fun _ => only_ensuring locked (only_ask rfl)
  unfold syncProject
  dsimp only
  split
  · exact only_bind (only_ask rfl) rest
  · exact rest false

end Writes

end Bugalizer
