import Bugalizer.Sync.Authorize
import Bugalizer.Sync.Runs

/-!
# Authorization, dispatch and recovery on the row just read

What an action's row is known to be when it is authorized, dispatched, executed inline, run
by its task or recovered; and from these, every coroutine of the sync.
-/

namespace Bugalizer

set_option autoImplicit false

open Coroutine Program

section Knowledge

variable {listed : ListedAction → Prop} {settings : Settings} {insight : Insight}
variable {Result : Type} {body : Py Result}

/-- An insight whose task has begun, whatever it is. -/
abbrev Insight.Awake (insight : Insight) : Prop := insight.begun = true

theorem kept_begun (known : Insight) (begun : known.begun) (kept : Insight.Kept known insight) :
    insight.begun := by
  rcases kept with rfl | rfl
  · exact begun
  · rfl

theorem staged_begun {row : TriageAction} {key : Option String} (staged : insight.Staged row key) :
    insight.begun := by
  rcases staged with ((rfl | rfl) | rfl) | (rfl | rfl) <;> rfl

/-- A look-up that finds the row, from a task that has begun. -/
theorem found_read (row : TriageAction) (begun : insight.begun) :
    Insight.Kept (.read row) (insight.found row) := by
  unfold Insight.found
  split
  · cases begun
  · exact .inr rfl
  · cases begun
  · split
    · split
      · exact .inr rfl
      · exact .inl rfl
    · exact .inl rfl

theorem found_again {row known : TriageAction} (kept : Insight.Kept (.read known) insight)
    (same : known.actionId = row.actionId) :
    insight.found row = .read row ∧ known.phase = row.phase ∨ insight.found row = .lost := by
  rcases kept with rfl | rfl
  · by_cases moved : known.phase = row.phase
    · exact .inl ⟨by simp [Insight.found, Insight.exact, moved], moved⟩
    · exact .inr (by simp [Insight.found, Insight.exact, same, moved])
  · exact .inr rfl

theorem missing_again {actionId : String} {known : TriageAction}
    (kept : Insight.Kept (.read known) insight) (same : known.actionId = actionId) :
    insight.missing actionId = .lost := by
  rcases kept with rfl | rfl
  · simp [Insight.missing, Insight.exact, same]
  · rfl

/-- From an unreachable branch everything is allowed, and it stays unreachable. -/
theorem lost_next (op : Op) (answer : Except Exn op.Ans) :
    insightNext listed .lost op answer = .lost := by
  cases answer with
  | error error =>
      simp only [insightNext]
      split
      · rfl
      split
      · rfl
      · rfl
      · rfl
      · exact after_lost _
  | ok value =>
      unfold insightNext
      dsimp only
      split <;> first | rfl | exact after_lost _ | (split <;> rfl)

theorem lost_follows (only : body.Only programOp) {returns : Result → Insight → Prop}
    {raises : Exn → Insight → Prop} (good : ∀ result, returns result .lost)
    (bad : ∀ error, raises error .lost) :
    body.Follows (syncRun listed settings) .lost returns raises :=
  only.stays (fun op permitted => ⟨⟨permitted, .inl rfl⟩, fun answer => lost_next op answer⟩) good bad

theorem follows_attended {op : Op} (after : op.Ans → Insight → Prop)
    (raises : Exn → Insight → Prop) (sync : syncOp op) (begun : insight.begun)
    (attended : insight = .lost ∨ attendedOp listed settings insight op)
    (good : ∀ value, after value (insightNext listed insight op (.ok value)))
    (bad : ∀ error, raises error (insightNext listed insight op (.error error))) :
    (ask op).Follows (syncRun listed settings) insight after raises := by
  refine (follows_sync_ask ..).mpr ⟨⟨.inr (.inr (.inl sync)), ?_⟩, good, bad⟩
  rcases attended with lost | attended
  · exact .inl lost
  · exact .inr (.inr ⟨begun_inside begun, attended⟩)

/-- A look-up of an action's row, from a task that has begun. -/
theorem get_follows (actionId : String) (begun : insight.begun) :
    (triageActionGet actionId).Follows (syncRun listed settings) insight
      (fun found reached => reached.begun ∧
        ∀ row, found = some row → Insight.Kept (.read row.1) reached)
      (fun _ reached => reached.begun) := by
  refine follows_attended _ _ trivial begun (.inr trivial) (fun value => ?_)
    fun error => begun_next _ _ begun
  refine ⟨begun_next _ _ begun, ?_⟩
  rintro row rfl
  exact found_read row.1 begun

theorem get_again {actionId : String} {known : TriageAction}
    (kept : Insight.Kept (.read known) insight) (same : known.actionId = actionId) :
    (triageActionGet actionId).Follows (syncRun listed settings) insight
      (fun found reached => reached = .lost ∨
        ∃ row, found = some row ∧ reached = .read row.1 ∧ known.phase = row.1.phase)
      (fun _ reached => reached.begun) := by
  have begun := kept_begun (.read known) rfl kept
  refine follows_attended _ _ trivial begun (.inr trivial) (fun value => ?_)
    fun error => begun_next _ _ begun
  cases value with
  | none => exact .inl (missing_again kept same)
  | some row =>
      rcases found_again kept (same.trans row.2.symm) with ⟨read, phase⟩ | lost
      · exact .inr ⟨row, rfl, read, phase⟩
      · exact .inl lost

end Knowledge

section Inline

variable {listed : ListedAction → Prop} {settings : Settings} {insight : Insight}

/-- The row is known to be authorized and not finished, or the branch is unreachable. -/
def Insight.Held (actionId : String) (insight : Insight) : Prop :=
  insight.Current actionId ∨ insight = .lost

theorem held_begun {actionId : String} (held : insight.Held actionId) : insight.begun := by
  rcases held with ⟨row, rfl | rfl, _⟩ | rfl <;> rfl

/-- An operation that tells nothing of an action and does not give the loop away. -/
theorem held_idle {actionId : String} {op : Op} (idle : idleOp op) (stays : op.suspends = false)
    (answer : Except Exn op.Ans) (held : insight.Held actionId) :
    (insightNext listed insight op answer).Held actionId := by
  rcases idle_next idle answer with moved | lost
  · rw [moved, Insight.after, stays]
    exact held
  · exact .inr lost

theorem held_still {Result : Type} {body : Py Result} (only : body.Only stillOp) {actionId : String}
    (held : insight.Held actionId) :
    body.Follows (syncRun listed settings) insight (fun _ => Insight.Held actionId)
      (fun _ => Insight.Held actionId) := by
  rcases held with ⟨row, known | known, rest⟩ | lost
  · subst known
    exact (still_follows only (.read row) rfl (.inl rfl)).mono
      (fun _ reached kept => kept.elim (fun same => .inl ⟨row, .inl same, rest⟩) .inr)
      fun _ reached kept => kept.elim (fun same => .inl ⟨row, .inl same, rest⟩) .inr
  · subst known
    exact (still_follows only (.sent row) rfl (.inl rfl)).mono
      (fun _ reached kept => kept.elim (fun same => .inl ⟨row, .inr same, rest⟩) .inr)
      fun _ reached kept => kept.elim (fun same => .inl ⟨row, .inr same, rest⟩) .inr
  · exact (still_follows only .lost rfl (.inl lost)).mono
      (fun _ reached kept => kept.elim .inr .inr) fun _ reached kept => kept.elim .inr .inr

theorem checked_transition {row : Report} {target : BugStatus}
    (admitted : checkStatusTransition row target = none) :
    validateTransition row.status target true := by
  unfold checkStatusTransition at admitted
  split at admitted
  · cases admitted
  split at admitted
  · assumption
  · cases admitted

theorem run_set_mode_held (row : TriageAction) (held : insight.Held row.actionId) :
    (runSetMode row).Follows (syncRun listed settings) insight
      (fun _ => Insight.Held row.actionId) (fun _ => Insight.Held row.actionId) := by
  have writes : (reportUpdateFields row.reportId { analysisMode := some (row.params.get "mode") }
      ).Follows (syncRun listed settings) insight (fun _ => Insight.Held row.actionId)
      (fun _ => Insight.Held row.actionId) := by
    refine Follows.andThen (follows_attended (fun _ => Insight.Held row.actionId)
      (fun _ => Insight.Held row.actionId) ⟨rfl, rfl⟩ (held_begun held)
      (held.elim (fun current => .inr fun _ => ⟨row.actionId, current⟩) .inl)
      (fun value => held_idle rfl rfl (.ok value) held)
      (fun error => held_idle rfl rfl (.error error) held)) (fun hit _ held => ?_)
      fun _ _ held => held
    exact held_still (reads_still (report_get_within _)) held
  refine Follows.caught (Follows.andThen writes (fun updated _ held => ?_) fun _ _ held => held)
    (fun _ _ held => held) fun _ _ held => held
  exact held

theorem run_close_held (row : TriageAction) (report : Report) (held : insight.Held row.actionId) :
    (runClose row report).Follows (syncRun listed settings) insight
      (fun _ => Insight.Held row.actionId) (fun _ => Insight.Held row.actionId) := by
  unfold runClose
  split
  · exact held
  split
  · exact held
  rename_i admitted
  have writes : (reportUpdateStatus row.reportId .closed none (some report.status)).Follows
      (syncRun listed settings) insight (fun _ => Insight.Held row.actionId)
      (fun _ => Insight.Held row.actionId) := by
    refine Follows.andThen (follows_attended (fun _ => Insight.Held row.actionId)
      (fun _ => Insight.Held row.actionId) (checked_transition admitted)
      (held_begun held) (held.elim (fun current => .inr ⟨row.actionId, current⟩) .inl)
      (fun value => held_idle rfl rfl (.ok value) held)
      (fun error => held_idle rfl rfl (.error error) held)) (fun hit _ held => ?_)
      fun _ _ held => held
    split
    · exact held
    · exact held_still (reads_still (report_get_within _)) held
  refine Follows.caught (Follows.andThen writes (fun updated _ held => ?_) fun _ _ held => held)
    (fun _ _ held => held) fun _ _ held => held
  split <;> exact held

theorem run_inline_result_held (row : TriageAction) (held : insight.Held row.actionId) :
    (runInlineResult row).Follows (syncRun listed settings) insight
      (fun _ => Insight.Held row.actionId) (fun _ => Insight.Held row.actionId) := by
  refine Follows.andThen (follows_attended (fun _ => Insight.Held row.actionId)
    (fun _ => Insight.Held row.actionId) trivial (held_begun held) (held.elim .inr .inl)
    (fun _ => by cases held <;> first | exact .inl ‹_› | exact .inr ‹_›) fun _ => .inr rfl)
    (fun _ _ held => ?_) fun _ _ held => held
  refine Follows.andThen (held_still (reads_still (report_get_within _)) held) (fun found _ held => ?_)
    fun _ _ held => held
  cases found with
  | none => exact held
  | some found =>
      dsimp only
      split
      · exact run_set_mode_held row held
      · exact run_close_held row found.1 held

theorem run_inline_follows (row : TriageAction) (held : insight.Held row.actionId) :
    (runInline row).Follows (syncRun listed settings) insight (fun _ => Insight.Awake)
      (fun _ => Insight.Awake) := by
  have awake : ∀ (error : Exn) reached, Insight.Held row.actionId reached →
      Insight.Awake reached := fun _ _ held => held_begun held
  unfold runInline
  split
  · refine Follows.andThen (follows_attended (fun _ => Insight.Held row.actionId)
      (fun _ => Insight.Held row.actionId) trivial (held_begun held)
      (held.elim .inr .inl)
      (fun _ => by cases held <;> first | exact .inl ‹_› | exact .inr ‹_›) fun _ => .inr rfl)
      (fun _ _ held => ?_) awake
    refine Follows.andThen (follows_attended (fun _ => Insight.Awake)
      (fun _ => Insight.Awake) trivial (held_begun held) (held.elim .inr .inl)
      (fun value => begun_next _ _ (held_begun held)) (fun error => begun_next _ _ (held_begun held)))
      (fun reopened _ begun => ?_) fun _ _ begun => begun
    cases reopened with
    | done => exact begun
    | ledgerMoved => exact begun
    | notClosed =>
        exact free_follows (only_bind (still_is_free (still_query trivial)) fun report =>
          only_bind (free_finish _ _ _) fun _ => trivial) begun
  · refine Follows.andThen (run_inline_result_held row held) (fun result _ held => ?_) awake
    exact free_follows (only_bind (free_finish _ _ _) fun _ => trivial) (held_begun held)

end Inline

section Start

variable {listed : ListedAction → Prop} {settings : Settings} {insight : Insight}

theorem free_spawn_pr (actionId : String) : (spawnPr actionId).Only (freeOp listed settings) :=
  free_ask trivial fun _ => .inr rfl

theorem free_release (actionId : String) : (release actionId).Only (freeOp listed settings) :=
  still_is_free (still_memory trivial)

theorem free_release_unless (actionId : String) :
    (releaseUnlessRunning actionId).Only (freeOp listed settings) :=
  still_is_free (still_release_unless actionId)

theorem still_try_hold (actionId reportId : String) (llm : Bool) :
    (tryHold actionId reportId llm).Only stillOp := only_ask trivial

theorem still_task_running (actionId : String) : (taskRunning actionId).Only stillOp :=
  only_ask trivial

theorem free_try_hold (actionId reportId : String) (llm : Bool) :
    (tryHold actionId reportId llm).Only (freeOp listed settings) :=
  still_is_free (still_try_hold actionId reportId llm)

theorem free_checkpoint (actionId proposalId : String) {phase : LedgerPhase}
    (open' : underway phase) :
    (checkpointFix actionId proposalId phase).Only (freeOp listed settings) := by
  refine free_ledger (.fixDone actionId proposalId phase open') fun insight => ?_
  rcases open' with rfl | rfl
  · exact fun moved => by cases moved
  · exact fun moved => by cases moved

/-- A conditional write that moves a known row to `dispatched`. -/
theorem dispatch_write {actionId : String} {row : TriageAction} {phase : LedgerPhase} (now : Nat)
    (open' : underway phase) (same : row.actionId = actionId)
    (repeatable : phase = .intent ∨ row.noAutoRetry = false)
    (kept : Insight.Kept (.read row) insight) :
    (triageActionUpdate actionId (some phase) (dispatchFields now)).Follows
      (syncRun listed settings) insight
      (fun moved reached => reached.begun ∧ (moved = true → reached = .lost ∨
        reached = .sent ((dispatchFields now).write row)))
      (fun _ => Insight.Awake) := by
  have begun := kept_begun (.read row) rfl kept
  refine follows_attended _ _ (.dispatched actionId phase now open') begun ?_ (fun moved => ?_)
    fun _ => begun_next _ _ begun
  · rcases kept with rfl | lost
    · refine .inr ?_
      rcases open' with rfl | rfl
      · exact fun _ => ⟨row, rfl, same, repeatable⟩
      · exact fun _ => ⟨row, rfl, same, repeatable⟩
    · exact .inl lost
  · refine ⟨begun_next _ _ begun, ?_⟩
    rintro rfl
    rcases kept with rfl | rfl
    · show Insight.updated actionId phase (dispatchFields now) true (.read row) = .lost ∨
        Insight.updated actionId phase (dispatchFields now) true (.read row) = .sent _
      by_cases expected : row.phase = phase
      · exact .inr (by simp [Insight.updated, Insight.exact, same, expected, dispatchFields])
      · exact .inl (by simp [Insight.updated, Insight.exact, same, expected])
    · exact .inl rfl

/-- The spawn of the action's task, by the coroutine that has just dispatched it. -/
theorem create_task_follows {actionId : String} {row : TriageAction} (same : row.actionId = actionId)
    (llm : row.kind.llm) (sent : insight = .lost ∨ insight = .sent row) :
    (createTask actionId (.actionTask actionId)).Follows (syncRun listed settings) insight
      (fun _ => Insight.Awake) (fun _ => Insight.Awake) := by
  have begun : insight.begun := by
    rcases sent with rfl | rfl <;> rfl
  refine follows_attended _ _ trivial begun ?_ (fun _ => begun_next _ _ begun)
    fun _ => begun_next _ _ begun
  rcases sent with lost | rfl
  · exact .inl lost
  · exact .inr (.inl ⟨rfl, row, rfl, same, llm⟩)

theorem dispatch_follows {actionId : String} {row : TriageAction} {phase : LedgerPhase}
    (open' : underway phase) (same : row.actionId = actionId)
    (repeatable : phase = .intent ∨ row.noAutoRetry = false)
    (kept : Insight.Kept (.read row) insight) :
    (dispatch actionId row phase).Follows (syncRun listed settings) insight (fun _ => Insight.Awake)
      (fun _ => Insight.Awake) := by
  refine Follows.andThen (still_follows still_clock (.read row) rfl kept) (fun now _ kept => ?_)
    fun _ _ kept => kept_begun (.read row) rfl kept
  refine Follows.andThen (dispatch_write now open' same repeatable kept)
    (fun moved reached sent => ?_) fun _ _ begun => begun
  split
  · exact free_follows (free_release _) sent.1
  rename_i hit
  have sent' := sent.2 (by simpa using hit)
  split
  · rename_i llm
    exact create_task_follows (show ((dispatchFields now).write row).actionId = actionId from same)
      (show ((dispatchFields now).write row).kind.llm from llm) sent'
  split
  · exact free_follows (free_spawn_pr _) sent.1
  · have held : Insight.Held row.actionId reached := by
      rcases sent' with lost | known
      · exact .inr lost
      · refine .inl ⟨_, .inr known, rfl, ?_, ?_⟩ <;> (intro phase; cases phase)
    exact (run_inline_follows row held).ensured
      (fun _ _ begun => free_follows (free_release _) begun)
      fun _ _ begun => free_follows (free_release _) begun

/-- The write that pins an authorization, on the row that was just judged. -/
theorem intent_write {actionId : String} {row : TriageAction} {auth : Authorized} (now : Nat)
    (same : row.actionId = actionId)
    (judged : Insight.Kept (.judged row (some auth)) insight) :
    (triageActionUpdate actionId (some .reserved) (intentFields auth now)).Follows
      (syncRun listed settings) insight
      (fun moved reached => reached.begun ∧ (moved = true →
        Insight.Kept (.read ((intentFields auth now).write row)) reached))
      (fun _ => Insight.Awake) := by
  have begun := kept_begun (.judged row (some auth)) rfl judged
  refine follows_attended _ _ (.intent actionId auth now) begun ?_ (fun moved => ?_)
    fun _ => begun_next _ _ begun
  · rcases judged with rfl | lost
    · exact .inr ⟨row, auth, now, rfl, same, rfl⟩
    · exact .inl lost
  · refine ⟨begun_next _ _ begun, ?_⟩
    rintro rfl
    rcases judged with rfl | rfl
    · show Insight.updated actionId .reserved (intentFields auth now) true
          (.judged row (some auth)) = .read _ ∨
        Insight.updated actionId .reserved (intentFields auth now) true
          (.judged row (some auth)) = .lost
      by_cases expected : row.phase = .reserved
      · exact .inl (by simp [Insight.updated, Insight.exact, same, expected, intentFields])
      · exact .inr (by simp [Insight.updated, Insight.exact, same, expected])
    · exact .inr rfl

theorem dispatch_authorized_follows {actionId : String} {row : TriageAction}
    (same : row.actionId = actionId) (kept : Insight.Kept (.read row) insight) :
    (dispatchAuthorized actionId).Follows (syncRun listed settings) insight
      (fun _ => Insight.Awake) (fun _ => Insight.Awake) := by
  refine Follows.andThen (get_again kept same) (fun found reached known => ?_)
    fun _ _ begun => begun
  cases found with
  | none =>
      rcases known with rfl | ⟨row', found, _⟩
      · exact (rfl : Insight.lost.begun = true)
      · cases found
  | some found =>
      refine dispatch_follows (.inl rfl) found.2 (.inl rfl) ?_
      rcases known with lost | ⟨row', known, read, _⟩
      · exact .inr lost
      · cases known
        exact .inl read

theorem authorize_reserved_follows {action : ListedAction} (known : listed action)
    {row : TriageAction} (same : row.actionId = action.id)
    (kept : Insight.Kept (.read row) insight) (project : Project) (report : Report) :
    (authorizeReserved settings project report action).Follows (syncRun listed settings) insight
      (fun _ => Insight.Awake) (fun _ => Insight.Awake) := by
  have awake : ∀ (error : Exn) reached, Insight.Kept (.read row) reached → Insight.Awake reached :=
    fun _ _ kept => kept_begun (.read row) rfl kept
  refine Follows.andThen (still_follows (reads_still (authorize_within project report action)) (.read row) rfl
    kept).returned (fun auth reached decided => ?_) awake
  obtain ⟨kept, returned⟩ := decided
  have begun := kept_begun (.read row) rfl kept
  cases refusal : auth.refusal with
  | some refusal =>
      refine Follows.andThen (follows_attended (fun _ => Insight.Awake) (fun _ => Insight.Awake)
        trivial begun (.inr trivial) (fun _ => begun_next _ _ begun) fun _ => begun_next _ _ begun)
        (fun _ _ begun => ?_) fun _ _ begun => begun
      exact free_follows (only_bind (free_finish _ _ _) fun _ => trivial) begun
  | none =>
      have grants := authorize_grants returned refusal
      refine Follows.andThen (follows_attended
        (fun _ => Insight.Kept (.judged row (some ⟨auth.pinned, auth.noAutoRetry, auth.keyMode⟩)))
        (fun _ => Insight.Awake) trivial begun ?_ (fun _ => ?_) fun _ => begun_next _ _ begun)
        (fun _ reached judged => ?_) fun _ _ begun => begun
      · rcases kept with rfl | lost
        · exact .inr ⟨⟨row, rfl, same⟩, action, known, rfl, grants⟩
        · exact .inl lost
      · rcases kept with rfl | rfl
        · refine .inl ?_
          show Insight.decided action.id _ (.read row) = _
          simp [Insight.decided, same]
        · exact .inr rfl
      refine Follows.andThen (still_follows still_clock (.judged row _) rfl judged)
        (fun now _ judged => ?_) fun _ _ judged => kept_begun (.judged row _) rfl judged
      refine Follows.andThen (intent_write now same judged) (fun moved reached pinned => ?_)
        fun _ _ begun => begun
      split
      · rename_i hit
        exact dispatch_authorized_follows (show ((intentFields
          ⟨auth.pinned, auth.noAutoRetry, auth.keyMode⟩ now).write row).actionId = action.id
          from same) (pinned.2 hit)
      · exact pinned.1

theorem claim_and_start_follows (endpoint : Endpoint) (project : Project) {action : ListedAction}
    (known : listed action) (begun : insight.begun) :
    (claimAndStart settings endpoint project action).Follows (syncRun listed settings) insight
      (fun _ => Insight.Awake) (fun _ => Insight.Awake) := by
  refine @Follows.ensured _ _ _ _ _ _ _ _ _ _ (fun _ => Insight.Awake) (fun _ => Insight.Awake) ?_
    (fun _ _ begun => free_follows (free_release_unless _) begun)
    fun _ _ begun => free_follows (free_release_unless _) begun
  have deletes : (triageActionDeleteReserved action.id).Only (freeOp listed settings) :=
    only_bind (free_ledger (.deleteReserved _) fun _ => trivial) fun _ => trivial
  refine Follows.andThen (free_follows (free_advance _ _ _) begun) (fun answer _ begun => ?_)
    fun _ _ begun => begun
  obtain ⟨status, body⟩ := answer
  dsimp only
  split
  · exact free_follows deletes begun
  split
  swap
  · exact begun
  refine Follows.andThen (get_follows action.id begun) (fun found _ after => ?_)
    fun _ _ begun => begun
  cases found with
  | none => exact after.1
  | some row =>
      refine Follows.andThen (still_follows (reads_still (report_get_within _)) (.read row.1) rfl
        (after.2 row rfl)) (fun report _ kept => ?_) fun _ _ kept => kept_begun (.read row.1) rfl kept
      cases report with
      | none => exact kept_begun (.read row.1) rfl kept
      | some report => exact authorize_reserved_follows known row.2 kept project report.1

end Start

section Recovery

variable {listed : ListedAction → Prop} {settings : Settings} {insight : Insight}

theorem free_apply_evidence {row : TriageAction} (open' : underway row.phase) (found : Result) :
    (applyEvidence row found).Only (freeOp listed settings) := by
  unfold applyEvidence
  split
  swap
  · exact only_bind (free_finish _ _ _) fun _ => trivial
  refine only_bind (free_checkpoint _ _ open') fun moved => ?_
  split
  swap
  · trivial
  refine only_bind (free_try_hold _ _ _) fun held => ?_
  split
  · exact free_spawn_pr _
  · trivial

theorem recover_dispatch_follows {row : TriageAction} (open' : underway row.phase)
    (kept : Insight.Kept (.read row) insight) :
    (recoverDispatch settings row).Follows (syncRun listed settings) insight
      (fun _ => Insight.Awake) (fun _ => Insight.Awake) := by
  have awake : ∀ (error : Exn) reached, Insight.Kept (.read row) reached → Insight.Awake reached :=
    fun _ _ kept => kept_begun (.read row) rfl kept
  refine Follows.andThen (still_follows (reads_still (evidence_within row)) (.read row) rfl kept)
    (fun found reached kept => ?_) awake
  cases found with
  | some found =>
      exact free_follows (free_apply_evidence open' found) (kept_begun (.read row) rfl kept)
  | none =>
      have undecided : ∀ (held : Bool) (reached : Insight), Insight.Kept (.read row) reached →
          Program.Follows (syncRun listed settings) (
            if held then pure ()
            else if row.phase = .intent && settings.sonicgridUserKeys && row.kind.paid &&
                row.keyMode != some requester then do
              let _ ← finish row.actionId (stepResult row.kind .refused legacyRefusal)
                (some row.phase)
            else if row.noAutoRetry then do
              let _ ← finish row.actionId (unconfirmedFailure row.kind) (some row.phase)
            else do
              let slot ← tryHold row.actionId row.reportId row.kind.llm
              if slot then
                (dispatch row.actionId row row.phase).ensuring (releaseUnlessRunning row.actionId)
              else pure ()) reached (fun _ => Insight.Awake) (fun _ => Insight.Awake) := by
        intro held reached kept
        have begun := kept_begun (.read row) rfl kept
        split
        · exact begun
        split
        · exact free_follows (only_bind (free_finish _ _ _) fun _ => trivial) begun
        split
        · exact free_follows (only_bind (free_finish _ _ _) fun _ => trivial) begun
        rename_i repeatable
        refine Follows.andThen (still_follows (still_try_hold _ _ _) (.read row) rfl kept)
          (fun slot _ kept => ?_) awake
        split
        swap
        · exact kept_begun (.read row) rfl kept
        exact (dispatch_follows open' rfl (.inr (by simpa using repeatable)) kept).ensured
          (fun _ _ begun => free_follows (free_release_unless _) begun)
          fun _ _ begun => free_follows (free_release_unless _) begun
      dsimp only
      split
      · exact Follows.andThen (still_follows (reads_still (stage_claim_within _)) (.read row) rfl kept)
          (fun held reached kept => undecided held reached kept) awake
      · exact undecided false reached kept

theorem recover_inline_follows {row : TriageAction} (phase : row.phase = .dispatched)
    (kept : Insight.Kept (.read row) insight) :
    (recoverInline row).Follows (syncRun listed settings) insight (fun _ => Insight.Awake)
      (fun _ => Insight.Awake) := by
  refine Follows.andThen (still_follows (still_try_hold _ _ _) (.read row) rfl kept)
    (fun held reached kept => ?_) fun _ _ kept => kept_begun (.read row) rfl kept
  split
  swap
  · exact kept_begun (.read row) rfl kept
  split
  · exact free_follows (free_spawn_pr _) (kept_begun (.read row) rfl kept)
  · have held : Insight.Held row.actionId reached := by
      rcases kept with read | lost
      · exact .inl ⟨row, .inl read, rfl, by simp [phase], by simp [phase]⟩
      · exact .inr lost
    exact (run_inline_follows row held).ensured
      (fun _ _ begun => free_follows (free_release _) begun)
      fun _ _ begun => free_follows (free_release _) begun

theorem recover_follows {row : TriageAction} (kept : Insight.Kept (.read row) insight) :
    (recover settings row).Follows (syncRun listed settings) insight (fun _ => Insight.Awake)
      (fun _ => Insight.Awake) := by
  refine Follows.andThen (still_follows (reads_still (timed_out_within row)) (.read row) rfl kept)
    (fun overdue _ kept => ?_) fun _ _ kept => kept_begun (.read row) rfl kept
  have begun := kept_begun (.read row) rfl kept
  split
  · exact free_follows (only_bind (free_finish _ _ _) fun _ => trivial) begun
  split
  · refine free_follows (only_bind (free_try_hold _ _ _) fun held => ?_) begun
    split
    · exact free_spawn_pr _
    · trivial
  split
  · rename_i inline
    exact recover_inline_follows (by simpa using (Bool.and_eq_true_iff.mp inline).1) kept
  split
  · rename_i open'
    exact recover_dispatch_follows (by simpa [underway] using open') kept
  · exact begun

end Recovery

section Tick

variable {listed : ListedAction → Prop} {settings : Settings} {insight : Insight}

theorem handle_new_follows (endpoint : Endpoint) (project : Project) {action : ListedAction}
    (known : listed action) (begun : insight.begun) :
    (handleNew settings endpoint project action).Follows (syncRun listed settings) insight
      (fun _ => Insight.Awake) (fun _ => Insight.Awake) := by
  refine Follows.andThen (free_follows (still_is_free (only_ask trivial)) begun)
    (fun found _ begun => ?_) fun _ _ begun => begun
  cases found with
  | none => exact free_follows (still_is_free (still_memory trivial)) begun
  | some report =>
      refine Follows.andThen (free_follows (free_try_hold _ _ _) begun) (fun held _ begun => ?_)
        fun _ _ begun => begun
      split
      swap
      · exact begun
      refine Follows.andThen (free_follows (still_is_free (reads_still (get_field_within _ _))) begun)
        (fun user _ begun => ?_) fun _ _ begun => begun
      refine Follows.andThen (follows_attended (fun _ => Insight.Awake) (fun _ => Insight.Awake)
        (.reserve ..) begun (.inr ⟨action, known, rfl, rfl⟩) (fun _ => begun_next _ _ begun)
        fun _ => begun_next _ _ begun) (fun reserved _ begun => ?_) fun _ _ begun => begun
      split
      · exact claim_and_start_follows endpoint project known begun
      · exact free_follows (free_release _) begun

theorem free_handle_running (row : TriageAction) (running : Bool) :
    (handleRunning settings row running).Only (freeOp listed settings) := by
  unfold handleRunning
  split
  swap
  · trivial
  refine only_bind (still_is_free (reads_still (timed_out_within _))) fun overdue => ?_
  split
  · exact only_bind (free_finish _ _ _) fun _ => trivial
  · trivial

theorem handle_follows (endpoint : Endpoint) (project : Project) {action : ListedAction}
    (known : listed action) (begun : insight.begun) :
    (handle settings endpoint project action).Follows (syncRun listed settings) insight
      (fun _ => Insight.Awake) (fun _ => Insight.Awake) := by
  refine Follows.andThen (get_follows action.id begun) (fun found _ after => ?_)
    fun _ _ begun => begun
  cases found with
  | none => exact handle_new_follows endpoint project known after.1
  | some row =>
      refine Follows.andThen (still_follows (still_task_running _) (.read row.1) rfl
        (after.2 row rfl)) (fun running _ kept => ?_)
        fun _ _ kept => kept_begun (.read row.1) rfl kept
      have begun := kept_begun (.read row.1) rfl kept
      split
      · exact free_follows (free_handle_running _ _) begun
      split
      · refine Follows.andThen (free_follows (free_try_hold _ _ _) begun) (fun held _ begun => ?_)
          fun _ _ begun => begun
        split
        · exact claim_and_start_follows endpoint project known begun
        · exact begun
      · exact recover_follows kept

/-- Every action of the list may be handled, or the branch is unreachable. -/
def Insight.Listing (listed : ListedAction → Prop) (actions : List ListedAction)
    (insight : Insight) : Prop :=
  insight.begun = true ∧ ((∀ action ∈ actions, listed action) ∨ insight = .lost)

theorem request_list_follows (endpoint : Endpoint) (cursor : Option String)
    (begun : insight.begun) :
    (request (.listActions endpoint cursor) id).Follows (syncRun listed settings) insight
      (fun response => Insight.Listing listed (listedIn response)) (fun _ => Insight.Awake) := by
  have asks : (remote (.listActions endpoint cursor)).Follows (syncRun listed settings) insight
      (fun response => Insight.Listing listed (listedIn response)) (fun _ => Insight.Awake) := by
    refine follows_attended _ _ trivial begun (.inr trivial) (fun response => ?_)
      fun _ => begun_next _ _ begun
    refine ⟨begun_next _ _ begun, ?_⟩
    by_cases all : ∀ action ∈ listedIn response, listed action
    · exact .inl all
    · exact .inr (by simp [insightNext, all])
  refine Follows.andThen (asks.caught (fun _ _ listing => listing) fun error _ begun => ?_)
    (fun answer _ listing => ?_) fun _ _ begun => begun
  · split <;> exact begun
  · dsimp only
    split
    · exact listing.1
    split
    · exact listing.1
    split
    · exact listing.1
    · exact listing

theorem list_actions_follows (endpoint : Endpoint) (pages : Nat) (cursor : Option String)
    (begun : insight.begun) :
    (listActions endpoint pages cursor).Follows (syncRun listed settings) insight
      (fun actions => Insight.Listing listed actions) (fun _ => Insight.Awake) := by
  induction pages generalizing cursor insight with
  | zero => exact ⟨begun, .inl (by simp)⟩
  | succ pages ih =>
      refine Follows.andThen (request_list_follows endpoint cursor begun)
        (fun response reached listing => ?_) fun _ _ begun => begun
      split
      swap
      · exact listing.1
      rename_i answered
      dsimp only
      split
      swap
      · exact listing.1
      rename_i items array
      have page : listedIn response = items.filterMap wellFormed := by
        simp only [listedIn, if_pos answered]
        rw [array]
      rw [page] at listing
      split
      · exact listing
      rename_i next _
      split
      · exact listing
      by_cases lost : reached = .lost
      · subst lost
        refine lost_follows ?_ (fun _ => ⟨rfl, .inr rfl⟩) fun _ => rfl
        have all := (@ih .lost (some next) rfl).forget.2
        exact only_bind all fun _ => trivial
      · refine Follows.andThen (ih (some next) listing.1) (fun rest _ later => ?_)
          fun _ _ begun => begun
        refine ⟨later.1, ?_⟩
        rcases later.2 with all | lost'
        · refine .inl fun action member => ?_
          rcases List.mem_append.mp member with here | there
          · exact (listing.2.resolve_right lost) action here
          · exact all action there
        · exact .inr lost'

theorem exchange_follows (endpoint : Endpoint) (project : Project) (begun : insight.begun) :
    (exchange settings endpoint project).Follows (syncRun listed settings) insight
      (fun _ => Insight.Awake) (fun _ => Insight.Awake) := by
  refine Follows.andThen (free_follows (free_drain _ _) begun) (fun _ _ begun => ?_)
    fun _ _ begun => begun
  refine Follows.andThen (list_actions_follows endpoint 100 none begun)
    (fun actions reached listing => ?_) fun _ _ begun => begun
  have rest : ∀ reached : Insight, reached.begun → Program.Follows (syncRun listed settings) (do
      drain endpoint project.id
      push settings endpoint project) reached (fun _ => Insight.Awake) (fun _ => Insight.Awake) :=
    fun reached begun => free_follows (only_bind (free_drain _ _) fun _ => free_push _ _) begun
  have only : ∀ action : ListedAction, (handle settings endpoint project action).Only programOp :=
    fun action => (@handle_follows (fun _ => True) settings .blank endpoint project action trivial
      rfl).forget.2
  rcases listing.2 with all | rfl
  · refine Follows.andThen (follows_for_each listing.1 fun action member reached begun =>
      handle_follows endpoint project (all action member) begun) (fun _ _ begun => rest _ begun)
      fun _ _ begun => begun
  · refine Follows.andThen (lost_follows (only_for_each fun action _ => only action)
      (fun _ => (rfl : Insight.lost.begun = true)) fun _ => (rfl : Insight.lost.begun = true))
      (fun _ _ begun => rest _ begun) fun _ _ begun => begun

theorem tick_body_follows (project : Project) (envName : Json) (base : String)
    (begun : insight.begun) :
    (tickBody settings project envName base).Follows (syncRun listed settings) insight
      (fun _ => Insight.Awake) (fun _ => Insight.Awake) := by
  refine Follows.andThen (free_follows (still_is_free (only_ask trivial)) begun)
    (fun others _ begun => ?_) fun _ _ begun => begun
  refine Follows.andThen (free_follows (still_is_free (reads_still (duplicate_source_within _ _ _))) begun)
    (fun duplicate _ begun => ?_) fun _ _ begun => begun
  split
  · exact begun
  refine Follows.andThen (free_follows (still_is_free (reads_still (credential_named_within _))) begun)
    (fun token _ begun => ?_) fun _ _ begun => begun
  split
  · exact begun
  · exact Follows.andThen (exchange_follows _ project begun) (fun _ _ begun => begun)
      fun _ _ begun => begun

theorem tick_follows (project : Project) (envName : Json) (base : String)
    (begun : insight.begun) :
    (tick settings project envName base).Follows (syncRun listed settings) insight
      (fun _ => Insight.Awake) (fun _ => Insight.Awake) := by
  refine Follows.andThen (free_follows (still_is_free (still_memory trivial)) begun)
    (fun _ _ begun => ?_) fun _ _ begun => begun
  refine Follows.andThen (free_follows (free_expire_overdue _) begun) (fun _ _ begun => ?_)
    fun _ _ begun => begun
  refine Follows.andThen (free_follows (only_catching (free_check_prs project) fun _ => trivial)
    begun) (fun _ _ begun => ?_) fun _ _ begun => begun
  refine Follows.andThen ((tick_body_follows project envName base begun).caught
    (fun _ _ begun => begun) fun _ _ begun => begun) (fun error _ begun => ?_) fun _ _ begun => begun
  refine free_follows (only_bind (still_is_free (still_memory trivial)) fun unresolved => ?_) begun
  exact only_bind (free_ask trivial fun _ => trivial) fun _ => trivial

theorem sync_locked_follows (projectId : String) (begun : insight.begun) :
    (syncLocked settings projectId).Follows (syncRun listed settings) insight
      (fun _ => Insight.Awake) (fun _ => Insight.Awake) := by
  refine Follows.andThen (free_follows (still_is_free (reads_still (project_get_within _))) begun)
    (fun project _ begun => ?_) fun _ _ begun => begun
  refine Follows.andThen (free_follows (still_is_free (reads_still (configured_within _))) begun)
    (fun ready _ begun => ?_) fun _ _ begun => begun
  cases ready with
  | none => exact begun
  | some ready => exact tick_follows _ _ _ begun

theorem sync_project_follows (projectId : String) (manual : Bool) (begun : insight.begun) :
    (syncProject settings projectId manual).Follows (syncRun listed settings) insight
      (fun _ => Insight.Awake) (fun _ => Insight.Awake) := by
  have locked : ∀ reached : Insight, reached.begun →
      Program.Follows (syncRun listed settings)
        (underLock (.tick projectId) (syncLocked settings projectId)) reached
        (fun _ => Insight.Awake) (fun _ => Insight.Awake) := by
    intro reached begun
    refine Follows.andThen (free_follows (free_ask trivial fun _ => trivial) begun)
      (fun _ _ begun => ?_) fun _ _ begun => begun
    exact Follows.ensured (sync_locked_follows projectId begun)
      (fun _ _ begun => free_follows (still_is_free (still_memory trivial)) begun)
      fun _ _ begun => free_follows (still_is_free (still_memory trivial)) begun
  have rest : ∀ (held : Bool) (reached : Insight), reached.begun →
      Program.Follows (syncRun listed settings) (if held then raise .tickInProgress
        else underLock (.tick projectId) (syncLocked settings projectId)) reached
        (fun _ => Insight.Awake) (fun _ => Insight.Awake) := by
    intro held reached begun
    split
    · exact begun
    · exact locked reached begun
  unfold syncProject
  split
  · exact Follows.andThen (free_follows (still_is_free (still_memory trivial)) begun)
      (fun held reached begun => rest held reached begun) fun _ _ begun => begun
  · exact rest false insight begun

end Tick

end Bugalizer
