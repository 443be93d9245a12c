import Bugalizer.Sync.Insight

/-!
# The stages of an action, and what is left to start

While a stage runs for an action its task is at work for one ledger row and one key. After
its last model call it starts nothing any more, whatever else it still writes.
-/

namespace Bugalizer

set_option autoImplicit false

open Coroutine Program

section Steps

variable {listed : ListedAction → Prop} {settings : Settings} {insight : Insight}

theorem follows_sync_ask (op : Op) (after : op.Ans → Insight → Prop)
    (raises : Exn → Insight → Prop) :
    (ask op).Follows (syncRun listed settings) insight after raises ↔
      (programOp op ∧ insightAllowed listed settings insight op) ∧
        (∀ value, after value (insightNext listed insight op (.ok value))) ∧
        ∀ error, raises error (insightNext listed insight op (.error error)) :=
  follows_perform (syncRun listed settings) op insight after

/-- The operations that tell nothing of an action and change nothing of it. -/
def idleOp : Op → Bool
  | .query (.triageActionGet _) | .ledger _ | .joint (.reopenForAction ..) | .note _
  | .createTask .. => false
  | .remote (.credential ..) | .remote (.acompletion _) | .remote (.listActions ..) => false
  | _ => true

theorem idle_next {op : Op} (idle : idleOp op) (answer : Except Exn op.Ans) :
    insightNext listed insight op answer = insight.after op ∨
      insightNext listed insight op answer = .lost := by
  cases answer with
  | error error =>
      simp only [insightNext]
      split
      · exact .inr rfl
      · split <;> first | cases idle | exact .inl rfl
  | ok value =>
      unfold insightNext
      dsimp only
      split <;> first | cases idle | exact .inl rfl

theorem after_lost (op : Op) : Insight.lost.after op = .lost := by
  unfold Insight.after
  split <;> rfl

def Insight.AtWork (row : TriageAction) (key : Option String) (insight : Insight) : Prop :=
  insight.At row key ∨ insight = .lost

def Insight.Spent (insight : Insight) : Prop := insight = .late ∨ insight = .lost

def Insight.Staged (row : TriageAction) (key : Option String) (insight : Insight) : Prop :=
  insight.AtWork row key ∨ insight.Spent

variable {row : TriageAction} {key : Option String} {scope : StageScope}

theorem staged_after (op : Op) (staged : insight.Staged row key) : insight.after op = insight := by
  unfold Insight.after
  split
  · rcases staged with ((rfl | rfl) | rfl) | (rfl | rfl) <;> rfl
  · rfl

theorem staged_inside (staged : insight.Staged row key) : insight ≠ .outside := by
  rcases staged with ((rfl | rfl) | rfl) | (rfl | rfl) <;> (intro same; cases same)

theorem at_work_inside (atWork : insight.AtWork row key) : insight ≠ .outside :=
  staged_inside (.inl atWork)

/-- A stage operation that is neither a model call nor the entry of `propose_fix`. -/
theorem stage_idle {op : Op} (staged : stageOp scope op)
    (called : ∀ request, op ≠ .remote (.acompletion request))
    (entered : ∀ mark, op ≠ .note mark) : idleOp op := by
  cases op with
  | query q => cases q <;> first | rfl | cases staged
  | remote asked => cases asked <;> first | rfl | exact absurd rfl (called _) | cases staged
  | note mark => exact absurd rfl (entered mark)
  | joint write => cases staged
  | ledger write => cases staged
  | createTask actionId job => cases staged
  | _ => rfl

theorem stage_attended {op : Op} (staged : stageOp scope op) (quiet : ¬ scope.proposes)
    (claims : scope.claims → insight.AtWork row key)
    (calls : ∀ request, scope.calls request →
      insight.AtWork row key ∧ Fits settings row key request) :
    insight = .lost ∨ attendedOp listed settings insight op := by
  cases op with
  | report write =>
      cases write with
      | tryClaim id expected new token =>
          by_cases enters : new.stageClaim = true
          · rcases claims (staged.2.2.2 enters) with atWork | lost
            · exact .inr fun _ => ⟨row, key, atWork⟩
            · exact .inl lost
          · exact .inr fun enters' => absurd enters' enters
      | updateStatus id new reason expected =>
          obtain ⟨-, rfl, -⟩ := staged
          exact .inr trivial
      | updateFields id fields =>
          refine .inr fun moded => ?_
          rw [staged.2] at moded
          cases moded
      | delete id expected token => exact .inr trivial
      | adoptClaim id observed token => exact .inr trivial
      | releaseClaim id token => exact .inr trivial
  | remote asked =>
      cases asked with
      | acompletion request =>
          obtain ⟨atWork | lost, fits⟩ := calls request staged
          · exact .inr ⟨row, key, atWork, fits⟩
          · exact .inl lost
      | credential endpoint id => cases staged
      | _ => exact .inr trivial
  | note mark =>
      cases mark with
      | proposeFix id trigger => exact absurd staged.2.2 quiet
      | _ => cases staged
  | ledger write => cases staged
  | joint write => cases staged
  | createTask id job => cases staged
  | _ => exact .inr trivial

/-- What a stage operation does to an insight: nothing, but for a model call. -/
theorem stage_next {op : Op} (staged : stageOp scope op) (quiet : ¬ scope.proposes)
    (inside : insight.Staged row key) (answer : Except Exn op.Ans) :
    insightNext listed insight op answer = insight ∨
      insightNext listed insight op answer = .lost ∨
      ∃ request, op = .remote (.acompletion request) ∧ scope.calls request ∧
        insightNext listed insight op answer = insight.completed request.messages := by
  by_cases called : ∃ request, op = .remote (.acompletion request)
  · obtain ⟨request, rfl⟩ := called
    refine .inr (.inr ⟨request, rfl, staged, ?_⟩)
    cases answer <;> rfl
  have entered : ∀ mark, op ≠ .note mark := by
    rintro mark rfl
    cases mark with
    | proposeFix id trigger => exact quiet staged.2.2
    | _ => cases staged
  have idle := stage_idle staged (fun request same => called ⟨request, same⟩) entered
  rcases idle_next idle answer with moved | lost
  · rw [moved, staged_after op inside]
    exact .inl rfl
  · exact .inr (.inl lost)

theorem at_work_kept {Result : Type} {body : Py Result} (only : body.Only (stageOp scope))
    (quiet : ¬ scope.proposes)
    (calls : ∀ request, scope.calls request →
      Fits settings row key request ∧ request.messages.last = false)
    (atWork : insight.AtWork row key) :
    body.Follows (syncRun listed settings) insight (fun _ => Insight.AtWork row key)
      (fun _ => Insight.AtWork row key) := by
  refine only.follows (syncRun listed settings) (Insight.AtWork row key)
    (fun reached op atWork staged => ⟨.inl ⟨scope, staged⟩, ?_⟩)
    (fun (reached : Insight) op answer atWork staged => ?_) atWork
  · rcases stage_attended staged quiet (fun _ => atWork)
      (fun request called => ⟨atWork, (calls request called).1⟩) with lost | attended
    · exact .inl lost
    · exact .inr (.inr ⟨at_work_inside atWork, attended⟩)
  · show Insight.AtWork row key (insightNext listed reached op answer)
    rcases stage_next staged quiet (.inl atWork) answer with same | lost | ⟨request, _, called, moved⟩
    · rw [same]
      exact atWork
    · exact .inr lost
    · rw [moved]
      have early := (calls request called).2
      rcases atWork with (rfl | rfl) | rfl
      · exact .inl (.inl (by simp [Insight.completed, early]))
      · exact .inl (.inr (by simp [Insight.completed, early]))
      · exact .inr rfl

theorem staged_kept {Result : Type} {body : Py Result} (only : body.Only (stageOp scope))
    (ending : ¬ scope.proposes ∧ ¬ scope.claims ∧ ∀ request, ¬ scope.calls request)
    (holds : Insight → Prop) (lost : holds .lost)
    (staged : ∀ insight, holds insight → insight.Staged row key) (held : holds insight) :
    body.Follows (syncRun listed settings) insight (fun _ => holds) (fun _ => holds) := by
  obtain ⟨quiet, claimless, callless⟩ := ending
  refine only.follows (syncRun listed settings) holds
    (fun reached op held stage => ⟨.inl ⟨scope, stage⟩, ?_⟩)
    (fun (reached : Insight) op answer held stage => ?_) held
  · have claims : scope.claims → Insight.AtWork row key reached := fun claims =>
      absurd claims claimless
    rcases stage_attended stage quiet claims
      (fun request called => absurd called (callless request)) with lost | attended
    · exact .inl lost
    · exact .inr (.inr ⟨staged_inside (staged _ held), attended⟩)
  · show holds (insightNext listed reached op answer)
    rcases stage_next stage quiet (staged _ held) answer with same | dead | ⟨request, _, called, _⟩
    · rw [same]
      exact held
    · rw [dead]
      exact lost
    · exact absurd called (callless request)

end Steps

/-- A stage of an action before its last model call. -/
def earlyScope (settings : Settings) (row : TriageAction) (key : Option String) : StageScope where
  reportId := row.reportId
  triggerRef := some row.actionId
  calls request := Fits settings row key request ∧ request.messages.last = false
  claims := True
  proposes := False

def lateScope (row : TriageAction) : StageScope where
  reportId := row.reportId
  triggerRef := some row.actionId
  calls _ := False
  claims := False
  proposes := False

section Stages

variable {listed : ListedAction → Prop} {settings : Settings} {insight : Insight}
variable {row : TriageAction} {key : Option String} {Result : Type} {body : Py Result}

theorem early_kept (only : body.Only (stageOp (earlyScope settings row key)))
    (atWork : insight.AtWork row key) :
    body.Follows (syncRun listed settings) insight (fun _ => Insight.AtWork row key)
      (fun _ => Insight.AtWork row key) :=
  at_work_kept only id (fun _ called => called) atWork

theorem late_kept (only : body.Only (stageOp (lateScope row))) (staged : insight.Staged row key) :
    body.Follows (syncRun listed settings) insight (fun _ => Insight.Staged row key)
      (fun _ => Insight.Staged row key) :=
  staged_kept only ⟨id, id, fun _ => id⟩ (Insight.Staged row key) (.inr (.inr rfl))
    (fun _ staged => staged) staged

theorem late_early {op : Op} (late : stageOp (lateScope row) op) :
    stageOp (earlyScope settings row key) op := by
  cases op with
  | report write =>
      cases write with
      | tryClaim id expected new token => exact ⟨late.1, late.2.1, late.2.2.1, fun _ => trivial⟩
      | _ => exact late
  | stage write => cases write <;> exact late
  | remote asked => cases asked <;> first | exact late | cases late
  | note mark =>
      cases mark with
      | proposeFix report trigger => exact late.2.2.elim
      | _ => cases late
  | query q => cases q <;> exact late
  | _ => exact late

/-- What is neither a start nor a model call keeps the model at work as well. -/
theorem late_at_work (only : body.Only (stageOp (lateScope row))) (atWork : insight.AtWork row key) :
    body.Follows (syncRun listed settings) insight (fun _ => Insight.AtWork row key)
      (fun _ => Insight.AtWork row key) :=
  early_kept (only.mono fun _ late => late_early late) atWork

theorem quiet_only {scope : StageScope} (quiet : body.Only (quietOp scope)) :
    body.Only (stageOp scope) := quiet.mono fun _ quiet => quiet.1

theorem set_status_only {scope : StageScope} {new : BugStatus} (reason : Option String)
    (outcome : new ∈ stageOutcomes) :
    (underWriteLock (setStatus scope.reportId new reason)).Only (stageOp scope) := by
  have follows := @status_set scope .lost .analyzing new reason (.inl (.inr rfl)) outcome
  exact only_bind (only_ask trivial) fun _ => follows.forget.2

theorem Insight.AtWork.staged (atWork : insight.AtWork row key) : insight.Staged row key :=
  .inl atWork

/-- A last model call: once it is answered, nothing is left to start. -/
theorem last_completion (args : CompleteArgs) (last : args.messages.last = true)
    (fits : ∀ call, routeCall settings args = .ok call → Fits settings row key call)
    (atWork : insight.AtWork row key) :
    (complete settings args).Follows (syncRun listed settings) insight
      (fun _ => Insight.Staged row key) (fun _ => Insight.Staged row key) := by
  unfold complete
  split
  · exact atWork.staged
  rename_i request routed
  have messages : request.messages = args.messages := routed_messages routed
  have completed : (insight.completed request.messages).Staged row key := by
    rw [messages]
    rcases atWork with (rfl | rfl) | rfl
    · exact .inr (.inl (by simp [Insight.completed, last]))
    · exact .inr (.inl (by simp [Insight.completed, last]))
    · exact .inr (.inr rfl)
  refine Follows.andThen ((follows_sync_ask ..).mpr ⟨⟨?_, ?_⟩, fun _ => completed,
    fun _ => completed⟩) (fun _ _ staged => staged) fun _ _ staged => staged
  · exact .inl ⟨⟨"", none, fun _ => True, False, False⟩, trivial⟩
  · rcases atWork with atWork | lost
    · exact .inr (.inr ⟨at_work_inside (.inl atWork), row, key, atWork, fits request routed⟩)
    · exact .inl lost

theorem confirm_pass_insight {report : Report} (same : report.id = row.reportId)
    {provider model : String} (fits : ∀ files summary call, routeCall settings
      { model := some model, messages := .confirm report files summary, provider } = .ok call →
      Fits settings row key call)
    (repoPath : String) (summary confidence files : Json) (atWork : insight.AtWork row key) :
    (confirmPass settings report repoPath provider model summary confidence files).Follows
      (syncRun listed settings) insight (fun _ => Insight.Staged row key)
      (fun _ => Insight.Staged row key) := by
  have early : ∀ (error : Exn) reached, Insight.AtWork row key reached →
      Insight.Staged row key reached := fun _ _ atWork => atWork.staged
  have still : ∀ (error : Exn) reached, Insight.Staged row key reached →
      Insight.Staged row key reached := fun _ _ staged => staged
  refine Follows.andThen (late_at_work (quiet_only (quiet_compute _)) atWork)
    (fun confident _ atWork => ?_) early
  split
  swap
  · exact atWork.staged
  refine Follows.andThen (late_at_work (only_ask trivial) atWork)
    (fun read reached atWork => ?_) early
  split
  · exact atWork.staged
  have pass : (localizePass settings (.confirm report read.files summary) provider model).Follows
      (syncRun listed settings) reached (fun _ => Insight.Staged row key)
      (fun _ => Insight.Staged row key) := by
    refine Follows.andThen (late_at_work (quiet_only (quiet_compute _)) atWork)
      (fun _ _ atWork => ?_) early
    refine Follows.andThen (last_completion _ rfl (fits _ _) atWork) (fun response _ staged => ?_)
      still
    exact Follows.andThen (late_kept (quiet_only (quiet_compute _)) staged)
      (fun _ _ staged => staged) still
  refine Follows.andThen pass (fun confirmed _ staged => ?_) still
  exact Follows.andThen (late_kept (quiet_only (quiet_localize_usage same _)) staged)
    (fun _ _ staged => staged) still

/-- Every call a local stage is routed to, with its own pin or with any while it has none. -/
def FitsLocal (settings : Settings) (row : TriageAction) (key : Option String)
    (llm : Option LlmPin) (prompts : Prompt → Prop) : Prop :=
  ∀ pin prompt call, llm = none ∨ llm = some pin → prompts prompt →
    routeCall settings { model := some pin.2, messages := prompt, provider := pin.1 } = .ok call →
    Fits settings row key call

theorem localize_run_insight {report : Report} (same : report.id = row.reportId)
    {provider model : String} (fits : ∀ prompt call, Prompt.localizes prompt → routeCall settings
      { model := some model, messages := prompt, provider } = .ok call →
      Fits settings row key call)
    (repoMap sha path : String) (summary : Json) (analysisId : String)
    (atWork : insight.AtWork row key) :
    (localizeRun settings report repoMap sha path provider model summary analysisId).Follows
      (syncRun listed settings) insight (fun _ => Insight.Staged row key)
      (fun _ => Insight.Staged row key) := by
  have early : ∀ (error : Exn) reached, Insight.AtWork row key reached →
      Insight.Staged row key reached := fun _ _ atWork => atWork.staged
  have still : ∀ (error : Exn) reached, Insight.Staged row key reached →
      Insight.Staged row key reached := fun _ _ staged => staged
  have first : (earlyScope settings row key).Takes settings
      { model := some model, messages := .localize report repoMap summary, provider } := by
    intro call routed
    refine ⟨fits (.localize report repoMap summary) call trivial routed, ?_⟩
    rw [routed_messages routed]
    rfl
  refine Follows.andThen (early_kept (quiet_only (quiet_localize_pass first)) atWork)
    (fun pass _ atWork => ?_) early
  refine Follows.andThen (late_at_work (quiet_only (quiet_localize_usage same _)) atWork)
    (fun _ _ atWork => ?_) early
  refine Follows.andThen (late_at_work (quiet_only (quiet_get_field _ _)) atWork)
    (fun confidence _ atWork => ?_) early
  refine Follows.andThen (late_at_work (quiet_only (quiet_get_field _ _)) atWork)
    (fun candidates _ atWork => ?_) early
  refine Follows.andThen (confirm_pass_insight same
    (fun files summary call => fits (.confirm report files summary) call trivial) _ _ _ _ atWork) (fun second _ staged => ?_) still
  refine Follows.andThen (late_kept (quiet_only quiet_clock) staged) (fun _ _ staged => ?_) still
  exact Follows.andThen (late_kept (quiet_only (quiet_under_write_lock
    (quiet_analysis_update _ _))) staged) (fun _ _ staged => staged) still

theorem localize_report_insight {report : Report} (same : report.id = row.reportId)
    {provider model : String} (fits : ∀ prompt call, Prompt.localizes prompt → routeCall settings
      { model := some model, messages := prompt, provider } = .ok call →
      Fits settings row key call)
    (repoMap sha path : String) (summary : Json) (atWork : insight.AtWork row key) :
    (localizeReport settings report repoMap sha path (some model) (some provider) summary
      (some row.actionId)).Follows (syncRun listed settings) insight
      (fun _ => Insight.Staged row key) (fun _ => Insight.Staged row key) := by
  have early : ∀ (error : Exn) reached, Insight.AtWork row key reached →
      Insight.Staged row key reached := fun _ _ atWork => atWork.staged
  have still : ∀ (error : Exn) reached, Insight.Staged row key reached →
      Insight.Staged row key reached := fun _ _ staged => staged
  refine Follows.andThen (late_at_work (quiet_only quiet_clock) atWork) (fun _ _ atWork => ?_) early
  refine Follows.andThen (late_at_work (quiet_only (quiet_under_write_lock
    (quiet_analysis_create same fun _ => rfl))) atWork) (fun analysisId _ atWork => ?_) early
  refine (localize_run_insight same fits _ _ _ _ _ atWork).caught (fun _ _ staged => staged)
    fun error _ staged => ?_
  refine Follows.andThen (late_kept (quiet_only quiet_clock) staged) (fun _ _ staged => ?_) still
  exact Follows.andThen (late_kept (quiet_only (quiet_under_write_lock
    (quiet_analysis_update _ _))) staged) (fun _ _ staged => staged) still

theorem localize_claimed_insight {report : Report} (same : report.id = row.reportId)
    {llm : Option LlmPin} (fits : FitsLocal settings row key llm Prompt.localizes)
    (project : Project) (repoPath : String) (atWork : insight.AtWork row key) :
    (localizeClaimed settings row.reportId report project repoPath llm (some row.actionId)).Follows
      (syncRun listed settings) insight (fun _ => Insight.Staged row key)
      (fun _ => Insight.Staged row key) := by
  have early : ∀ (error : Exn) reached, Insight.AtWork row key reached →
      Insight.Staged row key reached := fun _ _ atWork => atWork.staged
  have still : ∀ (error : Exn) reached, Insight.Staged row key reached →
      Insight.Staged row key reached := fun _ _ staged => staged
  have leave : ∀ (outcome : LocalOutcome) reached, Insight.Staged row key reached →
      Program.Follows (syncRun listed settings)
        (underWriteLock (setStatus row.reportId .triaged none) >>= fun _ => Pure.pure outcome)
        reached (fun _ => Insight.Staged row key) (fun _ => Insight.Staged row key) := by
    intro outcome reached staged
    exact Follows.andThen (late_kept (@set_status_only (lateScope row) .triaged none (by decide))
      staged) (fun _ _ staged => staged) still
  refine Follows.andThen (late_at_work (only_ask trivial) atWork) (fun sha _ atWork => ?_) early
  refine Follows.andThen (late_at_work (quiet_only (quiet_project_update ⟨rfl, rfl, rfl, rfl⟩))
    atWork) (fun _ _ atWork => ?_) early
  refine Follows.andThen (late_at_work (quiet_only (quiet_query trivial)) atWork)
    (fun existing _ atWork => ?_) early
  split
  · exact leave _ _ atWork.staged
  refine Follows.andThen (late_at_work (only_ask trivial) atWork) (fun repoMap _ atWork => ?_) early
  refine Follows.andThen (late_at_work (quiet_only (quiet_query trivial)) atWork)
    (fun triages _ atWork => ?_) early
  refine Follows.andThen (late_at_work (quiet_only (quiet_triage_summary _)) atWork)
    (fun summary _ atWork => ?_) early
  refine Follows.andThen (localize_report_insight same (fun prompt call kind routed =>
    fits _ prompt call ?_ kind routed) _ _ _ _ atWork) (fun _ _ staged => ?_) still
  · cases llm
    · exact .inl rfl
    · exact .inr rfl
  · exact leave _ _ staged

theorem claim_only {expected new : BugStatus} (listed' : (expected, new) ∈ stageClaims) :
    (underWriteLock (tryClaimReport row.reportId expected new none)).Only
      (stageOp (earlyScope settings row key)) :=
  only_bind (only_ask trivial) fun _ => only_ask ⟨rfl, rfl, listed', fun _ => trivial⟩

theorem process_localization_insight {llm : Option LlmPin}
    (fits : FitsLocal settings row key llm Prompt.localizes) (atWork : insight.AtWork row key) :
    (processLocalization settings row.reportId llm (some row.actionId)).Follows
      (syncRun listed settings) insight (fun _ => Insight.Staged row key)
      (fun _ => Insight.Staged row key) := by
  have early : ∀ (error : Exn) reached, Insight.AtWork row key reached →
      Insight.Staged row key reached := fun _ _ atWork => atWork.staged
  have leave : ∀ (outcome : LocalOutcome) reached, Insight.Staged row key reached →
      Program.Follows (syncRun listed settings)
        (underWriteLock (setStatus row.reportId .triaged none) >>= fun _ => Pure.pure outcome)
        reached (fun _ => Insight.Staged row key) (fun _ => Insight.Staged row key) := by
    intro outcome reached staged
    exact Follows.andThen (late_kept (@set_status_only (lateScope row) .triaged none (by decide))
      staged) (fun _ _ staged => staged) fun _ _ staged => staged
  refine Follows.andThen (early_kept (claim_only (by decide)) atWork)
    (fun claimed reached atWork => ?_) early
  split
  swap
  · exact atWork.staged
  refine Follows.andThen (late_at_work (quiet_only (quiet_query trivial)) atWork)
    (fun report _ atWork => ?_) early
  cases report with
  | none => exact atWork.staged
  | some report =>
      refine Follows.andThen (late_at_work (quiet_only (quiet_project_get _)) atWork)
        (fun project _ atWork => ?_) early
      split
      · exact leave _ _ atWork.staged
      · exact (localize_claimed_insight report.2 fits _ _ atWork).caught (fun _ _ staged => staged)
          fun _ _ staged => leave _ _ staged

theorem process_triaged_insight {llm : Option LlmPin}
    (fits : FitsLocal settings row key llm Prompt.triages) (atWork : insight.AtWork row key) :
    (processTriaged settings row.reportId llm (some row.actionId)).Follows
      (syncRun listed settings) insight (fun _ => Insight.AtWork row key)
      (fun _ => Insight.AtWork row key) := by
  have takes : TakesLocal (earlyScope settings row key) settings llm Prompt.triages := by
    intro pin prompt chosen triages call routed
    refine ⟨fits pin prompt call chosen triages routed, ?_⟩
    rw [routed_messages routed]
    cases prompt <;> first | rfl | cases triages
  have follows := @process_triaged_follows (earlyScope settings row key) settings .free trivial llm
    takes (.inl rfl)
  exact early_kept follows.forget.2 atWork

theorem run_local_analysis_insight
    {args : LocalArgs} (same : args.triggerRef = some row.actionId)
    (triages : FitsLocal settings row key args.triageLlm Prompt.triages)
    (localizes : FitsLocal settings row key args.localizeLlm Prompt.localizes)
    (atWork : insight.AtWork row key) :
    (runLocalAnalysis settings row.reportId args).Follows (syncRun listed settings) insight
      (fun _ => Insight.Staged row key) (fun _ => Insight.Staged row key) := by
  have early : ∀ (error : Exn) reached, Insight.AtWork row key reached →
      Insight.Staged row key reached := fun _ _ atWork => atWork.staged
  have localize : ∀ triagedNow reached, Insight.AtWork row key reached →
      Program.Follows (syncRun listed settings) (do
        let outcome ← processLocalization settings row.reportId args.localizeLlm
          (some row.actionId)
        if outcome = .notClaimed && triagedNow then pure .triageOnly else pure outcome)
        reached (fun _ => Insight.Staged row key) (fun _ => Insight.Staged row key) := by
    intro triagedNow reached atWork
    refine (process_localization_insight localizes atWork).andThen (fun outcome _ staged => ?_)
      fun _ _ staged => staged
    split <;> exact staged
  unfold runLocalAnalysis
  rw [same]
  refine Follows.andThen (late_at_work (quiet_only (quiet_query trivial)) atWork)
    (fun found _ atWork => ?_) early
  cases found with
  | none => exact atWork.staged
  | some found =>
      have pushes := (@push_clarified_follows (earlyScope settings row key) .free trivial found.1
        (.inl rfl)).forget.2
      refine Follows.andThen (early_kept pushes atWork) (fun _ _ atWork => ?_) early
      refine Follows.andThen (late_at_work (quiet_only (quiet_query trivial)) atWork)
        (fun done _ atWork => ?_) early
      split
      · exact localize _ _ atWork
      · exact (process_triaged_insight triages atWork).andThen
          (fun _ _ atWork => localize _ _ atWork) early

def FitsFix (settings : Settings) (row : TriageAction) (key : Option String) (args : FixArgs) :
    Prop :=
  ∀ project report analysis files call, routeCall settings
    { model := some (args.pick (resolveFixLlm settings (some project))).2
      messages := .fix report analysis files settings.fixEnablePromptCaching
      provider := (args.pick (resolveFixLlm settings (some project))).1
      apiKey := args.requestKey, timeout := settings.fixTimeoutSeconds } = .ok call →
    Fits settings row key call

theorem ask_for_fix_insight {args : FixArgs} {input : FixInput}
    (fits : FitsFix settings row key args) (atWork : insight.AtWork row key) :
    (askForFix settings args input).Follows (syncRun listed settings) insight
      (fun _ => Insight.Staged row key) (fun _ => Insight.Staged row key) := by
  have still : ∀ (error : Exn) reached, Insight.Staged row key reached →
      Insight.Staged row key reached := fun _ _ staged => staged
  refine Follows.andThen (late_at_work (quiet_only (quiet_compute _)) atWork)
    (fun _ _ atWork => ?_) fun _ _ atWork => atWork.staged
  refine Follows.andThen (last_completion _ rfl (fits _ _ _ _) atWork)
    (fun response _ staged => ?_) still
  refine Follows.andThen (late_kept (quiet_only (quiet_compute _)) staged)
    (fun parsed _ staged => ?_) still
  cases parsed <;> exact staged

theorem propose_claimed_insight {args : FixArgs} (triggered : args.triggerRef = some row.actionId)
    (fits : FitsFix settings row key args) (atWork : insight.AtWork row key) :
    (proposeClaimed settings row.reportId args).Follows (syncRun listed settings) insight
      (fun _ => Insight.Staged row key) (fun _ => Insight.Staged row key) := by
  have early : ∀ (error : Exn) reached, Insight.AtWork row key reached →
      Insight.Staged row key reached := fun _ _ atWork => atWork.staged
  have still : ∀ (error : Exn) reached, Insight.Staged row key reached →
      Insight.Staged row key reached := fun _ _ staged => staged
  refine Follows.andThen (late_at_work (quiet_only (quiet_query trivial)) atWork)
    (fun report _ atWork => ?_) early
  cases report with
  | none => exact atWork.staged
  | some report =>
      refine Follows.andThen (late_at_work (quiet_only (quiet_query trivial)) atWork)
        (fun analysis _ atWork => ?_) early
      cases analysis with
      | none => exact atWork.staged
      | some analysis =>
          refine Follows.andThen (late_at_work (quiet_only (quiet_query trivial)) atWork)
            (fun existing _ atWork => ?_) early
          split
          · exact Follows.andThen (late_kept (@set_status_only (lateScope row) .fixProposed none
              (by decide)) atWork.staged) (fun _ _ staged => staged) still
          refine Follows.andThen (late_at_work (quiet_only (quiet_project_get _)) atWork)
            (fun project _ atWork => ?_) early
          refine Follows.andThen (late_at_work (quiet_only (quiet_gather _ _)) atWork)
            (fun gathered _ atWork => ?_) early
          refine Follows.andThen (ask_for_fix_insight fits atWork) (fun answered _ staged => ?_)
            still
          have persists := (@persist_proposal_follows (lateScope row) .lost args triggered report.1
            report.2 analysis answered.1 answered.2 (.inr rfl)).forget.2
          exact Follows.andThen (late_kept persists staged) (fun _ _ staged => staged) still

theorem claim_and_propose_insight {args : FixArgs}
    (triggered : args.triggerRef = some row.actionId) (fits : FitsFix settings row key args)
    (atWork : insight.AtWork row key) :
    (claimAndPropose settings row.reportId args).Follows (syncRun listed settings) insight
      (fun _ => Insight.Staged row key) (fun _ => Insight.Staged row key) := by
  refine Follows.andThen (early_kept (claim_only (by decide)) atWork)
    (fun claimed reached atWork => ?_) fun _ _ atWork => atWork.staged
  split
  · refine (propose_claimed_insight triggered fits atWork).caught (fun _ _ staged => staged)
      fun error _ staged => ?_
    exact late_kept (@fix_failed_follows (lateScope row) .lost args triggered error
      (.inl (.inr rfl))).forget.2 staged
  · exact atWork.staged

/-- `propose_fix` is entered once: the insight moves from `working` to `proposing`. -/
theorem propose_fix_insight {args : FixArgs} (triggered : args.triggerRef = some row.actionId)
    (fits : FitsFix settings row key args) (working : insight = .working row key ∨ insight = .lost) :
    (proposeFix settings row.reportId args).Follows (syncRun listed settings) insight
      (fun _ => Insight.Staged row key) (fun _ => Insight.Staged row key) := by
  have proposing : (insight.proposes).AtWork row key := by
    rcases working with rfl | rfl
    · exact .inl (.inr rfl)
    · exact .inr rfl
  refine (follows_bind ..).mpr ((follows_sync_ask ..).mpr ⟨⟨?_, ?_⟩, fun _ => ?_, fun _ =>
    .inr (.inr rfl)⟩)
  · exact .inl ⟨⟨row.reportId, args.triggerRef, fun _ => True, True, True⟩, rfl, rfl, trivial⟩
  · rcases working with rfl | rfl
    · exact .inr (.inr ⟨by simp, row, key, rfl, triggered, rfl⟩)
    · exact .inl rfl
  · split
    · exact Insight.AtWork.staged proposing
    · exact claim_and_propose_insight triggered fits proposing

end Stages

end Bugalizer
