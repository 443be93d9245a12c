import Bugalizer.Sync.Footprints
import Bugalizer.Sync.TaskRuns
import Bugalizer.Coroutine.Conduct
import Bugalizer.System

/-!
# What each job of the process can ask for

A stage run by hand, an endpoint and an open-pr call attend to no action; the jobs of the
sync keep their insight. Together: every job keeps one discipline, whose ghost also carries
the settings its process started with.
-/

namespace Bugalizer

set_option autoImplicit false

open Coroutine Program

section Outside

variable {settings : Settings} {Result : Type} {body : Py Result}

def manualScope (reportId : String) : StageScope :=
  { reportId, triggerRef := none, calls := fun _ => True, claims := True, proposes := True }

/-- An operation of a stage, an endpoint or an open-pr call that serves no action. -/
def manualOp (op : Op) : Prop :=
  (∃ reportId, stageOp (manualScope reportId) op) ∨ prOp op ∨ endpointOp op

theorem manual_program {op : Op} (manual : manualOp op) : programOp op := by
  rcases manual with ⟨reportId, staged⟩ | pr | endpoint
  · exact .inl ⟨_, staged⟩
  · exact .inr (.inl pr)
  · exact .inr (.inr (.inr endpoint))

theorem manual_outside {op : Op} (manual : manualOp op) : outsideOp op := by
  rcases manual with ⟨reportId, staged⟩ | pr | endpoint
  · cases op with
    | note mark =>
        cases mark with
        | proposeFix id trigger => exact staged.2.1
        | _ => cases staged
    | remote asked => cases asked <;> trivial
    | joint write => cases staged
    | ledger write => cases staged
    | createTask id job => cases staged
    | _ => trivial
  · cases op with
    | note mark => cases pr
    | remote asked => cases asked <;> trivial
    | joint write => cases write <;> trivial
    | ledger write => cases pr
    | createTask id job => cases pr
    | _ => trivial
  · cases op with
    | note mark => cases endpoint
    | remote asked => cases asked <;> trivial
    | joint write => cases endpoint
    | ledger write => cases endpoint
    | createTask id job => cases endpoint
    | _ => trivial

def manualRealms : List Realm :=
  [.look, .row, .reports, .stages, .attempts, .proposals, .projects, .outside, .marks, .claims, .git]

theorem endpoint_ops_within {op : Op} (endpoint : endpointOp op) : within manualRealms op := by
  cases op with
  | query q => cases q <;> rfl
  | memory asked => cases asked <;> first | rfl | cases endpoint
  | joint write => cases endpoint
  | stage write => cases endpoint
  | outbox write => cases endpoint
  | ledger write => cases endpoint
  | createTask id job => cases endpoint
  | acquire lock => cases endpoint
  | remote asked => cases asked <;> first | rfl | cases endpoint
  | note mark => cases endpoint
  | _ => rfl

theorem manual_within {op : Op} (manual : manualOp op) : within manualRealms op := by
  rcases manual with ⟨reportId, staged⟩ | pr | endpoint
  · exact within_wider (by decide) (stage_within staged)
  · exact within_wider (by decide) (pr_within pr)
  · exact endpoint_ops_within endpoint

theorem staged_manual {reportId : String} (only : body.Only (stageOp (manualScope reportId))) :
    body.Only manualOp := only.mono fun _ staged => .inl ⟨reportId, staged⟩

theorem endpoint_manual (only : body.Only endpointOp) : body.Only manualOp :=
  only.mono fun _ endpoint => .inr (.inr endpoint)

theorem manual_discard (only : body.Only manualOp) : (discard body).Only manualOp :=
  only_bind only fun _ => trivial

theorem manual_read (reportId : String) : (reportGet reportId).Only manualOp :=
  only_ask (.inr (.inr trivial))

theorem endpoint_ask {op : Op} (endpoint : endpointOp op) : (ask op).Only endpointOp :=
  only_ask endpoint

theorem manual_submitted (reportId : String) : (processSubmitted reportId).Only manualOp :=
  staged_manual (@process_submitted_follows (manualScope reportId) .free trivial (.inl rfl)).forget.2

theorem takes_all (reportId : String) (llm : Option LlmPin) (prompts : Prompt → Prop) :
    TakesLocal (manualScope reportId) settings llm prompts := fun _ _ _ _ _ _ => trivial

theorem manual_triaged (reportId : String) (llm : Option LlmPin) :
    (processTriaged settings reportId llm none).Only manualOp :=
  staged_manual (@process_triaged_follows (manualScope reportId) settings .free trivial llm
    (takes_all _ _ _) (.inl rfl)).forget.2

theorem manual_localization (reportId : String) (llm : Option LlmPin) :
    (processLocalization settings reportId llm none).Only manualOp :=
  staged_manual (@process_localization_follows (manualScope reportId) settings .free trivial llm
    (takes_all _ _ _) (.inl rfl)).forget.2

theorem manual_local_analysis (reportId : String) :
    (runLocalAnalysis settings reportId {}).Only manualOp :=
  staged_manual (@run_local_analysis_follows (manualScope reportId) settings .free trivial {} rfl
    (takes_all _ _ _) (takes_all _ _ _) (.inl rfl)).forget.2

theorem manual_fix (reportId : String) (override : Option LLMOverride) :
    (processFixProposal settings reportId override).Only manualOp :=
  staged_manual (@propose_fix_follows (manualScope reportId) settings .free trivial trivial
    { override } rfl (fun _ _ _ _ _ _ => trivial) (.inl rfl)).forget.2

theorem endpoint_check_cloud (row : Report) (project : Option Project) :
    (checkCloudAnalysis row project).Only endpointOp := by
  unfold checkCloudAnalysis
  split
  swap
  · trivial
  refine only_bind (endpoint_ask trivial) fun localization => ?_
  split
  · trivial
  · dsimp only
    split <;> trivial

theorem manual_analyze (reportId : String) (tier : AnalysisTier) (override : Option LLMOverride) :
    (analyzeReport settings reportId tier override).Only manualOp := by
  refine only_bind (manual_read _) fun found => ?_
  cases found with
  | none => trivial
  | some found =>
      dsimp only
      split
      · trivial
      cases tier with
      | localTier =>
          dsimp only
          split
          · trivial
          · exact only_bind (manual_local_analysis _) fun _ => trivial
      | cloud =>
          refine only_bind (endpoint_manual (only_bind (endpoint_ask trivial) fun _ => trivial))
            fun project => ?_
          refine only_bind (endpoint_manual (endpoint_check_cloud _ _)) fun refusal => ?_
          split
          · trivial
          · exact only_bind (manual_fix _ _) fun _ => trivial

theorem manual_open_pr (reportId : String) (proposalId : Option String) :
    (openPr settings reportId proposalId).Only manualOp := by
  have opens : (openPullRequest settings reportId proposalId).Only manualOp :=
    (@open_pull_request_follows .idle settings proposalId reportId (.inl rfl)).forget.2.mono
      fun _ pr => .inr (.inl pr)
  refine only_bind (manual_read _) fun found => ?_
  cases found with
  | none => trivial
  | some found => exact only_catching (only_bind opens fun _ => trivial) fun _ => trivial

theorem endpoint_update_status (reportId : String) (target : BugStatus) (reason : Option String) :
    (updateReportStatus reportId target reason).Only endpointOp := by
  refine only_bind (endpoint_ask trivial) fun found => ?_
  cases found with
  | none => trivial
  | some found =>
      dsimp only
      split
      · trivial
      rename_i admitted
      have valid := checked_transition (Option.not_isSome_iff_eq_none.mp admitted)
      refine only_bind (only_bind (endpoint_ask valid) fun hit => ?_) fun updated => ?_
      · split
        · trivial
        · exact endpoint_ask trivial
      · split <;> trivial

theorem endpoint_update_mode (reportId : String) (mode : AnalysisMode) :
    (updateAnalysisMode reportId mode).Only endpointOp := by
  refine only_bind (endpoint_ask trivial) fun found => ?_
  cases found with
  | none => trivial
  | some found =>
      exact only_bind (only_bind (endpoint_ask ⟨rfl, rfl⟩) fun _ => endpoint_ask trivial)
        fun _ => trivial

theorem endpoint_delete (reportId : String) : (deleteReport reportId).Only endpointOp := by
  refine only_bind (endpoint_ask trivial) fun found => ?_
  cases found with
  | none => trivial
  | some found =>
      dsimp only
      split
      · trivial
      refine only_bind (endpoint_ask trivial) fun running => ?_
      split
      · trivial
      refine only_bind (endpoint_ask trivial) fun deleted => ?_
      split <;> trivial

theorem endpoint_project_get (id : String) : (projectGet id).Only endpointOp :=
  only_bind (endpoint_ask trivial) fun _ => trivial

theorem endpoint_project_update (id : String) (fields : ProjectFields) :
    (projectUpdateCall id fields).Only endpointOp := by
  refine only_bind (endpoint_project_get id) fun found => ?_
  cases found with
  | none => trivial
  | some _ => exact only_bind (endpoint_ask trivial) fun _ => endpoint_project_get id

theorem endpoint_check_source (projectId : String) (config : Json) :
    (checkTriageSource projectId config).Only endpointOp := by
  unfold checkTriageSource
  split
  swap
  · trivial
  refine only_bind (endpoint_ask trivial) fun base => ?_
  refine only_bind (endpoint_ask trivial) fun others => ?_
  refine only_for_each fun other _ => ?_
  split
  · trivial
  refine only_bind (endpoint_ask trivial) fun taken => ?_
  split <;> trivial

theorem endpoint_update_project (projectId : String) (updates : ProjectFields) :
    (updateProject projectId updates).Only endpointOp := by
  have rest : ∀ checked : ProjectFields, (do
      let row ← projectUpdateCall projectId checked
      if row.isNone then raise (.httpException 404) else pure () : Py Unit).Only endpointOp := by
    intro checked
    refine only_bind (endpoint_project_update _ _) fun row => ?_
    split <;> trivial
  unfold updateProject
  split
  swap
  · exact rest updates
  refine only_bind (endpoint_project_get projectId) fun found => ?_
  cases found with
  | none => trivial
  | some existing =>
      refine only_bind (endpoint_ask trivial) fun pair => ?_
      exact only_bind (endpoint_check_source _ _) fun _ => rest _

theorem endpoint_clone (projectId : String) : (cloneProjectRepo projectId).Only endpointOp := by
  refine only_bind (endpoint_project_get _) fun found => ?_
  cases found with
  | none => trivial
  | some project =>
      refine only_bind (endpoint_ask trivial) fun path => ?_
      refine only_bind (endpoint_ask trivial) fun sha => ?_
      exact only_bind (endpoint_project_update _ _) fun _ => trivial

theorem endpoint_refresh (projectId : String) : (refreshRepoMap projectId).Only endpointOp := by
  refine only_bind (endpoint_project_get _) fun found => ?_
  cases found with
  | none => trivial
  | some project =>
      dsimp only
      split
      · trivial
      refine only_bind (endpoint_ask trivial) fun _ => ?_
      refine only_bind (endpoint_ask trivial) fun sha => ?_
      exact only_bind (endpoint_project_update _ _) fun _ => trivial

end Outside

def Insight.initial : Job → Insight
  | .syncProject .. | .expireOverdue | .checkPrsOnly _ | .prTask _ => .blank
  | .actionTask actionId => .tasked actionId
  | _ => .outside

section Jobs

variable {listed : ListedAction → Prop} {settings : Settings}

def Job.syncs : Job → Bool
  | .syncProject .. | .expireOverdue | .checkPrsOnly _ | .actionTask _ | .prTask _ => true
  | _ => false

theorem threaded_only {job : Job} (threaded : job.threaded = true) :
    (job.program settings).Only endpointOp := by
  cases job with
  | updateReportStatus id target reason => exact endpoint_update_status id target reason
  | updateAnalysisMode id mode => exact endpoint_update_mode id mode
  | deleteReport id => exact endpoint_delete id
  | updateProject id updates => exact endpoint_update_project id updates
  | _ => cases threaded

theorem manual_only {job : Job} (manual : job.syncs = false) :
    (job.program settings).Only manualOp := by
  cases job with
  | processSubmitted id => exact manual_submitted id
  | processTriaged id => exact manual_discard (manual_triaged id none)
  | processLocalization id => exact manual_discard (manual_localization id none)
  | processFixProposal id => exact manual_discard (manual_fix id none)
  | analyzeReport id tier override => exact manual_analyze id tier override
  | updateReportStatus id target reason => exact endpoint_manual (threaded_only rfl)
  | updateAnalysisMode id mode => exact endpoint_manual (threaded_only rfl)
  | deleteReport id => exact endpoint_manual (threaded_only rfl)
  | openPr id proposalId => exact manual_open_pr id proposalId
  | updateProject id updates => exact endpoint_manual (threaded_only rfl)
  | cloneProjectRepo id => exact endpoint_manual (endpoint_clone id)
  | refreshRepoMap id => exact endpoint_manual (endpoint_refresh id)
  | _ => cases manual

theorem outside_next {op : Op} (outside : outsideOp op) (answer : Except Exn op.Ans) :
    insightNext listed .outside op answer = .outside ∨
      insightNext listed .outside op answer = .lost := by
  by_cases idle : idleOp op
  · rcases idle_next idle answer with moved | lost
    · refine .inl (moved.trans ?_)
      unfold Insight.after
      split <;> rfl
    · exact .inr lost
  cases answer with
  | error error =>
      simp only [insightNext]
      split
      · exact .inr rfl
      split
      · exact .inl rfl
      · exact .inl rfl
      · exact .inl rfl
      · refine .inl ?_
        unfold Insight.after
        split <;> rfl
  | ok value =>
      cases op with
      | query q =>
          cases q with
          | triageActionGet id => cases value <;> exact .inl rfl
          | _ => cases idle rfl
      | remote asked =>
          cases asked with
          | listActions endpoint cursor => cases outside
          | _ => exact .inl rfl
      | note mark => cases mark <;> exact .inl rfl
      | joint write => cases write <;> exact .inl rfl
      | ledger write => cases outside
      | createTask id job => cases outside
      | _ => cases idle rfl

theorem manual_follows {body : Py Unit} (only : body.Only manualOp) :
    body.Follows (syncRun listed settings) .outside (fun _ _ => True) (fun _ _ => True) := by
  refine (only.follows (syncRun listed settings) (fun (insight : Insight) =>
    insight = .outside ∨ insight = .lost) (fun reached op either manual => ⟨manual_program manual, ?_⟩)
    (fun (reached : Insight) op answer either manual => ?_) (.inl rfl)).mono
    (fun _ _ _ => trivial) fun _ _ _ => trivial
  · rcases either with rfl | rfl
    · exact .inr (.inl ⟨rfl, manual_outside manual⟩)
    · exact .inl rfl
  · rcases either with rfl | rfl
    · exact outside_next (manual_outside manual) answer
    · exact .inr (lost_next op answer)

theorem job_follows (job : Job) :
    (job.program settings).Follows (syncRun listed settings) (Insight.initial job)
      (fun _ _ => True) (fun _ _ => True) := by
  have weaken : ∀ {body : Py Unit} {insight : Insight}, body.Follows (syncRun listed settings)
      insight (fun _ => Insight.Awake) (fun _ => Insight.Awake) → body.Follows
      (syncRun listed settings) insight (fun _ _ => True) (fun _ _ => True) :=
    fun follows => follows.mono (fun _ _ _ => trivial) fun _ _ _ => trivial
  cases syncs : job.syncs with
  | false =>
      have outside : Insight.initial job = .outside := by cases job <;> first | rfl | cases syncs
      rw [outside]
      exact manual_follows (manual_only syncs)
  | true =>
      cases job with
      | syncProject id manual => exact weaken (sync_project_follows id manual rfl)
      | expireOverdue => exact weaken (free_follows (free_expire_overdue none) rfl)
      | checkPrsOnly id => exact weaken (free_follows (free_check_prs_only id) rfl)
      | actionTask id => exact run_task_follows id
      | prTask id => exact weaken (pr_task_follows id rfl)
      | _ => cases syncs

theorem job_only (job : Job) : (job.program settings).Only programOp :=
  (@job_follows (fun _ => True) settings job).forget.2

end Jobs

/-- The discipline of a process: each job under the settings it was started with. -/
noncomputable abbrev insightConduct (listed : ListedAction → Prop) : Conduct bugalizer where
  discipline := .indexed fun settings : Settings => syncRun listed settings
  initial world job := ⟨world.settings, Insight.initial job⟩
  final _ _ := True
  keeps _ job := (job_follows job).indexed

end Bugalizer
