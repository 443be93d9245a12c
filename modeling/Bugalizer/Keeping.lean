import Bugalizer.Sync.Jobs

/-!
# What the coroutines leave to three of them

Rows of `analyses` that are written again and rows of `fix_proposals` are made in three places: a
triage, a localization, and the storing of a fix. Whatever else a job does is calm: it leaves
those rows alone. So a discipline of these rows is kept by every job once the three keep it.
-/

namespace Bugalizer

set_option autoImplicit false

open Coroutine Program

def StagePhase.announced : StagePhase → Bool
  | .triage | .localization => true
  | _ => false

/-- The operations that make no row another operation follows up on, and write none again. Only
tasks of actions are spawned. -/
def calmOp : Op → Prop
  | .stage (.analysisCreate new) =>
      (new.status ≠ .running ∧ new.phase.announced = false) ∧
        ¬(new.phase = .fix ∧ new.status = .completed)
  | .stage (.analysisUpdate ..) | .stage (.fixProposalCreate _) => False
  | .createTask _ job => job.rooted = false
  | _ => True

/-- A discipline, the ghosts a coroutine may be left with between two of its parts, and those
that have a row open: it may be written, and once it was, only a triage writes it again. -/
structure Keeping where
  rules : Discipline Op Op.Ans Exn
  calm : rules.Ghost → Prop
  permitted : ∀ ghost op, calm ghost → calmOp op → rules.allowed ghost op
  kept : ∀ ghost op answer, calm ghost → calmOp op → calm (rules.next ghost op answer)
  row : String → StagePhase → Bool → rules.Ghost → Prop
  row_calm : ∀ id phase written ghost, row id phase written ghost → calm ghost
  row_kept : ∀ id phase written ghost op answer, row id phase written ghost → calmOp op →
    row id phase written (rules.next ghost op answer)
  opens : ∀ ghost (new : NewAnalysis), calm ghost → new.status = .running →
    new.phase.announced = true →
      rules.allowed ghost (.stage (.analysisCreate new)) ∧
        (∀ id, row id new.phase false (rules.next ghost (.stage (.analysisCreate new)) (.ok id))) ∧
          ∀ error, calm (rules.next ghost (.stage (.analysisCreate new)) (.error error))
  writes : ∀ id phase written ghost (fields : AnalysisFields), row id phase written ghost →
    fields.status ≠ .running → (written = true → phase = .triage) →
      rules.allowed ghost (.stage (.analysisUpdate id fields)) ∧
        ((fields.status = .completed →
            row id phase true (rules.next ghost (.stage (.analysisUpdate id fields)) (.ok ()))) ∧
          calm (rules.next ghost (.stage (.analysisUpdate id fields)) (.ok ()))) ∧
            ∀ error, row id phase written
              (rules.next ghost (.stage (.analysisUpdate id fields)) (.error error))

/-- Whatever calm ghost it finds, the coroutine keeps the discipline and leaves a calm one. -/
def Keeping.Tidy (keeping : Keeping) {First : Type} (body : Py First) : Prop :=
  ∀ ghost, keeping.calm ghost →
    body.Follows keeping.rules ghost (fun _ => keeping.calm) (fun _ => keeping.calm)

/-- The model's answer to the prompt of a fix, and what is stored of it. -/
def storeFix (settings : Settings) (args : FixArgs) (input : FixInput) : Py FixOutcome := do
  let (response, validated) ← askForFix settings args input
  let proposalId ← persistProposal args input.report input.analysis response validated
  pure { kind := .proposed, proposalId := some proposalId }

section Tidy

variable {settings : Settings} {keeping : Keeping} {First Second : Type} {body : Py First}

theorem tidy_calm (only : body.Only calmOp) : keeping.Tidy body := fun _ calm =>
  only.follows keeping.rules keeping.calm keeping.permitted keeping.kept calm

theorem tidy_within {realms : List Realm} (only : body.Only (within realms))
    (apart : Realm.attempts ∉ realms ∧ Realm.strays ∉ realms ∧ Realm.proposals ∉ realms) :
    keeping.Tidy body := by
  apply tidy_calm
  refine only.mono fun op here => ?_
  have member := List.mem_of_elem_eq_true here
  have attempts : op.realm ≠ .attempts := fun same => apart.1 (same ▸ member)
  have strays : op.realm ≠ .strays := fun same => apart.2.1 (same ▸ member)
  have proposals : op.realm ≠ .proposals := fun same => apart.2.2 (same ▸ member)
  unfold calmOp
  split
  · exact absurd rfl attempts
  · exact absurd rfl attempts
  · exact absurd rfl proposals
  · rename_i actionId job
    cases job with
    | actionTask id => rfl
    | prTask id => rfl
    | _ => exact absurd rfl strays
  · trivial

theorem tidy_bind {rest : First → Py Second} (first : keeping.Tidy body)
    (later : ∀ result, keeping.Tidy (rest result)) : keeping.Tidy (body.bind rest) :=
  fun ghost calm => (first ghost calm).andThen (fun result reached still => later result reached still)
    fun _ _ still => still

theorem tidy_catching {handler : Exn → Py First} (first : keeping.Tidy body)
    (later : ∀ error, keeping.Tidy (handler error)) : keeping.Tidy (body.catching handler) :=
  fun ghost calm => (first ghost calm).caught (fun _ _ still => still)
    fun error reached still => later error reached still

theorem tidy_ensuring {cleanup : Py Unit} (first : keeping.Tidy body)
    (last : keeping.Tidy cleanup) : keeping.Tidy (body.ensuring cleanup) :=
  fun ghost calm => (first ghost calm).ensured (fun _ reached still => last reached still)
    fun _ reached still => last reached still

theorem calm_ask {op : Op} (calm : calmOp op) : (ask op).Only calmOp := only_ask calm

theorem tidy_ask {op : Op} (calm : calmOp op) : keeping.Tidy (ask op) := tidy_calm (only_ask calm)

theorem calm_complete (args : CompleteArgs) : (complete settings args).Only calmOp := by
  unfold complete
  split
  · trivial
  · exact only_bind (only_ask trivial) fun _ => trivial

theorem calm_get_field (value : Json) (name : String) : (getField value name).Only calmOp := by
  unfold getField
  split <;> trivial

theorem calm_status (id : String) (new : BugStatus) (reason : Option String) :
    (setStatus id new reason).Only calmOp := by
  refine only_bind (only_bind (only_ask trivial) fun hit => ?_) fun _ => trivial
  split
  · trivial
  · exact only_ask trivial

theorem calm_locked (only : body.Only calmOp) : (underWriteLock body).Only calmOp :=
  only_bind (only_ask trivial) fun _ => only

theorem calm_claim (id : String) (expected new : BugStatus) :
    (underWriteLock (tryClaimReport id expected new none)).Only calmOp :=
  calm_locked (only_ask trivial)

theorem calm_clock : clock.Only calmOp := calm_ask trivial

theorem calm_parse (content : String) : (parseJson content).Only calmOp := calm_ask trivial

theorem calm_format (prompt : Prompt) : (formatPrompt prompt).Only calmOp :=
  calm_ask trivial

theorem calm_usage (new : NewTokenUsage) : (tokenUsageCreate new).Only calmOp :=
  calm_ask trivial

theorem calm_report_get (id : String) : (reportGet id).Only calmOp := calm_ask trivial

theorem calm_project_get (id : String) : (projectGet id).Only calmOp :=
  only_bind (only_ask trivial) fun _ => trivial

theorem calm_project_update (id : String) (fields : ProjectFields) :
    (projectUpdateCall id fields).Only calmOp := by
  refine only_bind (calm_project_get id) fun found => ?_
  cases found with
  | none => trivial
  | some project => exact only_bind (only_ask trivial) fun _ => calm_project_get id

theorem calm_triage_model (report : Report) (model provider : Option String) :
    (triageModel settings report model provider).Only calmOp := by
  unfold triageModel
  split
  · trivial
  · exact only_bind (calm_project_get _) fun _ => trivial

theorem completed_stopped : AnalysisStatus.completed ≠ .running := by decide

theorem failed_stopped : AnalysisStatus.failed ≠ .running := by decide

def triageRest (report : Report) (response : LlmResponse) (result : Json) : Py Json := do
  let severity ← getField result "severity"
  let featureArea ← getField result "feature_area"
  let fields := triageFields severity featureArea
  if fields.severity.isSome || fields.featureArea.isSome then do
    let _ ← reportUpdateFields report.id fields
  else pure ()
  tokenUsageCreate
    { projectId := report.projectId, provider := response.provider, model := response.model
      bugReportId := report.id, promptTokens := response.promptTokens
      completionTokens := response.completionTokens }
  let needsClarification ← getField result "needs_clarification"
  if needsClarification.truthy then setStatus report.id .clarificationNeeded none
  else setStatus report.id .triaged none
  pure result

theorem calm_triage_rest (report : Report) (response : LlmResponse) (result : Json) :
    (triageRest report response result).Only calmOp := by
  have clarified : ∀ clarify : Json, (if clarify.truthy
      then setStatus report.id .clarificationNeeded none >>= fun _ => pure result
      else setStatus report.id .triaged none >>= fun _ => pure result : Py Json).Only calmOp := by
    intro clarify
    split
    · exact only_bind (calm_status _ _ _) fun _ => trivial
    · exact only_bind (calm_status _ _ _) fun _ => trivial
  have last : ∀ used : Unit, (getField result "needs_clarification" >>= fun clarify =>
      if clarify.truthy
      then setStatus report.id .clarificationNeeded none >>= fun _ => pure result
      else setStatus report.id .triaged none >>= fun _ => pure result : Py Json).Only calmOp :=
    fun _ => only_bind (calm_get_field _ _) clarified
  refine only_bind (calm_get_field _ _) fun severity => ?_
  refine only_bind (calm_get_field _ _) fun featureArea => ?_
  dsimp only
  split
  · refine only_bind (only_bind (calm_ask trivial) fun _ => calm_report_get _) fun _ => ?_
    exact only_bind (calm_usage _) last
  · exact only_bind (calm_usage _) last

theorem calm_localize_pass (prompt : Prompt) (provider model : String) :
    (localizePass settings prompt provider model).Only calmOp :=
  only_bind (calm_format _) fun _ => only_bind (calm_complete _) fun _ =>
    only_bind (calm_parse _) fun _ => trivial

theorem calm_confirm_pass (report : Report) (repoPath provider model : String)
    (summary confidence files : Json) :
    (confirmPass settings report repoPath provider model summary confidence files).Only
      calmOp := by
  refine only_bind (calm_ask trivial) fun confident => ?_
  split
  swap
  · trivial
  refine only_bind (calm_ask trivial) fun read => ?_
  split
  · trivial
  · exact only_bind (calm_localize_pass _ _ _) fun pass =>
      only_bind (calm_locked (calm_usage _)) fun _ => trivial

theorem calm_validate_claimed (reportId : String) (report : Report) :
    (validateClaimed reportId report).Only calmOp := by
  refine only_bind calm_clock fun startedAt => only_bind (calm_ask trivial) fun validation => ?_
  refine calm_locked (only_bind calm_clock fun completedAt => ?_)
  refine only_bind (calm_ask ⟨⟨completed_stopped, rfl⟩, fun both => by cases both.1⟩) fun _ => ?_
  split
  · exact calm_status _ _ _
  · exact calm_status _ _ _

theorem calm_iterated (value : Json) : (iterated value).Only calmOp := by
  unfold iterated
  split <;> first | trivial | (split <;> trivial)

theorem calm_collect (analysis : Analysis) : (collectCandidateFiles analysis).Only calmOp := by
  have entries : ∀ {chosen : Bool} {value : Json} {rest : List Json → Py (List Json)},
      (∀ entries, (rest entries).Only calmOp) →
      (if chosen = true then iterated value >>= rest else Pure.pure [] >>= rest).Only calmOp := by
    intro chosen value rest only
    split
    · exact only_bind (calm_iterated _) only
    · exact only_bind trivial only
  unfold collectCandidateFiles
  split
  swap
  · trivial
  refine entries fun refined => ?_
  dsimp only
  split
  · exact entries fun named => trivial
  · trivial

theorem calm_gather (analysis : Analysis) (project : Option Project) :
    (gatherFiles settings analysis project).Only calmOp := by
  unfold gatherFiles
  split
  · trivial
  split
  swap
  · trivial
  refine only_bind (calm_collect _) fun candidates => ?_
  split
  · trivial
  refine only_bind (calm_ask trivial) fun files => ?_
  dsimp only
  split <;> trivial

theorem calm_ask_for_fix (args : FixArgs) (input : FixInput) :
    (askForFix settings args input).Only calmOp := by
  refine only_bind (calm_format _) fun _ => only_bind (calm_complete _) fun response => ?_
  refine only_bind (calm_ask trivial) fun parsed => ?_
  cases parsed <;> trivial

theorem calm_fix_failed (reportId : String) (args : FixArgs) (error : Exn) :
    (fixFailed reportId args error).Only calmOp := by
  have recorded : ∀ text : String, (do
      underWriteLock do
        let completedAt ← clock
        let _ ← analysisCreate
          { bugReportId := reportId, phase := .fix, status := .failed
            result := some (.obj
              [("error", .str text), ("permanent", .bool (isPermanent error))])
            completedAt := some completedAt, triggerRef := args.triggerRef }
        let _ ← tryClaimReport reportId .fixProposing .triaged none
      pure { kind := .failed, error := some text } : Py FixOutcome).Only calmOp := by
    intro text
    refine only_bind (calm_locked (only_bind calm_clock fun completedAt => ?_))
      fun _ => trivial
    exact only_bind (calm_ask ⟨⟨failed_stopped, rfl⟩, fun both => by cases both.2⟩) fun _ =>
      only_bind (calm_ask trivial) fun _ => trivial
  cases error with
  | fixProposalDefer message => exact only_bind (calm_claim _ _ _) fun _ => trivial
  | _ => exact recorded _

theorem tidy_override {pin : LlmPin} {apiKey keyRef : Option String} :
    keeping.Tidy (makeOverride pin apiKey keyRef) := tidy_calm (make_override_llm _ _ _)

theorem endpoint_calm {op : Op} (endpoint : endpointOp op) : calmOp op := by
  unfold calmOp
  split <;> trivial

theorem tidy_discard (tidy : keeping.Tidy body) : keeping.Tidy (discard body) :=
  tidy_bind tidy fun _ => tidy_calm trivial

section Row

variable {ghost : keeping.rules.Ghost} {id : String} {phase : StagePhase} {written : Bool}

theorem row_stays (only : body.Only calmOp) (held : keeping.row id phase written ghost) :
    body.Follows keeping.rules ghost (fun _ => keeping.row id phase written)
      (fun _ => keeping.row id phase written) :=
  only.follows keeping.rules (keeping.row id phase written)
    (fun ghost op held calm => keeping.permitted ghost op (keeping.row_calm _ _ _ ghost held) calm)
    (fun ghost op answer held calm => keeping.row_kept _ _ _ ghost op answer held calm) held

theorem row_locked {returns : First → keeping.rules.Ghost → Prop}
    {raises : Exn → keeping.rules.Ghost → Prop} (held : keeping.row id phase written ghost)
    (inner : ∀ reached, keeping.row id phase written reached →
      body.Follows keeping.rules reached returns raises)
    (bad : ∀ error reached, keeping.row id phase written reached → raises error reached) :
    (underWriteLock body).Follows keeping.rules ghost returns raises := by
  have lock : (ask .dbWriteLock).Only calmOp := calm_ask trivial
  exact (row_stays lock held).andThen (fun _ reached held => inner reached held) bad

theorem row_opened {new : NewAnalysis} (calm : keeping.calm ghost) (running : new.status = .running)
    (announced : new.phase.announced = true) :
    (underWriteLock (analysisCreate new)).Follows keeping.rules ghost
      (fun id => keeping.row id new.phase false) (fun _ => keeping.calm) := by
  have locked : (ask .dbWriteLock).Follows keeping.rules ghost (fun _ => keeping.calm)
      (fun _ => keeping.calm) := tidy_calm (calm_ask (show calmOp .dbWriteLock from trivial)) ghost calm
  apply locked.andThen _ fun _ _ still => still
  intro _ reached calm
  obtain ⟨allowed, opened, failed⟩ := keeping.opens reached new calm running announced
  exact (follows_perform ..).mpr ⟨allowed, opened, failed⟩

theorem row_completed {fields : AnalysisFields} (held : keeping.row id phase written ghost)
    (status : fields.status = .completed) (again : written = true → phase = .triage) :
    (analysisUpdate id fields).Follows keeping.rules ghost (fun _ => keeping.row id phase true)
      (fun _ => keeping.row id phase written) := by
  have stopped : fields.status ≠ .running := by
    rw [status]
    decide
  obtain ⟨allowed, ⟨completed, -⟩, failed⟩ := keeping.writes id phase written ghost fields held stopped again
  exact (follows_perform ..).mpr ⟨allowed, fun _ => completed status, failed⟩

theorem row_failed {fields : AnalysisFields} (held : keeping.row id phase written ghost)
    (status : fields.status = .failed) (again : written = true → phase = .triage) :
    (analysisUpdate id fields).Follows keeping.rules ghost (fun _ => keeping.calm)
      (fun _ => keeping.calm) := by
  have stopped : fields.status ≠ .running := by
    rw [status]
    decide
  obtain ⟨allowed, ⟨-, calm⟩, failed⟩ := keeping.writes id phase written ghost fields held stopped again
  exact (follows_perform ..).mpr ⟨allowed, fun _ => calm, fun error => keeping.row_calm _ _ _ _ (failed error)⟩

/-- A triage writes its row when it ends; what it does after that may still fail. -/
theorem triage_run_keeps {report : Report} {provider model : String}
    (held : keeping.row id .triage false ghost) :
    (triageRun settings report provider model id).Follows keeping.rules ghost
      (fun _ => keeping.calm) (fun _ reached => ∃ written, keeping.row id .triage written reached) := by
  have open_ : ∀ (error : Exn) (reached : keeping.rules.Ghost), keeping.row id .triage false reached →
      ∃ written, keeping.row id .triage written reached := fun _ _ held => ⟨false, held⟩
  apply (row_stays (calm_format _) held).andThen _ open_
  intro _ reached held
  apply (row_stays (calm_complete _) held).andThen _ open_
  intro response reached held
  apply (row_stays (calm_parse _) held).andThen _ open_
  intro result reached held
  apply (row_stays calm_clock held).andThen _ open_
  intro completedAt reached held
  refine row_locked held (fun reached held => ?_) open_
  apply (row_completed held rfl (by simp)).andThen _ open_
  intro _ reached held
  apply (row_stays (calm_triage_rest report response result) held).mono
  · intro _ reached held
    exact keeping.row_calm _ _ _ _ held
  · intro _ reached held
    exact ⟨true, held⟩

theorem triage_failed_keeps {report : Report} (held : keeping.row id .triage written ghost)
    (error : Exn) :
    (triageFailed report id error).Follows keeping.rules ghost (fun _ => keeping.calm)
      (fun _ => keeping.calm) := by
  have calm : ∀ (error : Exn) (reached : keeping.rules.Ghost),
      keeping.row id .triage written reached → keeping.calm reached := fun _ reached held =>
    keeping.row_calm _ _ _ reached held
  apply (row_stays calm_clock held).andThen _ calm
  intro completedAt reached held
  have recorded (reached : keeping.rules.Ghost) (held : keeping.row id .triage written reached) :
      (do
        analysisUpdate id
          { status := .failed, result := .obj [("error", .str error.text)], completedAt }
        setStatus report.id .triaged none : Py Unit).Follows keeping.rules reached
          (fun _ => keeping.calm) (fun _ => keeping.calm) := by
    apply (row_failed held rfl fun _ => rfl).andThen _ fun _ _ still => still
    intro _ reached still
    exact tidy_calm (calm_status _ _ _) reached still
  exact Follows.andThen (row_locked held recorded calm) (fun _ _ still => still) fun _ _ still => still

theorem localize_run_keeps {report : Report} {repoMap sha path provider model : String}
    {summary : Json} (held : keeping.row id .localization false ghost) :
    (localizeRun settings report repoMap sha path provider model summary id).Follows keeping.rules
      ghost (fun _ => keeping.calm) (fun _ => keeping.row id .localization false) := by
  have open_ : ∀ (error : Exn) (reached : keeping.rules.Ghost),
      keeping.row id .localization false reached → keeping.row id .localization false reached :=
    fun _ _ held => held
  apply (row_stays (calm_localize_pass _ _ _) held).andThen _ open_
  intro first reached held
  apply (row_stays (calm_locked (calm_usage _)) held).andThen _ open_
  intro _ reached held
  apply (row_stays (calm_get_field _ _) held).andThen _ open_
  intro confidence reached held
  apply (row_stays (calm_get_field _ _) held).andThen _ open_
  intro files reached held
  apply (row_stays (calm_confirm_pass _ _ _ _ _ _ _) held).andThen _ open_
  intro second reached held
  apply (row_stays calm_clock held).andThen _ open_
  intro completedAt reached held
  apply Follows.andThen (row_locked held (fun reached held => row_completed held rfl (by simp)) open_) _ open_
  intro _ reached held
  exact keeping.row_calm _ _ _ _ held

theorem localize_failed_keeps (held : keeping.row id .localization false ghost) (error : Exn) :
    (localizeFailed id error).Follows keeping.rules ghost (fun _ => keeping.calm)
      (fun _ => keeping.calm) := by
  have calm : ∀ (error : Exn) (reached : keeping.rules.Ghost),
      keeping.row id .localization false reached → keeping.calm reached := fun _ reached held =>
    keeping.row_calm _ _ _ reached held
  apply (row_stays calm_clock held).andThen _ calm
  intro completedAt reached held
  apply Follows.andThen (row_locked held (fun reached held => row_failed held rfl (by simp)) calm) _
    fun _ _ still => still
  intro _ reached still
  exact still

end Row

/-- The row of a triage: made, and written when the triage ends, by its handler a second time
if the first write was followed by a failure. -/
theorem tidy_triage_report (report : Report) (model provider triggerRef : Option String) :
    keeping.Tidy (triageReport settings report model provider triggerRef) := by
  apply tidy_bind (tidy_calm (calm_triage_model _ _ _))
  intro picked
  apply tidy_bind (tidy_calm calm_clock)
  intro startedAt ghost calm
  apply (row_opened calm rfl rfl).andThen _ fun _ _ still => still
  intro id reached held
  apply (triage_run_keeps held).caught fun _ _ still => still
  intro error reached held
  obtain ⟨written, held⟩ := held
  exact triage_failed_keeps held error

/-- The row of a localization is written once, by the run or by its handler. -/
theorem tidy_localize_report (report : Report) (repoMap sha path : String)
    (model provider : Option String) (summary : Json) (triggerRef : Option String) :
    keeping.Tidy (localizeReport settings report repoMap sha path model provider summary triggerRef) := by
  apply tidy_bind (tidy_calm calm_clock)
  intro startedAt ghost calm
  apply (row_opened calm rfl rfl).andThen _ fun _ _ still => still
  intro id reached held
  apply (localize_run_keeps held).caught fun _ _ still => still
  intro error reached held
  exact localize_failed_keeps held error

theorem tidy_submitted (reportId : String) : keeping.Tidy (processSubmitted reportId) := by
  apply tidy_calm
  refine only_bind (calm_claim _ _ _) fun claimed => ?_
  split
  swap
  · trivial
  refine only_bind (calm_report_get _) fun found => ?_
  cases found with
  | none => trivial
  | some found =>
      exact only_catching (calm_validate_claimed _ _) fun _ =>
        only_bind (calm_claim _ _ _) fun _ => trivial

theorem tidy_triaged (reportId : String) (llm : Option LlmPin) (triggerRef : Option String) :
    keeping.Tidy (processTriaged settings reportId llm triggerRef) := by
  refine tidy_bind (tidy_calm (calm_claim _ _ _)) fun claimed => ?_
  split
  swap
  · exact tidy_calm trivial
  refine tidy_bind (tidy_calm (calm_report_get _)) fun found => ?_
  cases found with
  | none => exact tidy_calm trivial
  | some found =>
      exact tidy_bind (tidy_catching (tidy_bind (tidy_triage_report _ _ _ _) fun _ =>
        tidy_calm trivial) fun _ => tidy_calm trivial) fun _ => tidy_calm trivial

theorem tidy_localize_claimed (reportId : String) (report : Report) (project : Project)
    (repoPath : String) (llm : Option LlmPin) (triggerRef : Option String) :
    keeping.Tidy (localizeClaimed settings reportId report project repoPath llm triggerRef) := by
  refine tidy_bind (tidy_ask trivial) fun sha => ?_
  refine tidy_bind (tidy_calm (calm_project_update _ _)) fun _ => ?_
  refine tidy_bind (tidy_ask trivial) fun existing => ?_
  split
  · exact tidy_calm (only_bind (calm_locked (calm_status _ _ _)) fun _ => trivial)
  refine tidy_bind (tidy_ask trivial) fun repoMap => ?_
  refine tidy_bind (tidy_ask trivial) fun triages => ?_
  have summary : (triageSummaryOf triages).Only calmOp := by
    unfold triageSummaryOf
    split
    · trivial
    · exact calm_get_field _ _
  refine tidy_bind (tidy_calm summary) fun summary => ?_
  refine tidy_bind (tidy_localize_report _ _ _ _ _ _ _ _) fun _ => ?_
  exact tidy_calm (only_bind (calm_locked (calm_status _ _ _)) fun _ => trivial)

theorem tidy_localization (reportId : String) (llm : Option LlmPin) (triggerRef : Option String) :
    keeping.Tidy (processLocalization settings reportId llm triggerRef) := by
  have left : ∀ outcome : LocalOutcome, keeping.Tidy (underWriteLock (setStatus reportId .triaged none) >>=
      fun _ => pure outcome) := fun outcome =>
    tidy_calm (only_bind (calm_locked (calm_status _ _ _)) fun _ => trivial)
  refine tidy_bind (tidy_calm (calm_claim _ _ _)) fun claimed => ?_
  split
  swap
  · exact tidy_calm trivial
  refine tidy_bind (tidy_calm (calm_report_get _)) fun found => ?_
  cases found with
  | none => exact tidy_calm trivial
  | some found =>
      refine tidy_bind (tidy_calm (calm_project_get _)) fun project => ?_
      split
      · exact left _
      · exact tidy_catching (tidy_localize_claimed _ _ _ _ _ _) fun _ => left _

theorem tidy_local_analysis (reportId : String) (args : LocalArgs) :
    keeping.Tidy (runLocalAnalysis settings reportId args) := by
  refine tidy_bind (tidy_calm (calm_report_get _)) fun found => ?_
  cases found with
  | none => exact tidy_calm trivial
  | some found =>
      have clarified : (pushClarified reportId found.1).Only calmOp := by
        unfold pushClarified
        split
        · refine calm_locked (only_bind (calm_ask trivial) fun claimed => ?_)
          split
          · exact calm_status _ _ _
          · trivial
        · trivial
      have localized : ∀ triagedNow : Bool, keeping.Tidy (do
          let outcome ← processLocalization settings reportId args.localizeLlm args.triggerRef
          if outcome = .notClaimed && triagedNow then pure .triageOnly else pure outcome) := by
        intro triagedNow
        refine tidy_bind (tidy_localization _ _ _) fun outcome => ?_
        split <;> exact tidy_calm trivial
      refine tidy_bind (tidy_calm clarified) fun _ => ?_
      refine tidy_bind (tidy_ask trivial) fun triages => ?_
      split
      · exact localized false
      · exact tidy_bind (tidy_triaged _ _ _) localized

variable (stores : ∀ args input, keeping.Tidy (storeFix settings args input))

include stores

theorem tidy_propose_claimed (reportId : String) (args : FixArgs) :
    keeping.Tidy (proposeClaimed settings reportId args) := by
  refine tidy_bind (tidy_calm (calm_report_get _)) fun found => ?_
  cases found with
  | none => exact tidy_calm trivial
  | some found =>
      refine tidy_bind (tidy_ask trivial) fun analysis => ?_
      cases analysis with
      | none => exact tidy_calm trivial
      | some analysis =>
          refine tidy_bind (tidy_ask trivial) fun existing => ?_
          dsimp only
          split
          · exact tidy_calm (only_bind (calm_locked (calm_status _ _ _)) fun _ => trivial)
          · refine tidy_bind (tidy_calm (calm_project_get _)) fun project => ?_
            refine tidy_bind (tidy_calm (calm_gather _ _)) fun gathered => ?_
            exact stores args _

theorem tidy_fix (reportId : String) (args : FixArgs) : keeping.Tidy (proposeFix settings reportId args) := by
  refine tidy_bind (tidy_ask trivial) fun _ => ?_
  split
  · exact tidy_calm trivial
  refine tidy_bind (tidy_calm (calm_claim _ _ _)) fun claimed => ?_
  split
  · exact tidy_catching (tidy_propose_claimed stores _ _) fun error => tidy_calm (calm_fix_failed _ _ error)
  · exact tidy_calm trivial

theorem tidy_analyze (reportId : String) (tier : AnalysisTier) (override : Option LLMOverride) :
    keeping.Tidy (analyzeReport settings reportId tier override) := by
  refine tidy_bind (tidy_calm (calm_report_get _)) fun found => ?_
  cases found with
  | none => exact tidy_calm trivial
  | some found =>
      dsimp only
      split
      · exact tidy_calm trivial
      cases tier with
      | localTier =>
          dsimp only
          split
          · exact tidy_calm trivial
          · exact tidy_bind (tidy_local_analysis _ _) fun _ => tidy_calm trivial
      | cloud =>
          refine tidy_bind (tidy_calm (calm_project_get _)) fun project => ?_
          refine tidy_bind (tidy_within (check_cloud_within _ _) (by decide)) fun refusal => ?_
          split
          · exact tidy_calm trivial
          · exact tidy_bind (tidy_fix stores _ _) fun _ => tidy_calm trivial

theorem tidy_run_llm (row : TriageAction) (apiKey : Option String) :
    keeping.Tidy (runLlm settings row apiKey) := by
  refine tidy_bind (tidy_ask trivial) fun _ => ?_
  split
  · unfold runRequester
    split
    · split
      · exact tidy_bind tidy_override fun override =>
          tidy_bind (tidy_fix stores _ _) fun _ => tidy_calm trivial
      · exact tidy_calm trivial
    · exact tidy_calm trivial
  split
  · exact tidy_bind (tidy_local_analysis _ _) fun _ => tidy_calm trivial
  · have fixes : ∀ override : Option LLMOverride, keeping.Tidy (do
        let outcome ← proposeFix settings row.reportId
          { override, attributionRef := attributionRef row, triggerRef := some row.actionId }
        pure (mapFix row.kind outcome)) := fun override =>
      tidy_bind (tidy_fix stores _ _) fun _ => tidy_calm trivial
    unfold runLegacyFix
    dsimp only
    split
    · exact tidy_calm trivial
    split
    · exact fixes none
    · exact tidy_bind tidy_override fun override => fixes (some override)

theorem tidy_run_task (actionId : String) : keeping.Tidy (runTask settings actionId) := by
  have keyed : ∀ row : TriageAction, keeping.Tidy (runKeyed settings row) := by
    intro row
    unfold runKeyed
    split
    · refine tidy_bind (tidy_within (fetch_key_within row) (by decide)) fun fetched => ?_
      split
      · exact tidy_calm trivial
      · exact tidy_run_llm stores _ _
    · exact tidy_run_llm stores _ _
  rw [run_task_eq]
  refine tidy_ensuring (tidy_bind (tidy_ask trivial) fun found => ?_) (tidy_ask trivial)
  cases found with
  | none => exact tidy_calm trivial
  | some found =>
      exact tidy_bind (tidy_catching (keyed _) fun _ => tidy_calm trivial) fun result =>
        tidy_within (conclude_task_within _ _) (by decide)

theorem tidy_job (job : Job) : keeping.Tidy (job.program settings) := by
  cases job with
  | processSubmitted id => exact tidy_submitted id
  | processTriaged id => exact tidy_discard (tidy_triaged id none none)
  | processLocalization id => exact tidy_discard (tidy_localization id none none)
  | processFixProposal id => exact tidy_discard (tidy_fix stores id _)
  | analyzeReport id tier override => exact tidy_analyze stores id tier override
  | openPr id proposalId =>
      have opens : (openPullRequest settings id proposalId).Only (within prRealms) :=
        (@open_pull_request_follows .idle settings proposalId id (.inl rfl)).forget.2.mono
          fun _ pr => pr_within pr
      refine tidy_bind (tidy_calm (calm_report_get _)) fun found => ?_
      cases found with
      | none => exact tidy_calm trivial
      | some found =>
          exact tidy_catching (tidy_bind (tidy_within opens (by decide)) fun _ =>
            tidy_calm trivial) fun _ => tidy_calm trivial
  | cloneProjectRepo id =>
      exact tidy_calm ((endpoint_clone id).mono fun _ => endpoint_calm)
  | refreshRepoMap id =>
      exact tidy_calm ((endpoint_refresh id).mono fun _ => endpoint_calm)
  | syncProject id manual => exact tidy_within (sync_project_within id manual) (by decide)
  | expireOverdue => exact tidy_within (expire_overdue_within none) (by decide)
  | checkPrsOnly id => exact tidy_within (check_prs_only_within id) (by decide)
  | actionTask id => exact tidy_run_task stores id
  | prTask id =>
      exact tidy_ensuring (tidy_within (run_pr_within id) (by decide)) (tidy_ask trivial)
  | _ => exact tidy_calm ((threaded_only rfl).mono fun _ => endpoint_calm)

end Tidy

end Bugalizer
