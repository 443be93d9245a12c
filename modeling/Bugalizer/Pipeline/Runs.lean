import Bugalizer.Pipeline.Claims

/-!
# Every stage run keeps its claim discipline

A stage starts without a claim and ends without one, unless one of its own database calls
raised while it held it. The specification of a stage names the grip it is entered with and
the grips it returns and raises with; a caller uses it and never opens the stage.
-/

namespace Bugalizer

set_option autoImplicit false

open Coroutine Program

namespace Grip

/-- The claim is held, or the branch is unreachable. -/
def Holding (reportId : String) (status : BugStatus) (grip : Grip) : Prop :=
  (∃ shaken, grip = held reportId status shaken) ∨ grip = lost

/-- The claim was left, and the loop not given away since. -/
def Left (reportId : String) (grip : Grip) : Prop := grip = spent reportId ∨ grip = lost

/-- The claim is held or just left: the stage may write the status. -/
def Mine (reportId : String) (status : BugStatus) (grip : Grip) : Prop :=
  grip.Holding reportId status ∨ grip.Left reportId

/-- The claim was left, or a failed database call stands in the way of leaving it. -/
def Stuck (reportId : String) (status : BugStatus) (grip : Grip) : Prop :=
  grip = held reportId status true ∨ grip.Left reportId

/-- No claim is held, but for one that a failed database call left behind. -/
def Idle (reportId : String) (grip : Grip) : Prop :=
  grip = free ∨ grip.Left reportId ∨ ∃ status, grip = held reportId status true

variable {reportId : String} {status : BugStatus} {grip : Grip}

theorem Holding.mine (holding : grip.Holding reportId status) : grip.Mine reportId status :=
  .inl holding

theorem Left.mine (left : grip.Left reportId) : grip.Mine reportId status := .inr left

theorem Left.idle (left : grip.Left reportId) : grip.Idle reportId := .inr (.inl left)

theorem Stuck.idle (stuck : grip.Stuck reportId status) : grip.Idle reportId := by
  rcases stuck with rfl | left
  · exact .inr (.inr ⟨status, rfl⟩)
  · exact left.idle

theorem Stuck.mine (stuck : grip.Stuck reportId status) : grip.Mine reportId status := by
  rcases stuck with rfl | left
  · exact .inl (.inl ⟨true, rfl⟩)
  · exact left.mine

end Grip

theorem only_ask {op : Op} {allowed : Op → Prop} (permitted : allowed op) :
    (ask op).Only allowed := only_perform permitted

section Rules

variable {scope : StageScope} {grip : Grip} {status : BugStatus}

theorem follows_ask (op : Op) (after : op.Ans → Grip → Prop) (raises : Exn → Grip → Prop) :
    (ask op).Follows (stageRun scope) grip after raises ↔
      (stageOp scope op ∧ gripAllowed grip op) ∧
        (∀ value, after value (gripNext grip op (.ok value))) ∧
        ∀ error, raises error (gripNext grip op (.error error)) :=
  follows_perform (stageRun scope) op grip after

def Op.movesStatus : Op → Bool
  | .report (.tryClaim ..) | .report (.updateStatus ..) => true
  | _ => false

def quietOp (scope : StageScope) (op : Op) : Prop := stageOp scope op ∧ op.movesStatus = false

theorem quiet_allowed {op : Op} (quiet : quietOp scope op) : gripAllowed grip op := by
  obtain ⟨_, still⟩ := quiet
  unfold gripAllowed
  split
  · cases still
  · cases still
  · trivial

/-- An assertion no quiet operation can break while the loop is kept. -/
structure Brief (holds : Grip → Prop) : Prop where
  shake : ∀ grip, holds grip → holds grip.shake
  absent : ∀ grip id, holds grip → holds (grip.absent id)
  lost : holds .lost

structure Steady (holds : Grip → Prop) : Prop extends Brief holds where
  yield : ∀ grip, holds grip → holds grip.yield

theorem holding_steady {reportId : String} : Steady (Grip.Holding reportId status) where
  shake grip holding := by
    rcases holding with ⟨shaken, rfl⟩ | rfl
    · exact .inl ⟨true, rfl⟩
    · exact .inr rfl
  yield grip holding := by
    rcases holding with ⟨shaken, rfl⟩ | rfl
    · exact .inl ⟨shaken, rfl⟩
    · exact .inr rfl
  absent grip id holding := by
    rcases holding with ⟨shaken, rfl⟩ | rfl
    · simp only [Grip.absent]
      split
      · exact .inr rfl
      · exact .inl ⟨shaken, rfl⟩
    · exact .inr rfl
  lost := .inr rfl

theorem left_brief {reportId : String} : Brief (Grip.Left reportId) where
  shake grip left := by rcases left with rfl | rfl <;> first | exact .inl rfl | exact .inr rfl
  absent grip id left := by rcases left with rfl | rfl <;> first | exact .inl rfl | exact .inr rfl
  lost := .inr rfl

theorem mine_brief {reportId : String} : Brief (Grip.Mine reportId status) where
  shake grip mine := mine.imp (holding_steady.shake grip) (left_brief.shake grip)
  absent grip id mine := mine.imp (holding_steady.absent grip id) (left_brief.absent grip id)
  lost := .inr (.inr rfl)

theorem idle_steady {reportId : String} : Steady (Grip.Idle reportId) where
  shake grip idle := by
    rcases idle with rfl | left | ⟨status, rfl⟩
    · exact .inl rfl
    · exact (left_brief.shake grip left).idle
    · exact .inr (.inr ⟨status, rfl⟩)
  yield grip idle := by
    rcases idle with rfl | (rfl | rfl) | ⟨status, rfl⟩
    · exact .inl rfl
    · exact .inl rfl
    · exact .inr (.inl (.inr rfl))
    · exact .inr (.inr ⟨status, rfl⟩)
  absent grip id idle := by
    rcases idle with rfl | left | ⟨status, rfl⟩
    · exact .inl rfl
    · exact (left_brief.absent grip id left).idle
    · simp only [Grip.absent]
      split
      · exact .inr (.inl (.inr rfl))
      · exact .inr (.inr ⟨status, rfl⟩)
  lost := .inr (.inl (.inr rfl))

theorem mine_shaken {reportId : String} (mine : grip.Mine reportId status) :
    grip.shake.Stuck reportId status := by
  rcases mine with (⟨shaken, rfl⟩ | rfl) | left
  · exact .inl rfl
  · exact .inr (.inr rfl)
  · exact .inr (left_brief.shake grip left)

theorem Steady.after {holds : Grip → Prop} (steady : Steady holds) (op : Op) (held : holds grip) :
    holds (grip.after op) := by
  unfold Grip.after
  split
  · exact steady.yield _ held
  · exact held

theorem Steady.next {holds : Grip → Prop} (steady : Steady holds) {op : Op}
    (still : op.movesStatus = false) (answer : Except Exn op.Ans) (held : holds grip) :
    holds (gripNext grip op answer) := by
  unfold gripNext
  split
  · split
    · exact steady.lost
    split
    · exact steady.shake _ held
    · exact steady.after op held
  · split
    · cases still
    · cases still
    · exact steady.absent _ _ held
    · exact steady.after _ held

theorem Steady.quiet {holds : Grip → Prop} (steady : Steady holds) {Result : Type}
    {body : Py Result} (only : body.Only (quietOp scope)) (held : holds grip) :
    body.Follows (stageRun scope) grip (fun _ => holds) (fun _ => holds) :=
  only.follows (stageRun scope) holds
    (fun _ _ _ quiet => ⟨quiet.1, quiet_allowed quiet⟩)
    (fun _ _ answer held quiet => steady.next quiet.2 answer held) held

/-- A quiet operation that keeps the loop and can fail only in the database. -/
theorem Brief.asks {holds : Grip → Prop} (brief : Brief holds) {op : Op}
    (quiet : quietOp scope op) (kept : op.suspends = false)
    (sure : op.isDb = true ∨ op.neverFails = true) (held : holds grip)
    (mine : grip.Mine scope.reportId status) :
    (ask op).Follows (stageRun scope) grip (fun _ => holds)
      (fun _ => Grip.Stuck scope.reportId status) := by
  have same : grip.after op = grip := by simp [Grip.after, kept]
  refine (follows_ask ..).mpr ⟨⟨quiet.1, quiet_allowed quiet⟩, fun value => ?_, fun error => ?_⟩
  · simp only [gripNext]
    split
    · cases quiet.2
    · cases quiet.2
    · exact brief.absent _ _ held
    · rw [same]
      exact held
  · simp only [gripNext]
    split
    · exact .inr (.inr rfl)
    · rename_i mayFail
      rcases sure with db | never
      · rw [if_pos db]
        exact mine_shaken mine
      · exact absurd never mayFail

end Rules

section Writes

variable {scope : StageScope} {grip : Grip} {status : BugStatus}

theorem claim_entered {expected new : BugStatus} (claims : scope.claims) (idle : grip.Idle scope.reportId)
    (listed : (expected, new) ∈ stageClaims) (enters : new.stageClaim) :
    (tryClaimReport scope.reportId expected new none).Follows (stageRun scope) grip
      (fun won reached => if won then reached.Holding scope.reportId new
        else reached.Idle scope.reportId)
      (fun _ => Grip.Idle scope.reportId) := by
  have outside : expected.stageClaim = false := by
    revert enters
    simp only [stageClaims, List.mem_cons, Prod.mk.injEq, List.not_mem_nil, or_false] at listed
    rcases listed with ⟨rfl, rfl⟩ | ⟨rfl, rfl⟩ | ⟨rfl, rfl⟩ | ⟨rfl, rfl⟩ | ⟨rfl, rfl⟩ | ⟨rfl, rfl⟩ <;>
      decide
  refine (follows_ask ..).mpr ⟨⟨⟨rfl, rfl, listed, fun _ => claims⟩, ?_⟩,
    fun won => ?_, fun error => ?_⟩
  · simp only [gripAllowed, enters, outside, if_true, true_and]
    rintro other held shaken rfl
    rcases idle with gone | (gone | gone) | ⟨held', gone⟩ <;> cases gone
    exact ⟨rfl, rfl⟩
  · cases won with
    | false =>
        simp only [gripNext, Bool.false_eq_true, if_false]
        rcases idle with rfl | (rfl | rfl) | ⟨held, rfl⟩
        · exact .inl rfl
        · exact .inr (.inl (.inl rfl))
        · exact .inr (.inl (.inr rfl))
        · simp only [Grip.missed]
          split
          · exact .inr (.inl (.inr rfl))
          · exact .inr (.inr ⟨held, rfl⟩)
    | true =>
        simp only [gripNext, if_true]
        rcases idle with rfl | (rfl | rfl) | ⟨held, rfl⟩
        · exact .inl ⟨false, by simp [Grip.won, enters]⟩
        · exact .inl ⟨false, by simp [Grip.won, enters]⟩
        · exact .inr rfl
        · exact .inr (by simp [Grip.won, enters])
  · exact idle_steady.shake _ idle

theorem claim_left {expected new : BugStatus} (mine : grip.Mine scope.reportId expected)
    (listed : (expected, new) ∈ stageClaims) (leaves : expected.stageClaim)
    (outside : new.stageClaim = false) :
    (tryClaimReport scope.reportId expected new none).Follows (stageRun scope) grip
      (fun _ => Grip.Left scope.reportId) (fun _ => Grip.Stuck scope.reportId expected) := by
  have entersNone : new.stageClaim = true → scope.claims := by simp [outside]
  refine (follows_ask ..).mpr ⟨⟨⟨rfl, rfl, listed, entersNone⟩, ?_⟩, fun won => ?_,
    fun error => ?_⟩
  · simp only [gripAllowed, outside, leaves, Bool.false_eq_true, if_false, if_true]
    rcases mine with (⟨shaken, rfl⟩ | rfl) | (rfl | rfl)
    · exact .inl ⟨shaken, rfl⟩
    · exact .inr (.inr rfl)
    · exact .inr (.inl rfl)
    · exact .inr (.inr rfl)
  · cases won with
    | false =>
        simp only [gripNext, Bool.false_eq_true, if_false]
        rcases mine with (⟨shaken, rfl⟩ | rfl) | (rfl | rfl)
        · exact .inr (by simp [Grip.missed])
        · exact .inr rfl
        · exact .inl rfl
        · exact .inr rfl
    | true =>
        simp only [gripNext, if_true]
        rcases mine with (⟨shaken, rfl⟩ | rfl) | (rfl | rfl)
        · exact .inl (by simp [Grip.won, outside])
        · exact .inr rfl
        · exact .inr (by simp [Grip.won, outside, leaves])
        · exact .inr rfl
  · rcases mine with (⟨shaken, rfl⟩ | rfl) | (rfl | rfl)
    · exact .inl rfl
    · exact .inr (.inr rfl)
    · exact .inr (.inl rfl)
    · exact .inr (.inr rfl)

theorem status_set {new : BugStatus} {reason : Option String}
    (mine : grip.Mine scope.reportId status) (outcome : new ∈ stageOutcomes) :
    (setStatus scope.reportId new reason).Follows (stageRun scope) grip
      (fun _ => Grip.Left scope.reportId) (fun _ => Grip.Stuck scope.reportId status) := by
  have outside : new.stageClaim = false := by
    simp only [stageOutcomes, List.mem_cons, List.not_mem_nil, or_false] at outcome
    rcases outcome with rfl | rfl | rfl | rfl <;> rfl
  have writes : (ask (.report (.updateStatus scope.reportId new reason none))).Follows
      (stageRun scope) grip (fun _ => Grip.Left scope.reportId)
      (fun _ => Grip.Stuck scope.reportId status) := by
    refine (follows_ask ..).mpr ⟨⟨⟨rfl, rfl, outcome⟩, outside, ?_⟩, fun hit => ?_, fun error => ?_⟩
    · rcases mine with (⟨shaken, rfl⟩ | rfl) | (rfl | rfl)
      · exact .inl ⟨status, shaken, rfl⟩
      · exact .inr (.inr rfl)
      · exact .inr (.inl rfl)
      · exact .inr (.inr rfl)
    · rcases mine with (⟨shaken, rfl⟩ | rfl) | (rfl | rfl)
      · exact .inl rfl
      · exact .inr rfl
      · exact .inl rfl
      · exact .inr rfl
    · rcases mine with (⟨shaken, rfl⟩ | rfl) | (rfl | rfl)
      · exact .inl rfl
      · exact .inr (.inr rfl)
      · exact .inr (.inl rfl)
      · exact .inr (.inr rfl)
  refine (writes.andThen (fun hit reached left => ?_) fun _ _ stuck => stuck).andThen
    (fun _ _ left => left) fun _ _ stuck => stuck
  exact left_brief.asks ⟨trivial, rfl⟩ rfl (.inl rfl) left left.mine

/-- The `db_write_lock` in front of a block: it is taken at once, and never fails. -/
theorem under_write_lock_follows {Result : Type} {body : Py Result}
    {returns : Result → Grip → Prop} {raises : Exn → Grip → Prop}
    (follows : body.Follows (stageRun scope) grip returns raises)
    (dead : ∀ error, raises error .lost) :
    (underWriteLock body).Follows (stageRun scope) grip returns raises :=
  (follows_bind ..).mpr
    ((follows_ask (.dbWriteLock) ..).mpr ⟨⟨trivial, trivial⟩, fun _ => follows, dead⟩)

end Writes

def StageScope.Takes (scope : StageScope) (settings : Settings) (args : CompleteArgs) : Prop :=
  ∀ call, routeCall settings args = .ok call → scope.calls call

section Quiet

variable {scope : StageScope} {settings : Settings}

theorem quiet_query {q : Query} (staged : stageOp scope (.query q)) :
    (query q).Only (quietOp scope) := only_ask ⟨staged, rfl⟩

theorem quiet_compute (call : Compute) : (ask (.compute call)).Only (quietOp scope) :=
  only_ask ⟨trivial, rfl⟩

theorem quiet_clock : clock.Only (quietOp scope) := only_ask ⟨trivial, rfl⟩

theorem quiet_project_get (id : String) : (projectGet id).Only (quietOp scope) :=
  only_bind (quiet_query trivial) fun _ => trivial

theorem quiet_under_write_lock {Result : Type} {body : Py Result}
    (only : body.Only (quietOp scope)) : (underWriteLock body).Only (quietOp scope) :=
  only_bind (only_ask ⟨trivial, rfl⟩) fun _ => only

theorem quiet_get_field (value : Json) (name : String) :
    (getField value name).Only (quietOp scope) := by
  unfold getField
  split <;> trivial

theorem quiet_complete {args : CompleteArgs} (takes : scope.Takes settings args) :
    (complete settings args).Only (quietOp scope) := by
  unfold complete
  split
  · trivial
  · rename_i request routed
    exact only_bind (only_ask ⟨takes request routed, rfl⟩) fun _ => trivial

theorem quiet_usage {new : NewTokenUsage} (mine : new.bugReportId = scope.reportId) :
    (tokenUsageCreate new).Only (quietOp scope) := only_ask ⟨mine, rfl⟩

theorem quiet_analysis_create {new : NewAnalysis} (mine : new.bugReportId = scope.reportId)
    (triggered : new.phase ≠ .validation → new.triggerRef = scope.triggerRef) :
    (analysisCreate new).Only (quietOp scope) := only_ask ⟨⟨mine, triggered⟩, rfl⟩

theorem quiet_analysis_update (id : String) (fields : AnalysisFields) :
    (analysisUpdate id fields).Only (quietOp scope) := only_ask ⟨trivial, rfl⟩

theorem quiet_update_fields {fields : ReportFields} (unmoded : fields.analysisMode = none) :
    (reportUpdateFields scope.reportId fields).Only (quietOp scope) :=
  only_bind (only_ask ⟨⟨rfl, unmoded⟩, rfl⟩) fun _ => quiet_query trivial

theorem quiet_project_update {id : String} {fields : ProjectFields}
    (unset : fields.llmProvider = none ∧ fields.llmModel = none ∧
      fields.fixLlmProvider = none ∧ fields.fixLlmModel = none) :
    (projectUpdateCall id fields).Only (quietOp scope) := by
  refine only_bind (quiet_project_get id) fun found => ?_
  cases found with
  | none => trivial
  | some _ => exact only_bind (only_ask ⟨unset, rfl⟩) fun _ => quiet_project_get id

theorem quiet_localize_pass {prompt : Prompt} {provider model : String}
    (takes : scope.Takes settings { model := some model, messages := prompt, provider }) :
    (localizePass settings prompt provider model).Only (quietOp scope) :=
  only_bind (quiet_compute _) fun _ => only_bind (quiet_complete takes) fun _ =>
    only_bind (quiet_compute _) fun _ => trivial

theorem quiet_localize_usage {report : Report} (same : report.id = scope.reportId)
    (response : LlmResponse) : (localizeUsage report response).Only (quietOp scope) :=
  quiet_under_write_lock (quiet_usage same)

theorem quiet_confirm_pass {report : Report} (same : report.id = scope.reportId)
    {provider model : String} (takes : ∀ files summary, scope.Takes settings
      { model := some model, messages := .confirm report files summary, provider })
    (repoPath : String) (summary confidence files : Json) :
    (confirmPass settings report repoPath provider model summary confidence files).Only
      (quietOp scope) := by
  refine only_bind (quiet_compute _) fun confident => ?_
  split
  swap
  · trivial
  refine only_bind (only_ask ⟨trivial, rfl⟩) fun read => ?_
  split
  · trivial
  · exact only_bind (quiet_localize_pass (takes _ _)) fun pass =>
      only_bind (quiet_localize_usage same _) fun _ => trivial

theorem quiet_localize_run {report : Report} (same : report.id = scope.reportId)
    {provider model : String}
    (takes : ∀ prompt, (∃ map summary, prompt = .localize report map summary) ∨
      (∃ files summary, prompt = .confirm report files summary) →
      scope.Takes settings { model := some model, messages := prompt, provider })
    (repoMap sha path : String) (summary : Json) (analysisId : String) :
    (localizeRun settings report repoMap sha path provider model summary analysisId).Only
      (quietOp scope) := by
  refine only_bind (quiet_localize_pass (takes _ (.inl ⟨_, _, rfl⟩))) fun first => ?_
  refine only_bind (quiet_localize_usage same _) fun _ => ?_
  refine only_bind (quiet_get_field _ _) fun confidence => ?_
  refine only_bind (quiet_get_field _ _) fun candidates => ?_
  refine only_bind (quiet_confirm_pass same (fun _ _ => takes _ (.inr ⟨_, _, rfl⟩)) _ _ _ _)
    fun second => ?_
  refine only_bind quiet_clock fun completedAt => ?_
  exact only_bind (quiet_under_write_lock (quiet_analysis_update _ _)) fun _ => trivial

theorem quiet_localize_report {report : Report} (same : report.id = scope.reportId)
    {provider model : String}
    (takes : ∀ prompt, (∃ map summary, prompt = .localize report map summary) ∨
      (∃ files summary, prompt = .confirm report files summary) →
      scope.Takes settings { model := some model, messages := prompt, provider })
    (repoMap sha path : String) (summary : Json) :
    (localizeReport settings report repoMap sha path (some model) (some provider) summary
      scope.triggerRef).Only (quietOp scope) := by
  refine only_bind quiet_clock fun startedAt => ?_
  refine only_bind (quiet_under_write_lock (quiet_analysis_create same fun _ => rfl))
    fun analysisId => ?_
  refine only_catching (quiet_localize_run same takes _ _ _ _ _) fun error => ?_
  exact only_bind quiet_clock fun _ =>
    only_bind (quiet_under_write_lock (quiet_analysis_update _ _)) fun _ => trivial

theorem quiet_triage_summary (analyses : List Analysis) :
    (triageSummaryOf analyses).Only (quietOp scope) := by
  unfold triageSummaryOf
  split
  · trivial
  · exact quiet_get_field _ _

theorem quiet_iterated (value : Json) : (iterated value).Only (quietOp scope) := by
  unfold iterated
  split <;> first | trivial | (split <;> trivial)

theorem quiet_entries {chosen : Bool} {value : Json} {rest : List Json → Py (List Json)}
    (only : ∀ entries, (rest entries).Only (quietOp scope)) :
    (if chosen = true then iterated value >>= rest else Pure.pure [] >>= rest).Only
      (quietOp scope) := by
  split
  · exact only_bind (quiet_iterated _) only
  · exact only_bind trivial only

theorem quiet_collect (analysis : Analysis) :
    (collectCandidateFiles analysis).Only (quietOp scope) := by
  unfold collectCandidateFiles
  split
  swap
  · trivial
  refine quiet_entries fun refined => ?_
  dsimp only
  split
  · exact quiet_entries fun named => trivial
  · trivial

theorem quiet_gather (analysis : Analysis) (project : Option Project) :
    (gatherFiles settings analysis project).Only (quietOp scope) := by
  unfold gatherFiles
  split
  · trivial
  split
  swap
  · trivial
  refine only_bind (quiet_collect _) fun candidates => ?_
  split
  · trivial
  refine only_bind (only_ask ⟨trivial, rfl⟩) fun files => ?_
  dsimp only
  split <;> trivial

theorem quiet_ask_for_fix {args : FixArgs} {input : FixInput}
    (takes : scope.Takes settings
      { model := some (args.pick (resolveFixLlm settings (some input.project))).2
        messages := .fix input.report input.analysis input.files settings.fixEnablePromptCaching
        provider := (args.pick (resolveFixLlm settings (some input.project))).1
        apiKey := args.requestKey, timeout := settings.fixTimeoutSeconds }) :
    (askForFix settings args input).Only (quietOp scope) := by
  refine only_bind (quiet_compute _) fun _ => only_bind (quiet_complete takes) fun response => ?_
  refine only_bind (quiet_compute _) fun parsed => ?_
  cases parsed <;> trivial

end Quiet

section Stages

variable {scope : StageScope} {settings : Settings} {grip : Grip} {status : BugStatus}

theorem held_read {Result : Type}
    {rest : Option {row : Report // row.id = scope.reportId} → Py Result}
    {returns : Result → Grip → Prop} {raises : Exn → Grip → Prop}
    (holding : grip.Holding scope.reportId status)
    (there : ∀ report (same : report.id = scope.reportId) reached,
      reached.Holding scope.reportId status →
      (rest (some ⟨report, same⟩)).Follows (stageRun scope) reached returns raises)
    (gone : (rest none).Follows (stageRun scope) .lost returns raises)
    (bad : ∀ error reached, reached.Stuck scope.reportId status → raises error reached) :
    (reportGet scope.reportId >>= rest).Follows (stageRun scope) grip returns raises := by
  refine (follows_bind ..).mpr ((follows_ask ..).mpr ⟨⟨trivial, trivial⟩, fun answer => ?_,
    fun error => bad _ _ (mine_shaken holding.mine)⟩)
  cases answer with
  | none =>
      rcases holding with ⟨shaken, rfl⟩ | rfl
      · simpa [gripNext, Grip.absent] using gone
      · exact gone
  | some report => exact there report.1 report.2 _ holding

theorem validate_claimed_follows {report : Report}
    (holding : grip.Holding scope.reportId .validating) :
    (validateClaimed scope.reportId report).Follows (stageRun scope) grip
      (fun _ => Grip.Left scope.reportId) (fun _ => Grip.Mine scope.reportId .validating) := by
  have held : ∀ (error : Exn) reached, Grip.Holding scope.reportId .validating reached →
      Grip.Mine scope.reportId .validating reached := fun _ _ holding => holding.mine
  refine (holding_steady.quiet quiet_clock holding).andThen (fun startedAt _ holding => ?_) held
  refine (holding_steady.quiet (quiet_compute _) holding).andThen
    (fun validation _ holding => ?_) held
  refine under_write_lock_follows ?_ fun _ => .inl (.inr rfl)
  refine (holding_steady.quiet quiet_clock holding).andThen (fun completedAt _ holding => ?_) held
  refine (holding_steady.quiet (quiet_analysis_create rfl fun other => absurd rfl other)
    holding).andThen (fun analysisId _ holding => ?_) held
  have stuck : ∀ (error : Exn) reached, Grip.Stuck scope.reportId .validating reached →
      Grip.Mine scope.reportId .validating reached := fun _ _ stuck => stuck.mine
  split
  · exact (status_set holding.mine (by decide)).mono (fun _ _ left => left) stuck
  · exact (status_set holding.mine (by decide)).mono (fun _ _ left => left) stuck

theorem process_submitted_follows (claims : scope.claims) (idle : grip.Idle scope.reportId) :
    (processSubmitted scope.reportId).Follows (stageRun scope) grip
      (fun _ => Grip.Idle scope.reportId) (fun _ => Grip.Idle scope.reportId) := by
  have stuck : ∀ (error : Exn) reached, Grip.Stuck scope.reportId .validating reached →
      Grip.Idle scope.reportId reached := fun _ _ stuck => stuck.idle
  refine (under_write_lock_follows (claim_entered claims idle (by decide) rfl)
    fun _ => idle_steady.lost).andThen (fun claimed reached after => ?_) fun _ _ idle => idle
  cases claimed with
  | false => exact after
  | true =>
      rw [if_pos rfl]
      refine held_read after (fun report same reached holding => ?_) idle_steady.lost stuck
      refine (validate_claimed_follows holding).caught (fun _ _ left => left.idle)
        fun error reached mine => ?_
      refine (under_write_lock_follows (claim_left mine (by decide) rfl rfl)
        fun _ => .inr (.inr rfl)).andThen (fun _ _ left => left.idle) stuck

theorem triage_writes_follows {report : Report} (same : report.id = scope.reportId)
    (analysisId : String) (response : LlmResponse) (result : Json) (completedAt : Nat)
    (holding : grip.Holding scope.reportId .analyzing) :
    (triageWrites report analysisId response result completedAt).Follows (stageRun scope) grip
      (fun _ => Grip.Left scope.reportId) (fun _ => Grip.Mine scope.reportId .analyzing) := by
  have held : ∀ (error : Exn) reached, Grip.Holding scope.reportId .analyzing reached →
      Grip.Mine scope.reportId .analyzing reached := fun _ _ holding => holding.mine
  unfold triageWrites
  rw [same]
  refine (holding_steady.quiet (quiet_analysis_update _ _) holding).andThen
    (fun _ _ holding => ?_) held
  refine (holding_steady.quiet (quiet_get_field _ _) holding).andThen
    (fun severity _ holding => ?_) held
  refine (holding_steady.quiet (quiet_get_field _ _) holding).andThen
    (fun featureArea _ holding => ?_) held
  have ending : ∀ reached, Grip.Holding scope.reportId .analyzing reached →
      Program.Follows (stageRun scope) (do
        tokenUsageCreate
          { projectId := report.projectId, provider := response.provider, model := response.model
            bugReportId := scope.reportId, promptTokens := response.promptTokens
            completionTokens := response.completionTokens }
        let needsClarification ← getField result "needs_clarification"
        if needsClarification.truthy then setStatus scope.reportId .clarificationNeeded none
        else setStatus scope.reportId .triaged none
        pure result : Py Json) reached (fun _ => Grip.Left scope.reportId)
        (fun _ => Grip.Mine scope.reportId .analyzing) := by
    intro reached holding
    have stuck : ∀ (error : Exn) reached, Grip.Stuck scope.reportId .analyzing reached →
        Grip.Mine scope.reportId .analyzing reached := fun _ _ stuck => stuck.mine
    refine (holding_steady.quiet (quiet_usage rfl) holding).andThen (fun _ _ holding => ?_) held
    refine (holding_steady.quiet (quiet_get_field _ _) holding).andThen
      (fun needsClarification _ holding => ?_) held
    split
    · exact (status_set holding.mine (by decide)).andThen (fun _ _ left => left) stuck
    · exact (status_set holding.mine (by decide)).andThen (fun _ _ left => left) stuck
  dsimp only
  split
  · refine Follows.andThen (holding_steady.quiet (quiet_update_fields rfl) holding)
      (fun _ _ holding => ?_) held
    exact ending _ holding
  · exact ending _ holding

/-- What the arguments of a local stage admit: their own pin, or any when they name none. -/
def TakesLocal (scope : StageScope) (settings : Settings) (llm : Option LlmPin)
    (prompts : Prompt → Prop) : Prop :=
  ∀ pin prompt, llm = none ∨ llm = some pin → prompts prompt →
    scope.Takes settings { model := some pin.2, messages := prompt, provider := pin.1 }

def Prompt.triages : Prompt → Prop
  | .triage _ => True
  | _ => False

def Prompt.localizes : Prompt → Prop
  | .localize .. | .confirm .. => True
  | _ => False

theorem triage_run_follows {report : Report} (same : report.id = scope.reportId)
    {provider model : String} (takes : scope.Takes settings
      { model := some model, messages := .triage report, provider })
    (analysisId : String) (holding : grip.Holding scope.reportId .analyzing) :
    (triageRun settings report provider model analysisId).Follows (stageRun scope) grip
      (fun _ => Grip.Left scope.reportId) (fun _ => Grip.Mine scope.reportId .analyzing) := by
  have held : ∀ (error : Exn) reached, Grip.Holding scope.reportId .analyzing reached →
      Grip.Mine scope.reportId .analyzing reached := fun _ _ holding => holding.mine
  refine (holding_steady.quiet (quiet_compute _) holding).andThen (fun _ _ holding => ?_) held
  refine (holding_steady.quiet (quiet_complete takes) holding).andThen
    (fun response _ holding => ?_) held
  refine (holding_steady.quiet (quiet_compute _) holding).andThen (fun result _ holding => ?_) held
  refine (holding_steady.quiet quiet_clock holding).andThen (fun completedAt _ holding => ?_) held
  exact under_write_lock_follows (triage_writes_follows same _ _ _ _ holding)
    fun _ => .inl (.inr rfl)

theorem triage_failed_follows {report : Report} (same : report.id = scope.reportId)
    (analysisId : String) (error : Exn) (mine : grip.Mine scope.reportId .analyzing) :
    (triageFailed report analysisId error).Follows (stageRun scope) grip
      (fun _ => Grip.Left scope.reportId) (fun _ => Grip.Stuck scope.reportId .analyzing) := by
  unfold triageFailed
  rw [same]
  refine Follows.andThen (mine_brief.asks ⟨trivial, rfl⟩ rfl (.inr rfl) mine mine)
    (fun completedAt _ mine => ?_) fun _ _ stuck => stuck
  refine Follows.andThen (under_write_lock_follows ?_ fun _ => .inr (.inr rfl))
    (fun _ _ left => .inr left) fun _ _ stuck => stuck
  refine Follows.andThen (mine_brief.asks ⟨trivial, rfl⟩ rfl (.inl rfl) mine mine)
    (fun _ _ mine => ?_) fun _ _ stuck => stuck
  exact status_set mine (by decide)

theorem held_project_get (id : String) (holding : grip.Holding scope.reportId status) :
    (projectGet id).Follows (stageRun scope) grip (fun _ => Grip.Holding scope.reportId status)
      (fun _ => Grip.Stuck scope.reportId status) :=
  Follows.andThen (holding_steady.asks ⟨trivial, rfl⟩ rfl (.inl rfl) holding holding.mine)
    (fun _ _ holding => holding) fun _ _ stuck => stuck

theorem triage_model_follows (report : Report) (llm : Option LlmPin)
    (holding : grip.Holding scope.reportId .analyzing) :
    (triageModel settings report (llm.map Prod.snd) (llm.map Prod.fst)).Follows (stageRun scope)
      grip
      (fun pin reached => (llm = none ∨ llm = some pin) ∧
        reached.Holding scope.reportId .analyzing)
      (fun _ => Grip.Stuck scope.reportId .analyzing) := by
  cases llm with
  | some pin => exact ⟨.inr rfl, holding⟩
  | none =>
      exact (held_project_get _ holding).andThen (fun _ _ holding => ⟨.inl rfl, holding⟩)
        fun _ _ stuck => stuck

theorem triage_report_follows {report : Report} (same : report.id = scope.reportId)
    {llm : Option LlmPin} (takes : TakesLocal scope settings llm Prompt.triages)
    (holding : grip.Holding scope.reportId .analyzing) :
    (triageReport settings report (llm.map Prod.snd) (llm.map Prod.fst) scope.triggerRef).Follows
      (stageRun scope) grip
      (fun _ => Grip.Left scope.reportId) (fun _ => Grip.Stuck scope.reportId .analyzing) := by
  refine (triage_model_follows report llm holding).andThen (fun pin _ chosen => ?_)
    fun _ _ stuck => stuck
  obtain ⟨chosen, holding⟩ := chosen
  refine Follows.andThen (holding_steady.asks ⟨trivial, rfl⟩ rfl (.inr rfl) holding holding.mine)
    (fun startedAt _ holding => ?_) fun _ _ stuck => stuck
  refine Follows.andThen (under_write_lock_follows (holding_steady.asks
    ⟨⟨same, fun _ => rfl⟩, rfl⟩ rfl (.inl rfl) holding holding.mine) fun _ => .inr (.inr rfl))
    (fun analysisId _ holding => ?_) fun _ _ stuck => stuck
  exact (triage_run_follows same (takes pin _ chosen trivial) analysisId holding).caught
    (fun _ _ left => left) fun error _ mine => triage_failed_follows same analysisId error mine

theorem process_triaged_follows (claims : scope.claims) {llm : Option LlmPin}
    (takes : TakesLocal scope settings llm Prompt.triages) (idle : grip.Idle scope.reportId) :
    (processTriaged settings scope.reportId llm scope.triggerRef).Follows (stageRun scope) grip
      (fun _ => Grip.Idle scope.reportId) (fun _ => Grip.Idle scope.reportId) := by
  refine (under_write_lock_follows (claim_entered claims idle (by decide) rfl)
    fun _ => idle_steady.lost).andThen (fun claimed reached after => ?_) fun _ _ idle => idle
  cases claimed with
  | false => exact after
  | true =>
      rw [if_pos rfl]
      refine held_read after (fun report same reached holding => ?_) idle_steady.lost
        fun _ _ stuck => stuck.idle
      have triages : Program.Follows (stageRun scope) (do
          let _ ← triageReport settings report (llm.map Prod.snd) (llm.map Prod.fst)
            scope.triggerRef
          pure () : Py Unit) reached (fun _ => Grip.Idle scope.reportId)
          (fun _ => Grip.Idle scope.reportId) :=
        Follows.andThen (triage_report_follows same takes holding) (fun _ _ left => left.idle)
          fun _ _ stuck => stuck.idle
      have caught : Program.Follows (stageRun scope) ((do
          let _ ← triageReport settings report (llm.map Prod.snd) (llm.map Prod.fst)
            scope.triggerRef
          pure () : Py Unit).catching fun _ => pure ()) reached (fun _ => Grip.Idle scope.reportId)
          (fun _ => Grip.Idle scope.reportId) :=
        triages.caught (fun _ _ idle => idle) fun _ _ idle => idle
      exact caught.andThen (fun _ _ idle => idle) fun _ _ idle => idle

theorem localize_claimed_follows {report : Report} (same : report.id = scope.reportId)
    {llm : Option LlmPin} (takes : TakesLocal scope settings llm Prompt.localizes)
    (project : Project) (repoPath : String) (holding : grip.Holding scope.reportId .analyzing) :
    (localizeClaimed settings scope.reportId report project repoPath llm scope.triggerRef).Follows
      (stageRun scope) grip (fun _ => Grip.Left scope.reportId)
      (fun _ => Grip.Mine scope.reportId .analyzing) := by
  have held : ∀ (error : Exn) reached, Grip.Holding scope.reportId .analyzing reached →
      Grip.Mine scope.reportId .analyzing reached := fun _ _ holding => holding.mine
  have leave : ∀ (outcome : LocalOutcome) reached,
      Grip.Holding scope.reportId .analyzing reached →
      Program.Follows (stageRun scope)
        (underWriteLock (setStatus scope.reportId .triaged none) >>= fun _ => Pure.pure outcome)
        reached (fun _ => Grip.Left scope.reportId)
        (fun _ => Grip.Mine scope.reportId .analyzing) := by
    intro outcome reached holding
    exact Follows.andThen (under_write_lock_follows (status_set holding.mine (by decide))
      fun _ => .inr (.inr rfl)) (fun _ _ left => left) fun _ _ stuck => stuck.mine
  refine Follows.andThen (holding_steady.quiet (only_ask ⟨trivial, rfl⟩) holding)
    (fun sha _ holding => ?_) held
  refine Follows.andThen (holding_steady.quiet (quiet_project_update ⟨rfl, rfl, rfl, rfl⟩) holding)
    (fun _ _ holding => ?_) held
  refine Follows.andThen (holding_steady.quiet (quiet_query trivial) holding)
    (fun existing _ holding => ?_) held
  split
  · exact leave _ _ holding
  refine Follows.andThen (holding_steady.quiet (only_ask ⟨trivial, rfl⟩) holding)
    (fun repoMap _ holding => ?_) held
  refine Follows.andThen (holding_steady.quiet (quiet_query trivial) holding)
    (fun triages _ holding => ?_) held
  refine Follows.andThen (holding_steady.quiet (quiet_triage_summary _) holding)
    (fun summary _ holding => ?_) held
  refine Follows.andThen (holding_steady.quiet (quiet_localize_report same
    (fun prompt kind => takes _ prompt ?_ ?_) _ _ _ _) holding) (fun _ _ holding => ?_) held
  · cases llm
    · exact .inl rfl
    · exact .inr rfl
  · rcases kind with ⟨_, _, rfl⟩ | ⟨_, _, rfl⟩ <;> trivial
  · exact leave _ _ holding

theorem process_localization_follows (claims : scope.claims) {llm : Option LlmPin}
    (takes : TakesLocal scope settings llm Prompt.localizes) (idle : grip.Idle scope.reportId) :
    (processLocalization settings scope.reportId llm scope.triggerRef).Follows (stageRun scope)
      grip (fun _ => Grip.Idle scope.reportId) (fun _ => Grip.Idle scope.reportId) := by
  have leave : ∀ (outcome : LocalOutcome) reached,
      Grip.Mine scope.reportId .analyzing reached →
      Program.Follows (stageRun scope)
        (underWriteLock (setStatus scope.reportId .triaged none) >>= fun _ => Pure.pure outcome)
        reached (fun _ => Grip.Idle scope.reportId) (fun _ => Grip.Idle scope.reportId) := by
    intro outcome reached mine
    exact Follows.andThen (under_write_lock_follows (status_set mine (by decide))
      fun _ => .inr (.inr rfl)) (fun _ _ left => left.idle) fun _ _ stuck => stuck.idle
  refine (under_write_lock_follows (claim_entered claims idle (by decide) rfl)
    fun _ => idle_steady.lost).andThen (fun claimed reached after => ?_) fun _ _ idle => idle
  cases claimed with
  | false => exact after
  | true =>
      rw [if_pos rfl]
      refine held_read after (fun report same reached holding => ?_) idle_steady.lost
        fun _ _ stuck => stuck.idle
      refine Follows.andThen (held_project_get _ holding) (fun project _ holding => ?_)
        fun _ _ stuck => stuck.idle
      split
      · exact leave _ _ holding.mine
      · exact (localize_claimed_follows same takes _ _ holding).caught (fun _ _ left => left.idle)
          fun _ _ mine => leave _ _ mine

theorem push_clarified_follows (claims : scope.claims) (report : Report) (idle : grip.Idle scope.reportId) :
    (pushClarified scope.reportId report).Follows (stageRun scope) grip
      (fun _ => Grip.Idle scope.reportId) (fun _ => Grip.Idle scope.reportId) := by
  unfold pushClarified
  split
  swap
  · exact idle
  refine under_write_lock_follows ?_ fun _ => idle_steady.lost
  refine Follows.andThen (claim_entered claims idle (by decide) rfl) (fun claimed reached after => ?_)
    fun _ _ idle => idle
  cases claimed with
  | false => exact after
  | true =>
      rw [if_pos rfl]
      have holding : reached.Holding scope.reportId .analyzing := after
      exact (status_set holding.mine (by decide)).mono (fun _ _ left => left.idle)
        fun _ _ stuck => stuck.idle

theorem run_local_analysis_follows (claims : scope.claims) {args : LocalArgs} (same : args.triggerRef = scope.triggerRef)
    (triages : TakesLocal scope settings args.triageLlm Prompt.triages)
    (localizes : TakesLocal scope settings args.localizeLlm Prompt.localizes)
    (idle : grip.Idle scope.reportId) :
    (runLocalAnalysis settings scope.reportId args).Follows (stageRun scope) grip
      (fun _ => Grip.Idle scope.reportId) (fun _ => Grip.Idle scope.reportId) := by
  have still : ∀ (error : Exn) reached, Grip.Idle scope.reportId reached →
      Grip.Idle scope.reportId reached := fun _ _ idle => idle
  unfold runLocalAnalysis
  rw [same]
  have localize : ∀ triagedNow reached, Grip.Idle scope.reportId reached →
      Program.Follows (stageRun scope) (do
        let outcome ← processLocalization settings scope.reportId args.localizeLlm scope.triggerRef
        if outcome = .notClaimed && triagedNow then pure .triageOnly else pure outcome)
        reached (fun _ => Grip.Idle scope.reportId) (fun _ => Grip.Idle scope.reportId) := by
    intro triagedNow reached idle
    refine (process_localization_follows claims localizes idle).andThen (fun outcome _ idle => ?_) still
    split <;> exact idle
  refine Follows.andThen (idle_steady.quiet (quiet_query trivial) idle) (fun found _ idle => ?_) still
  cases found with
  | none => exact idle
  | some found =>
      refine (push_clarified_follows claims found.1 idle).andThen (fun _ _ idle => ?_) still
      refine Follows.andThen (idle_steady.quiet (quiet_query trivial) idle) (fun done _ idle => ?_) still
      split
      · exact localize _ _ idle
      · exact (process_triaged_follows claims triages idle).andThen (fun _ _ idle => localize _ _ idle) still

/-- The scope admits the completion of a fix proposal for every project of its report. -/
def TakesFix (scope : StageScope) (settings : Settings) (args : FixArgs) : Prop :=
  ∀ project report analysis files,
    scope.Takes settings
      { model := some (args.pick (resolveFixLlm settings (some project))).2
        messages := .fix report analysis files settings.fixEnablePromptCaching
        provider := (args.pick (resolveFixLlm settings (some project))).1
        apiKey := args.requestKey, timeout := settings.fixTimeoutSeconds }

theorem persist_proposal_follows {args : FixArgs} (triggered : args.triggerRef = scope.triggerRef)
    {report : Report} (same : report.id = scope.reportId) (analysis : Analysis)
    (response : LlmResponse) (validated : ValidatedProposal)
    (holding : grip.Holding scope.reportId .fixProposing) :
    (persistProposal args report analysis response validated).Follows (stageRun scope) grip
      (fun _ => Grip.Left scope.reportId) (fun _ => Grip.Mine scope.reportId .fixProposing) := by
  have held : ∀ (error : Exn) reached, Grip.Holding scope.reportId .fixProposing reached →
      Grip.Mine scope.reportId .fixProposing reached := fun _ _ holding => holding.mine
  unfold persistProposal
  rw [same, triggered]
  refine under_write_lock_follows ?_ fun _ => .inr (.inr rfl)
  refine Follows.andThen (holding_steady.quiet (quiet_analysis_create rfl fun _ => rfl) holding)
    (fun analysisId _ holding => ?_) held
  refine Follows.andThen (holding_steady.quiet (only_ask ⟨⟨rfl, rfl⟩, rfl⟩) holding)
    (fun proposalId _ holding => ?_) held
  refine Follows.andThen (holding_steady.quiet (quiet_usage same) holding)
    (fun _ _ holding => ?_) held
  exact Follows.andThen (status_set holding.mine (by decide)) (fun _ _ left => left)
    fun _ _ stuck => stuck.mine

theorem propose_claimed_follows {args : FixArgs} (triggered : args.triggerRef = scope.triggerRef)
    (takes : TakesFix scope settings args) (holding : grip.Holding scope.reportId .fixProposing) :
    (proposeClaimed settings scope.reportId args).Follows (stageRun scope) grip
      (fun _ => Grip.Left scope.reportId) (fun _ => Grip.Mine scope.reportId .fixProposing) := by
  have held : ∀ (error : Exn) reached, Grip.Holding scope.reportId .fixProposing reached →
      Grip.Mine scope.reportId .fixProposing reached := fun _ _ holding => holding.mine
  refine held_read holding (fun report same _ holding => ?_) (.inr rfl) fun _ _ stuck => stuck.mine
  refine Follows.andThen (holding_steady.quiet (quiet_query trivial) holding)
    (fun analysis _ holding => ?_) held
  cases analysis with
  | none => exact holding.mine
  | some analysis =>
      refine Follows.andThen (holding_steady.quiet (quiet_query trivial) holding)
        (fun existing _ holding => ?_) held
      split
      · exact Follows.andThen (under_write_lock_follows (status_set holding.mine (by decide))
          fun _ => .inr (.inr rfl)) (fun _ _ left => left) fun _ _ stuck => stuck.mine
      refine Follows.andThen (holding_steady.quiet (quiet_project_get _) holding)
        (fun project _ holding => ?_) held
      refine Follows.andThen (holding_steady.quiet (quiet_gather _ _) holding)
        (fun gathered _ holding => ?_) held
      refine Follows.andThen (holding_steady.quiet (quiet_ask_for_fix (takes _ _ _ _)) holding)
        (fun answered _ holding => ?_) held
      exact Follows.andThen (persist_proposal_follows triggered same _ _ _ holding)
        (fun _ _ left => left) fun _ _ mine => mine

theorem fix_failed_follows {args : FixArgs} (triggered : args.triggerRef = scope.triggerRef)
    (error : Exn) (mine : grip.Mine scope.reportId .fixProposing) :
    (fixFailed scope.reportId args error).Follows (stageRun scope) grip
      (fun _ => Grip.Left scope.reportId) (fun _ => Grip.Stuck scope.reportId .fixProposing) := by
  have leave : ∀ reached, Grip.Mine scope.reportId .fixProposing reached →
      (tryClaimReport scope.reportId .fixProposing .triaged none).Follows (stageRun scope) reached
        (fun _ => Grip.Left scope.reportId) (fun _ => Grip.Stuck scope.reportId .fixProposing) :=
    fun reached mine => claim_left mine (by decide) rfl rfl
  unfold fixFailed
  rw [triggered]
  dsimp only
  split
  · exact Follows.andThen (under_write_lock_follows (leave _ mine) fun _ => .inr (.inr rfl))
      (fun _ _ left => left) fun _ _ stuck => stuck
  · refine Follows.andThen (under_write_lock_follows ?_ fun _ => .inr (.inr rfl))
      (fun _ _ left => left) fun _ _ stuck => stuck
    refine Follows.andThen (mine_brief.asks ⟨trivial, rfl⟩ rfl (.inr rfl) mine mine)
      (fun completedAt _ mine => ?_) fun _ _ stuck => stuck
    refine Follows.andThen (mine_brief.asks ⟨⟨rfl, fun _ => rfl⟩, rfl⟩ rfl (.inl rfl) mine mine)
      (fun analysisId _ mine => ?_) fun _ _ stuck => stuck
    exact Follows.andThen (leave _ mine) (fun _ _ left => left) fun _ _ stuck => stuck

theorem claim_and_propose_follows (claims : scope.claims) {args : FixArgs}
    (triggered : args.triggerRef = scope.triggerRef) (takes : TakesFix scope settings args)
    (idle : grip.Idle scope.reportId) :
    (claimAndPropose settings scope.reportId args).Follows (stageRun scope) grip
      (fun _ => Grip.Idle scope.reportId) (fun _ => Grip.Idle scope.reportId) := by
  refine Follows.andThen (under_write_lock_follows (claim_entered claims idle (by decide) rfl)
    fun _ => idle_steady.lost) (fun claimed reached after => ?_) fun _ _ idle => idle
  cases claimed with
  | false => exact after
  | true =>
      rw [if_pos rfl]
      exact (propose_claimed_follows triggered takes after).caught (fun _ _ left => left.idle)
        fun error _ mine => (fix_failed_follows triggered error mine).mono
          (fun _ _ left => left.idle) fun _ _ stuck => stuck.idle

theorem propose_fix_follows (claims : scope.claims) (proposes : scope.proposes) {args : FixArgs}
    (triggered : args.triggerRef = scope.triggerRef) (takes : TakesFix scope settings args)
    (idle : grip.Idle scope.reportId) :
    (proposeFix settings scope.reportId args).Follows (stageRun scope) grip
      (fun _ => Grip.Idle scope.reportId) (fun _ => Grip.Idle scope.reportId) := by
  refine Follows.andThen (idle_steady.quiet (only_ask ⟨⟨rfl, triggered, proposes⟩, rfl⟩) idle)
    (fun _ _ idle => ?_) fun _ _ idle => idle
  split
  · exact idle
  · exact claim_and_propose_follows claims triggered takes idle

end Stages

end Bugalizer
