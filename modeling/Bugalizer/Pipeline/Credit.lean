import Bugalizer.Keeping
import Bugalizer.Pipeline.Persist

/-!
# From the answer of a model to the rows of its fix

Between the call of the model and the proposal stand its answer, what the answer parses to,
and the completed fix. A coroutine makes a proposal only right behind a completed fix of its
own, out of the same answer.
-/

namespace Bugalizer

set_option autoImplicit false

open Coroutine Program Store

/-- An answer of a model, and what it parsed to since. -/
structure Draft where
  request : LlmCall
  reply : Completion
  parsed : Option (String × ValidatedProposal)

/-- What `complete` returns of a call and its answer. -/
def Draft.response (draft : Draft) : LlmResponse :=
  { content := draft.reply.content
    promptTokens := draft.reply.promptTokens
    completionTokens := draft.reply.completionTokens
    model := draft.request.model
    provider := draft.request.provider }

def Draft.Gives (draft : Draft) (run : Proposing) : Prop :=
  run.response = draft.response ∧ draft.parsed = some (draft.reply.content, run.validated)

/-- What a coroutine has in hand: the row of its stage, the last answer of a model, and the
completed fix it made with its last operation. Endpoints on worker threads make no rows. -/
structure Desk where
  onLoop : Bool
  row : Option String
  draft : Option Draft
  stored : Option (NewAnalysis × String)

def NewAnalysis.completesFix (new : NewAnalysis) : Prop :=
  new.phase = .fix ∧ new.status = .completed

instance (new : NewAnalysis) : Decidable new.completesFix := by
  unfold NewAnalysis.completesFix
  infer_instance

def deskNext (desk : Desk) (op : Op) (answer : Except Exn op.Ans) : Desk :=
  match op, answer with
  | .stage (.analysisCreate new), .ok id =>
      if new.status = .running then { desk with row := some id }
      else if new.completesFix then { desk with stored := some (new, id) }
      else desk
  | .stage (.analysisUpdate _ fields), .ok _ =>
      if fields.status = .completed then desk else { desk with row := none }
  | .stage (.fixProposalCreate _), _ => { desk with stored := none }
  | .remote (.acompletion request), .ok reply =>
      { desk with draft := some ⟨request, reply, none⟩ }
  | .compute (.parseProposal content), .ok (.ok validated) =>
      { desk with
        draft := desk.draft.map fun draft => { draft with parsed := some (content, validated) } }
  | _, _ => desk

/-- A completed fix is followed at once by its proposal, and a row that is written is one the
coroutine opened: never a fix. -/
def deskAllowed (desk : Desk) : Op → Prop
  | .stage (.analysisCreate new) =>
      (desk.onLoop = true ∧ desk.stored = none) ∧ (new.status = .running → new.phase ≠ .fix)
  | .stage (.analysisUpdate id fields) =>
      (desk.onLoop = true ∧ desk.stored = none) ∧ desk.row = some id ∧ fields.status ≠ .running
  | .stage (.fixProposalCreate new) =>
      desk.onLoop = true ∧ ∃ run draft id, desk.stored = some (run.completedFix, id) ∧
        desk.draft = some draft ∧ draft.Gives run ∧ new = run.proposal
  | _ => desk.stored = none

abbrev credits : Discipline Op Op.Ans Exn where
  Ghost := Desk
  allowed := deskAllowed
  next := deskNext

/-- Between its parts a coroutine of the loop has no completed fix without a proposal. -/
def Desk.Clear (desk : Desk) : Prop := desk.onLoop = true ∧ desk.stored = none

theorem clear_permits {desk : Desk} {op : Op} (clear : desk.Clear) (calm : calmOp op) :
    deskAllowed desk op := by
  unfold calmOp at calm
  split at calm
  · exact ⟨clear, fun running => absurd running calm.1.1⟩
  · cases calm
  · cases calm
  · exact clear.2
  · rename_i create update propose spawn
    unfold deskAllowed
    split
    · exact absurd rfl (create _)
    · exact absurd rfl (update _ _)
    · exact absurd rfl (propose _)
    · exact clear.2

/-- Of the desk, a calm operation changes the draft alone. -/
theorem calm_next {desk : Desk} {op : Op} (calm : calmOp op) (answer : Except Exn op.Ans) :
    (deskNext desk op answer).onLoop = desk.onLoop ∧ (deskNext desk op answer).row = desk.row ∧
      (deskNext desk op answer).stored = desk.stored := by
  unfold deskNext
  split
  · rename_i new id
    have fixed : ¬new.completesFix := calm.2
    rw [if_neg calm.1.1, if_neg fixed]
    exact ⟨rfl, rfl, rfl⟩
  · cases calm
  · cases calm
  · exact ⟨rfl, rfl, rfl⟩
  · exact ⟨rfl, rfl, rfl⟩
  · exact ⟨rfl, rfl, rfl⟩

theorem clear_next {desk : Desk} {op : Op} (clear : desk.Clear) (calm : calmOp op)
    (answer : Except Exn op.Ans) : (deskNext desk op answer).Clear := by
  obtain ⟨loop, -, stored⟩ := @calm_next desk op calm answer
  exact ⟨loop.trans clear.1, stored.trans clear.2⟩

abbrev creditKeeping : Keeping where
  rules := credits
  calm := Desk.Clear
  permitted _ _ clear calm := clear_permits clear calm
  kept _ _ answer clear calm := clear_next clear calm answer
  row id _ _ desk := desk.Clear ∧ desk.row = some id
  row_calm _ _ _ _ held := held.1
  row_kept _ _ _ _ _ answer held calm :=
    ⟨clear_next held.1 calm answer, (calm_next calm answer).2.1.trans held.2⟩
  opens desk new clear running announced := by
    refine ⟨⟨clear, fun _ fix => ?_⟩, fun id => ?_, fun _ => clear⟩
    · rw [fix] at announced
      cases announced
    · simp only [deskNext, running, if_true]
      exact ⟨clear, trivial⟩
  writes id _ _ desk fields held stopped _ := by
    refine ⟨⟨held.1, held.2, stopped⟩, ⟨fun completed => ?_, ?_⟩, fun _ => held⟩
    · simp only [deskNext, completed, if_true]
      exact held
    · simp only [deskNext]
      split
      · exact held.1
      · exact held.1

section Fix

variable {settings : Settings} {desk : Desk}

def Desk.Drafted (desk : Desk) (args : FixArgs) (input : FixInput)
    (asked : LlmResponse × ValidatedProposal) : Prop :=
  desk.Clear ∧ ∃ draft, desk.draft = some draft ∧
    draft.Gives ⟨args, input.report, input.analysis, asked.1, asked.2⟩

theorem complete_drafts (args : CompleteArgs) (clear : desk.Clear) :
    (complete settings args).Follows credits desk
      (fun response reached => reached.Clear ∧
        ∃ draft, reached.draft = some draft ∧ draft.parsed = none ∧ response = draft.response)
      (fun _ => Desk.Clear) := by
  unfold complete
  cases routed : routeCall settings args with
  | error error => exact clear
  | ok request =>
      have provider := routed_provider routed
      have replied : (remote (.acompletion request)).Follows credits desk
          (fun reply reached => reached.Clear ∧ reached.draft = some ⟨request, reply, none⟩)
          (fun _ => Desk.Clear) :=
        (follows_perform ..).mpr ⟨clear.2, fun _ => ⟨clear, rfl⟩, fun _ => clear⟩
      apply replied.andThen _ fun _ _ still => still
      intro reply reached asked
      refine ⟨asked.1, _, asked.2, rfl, ?_⟩
      unfold Draft.response
      rw [provider]

theorem ask_drafts (args : FixArgs) (input : FixInput) (clear : desk.Clear) :
    (askForFix settings args input).Follows credits desk
      (fun asked reached => reached.Drafted args input asked) (fun _ => Desk.Clear) := by
  have formatted := @tidy_calm creditKeeping _ _ (calm_format
    (.fix input.report input.analysis input.files settings.fixEnablePromptCaching)) desk clear
  apply formatted.andThen _ fun _ _ still => still
  intro _ reached clear
  apply (complete_drafts _ clear).andThen _ fun _ _ still => still
  intro response reached answered
  obtain ⟨clear, draft, drafted, -, rfl⟩ := answered
  have parsed : (ask (.compute (.parseProposal draft.reply.content))).Follows credits reached
      (fun answer after => after.Clear ∧ ∀ validated, answer = .ok validated →
        after.draft = some { draft with parsed := some (draft.reply.content, validated) })
      (fun _ => Desk.Clear) := by
    apply (follows_perform ..).mpr
    refine ⟨clear.2, fun answer => ?_, fun _ => clear⟩
    cases answer with
    | error message => exact ⟨clear, fun _ none => by cases none⟩
    | ok validated =>
        refine ⟨clear, fun other same => ?_⟩
        cases same
        simp only [deskNext, drafted, Option.map_some]
  apply parsed.andThen _ fun _ _ still => still
  intro answer after reading
  cases answer with
  | error message => exact reading.1
  | ok validated => exact ⟨reading.1, _, reading.2 validated rfl, rfl, rfl⟩

/-- The completed fix, and right behind it its proposal. -/
theorem persist_credits (args : FixArgs) (input : FixInput) (asked : LlmResponse × ValidatedProposal)
    (drafted : desk.Drafted args input asked) :
    (persistProposal args input.report input.analysis asked.1 asked.2).Follows credits desk
      (fun _ => Desk.Clear) (fun _ => Desk.Clear) := by
  let run : Proposing := ⟨args, input.report, input.analysis, asked.1, asked.2⟩
  obtain ⟨clear, draft, written, gives⟩ := drafted
  refine ⟨clear.2, fun locked => ?_⟩
  cases locked with
  | error error => exact clear
  | ok locked =>
  have made : (analysisCreate run.completedFix).Follows credits desk
      (fun id reached => reached = { desk with stored := some (run.completedFix, id) })
      (fun _ => Desk.Clear) :=
    (follows_perform ..).mpr ⟨⟨clear, fun running => by cases running⟩, fun _ => rfl, fun _ => clear⟩
  apply made.andThen _ fun _ _ still => still
  intro id reached stored
  subst stored
  have proposed : (fixProposalCreate run.proposal).Follows credits
      { desk with stored := some (run.completedFix, id) } (fun _ => Desk.Clear)
      (fun _ => Desk.Clear) :=
    (follows_perform ..).mpr ⟨⟨clear.1, run, draft, id, rfl, written, gives, rfl⟩,
      fun _ => ⟨clear.1, rfl⟩, fun _ => ⟨clear.1, rfl⟩⟩
  apply proposed.andThen _ fun _ _ still => still
  intro proposalId reached clear
  have closed : (do
      tokenUsageCreate run.usage
      setStatus run.report.id .fixProposed none
      pure proposalId : Py String).Only calmOp := by
    apply only_bind (calm_usage _)
    intro _
    exact only_bind (calm_status _ _ _) fun _ => trivial
  exact @tidy_calm creditKeeping _ _ closed reached clear

theorem credits_store (args : FixArgs) (input : FixInput) :
    creditKeeping.Tidy (storeFix settings args input) := by
  intro desk clear
  apply (ask_drafts args input clear).andThen _ fun _ _ still => still
  intro asked reached drafted
  apply (persist_credits args input asked drafted).andThen _ fun _ _ still => still
  intro _ reached clear
  exact clear

end Fix

theorem endpoint_permitted {desk : Desk} {op : Op} (endpoint : endpointOp op)
    (none : desk.stored = none) : deskAllowed desk op := by
  unfold deskAllowed
  split
  · cases endpoint
  · cases endpoint
  · cases endpoint
  · exact none

theorem credits_job {settings : Settings} (job : Job) :
    (job.program settings).Follows credits ⟨!job.threaded, none, none, none⟩
      (fun _ desk => desk.stored = none) (fun _ desk => desk.stored = none) := by
  cases threaded : job.threaded with
  | true =>
      apply (threaded_only threaded).follows credits (fun desk => desk.stored = none)
      · intro desk op none endpoint
        exact endpoint_permitted endpoint none
      · intro desk op answer none endpoint
        exact (calm_next (endpoint_calm endpoint) answer).2.2.trans none
      · rfl
  | false =>
      have tidy := @tidy_job settings creditKeeping credits_store job
      apply (tidy ⟨true, none, none, none⟩ ⟨rfl, rfl⟩).mono
      · intro _ desk clear
        exact clear.2
      · intro _ desk clear
        exact clear.2

abbrev creditConduct : Conduct bugalizer where
  discipline := credits
  initial _ job := ⟨!job.threaded, none, none, none⟩
  final _ desk := desk.stored = none
  keeps _ job := credits_job job

end Bugalizer
