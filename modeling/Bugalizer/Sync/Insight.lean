import Bugalizer.GitOps.Ownership
import Bugalizer.Pipeline.Runs
import Bugalizer.Sync.TriageSync

/-!
# What a coroutine knows of an action

A tick and an action's task act on what they have read of the ledger. A row that was read
is exact until the loop is given away; past that, only what the ledger never takes back is
known of it. The ghost of a coroutine is its insight into the action it attends to, and
`insightAllowed` says which insight each ledger write, each start of a task and each model
call rests on.
-/

namespace Bugalizer

set_option autoImplicit false

open Coroutine Program

def intentFields (auth : Authorized) (now : Nat) : TriageActionFields :=
  { phase := some .intent, intentAt := some now, pinnedLlm := some auth.pinned
    noAutoRetry := some auth.noAutoRetry, keyMode := some auth.keyMode }

def dispatchFields (now : Nat) : TriageActionFields :=
  { phase := some .dispatched, dispatchedAt := some now }

def checkpointFields (proposalId : String) : TriageActionFields :=
  { phase := some .fixDone, fixProposalId := some proposalId
    steps := some
      [{ step := .fix, state := .done, ref := some proposalId, message := some "Proposal made" }] }

def underway (phase : LedgerPhase) : Prop := phase = .intent ∨ phase = .dispatched

/-- Every ledger write of the program. Only a reservation, the three moves of the phase and
`finish` change more than an acknowledgement, a late outcome or a pull request's URL. -/
inductive LedgerShape : LedgerWrite → Prop
  | reserve (actionId projectId reportId : String) (kind : Kind) (params : Json)
      (user : Option String) : LedgerShape (.reserve actionId projectId reportId kind params user)
  | deleteReserved (actionId : String) : LedgerShape (.deleteReserved actionId)
  | finish (actionId : String) (outcome : Verdict) (message : Option String)
      (steps : Option (List ActionStep)) (expected : Option LedgerPhase) :
      LedgerShape (.finish actionId outcome message steps expected)
  | prUrl (actionId url : String) : LedgerShape (.update actionId none { prUrl := some url })
  | late (actionId : String) (outcome : Verdict) :
      LedgerShape (.update actionId none { lateOutcome := some outcome })
  | acked (actionId : String) (error : Option String) :
      LedgerShape (.update actionId none { terminalAcked := some true, terminalError := error })
  | attempted (actionId : String) (kind : Kind) (attempts : Nat) :
      LedgerShape (.update actionId (some (prPhase kind)) { attempts := some attempts })
  | intent (actionId : String) (auth : Authorized) (now : Nat) :
      LedgerShape (.update actionId (some .reserved) (intentFields auth now))
  | dispatched (actionId : String) (phase : LedgerPhase) (now : Nat) (open' : underway phase) :
      LedgerShape (.update actionId (some phase) (dispatchFields now))
  | fixDone (actionId proposalId : String) (phase : LedgerPhase) (open' : underway phase) :
      LedgerShape (.update actionId (some phase) (checkpointFields proposalId))

def syncOp : Op → Prop
  | .query _ | .compute _ | .observe _ | .outbox _ => True
  | .report (.updateStatus _ new _ (some expected)) => validateTransition expected new true
  | .report (.updateFields _ fields) => fields.severity = none ∧ fields.featureArea = none
  | .stage (.prCheckRecord ..) => True
  | .ledger write => LedgerShape write
  | .joint (.prSettle _) | .joint (.reopenForAction ..) => True
  | .memory asked => match asked with
      | .taskRunning _ | .tryHold .. | .release _ | .lockHeld _ | .unlock (.tick _)
      | .resetUnresolved _ | .addUnresolved _ | .unresolved _ => True
      | _ => False
  | .remote asked => match asked with
      | .listActions .. | .advance .. | .credential .. | .putResult .. | .getPr .. => True
      | _ => False
  | .acquire (.tick _) => True
  | .note (.proposeFix ..) => False
  | .note _ => True
  | .createTask .. => True
  | _ => False

def endpointOp : Op → Prop
  | .query _ | .compute _ | .project .. => True
  | .report (.updateStatus _ new _ (some expected)) => validateTransition expected new true
  | .report (.delete _ (some _) (some _)) => True
  | .report (.updateFields _ fields) => fields.severity = none ∧ fields.featureArea = none
  | .memory (.openPrRunning _) => True
  | .remote asked => match asked with
      | .cloneRepo .. | .getHeadSha _ | .pullRepo _ | .buildRepoMap .. => True
      | _ => False
  | _ => False

def programOp (op : Op) : Prop :=
  (∃ scope, stageOp scope op) ∨ prOp op ∨ syncOp op ∨ endpointOp op

/-- The pin of the stage a prompt belongs to. -/
def PinnedLlm.for (pinned : PinnedLlm) : Prompt → Option LlmPin
  | .triage _ => pinned.triage
  | .localize .. | .confirm .. => pinned.localization
  | .fix .. => pinned.fix

def Prompt.fixes : Prompt → Bool
  | .fix .. => true
  | _ => false

/-- The last model call of an action is a confirmation or a fix proposal. -/
def Prompt.last : Prompt → Bool
  | .confirm .. | .fix .. => true
  | _ => false

/-- What `authorize` grants an action of this kind. -/
structure Grants (settings : Settings) (kind : Kind) (auth : Authorized) : Prop where
  localPins : kind = .analyzeLocal →
    auth.pinned.triage.isSome ∧ auth.pinned.localization.isSome
  fixPin : kind.paid → auth.pinned.fix.isSome
  gated : settings.sonicgridUserKeys → kind.paid → auth.keyMode = some requester
  keyed : auth.keyMode = some requester →
    auth.noAutoRetry = true ∧ ∃ model, auth.pinned.fix = some (requesterProvider, model)
  unpaid : kind.paid = false →
    auth.pinned.fix = none ∧ auth.keyMode = none ∧ auth.noAutoRetry = false
  once : kind.paid → kind = .analyzeCloud ∨ (auth.pinned.fix.any fun pin => isPaid pin.1) →
    auth.noAutoRetry = true

/-- The model calls `run_llm` may make for a ledger row, with the key it was given. -/
structure Fits (settings : Settings) (row : TriageAction) (key : Option String)
    (call : LlmCall) : Prop where
  pin : ∀ pinned pin, row.pinnedLlm = some pinned → pinned.for call.messages = some pin →
    call.provider = pin.1 ∧ call.requestedModel = pin.2
  route : call.route = .ollama ↔ call.provider = "ollama"
  keyed : row.keyMode = some requester → key.isSome ∧ call.apiKey = key
  fixes : call.messages.fixes = true ↔ (row.keyMode = some requester ∨ row.kind ≠ .analyzeLocal)
  gated : settings.sonicgridUserKeys → row.keyMode ≠ some requester → row.kind ≠ .analyzeLocal →
    ∃ pin, row.pinnedLlm.bind PinnedLlm.fix = some pin ∧ isPaid pin.1 = false

/-- `outside` is a coroutine that attends to no action. `read`, `judged` and `sent` hold the
row as it is in the ledger; `sent` has just dispatched it and owes its task. The others are
an action's own task: not begun, with its row read, with its key, with the model at work, and
past its last model call. `lost` is what no run reaches. -/
inductive Insight where
  | outside
  | blank
  | read (row : TriageAction)
  | judged (row : TriageAction) (auth : Option Authorized)
  | sent (row : TriageAction)
  | tasked (actionId : String)
  | engaged (row : TriageAction)
  | keyed (row : TriageAction) (key : Option String)
  | working (row : TriageAction) (key : Option String)
  | proposing (row : TriageAction) (key : Option String)
  | late
  | lost

namespace Insight

/-- The row the ledger holds right now, as far as it is known. -/
def exact : Insight → Option TriageAction
  | read row | judged row _ | sent row => some row
  | _ => none

/-- Giving the loop away, and any write whose effect is not followed. -/
def yield : Insight → Insight
  | read _ | judged .. | sent _ => blank
  | insight => insight

def after (op : Op) (insight : Insight) : Insight :=
  if op.suspends then insight.yield else insight

def found (row : TriageAction) : Insight → Insight
  | outside => outside
  | lost => lost
  | tasked actionId =>
      if row.actionId = actionId then if row.phase = .reserved then lost else engaged row
      else tasked actionId
  | insight =>
      match insight.exact with
      | some known =>
          if known.actionId = row.actionId ∧ known.phase ≠ row.phase then lost else read row
      | none => read row

def missing (actionId : String) (insight : Insight) : Insight :=
  match insight.exact with
  | some known => if known.actionId = actionId then lost else insight
  | none => insight

def updated (actionId : String) (expected : LedgerPhase) (fields : TriageActionFields)
    (hit : Bool) (insight : Insight) : Insight :=
  match insight.exact with
  | some known =>
      if known.actionId = actionId then
        if hit then
          if known.phase = expected then
            if fields.phase = some .dispatched then sent (fields.write known)
            else read (fields.write known)
          else lost
        else if known.phase = expected then lost
        else insight
      else insight.yield
  | none => insight

def decided (actionId : String) (auth : Option Authorized) : Insight → Insight
  | read row => if row.actionId = actionId then judged row auth else read row
  | insight => insight

def started : Insight → Insight
  | engaged row => working row none
  | keyed row (some key) => working row (some key)
  | insight => insight

def proposes : Insight → Insight
  | working row key => proposing row key
  | insight => insight

/-- The pull-request step is the last thing an action starts. -/
def stepped : Insight → Insight
  | read _ | sent _ => late
  | insight => insight

def answeredKey (response : HttpResponse) : Insight → Insight
  | engaged row =>
      match credentialOutcome row response with
      | .ok key => keyed row (some key)
      | .error _ => keyed row none
  | insight => insight.yield

def keyless : Insight → Insight
  | engaged row => keyed row none
  | insight => insight.yield

def completed (prompt : Prompt) : Insight → Insight
  | working row key => if prompt.last then late else working row key
  | proposing row key => if prompt.last then late else proposing row key
  | insight => insight.yield

def spawned : Insight → Insight
  | sent _ => blank
  | insight => insight

end Insight

def listedIn (response : HttpResponse) : List ListedAction :=
  if response.status = 200 then
    match (jsonBody response).get "actions" with
    | .arr items => items.filterMap wellFormed
    | _ => []
  else []

section Discipline

-- The actions sonicgrid may list.
variable (listed : ListedAction → Prop)

open Classical in
noncomputable def insightNext (insight : Insight) (op : Op) (answer : Except Exn op.Ans) :
    Insight :=
  match answer with
  | .error _ =>
      if op.neverFails then .lost
      else match op with
        | .remote (.credential ..) => insight.keyless
        | .remote (.acompletion request) => insight.completed request.messages
        | .createTask .. => insight.spawned
        | op => insight.after op
  | .ok value =>
      match op, value with
      | .query (.triageActionGet _), some row => insight.found row.1
      | .query (.triageActionGet actionId), none => insight.missing actionId
      | .ledger (.update actionId (some expected) fields), hit =>
          insight.updated actionId expected fields hit
      | .ledger _, _ => insight.yield
      | .joint (.reopenForAction ..), _ => insight.yield
      | .note (.authorized actionId auth), _ => insight.decided actionId auth
      | .note (.runLlm _), _ => insight.started
      | .note (.proposeFix ..), _ => insight.proposes
      | .note (.prStep _), _ => insight.stepped
      | .remote (.credential ..), response => insight.answeredKey response
      | .remote (.acompletion request), _ => insight.completed request.messages
      | .remote (.listActions ..), response =>
          if ∀ action ∈ listedIn response, listed action then insight.yield else .lost
      | .createTask .., _ => insight.spawned
      | op, _ => insight.after op

/-- The row of the action is known to be authorized and not finished, as of now. -/
def Insight.Current (actionId : String) (insight : Insight) : Prop :=
  ∃ row, (insight = .read row ∨ insight = .sent row) ∧ row.actionId = actionId ∧
    row.phase ≠ .reserved ∧ row.phase ≠ .finished

def Insight.At (row : TriageAction) (key : Option String) (insight : Insight) : Prop :=
  insight = .working row key ∨ insight = .proposing row key

def outsideOp : Op → Prop
  | .ledger _ | .createTask .. => False
  | .joint (.reopenForAction ..) => False
  | .remote (.credential ..) | .remote (.listActions ..) => False
  | .note (.proposeFix _ trigger) => trigger = none
  | .note _ => False
  | _ => True

def attendedOp (settings : Settings) (insight : Insight) : Op → Prop
  | .ledger (.reserve actionId _ _ kind ..) =>
      ∃ action, listed action ∧ action.id = actionId ∧ action.kind = kind
  | .ledger (.update actionId (some .reserved) fields) =>
      ∃ row auth now, insight = .judged row (some auth) ∧ row.actionId = actionId ∧
        fields = intentFields auth now
  | .ledger (.update actionId (some phase) fields) =>
      fields.phase = some .dispatched →
        ∃ row, insight = .read row ∧ row.actionId = actionId ∧
          (phase = .intent ∨ row.noAutoRetry = false)
  | .note (.authorized actionId (some auth)) =>
      (∃ row, insight = .read row ∧ row.actionId = actionId) ∧
        ∃ action, listed action ∧ action.id = actionId ∧ Grants settings action.kind auth
  | .note (.runLlm actionId) =>
      (∃ row, insight = .engaged row ∧ row.actionId = actionId ∧ row.keyMode ≠ some requester) ∨
        ∃ row key, insight = .keyed row (some key) ∧ row.actionId = actionId ∧
          row.keyMode = some requester
  | .note (.runInline actionId) | .note (.reopenForAction actionId) | .note (.prStep actionId) =>
      insight.Current actionId
  | .note (.proposeFix reportId trigger) =>
      ∃ row key, insight = .working row key ∧ trigger = some row.actionId ∧ reportId = row.reportId
  | .joint (.reopenForAction _ actionId _) => insight.Current actionId
  | .report (.updateStatus _ _ _ (some _)) => ∃ actionId, insight.Current actionId
  | .report (.updateFields _ fields) =>
      fields.analysisMode.isSome → ∃ actionId, insight.Current actionId
  | .report (.tryClaim _ _ new _) => new.stageClaim → ∃ row key, insight.At row key
  | .createTask actionId job =>
      (job = .actionTask actionId ∧
          ∃ row, insight = .sent row ∧ row.actionId = actionId ∧ row.kind.llm) ∨
        job = .prTask actionId
  | .remote (.credential _ actionId) =>
      ∃ row, insight = .engaged row ∧ row.actionId = actionId ∧ row.keyMode = some requester
  | .remote (.acompletion request) => ∃ row key, insight.At row key ∧ Fits settings row key request
  | _ => True

def insightAllowed (settings : Settings) (insight : Insight) (op : Op) : Prop :=
  insight = .lost ∨ (insight = .outside ∧ outsideOp op) ∨
    (insight ≠ .outside ∧ attendedOp listed settings insight op)

noncomputable def insights (settings : Settings) : Discipline Op Op.Ans Exn where
  Ghost := Insight
  allowed := insightAllowed listed settings
  next := insightNext listed

/-- The discipline of the sync's coroutines, whose stages and open-pr calls are included. -/
noncomputable abbrev syncRun (settings : Settings) : Discipline Op Op.Ans Exn :=
  (insights listed settings).within programOp

end Discipline

end Bugalizer
