import Bugalizer.Scenario
import Bugalizer.Sync.Spending

/-!
# Paid work is started once

Sonicgrid shows an action until it is finished, and a restart forgets every task. An action that is
not to be retried still enters `propose_fix` once in its life, and asks for its key once. The
actions that spend money are recorded as such.
-/

namespace Bugalizer

set_option autoImplicit false

open Coroutine Store

/-- The action runs on its requester's key, or its fix on a provider that is paid. -/
def TriageAction.Costly (row : TriageAction) : Prop :=
  row.keyMode = some requester ∨
    ∃ pin, row.pinnedLlm.bind PinnedLlm.fix = some pin ∧ isPaid pin.1 = true

/-- An `analyze_cloud` that was authorized. -/
def TriageAction.Cloud (row : TriageAction) : Prop :=
  row.kind = .analyzeCloud ∧ row.pinnedLlm.isSome = true

/-- The row of the action, when it is one of these, says that it is not to be retried. -/
def RecordedOnce (once : TriageAction → Prop) (actionId : String) (ledger : TriageActions) : Prop :=
  ∀ row, ledger.get actionId = some row → once row → row.noAutoRetry = true

/-- A kind of row that an authorization of the listed actions records as not to be retried. -/
structure Recording (listed : ListedAction → Prop) (actionId : String)
    (once : TriageAction → Prop) : Prop where
  terms : ∀ one other : TriageAction, one.terms = other.terms → once one → once other
  unpinned : ∀ row : TriageAction, row.pinnedLlm = none → row.keyMode = none → ¬once row
  pins : ∀ settings action auth now row, listed action → action.id = actionId →
    Grants settings action.kind auth → once ((intentFields auth now).write row) →
      auth.noAutoRetry = true

theorem costly_recorded (actionId : String) :
    Recording (fun _ => True) actionId TriageAction.Costly where
  terms one other same costly := by
    have pinned : one.pinnedLlm = other.pinnedLlm := congrArg Terms.pinnedLlm same
    have mode : one.keyMode = other.keyMode := congrArg Terms.keyMode same
    unfold TriageAction.Costly
    rw [← pinned, ← mode]
    exact costly
  unpinned row unpinned keyless costly := by
    obtain key | ⟨pin, pinned, -⟩ := costly
    · rw [keyless] at key
      cases key
    · rw [unpinned] at pinned
      cases pinned
  pins settings action auth now row _ _ grants costly := by
    obtain key | ⟨pin, pinned, expensive⟩ := costly
    · exact (grants.keyed key).1
    · have pinned : auth.pinned.fix = some pin := pinned
      cases paid : action.kind.paid with
      | true =>
          apply grants.once paid
          rw [pinned]
          exact .inr expensive
      | false =>
          rw [(grants.unpaid paid).1] at pinned
          cases pinned

/-- The action is listed as an `analyze_cloud`. -/
def listedAsCloud (actionId : String) (action : ListedAction) : Prop :=
  action.id = actionId → action.kind = .analyzeCloud

theorem cloud_recorded (actionId : String) :
    Recording (listedAsCloud actionId) actionId TriageAction.Cloud where
  terms one other same cloud := by
    have pinned : one.pinnedLlm = other.pinnedLlm := congrArg Terms.pinnedLlm same
    have kind : one.kind = other.kind := congrArg Terms.kind same
    unfold TriageAction.Cloud
    rw [← pinned, ← kind]
    exact cloud
  unpinned row unpinned _ cloud := by
    have pinned := cloud.2
    rw [unpinned] at pinned
    cases pinned
  pins settings action auth now row lists named grants _ := by
    have cloud := lists named
    apply grants.once
    · rw [cloud]
      rfl
    · exact .inl cloud

section Recording

variable {listed : ListedAction → Prop} {actionId : String} {once : TriageAction → Prop}

theorem recorded_moves {op : Op} {answer : Except Exn op.Ans} {before after : TriageActions}
    (recording : Recording listed actionId once) (recorded : RecordedOnce once actionId before)
    (moves : RowMoves actionId op answer (before.get actionId) (after.get actionId))
    (pins : ∀ auth now, op = .ledger (.update actionId (some .reserved) (intentFields auth now)) →
      ∃ settings action, listed action ∧ action.id = actionId ∧ Grants settings action.kind auth) :
    RecordedOnce once actionId after := by
  intro row found counts
  have terms : ∀ earlier, before.get actionId = some earlier → row.terms = earlier.terms →
      row.noAutoRetry = true := by
    intro earlier was equal
    have same : row.noAutoRetry = earlier.noAutoRetry := congrArg Terms.noAutoRetry equal
    rw [same]
    exact recorded earlier was (recording.terms row earlier equal counts)
  rw [found] at moves
  generalize was : before.get actionId = earlier at moves terms
  cases moves with
  | same _ _ earlier _ phase equal => exact terms earlier rfl equal
  | reserved projectId reportId kind params user now =>
      exact absurd counts (recording.unpinned _ rfl rfl)
  | pinned auth now earlier phase =>
      obtain ⟨settings, action, lists, named, grants⟩ := pins auth now rfl
      exact recording.pins settings action auth now earlier lists named grants counts
  | dispatched now earlier open' => exact terms earlier rfl rfl
  | advanced _ _ earlier _ equal phase => exact terms earlier rfl equal

theorem recorded_step {before after : AttendanceShadow listed} {event : Ev}
    (recording : Recording listed actionId once) (attended : Attended before)
    (recorded : RecordedOnce once actionId before.world.db.ledger)
    (moves : ShadowMoves (insightConduct listed) before event after) :
    RecordedOnce once actionId after.world.db.ledger := by
  cases moves with
  | answered id actor op env answer world found running permitted ready pending ran =>
      have executed : op.exec id before.fresh env before.world = some (answer, world) := ran
      obtain ⟨program, allowed⟩ := allowed_attends permitted
      have attends := attended.attends id actor found
      have resumed : RecordedOnce once actionId world.db.ledger := by
        apply recorded_moves recording recorded
          (row_moves actionId program (op_ledger (exec_moves executed)))
        intro auth now same
        subst same
        have inside : insightOf actor ≠ .outside := by
          intro outside
          rw [outside] at allowed
          cases outside_allowed allowed
        obtain ⟨row, granted, later, judged, keyed, fields⟩ :=
          inside_allowed attends.sound.sane inside allowed
        obtain ⟨action, lists, named, grants⟩ := attends.granted row granted judged
        rw [intent_fields_inj fields]
        exact ⟨_, action, lists, named.trans keyed, grants⟩
      cases op with
      | createTask created job => exact resumed
      | _ => exact resumed
  | _ => exact recorded

theorem run_recorded {world : World} {events : List Ev} {last : Sys}
    (recording : Recording listed actionId once) (run : Run bugalizer (State.boot world) events last)
    (lists : ∀ event ∈ events, listsOnly listed event)
    (first : RecordedOnce once actionId world.db.ledger) :
    RecordedOnce once actionId last.world.db.ledger := by
  obtain ⟨shadow, shades, -, recorded⟩ := @run_attended listed _ _ _ run lists
    (fun _ shadow => RecordedOnce once actionId shadow.world.db.ledger) first
    (fun _ _ _ _ _ _ _ attended held _ moves => recorded_step recording attended held moves)
  rw [shades.world]
  exact recorded

end Recording

/-- In every run, with crashes at any time: an action that is recorded as not to be retried enters
`propose_fix` at most once, and asks for the requester's key at most once. So recorded is every
action that has the requester's key or a paid provider, and every authorized `analyze_cloud`, as
long as sonicgrid lists it as one. -/
theorem paid_work_once {world : World} {events : List Ev} {last : Sys}
    (run : Run bugalizer (State.boot world) events last) {actionId : String} {row : TriageAction}
    (found : last.world.db.ledger.get actionId = some row) :
    (row.noAutoRetry = true →
      timesSpent .proposal actionId events ≤ 1 ∧ timesSpent .key actionId events ≤ 1) ∧
    (RecordedOnce TriageAction.Costly actionId world.db.ledger → row.Costly →
      row.noAutoRetry = true) ∧
    (RecordedOnce TriageAction.Cloud actionId world.db.ledger →
      (∀ event ∈ events, listsOnly (listedAsCloud actionId) event) → row.Cloud →
        row.noAutoRetry = true) := by
  have accounted (spending : Spending) : row.noAutoRetry = true →
      timesSpent spending actionId events ≤ 1 := by
    intro once
    obtain ⟨shadow, shades, attended, held⟩ := @run_attended (fun _ => True) _ _ _ run
      (fun event _ => lists_anything event) (Accounted spending actionId)
      (accounted_boot spending actionId world)
      (fun _ _ _ _ _ _ _ attended held _ moves => accounted_step attended held moves)
    by_cases spent : timesSpent spending actionId events = 0
    · omega
    · obtain ⟨terms, started⟩ := held.begun spent
      have same : terms.noAutoRetry = true := by
        obtain ⟨stored, there, past, rfl⟩ := started
        rw [← shades.world, found] at there
        cases there
        exact once
      exact (held.once terms started same).once
  refine ⟨?_, ?_, ?_⟩
  · intro once
    exact ⟨accounted .proposal once, accounted .key once⟩
  · intro first costly
    exact run_recorded (costly_recorded actionId) run (fun event _ => lists_anything event) first row
      found costly
  · intro first lists cloud
    exact run_recorded (cloud_recorded actionId) run lists first row found cloud

namespace Scenario

/-- The report was localized at the project's HEAD. -/
def analyzed : Database :=
  { database .triaged .empty with
    stages := ⟨⟨[localized 0], List.nodup_singleton _⟩, .empty, []⟩ }

def ownKeys : Settings := { settings with sonicgridUserKeys := true }

/-- An `analyze_cloud` of the report with the requester's model, as it is listed. -/
def cloudListed : Json :=
  .obj [("id", .str "a"), ("bugId", .str "bug"), ("kind", .str "analyze_cloud"),
    ("state", .str "pending"), ("requestedBy", .null),
    ("params", .obj [("llm", .obj [("provider", .str "anthropic"), ("model", .str "claude")])])]

def released (clock : Nat) : (op : Op) → op.Env
  | .remote (.credential ..) =>
      .ok ⟨200, some (.obj [("provider", .str "anthropic"), ("apiKey", .str "key")])⟩
  | op => grid clock cloudListed 200 op

/-- A tick starts the action. The process stops when the action's task is in `propose_fix`, and the
tick after the restart finds the row of the action dispatched. -/
def cutOff : List (Choice Op Op.Env Job Boot) :=
  .start (.syncProject "p" false) :: steps 0 (released 5) 39 ++ steps 1 (released 6) 12 ++
    .restart ⟨ownKeys, 7, fun _ => "id"⟩ :: .start (.syncProject "p" false) ::
      steps 2 (released 9) 33

end Scenario

def cutOffScript : Script bugalizer (State.boot (World.initial Scenario.analyzed Scenario.ownKeys)) :=
  ⟨Scenario.cutOff, by decide +kernel⟩

/-- The key is fetched and `propose_fix` entered before the process stops, and never again. -/
theorem paid_work_once_behind_a_crash :
    ∃ row, cutOffScript.last.world.db.ledger.get "a" = some row ∧ row.phase = .finished ∧
      (row.noAutoRetry = true ∧ timesSpent .proposal "a" cutOffScript.events ≤ 1 ∧
        timesSpent .key "a" cutOffScript.events ≤ 1) ∧
      timesSpent .proposal "a" cutOffScript.events = 1 ∧
        timesSpent .key "a" cutOffScript.events = 1 := by
  have finished : (cutOffScript.last.world.db.ledger.get "a").any (fun row =>
      row.phase == .finished && row.keyMode == some requester) = true := by decide +kernel
  obtain ⟨row, found, shown⟩ := (Option.any_eq_true _ _).mp finished
  simp only [Bool.and_eq_true, beq_iff_eq] at shown
  obtain ⟨spends, costly, -⟩ := paid_work_once cutOffScript.run found
  have once : row.noAutoRetry = true := by
    apply costly
    · intro first stored
      cases stored
    · exact .inl shown.2
  refine ⟨row, found, shown.1, ⟨once, spends once⟩, ?_, ?_⟩
  · decide +kernel
  · decide +kernel

end Bugalizer
