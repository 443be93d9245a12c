import Bugalizer.Scenario
import Bugalizer.Sync.Footprints
import Bugalizer.Sync.Slots

/-!
# Every job tends its slot

A tick tends a slot from `_try_hold` on. What it runs in between touches no slot, and each
way out of it, an exception included, gives the slot back or has handed it to a task.
-/

namespace Bugalizer

set_option autoImplicit false

open Coroutine Program

/-- The coroutine tends this slot, if any, and was listed these actions. -/
structure Slots.At (id : Nat) (tending : Option String) (known : List ListedAction) (slots : Slots) :
    Prop where
  tends : slots.custody.tending id = tending
  listed : ∀ action ∈ known, action ∈ slots.custody.listed id

def Slots.Taken (actionId : String) (slots : Slots) : Prop := (slots.holds.lookup actionId).isSome

section Rules

variable {self : Nat} {job : Job} {op : Op} {before after view : Slots} {tending : Option String}
variable {known : List ListedAction} {Result : Type} {body : Py Result} {rules : SlotRules}

theorem at_between (here : before.At self tending known)
    (between : (slotPact rules).Between self job op before after) : after.At self tending known := by
  have apart : before.apart self after := by
    unfold Pact.Between at between
    split at between
    · exact between
    · exact between.1
  exact ⟨apart.1.trans here.tends, by rw [apart.2.2.1]; exact here.listed⟩

theorem at_still {answer : Except Exn op.Ans} (here : before.At self tending known)
    (still : op.slots = false) (step : before.Answered self job op answer after) :
    after.At self tending known := by
  have same := @Custody.after_still before.custody self self op answer still
  refine ⟨?_, fun action member => ?_⟩
  · rw [step.custody, same.1]
    exact here.tends
  · rw [step.custody]
    exact before.custody.after_listed (here.listed action member)

theorem detached_asks (detached : job.detached = true) : SlotAsker self job before op := by
  obtain ⟨loop, aimless⟩ := Bool.and_eq_true_iff.mp detached
  refine ⟨fun threaded => ?_, fun works => ?_⟩
  · rw [threaded] at loop
    cases loop
  · rw [Option.isNone_iff_eq_none.mp aimless] at works
    cases works

theorem still_asks (asker : SlotAsker self job before op) (still : op.slots = false) :
    slotAsks self job before op := by
  refine ⟨asker, ?_⟩
  split <;> first | cases still | trivial

theorem still_at (detached : job.detached = true) (only : body.Only fun op => op.slots = false)
    (here : view.At self tending known) :
    (slotPact rules).Sat self job body view (fun _ => Slots.At self tending known)
      (fun _ => Slots.At self tending known) := by
  refine Pact.only_sat only (fun op reached still here before between held =>
    ⟨still_asks (detached_asks detached) still, fun answer after effect _ => ?_⟩) here
  have kept := at_still (at_between here between) still (slots_answered effect)
  cases answer <;> exact kept

theorem slotless {realms : List Realm} {op : Op} (here : within realms op)
    (none' : Realm.slots ∉ realms ∧ Realm.strays ∉ realms) : op.slots = false := by
  have member := List.mem_of_elem_eq_true here
  have realm : op.realm ≠ .slots ∧ op.realm ≠ .strays :=
    ⟨fun same => none'.1 (same ▸ member), fun same => none'.2 (same ▸ member)⟩
  cases op with
  | memory call => cases call <;> first | rfl | exact absurd rfl realm.1
  | createTask id job => cases job <;> first | exact absurd rfl realm.1 | exact absurd rfl realm.2
  | _ => rfl

theorem within_at {realms : List Realm} (detached : job.detached = true)
    (only : body.Only (within realms)) (none' : Realm.slots ∉ realms ∧ Realm.strays ∉ realms)
    (here : view.At self tending known) :
    (slotPact rules).Sat self job body view (fun _ => Slots.At self tending known)
      (fun _ => Slots.At self tending known) :=
  still_at detached (only.mono fun _ here => slotless here none') here

/-- The loop is kept, so the slots are as they were. -/
theorem holds_between (loop : job.threaded = false) (keeps : op.suspends = false)
    (between : (slotPact rules).Between self job op before after) : after.holds = before.holds := by
  unfold Pact.Between at between
  rw [if_neg (by simp [bugalizer, loop, keeps])] at between
  exact between.2.2

theorem error_excluded {call : MemoryCall} {error : Exn}
    (effect : (slotPact rules).Effect self job before (.memory call) (.error error) after) : False := by
  obtain ⟨_, _, _, _, _, moves, _⟩ := effect
  cases moves with
  | answered self task op rest env answer world found running asks ready ran => cases ran

variable {projectId actionId reportId : String} {manual llm : Bool}

theorem try_hold_at (here : view.At self none known) :
    (slotPact rules).Sat self (.syncProject projectId manual) (tryHold actionId reportId llm) view
      (fun got reached => if got = true then
        reached.At self (some actionId) known ∧ reached.Taken actionId ∧
          (rules.orderly → view.ledger.get actionId = none →
            ∀ action ∈ known, action.id = actionId → action.requestedBy.Gettable)
        else reached.At self none known) (fun _ _ => False) := by
  refine Pact.sat_perform fun before between held => ?_
  have here := at_between here between
  have same : before.ledger = view.ledger := between.2.1
  refine ⟨⟨detached_asks rfl, ⟨projectId, manual, rfl⟩, here.tends⟩, fun answer after effect _ => ?_⟩
  cases answer with
  | error error => exact error_excluded effect
  | ok got =>
      have step := slots_answered effect
      have listed : ∀ action ∈ known, action ∈ after.custody.listed self := by
        intro action member
        rw [step.custody]
        exact before.custody.after_listed (here.listed action member)
      cases got with
      | false =>
          dsimp only
          rw [if_neg Bool.false_ne_true]
          refine ⟨?_, listed⟩
          rw [step.custody]
          exact here.tends
      | true =>
          dsimp only
          rw [if_pos rfl]
          refine ⟨⟨?_, listed⟩, ?_, fun orderly missing => ?_⟩
          · rw [step.custody]
            exact Function.update_self ..
          · obtain ⟨limit, moved⟩ := step.holds
            unfold Slots.Taken
            generalize after.holds = remaining at moved
            cases moved with
            | same op answer still => cases still
            | present _ _ _ held => exact held
            | taken _ _ _ free alone room =>
                rw [List.lookup_append, free]
                simp [List.lookup]
          · obtain ⟨past, state, next, admitted, _, _, rfl, _⟩ := effect
            intro action member names
            rw [← same] at missing
            exact admitted.1 orderly missing action (here.listed action member) names

theorem release_at {actionId : String} {tending : Option String}
    (here : view.At self tending known)
    (own : tending = some actionId ∨ tending = none ∧ view.Spoken actionId) :
    (slotPact rules).Sat self (.syncProject projectId manual) (release actionId) view
      (fun _ reached => reached.At self none known ∧ reached.Spoken actionId) (fun _ _ => False) := by
  refine Pact.sat_perform fun before between held => ?_
  have here := at_between here between
  have spoken : view.Spoken actionId → before.Spoken actionId := by
    intro spoken hold member
    rw [holds_between rfl rfl between] at member
    exact spoken hold member
  refine ⟨⟨detached_asks rfl, .inr ⟨rfl, ?_⟩⟩, fun answer after effect _ => ?_⟩
  · rw [here.tends]
    exact own.imp id fun idle => ⟨idle.1, spoken idle.2⟩
  cases answer with
  | error error => exact error_excluded effect
  | ok done =>
      have step := slots_answered effect
      refine ⟨⟨?_, fun action member => ?_⟩, fun hold member => ?_⟩
      · rw [step.custody]
        exact Function.update_self ..
      · rw [step.custody]
        exact before.custody.after_listed (here.listed action member)
      · obtain ⟨limit, moved⟩ := step.holds
        generalize after.holds = remaining at moved member
        cases moved with
        | same op answer still => cases still
        | kept _ stays =>
            obtain ⟨task, given, -⟩ := stays hold (member_lookup held.distinct member)
            rw [given]
            simp
        | popped _ idle => exact absurd rfl (mem_without.mp member).2

theorem task_running_at {tending : Option String} (here : view.At self tending known)
    (own : tending = some actionId ∨ tending = none) :
    (slotPact rules).Sat self (.syncProject projectId manual) (taskRunning actionId) view
      (fun running reached => reached.At self (if running = true then none else tending) known ∧
        (view.Spoken actionId → reached.Spoken actionId)) (fun _ _ => False) := by
  refine Pact.sat_perform fun before between held => ?_
  have here := at_between here between
  have slots := holds_between rfl rfl between
  refine ⟨⟨detached_asks rfl, ?_⟩, fun answer after effect _ => ?_⟩
  · show before.custody.tending self = some actionId ∨ before.custody.tending self = none
    rw [here.tends]
    exact own
  cases answer with
  | error error => exact error_excluded effect
  | ok running =>
      have step := slots_answered effect
      have same : after.holds = before.holds := by
        obtain ⟨limit, moved⟩ := step.holds
        generalize after.holds = remaining at moved
        cases moved <;> rfl
      refine ⟨⟨?_, fun action member => ?_⟩, fun spoken hold member => ?_⟩
      · rw [step.custody]
        cases running with
        | true => exact Function.update_self ..
        | false => exact here.tends
      · rw [step.custody]
        exact before.custody.after_listed (here.listed action member)
      · rw [same, slots] at member
        exact spoken hold member

/-- A task is started on a slot that is there; on one that is not, the tick still tends it. -/
theorem create_task_at {spawned : Job} (here : view.At self (some actionId) known)
    (works : spawned.action = some actionId) :
    (slotPact rules).Sat self (.syncProject projectId manual) (createTask actionId spawned) view
      (fun _ reached => reached.At self none known ∧ reached.Spoken actionId)
      (fun _ reached => ¬view.Taken actionId ∧ reached.At self (some actionId) known) := by
  refine Pact.sat_perform fun before between held => ?_
  have same : before.holds = view.holds := holds_between rfl rfl between
  have here := at_between here between
  refine ⟨⟨detached_asks rfl, here.tends, works⟩, fun answer after effect _ => ?_⟩
  have step := slots_answered effect
  have listed : ∀ action ∈ known, action ∈ after.custody.listed self := by
    intro action member
    rw [step.custody]
    exact before.custody.after_listed (here.listed action member)
  cases answer with
  | ok done =>
      refine ⟨⟨?_, listed⟩, fun hold member => ?_⟩
      · rw [step.custody]
        exact Function.update_self ..
      · obtain ⟨limit, moved⟩ := step.holds
        generalize after.holds = remaining at moved member
        cases moved with
        | same op answer still => cases still
        | attached _ _ taken =>
            obtain ⟨earlier, -, rfl⟩ := mem_given.mp member
            rw [if_pos rfl]
            simp
  | error error =>
      refine ⟨fun taken => ?_, ?_, listed⟩
      · obtain ⟨limit, moved⟩ := step.holds
        generalize after.holds = remaining at moved
        cases moved with
        | same op answer still => cases still
        | unheld _ _ _ free =>
            unfold Slots.Taken at taken
            rw [← same, free] at taken
            cases taken
      · rw [step.custody]
        exact here.tends

end Rules

/-- The coroutine tends the action's slot, or none any more, and leaves none of the action to a tick. -/
def Slots.Near (id : Nat) (actionId : String) (known : List ListedAction) (slots : Slots) : Prop :=
  slots.At id (some actionId) known ∨ slots.At id none known ∧ slots.Spoken actionId

/-- The coroutine tends no slot, or in a run that is not orderly some exception has left it with one. -/
def Slots.Out (rules : SlotRules) (id : Nat) (slots : Slots) : Prop :=
  ∃ tending, slots.At id tending [] ∧ (rules.orderly → tending = none)

section Parts

variable {rules : SlotRules} {self : Nat} {view : Slots} {known : List ListedAction}
variable {projectId actionId : String} {manual : Bool} {settings : Settings} {endpoint : Endpoint} {project : Project}
variable {Result : Type} {body : Py Result}

theorem near_release (near : view.Near self actionId known) :
    (slotPact rules).Sat self (.syncProject projectId manual) (release actionId) view
      (fun _ reached => reached.At self none known ∧ reached.Spoken actionId) (fun _ _ => False) :=
  near.elim (fun here => release_at here (.inl rfl)) fun near => release_at near.1 (.inr ⟨rfl, near.2⟩)

theorem near_release_unless (near : view.Near self actionId known) :
    (slotPact rules).Sat self (.syncProject projectId manual) (releaseUnlessRunning actionId) view
      (fun _ reached => reached.At self none known) (fun _ _ => False) := by
  have asked : (slotPact rules).Sat self (.syncProject projectId manual) (taskRunning actionId) view
      (fun running reached => if running = true then reached.At self none known
        else reached.Near self actionId known) (fun _ _ => False) := by
    rcases near with here | ⟨here, spoken⟩
    · refine (task_running_at here (.inl rfl)).mono (fun running reached after => ?_) fun _ _ no => no
      cases running with
      | true => exact after.1
      | false => exact .inl after.1
    · refine (task_running_at here (.inr rfl)).mono (fun running reached after => ?_) fun _ _ no => no
      cases running with
      | true => exact after.1
      | false => exact .inr ⟨after.1, after.2 spoken⟩
  refine asked.andThen (fun running reached after => ?_) fun _ _ no => no
  cases running with
  | true => exact after
  | false => exact (near_release after).mono (fun _ _ after => after.1) fun _ _ no => no

/-- Whatever `body` does near a slot, the slot is given back when it is over. -/
theorem near_ensuring {body cleanup : Py Unit} {after : Slots → Prop}
    (near : (slotPact rules).Sat self (.syncProject projectId manual) body view
      (fun _ => Slots.Near self actionId known) (fun _ => Slots.Near self actionId known))
    (releases : ∀ reached : Slots, reached.Near self actionId known →
      (slotPact rules).Sat self (.syncProject projectId manual) cleanup reached
        (fun _ => after) (fun _ _ => False)) :
    (slotPact rules).Sat self (.syncProject projectId manual) (body.ensuring cleanup) view
      (fun _ => after) (fun _ => after) :=
  near.ensured (fun _ reached near => (releases reached near).mono (fun _ _ here => here)
    fun _ _ no => no.elim) fun _ reached near => (releases reached near).mono (fun _ _ here => here)
    fun _ _ no => no.elim

theorem run_inline_at (row : TriageAction) (here : view.At self (some actionId) known) :
    (slotPact rules).Sat self (.syncProject projectId manual) ((runInline row).ensuring (release actionId)) view
      (fun _ reached => reached.At self none known ∧ reached.Spoken actionId)
      (fun _ reached => reached.At self none known ∧ reached.Spoken actionId) :=
  near_ensuring ((within_at rfl (run_inline_within row) (by decide) here).mono (fun _ _ => .inl) fun _ _ => .inl)
    fun _ => near_release

theorem create_near {spawned : Job} (works : spawned.action = some actionId)
    (here : view.At self (some actionId) known) :
    (slotPact rules).Sat self (.syncProject projectId manual) (createTask actionId spawned) view
      (fun _ => Slots.Near self actionId known) (fun _ => Slots.Near self actionId known) :=
  (create_task_at here works).mono (fun _ _ here => .inr here) fun _ _ failed => .inl failed.2

theorem dispatch_near (row : TriageAction) (phase : LedgerPhase)
    (here : view.At self (some actionId) known) :
    (slotPact rules).Sat self (.syncProject projectId manual) (dispatch actionId row phase) view
      (fun _ => Slots.Near self actionId known) (fun _ => Slots.Near self actionId known) := by
  refine (within_at rfl (only_ask rfl : clock.Only (within reads)) (by decide) here).andThen
    (fun now _ here => ?_) fun _ _ => .inl
  refine (within_at rfl (only_ask rfl : (triageActionUpdate actionId (some phase)
    (dispatchFields now)).Only (within [.ledger])) (by decide) here).andThen
    (fun moved _ here => ?_) fun _ _ => .inl
  split
  · exact (release_at here (.inl rfl)).mono (fun _ _ => .inr) fun _ _ no => no.elim
  split
  · exact create_near rfl here
  split
  · exact create_near rfl here
  · exact (run_inline_at row here).mono (fun _ _ => .inr) fun _ _ => .inr

theorem dispatch_authorized_near (here : view.At self (some actionId) known) :
    (slotPact rules).Sat self (.syncProject projectId manual) (dispatchAuthorized actionId) view
      (fun _ => Slots.Near self actionId known) (fun _ => Slots.Near self actionId known) := by
  refine (within_at rfl (only_ask rfl : (triageActionGet actionId).Only (within [.row]))
    (by decide) here).andThen (fun found _ here => ?_) fun _ _ => .inl
  cases found with
  | none => exact .inl here
  | some found => exact dispatch_near _ _ here

theorem authorize_reserved_near (report : Report) (action : ListedAction)
    (here : view.At self (some action.id) known) :
    (slotPact rules).Sat self (.syncProject projectId manual)
      (authorizeReserved settings project report action) view
      (fun _ => Slots.Near self action.id known) (fun _ => Slots.Near self action.id known) := by
  refine (within_at rfl (authorize_within project report action) (by decide) here).andThen
    (fun auth _ here => ?_) fun _ _ => .inl
  split
  · refine (within_at rfl (only_ask rfl : (note (.authorized action.id none)).Only
      (within [.marks])) (by decide) here).andThen (fun _ _ here => ?_) fun _ _ => .inl
    refine (within_at rfl (finish_within _ _ _) (by decide) here).andThen (fun _ _ here => ?_)
      fun _ _ => .inl
    exact .inl here
  · refine (within_at rfl (only_ask rfl : (note (.authorized action.id _)).Only
      (within [.marks])) (by decide) here).andThen
      (fun _ _ here => ?_) fun _ _ => .inl
    refine (within_at rfl (only_ask rfl : clock.Only (within reads)) (by decide) here).andThen
      (fun now _ here => ?_) fun _ _ => .inl
    refine (within_at rfl (only_ask rfl : (triageActionUpdate action.id (some .reserved) _).Only
      (within [.ledger])) (by decide) here).andThen (fun moved _ here => ?_) fun _ _ => .inl
    split
    · exact dispatch_authorized_near here
    · exact .inl here

theorem claim_and_start_at (action : ListedAction) (here : view.At self (some action.id) known) :
    (slotPact rules).Sat self (.syncProject projectId manual)
      (claimAndStart settings endpoint project action) view
      (fun _ => Slots.At self none known) (fun _ => Slots.At self none known) := by
  refine near_ensuring ?_ fun _ => near_release_unless
  refine (within_at rfl (claim_within _ _) (by decide) here).andThen
    (fun answer _ here => ?_) fun _ _ => .inl
  obtain ⟨status, body⟩ := answer
  dsimp only
  split
  · refine (within_at rfl (only_ask rfl : (ask (.ledger (.deleteReserved action.id))).Only
      (within [.ledger])) (by decide) here).andThen (fun _ _ here => ?_) fun _ _ => .inl
    exact .inl here
  split
  swap
  · exact .inl here
  refine (within_at rfl (only_ask rfl : (triageActionGet action.id).Only (within [.row]))
    (by decide) here).andThen (fun found _ here => ?_) fun _ _ => .inl
  cases found with
  | none => exact .inl here
  | some found =>
      dsimp only
      refine (within_at rfl (report_get_within _) (by decide) here).andThen
        (fun report _ here => ?_) fun _ _ => .inl
      cases report with
      | none => exact .inl here
      | some report => exact authorize_reserved_near _ action here

/-- A slot just taken, and its task started at once. -/
theorem spawn_pr_at (taken : view.Taken actionId) (here : view.At self (some actionId) known) :
    (slotPact rules).Sat self (.syncProject projectId manual) (spawnPr actionId) view
      (fun _ => Slots.At self none known) (fun _ => Slots.At self none known) :=
  (create_task_at here rfl).mono (fun _ _ after => after.1) fun _ _ failed => absurd taken failed.1

/-- What follows `_try_hold`, on both answers. -/
theorem held_at {reportId : String} {llm : Bool} {rest : Bool → Py Unit} (here : view.At self none known)
    (got : ∀ reached : Slots, reached.At self (some actionId) known → reached.Taken actionId →
      (slotPact rules).Sat self (.syncProject projectId manual) (rest true) reached
        (fun _ => Slots.At self none known) (fun _ => Slots.At self none known))
    (missed : ∀ reached : Slots, reached.At self none known →
      (slotPact rules).Sat self (.syncProject projectId manual) (rest false) reached
        (fun _ => Slots.At self none known) (fun _ => Slots.At self none known)) :
    (slotPact rules).Sat self (.syncProject projectId manual) (tryHold actionId reportId llm >>= rest) view
      (fun _ => Slots.At self none known) (fun _ => Slots.At self none known) := by
  refine (try_hold_at here).andThen (fun held reached after => ?_) fun _ _ no => no.elim
  cases held with
  | true => exact got reached after.1 after.2.1
  | false => exact missed reached after

theorem apply_evidence_at (row : TriageAction) (found : Bugalizer.Result) (here : view.At self none known) :
    (slotPact rules).Sat self (.syncProject projectId manual) (applyEvidence row found) view
      (fun _ => Slots.At self none known) (fun _ => Slots.At self none known) := by
  unfold applyEvidence
  split
  · refine (within_at rfl (only_ask rfl : (checkpointFix _ _ _).Only (within [.ledger]))
      (by decide) here).andThen (fun checkpointed _ here => ?_) fun _ _ here => here
    split
    · exact held_at here (fun _ here taken => spawn_pr_at taken here) fun _ here => here
    · exact here
  · exact (within_at rfl (finish_within _ _ _) (by decide) here).andThen (fun _ _ here => here)
      fun _ _ here => here

theorem finishes_at (actionId : String) (result : Bugalizer.Result) (expected : Option LedgerPhase)
    (here : view.At self none known) :
    (slotPact rules).Sat self (.syncProject projectId manual) (do
        let _ ← finish actionId result expected : Py Unit) view
      (fun _ => Slots.At self none known) (fun _ => Slots.At self none known) :=
  (within_at rfl (finish_within _ _ _) (by decide) here).andThen (fun _ _ here => here)
    fun _ _ here => here

theorem recover_dispatch_at (row : TriageAction) (here : view.At self none known) :
    (slotPact rules).Sat self (.syncProject projectId manual) (recoverDispatch settings row) view
      (fun _ => Slots.At self none known) (fun _ => Slots.At self none known) := by
  refine (within_at rfl (evidence_within row) (by decide) here).andThen (fun found _ here => ?_)
    fun _ _ here => here
  cases found with
  | some found => exact apply_evidence_at row found here
  | none =>
      have rest : ∀ (held : Bool) (reached : Slots), reached.At self none known →
          (slotPact rules).Sat self (.syncProject projectId manual) (do
            if held then pure ()
            else if row.phase = .intent && settings.sonicgridUserKeys && row.kind.paid &&
                row.keyMode != some requester then do
              let _ ← finish row.actionId (stepResult row.kind .refused legacyRefusal) (some row.phase)
            else if row.noAutoRetry then do
              let _ ← finish row.actionId (unconfirmedFailure row.kind) (some row.phase)
            else do
              let slot ← tryHold row.actionId row.reportId row.kind.llm
              if slot then
                (dispatch row.actionId row row.phase).ensuring (releaseUnlessRunning row.actionId)
              else pure () : Py Unit) reached
            (fun _ => Slots.At self none known) (fun _ => Slots.At self none known) := by
        intro held reached here
        split
        · exact here
        split
        · exact finishes_at _ _ _ here
        split
        · exact finishes_at _ _ _ here
        · refine held_at here (fun _ here taken => ?_) fun _ here => here
          exact near_ensuring (dispatch_near row row.phase here) fun _ => near_release_unless
      dsimp only
      split
      · exact (within_at rfl (stage_claim_within _) (by decide) here).andThen
          (fun held reached here => rest held reached here) fun _ _ here => here
      · exact rest false _ here

theorem recover_inline_at (row : TriageAction) (here : view.At self none known) :
    (slotPact rules).Sat self (.syncProject projectId manual) (recoverInline row) view
      (fun _ => Slots.At self none known) (fun _ => Slots.At self none known) := by
  refine held_at here (fun _ here taken => ?_) fun _ here => here
  rw [if_pos rfl]
  split
  · exact spawn_pr_at taken here
  · exact (run_inline_at row here).mono (fun _ _ after => after.1) fun _ _ after => after.1

theorem recover_at (row : TriageAction) (here : view.At self none known) :
    (slotPact rules).Sat self (.syncProject projectId manual) (recover settings row) view
      (fun _ => Slots.At self none known) (fun _ => Slots.At self none known) := by
  refine (within_at rfl (timed_out_within row) (by decide) here).andThen (fun overdue _ here => ?_)
    fun _ _ here => here
  split
  · exact finishes_at _ _ _ here
  split
  · exact held_at here (fun _ here taken => spawn_pr_at taken here) fun _ here => here
  split
  · exact recover_inline_at row here
  split
  · exact recover_dispatch_at row here
  · exact here

/-- While the loop is kept and the ledger not written, the ledger is as it was. -/
theorem within_exact {realms : List Realm} (only : body.Only (within realms))
    (quiet : ∀ realm ∈ realms, realm = .look ∨ realm = .row ∨ realm = .tally)
    (here : view.At self none known) :
    (slotPact rules).Sat self (.syncProject projectId manual) body view
      (fun _ reached => reached.At self none known ∧ reached.ledger = view.ledger)
      (fun _ reached => reached.At self none known ∧ reached.ledger = view.ledger) := by
  refine Pact.only_sat only (fun op reached inside kept before between held => ?_) ⟨here, rfl⟩
  have realm := quiet _ (List.mem_of_elem_eq_true inside)
  have still : op.slots = false := by
    cases op with
    | memory call => cases call <;> first | rfl | simp [Op.realm] at realm
    | createTask id job => cases job <;> simp [Op.realm] at realm
    | _ => rfl
  have stays : op.suspends = false := by
    cases op with
    | remote asked =>
        exfalso
        cases asked with
        | advance endpoint actionId body => cases body <;> simp [Op.realm] at realm
        | _ => simp [Op.realm] at realm
    | acquire lock => cases lock <;> simp [Op.realm] at realm
    | _ => rfl
  refine ⟨still_asks (detached_asks rfl) still, fun answer after effect _ => ?_⟩
  have step := slots_answered effect
  have unwritten : after.ledger = before.ledger := by
    refine ledger_unwritten step.ledger ?_
    cases op with
    | ledger write => simp [Op.realm] at realm
    | joint write => cases write <;> simp [Op.realm] at realm
    | _ => rfl
  have same : before.ledger = reached.ledger := by
    unfold Pact.Between at between
    rw [if_neg (by simp [bugalizer, Job.threaded, stays])] at between
    exact between.2.1
  have kept' := at_still (at_between kept.1 between) still step
  have ledger := (unwritten.trans same).trans kept.2
  cases answer <;> exact ⟨kept', ledger⟩

theorem reserve_tended {actionId projectId' reportId : String} {kind : Kind} {params : Json}
    {user : Option String} (here : view.At self (some actionId) known) :
    (slotPact rules).Sat self (.syncProject projectId manual)
      (triageActionReserve actionId projectId' reportId kind params user) view
      (fun _ reached => reached.At self (some actionId) known)
      (fun _ reached => ¬rules.orderly ∧ reached.At self (some actionId) known) := by
  refine Pact.sat_perform fun before between held => ?_
  have here := at_between here between
  have asked : slotAsks self (.syncProject projectId manual) before
      (.ledger (.reserve actionId projectId' reportId kind params user)) := still_asks (detached_asks rfl) rfl
  refine ⟨asked, fun answer after effect _ => ?_⟩
  have reached := at_still here rfl (slots_answered effect)
  cases answer with
  | ok reserved => exact reached
  | error error =>
      obtain ⟨past, state, next, admitted, _⟩ := effect
      exact ⟨fun orderly => admitted.1 orderly, reached⟩

theorem at_out {tending : Option String} (here : view.At self tending known)
    (orderly : rules.orderly → tending = none) : view.Out rules self :=
  ⟨tending, ⟨here.tends, fun _ member => (List.not_mem_nil member).elim⟩, orderly⟩

theorem idle_out (here : view.At self none known) : view.Out rules self := at_out here fun _ => rfl

theorem stuck_out {tending : Option String} (stuck : ¬rules.orderly ∧ view.At self tending known) :
    view.Out rules self := at_out stuck.2 fun orderly => absurd orderly stuck.1

theorem out_within {job : Job} {realms : List Realm} (detached : job.detached = true)
    (only : body.Only (within realms)) (none' : Realm.slots ∉ realms ∧ Realm.strays ∉ realms)
    (out : view.Out rules self) :
    (slotPact rules).Sat self job body view (fun _ => Slots.Out rules self) (fun _ => Slots.Out rules self) := by
  obtain ⟨tending, here, orderly⟩ := out
  exact (within_at detached only none' here).mono (fun _ _ here => ⟨tending, here, orderly⟩)
    fun _ _ here => ⟨tending, here, orderly⟩

/-- A member is read off a `requestedBy`, or the tick is left with its slot. -/
theorem requester_read {value : Json} {name : String} {rest : Json → Py Unit}
    (named : rules.orderly → value.Gettable) (here : view.At self (some actionId) known)
    (goes : ∀ user, (slotPact rules).Sat self (.syncProject projectId manual) (rest user) view
      (fun _ => Slots.At self none known) (fun _ => Slots.Out rules self)) :
    (slotPact rules).Sat self (.syncProject projectId manual) (getField (objectOr value) name >>= rest) view
      (fun _ => Slots.At self none known) (fun _ => Slots.Out rules self) := by
  by_cases gettable : value.Gettable
  · rw [gettable_get gettable, bind_eq, done_bind]
    exact goes _
  · have stuck : view.Out rules self := stuck_out ⟨fun orderly => gettable (named orderly), here⟩
    unfold getField
    unfold Json.Gettable at gettable
    cases read : objectOr value with
    | obj fields =>
        rw [read] at gettable
        exact absurd rfl gettable
    | _ => exact stuck

theorem handle_new_at (action : ListedAction) (member : action ∈ known)
    (missing : view.ledger.get action.id = none) (here : view.At self none known) :
    (slotPact rules).Sat self (.syncProject projectId manual)
      (handleNew settings endpoint project action) view
      (fun _ => Slots.At self none known) (fun _ => Slots.Out rules self) := by
  refine (within_exact (only_ask rfl : (query (.reportByExternalId project.id action.bugId)).Only
    (within reads)) (by decide) here).andThen (fun report reached after => ?_)
      fun _ _ here => idle_out here.1
  obtain ⟨here, same⟩ := after
  cases report with
  | none => exact (within_at rfl (only_ask rfl : (ask (.memory (.addUnresolved project.id))).Only
      (within [.tally])) (by decide) here).mono (fun _ _ here => here) fun _ _ => idle_out
  | some report =>
      refine (try_hold_at here).andThen (fun held reached' after => ?_) fun _ _ no => no.elim
      cases held with
      | false => exact after
      | true =>
          obtain ⟨here, -, named⟩ := after
          rw [if_pos rfl]
          refine requester_read (fun orderly => named orderly (same ▸ missing) action member rfl) here fun user => ?_
          refine (reserve_tended here).andThen (fun reserved _ here => ?_) fun _ _ => stuck_out
          split
          · exact (claim_and_start_at action here).mono (fun _ _ here => here) fun _ _ => idle_out
          · exact (release_at here (.inl rfl)).mono (fun _ _ after => after.1) fun _ _ no => no.elim

theorem looked_up {job : Job} {before after : Slots} {found : Option {row : TriageAction // row.actionId = actionId}}
    (effect : (slotPact rules).Effect self job before (.query (.triageActionGet actionId)) (.ok found) after) :
    found = after.ledger.find actionId := by
  obtain ⟨past, state, next, _, _, moves, rfl, rfl⟩ := effect
  cases moves with
  | answered self task op rest env answer world found' running asks ready ran =>
      have moved : OpMoves self state.fresh state.world (.query (.triageActionGet actionId))
        (.ok found) world := exec_moves ran
      cases moved with
      | read q => rfl
      | outer op answer outer => cases outer

theorem look_up_at (here : view.At self none known) :
    (slotPact rules).Sat self (.syncProject projectId manual) (triageActionGet actionId) view
      (fun found reached => reached.At self none known ∧
        (found = none → reached.ledger.get actionId = none))
      (fun _ => Slots.At self none known) := by
  refine Pact.sat_perform fun before between held => ?_
  have here := at_between here between
  have asked : slotAsks self (.syncProject projectId manual) before
      (.query (.triageActionGet actionId)) := still_asks (detached_asks rfl) rfl
  refine ⟨asked, fun answer after effect _ => ?_⟩
  have here := at_still here rfl (slots_answered effect)
  cases answer with
  | error error => exact here
  | ok found =>
      refine ⟨here, ?_⟩
      rintro rfl
      exact Store.Table.find_eq_none.mp (looked_up effect).symm

theorem handle_running_at (row : TriageAction) (running : Bool) (here : view.At self none known) :
    (slotPact rules).Sat self (.syncProject projectId manual) (handleRunning settings row running) view
      (fun _ => Slots.At self none known) (fun _ => Slots.At self none known) := by
  unfold handleRunning
  split
  · refine (within_at rfl (timed_out_within row) (by decide) here).andThen (fun overdue _ here => ?_)
      fun _ _ here => here
    split
    · exact finishes_at _ _ _ here
    · exact here
  · exact here

theorem handle_at (action : ListedAction) (member : action ∈ known) (here : view.At self none known) :
    (slotPact rules).Sat self (.syncProject projectId manual) (handle settings endpoint project action) view
      (fun _ => Slots.At self none known) (fun _ => Slots.Out rules self) := by
  refine (look_up_at here).andThen (fun found reached after => ?_) fun _ _ here => idle_out here
  cases found with
  | none => exact handle_new_at action member (after.2 rfl) after.1
  | some found =>
      have here := after.1
      dsimp only
      refine (task_running_at here (.inr rfl)).andThen (fun running reached after => ?_) fun _ _ no => no.elim
      have here := after.1
      rw [ite_self] at here
      have handled : (slotPact rules).Sat self (.syncProject projectId manual)
          (if found.val.phase = .finished || running then handleRunning settings found.val running
            else if found.val.phase = .reserved then do
              let held ← tryHold action.id found.val.reportId found.val.kind.llm
              if held then claimAndStart settings endpoint project action else pure ()
            else recover settings found.val : Py Unit) reached (fun _ => Slots.At self none known)
          (fun _ => Slots.At self none known) := by
        split
        · exact handle_running_at _ _ here
        split
        · exact held_at here (fun _ here taken => claim_and_start_at action here) fun _ here => here
        · exact recover_at _ here
      exact handled.mono (fun _ _ here => here) fun _ _ => idle_out

theorem request_listing {cursor : Option String} (here : view.At self none known) :
    (slotPact rules).Sat self (.syncProject projectId manual) (request (.listActions endpoint cursor) id) view
      (fun response reached => reached.At self none (known ++ listedIn response))
      (fun _ => Slots.At self none known) := by
  have asks : (slotPact rules).Sat self (.syncProject projectId manual) (remote (.listActions endpoint cursor))
      view (fun response reached => reached.At self none (known ++ listedIn response))
      (fun _ => Slots.At self none known) := by
    refine Pact.sat_perform fun before between held => ?_
    have here := at_between here between
    have asked : slotAsks self (.syncProject projectId manual) before
        (.remote (.listActions endpoint cursor)) := still_asks (detached_asks rfl) rfl
    refine ⟨asked, fun answer after effect _ => ?_⟩
    have step := slots_answered effect
    have here' := at_still here rfl step
    cases answer with
    | error error => exact here'
    | ok response =>
        refine ⟨here'.tends, fun action member => ?_⟩
        rcases List.mem_append.mp member with earlier | new
        · exact here'.listed action earlier
        · rw [step.custody]
          show action ∈ Function.update before.custody.listed self
            (before.custody.listed self ++ listedIn response) self
          rw [Function.update_self]
          exact List.mem_append.mpr (.inr new)
  refine Pact.Sat.andThen (asks.caught (fun _ _ here => here) fun error reached here => ?_)
    (fun response reached here => ?_) fun _ _ here => here
  · split <;> exact here
  · have fewer : reached.At self none known :=
      ⟨here.tends, fun action member => here.listed action (List.mem_append.mpr (.inl member))⟩
    dsimp only
    split
    · exact fewer
    split
    · exact fewer
    split
    · exact fewer
    · exact here

theorem list_actions_at (pages : Nat) (cursor : Option String) (here : view.At self none known) :
    (slotPact rules).Sat self (.syncProject projectId manual) (listActions endpoint pages cursor) view
      (fun listing reached => reached.At self none (known ++ listing))
      (fun _ => Slots.At self none known) := by
  induction pages generalizing cursor view known with
  | zero =>
      show view.At self none (known ++ [])
      rw [List.append_nil]
      exact here
  | succ pages ih =>
      refine (request_listing here).andThen (fun response reached here => ?_) fun _ _ here => here
      have known' : reached.At self none known :=
        ⟨here.tends, fun action member => here.listed action (List.mem_append.mpr (.inl member))⟩
      by_cases fine : response.status = 200
      swap
      · rw [if_neg fine]
        exact known'
      rw [if_pos fine]
      dsimp only
      cases page : (jsonBody response).get "actions" with
      | arr items =>
          have listed : listedIn response = items.filterMap wellFormed := by
            unfold listedIn
            rw [if_pos fine, page]
          rw [listed] at here
          dsimp only
          cases ((jsonBody response).get "next_cursor").string? with
          | none => exact here
          | some next =>
              dsimp only
              split
              · exact here
              · refine (ih (some next) here).andThen (fun rest reached here => ?_) fun _ _ here =>
                  ⟨here.tends, fun action member => here.listed action (List.mem_append.mpr (.inl member))⟩
                show reached.At self none (known ++ (items.filterMap wellFormed ++ rest))
                rw [← List.append_assoc]
                exact here
      | _ => exact known'

theorem exchange_at (here : view.At self none []) :
    (slotPact rules).Sat self (.syncProject projectId manual) (exchange settings endpoint project) view
      (fun _ => Slots.At self none []) (fun _ => Slots.Out rules self) := by
  refine (within_at rfl (drain_within _ _) (by decide) here).andThen (fun _ _ here => ?_)
    fun _ _ => idle_out
  refine (list_actions_at 100 none here).andThen (fun listing _ here => ?_) fun _ _ => idle_out
  rw [List.nil_append] at here
  have forget : ∀ reached : Slots, reached.At self none listing → reached.At self none [] :=
    fun reached here => ⟨here.tends, fun action member => (List.not_mem_nil member).elim⟩
  refine Pact.Sat.andThen (Pact.sat_for_each here fun action member reached here => handle_at action member here)
    (fun _ reached here => ?_) fun _ _ out => out
  refine (within_at rfl (drain_within _ _) (by decide) (forget _ here)).andThen (fun _ _ here => ?_)
    fun _ _ => idle_out
  exact (within_at rfl (push_within _ _) (by decide) here).mono (fun _ _ here => here) fun _ _ => idle_out

theorem tick_body_at (envName : Json) (base : String) (here : view.At self none []) :
    (slotPact rules).Sat self (.syncProject projectId manual) (tickBody settings project envName base) view
      (fun _ => Slots.At self none []) (fun _ => Slots.Out rules self) := by
  refine (within_at rfl (only_ask rfl : (query .projectsWithTriageSync).Only (within reads))
    (by decide) here).andThen (fun others _ here => ?_) fun _ _ => idle_out
  refine (within_at rfl (duplicate_source_within _ _ _) (by decide) here).andThen
    (fun duplicate _ here => ?_) fun _ _ => idle_out
  split
  · exact here
  refine (within_at rfl (credential_named_within _) (by decide) here).andThen
    (fun token _ here => ?_) fun _ _ => idle_out
  split
  · exact here
  · exact (exchange_at here).andThen (fun _ _ here => here) fun _ _ out => out

theorem tick_at (envName : Json) (base : String) (here : view.At self none []) :
    (slotPact rules).Sat self (.syncProject projectId manual) (tick settings project envName base) view
      (fun _ => Slots.Out rules self) (fun _ => Slots.Out rules self) := by
  refine (within_at rfl (only_ask rfl : (ask (.memory (.resetUnresolved project.id))).Only
    (within [.tally])) (by decide) here).andThen (fun _ _ here => ?_) fun _ _ => idle_out
  refine (within_at rfl (expire_overdue_within _) (by decide) here).andThen (fun _ reached here => ?_)
    fun _ _ => idle_out
  have checked : (slotPact rules).Sat self (.syncProject projectId manual)
      (catching (checkPrs settings project) fun _ => pure ()) reached (fun _ => Slots.At self none [])
      (fun _ => Slots.At self none []) :=
    (within_at rfl (check_prs_within _) (by decide) here).caught (fun _ _ here => here) fun _ _ here => here
  refine checked.andThen (fun _ _ here => ?_) fun _ _ => idle_out
  refine Pact.Sat.andThen ((tick_body_at envName base here).caught (fun _ _ => idle_out)
    fun _ _ out => out) (fun error _ out => ?_) fun _ _ out => out
  refine (out_within rfl (only_ask rfl : (ask (.memory (.unresolved project.id))).Only
    (within [.tally])) (by decide) out).andThen (fun unresolved _ out => ?_) fun _ _ out => out
  exact (out_within rfl (only_ask rfl : (ask (.outbox (.syncStateRecord project.id error
    unresolved))).Only (within [.tally])) (by decide) out).andThen (fun _ _ out => out)
    fun _ _ out => out

theorem sync_locked_at (here : view.At self none []) :
    (slotPact rules).Sat self (.syncProject projectId manual) (syncLocked settings projectId) view
      (fun _ => Slots.Out rules self) (fun _ => Slots.Out rules self) := by
  refine (within_at rfl (project_get_within _) (by decide) here).andThen
    (fun project _ here => ?_) fun _ _ => idle_out
  refine (within_at rfl (configured_within _) (by decide) here).andThen
    (fun configured _ here => ?_) fun _ _ => idle_out
  cases configured with
  | none => exact idle_out here
  | some configured =>
      obtain ⟨project, envName, base⟩ := configured
      exact tick_at envName base here

theorem sync_project_at (here : view.At self none []) :
    (slotPact rules).Sat self (.syncProject projectId manual) (syncProject settings projectId manual) view
      (fun _ => Slots.Out rules self) (fun _ => Slots.Out rules self) := by
  have locked : ∀ (held : Bool) (reached : Slots), reached.At self none [] →
      (slotPact rules).Sat self (.syncProject projectId manual) (if held then raise .tickInProgress
        else underLock (.tick projectId) (syncLocked settings projectId)) reached
        (fun _ => Slots.Out rules self) (fun _ => Slots.Out rules self) := by
    intro held reached here
    split
    · exact idle_out here
    refine (within_at rfl (only_ask rfl : (ask (.acquire (.tick projectId))).Only (within [.ticks]))
      (by decide) here).andThen (fun _ _ here => ?_) fun _ _ => idle_out
    have unlocks : ∀ reached : Slots, reached.Out rules self →
        (slotPact rules).Sat self (.syncProject projectId manual) (ask (.memory (.unlock (.tick projectId))))
          reached (fun _ => Slots.Out rules self) (fun _ => Slots.Out rules self) :=
      fun reached out => out_within rfl (only_ask rfl : (ask (.memory (.unlock (.tick projectId)))).Only
        (within [.ticks])) (by decide) out
    exact Pact.Sat.ensured (sync_locked_at here) (fun _ => unlocks) fun _ => unlocks
  unfold syncProject
  split
  · exact (within_at rfl (only_ask rfl : (ask (.memory (.lockHeld (.tick projectId)))).Only
      (within reads)) (by decide) here).andThen (fun held reached here => locked held reached here)
      fun _ _ => idle_out
  · exact locked false _ here

end Parts

section Jobs

variable {rules : SlotRules} {self : Nat} {view : Slots} {settings : Settings} {Result : Type}

theorem slotless_job {job : Job} {realms : List Realm} {body : Py Unit} (idle : job.action = none)
    (only : body.Only fun op => within realms op ∧ (job.threaded = true → endpointOp op))
    (none' : Realm.slots ∉ realms ∧ Realm.strays ∉ realms) (here : view.At self none []) :
    (slotPact rules).Sat self job body view (fun _ => Slots.At self none []) fun _ => Slots.At self none [] := by
  refine Pact.only_sat only (fun op reached allowed here before between held => ?_) here
  have still := slotless allowed.1 none'
  have asker : SlotAsker self job before op := ⟨allowed.2, fun works => by rw [idle] at works; cases works⟩
  refine ⟨still_asks asker still, fun answer after effect _ => ?_⟩
  have kept := at_still (at_between here between) still (slots_answered effect)
  cases answer <;> exact kept

/-- A task of an action that asks for no slot has not run its `_release`. -/
theorem unfreed_within {job : Job} {realms : List Realm} {body : Py Unit} (loop : job.threaded = false)
    (only : body.Only (within realms)) (none' : Realm.slots ∉ realms ∧ Realm.strays ∉ realms)
    (here : view.At self none [] ∧ view.custody.freed self = false) :
    (slotPact rules).Sat self job body view
      (fun _ reached => reached.At self none [] ∧ reached.custody.freed self = false)
      (fun _ reached => reached.At self none [] ∧ reached.custody.freed self = false) := by
  refine Pact.only_sat only (fun op reached allowed here before between held => ?_) here
  have still := slotless allowed none'
  have apart : reached.apart self before := by
    unfold Pact.Between at between
    split at between
    · exact between
    · exact between.1
  have unfreed : before.custody.freed self = false := apart.2.1.trans here.2
  have asker : SlotAsker self job before op :=
    ⟨fun threaded => absurd (loop.symm.trans threaded) Bool.false_ne_true, fun _ => unfreed⟩
  refine ⟨still_asks asker still, fun answer after effect _ => ?_⟩
  have step := slots_answered effect
  have kept := at_still (at_between here.1 between) still step
  have unfreed : after.custody.freed self = false := by
    rw [step.custody, (before.custody.after_still still).2]
    exact unfreed
  cases answer with
  | ok value => exact ⟨kept, unfreed⟩
  | error error => exact ⟨kept, unfreed⟩

theorem task_frees {job : Job} {actionId : String} {body : Py Unit} {realms : List Realm}
    (works : job.action = some actionId) (only : body.Only (within realms))
    (none' : Realm.slots ∉ realms ∧ Realm.strays ∉ realms)
    (here : view.At self none [] ∧ view.custody.freed self = false) :
    (slotPact rules).Sat self job (body.ensuring (release actionId)) view
      (fun _ => (slotPact rules).finale self job) (fun _ => (slotPact rules).finale self job) := by
  have loop : job.threaded = false := by cases job <;> first | rfl | cases works
  have frees : ∀ reached : Slots, reached.At self none [] ∧ reached.custody.freed self = false →
      (slotPact rules).Sat self job (release actionId) reached (fun _ => (slotPact rules).finale self job)
        (fun _ => (slotPact rules).finale self job) := by
    intro reached here
    refine Pact.sat_perform fun before between held => ?_
    have unfreed : before.custody.freed self = false := by
      unfold Pact.Between at between
      rw [if_neg (by simp [bugalizer, loop, Op.suspends])] at between
      exact between.1.2.1.trans here.2
    have asker : SlotAsker self job before (.memory (.release actionId)) :=
      ⟨fun threaded => absurd (loop.symm.trans threaded) Bool.false_ne_true, fun _ => unfreed⟩
    refine ⟨⟨asker, .inl works⟩, fun answer after effect _ => ?_⟩
    cases answer with
    | error error => exact (error_excluded effect).elim
    | ok done =>
        have step := slots_answered effect
        show (rules.orderly → after.custody.tending self = none) ∧
          (job.action.isSome → after.custody.freed self = true)
        rw [step.custody]
        exact ⟨fun _ => Function.update_self .., fun _ => Function.update_self ..⟩
  exact (unfreed_within loop only none' here).ensured (fun _ => frees) fun _ => frees

theorem out_finale {job : Job} (idle : job.action = none) (reached : Slots)
    (out : reached.Out rules self) : (slotPact rules).finale self job reached := by
  obtain ⟨tending, here, orderly⟩ := out
  exact ⟨fun rule => here.tends.trans (orderly rule), fun works => by rw [idle] at works; cases works⟩

theorem slot_job (job : Job) (ready : (slotPact rules).ready self job view) :
    (slotPact rules).Sat self job (job.program settings) view (fun _ => (slotPact rules).finale self job)
      fun _ => (slotPact rules).finale self job := by
  have here : view.At self none [] := ⟨ready.2.1, fun action member => (List.not_mem_nil member).elim⟩
  cases syncs : job.syncs with
  | false =>
      have idle : job.action = none := by cases job <;> first | rfl | cases syncs
      have only : (job.program settings).Only fun op =>
          within manualRealms op ∧ (job.threaded = true → endpointOp op) := by
        cases threaded : job.threaded with
        | false => exact (manual_only syncs).mono fun op manual => ⟨manual_within manual,
            fun impossible => absurd impossible Bool.false_ne_true⟩
        | true => exact (threaded_only threaded).mono fun op endpoint =>
            ⟨endpoint_ops_within endpoint, fun _ => endpoint⟩
      exact (slotless_job idle only (by decide) here).mono
        (fun _ reached here => out_finale idle reached (idle_out here))
        fun _ reached here => out_finale idle reached (idle_out here)
  | true =>
      cases job with
      | syncProject id manual =>
          exact (sync_project_at here).mono (fun _ => out_finale rfl) fun _ => out_finale rfl
      | expireOverdue =>
          exact (out_within rfl (expire_overdue_within none) (by decide) (idle_out here)).mono
            (fun _ => out_finale rfl) fun _ => out_finale rfl
      | checkPrsOnly id =>
          exact (out_within rfl (check_prs_only_within id) (by decide) (idle_out here)).mono
            (fun _ => out_finale rfl) fun _ => out_finale rfl
      | actionTask id =>
          show (slotPact rules).Sat self (.actionTask id) (runTask settings id) view _ _
          rw [run_task_eq]
          exact task_frees rfl (run_action_within id) (by decide) ⟨here, ready.2.2⟩
      | prTask id => exact task_frees rfl (run_pr_within id) (by decide) ⟨here, ready.2.2⟩
      | _ => cases syncs

theorem slot_lawful : (slotPact rules).Lawful where
  apart_refl id view := ⟨rfl, rfl, rfl, fun _ alive => alive⟩
  apart_trans id first middle last one two :=
    ⟨two.1.trans one.1, two.2.1.trans one.2.1, two.2.2.1.trans one.2.2.1,
      fun lives alive => two.2.2.2 lives (one.2.2.2 lives alive)⟩
  aside_refl id view := ⟨⟨rfl, rfl, rfl, fun _ alive => alive⟩, rfl, rfl⟩
  aside_trans id first middle last one two :=
    ⟨⟨two.1.1.trans one.1.1, two.1.2.1.trans one.1.2.1, two.1.2.2.1.trans one.1.2.2.1,
      fun lives alive => two.1.2.2.2 lives (one.1.2.2.2 lives alive)⟩,
      two.2.1.trans one.2.1, two.2.2.trans one.2.2⟩
  aside_apart id before after aside := aside.1
  answered self job before op answer after kept asked effect := slot_answered kept asked effect
  started past state job next admitted moves kept := by
    cases moves with
    | started job rooted => exact slot_started kept job rooted
  issued past state id op next task admitted moves found kept asked := by
    have custody : Custody.of (past ++ [.issued id op]) = Custody.of past := Custody.of_snoc _ _
    have same : slotView (past ++ [.issued id op]) next = slotView past state := by
      cases moves with
      | issued id task op rest found running asks suspends awake =>
          have jobs := jobs_updated found state.world task.rest true
            (if task.job.threaded = true then state.holder else none)
          unfold slotView
          rw [custody]
          congr 1
    show (slotView _ next).Kept rules ∧ ∀ other, Slots.apart other _ (slotView _ next) ∧ (_ → Slots.aside other _ (slotView _ next))
    rw [same]
    exact ⟨kept, fun other => ⟨⟨rfl, rfl, rfl, fun _ alive => alive⟩,
      fun _ => ⟨⟨rfl, rfl, rfl, fun _ alive => alive⟩, rfl, rfl⟩⟩⟩
  ended past state id next task view admitted moves found kept finale closing := by
    have apart : view.apart id (slotView past state) := by
      unfold Pact.Closing at closing
      split at closing
      · exact closing
      · exact closing.1
    have living : Sys.jobs state id = some task.job := by simp [Sys.jobs, found]
    have ended := slot_ended kept living (fun orderly => apart.1.trans (finale.1 orderly))
      fun works => apart.2.1.trans (finale.2 works)
    cases moves
    exact ⟨ended.1, fun other differs => ⟨(ended.2 other differs).1, fun _ => ended.2 other differs⟩⟩
  restarted past state next admitted moves kept := slot_restarted kept moves
  ready_apart id job before after ready apart :=
    ⟨apart.2.2.2 job ready.1, apart.1.trans ready.2.1, apart.2.1.trans ready.2.2⟩
  keeps world id job view kept ready := slot_job job ready

end Jobs

/-- The slot is that of a task of its action, and the task is running. -/
def RunsAction (state : Sys) (actionId : String) (hold : Hold) : Prop :=
  ∃ id task, hold.task = some id ∧ state.tasks id = some task ∧ task.job.action = some actionId ∧
    state.world.memory.taskDone id = false

/-- The slot was taken by a tick that is still at work on its action. -/
def InHand (past : List Ev) (state : Sys) (actionId : String) (hold : Hold) : Prop :=
  ∃ id task projectId manual, hold.task = none ∧ state.tasks id = some task ∧
    task.job = .syncProject projectId manual ∧ (Custody.of past).tending id = some actionId

theorem slots_initially (rules : SlotRules) (db : Database) (settings : Settings) :
    (slotView [] (State.boot (World.initial db settings))).Kept rules where
  distinct := List.nodup_nil
  manned a hold id member _ := (List.not_mem_nil member).elim
  tended _ a hold member _ := (List.not_mem_nil member).elim
  living id job living := by cases living
  unborn id late := ⟨rfl, rfl⟩
  past id member := (List.not_mem_nil member).elim
  sole _ :=
    { held := fun id job a living => by cases living
      single := fun one other job job' a living => by cases living
      owned := fun id job a living => by cases living }

/-- In every run in which no reservation fails and every action that is reserved names its
requester, each slot is that of a running task, or in the hand of a tick that has not
returned. -/
theorem slots_end_with_their_work (db : Database) (settings : Settings) {events : List Ev}
    {last : Sys} (run : Guarded (Moves bugalizer) slotStep (State.boot (World.initial db settings))
      events last) :
    ∀ actionId hold, (actionId, hold) ∈ last.world.memory.holds →
      RunsAction last actionId hold ∨ InHand events last actionId hold := by
  have kept : (slotView events last).Kept ⟨True, False⟩ :=
    (Pact.run_bound slot_lawful (run.mono fun _ _ _ orderly => ⟨fun _ => orderly, False.elim⟩)
      (slots_initially _ db settings)).holds
  intro actionId hold member
  cases given : hold.task with
  | none =>
      obtain ⟨id, projectId, manual, alive, tending⟩ := kept.tended trivial actionId hold member given
      obtain ⟨task, found, same⟩ := Option.map_eq_some_iff.mp alive
      exact .inr ⟨id, task, projectId, manual, given, found, same, tending⟩
  | some id =>
      obtain ⟨⟨job, alive, works⟩, -⟩ := kept.manned actionId hold id member given
      obtain ⟨task, found, rfl⟩ := Option.map_eq_some_iff.mp alive
      refine .inl ⟨id, task, given, found, works, ?_⟩
      have lived : id ∉ last.world.memory.doneTasks := (kept.living id task.job alive).2
      simpa [Memory.taskDone] using lived

/-- A tick, on a sonicgrid that lists one action of this kind and this requester. -/
def Scenario.listingTick (kind : String) (requestedBy : Json) (count : Nat) :
    List (Choice Op Op.Env Job Boot) :=
  .start (.syncProject "p" false) ::
    Scenario.steps 0 (Scenario.grid 5 (Scenario.pending kind requestedBy) 200) count

/-- A tick hands an action over to a task, and returns. -/
def handedOver : Option (List Ev × Sys) :=
  (State.boot (Scenario.world (Scenario.database .triaged .empty))).guardedSteps bugalizer slotStep
    (Scenario.listingTick "analyze_local" .null 38) []

def handedOverScript : GuardedScript bugalizer
    (State.boot (Scenario.world (Scenario.database .triaged .empty))) slotStep :=
  ⟨Scenario.listingTick "analyze_local" .null 38, by decide +kernel⟩

theorem handed_over_runs : handedOver.isSome := handedOverScript.possible

theorem slots_end_with_their_work_handed_over :
    (∀ actionId hold, (actionId, hold) ∈ (handedOver.get handed_over_runs).2.world.memory.holds →
      RunsAction (handedOver.get handed_over_runs).2 actionId hold ∨
        InHand (handedOver.get handed_over_runs).1 (handedOver.get handed_over_runs).2 actionId hold) ∧
      (handedOver.get handed_over_runs).2.world.memory.holds.map Prod.fst = ["a"] :=
  ⟨slots_end_with_their_work _ _ (guarded_steps_get handed_over_runs), by decide +kernel⟩

/-- A tick is listed an action whose requester is a text, and returns. -/
def requesterIsText : Option (List Ev × Sys) :=
  (State.boot (Scenario.world (Scenario.database .triaged .empty))).steps bugalizer
    (Scenario.listingTick "close" (.str "admin") 20)

def requesterScript : Script bugalizer
    (State.boot (Scenario.world (Scenario.database .triaged .empty))) :=
  ⟨Scenario.listingTick "close" (.str "admin") 20, by decide +kernel⟩

theorem requester_is_text_runs : requesterIsText.isSome := requesterScript.possible

/-- The slot of that action is left behind. -/
theorem slot_outlives_its_work :
    ¬∀ events (last : Sys), Run bugalizer (State.boot
        (Scenario.world (Scenario.database .triaged .empty))) events last →
      ∀ actionId hold, (actionId, hold) ∈ last.world.memory.holds →
        RunsAction last actionId hold ∨ InHand events last actionId hold := by
  intro claim
  have run : Run bugalizer _ _ (requesterIsText.get requester_is_text_runs).2 :=
    steps_get requester_is_text_runs
  have holds : ("a", (⟨"r", false, none⟩ : Hold)) ∈
      (requesterIsText.get requester_is_text_runs).2.world.memory.holds := by decide +kernel
  have drawn : (requesterIsText.get requester_is_text_runs).2.fresh = 1 := by decide +kernel
  have gone : (requesterIsText.get requester_is_text_runs).2.tasks 0 = none :=
    Option.isNone_iff_eq_none.mp (by decide +kernel)
  rcases claim _ _ run _ _ holds with ⟨id, task, given, _⟩ | ⟨id, task, _, _, _, found, _⟩
  · cases given
  · have young := run_numbered run id (by rw [found]; rfl)
    obtain rfl : id = 0 := by omega
    rw [gone] at found
    cases found

end Bugalizer
