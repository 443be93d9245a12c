import Bugalizer.Sync.Holds
import Bugalizer.Sync.Listing

/-!
# No slot outlives its work

A tick takes a slot, and until the slot is handed to a task or given back the tick tends
it. The pact of the slots: each slot without a task is tended by a tick still at work, and
each slot with a task is that of a running task of its action.
-/

namespace Bugalizer

set_option autoImplicit false

open Coroutine Program

/-- The action whose slot each coroutine tends, the coroutines that have run `_release`, and
what sonicgrid has listed to each. -/
structure Custody where
  tending : Nat → Option String
  freed : Nat → Bool
  listed : Nat → List ListedAction

namespace Custody

def start : Custody := ⟨fun _ => none, fun _ => false, fun _ => []⟩

def after (custody : Custody) : Ev → Custody
  | .answered id (.memory (.tryHold actionId _ _)) (.ok true) =>
      { custody with tending := Function.update custody.tending id (some actionId) }
  | .answered id (.memory (.release _)) _ =>
      { custody with
        tending := Function.update custody.tending id none
        freed := Function.update custody.freed id true }
  | .answered id (.memory (.taskRunning _)) (.ok true) | .answered id (.createTask ..) (.ok _) =>
      { custody with tending := Function.update custody.tending id none }
  | .answered id (.remote (.listActions ..)) (.ok response) =>
      { custody with listed := Function.update custody.listed id (custody.listed id ++ listedIn response) }
  | _ => custody

def of (past : List Ev) : Custody := past.foldl after start

theorem of_snoc (past : List Ev) (event : Ev) : of (past ++ [event]) = (of past).after event := by
  simp [of, List.foldl_append]

theorem after_other (custody : Custody) {self id : Nat} {op : Op} {answer : Except Exn op.Ans}
    (other : id ≠ self) :
    (custody.after (.answered self op answer)).tending id = custody.tending id ∧
      (custody.after (.answered self op answer)).freed id = custody.freed id ∧
      (custody.after (.answered self op answer)).listed id = custody.listed id := by
  unfold after
  split
  case h_6 => exact ⟨rfl, rfl, rfl⟩
  all_goals
    rename_i same
    cases same
    simp [other]

theorem after_still (custody : Custody) {self id : Nat} {op : Op} {answer : Except Exn op.Ans}
    (still : op.slots = false) :
    (custody.after (.answered self op answer)).tending id = custody.tending id ∧
      (custody.after (.answered self op answer)).freed id = custody.freed id := by
  unfold after
  split
  case h_5 => exact ⟨rfl, rfl⟩
  case h_6 => exact ⟨rfl, rfl⟩
  all_goals
    rename_i same
    cases same
    cases still

theorem after_listed (custody : Custody) {self id : Nat} {op : Op} {answer : Except Exn op.Ans}
    {action : ListedAction} (member : action ∈ custody.listed id) :
    action ∈ (custody.after (.answered self op answer)).listed id := by
  unfold after
  split
  case h_5 =>
    dsimp only
    rw [Function.update_apply]
    split
    · rename_i same
      rw [← same]
      exact List.mem_append.mpr (.inl member)
    · exact member
  all_goals exact member

end Custody

def Sys.jobs (state : Sys) (id : Nat) : Option Job := (state.tasks id).map Task.job

theorem jobs_updated {state : Sys} {task : Task Op Op.Ans Exn Job} {id : Nat}
    (found : state.tasks id = some task) (world : World) (rest : Py Unit) (waiting : Bool)
    (holder : Option Nat) :
    Sys.jobs { state with
      world, tasks := Function.update state.tasks id (some { task with rest, waiting }), holder } =
      Sys.jobs state := by
  funext other
  simp only [Sys.jobs, Function.update_apply]
  split
  · rename_i same
    rw [same, found]
    rfl
  · rfl

theorem jobs_begun (state : Sys) (job : Job) :
    Sys.jobs (state.begin bugalizer job) =
      Function.update (Sys.jobs state) state.fresh (some job) := by
  funext id
  simp only [Sys.jobs, State.begin, Function.update_apply]
  split <;> rfl

theorem jobs_finished (state : Sys) (id : Nat) :
    Sys.jobs (state.finish bugalizer id) = Function.update (Sys.jobs state) id none := by
  funext other
  simp only [Sys.jobs, State.finish, Function.update_apply]
  split <;> rfl

structure Slots where
  ledger : TriageActions
  holds : Holds
  done : List Nat
  alive : Nat → Option Job
  fresh : Nat
  custody : Custody

def slotView (past : List Ev) (state : Sys) : Slots :=
  { ledger := state.world.db.ledger
    holds := state.world.memory.holds
    done := state.world.memory.doneTasks
    alive := Sys.jobs state
    fresh := state.fresh
    custody := .of past }

/-- A slot that a tick tends is without a task and tended by it alone, and a task of an action that has not
run its `_release` has the slot of the action. -/
structure Slots.Sole (slots : Slots) : Prop where
  held : ∀ id job actionId, slots.alive id = some job → slots.custody.tending id = some actionId →
    ∃ hold, (actionId, hold) ∈ slots.holds ∧ hold.task = none
  single : ∀ one other job job' actionId, slots.alive one = some job → slots.alive other = some job' →
    slots.custody.tending one = some actionId → slots.custody.tending other = some actionId → one = other
  owned : ∀ id job actionId, slots.alive id = some job → job.action = some actionId →
    slots.custody.freed id = false → ∃ hold, (actionId, hold) ∈ slots.holds ∧ hold.task = some id

/-- What a run is looked at for: that slots end with their work, and that each is one task's. -/
structure SlotRules where
  orderly : Prop
  sole : Prop

variable {rules : SlotRules}

/-- A task's slot while it runs, and a tick's slot while it is at work. -/
structure Slots.Kept (rules : SlotRules) (slots : Slots) : Prop where
  distinct : (slots.holds.map Prod.fst).Nodup
  manned : ∀ actionId hold id, (actionId, hold) ∈ slots.holds → hold.task = some id →
    (∃ job, slots.alive id = some job ∧ job.action = some actionId) ∧ slots.custody.freed id = false
  tended : rules.orderly → ∀ actionId hold, (actionId, hold) ∈ slots.holds → hold.task = none →
    ∃ id projectId manual, slots.alive id = some (.syncProject projectId manual) ∧
      slots.custody.tending id = some actionId
  living : ∀ id job, slots.alive id = some job → id < slots.fresh ∧ id ∉ slots.done
  unborn : ∀ id, slots.fresh ≤ id → slots.custody.tending id = none ∧ slots.custody.freed id = false
  past : ∀ id ∈ slots.done, id < slots.fresh
  sole : rules.sole → slots.Sole

/-- Whatever slot the action has was left behind. -/
structure Slots.Free (actionId : String) (slots : Slots) : Prop where
  unmanned : ∀ hold, (actionId, hold) ∈ slots.holds → hold.task = none
  untended : ∀ id job, slots.alive id = some job → slots.custody.tending id ≠ some actionId

/-- No slot of the action is left for a tick. -/
def Slots.Spoken (actionId : String) (slots : Slots) : Prop :=
  ∀ hold, (actionId, hold) ∈ slots.holds → hold.task ≠ none

def Slots.apart (self : Nat) (before after : Slots) : Prop :=
  after.custody.tending self = before.custody.tending self ∧
    after.custody.freed self = before.custody.freed self ∧
    after.custody.listed self = before.custody.listed self ∧
    ∀ job, before.alive self = some job → after.alive self = some job

def Slots.aside (self : Nat) (before after : Slots) : Prop :=
  before.apart self after ∧ after.ledger = before.ledger ∧ after.holds = before.holds

/-- A job of the loop that is no task of an action. -/
def Job.detached (job : Job) : Bool := !job.threaded && job.action.isNone

/-- Threads ask what endpoints ask, and a task of an action nothing after its `_release`. -/
structure SlotAsker (id : Nat) (job : Job) (slots : Slots) (op : Op) : Prop where
  endpoint : job.threaded = true → endpointOp op
  unfreed : job.action.isSome → slots.custody.freed id = false

/-- A tick takes one slot at a time, and then gives it back or hands it over. -/
def slotAsks (self : Nat) (job : Job) (slots : Slots) (op : Op) : Prop :=
  SlotAsker self job slots op ∧
    match op with
    | .memory (.tryHold ..) =>
        (∃ projectId manual, job = .syncProject projectId manual) ∧ slots.custody.tending self = none
    | .memory (.taskRunning actionId) =>
        slots.custody.tending self = some actionId ∨ slots.custody.tending self = none
    | .memory (.release actionId) =>
        job.action = some actionId ∨ job.action = none ∧
          (slots.custody.tending self = some actionId ∨
            slots.custody.tending self = none ∧ slots.Spoken actionId)
    | .createTask actionId spawned =>
        slots.custody.tending self = some actionId ∧ spawned.action = some actionId
    | _ => True

/-- Its `requestedBy` is an object or nothing, as far as the ledger does not hold the action;
and the reservation of an action does not fail. -/
def slotStep (past : List Ev) (state : Sys) : Ev → Prop
  | .answered id (.memory (.tryHold actionId _ _)) (.ok true) =>
      state.world.db.ledger.get actionId = none →
        ∀ action ∈ (Custody.of past).listed id, action.id = actionId → action.requestedBy.Gettable
  | .answered _ (.ledger (.reserve ..)) (.error _) => False
  | _ => True

instance (value : Json) : Decidable value.Gettable := inferInstanceAs (Decidable (_ = true))

instance (past : List Ev) (state : Sys) (event : Ev) : Decidable (slotStep past state event) := by
  unfold slotStep
  split
  · exact decidable_of_iff ((state.world.db.ledger.get _).isNone = true → _)
      (by rw [Option.isNone_iff_eq_none])
  all_goals infer_instance

/-- A slot that is found there when one is taken has no task, and no tick at work tends it. -/
def takesFree (past : List Ev) (state : Sys) : Ev → Prop
  | .answered _ (.memory (.tryHold actionId _ _)) (.ok true) =>
      (∀ entry ∈ state.world.memory.holds, entry.1 = actionId → entry.2.task = none) ∧
        ∀ id < state.fresh, (state.tasks id).isSome → (Custody.of past).tending id ≠ some actionId
  | _ => True

instance (past : List Ev) (state : Sys) (event : Ev) : Decidable (takesFree past state event) := by
  unfold takesFree
  split <;> infer_instance

abbrev slotPact (rules : SlotRules) : Pact bugalizer where
  View := Slots
  view := slotView
  holds := Slots.Kept rules
  apart id before after := before.apart id after
  aside id before after := before.aside id after
  asks := slotAsks
  ready id job slots := slots.alive id = some job ∧ slots.custody.tending id = none ∧
    slots.custody.freed id = false
  finale id job slots := (rules.orderly → slots.custody.tending id = none) ∧
    (job.action.isSome → slots.custody.freed id = true)
  admits past state event := (rules.orderly → slotStep past state event) ∧ (rules.sole → takesFree past state event)

structure Slots.Answered (id : Nat) (job : Job) (before : Slots) (op : Op)
    (answer : Except Exn op.Ans) (after : Slots) : Prop where
  asker : before.alive id = some job
  alive : after.alive = op.spawns.elim before.alive fun spawned =>
    Function.update before.alive before.fresh (some spawned)
  fresh : after.fresh = op.spawns.elim before.fresh fun _ => before.fresh + 1
  done : after.done = before.done
  custody : after.custody = before.custody.after (.answered id op answer)
  ledger : LedgerStep before.ledger op answer after.ledger
  holds : ∃ limit, HoldStep id before.fresh before.done limit before.holds op answer after.holds

section Laws

variable {self : Nat} {job : Job} {before after : Slots} {op : Op} {answer : Except Exn op.Ans}

theorem slots_answered (effect : (slotPact rules).Effect self job before op answer after) :
    before.Answered self job op answer after := by
  obtain ⟨past, state, next, admitted, ⟨task, found, rfl⟩, moves, rfl, rfl⟩ := effect
  cases moves with
  | answered self task' op rest env answer world found' running asks ready ran =>
      have moved : OpMoves self state.fresh state.world op answer world := exec_moves ran
      have jobs := jobs_updated found' world (rest answer) false (state.holderAfter bugalizer self task')
      refine
        { asker := by simp [slotView, Sys.jobs, found]
          alive := ?_
          fresh := ?_
          done := ?_
          custody := Custody.of_snoc _ _
          ledger := ?_
          holds := ⟨state.world.settings.triageMaxConcurrent, ?_⟩ }
      · show Sys.jobs (State.beginAll bugalizer op.spawns _) = op.spawns.elim (Sys.jobs state) _
        cases op.spawns with
        | none => exact jobs
        | some spawned => exact (jobs_begun _ spawned).trans (by rw [jobs]; rfl)
      · show (State.beginAll bugalizer op.spawns _).fresh = _
        cases op.spawns <;> rfl
      · show (State.beginAll bugalizer op.spawns _).world.memory.doneTasks = _
        have same := op_done moved
        cases op.spawns <;> exact same
      · show LedgerStep _ _ _ (State.beginAll bugalizer op.spawns _).world.db.ledger
        have step := op_ledger moved
        cases op.spawns <;> exact step
      · show HoldStep _ _ _ _ _ _ _ (State.beginAll bugalizer op.spawns _).world.memory.holds
        have step : HoldStep self state.fresh state.world.memory.doneTasks _
            state.world.memory.holds op answer world.memory.holds := op_holds ran
        cases op.spawns <;> exact step

theorem Slots.Answered.lives (step : before.Answered self job op answer after) (kept : before.Kept rules)
    {id : Nat} {lives : Job} (alive : before.alive id = some lives) : after.alive id = some lives := by
  rw [step.alive]
  cases op.spawns with
  | none => exact alive
  | some spawned =>
      have young := (kept.living id lives alive).1
      simp only [Option.elim_some, Function.update_apply]
      rw [if_neg (by omega)]
      exact alive

theorem Slots.Answered.grows (step : before.Answered self job op answer after) :
    before.fresh ≤ after.fresh := by
  rw [step.fresh]
  cases op.spawns <;> simp

/-- The clauses of `Kept` that are not about the slots themselves. -/
theorem kept_rest (kept : before.Kept rules) (step : before.Answered self job op answer after) :
    (∀ id job, after.alive id = some job → id < after.fresh ∧ id ∉ after.done) ∧
      (∀ id, after.fresh ≤ id → after.custody.tending id = none ∧ after.custody.freed id = false) ∧
      ∀ id ∈ after.done, id < after.fresh := by
  have grows := step.grows
  have young := (kept.living self job step.asker).1
  refine ⟨fun id lives alive => ?_, fun id late => ?_, fun id member => ?_⟩
  · rw [step.done]
    rw [step.alive] at alive
    rw [step.fresh]
    cases spawns : op.spawns with
    | none =>
        rw [spawns] at alive
        exact kept.living id lives alive
    | some spawned =>
        rw [spawns] at alive
        simp only [Option.elim_some, Function.update_apply] at alive ⊢
        split at alive
        · rename_i same
          rw [same]
          exact ⟨by omega, fun member => absurd (kept.past _ member) (by omega)⟩
        · have lived := kept.living id lives alive
          exact ⟨by omega, lived.2⟩
  · have other : id ≠ self := by omega
    have same := @Custody.after_other before.custody self id op answer other
    rw [step.custody, same.1, same.2.1]
    exact kept.unborn id (by omega)
  · rw [step.done] at member
    exact lt_of_lt_of_le (kept.past id member) grows

theorem alive_before (step : before.Answered self job op answer after) (spawns : op.spawns = none) {id : Nat}
    {lives : Job} (alive : after.alive id = some lives) : before.alive id = some lives := by
  rw [step.alive, spawns] at alive
  exact alive

theorem sole_unmoved (sole : before.Sole)
    (alive : ∀ id job, after.alive id = some job → before.alive id = some job)
    (holds : after.holds = before.holds)
    (tending : ∀ id a, after.custody.tending id = some a → before.custody.tending id = some a)
    (freed : ∀ id, after.custody.freed id = false → before.custody.freed id = false) : after.Sole where
  held id job a living tends := by
    rw [holds]
    exact sole.held id job a (alive id job living) (tending id a tends)
  single one other job job' a living living' tends tends' :=
    sole.single one other job job' a (alive one job living) (alive other job' living') (tending one a tends)
      (tending other a tends')
  owned id job a living works unfreed := by
    rw [holds]
    exact sole.owned id job a (alive id job living) works (freed id unfreed)

/-- The slot is tended from here on, and by nobody else. -/
theorem sole_taken {actionId reportId : String} {llm : Bool} (sole : before.Sole) (free : before.Free actionId)
    (step : before.Answered self job (.memory (.tryHold actionId reportId llm)) (.ok true) after)
    (stays : ∀ entry ∈ before.holds, entry ∈ after.holds)
    (held : ∃ hold, (actionId, hold) ∈ after.holds ∧ hold.task = none) : after.Sole := by
  have alive : ∀ id job, after.alive id = some job → before.alive id = some job :=
    fun id lives living => alive_before step rfl living
  have tending : ∀ id a, after.custody.tending id = some a →
      id = self ∧ a = actionId ∨ id ≠ self ∧ before.custody.tending id = some a := by
    intro id a tends
    rw [step.custody] at tends
    have tends : Function.update before.custody.tending self (some actionId) id = some a := tends
    by_cases here : id = self
    · rw [here, Function.update_self] at tends
      exact .inl ⟨here, (Option.some.inj tends).symm⟩
    · rw [Function.update_of_ne here] at tends
      exact .inr ⟨here, tends⟩
  constructor
  · intro id job a living tends
    obtain ⟨rfl, rfl⟩ | ⟨other, was⟩ := tending id a tends
    · exact held
    · obtain ⟨hold, member, unmanned⟩ := sole.held id job a (alive id job living) was
      exact ⟨hold, stays _ member, unmanned⟩
  · intro one other job job' a living living' tends tends'
    obtain ⟨rfl, rfl⟩ | ⟨-, was⟩ := tending one a tends
    · obtain ⟨same, -⟩ | ⟨-, was'⟩ := tending other _ tends'
      · exact same.symm
      · exact absurd was' (free.untended other job' (alive other job' living'))
    · obtain ⟨rfl, rfl⟩ | ⟨-, was'⟩ := tending other a tends'
      · exact absurd was (free.untended one job (alive one job living))
      · exact sole.single one other job job' a (alive one job living) (alive other job' living') was was'
  · intro id job a living works unfreed
    have unfreed : before.custody.freed id = false := by
      rw [step.custody] at unfreed
      exact unfreed
    obtain ⟨hold, member, own⟩ := sole.owned id job a (alive id job living) works unfreed
    exact ⟨hold, stays _ member, own⟩

theorem sole_try {actionId reportId : String} {llm : Bool}
    {answer : Except Exn (Op.Ans (.memory (.tryHold actionId reportId llm)))} (sole : before.Sole)
    (free : answer = .ok true → before.Free actionId)
    (step : before.Answered self job (.memory (.tryHold actionId reportId llm)) answer after) : after.Sole := by
  obtain ⟨limit, moved⟩ := step.holds
  generalize slots : after.holds = remaining at moved
  cases moved with
  | same op answer still => cases still
  | present _ _ _ held =>
      obtain ⟨hold, found⟩ := Option.isSome_iff_exists.mp held
      have member : (actionId, hold) ∈ before.holds := by
        obtain ⟨one, two, same, -⟩ := List.lookup_eq_some_iff.mp found
        simp [same]
      refine sole_taken sole (free rfl) step (fun entry was => by rw [slots]; exact was) ⟨hold, ?_, ?_⟩
      · rw [slots]
        exact member
      · exact (free rfl).unmanned hold member
  | missed _ _ _ lacking =>
      refine sole_unmoved sole (fun id lives living => alive_before step rfl living) slots (fun id a tends => ?_)
        fun id unfreed => ?_
      · rw [step.custody] at tends
        exact tends
      · rw [step.custody] at unfreed
        exact unfreed
  | taken _ _ _ lacking alone room =>
      refine sole_taken sole (free rfl) step (fun entry was => ?_) ⟨⟨reportId, llm, none⟩, ?_, rfl⟩
      all_goals rw [slots]
      · exact List.mem_append.mpr (.inl was)
      · exact List.mem_append.mpr (.inr (List.mem_singleton.mpr rfl))

theorem sole_release {actionId : String} {answer : Except Exn (Op.Ans (.memory (.release actionId)))}
    (kept : before.Kept rules) (sole : before.Sole)
    (asked : slotAsks self job before (.memory (.release actionId)))
    (step : before.Answered self job (.memory (.release actionId)) answer after) : after.Sole := by
  have alive : ∀ id job, after.alive id = some job → before.alive id = some job :=
    fun id lives living => alive_before step rfl living
  have tending : ∀ id a, after.custody.tending id = some a → id ≠ self ∧ before.custody.tending id = some a := by
    intro id a tends
    rw [step.custody] at tends
    have tends : Function.update before.custody.tending self none id = some a := tends
    by_cases here : id = self
    · rw [here, Function.update_self] at tends
      cases tends
    · rw [Function.update_of_ne here] at tends
      exact ⟨here, tends⟩
  have freed : ∀ id, after.custody.freed id = false → id ≠ self ∧ before.custody.freed id = false := by
    intro id unfreed
    rw [step.custody] at unfreed
    have unfreed : Function.update before.custody.freed self true id = false := unfreed
    by_cases here : id = self
    · rw [here, Function.update_self] at unfreed
      cases unfreed
    · rw [Function.update_of_ne here] at unfreed
      exact ⟨here, unfreed⟩
  obtain ⟨limit, moved⟩ := step.holds
  generalize slots : after.holds = remaining at moved
  cases moved with
  | same op answer still => cases still
  | kept _ stays =>
      exact sole_unmoved sole alive slots (fun id a tends => (tending id a tends).2)
        fun id unfreed => (freed id unfreed).2
  | popped _ idle =>
      constructor
      · intro id lives a living tends
        obtain ⟨other, was⟩ := tending id a tends
        obtain ⟨hold, member, unmanned⟩ := sole.held id lives a (alive id lives living) was
        rw [slots]
        refine ⟨hold, mem_without.mpr ⟨member, ?_⟩, unmanned⟩
        rintro rfl
        obtain own | ⟨-, here | ⟨-, spoken⟩⟩ := asked.2
        · have unfreed := asked.1.unfreed (by rw [own]; rfl)
          obtain ⟨hold', member', manned⟩ := sole.owned self job a step.asker own unfreed
          have same := (member_lookup kept.distinct member).symm.trans (member_lookup kept.distinct member')
          cases same
          rw [unmanned] at manned
          cases manned
        · exact other (sole.single id self lives job a (alive id lives living) step.asker was here)
        · exact spoken hold member unmanned
      · intro one other lives lives' a living living' tends tends'
        exact sole.single one other lives lives' a (alive one lives living) (alive other lives' living')
          (tending one a tends).2 (tending other a tends').2
      · intro id lives a living works unfreed
        obtain ⟨other, unfreed⟩ := freed id unfreed
        obtain ⟨hold, member, own⟩ := sole.owned id lives a (alive id lives living) works unfreed
        rw [slots]
        refine ⟨hold, mem_without.mpr ⟨member, ?_⟩, own⟩
        rintro rfl
        obtain finished | here := idle hold id (member_lookup kept.distinct member) own
        · exact (kept.living id lives (alive id lives living)).2 finished
        · exact other here

theorem sole_create {actionId : String} {spawned : Job}
    {answer : Except Exn (Op.Ans (.createTask actionId spawned))} (kept : before.Kept rules)
    (sole : before.Sole) (asked : slotAsks self job before (.createTask actionId spawned))
    (step : before.Answered self job (.createTask actionId spawned) answer after) : after.Sole := by
  obtain ⟨-, here, works⟩ := asked
  obtain ⟨slot, present, unmanned⟩ := sole.held self job actionId step.asker here
  have alive : ∀ id lives, after.alive id = some lives →
      id = before.fresh ∧ lives = spawned ∨ before.alive id = some lives := by
    intro id lives living
    rw [step.alive] at living
    have living : Function.update before.alive before.fresh (some spawned) id = some lives := living
    by_cases young : id = before.fresh
    · rw [young, Function.update_self] at living
      exact .inl ⟨young, (Option.some.inj living).symm⟩
    · rw [Function.update_of_ne young] at living
      exact .inr living
  obtain ⟨limit, moved⟩ := step.holds
  generalize slots : after.holds = remaining at moved
  cases moved with
  | same op answer still => cases still
  | unheld _ _ error free => exact absurd (List.mem_map.mpr ⟨_, present, rfl⟩) (free_unlisted free)
  | attached _ _ held =>
      have tending : ∀ id a, after.custody.tending id = some a →
          id ≠ self ∧ before.custody.tending id = some a := by
        intro id a tends
        rw [step.custody] at tends
        have tends : Function.update before.custody.tending self none id = some a := tends
        by_cases mine : id = self
        · rw [mine, Function.update_self] at tends
          cases tends
        · rw [Function.update_of_ne mine] at tends
          exact ⟨mine, tends⟩
      have older : ∀ id lives a, after.alive id = some lives → before.custody.tending id = some a →
          before.alive id = some lives := by
        intro id lives a living tends
        obtain ⟨rfl, -⟩ | was := alive id lives living
        · rw [(kept.unborn _ le_rfl).1] at tends
          cases tends
        · exact was
      constructor
      · intro id lives a living tends
        obtain ⟨other, was⟩ := tending id a tends
        have lived := older id lives a living was
        obtain ⟨hold, member, unmanned'⟩ := sole.held id lives a lived was
        rw [slots]
        refine ⟨hold, mem_given.mpr ⟨hold, member, ?_⟩, unmanned'⟩
        have differs : a ≠ actionId := by
          rintro rfl
          exact other (sole.single id self lives job a lived step.asker was here)
        rw [if_neg differs]
      · intro one other lives lives' a living living' tends tends'
        obtain ⟨-, was⟩ := tending one a tends
        obtain ⟨-, was'⟩ := tending other a tends'
        exact sole.single one other lives lives' a (older one lives a living was)
          (older other lives' a living' was') was was'
      · intro id lives a living does unfreed
        rw [slots]
        obtain ⟨rfl, rfl⟩ | was := alive id lives living
        · have same : a = actionId := Option.some.inj (does.symm.trans works)
          subst same
          exact ⟨_, mem_given.mpr ⟨slot, present, rfl⟩, by rw [if_pos rfl]⟩
        · have unfreed : before.custody.freed id = false := by
            rw [step.custody] at unfreed
            exact unfreed
          obtain ⟨hold, member, own⟩ := sole.owned id lives a was does unfreed
          refine ⟨hold, mem_given.mpr ⟨hold, member, ?_⟩, own⟩
          have differs : a ≠ actionId := by
            rintro rfl
            have same := (member_lookup kept.distinct member).symm.trans
              (member_lookup kept.distinct present)
            cases same
            rw [unmanned] at own
            cases own
          rw [if_neg differs]

theorem kept_still (kept : before.Kept rules) (still : op.slots = false)
    (step : before.Answered self job op answer after) : after.Kept rules := by
  obtain ⟨living, unborn, past⟩ := kept_rest kept step
  have same : after.holds = before.holds := by
    obtain ⟨limit, moved⟩ := step.holds
    generalize after.holds = remaining at moved
    cases moved <;> first | rfl | cases still
  have custody : ∀ id, after.custody.tending id = before.custody.tending id ∧
      after.custody.freed id = before.custody.freed id := fun id => by
    rw [step.custody]
    exact before.custody.after_still still
  refine ⟨by rw [same]; exact kept.distinct, fun a hold id member given => ?_,
    fun orderly a hold member free => ?_, living, unborn, past, fun sole => ?_⟩
  · rw [same] at member
    obtain ⟨⟨lives, alive, works⟩, unfreed⟩ := kept.manned a hold id member given
    exact ⟨⟨lives, step.lives kept alive, works⟩, by rw [(custody id).2]; exact unfreed⟩
  · rw [same] at member
    obtain ⟨id, projectId, manual, alive, tends⟩ := kept.tended orderly a hold member free
    exact ⟨id, projectId, manual, step.lives kept alive, by rw [(custody id).1]; exact tends⟩
  · have unspawned : op.spawns = none := by
      cases op with
      | createTask actionId spawned => cases still
      | _ => rfl
    exact sole_unmoved (kept.sole sole) (fun id lives living => alive_before step unspawned living) same
      (fun id a tends => by rw [(custody id).1] at tends; exact tends)
      fun id unfreed => by rw [(custody id).2] at unfreed; exact unfreed

theorem kept_try {actionId reportId : String} {llm : Bool}
    {answer : Except Exn (Op.Ans (.memory (.tryHold actionId reportId llm)))} (kept : before.Kept rules)
    (asked : slotAsks self job before (.memory (.tryHold actionId reportId llm)))
    (lacks : rules.sole → answer = .ok true → before.Free actionId)
    (step : before.Answered self job (.memory (.tryHold actionId reportId llm)) answer after) :
    after.Kept rules := by
  have sole : rules.sole → after.Sole := fun sole => sole_try (kept.sole sole) (lacks sole) step
  obtain ⟨living, unborn, past⟩ := kept_rest kept step
  obtain ⟨-, ⟨projectId, manual, rfl⟩, idle⟩ := asked
  have freed : ∀ id, after.custody.freed id = before.custody.freed id := fun id => by
    rw [step.custody]
    unfold Custody.after
    split <;> first | rfl | (rename_i same; cases same)
  have tends : ∀ id a, before.custody.tending id = some a → after.custody.tending id = some a := by
    intro id a tending
    have other : id ≠ self := by
      rintro rfl
      rw [idle] at tending
      cases tending
    rw [step.custody, (before.custody.after_other other).1]
    exact tending
  have manned : ∀ a hold id, (a, hold) ∈ before.holds → hold.task = some id →
      (∃ job, after.alive id = some job ∧ job.action = some a) ∧ after.custody.freed id = false := by
    intro a hold id member given
    obtain ⟨⟨lives, alive, works⟩, unfreed⟩ := kept.manned a hold id member given
    exact ⟨⟨lives, step.lives kept alive, works⟩, by rw [freed id]; exact unfreed⟩
  have tended : rules.orderly → ∀ a hold, (a, hold) ∈ before.holds → hold.task = none →
      ∃ id projectId manual, after.alive id = some (.syncProject projectId manual) ∧
        after.custody.tending id = some a := by
    intro orderly a hold member free
    obtain ⟨id, project, byHand, alive, tending⟩ := kept.tended orderly a hold member free
    exact ⟨id, project, byHand, step.lives kept alive, tends id a tending⟩
  have unchanged : after.holds = before.holds → after.Kept rules := fun same =>
    ⟨by rw [same]; exact kept.distinct, by rw [same]; exact manned, by rw [same]; exact tended,
      living, unborn, past, sole⟩
  obtain ⟨limit, moved⟩ := step.holds
  generalize slots : after.holds = remaining at moved
  cases moved with
  | same op answer still => cases still
  | present _ _ _ held => exact unchanged slots
  | missed _ _ _ free => exact unchanged slots
  | taken _ _ _ free alone room =>
      refine ⟨?_, fun a hold id member given => ?_, fun orderly a hold member unmanned => ?_, living, unborn,
        past, sole⟩
      all_goals rw [slots] at *
      · rw [List.map_append, List.nodup_append]
        refine ⟨kept.distinct, List.nodup_singleton _, fun a member b single same => ?_⟩
        rw [List.mem_singleton.mp single] at same
        rw [show a = actionId from same] at member
        exact free_unlisted free member
      · rcases List.mem_append.mp member with earlier | single
        · exact manned a hold id earlier given
        · rw [List.mem_singleton] at single
          cases single
          cases given
      · rcases List.mem_append.mp member with earlier | single
        · exact tended orderly a hold earlier unmanned
        · rw [List.mem_singleton] at single
          cases single
          refine ⟨self, projectId, manual, step.lives kept step.asker, ?_⟩
          rw [step.custody]
          exact Function.update_self ..

theorem kept_running {actionId : String} {answer : Except Exn (Op.Ans (.memory (.taskRunning actionId)))}
    (kept : before.Kept rules) (asked : slotAsks self job before (.memory (.taskRunning actionId)))
    (step : before.Answered self job (.memory (.taskRunning actionId)) answer after) : after.Kept rules := by
  obtain ⟨living, unborn, past⟩ := kept_rest kept step
  have same : after.holds = before.holds := by
    obtain ⟨limit, moved⟩ := step.holds
    generalize after.holds = remaining at moved
    cases moved <;> rfl
  have freed : after.custody.freed = before.custody.freed := by
    rw [step.custody]
    unfold Custody.after
    split <;> first | rfl | (rename_i same; cases same)
  have tends : ∀ id a, after.custody.tending id = some a → before.custody.tending id = some a := by
    intro id a tends
    by_cases other : id = self
    swap
    · rw [step.custody, (before.custody.after_other other).1] at tends
      exact tends
    subst other
    rw [step.custody] at tends
    unfold Custody.after at tends
    split at tends
    case h_3 =>
      dsimp only at tends
      rename_i here
      cases here
      rw [Function.update_self] at tends
      cases tends
    all_goals first | exact tends | (rename_i here; cases here)
  refine ⟨by rw [same]; exact kept.distinct, fun a hold id member given => ?_,
    fun orderly a hold member unmanned => ?_, living, unborn, past, fun sole =>
      sole_unmoved (kept.sole sole) (fun id lives living => alive_before step rfl living) same tends
        fun id unfreed => freed ▸ unfreed⟩
  · rw [same] at member
    obtain ⟨⟨lives, alive, works⟩, unfreed⟩ := kept.manned a hold id member given
    exact ⟨⟨lives, step.lives kept alive, works⟩, by rw [freed]; exact unfreed⟩
  · rw [same] at member
    obtain ⟨id, projectId, manual, alive, tending⟩ := kept.tended orderly a hold member unmanned
    refine ⟨id, projectId, manual, step.lives kept alive, ?_⟩
    by_cases other : id = self
    swap
    · rw [step.custody, (before.custody.after_other other).1]
      exact tending
    subst other
    -- The slot it tends has no task, so the task of an action it asks about does not run.
    have here : a = actionId := by
      rcases asked.2 with here | idle
      · rw [here] at tending
        exact (Option.some.inj tending).symm
      · rw [idle] at tending
        cases tending
    obtain ⟨limit, moved⟩ := step.holds
    generalize after.holds = remaining at moved
    cases moved with
    | same op answer still => cases still
    | resting _ rests =>
        rw [step.custody]
        exact tending
    | running _ hold' task held given open' =>
        rw [← here, member_lookup kept.distinct member] at held
        cases held
        rw [unmanned] at given
        cases given

theorem kept_release {actionId : String} {answer : Except Exn (Op.Ans (.memory (.release actionId)))}
    (kept : before.Kept rules) (asked : slotAsks self job before (.memory (.release actionId)))
    (step : before.Answered self job (.memory (.release actionId)) answer after) : after.Kept rules := by
  obtain ⟨living, unborn, past⟩ := kept_rest kept step
  have custody : after.custody.tending = Function.update before.custody.tending self none ∧
      after.custody.freed = Function.update before.custody.freed self true := by
    rw [step.custody]
    exact ⟨rfl, rfl⟩
  -- What is left of the slots was neither the task's own nor tended by it.
  have left : ∀ a hold, (a, hold) ∈ after.holds → (a, hold) ∈ before.holds ∧
      (a = actionId → hold.stays self before.done) := by
    intro a hold member
    obtain ⟨limit, moved⟩ := step.holds
    generalize after.holds = remaining at moved member
    cases moved with
    | same op answer still => cases still
    | kept _ stays =>
        refine ⟨member, ?_⟩
        rintro rfl
        exact stays hold (member_lookup kept.distinct member)
    | popped _ idle =>
        obtain ⟨earlier, other⟩ := mem_without.mp member
        exact ⟨earlier, fun same => absurd same other⟩
  refine ⟨?_, fun a hold id member given => ?_, fun orderly a hold member unmanned => ?_, living, unborn, past,
    fun sole => sole_release kept (kept.sole sole) asked step⟩
  · obtain ⟨limit, moved⟩ := step.holds
    generalize after.holds = remaining at moved
    cases moved with
    | same op answer still => cases still
    | kept _ stays => exact kept.distinct
    | popped _ idle => exact (List.filter_sublist.map Prod.fst).nodup kept.distinct
  · obtain ⟨earlier, stays⟩ := left a hold member
    obtain ⟨⟨lives, alive, works⟩, unfreed⟩ := kept.manned a hold id earlier given
    refine ⟨⟨lives, step.lives kept alive, works⟩, ?_⟩
    have other : id ≠ self := by
      rintro rfl
      have same := step.asker.symm.trans alive
      cases same
      rcases asked.2 with own | ⟨none', -⟩
      · rw [own] at works
        cases works
        obtain ⟨task, given', _, differs⟩ := stays rfl
        rw [given] at given'
        cases given'
        exact differs rfl
      · rw [none'] at works
        cases works
    rw [custody.2, Function.update_of_ne other]
    exact unfreed
  · obtain ⟨earlier, stays⟩ := left a hold member
    obtain ⟨id, projectId, manual, alive, tending⟩ := kept.tended orderly a hold earlier unmanned
    refine ⟨id, projectId, manual, step.lives kept alive, ?_⟩
    have other : id ≠ self := by
      rintro rfl
      have same := step.asker.symm.trans alive
      cases same
      rcases asked.2 with own | ⟨-, here | ⟨idle, -⟩⟩
      · cases own
      · rw [here] at tending
        cases tending
        obtain ⟨task, given, _⟩ := stays rfl
        rw [unmanned] at given
        cases given
      · rw [idle] at tending
        cases tending
    rw [custody.1, Function.update_of_ne other]
    exact tending

theorem kept_create {actionId : String} {spawned : Job}
    {answer : Except Exn (Op.Ans (.createTask actionId spawned))} (kept : before.Kept rules)
    (asked : slotAsks self job before (.createTask actionId spawned))
    (step : before.Answered self job (.createTask actionId spawned) answer after) : after.Kept rules := by
  obtain ⟨living, unborn, past⟩ := kept_rest kept step
  have sole : rules.sole → after.Sole := fun sole => sole_create kept (kept.sole sole) asked step
  obtain ⟨-, here, works⟩ := asked
  have freed : ∀ id, after.custody.freed id = before.custody.freed id := fun id => by
    rw [step.custody]
    cases answer <;> rfl
  have manned : ∀ a hold id, (a, hold) ∈ before.holds → hold.task = some id →
      (∃ job, after.alive id = some job ∧ job.action = some a) ∧ after.custody.freed id = false := by
    intro a hold id member given
    obtain ⟨⟨lives, alive, works⟩, unfreed⟩ := kept.manned a hold id member given
    exact ⟨⟨lives, step.lives kept alive, works⟩, by rw [freed id]; exact unfreed⟩
  have born : after.alive before.fresh = some spawned := by
    rw [step.alive]
    exact Function.update_self ..
  obtain ⟨limit, moved⟩ := step.holds
  generalize slots : after.holds = remaining at moved
  cases moved with
  | same op answer still => cases still
  | attached _ _ held =>
      refine ⟨by rw [slots, given_keys]; exact kept.distinct, fun a hold id member given => ?_,
        fun orderly a hold member unmanned => ?_, living, unborn, past, sole⟩
      · rw [slots] at member
        obtain ⟨earlier, was, rfl⟩ := mem_given.mp member
        by_cases same : a = actionId
        · rw [if_pos same] at given
          cases given
          refine ⟨⟨spawned, born, by rw [same]; exact works⟩, ?_⟩
          rw [freed]
          exact (kept.unborn _ le_rfl).2
        · rw [if_neg same] at given
          exact manned a earlier id was given
      · rw [slots] at member
        obtain ⟨earlier, was, rfl⟩ := mem_given.mp member
        by_cases same : a = actionId
        · rw [if_pos same] at unmanned
          cases unmanned
        · rw [if_neg same] at unmanned
          obtain ⟨id, projectId, manual, alive, tending⟩ := kept.tended orderly a earlier was unmanned
          refine ⟨id, projectId, manual, step.lives kept alive, ?_⟩
          have other : id ≠ self := by
            rintro rfl
            rw [here] at tending
            cases tending
            exact same rfl
          rw [step.custody, (before.custody.after_other other).1]
          exact tending
  | unheld _ _ error free =>
      refine ⟨by rw [slots]; exact kept.distinct, fun a hold id member given => ?_,
        fun orderly a hold member unmanned => ?_, living, unborn, past, sole⟩
      · rw [slots] at member
        exact manned a hold id member given
      · rw [slots] at member
        obtain ⟨id, projectId, manual, alive, tending⟩ := kept.tended orderly a hold member unmanned
        refine ⟨id, projectId, manual, step.lives kept alive, ?_⟩
        rw [step.custody]
        exact tending

theorem kept_answered (kept : before.Kept rules) (asked : slotAsks self job before op)
    (free : rules.sole → ∀ actionId reportId llm,
      (⟨op, answer⟩ : Σ op : Op, Except Exn op.Ans) = ⟨.memory (.tryHold actionId reportId llm), .ok true⟩ →
        before.Free actionId)
    (step : before.Answered self job op answer after) : after.Kept rules := by
  cases slots : op.slots with
  | false => exact kept_still kept slots step
  | true =>
      cases op with
      | memory call =>
          cases call with
          | taskRunning actionId => exact kept_running kept asked step
          | tryHold actionId reportId llm =>
              refine kept_try kept asked (fun sole got => ?_) step
              subst got
              exact free sole actionId reportId llm rfl
          | release actionId => exact kept_release kept asked step
          | _ => cases slots
      | createTask actionId spawned => exact kept_create kept asked step
      | _ => cases slots

theorem ledger_unwritten {before after : TriageActions} (step : LedgerStep before op answer after)
    (quiet : op.writesLedger answer = false) : after = before := by
  cases step with
  | kept op answer same => rfl
  | wrote write now => cases quiet
  | reopened reportId actionId message now dispatched => cases quiet

theorem slot_ledger_kept (endpoint : endpointOp op) (step : LedgerStep before.ledger op answer after.ledger) :
    after.ledger = before.ledger := by
  cases op with
  | ledger write => cases endpoint
  | joint write => cases endpoint
  | _ => exact ledger_unwritten step rfl

theorem Slots.Answered.apart {id : Nat} (kept : before.Kept rules)
    (step : before.Answered self job op answer after) (other : id ≠ self) : before.apart id after := by
  have same := @Custody.after_other before.custody self id op answer other
  rw [← step.custody] at same
  exact ⟨same.1, same.2.1, same.2.2, fun lives alive => step.lives kept alive⟩

theorem slot_answered (kept : before.Kept rules) (asked : slotAsks self job before op)
    (effect : (slotPact rules).Effect self job before op answer after) :
    after.Kept rules ∧ (∀ other, other ≠ self → before.apart other after ∧
      (job.threaded = true → before.aside other after)) ∧
      ∀ past state next spawned, (slotPact rules).view past state = before →
        Moves bugalizer state (.answered self op answer) next →
        (slotPact rules).view (past ++ [.answered self op answer]) next = after →
        op.spawns = some spawned → (slotPact rules).ready state.fresh spawned after := by
  have step := slots_answered effect
  have free : rules.sole → ∀ actionId reportId llm,
      (⟨op, answer⟩ : Σ op : Op, Except Exn op.Ans) = ⟨.memory (.tryHold actionId reportId llm), .ok true⟩ →
        before.Free actionId := by
    intro sole actionId reportId llm same
    cases same
    obtain ⟨past, state, next, admitted, -, -, rfl, -⟩ := effect
    obtain ⟨unmanned, untended⟩ := admitted.2 sole
    refine ⟨fun hold member => unmanned _ member rfl, fun id lives living => ?_⟩
    obtain ⟨task, found, -⟩ := Option.map_eq_some_iff.mp living
    exact untended id (kept.living id lives living).1 (by rw [found]; rfl)
  have kept' := kept_answered kept asked free step
  refine ⟨kept', fun other differs => ⟨step.apart kept differs, fun threaded => ?_⟩,
    fun past state next spawned here moves there spawns => ?_⟩
  · have endpoint := asked.1.endpoint threaded
    refine ⟨step.apart kept differs, slot_ledger_kept endpoint step.ledger, ?_⟩
    obtain ⟨limit, moved⟩ := step.holds
    generalize after.holds = remaining at moved
    cases moved <;> first | rfl | cases endpoint
  · have young : state.fresh = before.fresh := by rw [← here]; rfl
    have unborn := kept.unborn before.fresh le_rfl
    have other : before.fresh ≠ self := by
      have := (kept.living self job step.asker).1
      omega
    have same := @Custody.after_other before.custody self before.fresh op answer other
    rw [← step.custody] at same
    rw [young]
    refine ⟨?_, same.1.trans unborn.1, same.2.1.trans unborn.2⟩
    rw [step.alive, spawns]
    exact Function.update_self ..

theorem rooted_acts_for_none {job : Job} (rooted : job.rooted = true) : job.action = none := by
  cases job with
  | actionTask actionId => cases rooted
  | prTask actionId => cases rooted
  | _ => rfl

/-- A step that no coroutine answers leaves the slots as they are, but for the tasks there are. -/
theorem slot_started {past : List Ev} {state : Sys} (kept : (slotView past state).Kept rules) (job : Job)
    (rooted : job.rooted = true) :
    (slotView (past ++ [.started job]) (state.begin bugalizer job)).Kept rules ∧
      (∀ id, (slotView past state).aside id
        (slotView (past ++ [.started job]) (state.begin bugalizer job))) ∧
      (slotPact rules).ready state.fresh job
        (slotView (past ++ [.started job]) (state.begin bugalizer job)) := by
  have custody : Custody.of (past ++ [.started job]) = Custody.of past := Custody.of_snoc _ _
  have alive := jobs_begun state job
  have lives : ∀ id lives, Sys.jobs state id = some lives →
      Sys.jobs (state.begin bugalizer job) id = some lives := by
    intro id lives living
    have young : id < state.fresh := (kept.living id lives living).1
    rw [alive, Function.update_of_ne (by omega)]
    exact living
  have older : ∀ id lives', Sys.jobs (state.begin bugalizer job) id = some lives' →
      id = state.fresh ∧ lives' = job ∨ Sys.jobs state id = some lives' := by
    intro id lives' living
    rw [alive] at living
    by_cases young : id = state.fresh
    · rw [young, Function.update_self] at living
      exact .inl ⟨young, (Option.some.inj living).symm⟩
    · rw [Function.update_of_ne young] at living
      exact .inr living
  have tending : ∀ id lives' a, Sys.jobs (state.begin bugalizer job) id = some lives' →
      (Custody.of (past ++ [.started job])).tending id = some a →
      Sys.jobs state id = some lives' ∧ (Custody.of past).tending id = some a := by
    intro id lives' a living tends
    rw [custody] at tends
    obtain ⟨rfl, -⟩ | was := older id lives' living
    · have idle := (kept.unborn _ le_rfl).1.symm.trans tends
      cases idle
    · exact ⟨was, tends⟩
  have sole : rules.sole → (slotView (past ++ [.started job]) (state.begin bugalizer job)).Sole := by
    intro sole
    constructor
    · intro id lives' a living tends
      obtain ⟨was, tends⟩ := tending id lives' a living tends
      exact (kept.sole sole).held id lives' a was tends
    · intro one other lives' rival a living living' tends tends'
      obtain ⟨was, tends⟩ := tending one lives' a living tends
      obtain ⟨was', tends'⟩ := tending other rival a living' tends'
      exact (kept.sole sole).single one other lives' rival a was was' tends tends'
    · intro id lives' a living works unfreed
      have unfreed : (Custody.of past).freed id = false := by
        rw [← custody]
        exact unfreed
      obtain ⟨-, same⟩ | was := older id lives' living
      · rw [same, rooted_acts_for_none rooted] at works
        cases works
      · exact (kept.sole sole).owned id lives' a was works unfreed
  refine ⟨⟨kept.distinct, fun a hold id member given => ?_, fun orderly a hold member unmanned => ?_,
    fun id lives' living => ?_, fun id late => ?_, fun id member => ?_, sole⟩, fun id => ?_, ?_⟩
  · obtain ⟨⟨work, living, works⟩, unfreed⟩ := kept.manned a hold id member given
    refine ⟨⟨work, lives id work living, works⟩, ?_⟩
    show (Custody.of _).freed id = false
    rw [custody]
    exact unfreed
  · obtain ⟨id, projectId, manual, living, tending⟩ := kept.tended orderly a hold member unmanned
    refine ⟨id, projectId, manual, lives id _ living, ?_⟩
    show (Custody.of _).tending id = some a
    rw [custody]
    exact tending
  · show id < state.fresh + 1 ∧ id ∉ state.world.memory.doneTasks
    have living : Function.update (Sys.jobs state) state.fresh (some job) id = some lives' := by
      rw [← alive]
      exact living
    rw [Function.update_apply] at living
    split at living
    · rename_i same
      rw [same]
      exact ⟨by omega, fun member => absurd (kept.past _ member) (lt_irrefl _)⟩
    · have lived := kept.living id lives' living
      exact ⟨Nat.lt_succ_of_lt lived.1, lived.2⟩
  · show (Custody.of _).tending id = none ∧ (Custody.of _).freed id = false
    rw [custody]
    exact kept.unborn id (Nat.le_of_succ_le late)
  · exact Nat.lt_succ_of_lt (kept.past id member)
  · refine ⟨⟨?_, ?_, ?_, lives id⟩, rfl, rfl⟩
    all_goals simp only [slotView, custody]
  · refine ⟨?_, ?_⟩
    · show Sys.jobs (state.begin bugalizer job) state.fresh = some job
      rw [alive]
      exact Function.update_self ..
    · show (Custody.of _).tending state.fresh = none ∧ (Custody.of _).freed state.fresh = false
      rw [custody]
      exact kept.unborn state.fresh le_rfl

theorem slot_ended {past : List Ev} {state : Sys} {id : Nat} (kept : (slotView past state).Kept rules)
    {job : Job} (living : Sys.jobs state id = some job)
    (idle : rules.orderly → (Custody.of past).tending id = none)
    (freed : job.action.isSome → (Custody.of past).freed id = true) :
    (slotView (past ++ [.ended id]) (state.finish bugalizer id)).Kept rules ∧
      ∀ other, other ≠ id → (slotView past state).aside other
        (slotView (past ++ [.ended id]) (state.finish bugalizer id)) := by
  have custody : Custody.of (past ++ [.ended id]) = Custody.of past := Custody.of_snoc _ _
  have alive := jobs_finished state id
  have lives : ∀ other lives, other ≠ id → Sys.jobs state other = some lives →
      Sys.jobs (state.finish bugalizer id) other = some lives := by
    intro other lives differs living
    rw [alive, Function.update_of_ne differs]
    exact living
  have sole : rules.sole → (slotView (past ++ [.ended id]) (state.finish bugalizer id)).Sole := by
    intro sole
    refine sole_unmoved (kept.sole sole) (fun other lives' living' => ?_) rfl (fun other a tends => ?_)
      fun other unfreed => ?_
    · have living' : Function.update (Sys.jobs state) id none other = some lives' := by
        rw [← alive]
        exact living'
      rw [Function.update_apply] at living'
      split at living'
      · cases living'
      · exact living'
    · rw [show (slotView _ _).custody = Custody.of (past ++ [.ended id]) from rfl, custody] at tends
      exact tends
    · rw [show (slotView _ _).custody = Custody.of (past ++ [.ended id]) from rfl, custody] at unfreed
      exact unfreed
  refine ⟨⟨kept.distinct, fun a hold task member given => ?_, fun orderly a hold member unmanned => ?_,
    fun other lives' living' => ?_, fun other late => ?_, fun other member => ?_, sole⟩,
    fun other differs => ?_⟩
  · obtain ⟨⟨work, working, works⟩, unfreed⟩ := kept.manned a hold task member given
    have differs : task ≠ id := by
      rintro rfl
      have same := living.symm.trans working
      cases same
      have was := freed (by rw [works]; rfl)
      exact absurd (unfreed.symm.trans was) (by simp)
    refine ⟨⟨work, lives task work differs working, works⟩, ?_⟩
    show (Custody.of _).freed task = false
    rw [custody]
    exact unfreed
  · obtain ⟨task, projectId, manual, working, tending⟩ := kept.tended orderly a hold member unmanned
    have differs : task ≠ id := by
      rintro rfl
      exact absurd ((idle orderly).symm.trans tending) (by simp)
    refine ⟨task, projectId, manual, lives task _ differs working, ?_⟩
    show (Custody.of _).tending task = some a
    rw [custody]
    exact tending
  · show other < state.fresh ∧ other ∉ id :: state.world.memory.doneTasks
    have living' : Function.update (Sys.jobs state) id none other = some lives' := by
      rw [← alive]
      exact living'
    rw [Function.update_apply] at living'
    split at living'
    · cases living'
    · rename_i differs
      have lived := kept.living other lives' living'
      refine ⟨lived.1, fun member => ?_⟩
      rcases List.mem_cons.mp member with same | earlier
      · exact differs same
      · exact lived.2 earlier
  · show (Custody.of _).tending other = none ∧ (Custody.of _).freed other = false
    rw [custody]
    exact kept.unborn other late
  · show other < state.fresh
    have member : other ∈ id :: state.world.memory.doneTasks := member
    rcases List.mem_cons.mp member with rfl | earlier
    · exact (kept.living _ job living).1
    · exact kept.past other earlier
  · refine ⟨⟨?_, ?_, ?_, fun lives' => lives other lives' differs⟩, rfl, rfl⟩
    all_goals simp only [slotView, custody]

theorem slot_restarted {past : List Ev} {state next : Sys} (kept : (slotView past state).Kept rules)
    (moves : Moves bugalizer state .restarted next) : (slotView (past ++ [.restarted]) next).Kept rules := by
  have custody : Custody.of (past ++ [.restarted]) = Custody.of past := Custody.of_snoc _ _
  cases moves with
  | restarted boot =>
      refine ⟨List.nodup_nil, fun a hold id member _ => (List.not_mem_nil member).elim,
        fun _ a hold member _ => (List.not_mem_nil member).elim, fun id job living => ?_,
        fun id late => ?_, fun id member => (List.not_mem_nil member).elim, fun _ =>
          ⟨fun id job a living => (by cases living), fun one other job job' a living => (by cases living),
            fun id job a living => by cases living⟩⟩
      · cases living
      · show (Custody.of _).tending id = none ∧ (Custody.of _).freed id = false
        rw [custody]
        exact kept.unborn id late

end Laws

end Bugalizer
