import Bugalizer.Coroutine.Pact
import Bugalizer.Sync.Jobs
import Bugalizer.Sync.Outcomes

/-!
# How the executor slots move

`_holds` moves by `_try_hold`, by `_release` and by the start of a task, and by nothing
else. Each entry is taken on conditions, and is popped by the task it was handed to or
while it has none.
-/

namespace Bugalizer

set_option autoImplicit false

open Coroutine Program

abbrev Holds := List (String × Hold)

def Job.action : Job → Option String
  | .actionTask actionId | .prTask actionId => some actionId
  | _ => none

/-- The operations that move a slot, or ask who has it. -/
def Op.slots : Op → Bool
  | .memory (.taskRunning _) | .memory (.tryHold ..) | .memory (.release _) | .createTask .. => true
  | _ => false

def Holds.given (holds : Holds) (actionId : String) (task : Nat) : Holds :=
  holds.map fun (id, hold) => if id == actionId then (id, { hold with task := some task }) else (id, hold)

def Holds.without (holds : Holds) (actionId : String) : Holds :=
  holds.filter fun (id, _) => id != actionId

/-- The slot of an action that `_release`, called by task `self`, does not pop. -/
def Hold.stays (self : Nat) (done : List Nat) (hold : Hold) : Prop :=
  ∃ task, hold.task = some task ∧ task ∉ done ∧ task ≠ self

inductive HoldStep (self fresh : Nat) (done : List Nat) (limit : Int) (holds : Holds) :
    (op : Op) → Except Exn op.Ans → Holds → Prop
  | same (op : Op) (answer : Except Exn op.Ans) (still : op.slots = false) :
      HoldStep self fresh done limit holds op answer holds
  | running (actionId : String) (hold : Hold) (task : Nat) (held : holds.lookup actionId = some hold)
      (given : hold.task = some task) (open' : task ∉ done) :
      HoldStep self fresh done limit holds (.memory (.taskRunning actionId)) (.ok true) holds
  | resting (actionId : String) (rests : ∀ hold task, holds.lookup actionId = some hold →
        hold.task = some task → task ∈ done) :
      HoldStep self fresh done limit holds (.memory (.taskRunning actionId)) (.ok false) holds
  | present (actionId reportId : String) (llm : Bool) (held : (holds.lookup actionId).isSome) :
      HoldStep self fresh done limit holds (.memory (.tryHold actionId reportId llm)) (.ok true) holds
  | missed (actionId reportId : String) (llm : Bool) (free : holds.lookup actionId = none) :
      HoldStep self fresh done limit holds (.memory (.tryHold actionId reportId llm)) (.ok false) holds
  | taken (actionId reportId : String) (llm : Bool) (free : holds.lookup actionId = none)
      (alone : ∀ id hold, (id, hold) ∈ holds → hold.reportId ≠ reportId)
      (room : llm = true → ((holds.filter fun (_, hold) => hold.llm).length : Int) < max 1 limit) :
      HoldStep self fresh done limit holds (.memory (.tryHold actionId reportId llm)) (.ok true)
        (holds ++ [(actionId, ⟨reportId, llm, none⟩)])
  | kept (actionId : String) (stays : ∀ hold, holds.lookup actionId = some hold → hold.stays self done) :
      HoldStep self fresh done limit holds (.memory (.release actionId)) (.ok ()) holds
  | popped (actionId : String) (idle : ∀ hold task, holds.lookup actionId = some hold →
        hold.task = some task → task ∈ done ∨ task = self) :
      HoldStep self fresh done limit holds (.memory (.release actionId)) (.ok ())
        (holds.without actionId)
  | attached (actionId : String) (job : Job) (held : (holds.lookup actionId).isSome) :
      HoldStep self fresh done limit holds (.createTask actionId job) (.ok ())
        (holds.given actionId fresh)
  | unheld (actionId : String) (job : Job) (error : Exn) (free : holds.lookup actionId = none) :
      HoldStep self fresh done limit holds (.createTask actionId job) (.error error) holds

section Steps

variable {self fresh : Nat} {before after : World}

theorem task_running_step (actionId : String) (limit : Int) (memory : Memory) :
    HoldStep self fresh memory.doneTasks limit memory.holds (.memory (.taskRunning actionId))
      (.ok (memory.taskRunning actionId)) memory.holds := by
  cases running : memory.taskRunning actionId with
  | true =>
      unfold Memory.taskRunning at running
      cases held : memory.holds.lookup actionId with
      | none =>
          rw [held] at running
          cases running
      | some hold =>
          cases given : hold.task with
          | none => simp [held, given] at running
          | some task =>
              exact .running actionId hold task held given
                (by simpa [held, given, Memory.taskDone] using running)
  | false =>
      refine .resting actionId fun hold task held given => ?_
      simpa [Memory.taskRunning, held, given, Memory.taskDone] using running

theorem try_hold_step (actionId reportId : String) (llm : Bool) (limit : Int) (memory : Memory) :
    HoldStep self fresh memory.doneTasks limit memory.holds
      (.memory (.tryHold actionId reportId llm))
      (.ok (memory.tryHold limit actionId reportId llm).1)
      (memory.tryHold limit actionId reportId llm).2.holds := by
  unfold Memory.tryHold
  split
  · rename_i held
    exact .present actionId reportId llm held
  rename_i free
  have free : memory.holds.lookup actionId = none := Option.not_isSome_iff_eq_none.mp free
  split
  · exact .missed actionId reportId llm free
  rename_i alone
  split
  · exact .missed actionId reportId llm free
  rename_i room
  refine .taken actionId reportId llm free (fun id hold member same => alone ?_) fun isLlm => ?_
  · exact List.any_eq_true.mpr ⟨(id, hold), member, by simp [same]⟩
  · rw [isLlm, Bool.true_and, decide_eq_true_eq] at room
    exact lt_of_not_ge room

theorem release_step (actionId : String) (limit : Int) (memory : Memory) :
    HoldStep self fresh memory.doneTasks limit memory.holds (.memory (.release actionId)) (.ok ())
      (memory.release self actionId).holds := by
  unfold Memory.release
  split
  · rename_i free
    exact .kept actionId fun hold found => by rw [free] at found; cases found
  rename_i hold held
  split
  · rename_i idle
    refine .popped actionId fun other task found given => ?_
    rw [held] at found
    cases found
    rw [given, Option.all_some, Memory.taskDone, Bool.or_eq_true, decide_eq_true_eq, beq_iff_eq] at idle
    exact idle
  rename_i running
  refine .kept actionId fun other found => ?_
  rw [held] at found
  cases found
  simp only [Option.all_eq_true, Memory.taskDone, Bool.or_eq_true, decide_eq_true_eq, beq_iff_eq,
    not_forall, not_or] at running
  obtain ⟨task, given, open', other⟩ := running
  exact ⟨task, given, open', other⟩

theorem op_holds {op : Op} {env : op.Env} {answer : Except Exn op.Ans}
    (ran : op.exec self fresh env before = some (answer, after)) :
    HoldStep self fresh before.memory.doneTasks before.settings.triageMaxConcurrent
      before.memory.holds op answer after.memory.holds := by
  cases op with
  | memory call =>
      cases ran
      cases call with
      | taskRunning actionId => exact task_running_step _ _ _
      | tryHold actionId reportId llm => exact try_hold_step _ _ _ _ _
      | release actionId => exact release_step _ _ _
      | dropClaim reportId token =>
          have kept : (MemoryCall.exec self before.settings (.dropClaim reportId token)
              before.memory).2.holds = before.memory.holds := by
            simp only [MemoryCall.exec]
            split <;> rfl
          dsimp only
          rw [kept]
          exact .same _ _ rfl
      | _ => exact .same _ _ rfl
  | createTask actionId job =>
      simp only [Op.exec] at ran
      split at ran <;> cases ran
      · rename_i held
        exact .attached _ _ held
      · rename_i free
        exact .unheld _ _ _ (Option.not_isSome_iff_eq_none.mp free)
  | _ =>
      have moved := exec_moves ran
      cases moved <;> exact .same _ _ rfl

theorem op_done {op : Op} {answer : Except Exn op.Ans} (moved : OpMoves self fresh before op answer after) :
    after.memory.doneTasks = before.memory.doneTasks := by
  cases moved with
  | memory call =>
      cases call with
      | tryHold actionId reportId llm =>
          simp only [MemoryCall.exec, Memory.tryHold]
          split_ifs <;> rfl
      | release actionId =>
          simp only [MemoryCall.exec, Memory.release]
          split
          · rfl
          · split <;> rfl
      | dropClaim reportId token =>
          simp only [MemoryCall.exec]
          split <;> rfl
      | _ => rfl
  | _ => rfl

theorem op_settings {op : Op} {answer : Except Exn op.Ans}
    (moved : OpMoves self fresh before op answer after) : after.settings = before.settings := by
  cases moved <;> rfl

end Steps

section Entries

variable {holds : Holds} {actionId : String} {hold : Hold}

theorem member_lookup (distinct : (holds.map Prod.fst).Nodup) (member : (actionId, hold) ∈ holds) :
    holds.lookup actionId = some hold := by
  induction holds with
  | nil => cases member
  | cons entry rest ih =>
      obtain ⟨id, other⟩ := entry
      simp only [List.map_cons, List.nodup_cons] at distinct
      rcases List.mem_cons.mp member with same | later
      · cases same
        simp [List.lookup]
      · have differs : actionId ≠ id := by
          rintro rfl
          exact distinct.1 (List.mem_map.mpr ⟨_, later, rfl⟩)
        simp only [List.lookup, beq_false_of_ne differs]
        exact ih distinct.2 later

theorem free_unlisted (free : holds.lookup actionId = none) : actionId ∉ holds.map Prod.fst := by
  intro listed
  obtain ⟨⟨id, other⟩, member, rfl⟩ := List.mem_map.mp listed
  have differs := List.lookup_eq_none_iff.mp free _ member
  simp at differs

theorem mem_without {id : String} : (id, hold) ∈ holds.without actionId ↔ (id, hold) ∈ holds ∧ id ≠ actionId := by
  simp [Holds.without]

theorem mem_given {id : String} {task : Nat} :
    (id, hold) ∈ holds.given actionId task ↔
      ∃ earlier, (id, earlier) ∈ holds ∧
        hold = if id = actionId then { earlier with task := some task } else earlier := by
  simp only [Holds.given, List.mem_map, Prod.exists]
  constructor
  · rintro ⟨other, earlier, member, same⟩
    by_cases here : other = actionId
    · rw [if_pos (by simpa using here)] at same
      cases same
      exact ⟨earlier, member, by rw [if_pos here]⟩
    · rw [if_neg (by simpa using here)] at same
      cases same
      exact ⟨_, member, by rw [if_neg here]⟩
  · rintro ⟨earlier, member, rfl⟩
    refine ⟨id, earlier, member, ?_⟩
    by_cases here : id = actionId <;> simp [here]

theorem given_keys (task : Nat) : (holds.given actionId task).map Prod.fst = holds.map Prod.fst := by
  rw [Holds.given, List.map_map]
  refine List.map_congr_left fun entry _ => ?_
  simp only [Function.comp]
  split <;> rfl

end Entries

end Bugalizer
