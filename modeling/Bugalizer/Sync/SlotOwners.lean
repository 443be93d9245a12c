import Bugalizer.Sync.SlotRuns

/-!
# One owner for each slot

Whatever the ticks do, a report has one slot and the LLM slots are as many as may be. A task
has the slot of its action until it ends, and the action no other task, in every run in
which `_try_hold` finds no slot there but one that was left behind.
-/

namespace Bugalizer

set_option autoImplicit false

open Coroutine Program

/-- One slot a report, and of LLM actions as many as may be. -/
structure Holds.Rationed (limit : Int) (holds : Holds) : Prop where
  reports : (holds.map fun entry => entry.2.reportId).Nodup
  llm : ((holds.filter fun (_, hold) => hold.llm).length : Int) ≤ max 1 limit

section Rations

variable {self fresh : Nat} {done : List Nat} {limit : Int} {before after : Holds} {op : Op}
variable {answer : Except Exn op.Ans}

theorem rationed_nil : Holds.Rationed limit [] := ⟨List.nodup_nil, le_max_of_le_left zero_le_one⟩

theorem rationed_taken {actionId reportId : String} {llm : Bool} (rationed : before.Rationed limit)
    (alone : ∀ id hold, (id, hold) ∈ before → hold.reportId ≠ reportId)
    (room : llm = true → ((before.filter fun (_, hold) => hold.llm).length : Int) < max 1 limit) :
    Holds.Rationed limit (before ++ [(actionId, ⟨reportId, llm, none⟩)]) := by
  constructor
  · rw [List.map_append, List.nodup_append]
    refine ⟨rationed.reports, List.nodup_singleton _, fun report member other single same => ?_⟩
    obtain ⟨⟨id, hold⟩, held, rfl⟩ := List.mem_map.mp member
    rw [List.mem_singleton.mp single] at same
    exact alone id hold held same
  · rw [List.filter_append, List.length_append]
    cases llm with
    | false => simpa using rationed.llm
    | true =>
        have room := room rfl
        have one : ([(actionId, (⟨reportId, true, none⟩ : Hold))].filter fun (_, hold) => hold.llm).length = 1 :=
          rfl
        rw [one, Nat.cast_add, Nat.cast_one]
        exact Int.add_one_le_of_lt room

theorem rationed_without {actionId : String} (rationed : before.Rationed limit) :
    (before.without actionId).Rationed limit := by
  have fewer : (before.without actionId).Sublist before := List.filter_sublist
  refine ⟨rationed.reports.sublist (fewer.map _), le_trans ?_ rationed.llm⟩
  exact_mod_cast (fewer.filter _).length_le

theorem rationed_given {actionId : String} {task : Nat} (rationed : before.Rationed limit) :
    (before.given actionId task).Rationed limit := by
  have reports : (before.given actionId task).map (fun entry => entry.2.reportId) =
      before.map fun entry => entry.2.reportId := by
    rw [Holds.given, List.map_map]
    refine List.map_congr_left fun entry _ => ?_
    simp only [Function.comp]
    split <;> rfl
  have llm : ((before.given actionId task).filter fun (_, hold) => hold.llm).length =
      (before.filter fun (_, hold) => hold.llm).length := by
    rw [Holds.given, List.filter_map, List.length_map]
    congr 1
    refine List.filter_congr fun entry _ => ?_
    simp only [Function.comp]
    split <;> rfl
  exact ⟨by rw [reports]; exact rationed.reports, by rw [llm]; exact rationed.llm⟩

theorem rationed_step (rationed : before.Rationed limit)
    (step : HoldStep self fresh done limit before op answer after) : after.Rationed limit := by
  cases step with
  | taken actionId reportId llm free alone room => exact rationed_taken rationed alone room
  | popped actionId idle => exact rationed_without rationed
  | attached actionId job held => exact rationed_given rationed
  | _ => exact rationed

theorem rationed_run {db : Database} {settings : Settings} {events : List Ev} {last : Sys}
    (run : Run bugalizer (State.boot (World.initial db settings)) events last) :
    Holds.Rationed last.world.settings.triageMaxConcurrent last.world.memory.holds := by
  induction run with
  | nil => exact rationed_nil
  | snoc before moves ih =>
      cases moves with
      | answered self task op rest env answer world found running asks ready ran =>
          have rationed : Holds.Rationed world.settings.triageMaxConcurrent world.memory.holds := by
            rw [op_settings (exec_moves ran)]
            exact rationed_step ih (op_holds ran)
          cases spawns : bugalizer.spawns op with
          | none => exact rationed
          | some job => exact rationed
      | restarted boot => exact rationed_nil
      | _ => exact ih

end Rations

/-- The program has something to do. -/
def unfinished : Py Unit → Bool
  | .call _ _ => true
  | _ => false

/-- The task is of this action, and has not come to its end. -/
def worksOn (state : Sys) (actionId : String) (id : Nat) : Bool :=
  match state.tasks id with
  | some task => task.job.action == some actionId && unfinished task.rest
  | none => false

/-- What is promised of the slots in one state. -/
structure Exclusive (state : Sys) : Prop where
  rationed : Holds.Rationed state.world.settings.triageMaxConcurrent state.world.memory.holds
  owned : ∀ actionId id, worksOn state actionId id = true →
    ∃ hold, (actionId, hold) ∈ state.world.memory.holds ∧ hold.task = some id
  alone : ∀ actionId one other, worksOn state actionId one = true → worksOn state actionId other = true →
    one = other

/-- In every run in which each slot that `_try_hold` finds was left behind, a task has the slot of its
action until it ends, and no two tasks are of one action. -/
theorem slots_are_exclusive (db : Database) (settings : Settings) {events : List Ev} {last : Sys}
    (run : Guarded (Moves bugalizer) takesFree (State.boot (World.initial db settings)) events last) :
    Exclusive last := by
  have bound : (slotPact ⟨False, True⟩).Bound events last :=
    Pact.run_bound slot_lawful (run.mono fun _ _ _ free => ⟨False.elim, fun _ => free⟩)
      (slots_initially _ db settings)
  have kept : (slotView events last).Kept ⟨False, True⟩ := bound.holds
  have owned : ∀ actionId id, worksOn last actionId id = true →
      ∃ hold, (actionId, hold) ∈ last.world.memory.holds ∧ hold.task = some id := by
    intro actionId id works
    unfold worksOn at works
    split at works
    · rename_i task found
      obtain ⟨works, goes⟩ := Bool.and_eq_true_iff.mp works
      have works : task.job.action = some actionId := by simpa using works
      cases asks : task.rest with
      | call op rest =>
          -- It asks for something, so it has not run its `_release`.
          have asked := (bound.linked id task found).asks slot_lawful bound.holds asks
          exact (kept.sole trivial).owned id task.job actionId (by simp [slotView, Sys.jobs, found]) works
            (asked.1.unfreed (by rw [works]; rfl))
      | _ =>
          rw [asks] at goes
          cases goes
    · cases works
  refine ⟨rationed_run run.path, owned, fun actionId one other works works' => ?_⟩
  obtain ⟨hold, member, mine⟩ := owned actionId one works
  obtain ⟨hold', member', theirs⟩ := owned actionId other works'
  have same := (member_lookup kept.distinct member).symm.trans (member_lookup kept.distinct member')
  cases same
  exact Option.some.inj (mine.symm.trans theirs)

/-- A tick that has handed an action over to a task. -/
def taskStarted : Option (List Ev × Sys) :=
  (State.boot (Scenario.world (Scenario.database .triaged .empty))).guardedSteps bugalizer takesFree
    (Scenario.listingTick "analyze_local" .null 38) []

def taskStartedScript : GuardedScript bugalizer
    (State.boot (Scenario.world (Scenario.database .triaged .empty))) takesFree :=
  ⟨Scenario.listingTick "analyze_local" .null 38, by decide +kernel⟩

theorem task_started_runs : taskStarted.isSome := taskStartedScript.possible

theorem slots_are_exclusive_task_started :
    Exclusive (taskStarted.get task_started_runs).2 ∧
      worksOn (taskStarted.get task_started_runs).2 "a" 1 = true :=
  ⟨slots_are_exclusive _ _ (guarded_steps_get task_started_runs), by decide +kernel⟩

/-- A project that polls this deployment. -/
def Scenario.deployed (id url : String) : Project :=
  { Scenario.project with
    id, ingestConfig := .obj [("url", .str url), ("triage_credential_env", .str "TOKEN")] }

def Scenario.bothDeployed : List Project :=
  [Scenario.deployed "p" "https://p/bugs", Scenario.deployed "q" "https://q/bugs"]

theorem both_distinct : (Scenario.bothDeployed.map Project.id).Nodup := by decide

def Scenario.twoProjects : Database :=
  { Database.empty with
    reports := ⟨[Scenario.report .triaged], List.nodup_singleton _⟩
    projects := ⟨Scenario.bothDeployed, both_distinct⟩ }

/-- Two sonicgrids that list an action of one id and answer its claim with this status. -/
def Scenario.twoGrids (claimed : Nat) : (op : Op) → op.Env
  | .compute (.triageBaseUrl config) =>
      .ok (some (if (config.get "url").string? = some "https://p/bugs" then "https://p" else "https://q"))
  | op => Scenario.grid 5 (Scenario.pending "analyze_local" .null) claimed op

/-- While the tick of one project waits for its claim, that of the other takes the same slot,
fails its claim and gives the slot back. -/
def Scenario.sharedAction : List (Choice Op Op.Env Job Boot) :=
  .start (.syncProject "p" false) :: Scenario.steps 0 (Scenario.twoGrids 200) 19 ++
    .start (.syncProject "q" false) :: Scenario.steps 1 (Scenario.twoGrids 500) 25 ++
      Scenario.steps 0 (Scenario.twoGrids 200) 10

def slotShared : Option (List Ev × Sys) :=
  (State.boot (Scenario.world Scenario.twoProjects)).steps bugalizer Scenario.sharedAction

def slotSharedScript : Script bugalizer (State.boot (Scenario.world Scenario.twoProjects)) :=
  ⟨Scenario.sharedAction, by decide +kernel⟩

theorem slot_shared_runs : slotShared.isSome := slotSharedScript.possible

/-- The task of the first project's tick then runs without a slot. -/
theorem task_without_slot :
    ¬∀ events (last : Sys), Run bugalizer (State.boot (Scenario.world Scenario.twoProjects)) events last →
      Exclusive last := by
  intro claim
  have run : Run bugalizer _ _ (slotShared.get slot_shared_runs).2 := steps_get slot_shared_runs
  have works : worksOn (slotShared.get slot_shared_runs).2 "a" 2 = true := by decide +kernel
  have empty : (slotShared.get slot_shared_runs).2.world.memory.holds = [] := by decide +kernel
  obtain ⟨hold, member, -⟩ := (claim _ _ run).owned "a" 2 works
  rw [empty] at member
  cases member

end Bugalizer
