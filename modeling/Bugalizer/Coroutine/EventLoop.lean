import Bugalizer.Coroutine.Path
import Bugalizer.Coroutine.Program

/-!
# One event loop and its worker threads

A machine runs the coroutines of its jobs over one shared world. Jobs on the loop
give way to each other only at operations that suspend: such an operation is issued
first and answered later, and in between any other job may run. A threaded job is
not bound by the loop, so its operations fall anywhere, also between two operations
of the coroutine that holds the loop. A restart forgets every coroutine.

`State.step` is executable: the scheduler's choices, the answers of the outside and
the restarts are its input. `Moves` is its inversion, and every invariant below is
derived from it.
-/

namespace Bugalizer.Coroutine

set_option autoImplicit false

/-- What is found after one place was written anew: what was written there, or what was found before. -/
theorem updated_found {Item : Type} {items : Nat → Option Item} {id other : Nat} {next : Option Item} {item : Item}
    (found : Function.update items id next other = some item) :
    (other = id ∧ next = some item) ∨ (other ≠ id ∧ items other = some item) := by
  rw [Function.update_apply] at found
  split at found
  · rename_i here
    exact .inl ⟨here, found⟩
  · rename_i elsewhere
    exact .inr ⟨elsewhere, found⟩

structure Machine (Op : Type) (Ans Env : Op → Type) (Err World Job Boot : Type) where
  program : World → Job → Program Op Ans Err Unit
  /-- Jobs the outside may start at any time; the others are only spawned. -/
  rooted : Job → Bool
  threaded : Job → Bool
  suspends : Op → Bool
  spawns : Op → Option Job
  /-- `exec self fresh op env world`: task `self` runs `op` under the outside's choice
  `env`; a task it spawns gets the number `fresh`. `none` while the operation blocks. -/
  exec : Nat → Nat → (op : Op) → Env op → World → Option (Except Err (Ans op) × World)
  ended : Nat → World → World
  restart : Boot → World → World

section Machine

variable {Op : Type} {Ans Env : Op → Type} {Err World Job Boot : Type}

structure Task (Op : Type) (Ans : Op → Type) (Err Job : Type) where
  job : Job
  rest : Program Op Ans Err Unit
  waiting : Bool

/-- `holder` is the loop task between two of its suspensions, if there is one. -/
structure State (Op : Type) (Ans : Op → Type) (Err World Job : Type) where
  world : World
  tasks : Nat → Option (Task Op Ans Err Job)
  fresh : Nat
  holder : Option Nat

inductive Event (Op : Type) (Ans : Op → Type) (Err Job : Type) : Type
  | started (job : Job)
  | issued (id : Nat) (op : Op)
  | answered (id : Nat) (op : Op) (answer : Except Err (Ans op))
  | ended (id : Nat)
  | restarted

inductive Choice (Op : Type) (Env : Op → Type) (Job Boot : Type) : Type
  | start (job : Job)
  | advance (id : Nat) (oracle : (op : Op) → Env op)
  | restart (boot : Boot)

namespace State

variable (machine : Machine Op Ans Env Err World Job Boot)

def boot (world : World) : State Op Ans Err World Job :=
  { world, tasks := fun _ => none, fresh := 0, holder := none }

def begin (job : Job) (state : State Op Ans Err World Job) : State Op Ans Err World Job :=
  { state with
    tasks := Function.update state.tasks state.fresh
      (some { job, rest := machine.program state.world job, waiting := false })
    fresh := state.fresh + 1 }

def beginAll : Option Job → State Op Ans Err World Job → State Op Ans Err World Job
  | none, state => state
  | some job, state => state.begin machine job

/-- A loop task may only run while no other task holds the loop. -/
def mayRun (id : Nat) (task : Task Op Ans Err Job) (state : State Op Ans Err World Job) : Bool :=
  machine.threaded task.job || state.holder.all (· == id)

def holderAfter (id : Nat) (task : Task Op Ans Err Job)
    (state : State Op Ans Err World Job) : Option Nat :=
  if machine.threaded task.job then state.holder else some id

def finish (id : Nat) (state : State Op Ans Err World Job) : State Op Ans Err World Job :=
  { state with
    world := machine.ended id state.world
    tasks := Function.update state.tasks id none
    holder := if state.holder = some id then none else state.holder }

def advance (id : Nat) (oracle : (op : Op) → Env op) (state : State Op Ans Err World Job) :
    Option (Event Op Ans Err Job × State Op Ans Err World Job) :=
  match state.tasks id with
  | none => none
  | some task =>
      if state.mayRun machine id task then
        match task.rest with
        | .done _ => some (.ended id, state.finish machine id)
        | .raise _ => some (.ended id, state.finish machine id)
        | .call op next =>
            if machine.suspends op && !task.waiting then
              some (.issued id op,
                { state with
                  tasks := Function.update state.tasks id (some { task with waiting := true })
                  holder := if machine.threaded task.job then state.holder else none })
            else
              match machine.exec id state.fresh op (oracle op) state.world with
              | none => none
              | some (answer, world) =>
                  some (.answered id op answer,
                    beginAll machine (machine.spawns op)
                      { state with
                        world
                        tasks := Function.update state.tasks id
                          (some { task with rest := next answer, waiting := false })
                        holder := state.holderAfter machine id task })
      else none

def step (state : State Op Ans Err World Job) :
    Choice Op Env Job Boot → Option (Event Op Ans Err Job × State Op Ans Err World Job)
  | .start job => if machine.rooted job then some (.started job, state.begin machine job) else none
  | .advance id oracle => state.advance machine id oracle
  | .restart boot =>
      some (.restarted,
        { state with
          world := machine.restart boot state.world
          tasks := fun _ => none
          holder := none })

/-- The choices in order; `none` as soon as one of them is not possible. -/
def steps : List (Choice Op Env Job Boot) → State Op Ans Err World Job →
    Option (List (Event Op Ans Err Job) × State Op Ans Err World Job)
  | [], state => some ([], state)
  | choice :: choices, state =>
      match state.step machine choice with
      | none => none
      | some (event, next) =>
          match next.steps choices with
          | none => none
          | some (events, last) => some (event :: events, last)

end State

variable (machine : Machine Op Ans Env Err World Job Boot)

/-- What one step can do. -/
inductive Moves : State Op Ans Err World Job → Event Op Ans Err Job →
    State Op Ans Err World Job → Prop
  | started (state : State Op Ans Err World Job) (job : Job) (rooted : machine.rooted job) :
      Moves state (.started job) (state.begin machine job)
  | issued (state : State Op Ans Err World Job) (id : Nat) (task : Task Op Ans Err Job) (op : Op)
      (next : Except Err (Ans op) → Program Op Ans Err Unit)
      (found : state.tasks id = some task) (running : state.mayRun machine id task)
      (asks : task.rest = .call op next) (suspends : machine.suspends op)
      (awake : task.waiting = false) :
      Moves state (.issued id op)
        { state with
          tasks := Function.update state.tasks id (some { task with waiting := true })
          holder := if machine.threaded task.job then state.holder else none }
  | answered (state : State Op Ans Err World Job) (id : Nat) (task : Task Op Ans Err Job) (op : Op)
      (next : Except Err (Ans op) → Program Op Ans Err Unit) (env : Env op)
      (answer : Except Err (Ans op)) (world : World)
      (found : state.tasks id = some task) (running : state.mayRun machine id task)
      (asks : task.rest = .call op next)
      (ready : machine.suspends op = true → task.waiting = true)
      (ran : machine.exec id state.fresh op env state.world = some (answer, world)) :
      Moves state (.answered id op answer)
        (State.beginAll machine (machine.spawns op)
          { state with
            world
            tasks := Function.update state.tasks id
              (some { task with rest := next answer, waiting := false })
            holder := state.holderAfter machine id task })
  | ended (state : State Op Ans Err World Job) (id : Nat) (task : Task Op Ans Err Job)
      (found : state.tasks id = some task) (running : state.mayRun machine id task)
      (closed : task.rest = .done () ∨ ∃ error, task.rest = .raise error) :
      Moves state (.ended id) (state.finish machine id)
  | restarted (state : State Op Ans Err World Job) (boot : Boot) :
      Moves state .restarted
        { state with
          world := machine.restart boot state.world
          tasks := fun _ => none
          holder := none }

variable {machine}

theorem advance_moves {state next : State Op Ans Err World Job} {id : Nat}
    {oracle : (op : Op) → Env op} {event : Event Op Ans Err Job}
    (stepped : state.advance machine id oracle = some (event, next)) :
    Moves machine state event next := by
  unfold State.advance at stepped
  split at stepped
  · cases stepped
  rename_i task found
  split at stepped
  swap
  · cases stepped
  rename_i running
  split at stepped
  · rename_i result closed
    cases stepped
    exact .ended state id task found running (.inl closed)
  · rename_i error closed
    cases stepped
    exact .ended state id task found running (.inr ⟨error, closed⟩)
  · rename_i op rest asks
    split at stepped
    · rename_i suspended
      simp only [Bool.and_eq_true, Bool.not_eq_true'] at suspended
      cases stepped
      exact .issued state id task op rest found running asks suspended.1 suspended.2
    · rename_i ready
      split at stepped
      · cases stepped
      rename_i answer world ran
      cases stepped
      refine .answered state id task op rest (oracle op) answer world found running asks ?_ ran
      intro suspends
      simpa [suspends] using ready

theorem step_moves {state next : State Op Ans Err World Job} {choice : Choice Op Env Job Boot}
    {event : Event Op Ans Err Job} (stepped : state.step machine choice = some (event, next)) :
    Moves machine state event next := by
  cases choice with
  | start job =>
      simp only [State.step] at stepped
      split at stepped
      · rename_i rooted
        cases stepped
        exact .started state job rooted
      · cases stepped
  | advance id oracle => exact advance_moves stepped
  | restart boot =>
      cases stepped
      exact .restarted state boot

variable (machine) in
abbrev Run (first : State Op Ans Err World Job) (events : List (Event Op Ans Err Job))
    (last : State Op Ans Err World Job) : Prop :=
  Path (Moves machine) first events last

theorem steps_run {choices : List (Choice Op Env Job Boot)}
    {first last : State Op Ans Err World Job} {events : List (Event Op Ans Err Job)}
    (stepped : first.steps machine choices = some (events, last)) :
    Run machine first events last := by
  induction choices generalizing first events with
  | nil =>
      cases stepped
      exact .nil
  | cons choice choices ih =>
      simp only [State.steps] at stepped
      split at stepped
      · cases stepped
      rename_i event next moved
      split at stepped
      · cases stepped
      rename_i rest final finished
      cases stepped
      exact .cons (step_moves moved) (ih finished)

/-- The run that a list of choices makes, when each of them is possible. -/
theorem steps_get {choices : List (Choice Op Env Job Boot)} {first : State Op Ans Err World Job}
    (possible : (first.steps machine choices).isSome) :
    Run machine first ((first.steps machine choices).get possible).1
      ((first.steps machine choices).get possible).2 :=
  steps_run (Option.some_get possible).symm

def State.Numbered (state : State Op Ans Err World Job) : Prop :=
  ∀ id, (state.tasks id).isSome → id < state.fresh

theorem begin_numbered {state : State Op Ans Err World Job} (numbered : state.Numbered) (job : Job) :
    (state.begin machine job).Numbered := by
  intro id living
  simp only [State.begin, Function.update_apply] at living
  show id < state.fresh + 1
  split at living
  · omega
  · have young := numbered id living
    omega

theorem moves_numbered {state next : State Op Ans Err World Job} {event : Event Op Ans Err Job}
    (numbered : state.Numbered) (moves : Moves machine state event next) : next.Numbered := by
  have updated : ∀ id task, state.tasks id = some task → ∀ other (task' : Task Op Ans Err Job),
      (Function.update state.tasks id (some task') other).isSome → other < state.fresh := by
    intro id task found other task' living
    rw [Function.update_apply] at living
    split at living
    · rename_i same
      exact same ▸ numbered id (by simp [found])
    · exact numbered other living
  cases moves with
  | started job rooted => exact begin_numbered numbered job
  | issued id task op rest found running asks suspends awake =>
      exact fun other living => updated id task found other _ living
  | answered id task op rest env answer world found running asks ready ran =>
      have kept : State.Numbered
          { state with
            world
            tasks := Function.update state.tasks id
              (some { task with rest := rest answer, waiting := false })
            holder := state.holderAfter machine id task } :=
        fun other living => updated id task found other _ living
      cases machine.spawns op with
      | none => exact kept
      | some job => exact begin_numbered kept job
  | ended id task found running closed =>
      intro other living
      simp only [State.finish, Function.update_apply] at living
      split at living
      · cases living
      · exact numbered other living
  | restarted boot => exact fun other living => by cases living

theorem run_numbered {world : World} {events : List (Event Op Ans Err Job)}
    {last : State Op Ans Err World Job} (run : Run machine (State.boot world) events last) :
    last.Numbered :=
  @Path.keeps _ _ _ State.Numbered _ _ _ run (fun id living => by cases living)
    fun _ _ _ moves numbered => moves_numbered numbered moves

/-- The choices in order, as long as the steps they make are allowed. -/
def State.guardedSteps (machine : Machine Op Ans Env Err World Job Boot)
    (allowed : List (Event Op Ans Err Job) → State Op Ans Err World Job → Event Op Ans Err Job → Prop)
    [∀ past state event, Decidable (allowed past state event)] :
    List (Choice Op Env Job Boot) → List (Event Op Ans Err Job) → State Op Ans Err World Job →
      Option (List (Event Op Ans Err Job) × State Op Ans Err World Job)
  | [], past, state => some (past, state)
  | choice :: choices, past, state =>
      match state.step machine choice with
      | none => none
      | some (event, next) =>
          if allowed past state event then
            State.guardedSteps machine allowed choices (past ++ [event]) next
          else none

section Guarded

variable {allowed : List (Event Op Ans Err Job) → State Op Ans Err World Job →
  Event Op Ans Err Job → Prop}
variable [∀ past state event, Decidable (allowed past state event)]

theorem guarded_steps_run {choices : List (Choice Op Env Job Boot)}
    {first middle last : State Op Ans Err World Job} {past events : List (Event Op Ans Err Job)}
    (before : Guarded (Moves machine) allowed first past middle)
    (stepped : middle.guardedSteps machine allowed choices past = some (events, last)) :
    Guarded (Moves machine) allowed first events last := by
  induction choices generalizing past middle with
  | nil =>
      cases stepped
      exact before
  | cons choice choices ih =>
      simp only [State.guardedSteps] at stepped
      split at stepped
      · cases stepped
      rename_i event next moved
      split at stepped
      · rename_i allows
        exact ih (.snoc before (step_moves moved) allows) stepped
      · cases stepped

/-- The guarded run that a list of choices makes, when each of them is possible and allowed. -/
theorem guarded_steps_get {choices : List (Choice Op Env Job Boot)}
    {first : State Op Ans Err World Job}
    (possible : (first.guardedSteps machine allowed choices []).isSome) :
    Guarded (Moves machine) allowed first
      ((first.guardedSteps machine allowed choices []).get possible).1
      ((first.guardedSteps machine allowed choices []).get possible).2 :=
  guarded_steps_run .nil (Option.some_get possible).symm

end Guarded

section Scripts

variable (machine)

/-- Choices that are possible from a state, one after the other. -/
structure Script (first : State Op Ans Err World Job) : Type where
  choices : List (Choice Op Env Job Boot)
  possible : (first.steps machine choices).isSome

/-- The same, where each step is allowed too. -/
structure GuardedScript (first : State Op Ans Err World Job)
    (allowed : List (Event Op Ans Err Job) → State Op Ans Err World Job → Event Op Ans Err Job → Prop)
    [∀ past state event, Decidable (allowed past state event)] : Type where
  choices : List (Choice Op Env Job Boot)
  possible : (first.guardedSteps machine allowed choices []).isSome

/-- One choice that is possible in a state. -/
structure Scene (state : State Op Ans Err World Job) : Type where
  choice : Choice Op Env Job Boot
  possible : (state.step machine choice).isSome

variable {machine}

namespace Script

variable {first : State Op Ans Err World Job} (script : Script machine first)

def events : List (Event Op Ans Err Job) := ((first.steps machine script.choices).get script.possible).1

def last : State Op Ans Err World Job := ((first.steps machine script.choices).get script.possible).2

theorem run : Run machine first script.events script.last := steps_get script.possible

end Script

namespace GuardedScript

variable {first : State Op Ans Err World Job}
  {allowed : List (Event Op Ans Err Job) → State Op Ans Err World Job → Event Op Ans Err Job → Prop}
  [∀ past state event, Decidable (allowed past state event)] (script : GuardedScript machine first allowed)

def events : List (Event Op Ans Err Job) :=
  ((first.guardedSteps machine allowed script.choices []).get script.possible).1

def last : State Op Ans Err World Job :=
  ((first.guardedSteps machine allowed script.choices []).get script.possible).2

theorem run : Guarded (Moves machine) allowed first script.events script.last :=
  guarded_steps_get script.possible

end GuardedScript

namespace Scene

variable {state : State Op Ans Err World Job} (scene : Scene machine state)

def event : Event Op Ans Err Job := ((state.step machine scene.choice).get scene.possible).1

def next : State Op Ans Err World Job := ((state.step machine scene.choice).get scene.possible).2

theorem moves : Moves machine state scene.event scene.next :=
  step_moves (Option.some_get scene.possible).symm

end Scene

end Scripts

def Event.Asks (allowed : Op → Prop) : Event Op Ans Err Job → Prop
  | .issued _ op => allowed op
  | .answered _ op _ => allowed op
  | _ => True

/-- Every coroutine still alive only asks for allowed operations. -/
def State.Within (allowed : Op → Prop) (state : State Op Ans Err World Job) : Prop :=
  ∀ id task, state.tasks id = some task → task.rest.Only allowed

section Within

variable {allowed : Op → Prop}

theorem begin_within {state : State Op Ans Err World Job} {job : Job}
    (programs : ∀ world job, (machine.program world job).Only allowed)
    (within : state.Within allowed) : (state.begin machine job).Within allowed := by
  intro id task found
  obtain ⟨-, same⟩ | ⟨-, was⟩ := updated_found found
  · cases same
    exact programs _ _
  · exact within id task was

theorem moves_within {state next : State Op Ans Err World Job} {event : Event Op Ans Err Job}
    (programs : ∀ world job, (machine.program world job).Only allowed)
    (within : state.Within allowed) (moves : Moves machine state event next) :
    event.Asks allowed ∧ next.Within allowed := by
  cases moves with
  | started job rooted => exact ⟨trivial, begin_within programs within⟩
  | issued id task op rest found running asks suspends awake =>
      have only := within id task found
      refine ⟨(asks ▸ only).1, ?_⟩
      intro other task' found'
      obtain ⟨-, same⟩ | ⟨-, was⟩ := updated_found found'
      · cases same
        exact only
      · exact within other task' was
  | answered id task op rest env answer world found running asks ready ran =>
      have only : (Program.call op rest).Only allowed := asks ▸ within id task found
      refine ⟨only.1, ?_⟩
      have kept : State.Within allowed
          { state with
            world
            tasks := Function.update state.tasks id
              (some { task with rest := rest answer, waiting := false })
            holder := state.holderAfter machine id task } := by
        intro other task' found'
        obtain ⟨-, same⟩ | ⟨-, was⟩ := updated_found found'
        · cases same
          exact only.2 answer
        · exact within other task' was
      cases machine.spawns op with
      | none => exact kept
      | some job => exact begin_within programs kept
  | ended id task found running closed =>
      refine ⟨trivial, ?_⟩
      intro other task' found'
      obtain ⟨-, same⟩ | ⟨-, was⟩ := updated_found found'
      · cases same
      · exact within other task' was
  | restarted boot => exact ⟨trivial, fun id task found => by cases found⟩

theorem within_run {first last : State Op Ans Err World Job} {events : List (Event Op Ans Err Job)}
    (programs : ∀ world job, (machine.program world job).Only allowed)
    (within : first.Within allowed) (run : Run machine first events last) :
    (∀ event ∈ events, event.Asks allowed) ∧ last.Within allowed := by
  induction run with
  | nil => exact ⟨by simp, within⟩
  | snoc before moves ih =>
      obtain ⟨asked, within⟩ := ih
      obtain ⟨asks, kept⟩ := moves_within programs within moves
      refine ⟨?_, kept⟩
      intro event member
      rcases List.mem_append.mp member with earlier | now
      · exact asked event earlier
      · rw [List.mem_singleton.mp now]
        exact asks

theorem boot_within (world : World) :
    (State.boot world : State Op Ans Err World Job).Within allowed := fun _ _ found => by cases found

theorem run_within {world : World} {events : List (Event Op Ans Err Job)}
    {last : State Op Ans Err World Job}
    (programs : ∀ world job, (machine.program world job).Only allowed)
    (run : Run machine (State.boot world) events last) :
    (∀ event ∈ events, event.Asks allowed) ∧ last.Within allowed :=
  within_run programs (boot_within world) run

/-- How one step moves the world, when every coroutine only asks for allowed operations. -/
inductive WorldMoves (machine : Machine Op Ans Env Err World Job Boot) (allowed : Op → Prop) :
    World → Event Op Ans Err Job → World → Prop
  | same (world : World) (event : Event Op Ans Err Job)
      (quiet : ∀ id op answer, event ≠ .answered id op answer) : WorldMoves machine allowed world event world
  | operation (before after : World) (self fresh : Nat) (op : Op) (env : Env op)
      (answer : Except Err (Ans op)) (asks : allowed op)
      (ran : machine.exec self fresh op env before = some (answer, after)) :
      WorldMoves machine allowed before (.answered self op answer) after
  | ending (world : World) (id : Nat) : WorldMoves machine allowed world (.ended id) (machine.ended id world)
  | restarting (world : World) (boot : Boot) :
      WorldMoves machine allowed world .restarted (machine.restart boot world)

theorem moves_world {state next : State Op Ans Err World Job} {event : Event Op Ans Err Job}
    (within : state.Within allowed) (moves : Moves machine state event next) :
    WorldMoves machine allowed state.world event next.world := by
  cases moves with
  | started job rooted => exact .same _ _ fun _ _ _ same => by cases same
  | issued id task op rest found running asks suspends awake =>
      exact .same _ _ fun _ _ _ same => by cases same
  | answered id task op rest env answer world found running asks ready ran =>
      have only : (Program.call op rest).Only allowed := asks ▸ within id task found
      have moved : WorldMoves machine allowed state.world (.answered id op answer) world :=
        .operation _ _ _ _ op env answer only.1 ran
      cases machine.spawns op <;> exact moved
  | ended id task found running closed => exact .ending _ _
  | restarted boot => exact .restarting _ _

theorem run_world {first last : State Op Ans Err World Job} {events : List (Event Op Ans Err Job)}
    (programs : ∀ world job, (machine.program world job).Only allowed)
    (within : first.Within allowed) (run : Run machine first events last) :
    Path (WorldMoves machine allowed) first.world events last.world := by
  induction run with
  | nil => exact .nil
  | snoc before moves ih => exact .snoc ih (moves_world (within_run programs within before).2 moves)

end Within

end Machine

end Bugalizer.Coroutine
