import Bugalizer.Coroutine.EventLoop

/-!
# Runs of disciplined coroutines

When every job's coroutine keeps a discipline, a run of the machine can be followed on
shadows: the same world, and of each task its job and its ghost in place of its program.
An invariant is then proved of shadow steps alone, from what the discipline allows, and
holds of every run (`Guarded.shadowed`).
-/

namespace Bugalizer.Coroutine

set_option autoImplicit false

section Conduct

variable {Op : Type} {Ans Env : Op → Type} {Err World Job Boot : Type}

/-- A discipline every job keeps, from its first ghost to a final one. -/
structure Conduct (machine : Machine Op Ans Env Err World Job Boot) where
  discipline : Discipline Op Ans Err
  initial : World → Job → discipline.Ghost
  final : Job → discipline.Ghost → Prop
  keeps : ∀ world job, (machine.program world job).Follows discipline (initial world job)
    (fun _ => final job) (fun _ => final job)

/-- `waiting` is the operation the task has issued and was not yet answered. -/
structure Actor (Op Ghost Job : Type) where
  job : Job
  ghost : Ghost
  waiting : Option Op

structure Shadow (Op Ghost World Job : Type) where
  world : World
  actors : Nat → Option (Actor Op Ghost Job)
  fresh : Nat
  holder : Option Nat

variable {machine : Machine Op Ans Env Err World Job Boot} (conduct : Conduct machine)

abbrev Conduct.Ghost : Type := conduct.discipline.Ghost

namespace Shadow

def boot (world : World) : Shadow Op conduct.Ghost World Job :=
  { world, actors := fun _ => none, fresh := 0, holder := none }

def begin (job : Job) (shadow : Shadow Op conduct.Ghost World Job) : Shadow Op conduct.Ghost World Job :=
  { shadow with
    actors := Function.update shadow.actors shadow.fresh
      (some { job, ghost := conduct.initial shadow.world job, waiting := none })
    fresh := shadow.fresh + 1 }

def beginAll : Option Job → Shadow Op conduct.Ghost World Job → Shadow Op conduct.Ghost World Job
  | none, shadow => shadow
  | some job, shadow => shadow.begin conduct job

/-- A loop task may only run while no other task holds the loop. -/
def MayRun (id : Nat) (actor : Actor Op conduct.Ghost Job)
    (shadow : Shadow Op conduct.Ghost World Job) : Prop :=
  machine.threaded actor.job = true ∨ ∀ other, shadow.holder = some other → other = id

/-- The shadow after an issued operation: the task waits and gives the loop away. -/
def await (id : Nat) (actor : Actor Op conduct.Ghost Job) (op : Op)
    (shadow : Shadow Op conduct.Ghost World Job) : Shadow Op conduct.Ghost World Job :=
  { shadow with
    actors := Function.update shadow.actors id (some { actor with waiting := some op })
    holder := if machine.threaded actor.job then shadow.holder else none }

/-- The shadow after an answered operation, but for a task it spawns. -/
def resume (id : Nat) (actor : Actor Op conduct.Ghost Job) (op : Op) (answer : Except Err (Ans op))
    (world : World) (shadow : Shadow Op conduct.Ghost World Job) : Shadow Op conduct.Ghost World Job :=
  { shadow with
    world
    actors := Function.update shadow.actors id
      (some { actor with ghost := conduct.discipline.next actor.ghost op answer, waiting := none })
    holder := if machine.threaded actor.job then shadow.holder else some id }

def finish (id : Nat) (shadow : Shadow Op conduct.Ghost World Job) : Shadow Op conduct.Ghost World Job :=
  { shadow with
    world := machine.ended id shadow.world
    actors := Function.update shadow.actors id none
    holder := if shadow.holder = some id then none else shadow.holder }

def restart (boot : Boot) (shadow : Shadow Op conduct.Ghost World Job) :
    Shadow Op conduct.Ghost World Job :=
  { shadow with
    world := machine.restart boot shadow.world
    actors := fun _ => none
    holder := none }

end Shadow

/-- What one step can do, as far as the discipline tells. -/
inductive ShadowMoves : Shadow Op conduct.Ghost World Job → Event Op Ans Err Job →
    Shadow Op conduct.Ghost World Job → Prop
  | started (shadow : Shadow Op conduct.Ghost World Job) (job : Job) (rooted : machine.rooted job) :
      ShadowMoves shadow (.started job) (shadow.begin conduct job)
  | issued (shadow : Shadow Op conduct.Ghost World Job) (id : Nat) (actor : Actor Op conduct.Ghost Job)
      (op : Op) (found : shadow.actors id = some actor) (running : shadow.MayRun conduct id actor)
      (allowed : conduct.discipline.allowed actor.ghost op) (suspends : machine.suspends op)
      (awake : actor.waiting = none) :
      ShadowMoves shadow (.issued id op) (shadow.await conduct id actor op)
  | answered (shadow : Shadow Op conduct.Ghost World Job) (id : Nat) (actor : Actor Op conduct.Ghost Job)
      (op : Op) (env : Env op) (answer : Except Err (Ans op)) (world : World)
      (found : shadow.actors id = some actor) (running : shadow.MayRun conduct id actor)
      (allowed : conduct.discipline.allowed actor.ghost op)
      (ready : machine.suspends op = true → actor.waiting = some op)
      (pending : ∀ other, actor.waiting = some other → other = op)
      (ran : machine.exec id shadow.fresh op env shadow.world = some (answer, world)) :
      ShadowMoves shadow (.answered id op answer)
        ((shadow.resume conduct id actor op answer world).beginAll conduct (machine.spawns op))
  | ended (shadow : Shadow Op conduct.Ghost World Job) (id : Nat) (actor : Actor Op conduct.Ghost Job)
      (found : shadow.actors id = some actor) (running : shadow.MayRun conduct id actor)
      (awake : actor.waiting = none) (finished : conduct.final actor.job actor.ghost) :
      ShadowMoves shadow (.ended id) (shadow.finish conduct id)
  | restarted (shadow : Shadow Op conduct.Ghost World Job) (boot : Boot) :
      ShadowMoves shadow .restarted (shadow.restart conduct boot)

def Follower (task : Task Op Ans Err Job) (actor : Actor Op conduct.Ghost Job) : Prop :=
  task.job = actor.job ∧
    (task.waiting = actor.waiting.isSome ∧
      ∀ op, actor.waiting = some op → ∃ next, task.rest = .call op next) ∧
    task.rest.Follows conduct.discipline actor.ghost (fun _ => conduct.final actor.job)
      (fun _ => conduct.final actor.job)

structure Shades (state : State Op Ans Err World Job) (shadow : Shadow Op conduct.Ghost World Job) :
    Prop where
  world : state.world = shadow.world
  fresh : state.fresh = shadow.fresh
  holder : state.holder = shadow.holder
  follows : ∀ id task, state.tasks id = some task →
    ∃ actor, shadow.actors id = some actor ∧ Follower conduct task actor
  backed : ∀ id actor, shadow.actors id = some actor →
    ∃ task, state.tasks id = some task ∧ Follower conduct task actor

variable {conduct}

theorem shades_boot (world : World) :
    Shades conduct (State.boot world) (Shadow.boot conduct world) where
  world := rfl
  fresh := rfl
  holder := rfl
  follows id task found := by cases found
  backed id actor found := by cases found

theorem Shades.update {state : State Op Ans Err World Job}
    {shadow : Shadow Op conduct.Ghost World Job} (shades : Shades conduct state shadow) (id : Nat)
    (task : Option (Task Op Ans Err Job)) (actor : Option (Actor Op conduct.Ghost Job))
    (paired : (task = none ∧ actor = none) ∨
      ∃ some' someActor, task = some some' ∧ actor = some someActor ∧
        Follower conduct some' someActor)
    (world : World) (fresh : Nat) {holder holder' : Option Nat} (same : holder = holder') :
    Shades conduct
      { state with world, tasks := Function.update state.tasks id task, fresh, holder }
      { shadow with
        world, actors := Function.update shadow.actors id actor, fresh, holder := holder' } where
  world := rfl
  fresh := rfl
  holder := same
  follows other found' isFound := by
    by_cases here : other = id
    · subst here
      simp only [Function.update_self] at isFound ⊢
      rcases paired with ⟨gone, _⟩ | ⟨some', someActor, rfl, rfl, follower⟩
      · rw [gone] at isFound
        cases isFound
      · cases isFound
        exact ⟨someActor, rfl, follower⟩
    · simp only [Function.update_of_ne here] at isFound ⊢
      exact shades.follows other found' isFound
  backed other found' isFound := by
    by_cases here : other = id
    · subst here
      simp only [Function.update_self] at isFound ⊢
      rcases paired with ⟨_, gone⟩ | ⟨some', someActor, rfl, rfl, follower⟩
      · rw [gone] at isFound
        cases isFound
      · cases isFound
        exact ⟨some', rfl, follower⟩
    · simp only [Function.update_of_ne here] at isFound ⊢
      exact shades.backed other found' isFound

theorem Shades.begin {state : State Op Ans Err World Job}
    {shadow : Shadow Op conduct.Ghost World Job} (shades : Shades conduct state shadow) (job : Job) :
    Shades conduct (state.begin machine job) (shadow.begin conduct job) := by
  obtain ⟨world, tasks, fresh, holder⟩ := state
  obtain ⟨world', actors, fresh', holder'⟩ := shadow
  have same := shades
  obtain ⟨rfl, rfl, rfl, _, _⟩ := same
  exact shades.update fresh _ _
    (.inr ⟨_, _, rfl, rfl, rfl, ⟨rfl, fun _ idle => by cases idle⟩, conduct.keeps world job⟩) world (fresh + 1) rfl

theorem Shades.beginAll {state : State Op Ans Err World Job}
    {shadow : Shadow Op conduct.Ghost World Job} (shades : Shades conduct state shadow)
    (job : Option Job) :
    Shades conduct (state.beginAll machine job) (shadow.beginAll conduct job) := by
  cases job with
  | none => exact shades
  | some job => exact shades.begin job

theorem shades_running {state : State Op Ans Err World Job}
    {shadow : Shadow Op conduct.Ghost World Job} (shades : Shades conduct state shadow) {id : Nat}
    {task : Task Op Ans Err Job} {actor : Actor Op conduct.Ghost Job}
    (follower : Follower conduct task actor) (running : state.mayRun machine id task) :
    shadow.MayRun conduct id actor := by
  unfold State.mayRun at running
  rw [follower.1, shades.holder] at running
  rcases Bool.or_eq_true_iff.mp running with threaded | alone
  · exact .inl threaded
  · refine .inr fun other held => ?_
    simpa [held] using alone

theorem moves_shadowed {state next : State Op Ans Err World Job} {event : Event Op Ans Err Job}
    {shadow : Shadow Op conduct.Ghost World Job} (shades : Shades conduct state shadow)
    (moves : Moves machine state event next) :
    ∃ after, ShadowMoves conduct shadow event after ∧ Shades conduct next after := by
  cases moves with
  | started job rooted => exact ⟨_, .started shadow job rooted, shades.begin job⟩
  | issued id task op rest found running asks suspends awake =>
      obtain ⟨actor, held, follower⟩ := shades.follows id task found
      have follows := follower.2.2
      rw [asks] at follows
      refine ⟨_, .issued shadow id actor op held (shades_running shades follower running)
        follows.1 suspends (by simpa [awake] using follower.2.1.1), ?_⟩
      obtain ⟨world, tasks, fresh, holder⟩ := state
      obtain ⟨world', actors, fresh', holder'⟩ := shadow
      have same := shades
      obtain ⟨rfl, rfl, rfl, _, _⟩ := same
      exact shades.update id (some { task with waiting := true })
        (some { actor with waiting := some op })
        (.inr ⟨_, _, rfl, rfl, follower.1, ⟨rfl, fun _ same => by cases same; exact ⟨rest, asks⟩⟩,
          follower.2.2⟩) world fresh
        (by rw [follower.1])
  | answered id task op rest env answer world found running asks ready ran =>
      obtain ⟨actor, held, follower⟩ := shades.follows id task found
      have follows := follower.2.2
      rw [asks] at follows
      have pending : ∀ other, actor.waiting = some other → other = op := by
        intro other waits
        obtain ⟨next, same⟩ := follower.2.1.2 other waits
        rw [asks] at same
        cases same
        rfl
      have ready' : machine.suspends op = true → actor.waiting = some op := by
        intro suspends
        have waits := follower.2.1.1 ▸ ready suspends
        obtain ⟨other, waits⟩ := Option.isSome_iff_exists.mp waits
        rw [waits, pending other waits]
      refine ⟨_, .answered shadow id actor op env answer world held
        (shades_running shades follower running) follows.1 ready' pending
        (by rw [← shades.world, ← shades.fresh]; exact ran), ?_⟩
      obtain ⟨world', tasks, fresh, holder⟩ := state
      obtain ⟨world'', actors, fresh', holder'⟩ := shadow
      have same := shades
      obtain ⟨rfl, rfl, rfl, _, _⟩ := same
      refine Shades.beginAll ?_ _
      exact shades.update id (some { task with rest := rest answer, waiting := false })
        (some { actor with
          ghost := conduct.discipline.next actor.ghost op answer, waiting := none })
        (.inr ⟨_, _, rfl, rfl, follower.1, ⟨rfl, fun _ idle => by cases idle⟩, follows.2 answer⟩)
        world fresh (by rw [State.holderAfter, follower.1])
  | ended id task found running closed =>
      obtain ⟨actor, held, follower⟩ := shades.follows id task found
      have follows := follower.2.2
      have finished : conduct.final actor.job actor.ghost := by
        rcases closed with returned | ⟨error, raised⟩
        · rw [returned] at follows
          exact follows
        · rw [raised] at follows
          exact follows
      have awake : actor.waiting = none := by
        cases waits : actor.waiting with
        | none => rfl
        | some op =>
            obtain ⟨next, same⟩ := follower.2.1.2 op waits
            rcases closed with returned | ⟨error, raised⟩
            · rw [returned] at same
              cases same
            · rw [raised] at same
              cases same
      refine ⟨_, .ended shadow id actor held (shades_running shades follower running) awake
        finished, ?_⟩
      obtain ⟨world, tasks, fresh, holder⟩ := state
      obtain ⟨world', actors, fresh', holder'⟩ := shadow
      have same := shades
      obtain ⟨rfl, rfl, rfl, _, _⟩ := same
      exact shades.update id none none (.inl ⟨rfl, rfl⟩) _ fresh rfl
  | restarted boot =>
      refine ⟨_, .restarted shadow boot, ?_⟩
      exact
        { world := by rw [Shadow.restart, shades.world]
          fresh := shades.fresh
          holder := rfl
          follows := fun id task found => by cases found
          backed := fun id actor found => by cases found }

/-- A step that answers nothing leaves every ghost as it is, but for those of tasks that begin or
are gone. -/
theorem ShadowMoves.quiet {shadow after : Shadow Op conduct.Ghost World Job}
    {event : Event Op Ans Err Job} (moves : ShadowMoves conduct shadow event after)
    (quiet : ∀ id op answer, event ≠ .answered id op answer) :
    shadow.fresh ≤ after.fresh ∧ ∀ id actor, after.actors id = some actor →
      (∃ old, shadow.actors id = some old ∧ old.job = actor.job ∧ old.ghost = actor.ghost) ∨
        id = shadow.fresh ∧ id < after.fresh ∧
          actor.ghost = conduct.initial shadow.world actor.job := by
  cases moves with
  | answered id actor op env answer world found running allowed ready pending ran =>
      exact absurd rfl (quiet id op answer)
  | started job rooted =>
      refine ⟨Nat.le_succ _, fun id actor present => ?_⟩
      by_cases same : id = shadow.fresh
      · subst same
        simp only [Shadow.begin, Function.update_self, Option.some.injEq] at present
        subst present
        exact .inr ⟨rfl, Nat.lt_succ_self _, rfl⟩
      · simp only [Shadow.begin, Function.update_of_ne same] at present
        exact .inl ⟨actor, present, rfl, rfl⟩
  | issued waiter asker op found running allowed suspends awake =>
      refine ⟨le_rfl, fun id actor present => .inl ?_⟩
      by_cases same : id = waiter
      · subst same
        simp only [Shadow.await, Function.update_self, Option.some.injEq] at present
        subst present
        exact ⟨asker, found, rfl, rfl⟩
      · simp only [Shadow.await, Function.update_of_ne same] at present
        exact ⟨actor, present, rfl, rfl⟩
  | ended gone actor found running awake finished =>
      refine ⟨le_rfl, fun id actor present => .inl ?_⟩
      by_cases same : id = gone
      · subst same
        simp only [Shadow.finish, Function.update_self] at present
        cases present
      · simp only [Shadow.finish, Function.update_of_ne same] at present
        exact ⟨actor, present, rfl, rfl⟩
  | restarted boot => exact ⟨le_rfl, fun id actor present => by cases present⟩

/-- The invariant rule: what allowed shadow steps keep, from the start on, holds along every
run whose steps are allowed. -/
theorem Guarded.shadowed
    {allowed : List (Event Op Ans Err Job) → State Op Ans Err World Job → Event Op Ans Err Job → Prop}
    {world : World} {events : List (Event Op Ans Err Job)} {last : State Op Ans Err World Job}
    (run : Guarded (Moves machine) allowed (State.boot world) events last)
    {holds : List (Event Op Ans Err Job) → Shadow Op conduct.Ghost World Job → Prop}
    (initially : holds [] (Shadow.boot conduct world))
    (keep : ∀ events before event after state next,
      Guarded (Moves machine) allowed (State.boot world) events state → holds events before →
      Shades conduct state before → allowed events state event → Moves machine state event next →
      ShadowMoves conduct before event after → holds (events ++ [event]) after) :
    ∃ shadow, Shades conduct last shadow ∧ holds events shadow := by
  induction run with
  | nil => exact ⟨_, shades_boot world, initially⟩
  | snoc before stepped allows ih =>
      obtain ⟨shadow, shades, held⟩ := ih
      obtain ⟨after, moved, shaded⟩ := moves_shadowed shades stepped
      exact ⟨after, shaded, keep _ _ _ _ _ _ before held shades allows stepped moved⟩

end Conduct

end Bugalizer.Coroutine
