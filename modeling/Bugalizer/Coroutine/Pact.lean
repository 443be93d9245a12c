import Bugalizer.Coroutine.EventLoop

/-!
# Coroutines that rely on each other

A pact looks at the machine through a view. It says what may become of the view while a
coroutine has given the loop away (`apart`) and at any time, by worker threads (`aside`),
and on what each operation a coroutine asks for must rest (`asks`). A coroutine whose
operations rest on that under this interference is `Sat`. When every job is, every run
stays `Bound`: each operation was asked as the pact says, and each ending left its finale.
-/

namespace Bugalizer.Coroutine

set_option autoImplicit false

section Pact

variable {Op : Type} {Ans Env : Op → Type} {Err World Job Boot : Type}

/-- What is relied on and asked for, over a view of the past and the present. -/
structure Pact (machine : Machine Op Ans Env Err World Job Boot) where
  View : Type
  view : List (Event Op Ans Err Job) → State Op Ans Err World Job → View
  holds : View → Prop
  /-- What the other tasks may do while this one has given the loop away. -/
  apart : Nat → View → View → Prop
  /-- What they may do at any time. -/
  aside : Nat → View → View → Prop
  asks : Nat → Job → View → Op → Prop
  ready : Nat → Job → View → Prop
  finale : Nat → Job → View → Prop
  admits : List (Event Op Ans Err Job) → State Op Ans Err World Job → Event Op Ans Err Job → Prop

variable {machine : Machine Op Ans Env Err World Job Boot} (pact : Pact machine)

namespace Pact

def Effect (self : Nat) (job : Job) (before : pact.View) (op : Op) (answer : Except Err (Ans op))
    (after : pact.View) : Prop :=
  ∃ past state next, pact.admits past state (.answered self op answer) ∧
    (∃ task, state.tasks self = some task ∧ task.job = job) ∧
    Moves machine state (.answered self op answer) next ∧ pact.view past state = before ∧
    pact.view (past ++ [.answered self op answer]) next = after

def Between (self : Nat) (job : Job) (op : Op) (before after : pact.View) : Prop :=
  if machine.threaded job || machine.suspends op then pact.apart self before after
  else pact.aside self before after

/-- What happens to the view between the last operation of a coroutine and its end. -/
def Closing (self : Nat) (job : Job) (before after : pact.View) : Prop :=
  if machine.threaded job then pact.apart self before after else pact.aside self before after

/-- From the view its last operation left, `body` asks as it may, and returns and raises only
as asserted. -/
def Sat (self : Nat) (job : Job) {First : Type} : Program Op Ans Err First → pact.View →
    (First → pact.View → Prop) → (Err → pact.View → Prop) → Prop
  | .done result, view, returns, _ => returns result view
  | .raise error, view, _, raises => raises error view
  | .call op next, view, returns, raises =>
      ∀ before, pact.Between self job op view before → pact.holds before →
        pact.asks self job before op ∧
          ∀ answer after, pact.Effect self job before op answer after → pact.holds after →
            Sat self job (next answer) after returns raises

/-- The laws of a pact. -/
structure Lawful : Prop where
  apart_refl : ∀ id view, pact.apart id view view
  apart_trans : ∀ id first middle last, pact.apart id first middle → pact.apart id middle last →
    pact.apart id first last
  aside_refl : ∀ id view, pact.aside id view view
  aside_trans : ∀ id first middle last, pact.aside id first middle → pact.aside id middle last →
    pact.aside id first last
  aside_apart : ∀ id before after, pact.aside id before after → pact.apart id before after
  answered : ∀ self job before op answer after, pact.holds before →
    pact.asks self job before op → pact.Effect self job before op answer after →
    pact.holds after ∧ (∀ other, other ≠ self → pact.apart other before after ∧
      (machine.threaded job = true → pact.aside other before after)) ∧
      ∀ past state next spawned, pact.view past state = before →
        Moves machine state (.answered self op answer) next →
        pact.view (past ++ [.answered self op answer]) next = after →
        machine.spawns op = some spawned → pact.ready state.fresh spawned after
  started : ∀ past state job next, pact.admits past state (.started job) →
    Moves machine state (.started job) next → pact.holds (pact.view past state) →
    pact.holds (pact.view (past ++ [.started job]) next) ∧
      (∀ id, pact.aside id (pact.view past state) (pact.view (past ++ [.started job]) next)) ∧
      pact.ready state.fresh job (pact.view (past ++ [.started job]) next)
  issued : ∀ past state id op next task, pact.admits past state (.issued id op) →
    Moves machine state (.issued id op) next → state.tasks id = some task →
    pact.holds (pact.view past state) → pact.asks id task.job (pact.view past state) op →
    pact.holds (pact.view (past ++ [.issued id op]) next) ∧
      ∀ other, pact.apart other (pact.view past state) (pact.view (past ++ [.issued id op]) next) ∧
        (machine.threaded task.job = true →
          pact.aside other (pact.view past state) (pact.view (past ++ [.issued id op]) next))
  ended : ∀ past state id next task view, pact.admits past state (.ended id) →
    Moves machine state (.ended id) next → state.tasks id = some task →
    pact.holds (pact.view past state) → pact.finale id task.job view →
    pact.Closing id task.job view (pact.view past state) →
    pact.holds (pact.view (past ++ [.ended id]) next) ∧
      ∀ other, other ≠ id →
        pact.apart other (pact.view past state) (pact.view (past ++ [.ended id]) next) ∧
        (machine.threaded task.job = true →
          pact.aside other (pact.view past state) (pact.view (past ++ [.ended id]) next))
  restarted : ∀ past state next, pact.admits past state .restarted →
    Moves machine state .restarted next → pact.holds (pact.view past state) →
    pact.holds (pact.view (past ++ [.restarted]) next)
  ready_apart : ∀ id job before after, pact.ready id job before → pact.apart id before after →
    pact.ready id job after
  keeps : ∀ world id job view, pact.holds view → pact.ready id job view →
    pact.Sat id job (machine.program world job) view (fun _ => pact.finale id job)
      fun _ => pact.finale id job

variable {pact} {self : Nat} {job : Job} {First Second : Type} {view : pact.View}
variable {returns : First → pact.View → Prop} {raises : Err → pact.View → Prop}

theorem sat_bind (body : Program Op Ans Err First) (rest : First → Program Op Ans Err Second)
    (view : pact.View) (after : Second → pact.View → Prop) :
    pact.Sat self job (body.bind rest) view after raises ↔
      pact.Sat self job body view
        (fun result reached => pact.Sat self job (rest result) reached after raises) raises := by
  induction body generalizing view with
  | done result => rfl
  | raise error => rfl
  | call op next ih =>
      simp only [Program.bind, Sat]
      exact forall_congr' fun _ => forall_congr' fun _ => forall_congr' fun _ =>
        and_congr_right fun _ => forall_congr' fun answer => forall_congr' fun _ =>
        forall_congr' fun _ => forall_congr' fun _ => ih answer _

theorem sat_catching (body : Program Op Ans Err First) (handler : Err → Program Op Ans Err First)
    (view : pact.View) :
    pact.Sat self job (body.catching handler) view returns raises ↔
      pact.Sat self job body view returns
        (fun error reached => pact.Sat self job (handler error) reached returns raises) := by
  induction body generalizing view with
  | done result => rfl
  | raise error => rfl
  | call op next ih =>
      simp only [Program.catching, Sat]
      exact forall_congr' fun _ => forall_congr' fun _ => forall_congr' fun _ =>
        and_congr_right fun _ => forall_congr' fun answer => forall_congr' fun _ =>
        forall_congr' fun _ => forall_congr' fun _ => ih answer _

theorem sat_ensuring (body : Program Op Ans Err First) (cleanup : Program Op Ans Err Unit)
    (view : pact.View) :
    pact.Sat self job (body.ensuring cleanup) view returns raises ↔
      pact.Sat self job body view
        (fun result reached => pact.Sat self job cleanup reached (fun _ => returns result) raises)
        (fun error reached => pact.Sat self job cleanup reached (fun _ => raises error) raises) := by
  induction body generalizing view with
  | done result => simp only [Program.ensuring, sat_bind, Sat]
  | raise error => simp only [Program.ensuring, sat_bind, Sat]
  | call op next ih =>
      simp only [Program.ensuring, Sat]
      exact forall_congr' fun _ => forall_congr' fun _ => forall_congr' fun _ =>
        and_congr_right fun _ => forall_congr' fun answer => forall_congr' fun _ =>
        forall_congr' fun _ => forall_congr' fun _ => ih answer _

theorem Sat.mono {body : Program Op Ans Err First}
    {returns' : First → pact.View → Prop} {raises' : Err → pact.View → Prop}
    (sat : pact.Sat self job body view returns raises)
    (good : ∀ result reached, returns result reached → returns' result reached)
    (bad : ∀ error reached, raises error reached → raises' error reached) :
    pact.Sat self job body view returns' raises' := by
  induction body generalizing view with
  | done result => exact good _ _ sat
  | raise error => exact bad _ _ sat
  | call op next ih =>
      intro before between held
      obtain ⟨asked, later⟩ := sat before between held
      exact ⟨asked, fun answer after effect held' => ih answer (later answer after effect held')⟩

theorem Sat.andThen {body : Program Op Ans Err First} {rest : First → Program Op Ans Err Second}
    {middle : First → pact.View → Prop} {failed : Err → pact.View → Prop}
    {after : Second → pact.View → Prop}
    (first : pact.Sat self job body view middle failed)
    (later : ∀ result reached, middle result reached →
      pact.Sat self job (rest result) reached after raises)
    (fails : ∀ error reached, failed error reached → raises error reached) :
    pact.Sat self job (body.bind rest) view after raises :=
  (sat_bind ..).mpr (first.mono later fails)

/-- The rule of `try: ... except: ...`. -/
theorem Sat.caught {body : Program Op Ans Err First} {handler : Err → Program Op Ans Err First}
    {middle : First → pact.View → Prop} {failed : Err → pact.View → Prop}
    (first : pact.Sat self job body view middle failed)
    (good : ∀ result reached, middle result reached → returns result reached)
    (later : ∀ error reached, failed error reached →
      pact.Sat self job (handler error) reached returns raises) :
    pact.Sat self job (body.catching handler) view returns raises :=
  (sat_catching ..).mpr (first.mono good later)

/-- The rule of `try: ... finally: ...`. -/
theorem Sat.ensured {body : Program Op Ans Err First} {cleanup : Program Op Ans Err Unit}
    {middle : First → pact.View → Prop} {failed : Err → pact.View → Prop}
    (first : pact.Sat self job body view middle failed)
    (good : ∀ result reached, middle result reached →
      pact.Sat self job cleanup reached (fun _ => returns result) raises)
    (bad : ∀ error reached, failed error reached →
      pact.Sat self job cleanup reached (fun _ => raises error) raises) :
    pact.Sat self job (body.ensuring cleanup) view returns raises :=
  (sat_ensuring ..).mpr (first.mono good bad)

/-- The loop rule: an assertion every round keeps holds after the loop. -/
theorem sat_for_each {items : List First} {body : First → Program Op Ans Err Unit}
    {keeps : pact.View → Prop} {view : pact.View} (entered : keeps view)
    (round : ∀ item ∈ items, ∀ reached, keeps reached →
      pact.Sat self job (body item) reached (fun _ => keeps) raises) :
    pact.Sat self job (Program.forEach items body) view (fun _ => keeps) raises := by
  induction items generalizing view with
  | nil => exact entered
  | cons item items ih =>
      refine (round item (by simp) view entered).andThen (fun _ reached kept => ?_)
        fun _ _ raised => raised
      exact ih kept fun other member => round other (by simp [member])

def Asserts (pact : Pact machine) (self : Nat) (job : Job) (op : Op) (view : pact.View)
    (returns : Ans op → pact.View → Prop) (raises : Err → pact.View → Prop) : Prop :=
  ∀ before, pact.Between self job op view before → pact.holds before →
    pact.asks self job before op ∧
      ∀ answer after, pact.Effect self job before op answer after → pact.holds after →
        match answer with
        | .ok value => returns value after
        | .error error => raises error after

theorem sat_perform {op : Op} {after : Ans op → pact.View → Prop}
    (asserts : pact.Asserts self job op view after raises) :
    pact.Sat self job (Program.perform op) view after raises := by
  intro before between held
  obtain ⟨asked, outcome⟩ := asserts before between held
  refine ⟨asked, fun answer reached effect held' => ?_⟩
  have outcome := outcome answer reached effect held'
  cases answer with
  | ok value => exact outcome
  | error error => exact outcome

theorem only_sat {allowed : Op → Prop} {body : Program Op Ans Err First}
    (only : body.Only allowed) {keeps : pact.View → Prop}
    (asserts : ∀ op reached, allowed op → keeps reached →
      pact.Asserts self job op reached (fun _ => keeps) fun _ => keeps) (entered : keeps view) :
    pact.Sat self job body view (fun _ => keeps) fun _ => keeps := by
  induction body generalizing view with
  | done result => exact entered
  | raise error => exact entered
  | call op next ih =>
      intro before between held
      obtain ⟨asked, outcome⟩ := asserts op view only.1 entered before between held
      refine ⟨asked, fun answer after effect held' => ih answer (only.2 answer) ?_⟩
      have outcome := outcome answer after effect held'
      cases answer with
      | ok value => exact outcome
      | error error => exact outcome

/-- How far the view may have gone from where a task's last operation left it. -/
inductive Link (pact : Pact machine) (state : State Op Ans Err World Job) (now : pact.View)
    (id : Nat) (task : Task Op Ans Err Job) : Prop
  /-- Not begun: ready for its whole program. -/
  | unbegun (world : World) (program : task.rest = machine.program world task.job)
      (awake : task.waiting = false) (ready : pact.ready id task.job now)
  | apart (view : pact.View) (loose : machine.threaded task.job = true ∨
        ∃ op next, task.rest = .call op next ∧ machine.suspends op = true ∧ task.waiting = true)
      (sat : pact.Sat id task.job task.rest view (fun _ => pact.finale id task.job)
        fun _ => pact.finale id task.job)
      (gone : pact.apart id view now)
  | running (view : pact.View) (holder : state.holder = some id) (awake : task.waiting = false)
      (sat : pact.Sat id task.job task.rest view (fun _ => pact.finale id task.job)
        fun _ => pact.finale id task.job)
      (gone : pact.aside id view now)

structure Bound (pact : Pact machine) (past : List (Event Op Ans Err Job))
    (state : State Op Ans Err World Job) : Prop where
  holds : pact.holds (pact.view past state)
  linked : ∀ id task, state.tasks id = some task → pact.Link state (pact.view past state) id task

section Steps

variable {past : List (Event Op Ans Err Job)} {state next : State Op Ans Err World Job}
variable {now later : pact.View} {id other : Nat} {task : Task Op Ans Err Job}

/-- A link survives a step of another task, if a running task's view only changed aside. -/
theorem Link.carry (lawful : pact.Lawful) (link : pact.Link state now id task)
    (gone : pact.apart id now later)
    (kept : state.holder = some id → next.holder = some id ∧ pact.aside id now later) :
    pact.Link next later id task := by
  cases link with
  | unbegun world program awake ready =>
      exact .unbegun world program awake (lawful.ready_apart _ _ _ _ ready gone)
  | apart view loose sat went =>
      exact .apart view loose sat (lawful.apart_trans _ _ _ _ went gone)
  | running view holder awake sat went =>
      obtain ⟨holder', aside⟩ := kept holder
      exact .running view holder' awake sat (lawful.aside_trans _ _ _ _ went aside)

/-- What a task is about to do, from a view as far back as its next operation allows. -/
theorem Link.between (lawful : pact.Lawful) (link : pact.Link state now id task)
    (held : pact.holds now) {op : Op} {rest : Except Err (Ans op) → Program Op Ans Err Unit}
    (asks : task.rest = .call op rest) :
    ∃ view, pact.Sat id task.job task.rest view (fun _ => pact.finale id task.job)
        (fun _ => pact.finale id task.job) ∧
      pact.Between id task.job op view now := by
  cases link with
  | unbegun world program awake begun =>
      refine ⟨now, by rw [program]; exact lawful.keeps _ _ _ _ held begun, ?_⟩
      unfold Between
      split
      · exact lawful.apart_refl _ _
      · exact lawful.aside_refl _ _
  | apart view loose sat gone =>
      refine ⟨view, sat, ?_⟩
      unfold Between
      rw [if_pos]
      · exact gone
      · rcases loose with threaded | ⟨op', next', asks', suspends, _⟩
        · rw [threaded]
          rfl
        · rw [asks] at asks'
          cases asks'
          rw [suspends, Bool.or_true]
  | running view holder awake sat gone =>
      refine ⟨view, sat, ?_⟩
      unfold Between
      split
      · exact lawful.aside_apart _ _ _ gone
      · exact gone

theorem Link.closing (lawful : pact.Lawful) (link : pact.Link state now id task)
    (held : pact.holds now)
    (closed : task.rest = .done () ∨ ∃ error, task.rest = .raise error) :
    ∃ view, pact.finale id task.job view ∧ pact.Closing id task.job view now := by
  have ends : ∀ view, pact.Sat id task.job task.rest view (fun _ => pact.finale id task.job)
      (fun _ => pact.finale id task.job) → pact.finale id task.job view := by
    intro view sat
    rcases closed with returned | ⟨error, raised⟩
    · rw [returned] at sat
      exact sat
    · rw [raised] at sat
      exact sat
  unfold Closing
  cases link with
  | unbegun world program awake begun =>
      refine ⟨now, ends now (by rw [program]; exact lawful.keeps _ _ _ _ held begun), ?_⟩
      split
      · exact lawful.apart_refl _ _
      · exact lawful.aside_refl _ _
  | apart view loose sat gone =>
      refine ⟨view, ends view sat, ?_⟩
      rcases loose with threaded | ⟨op, next, asks, _⟩
      · rw [if_pos threaded]
        exact gone
      · rcases closed with returned | ⟨error, raised⟩
        · rw [returned] at asks
          cases asks
        · rw [raised] at asks
          cases asks
  | running view holder awake sat gone =>
      refine ⟨view, ends view sat, ?_⟩
      split
      · exact lawful.aside_apart _ _ _ gone
      · exact gone

/-- A loop task that runs while another one holds the loop is of a thread. -/
theorem runs_beside (running : state.mayRun machine id task) (holds : state.holder = some other)
    (distinct : other ≠ id) : machine.threaded task.job = true := by
  unfold State.mayRun at running
  rcases Bool.or_eq_true_iff.mp running with threaded | alone
  · exact threaded
  · rw [holds] at alone
    exact absurd (by simpa using alone) distinct

theorem Link.asks (lawful : pact.Lawful) (link : pact.Link state now id task)
    (held : pact.holds now) {op : Op} {rest : Except Err (Ans op) → Program Op Ans Err Unit}
    (asks : task.rest = .call op rest) : pact.asks id task.job now op := by
  obtain ⟨view, sat, between⟩ := link.between lawful held asks
  rw [asks] at sat
  exact (sat now between held).1

theorem bound_step (lawful : pact.Lawful) (bound : pact.Bound past state)
    {event : Event Op Ans Err Job} (admitted : pact.admits past state event)
    (moves : Moves machine state event next) : pact.Bound (past ++ [event]) next := by
  cases moves with
  | started job rooted =>
      obtain ⟨held, gone, begun⟩ :=
        lawful.started past state job _ admitted (.started state job rooted) bound.holds
      refine ⟨held, fun id task found => ?_⟩
      simp only [State.begin, Function.update_apply] at found
      split at found
      · rename_i same
        cases found
        exact .unbegun _ rfl rfl (by rw [same]; exact begun)
      · exact (bound.linked id task found).carry lawful (lawful.aside_apart _ _ _ (gone id))
          fun holder => ⟨holder, gone id⟩
  | issued self task op rest found running asks suspends awake =>
      have link := bound.linked _ _ found
      obtain ⟨held, gone⟩ := lawful.issued past state self op _ task admitted
        (.issued state self task op rest found running asks suspends awake) found bound.holds
        (link.asks lawful bound.holds asks)
      refine ⟨held, fun id task' found' => ?_⟩
      simp only [Function.update_apply] at found'
      split at found'
      · rename_i same
        subst same
        cases found'
        obtain ⟨view, sat, went⟩ := link.between lawful bound.holds asks
        unfold Between at went
        rw [if_pos (by rw [suspends, Bool.or_true])] at went
        exact .apart view (.inr ⟨op, rest, asks, suspends, rfl⟩) sat
          (lawful.apart_trans _ _ _ _ went (gone _).1)
      · rename_i distinct
        refine (bound.linked id task' found').carry lawful (gone id).1 fun holder => ?_
        have threaded := runs_beside running holder distinct
        exact ⟨by simpa [threaded] using holder, (gone id).2 threaded⟩
  | answered self task op rest env answer world found running asks ready ran =>
      have moves := Moves.answered state self task op rest env answer world found running asks ready ran
      obtain ⟨view, sat, between⟩ := (bound.linked _ _ found).between lawful bound.holds asks
      rw [asks] at sat
      obtain ⟨asked, later⟩ := sat _ between bound.holds
      have effect : pact.Effect self task.job (pact.view past state) op answer _ :=
        ⟨past, state, _, admitted, ⟨task, found, rfl⟩, moves, rfl, rfl⟩
      obtain ⟨held, gone, spawned⟩ := lawful.answered _ _ _ _ _ _ bound.holds asked effect
      have after := later answer _ effect held
      -- The tasks that were there before, the answered one included.
      have before : ∀ spawner : State Op Ans Err World Job → State Op Ans Err World Job,
          (∀ middle, (spawner middle).holder = middle.holder) → ∀ id task', Function.update state.tasks self
            (some { task with rest := rest answer, waiting := false }) id = some task' →
          pact.Link (spawner
            { state with
              world
              tasks := Function.update state.tasks self
                (some { task with rest := rest answer, waiting := false })
              holder := state.holderAfter machine self task })
            (pact.view (past ++ [.answered self op answer])
              (State.beginAll machine (machine.spawns op)
                { state with
                  world
                  tasks := Function.update state.tasks self
                    (some { task with rest := rest answer, waiting := false })
                  holder := state.holderAfter machine self task })) id task' := by
        intro spawner keepsHolder id task' found'
        simp only [Function.update_apply] at found'
        split at found'
        · rename_i same
          subst same
          cases found'
          by_cases threaded : machine.threaded task.job = true
          · exact .apart _ (.inl threaded) after (lawful.apart_refl _ _)
          · refine .running _ ?_ rfl after (lawful.aside_refl _ _)
            rw [keepsHolder]
            simp [State.holderAfter, threaded]
        · rename_i distinct
          refine (bound.linked id task' found').carry lawful (gone id distinct).1 fun holder => ?_
          have threaded := runs_beside running holder distinct
          refine ⟨?_, (gone id distinct).2 threaded⟩
          rw [keepsHolder]
          simpa [State.holderAfter, threaded] using holder
      refine ⟨held, fun id task' found' => ?_⟩
      cases spawns : machine.spawns op with
      | none =>
          rw [spawns] at found'
          have link := before (State.beginAll machine (machine.spawns op)) (by simp [spawns, State.beginAll])
            id task' found'
          rw [spawns] at link
          exact link
      | some job =>
          rw [spawns] at found'
          simp only [State.beginAll, State.begin] at found'
          rw [Function.update_apply] at found'
          split at found'
          · rename_i same
            cases found'
            have isReady := spawned past state _ job rfl moves rfl spawns
            rw [spawns] at isReady
            exact .unbegun _ rfl rfl (by rw [same]; exact isReady)
          · have link := before (State.beginAll machine (machine.spawns op))
              (by simp [spawns, State.beginAll, State.begin]) id task' found'
            rw [spawns] at link
            exact link
  | ended self task found running closed =>
      obtain ⟨view, finale, closing⟩ := (bound.linked _ _ found).closing lawful bound.holds closed
      obtain ⟨held, gone⟩ := lawful.ended past state self _ task view admitted
        (.ended state self task found running closed) found bound.holds finale closing
      refine ⟨held, fun id task' found' => ?_⟩
      simp only [State.finish, Function.update_apply] at found'
      split at found'
      · cases found'
      · rename_i distinct
        refine (bound.linked id task' found').carry lawful (gone id distinct).1 fun holder => ?_
        have threaded := runs_beside running holder distinct
        refine ⟨?_, (gone id distinct).2 threaded⟩
        simp only [State.finish, holder]
        rw [if_neg]
        simpa using distinct
  | restarted boot =>
      exact ⟨lawful.restarted _ _ _ admitted (.restarted state boot) bound.holds,
        fun id task found => by cases found⟩

end Steps

theorem run_bound (lawful : pact.Lawful) {world : World} {events : List (Event Op Ans Err Job)}
    {last : State Op Ans Err World Job}
    (run : Guarded (Moves machine) pact.admits (State.boot world) events last)
    (initially : pact.holds (pact.view [] (State.boot world))) : pact.Bound events last := by
  induction run with
  | nil => exact ⟨initially, fun id task found => by cases found⟩
  | snoc before moves admitted ih => exact bound_step lawful ih admitted moves

end Pact

end Pact

end Bugalizer.Coroutine
