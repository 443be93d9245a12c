import Mathlib

/-!
# Coroutines over a signature of operations

A coroutine is a finite tree. It has returned, it has raised, or it asks for one
operation and goes on with the answer, which may itself be an exception. Nothing
here knows what an operation does: that is the business of the machine that runs
the tree (`EventLoop`). What a coroutine may ask for, whatever the answers are,
is a property of the tree alone and is stated by `Only` and `Follows`.
-/

namespace Bugalizer.Coroutine

set_option autoImplicit false

inductive Program (Op : Type) (Ans : Op → Type) (Err : Type) (Result : Type) : Type
  | done (result : Result)
  | raise (error : Err)
  | call (op : Op) (next : Except Err (Ans op) → Program Op Ans Err Result)

namespace Program

variable {Op : Type} {Ans : Op → Type} {Err : Type} {First Second Third : Type}

def bind : Program Op Ans Err First → (First → Program Op Ans Err Second) →
    Program Op Ans Err Second
  | done result, rest => rest result
  | raise error, _ => raise error
  | call op next, rest => call op fun answer => (next answer).bind rest

instance : Monad (Program Op Ans Err) where
  pure := done
  bind := bind

def perform (op : Op) : Program Op Ans Err (Ans op) :=
  call op fun answer => match answer with
    | .ok value => done value
    | .error error => raise error

/-- `try: body; except: handler`, for every exception the handler does not raise again. -/
def catching : Program Op Ans Err First → (Err → Program Op Ans Err First) →
    Program Op Ans Err First
  | done result, _ => done result
  | raise error, handler => handler error
  | call op next, handler => call op fun answer => (next answer).catching handler

/-- `try: body; finally: cleanup`. An exception of the cleanup replaces the body's outcome. -/
def ensuring : Program Op Ans Err First → Program Op Ans Err Unit → Program Op Ans Err First
  | done result, cleanup => cleanup.bind fun _ => done result
  | raise error, cleanup => cleanup.bind fun _ => raise error
  | call op next, cleanup => call op fun answer => (next answer).ensuring cleanup

/-- `for item in items: body`. -/
def forEach : List First → (First → Program Op Ans Err Unit) → Program Op Ans Err Unit
  | [], _ => done ()
  | item :: items, body => (body item).bind fun _ => forEach items body

@[simp] theorem pure_eq (result : First) :
    (Pure.pure result : Program Op Ans Err First) = done result := rfl

@[simp] theorem bind_eq (body : Program Op Ans Err First)
    (rest : First → Program Op Ans Err Second) : body >>= rest = body.bind rest := rfl

@[simp] theorem done_bind (result : First) (rest : First → Program Op Ans Err Second) :
    (done result).bind rest = rest result := rfl

@[simp] theorem raise_bind (error : Err) (rest : First → Program Op Ans Err Second) :
    (raise error).bind rest = raise error := rfl

theorem bind_assoc (body : Program Op Ans Err First)
    (middle : First → Program Op Ans Err Second) (last : Second → Program Op Ans Err Third) :
    (body.bind middle).bind last = body.bind fun result => (middle result).bind last := by
  induction body with
  | done result => rfl
  | raise error => rfl
  | call op next ih =>
      simp only [bind]
      congr 1
      funext answer
      exact ih answer

theorem bind_done (body : Program Op Ans Err First) : body.bind done = body := by
  induction body with
  | done result => rfl
  | raise error => rfl
  | call op next ih =>
      simp only [bind]
      congr 1
      funext answer
      exact ih answer

/-- What the coroutine returns or raises when each operation is answered by `answers`. -/
def eval (answers : (op : Op) → Except Err (Ans op)) : Program Op Ans Err First → Except Err First
  | done result => .ok result
  | raise error => .error error
  | call op next => (next (answers op)).eval answers

section Eval

variable {answers : (op : Op) → Except Err (Ans op)}

@[simp] theorem eval_done (result : First) :
    (done result : Program Op Ans Err First).eval answers = .ok result := rfl

theorem eval_perform (op : Op) : (perform op : Program Op Ans Err (Ans op)).eval answers = answers op := by
  simp only [perform, eval]
  cases answers op <;> rfl

theorem eval_bind (body : Program Op Ans Err First) (rest : First → Program Op Ans Err Second) :
    (body.bind rest).eval answers =
      (body.eval answers).bind fun result => (rest result).eval answers := by
  induction body with
  | done result => rfl
  | raise error => rfl
  | call op next ih => exact ih (answers op)

theorem eval_bind_ok {body : Program Op Ans Err First} {rest : First → Program Op Ans Err Second}
    {result : Second} (evaluated : (body.bind rest).eval answers = .ok result) :
    ∃ value, body.eval answers = .ok value ∧ (rest value).eval answers = .ok result := by
  rw [eval_bind] at evaluated
  cases first : body.eval answers with
  | error error =>
      rw [first] at evaluated
      cases evaluated
  | ok value =>
      rw [first] at evaluated
      exact ⟨value, rfl, evaluated⟩

end Eval

/-- Every operation the tree can reach, on any answers, is allowed. -/
def Only (allowed : Op → Prop) : Program Op Ans Err First → Prop
  | done _ => True
  | raise _ => True
  | call op next => allowed op ∧ ∀ answer, (next answer).Only allowed

section Only

variable {allowed wider : Op → Prop}

theorem only_perform {op : Op} (permitted : allowed op) :
    (perform op : Program Op Ans Err (Ans op)).Only allowed := by
  refine ⟨permitted, fun answer => ?_⟩
  cases answer <;> trivial

theorem only_bind {body : Program Op Ans Err First}
    {rest : First → Program Op Ans Err Second}
    (first : body.Only allowed) (later : ∀ result, (rest result).Only allowed) :
    (body.bind rest).Only allowed := by
  induction body with
  | done result => exact later result
  | raise error => trivial
  | call op next ih => exact ⟨first.1, fun answer => ih answer (first.2 answer)⟩

theorem only_catching {body : Program Op Ans Err First}
    {handler : Err → Program Op Ans Err First}
    (first : body.Only allowed) (later : ∀ error, (handler error).Only allowed) :
    (body.catching handler).Only allowed := by
  induction body with
  | done result => trivial
  | raise error => exact later error
  | call op next ih => exact ⟨first.1, fun answer => ih answer (first.2 answer)⟩

theorem only_ensuring {body : Program Op Ans Err First} {cleanup : Program Op Ans Err Unit}
    (first : body.Only allowed) (last : cleanup.Only allowed) :
    (body.ensuring cleanup).Only allowed := by
  induction body with
  | done result => exact only_bind last fun _ => trivial
  | raise error => exact only_bind last fun _ => trivial
  | call op next ih => exact ⟨first.1, fun answer => ih answer (first.2 answer)⟩

theorem only_for_each {items : List First} {body : First → Program Op Ans Err Unit}
    (each : ∀ item ∈ items, (body item).Only allowed) : (forEach items body).Only allowed := by
  induction items with
  | nil => trivial
  | cons item items ih =>
      refine only_bind (each item (by simp)) fun _ => ih ?_
      intro other member
      exact each other (by simp [member])

theorem Only.mono {body : Program Op Ans Err First} (first : body.Only allowed)
    (widen : ∀ op, allowed op → wider op) : body.Only wider := by
  induction body with
  | done result => trivial
  | raise error => trivial
  | call op next ih => exact ⟨widen op first.1, fun answer => ih answer (first.2 answer)⟩

end Only

end Program

/-- A discipline keeps a ghost value for one coroutine, moved by its own operations and
their answers, and says which operation the coroutine may ask for next. -/
structure Discipline (Op : Type) (Ans : Op → Type) (Err : Type) where
  Ghost : Type
  allowed : Ghost → Op → Prop
  next : Ghost → (op : Op) → Except Err (Ans op) → Ghost

namespace Program

variable {Op : Type} {Ans : Op → Type} {Err : Type} {First Second : Type}
variable (discipline : Discipline Op Ans Err)

/-- From `ghost` on, `body` keeps the discipline whatever the answers are; it returns only
into `returns` and raises only into `raises`. -/
def Follows : Program Op Ans Err First → discipline.Ghost →
    (First → discipline.Ghost → Prop) → (Err → discipline.Ghost → Prop) → Prop
  | done result, ghost, returns, _ => returns result ghost
  | raise error, ghost, _, raises => raises error ghost
  | call op next, ghost, returns, raises =>
      discipline.allowed ghost op ∧
        ∀ answer, (next answer).Follows (discipline.next ghost op answer) returns raises

variable {discipline}
variable {returns : First → discipline.Ghost → Prop} {raises : Err → discipline.Ghost → Prop}

@[simp] theorem follows_done (result : First) (ghost : discipline.Ghost) :
    (done result : Program Op Ans Err First).Follows discipline ghost returns raises ↔
      returns result ghost := Iff.rfl

@[simp] theorem follows_raise (error : Err) (ghost : discipline.Ghost) :
    (raise error : Program Op Ans Err First).Follows discipline ghost returns raises ↔
      raises error ghost := Iff.rfl

@[simp] theorem follows_bind (body : Program Op Ans Err First)
    (rest : First → Program Op Ans Err Second) (ghost : discipline.Ghost)
    (after : Second → discipline.Ghost → Prop) :
    (body.bind rest).Follows discipline ghost after raises ↔
      body.Follows discipline ghost
        (fun result reached => (rest result).Follows discipline reached after raises) raises := by
  induction body generalizing ghost with
  | done result => rfl
  | raise error => rfl
  | call op next ih =>
      simp only [bind, Follows]
      exact and_congr_right fun _ => forall_congr' fun answer => ih answer _

@[simp] theorem follows_catching (body : Program Op Ans Err First)
    (handler : Err → Program Op Ans Err First) (ghost : discipline.Ghost) :
    (body.catching handler).Follows discipline ghost returns raises ↔
      body.Follows discipline ghost returns
        (fun error reached => (handler error).Follows discipline reached returns raises) := by
  induction body generalizing ghost with
  | done result => rfl
  | raise error => rfl
  | call op next ih =>
      simp only [catching, Follows]
      exact and_congr_right fun _ => forall_congr' fun answer => ih answer _

@[simp] theorem follows_ensuring (body : Program Op Ans Err First)
    (cleanup : Program Op Ans Err Unit) (ghost : discipline.Ghost) :
    (body.ensuring cleanup).Follows discipline ghost returns raises ↔
      body.Follows discipline ghost
        (fun result reached => cleanup.Follows discipline reached (fun _ => returns result) raises)
        (fun error reached => cleanup.Follows discipline reached (fun _ => raises error) raises) := by
  induction body generalizing ghost with
  | done result => simp only [ensuring, follows_bind, Follows]
  | raise error => simp only [ensuring, follows_bind, Follows]
  | call op next ih =>
      simp only [ensuring, Follows]
      exact and_congr_right fun _ => forall_congr' fun answer => ih answer _

variable (discipline) in
theorem follows_perform (op : Op) (ghost : discipline.Ghost)
    (after : Ans op → discipline.Ghost → Prop) :
    (perform op : Program Op Ans Err (Ans op)).Follows discipline ghost after raises ↔
      discipline.allowed ghost op ∧
        (∀ value, after value (discipline.next ghost op (.ok value))) ∧
        ∀ error, raises error (discipline.next ghost op (.error error)) := by
  simp only [perform, Follows]
  refine and_congr_right fun _ => ⟨fun every => ⟨fun value => every (.ok value),
    fun error => every (.error error)⟩, fun ⟨good, bad⟩ answer => ?_⟩
  cases answer with
  | ok value => exact good value
  | error error => exact bad error

theorem Follows.mono {body : Program Op Ans Err First} {ghost : discipline.Ghost}
    {returns' : First → discipline.Ghost → Prop} {raises' : Err → discipline.Ghost → Prop}
    (follows : body.Follows discipline ghost returns raises)
    (good : ∀ result reached, returns result reached → returns' result reached)
    (bad : ∀ error reached, raises error reached → raises' error reached) :
    body.Follows discipline ghost returns' raises' := by
  induction body generalizing ghost with
  | done result => exact good _ _ follows
  | raise error => exact bad _ _ follows
  | call op next ih => exact ⟨follows.1, fun answer => ih answer (follows.2 answer)⟩

theorem Follows.andThen {body : Program Op Ans Err First}
    {rest : First → Program Op Ans Err Second} {ghost : discipline.Ghost}
    {middle : First → discipline.Ghost → Prop} {failed : Err → discipline.Ghost → Prop}
    {after : Second → discipline.Ghost → Prop}
    (first : body.Follows discipline ghost middle failed)
    (later : ∀ result reached, middle result reached →
      (rest result).Follows discipline reached after raises)
    (fails : ∀ error reached, failed error reached → raises error reached) :
    (body.bind rest).Follows discipline ghost after raises :=
  (follows_bind ..).mpr (first.mono later fails)

/-- The rule of `try: ... except: ...`. -/
theorem Follows.caught {body : Program Op Ans Err First}
    {handler : Err → Program Op Ans Err First} {ghost : discipline.Ghost}
    {middle : First → discipline.Ghost → Prop} {failed : Err → discipline.Ghost → Prop}
    (first : body.Follows discipline ghost middle failed)
    (good : ∀ result reached, middle result reached → returns result reached)
    (later : ∀ error reached, failed error reached →
      (handler error).Follows discipline reached returns raises) :
    (body.catching handler).Follows discipline ghost returns raises :=
  (follows_catching ..).mpr (first.mono good later)

/-- The rule of `try: ... finally: ...`. -/
theorem Follows.ensured {body : Program Op Ans Err First} {cleanup : Program Op Ans Err Unit}
    {ghost : discipline.Ghost}
    {middle : First → discipline.Ghost → Prop} {failed : Err → discipline.Ghost → Prop}
    (first : body.Follows discipline ghost middle failed)
    (good : ∀ result reached, middle result reached →
      cleanup.Follows discipline reached (fun _ => returns result) raises)
    (bad : ∀ error reached, failed error reached →
      cleanup.Follows discipline reached (fun _ => raises error) raises) :
    (body.ensuring cleanup).Follows discipline ghost returns raises :=
  (follows_ensuring ..).mpr (first.mono good bad)

/-- The loop rule: an assertion every round keeps holds after the loop. -/
theorem follows_for_each {items : List First} {body : First → Program Op Ans Err Unit}
    {holds : discipline.Ghost → Prop} {ghost : discipline.Ghost} (entered : holds ghost)
    (round : ∀ item ∈ items, ∀ reached, holds reached →
      (body item).Follows discipline reached (fun _ => holds) raises) :
    (forEach items body).Follows discipline ghost (fun _ => holds) raises := by
  induction items generalizing ghost with
  | nil => exact entered
  | cons item items ih =>
      rw [forEach, follows_bind]
      refine (round item (by simp) ghost entered).mono (fun _ reached kept => ?_)
        fun _ _ raised => raised
      exact ih kept fun other member => round other (by simp [member])

variable (discipline) in
/-- A coroutine that only asks for operations which are allowed in, and keep, an assertion
follows the discipline from every ghost that satisfies it. -/
theorem Only.follows {allowed : Op → Prop} {body : Program Op Ans Err First}
    (only : body.Only allowed) (holds : discipline.Ghost → Prop)
    (permitted : ∀ ghost op, holds ghost → allowed op → discipline.allowed ghost op)
    (kept : ∀ ghost op answer, holds ghost → allowed op → holds (discipline.next ghost op answer))
    {ghost : discipline.Ghost} (entered : holds ghost) :
    body.Follows discipline ghost (fun _ => holds) (fun _ => holds) := by
  induction body generalizing ghost with
  | done result => exact entered
  | raise error => exact entered
  | call op next ih =>
      exact ⟨permitted ghost op entered only.1,
        fun answer => ih answer (only.2 answer) (kept ghost op answer entered only.1)⟩

/-- What a disciplined coroutine can ask for, whatever its ghost. -/
theorem Follows.only {body : Program Op Ans Err First} {ghost : discipline.Ghost}
    (follows : body.Follows discipline ghost returns raises) :
    body.Only fun op => ∃ reached, discipline.allowed reached op := by
  induction body generalizing ghost with
  | done result => trivial
  | raise error => trivial
  | call op next ih => exact ⟨⟨ghost, follows.1⟩, fun answer => ih answer (follows.2 answer)⟩

/-- The frame rule: operations that are allowed at a ghost and leave it alone. -/
theorem Only.stays {allowed : Op → Prop} {body : Program Op Ans Err First}
    (only : body.Only allowed) {ghost : discipline.Ghost}
    (neutral : ∀ op, allowed op →
      discipline.allowed ghost op ∧ ∀ answer, discipline.next ghost op answer = ghost)
    (good : ∀ result, returns result ghost) (bad : ∀ error, raises error ghost) :
    body.Follows discipline ghost returns raises := by
  induction body with
  | done result => exact good result
  | raise error => exact bad error
  | call op next ih =>
      obtain ⟨permitted, kept⟩ := neutral op only.1
      refine ⟨permitted, fun answer => ?_⟩
      rw [kept answer]
      exact ih answer (only.2 answer)

/-- Some answers lead the coroutine to return this result. -/
def Returns : Program Op Ans Err First → First → Prop
  | done result, wanted => result = wanted
  | raise _, _ => False
  | call _ next, wanted => ∃ answer, (next answer).Returns wanted

@[simp] theorem returns_done (result wanted : First) :
    (done result : Program Op Ans Err First).Returns wanted ↔ result = wanted := Iff.rfl

@[simp] theorem returns_raise (error : Err) (wanted : First) :
    (raise error : Program Op Ans Err First).Returns wanted ↔ False := Iff.rfl

@[simp] theorem returns_bind (body : Program Op Ans Err First)
    (rest : First → Program Op Ans Err Second) (wanted : Second) :
    (body.bind rest).Returns wanted ↔
      ∃ result, body.Returns result ∧ (rest result).Returns wanted := by
  induction body with
  | done result => simp
  | raise error => simp
  | call op next ih =>
      simp only [bind, Returns, ih]
      constructor
      · rintro ⟨answer, result, first, later⟩
        exact ⟨result, ⟨answer, first⟩, later⟩
      · rintro ⟨result, ⟨answer, first⟩, later⟩
        exact ⟨answer, result, first, later⟩

theorem returns_perform (op : Op) (value : Ans op) :
    (perform op : Program Op Ans Err (Ans op)).Returns value := ⟨.ok value, rfl⟩

theorem only_bind_returned {allowed : Op → Prop} {body : Program Op Ans Err First}
    {rest : First → Program Op Ans Err Second} (first : body.Only allowed)
    (later : ∀ result, body.Returns result → (rest result).Only allowed) :
    (body.bind rest).Only allowed := by
  induction body with
  | done result => exact later result rfl
  | raise error => trivial
  | call op next ih =>
      exact ⟨first.1, fun answer =>
        ih answer (first.2 answer) fun result returned => later result ⟨answer, returned⟩⟩

/-- Some answers lead the coroutine to ask for this operation. -/
def Asks : Program Op Ans Err First → Op → Prop
  | done _, _ => False
  | raise _, _ => False
  | call op next, wanted => op = wanted ∨ ∃ answer, (next answer).Asks wanted

theorem asks_perform (op : Op) : (perform op : Program Op Ans Err (Ans op)).Asks op := .inl rfl

@[simp] theorem asks_bind (body : Program Op Ans Err First)
    (rest : First → Program Op Ans Err Second) (wanted : Op) :
    (body.bind rest).Asks wanted ↔
      body.Asks wanted ∨ ∃ result, body.Returns result ∧ (rest result).Asks wanted := by
  induction body with
  | done result => simp [Asks]
  | raise error => simp [Asks]
  | call op next ih =>
      simp only [bind, Asks, Returns, ih]
      constructor
      · rintro (same | ⟨answer, asked | ⟨result, first, later⟩⟩)
        · exact .inl (.inl same)
        · exact .inl (.inr ⟨answer, asked⟩)
        · exact .inr ⟨result, ⟨answer, first⟩, later⟩
      · rintro ((same | ⟨answer, asked⟩) | ⟨result, ⟨answer, first⟩, later⟩)
        · exact .inl same
        · exact .inr ⟨answer, .inl asked⟩
        · exact .inr ⟨answer, .inr ⟨result, first, later⟩⟩

theorem Asks.before {body : Program Op Ans Err First} {wanted : Op} (asks : body.Asks wanted)
    (rest : First → Program Op Ans Err Second) : (body.bind rest).Asks wanted :=
  (asks_bind ..).mpr (.inl asks)

theorem Asks.after {body : Program Op Ans Err First} {rest : First → Program Op Ans Err Second}
    {wanted : Op} (result : First) (returned : body.Returns result)
    (asks : (rest result).Asks wanted) : (body.bind rest).Asks wanted :=
  (asks_bind ..).mpr (.inr ⟨result, returned, asks⟩)

theorem Asks.guarded {body : Program Op Ans Err First} {wanted : Op} (asks : body.Asks wanted)
    (handler : Err → Program Op Ans Err First) : (body.catching handler).Asks wanted := by
  induction body with
  | done result => cases asks
  | raise error => cases asks
  | call op next ih => exact asks.imp id fun ⟨answer, asked⟩ => ⟨answer, ih answer asked⟩

theorem Only.asked {allowed : Op → Prop} {body : Program Op Ans Err First}
    (only : body.Only allowed) {wanted : Op} (asks : body.Asks wanted) : allowed wanted := by
  induction body with
  | done result => cases asks
  | raise error => cases asks
  | call op next ih =>
      rcases asks with rfl | ⟨answer, asked⟩
      · exact only.1
      · exact ih answer (only.2 answer) asked

theorem Follows.returned {body : Program Op Ans Err First} {ghost : discipline.Ghost}
    (follows : body.Follows discipline ghost returns raises) :
    body.Follows discipline ghost
      (fun result reached => returns result reached ∧ body.Returns result) raises := by
  induction body generalizing ghost with
  | done result => exact ⟨follows, rfl⟩
  | raise error => exact follows
  | call op next ih =>
      exact ⟨follows.1, fun answer => (ih answer (follows.2 answer)).mono
        (fun _ _ both => ⟨both.1, answer, both.2⟩) fun _ _ raised => raised⟩

end Program

def Discipline.within {Op : Type} {Ans : Op → Type} {Err : Type}
    (discipline : Discipline Op Ans Err) (allowed : Op → Prop) : Discipline Op Ans Err where
  Ghost := discipline.Ghost
  allowed ghost op := allowed op ∧ discipline.allowed ghost op
  next := discipline.next

/-- A family of disciplines as one, whose ghost carries the index. -/
def Discipline.indexed {Op : Type} {Ans : Op → Type} {Err Index : Type}
    (family : Index → Discipline Op Ans Err) : Discipline Op Ans Err where
  Ghost := Σ index, (family index).Ghost
  allowed ghost op := (family ghost.1).allowed ghost.2 op
  next ghost op answer := ⟨ghost.1, (family ghost.1).next ghost.2 op answer⟩

theorem Program.Follows.indexed {Op : Type} {Ans : Op → Type} {Err Index First : Type}
    {family : Index → Discipline Op Ans Err} {index : Index} {body : Program Op Ans Err First}
    {ghost : (family index).Ghost} {returns : First → (family index).Ghost → Prop}
    {raises : Err → (family index).Ghost → Prop}
    (follows : body.Follows (family index) ghost returns raises) :
    body.Follows (.indexed family) ⟨index, ghost⟩ (fun _ _ => True) (fun _ _ => True) := by
  induction body generalizing ghost with
  | done result => trivial
  | raise error => trivial
  | call op next ih => exact ⟨follows.1, fun answer => ih answer (follows.2 answer)⟩

theorem Program.Follows.forget {Op : Type} {Ans : Op → Type} {Err First : Type}
    {discipline : Discipline Op Ans Err} {allowed : Op → Prop} {body : Program Op Ans Err First}
    {ghost : discipline.Ghost} {returns : First → discipline.Ghost → Prop}
    {raises : Err → discipline.Ghost → Prop}
    (follows : body.Follows (discipline.within allowed) ghost returns raises) :
    body.Follows discipline ghost returns raises ∧ body.Only allowed := by
  induction body generalizing ghost with
  | done result => exact ⟨follows, trivial⟩
  | raise error => exact ⟨follows, trivial⟩
  | call op next ih =>
      exact ⟨⟨follows.1.2, fun answer => (ih answer (follows.2 answer)).1⟩,
        follows.1.1, fun answer => (ih answer (follows.2 answer)).2⟩

end Bugalizer.Coroutine
