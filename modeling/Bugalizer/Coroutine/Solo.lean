import Bugalizer.Coroutine.Program

/-!
# A coroutine on its own

Every operation is one move of a world, answered in the course of it. What the coroutine
can make of the world is then a relation between where it starts and where it ends, and
where it may be cut off on the way. What a move allows beside the operation itself (other
coroutines, a log of the calls) is the caller's choice.
-/

namespace Bugalizer.Coroutine

set_option autoImplicit false

/-- The worlds one operation can lead to, with its answer. -/
abbrev Move (Op : Type) (Ans : Op → Type) (Err World : Type) : Type :=
  World → (op : Op) → Except Err (Ans op) → World → Prop

namespace Program

variable {Op : Type} {Ans : Op → Type} {Err World : Type} {First Second : Type}
variable (move : Move Op Ans Err World)

/-- From `before`, the coroutine can end with this outcome in `after`. -/
def Runs : Program Op Ans Err First → World → Except Err First → World → Prop
  | done result, before, outcome, after => outcome = .ok result ∧ after = before
  | raise error, before, outcome, after => outcome = .error error ∧ after = before
  | call op next, before, outcome, after =>
      ∃ answer between, move before op answer between ∧ (next answer).Runs between outcome after

/-- From `before`, the coroutine can be cut off in `at`. -/
def Reaches : Program Op Ans Err First → World → World → Prop
  | done _, before, point => point = before
  | raise _, before, point => point = before
  | call op next, before, point =>
      point = before ∨
        ∃ answer between, move before op answer between ∧ (next answer).Reaches between point

variable {move}

variable (move) in
/-- From `before`, the coroutine can only be cut off in a world that satisfies `cut`, return
only into `returns` and raise only into `raises`. -/
def Meets (cut : World → Prop) : Program Op Ans Err First → World →
    (First → World → Prop) → (Err → World → Prop) → Prop
  | done result, before, returns, _ => cut before ∧ returns result before
  | raise error, before, _, raises => cut before ∧ raises error before
  | call op next, before, returns, raises =>
      cut before ∧ ∀ answer between, move before op answer between →
        (next answer).Meets cut between returns raises

section Meets

variable {cut : World → Prop} {returns : First → World → Prop} {raises : Err → World → Prop}

@[simp] theorem meets_done (result : First) (before : World) :
    (done result : Program Op Ans Err First).Meets move cut before returns raises ↔
      cut before ∧ returns result before := Iff.rfl

@[simp] theorem meets_raise (error : Err) (before : World) :
    (raise error : Program Op Ans Err First).Meets move cut before returns raises ↔
      cut before ∧ raises error before := Iff.rfl

theorem Meets.entered {body : Program Op Ans Err First} {before : World}
    (meets : body.Meets move cut before returns raises) : cut before := by
  cases body with
  | done _ => exact meets.1
  | raise _ => exact meets.1
  | call _ _ => exact meets.1

/-- Consequence: weaker obligations on the outcomes, which may use what `cut` says there. -/
theorem Meets.mono {body : Program Op Ans Err First} {before : World}
    {returns' : First → World → Prop} {raises' : Err → World → Prop}
    (meets : body.Meets move cut before returns raises)
    (good : ∀ result after, cut after → returns result after → returns' result after)
    (bad : ∀ error after, cut after → raises error after → raises' error after) :
    body.Meets move cut before returns' raises' := by
  induction body generalizing before with
  | done result => exact ⟨meets.1, good result before meets.1 meets.2⟩
  | raise error => exact ⟨meets.1, bad error before meets.1 meets.2⟩
  | call op next ih =>
      refine ⟨meets.1, ?_⟩
      intro answer between moved
      exact ih answer (meets.2 answer between moved)

@[simp] theorem meets_bind (body : Program Op Ans Err First)
    (rest : First → Program Op Ans Err Second) (before : World) (ends : Second → World → Prop) :
    (body.bind rest).Meets move cut before ends raises ↔
      body.Meets move cut before
        (fun result between => (rest result).Meets move cut between ends raises) raises := by
  induction body generalizing before with
  | done result =>
      constructor
      · intro meets
        exact ⟨meets.entered, meets⟩
      · intro meets
        exact meets.2
  | raise error => rfl
  | call op next ih =>
      simp only [bind, Meets]
      apply and_congr_right
      intro _
      exact forall_congr' fun answer => forall_congr' fun between => imp_congr_right fun _ =>
        ih answer between

/-- A single operation: its moves lead from `before` to where the rest is met. -/
theorem meets_perform (op : Op) (before : World) (ends : Ans op → World → Prop) :
    (perform op : Program Op Ans Err (Ans op)).Meets move cut before ends raises ↔
      cut before ∧
        (∀ value after, move before op (.ok value) after → cut after ∧ ends value after) ∧
        ∀ error after, move before op (.error error) after → cut after ∧ raises error after := by
  apply and_congr_right
  intro _
  constructor
  · intro every
    exact ⟨fun value after => every (.ok value) after, fun error after => every (.error error) after⟩
  · intro every answer after moved
    cases answer with
    | ok value => exact every.1 value after moved
    | error error => exact every.2 error after moved

theorem Meets.runs {body : Program Op Ans Err First} {before after : World}
    {outcome : Except Err First} (meets : body.Meets move cut before returns raises)
    (ran : body.Runs move before outcome after) :
    (∀ result, outcome = .ok result → returns result after) ∧
      ∀ error, outcome = .error error → raises error after := by
  induction body generalizing before with
  | done result =>
      obtain ⟨rfl, rfl⟩ := ran
      constructor
      · intro value same
        cases same
        exact meets.2
      · intro error same
        cases same
  | raise error =>
      obtain ⟨rfl, rfl⟩ := ran
      constructor
      · intro value same
        cases same
      · intro raised same
        cases same
        exact meets.2
  | call op next ih =>
      obtain ⟨answer, between, moved, later⟩ := ran
      exact ih answer (meets.2 answer between moved) later

theorem Meets.returned {body : Program Op Ans Err First} {before after : World} {result : First}
    (meets : body.Meets move cut before returns raises)
    (ran : body.Runs move before (.ok result) after) : returns result after :=
  (meets.runs ran).1 result rfl

theorem Meets.raised {body : Program Op Ans Err First} {before after : World} {error : Err}
    (meets : body.Meets move cut before returns raises)
    (ran : body.Runs move before (.error error) after) : raises error after :=
  (meets.runs ran).2 error rfl

theorem Meets.reached {body : Program Op Ans Err First} {before point : World}
    (meets : body.Meets move cut before returns raises)
    (reached : body.Reaches move before point) : cut point := by
  induction body generalizing before with
  | done result =>
      rw [reached]
      exact meets.1
  | raise error =>
      rw [reached]
      exact meets.1
  | call op next ih =>
      obtain rfl | ⟨answer, between, moved, later⟩ := reached
      · exact meets.1
      · exact ih answer (meets.2 answer between moved) later

end Meets

theorem Runs.reaches {body : Program Op Ans Err First} {before after : World}
    {outcome : Except Err First} (ran : body.Runs move before outcome after) :
    body.Reaches move before after := by
  induction body generalizing before with
  | done result => exact ran.2
  | raise error => exact ran.2
  | call op next ih =>
      obtain ⟨answer, between, moved, later⟩ := ran
      exact .inr ⟨answer, between, moved, ih answer later⟩

end Program

end Bugalizer.Coroutine
