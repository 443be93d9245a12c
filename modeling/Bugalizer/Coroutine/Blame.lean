import Bugalizer.Coroutine.Program

/-!
# Exceptions that an operation is to blame for

A coroutine is blameless when it raises nothing of its own: whatever leaves it follows an
operation that failed. The ghost records whether one did.
-/

namespace Bugalizer.Coroutine

set_option autoImplicit false

/-- A discipline that permits everything and remembers a failure for good. -/
structure Blame (Op : Type) (Ans : Op → Type) (Err : Type) where
  discipline : Discipline Op Ans Err
  blamed : discipline.Ghost → Prop
  allows : ∀ ghost op, discipline.allowed ghost op
  failed : ∀ ghost op error, blamed (discipline.next ghost op (.error error))
  kept : ∀ ghost op answer, blamed ghost → blamed (discipline.next ghost op answer)

namespace Program

variable {Op : Type} {Ans : Op → Type} {Err : Type} {First Second : Type}
variable (blame : Blame Op Ans Err)

/-- From `ghost` on, `body` raises only after a failure. -/
abbrev BlamelessFrom (body : Program Op Ans Err First) (ghost : blame.discipline.Ghost) : Prop :=
  body.Follows blame.discipline ghost (fun _ _ => True) fun _ => blame.blamed

def Blameless (body : Program Op Ans Err First) : Prop := ∀ ghost, body.BlamelessFrom blame ghost

variable {blame}

theorem blamed_follows (body : Program Op Ans Err First) {ghost : blame.discipline.Ghost}
    (blamed : blame.blamed ghost) :
    body.Follows blame.discipline ghost (fun _ => blame.blamed) fun _ => blame.blamed := by
  induction body generalizing ghost with
  | done result => exact blamed
  | raise error => exact blamed
  | call op next ih =>
      exact ⟨blame.allows ghost op, fun answer => ih answer (blame.kept ghost op answer blamed)⟩

theorem blameless_done (result : First) :
    (done result : Program Op Ans Err First).Blameless blame := fun _ => trivial

theorem blameless_perform (op : Op) :
    (perform op : Program Op Ans Err (Ans op)).Blameless blame := fun ghost =>
  (follows_perform blame.discipline op ghost _).mpr
    ⟨blame.allows ghost op, fun _ => trivial, fun error => blame.failed ghost op error⟩

theorem blameless_bind {body : Program Op Ans Err First}
    {rest : First → Program Op Ans Err Second} (first : body.Blameless blame)
    (later : ∀ result, (rest result).Blameless blame) : (body.bind rest).Blameless blame :=
  fun ghost => (first ghost).andThen (fun result reached _ => later result reached)
    fun _ _ blamed => blamed

theorem blameless_catching {body : Program Op Ans Err First}
    {handler : Err → Program Op Ans Err First} (first : body.Blameless blame) :
    (body.catching handler).Blameless blame := fun ghost =>
  (first ghost).caught (fun _ _ _ => trivial) fun error _ blamed =>
    (blamed_follows (handler error) blamed).mono (fun _ _ _ => trivial) fun _ _ blamed => blamed

theorem blameless_ensuring {body : Program Op Ans Err First} {cleanup : Program Op Ans Err Unit}
    (first : body.Blameless blame) (last : cleanup.Blameless blame) :
    (body.ensuring cleanup).Blameless blame := fun ghost =>
  (first ghost).ensured
    (fun _ reached _ => (last reached).mono (fun _ _ _ => trivial) fun _ _ blamed => blamed)
    fun _ _ blamed => (blamed_follows cleanup blamed).mono (fun _ _ blamed => blamed)
      fun _ _ blamed => blamed

theorem blameless_for_each {items : List First} {body : First → Program Op Ans Err Unit}
    (each : ∀ item ∈ items, (body item).Blameless blame) : (forEach items body).Blameless blame := by
  induction items with
  | nil => exact blameless_done ()
  | cons item items ih =>
      exact blameless_bind (each item (by simp)) fun _ => ih fun other member =>
        each other (by simp [member])

theorem Follows.answered {discipline : Discipline Op Ans Err} {op : Op}
    {rest : Ans op → Program Op Ans Err First} {ghost : discipline.Ghost}
    {returns : First → discipline.Ghost → Prop} {raises : Err → discipline.Ghost → Prop}
    (follows : ((perform op).bind rest).Follows discipline ghost returns raises) (value : Ans op) :
    (rest value).Follows discipline (discipline.next ghost op (.ok value)) returns raises :=
  follows.2 (.ok value)

end Program

end Bugalizer.Coroutine
