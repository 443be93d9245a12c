import Bugalizer.Coroutine.Program

/-!
# How a coroutine can end

What it can return or raise, over all answers; and what holds of whatever it returns.
-/

namespace Bugalizer.Coroutine.Program

set_option autoImplicit false

variable {Op : Type} {Ans : Op → Type} {Err : Type} {First Second : Type}

/-- Some answers lead the coroutine to this outcome. -/
def Ends : Program Op Ans Err First → Except Err First → Prop
  | done result, outcome => outcome = .ok result
  | raise error, outcome => outcome = .error error
  | call _ next, outcome => ∃ answer, (next answer).Ends outcome

/-- Whatever the answers are, a result that is returned is good. -/
def Yields (good : First → Prop) : Program Op Ans Err First → Prop
  | done result => good result
  | raise _ => True
  | call _ next => ∀ answer, (next answer).Yields good

theorem ends_bind (body : Program Op Ans Err First) (rest : First → Program Op Ans Err Second)
    (outcome : Except Err Second) :
    (body.bind rest).Ends outcome ↔
      (∃ result, body.Ends (.ok result) ∧ (rest result).Ends outcome) ∨
        ∃ error, body.Ends (.error error) ∧ outcome = .error error := by
  induction body with
  | done result =>
      constructor
      · intro ends
        exact .inl ⟨result, rfl, ends⟩
      · rintro (⟨other, same, ends⟩ | ⟨error, raised, -⟩)
        · cases same
          exact ends
        · cases raised
  | raise error =>
      constructor
      · intro ends
        exact .inr ⟨error, rfl, ends⟩
      · rintro (⟨other, same, -⟩ | ⟨error, raised, same⟩)
        · cases same
        · cases raised
          exact same
  | call op next ih =>
      simp only [bind, Ends, ih]
      constructor
      · rintro ⟨answer, ⟨result, first, later⟩ | ⟨error, first, same⟩⟩
        · exact .inl ⟨result, ⟨answer, first⟩, later⟩
        · exact .inr ⟨error, ⟨answer, first⟩, same⟩
      · rintro (⟨result, ⟨answer, first⟩, later⟩ | ⟨error, ⟨answer, first⟩, same⟩)
        · exact ⟨answer, .inl ⟨result, first, later⟩⟩
        · exact ⟨answer, .inr ⟨error, first, same⟩⟩

theorem ends_catching (body : Program Op Ans Err First) (handler : Err → Program Op Ans Err First)
    (outcome : Except Err First) :
    (body.catching handler).Ends outcome ↔
      (∃ result, body.Ends (.ok result) ∧ outcome = .ok result) ∨
        ∃ error, body.Ends (.error error) ∧ (handler error).Ends outcome := by
  induction body with
  | done result =>
      constructor
      · intro ends
        exact .inl ⟨result, rfl, ends⟩
      · rintro (⟨other, same, ends⟩ | ⟨error, raised, -⟩)
        · cases same
          exact ends
        · cases raised
  | raise error =>
      constructor
      · intro ends
        exact .inr ⟨error, rfl, ends⟩
      · rintro (⟨other, same, -⟩ | ⟨error, raised, ends⟩)
        · cases same
        · cases raised
          exact ends
  | call op next ih =>
      simp only [catching, Ends, ih]
      constructor
      · rintro ⟨answer, ⟨result, first, same⟩ | ⟨error, first, later⟩⟩
        · exact .inl ⟨result, ⟨answer, first⟩, same⟩
        · exact .inr ⟨error, ⟨answer, first⟩, later⟩
      · rintro (⟨result, ⟨answer, first⟩, same⟩ | ⟨error, ⟨answer, first⟩, later⟩)
        · exact ⟨answer, .inl ⟨result, first, same⟩⟩
        · exact ⟨answer, .inr ⟨error, first, later⟩⟩

section Yields

variable {good : First → Prop}

theorem Yields.ends {body : Program Op Ans Err First} (yields : body.Yields good) {result : First}
    (ends : body.Ends (.ok result)) : good result := by
  induction body with
  | done other =>
      cases ends
      exact yields
  | raise error => cases ends
  | call op next ih =>
      obtain ⟨answer, later⟩ := ends
      exact ih answer (yields answer) later

theorem yields_bind {between : First → Prop} {wanted : Second → Prop} {body : Program Op Ans Err First}
    {rest : First → Program Op Ans Err Second} (first : body.Yields between)
    (later : ∀ result, between result → (rest result).Yields wanted) : (body.bind rest).Yields wanted := by
  induction body with
  | done result => exact later result first
  | raise error => trivial
  | call op next ih => exact fun answer => ih answer (first answer)

theorem yields_any (body : Program Op Ans Err First) : body.Yields fun _ => True := by
  induction body with
  | done result => trivial
  | raise error => trivial
  | call op next ih => exact ih

theorem yields_after {wanted : Second → Prop} (body : Program Op Ans Err First)
    {rest : First → Program Op Ans Err Second} (later : ∀ result, (rest result).Yields wanted) :
    (body.bind rest).Yields wanted :=
  yields_bind (yields_any body) fun result _ => later result

theorem yields_ensuring {body : Program Op Ans Err First} (cleanup : Program Op Ans Err Unit)
    (yields : body.Yields good) : (body.ensuring cleanup).Yields good := by
  induction body with
  | done result => exact yields_after cleanup fun _ => yields
  | raise error => exact yields_after cleanup fun _ => trivial
  | call op next ih => exact fun answer => ih answer (yields answer)

end Yields

end Bugalizer.Coroutine.Program
