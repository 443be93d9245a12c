import Mathlib

/-!
# Paths of a labelled step relation

A path from a state is a list of labels and the state it ends in, built one step at a
time at its end, so that an invariant of a path is proved from its last step.
-/

namespace Bugalizer.Coroutine

set_option autoImplicit false

section Path

variable {Conf Label : Type} {step wider : Conf → Label → Conf → Prop}

inductive Path (step : Conf → Label → Conf → Prop) (first : Conf) : List Label → Conf → Prop
  | nil : Path step first [] first
  | snoc {middle last : Conf} {labels : List Label} {label : Label}
      (before : Path step first labels middle) (moves : step middle label last) :
      Path step first (labels ++ [label]) last

theorem Path.trans {first middle last : Conf} {before after : List Label}
    (head : Path step first before middle) (tail : Path step middle after last) :
    Path step first (before ++ after) last := by
  induction tail with
  | nil => simpa using head
  | snoc _ moves ih =>
      rw [← List.append_assoc]
      exact .snoc ih moves

theorem Path.cons {first middle last : Conf} {label : Label} {after : List Label}
    (moves : step first label middle) (tail : Path step middle after last) :
    Path step first (label :: after) last :=
  (Path.snoc .nil moves).trans tail

theorem Path.split {first last : Conf} {labels before after : List Label} {label : Label}
    (path : Path step first labels last) (cut : labels = before ++ label :: after) :
    ∃ middle next, Path step first before middle ∧ step middle label next ∧
      Path step next after last := by
  induction path generalizing after with
  | nil => simp at cut
  | snoc earlier moves ih =>
      rcases List.eq_nil_or_concat' after with rfl | ⟨front, final, rfl⟩
      · obtain ⟨same, tail⟩ := List.append_inj' cut rfl
        cases tail
        subst same
        exact ⟨_, _, earlier, moves, .nil⟩
      · rw [← List.cons_append, ← List.append_assoc] at cut
        obtain ⟨same, tail⟩ := List.append_inj' cut rfl
        cases tail
        obtain ⟨middle, next, head, moved, rest⟩ := ih same
        exact ⟨middle, next, head, moved, .snoc rest moves⟩

/-- What the first state satisfies and every step keeps holds at the end. -/
theorem Path.keeps {holds : Conf → Prop} {first last : Conf} {labels : List Label}
    (path : Path step first labels last) (initially : holds first)
    (keep : ∀ before label after, step before label after → holds before → holds after) :
    holds last := by
  induction path with
  | nil => exact initially
  | snoc _ moves ih => exact keep _ _ _ moves ih

/-- A reflexive and transitive relation that every step refines relates the two ends. -/
theorem Path.relates {related : Conf → Conf → Prop} {first last : Conf} {labels : List Label}
    (path : Path step first labels last) (same : ∀ conf, related conf conf)
    (chain : ∀ a b c, related a b → related b c → related a c)
    (refine' : ∀ before label after, step before label after → related before after) :
    related first last := by
  induction path with
  | nil => exact same _
  | snoc _ moves ih => exact chain _ _ _ ih (refine' _ _ _ moves)

variable {allowed : List Label → Conf → Label → Prop}

/-- A path each of whose steps is allowed, by what went before it and the state it leaves. -/
inductive Guarded (step : Conf → Label → Conf → Prop) (allowed : List Label → Conf → Label → Prop)
    (first : Conf) : List Label → Conf → Prop
  | nil : Guarded step allowed first [] first
  | snoc {middle last : Conf} {labels : List Label} {label : Label}
      (before : Guarded step allowed first labels middle) (moves : step middle label last)
      (allows : allowed labels middle label) :
      Guarded step allowed first (labels ++ [label]) last

theorem Guarded.path {first last : Conf} {labels : List Label}
    (guarded : Guarded step allowed first labels last) : Path step first labels last := by
  induction guarded with
  | nil => exact .nil
  | snoc _ moves _ ih => exact .snoc ih moves

theorem Path.guarded {first last : Conf} {labels : List Label}
    (path : Path step first labels last) : Guarded step (fun _ _ _ => True) first labels last := by
  induction path with
  | nil => exact .nil
  | snoc _ moves ih => exact .snoc ih moves trivial

theorem Guarded.mono {wider : List Label → Conf → Label → Prop} {first last : Conf}
    {labels : List Label} (guarded : Guarded step allowed first labels last)
    (widen : ∀ past conf label, allowed past conf label → wider past conf label) :
    Guarded step wider first labels last := by
  induction guarded with
  | nil => exact .nil
  | snoc _ moves allows ih => exact .snoc ih moves (widen _ _ _ allows)

theorem Path.guarded_by {first last : Conf} {labels : List Label} (path : Path step first labels last)
    (allows : ∀ label ∈ labels, ∀ before state, allowed before state label) :
    Guarded step allowed first labels last := by
  induction path with
  | nil => exact .nil
  | snoc _ moves ih =>
      exact .snoc (ih fun label member => allows label (by simp [member])) moves
        (allows _ (by simp) _ _)

end Path

end Bugalizer.Coroutine
