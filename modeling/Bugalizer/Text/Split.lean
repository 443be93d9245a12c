import Mathlib

/-!
# Splitting a text at a separator

`str.split` with a separator of one character, over any alphabet.
-/

namespace Bugalizer.Text

set_option autoImplicit false

variable {Letter : Type} [DecidableEq Letter]

/-- The parts between the separators; never none. -/
def split (separator : Letter) : List Letter → List (List Letter)
  | [] => [[]]
  | letter :: rest =>
      if letter = separator then [] :: split separator rest
      else
        match split separator rest with
        | [] => [[letter]]
        | part :: parts => (letter :: part) :: parts

theorem split_ne_nil (separator : Letter) (text : List Letter) : split separator text ≠ [] := by
  cases text with
  | nil => simp [split]
  | cons letter rest =>
      simp only [split]
      split
      · simp
      · split <;> simp

theorem split_separator (separator : Letter) (rest : List Letter) :
    split separator (separator :: rest) = [] :: split separator rest := by
  simp [split]

theorem split_letter {separator letter : Letter} (apart : letter ≠ separator) {rest part : List Letter}
    {parts : List (List Letter)} (after : split separator rest = part :: parts) :
    split separator (letter :: rest) = (letter :: part) :: parts := by
  simp [split, apart, after]

/-- What comes before the first separator is the first part. -/
theorem split_append {separator : Letter} {first : List Letter} (free : separator ∉ first)
    (rest : List Letter) : split separator (first ++ separator :: rest) = first :: split separator rest := by
  induction first with
  | nil => exact split_separator separator rest
  | cons letter first ih =>
      rw [List.mem_cons, not_or] at free
      exact split_letter (Ne.symm free.1) (ih free.2)

theorem split_free {separator : Letter} {text : List Letter} (free : separator ∉ text) :
    split separator text = [text] := by
  induction text with
  | nil => rfl
  | cons letter text ih =>
      rw [List.mem_cons, not_or] at free
      exact split_letter (Ne.symm free.1) (ih free.2)

theorem split_between (separator : Letter) (before after : List Letter) :
    split separator (before ++ separator :: after) = split separator before ++ split separator after := by
  induction before with
  | nil => exact split_separator separator after
  | cons letter before ih =>
      by_cases here : letter = separator
      · subst here
        rw [List.cons_append, split_separator, split_separator, ih, List.cons_append]
      · obtain ⟨part, parts, first⟩ := List.exists_cons_of_ne_nil (split_ne_nil separator before)
        rw [first, List.cons_append] at ih
        rw [List.cons_append, split_letter here ih, split_letter here first, List.cons_append]

theorem part_induction {motive : List Letter → Prop} (separator : Letter)
    (last : ∀ part, separator ∉ part → motive part)
    (next : ∀ part rest, separator ∉ part → motive rest → motive (part ++ separator :: rest))
    (text : List Letter) : motive text := by
  have held : ∀ front, separator ∉ front → motive (front ++ text) := by
    induction text with
    | nil =>
        intro front free
        rw [List.append_nil]
        exact last front free
    | cons letter text ih =>
        intro front free
        by_cases here : letter = separator
        · subst here
          exact next front text free (ih [] List.not_mem_nil)
        · have longer := ih (front ++ [letter]) (by simp [free, Ne.symm here])
          rwa [List.append_assoc] at longer
  exact held [] List.not_mem_nil

theorem split_length (separator : Letter) (text : List Letter) :
    (split separator text).length = text.count separator + 1 := by
  induction text with
  | nil => rfl
  | cons letter text ih =>
      by_cases here : letter = separator
      · subst here
        rw [split_separator, List.length_cons, ih, List.count_cons_self]
      · obtain ⟨part, parts, after⟩ := List.exists_cons_of_ne_nil (split_ne_nil separator text)
        rw [split_letter here after, List.count_cons_of_ne here, ← ih, after]
        rfl

end Bugalizer.Text
