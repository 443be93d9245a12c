import Bugalizer.Json
import Mathlib.Data.List.DropRight

/-!
# Blanks around a text

What `strip` and `rstrip` leave.
-/

namespace Bugalizer.Text

set_option autoImplicit false

theorem stripped_last (text : List Char) : (Py.stripped text).getLast? ≠ some '\n' := by
  rw [Py.stripped, List.getLast?_reverse]
  intro fed
  have outside := List.head?_dropWhile_not Py.isSpace (text.dropWhile Py.isSpace).reverse
  rw [fed] at outside
  revert outside
  decide

theorem stripped_fixed {text : List Char} {first last : Char} (head : text.head? = some first)
    (tail : text.getLast? = some last) (opens : Py.isSpace first = false) (closes : Py.isSpace last = false) :
    Py.stripped text = text := by
  have front : text.dropWhile Py.isSpace = text := by
    cases text with
    | nil => rfl
    | cons letter text =>
        obtain rfl : letter = first := Option.some.inj head
        exact List.dropWhile_cons_of_neg (by rw [opens]; decide)
  have back : text.reverse.dropWhile Py.isSpace = text.reverse := by
    rw [← List.head?_reverse] at tail
    cases turned : text.reverse with
    | nil => rfl
    | cons letter rest =>
        rw [turned] at tail
        obtain rfl : letter = last := Option.some.inj tail
        exact List.dropWhile_cons_of_neg (by rw [closes]; decide)
  rw [Py.stripped, front, back, List.reverse_reverse]

theorem stripped_shape (line : List Char) :
    ∃ before after, line = before ++ (Py.stripped line ++ after) ∧ before.all Py.isSpace = true ∧
      after.all Py.isSpace = true ∧ (∀ letter ∈ (Py.stripped line).head?, Py.isSpace letter = false) ∧
        ∀ letter ∈ (Py.stripped line).getLast?, Py.isSpace letter = false := by
  let dropped := line.dropWhile Py.isSpace
  have core : Py.stripped line = dropped.rdropWhile Py.isSpace := rfl
  have closed : dropped.rdropWhile Py.isSpace ++ dropped.rtakeWhile Py.isSpace = dropped :=
    List.rdropWhile_append_rtakeWhile
  refine ⟨line.takeWhile Py.isSpace, dropped.rtakeWhile Py.isSpace, ?_, ?_, ?_, ?_, ?_⟩
  · rw [core, closed]
    exact List.takeWhile_append_dropWhile.symm
  · exact List.all_takeWhile
  · exact List.all_eq_true.mpr fun letter member => List.mem_rtakeWhile_imp member
  · intro letter head
    rw [core] at head
    have opens := List.head?_dropWhile_not Py.isSpace line
    cases inner : dropped.rdropWhile Py.isSpace with
    | nil =>
        rw [inner] at head
        cases head
    | cons first rest =>
        rw [inner] at head closed
        have shape : line.dropWhile Py.isSpace = first :: (rest ++ dropped.rtakeWhile Py.isSpace) := closed.symm
        rw [shape] at opens
        obtain rfl := Option.some.inj head
        exact opens
  · intro letter last
    rw [core] at last
    have filled : dropped.rdropWhile Py.isSpace ≠ [] := by
      intro empty
      rw [empty] at last
      cases last
    have closes := List.rdropWhile_last_not Py.isSpace dropped filled
    rw [List.getLast?_eq_some_getLast filled] at last
    obtain rfl := Option.some.inj last
    exact Bool.not_eq_true _ ▸ closes

theorem stripped_nil_iff (line : List Char) : Py.stripped line = [] ↔ line.all Py.isSpace = true := by
  obtain ⟨before, after, shape, opens, closes, -⟩ := stripped_shape line
  constructor
  · intro empty
    rw [shape, empty, List.nil_append, List.all_append, opens, closes]
    rfl
  · intro spaces
    have dropped : line.dropWhile Py.isSpace = [] :=
      List.dropWhile_eq_nil_iff.mpr (List.all_eq_true.mp spaces)
    rw [Py.stripped, dropped]
    rfl

/-- `line.rstrip()`. -/
abbrev rightStripped (line : List Char) : List Char := line.rdropWhile Py.isSpace

theorem right_stripped_blank {blank : List Char} (spaces : blank.all Py.isSpace = true) (text : List Char) :
    rightStripped (text ++ blank) = rightStripped text := by
  simp only [List.rdropWhile, List.reverse_append]
  rw [List.dropWhile_append_of_pos]
  · intro letter member
    exact List.all_eq_true.mp spaces letter (List.mem_reverse.mp member)

theorem right_stripped_solid {text : List Char} (closes : ∀ letter ∈ text.getLast?, Py.isSpace letter = false) :
    rightStripped text = text := by
  rw [List.rdropWhile_eq_self_iff]
  intro filled space
  rw [closes _ (List.getLast?_eq_some_getLast filled)] at space
  cases space

theorem stripped_right_stripped (line : List Char) : Py.stripped (rightStripped line) = Py.stripped line := by
  obtain ⟨before, after, shape, opens, closes, heads, lasts⟩ := stripped_shape line
  by_cases blank : Py.stripped line = []
  · have spaces := (stripped_nil_iff line).mp blank
    have empty : rightStripped line = [] := List.rdropWhile_eq_nil_iff.mpr (List.all_eq_true.mp spaces)
    rw [blank, empty]
    rfl
  · have kept : rightStripped line = before ++ Py.stripped line := by
      conv_lhs => rw [shape, ← List.append_assoc]
      rw [right_stripped_blank closes]
      apply right_stripped_solid
      rw [List.getLast?_append_of_ne_nil _ blank]
      exact lasts
    have dropped : (before ++ Py.stripped line).dropWhile Py.isSpace = Py.stripped line := by
      rw [List.dropWhile_append_of_pos fun letter member => List.all_eq_true.mp opens letter member]
      obtain ⟨first, rest, core⟩ := List.exists_cons_of_ne_nil blank
      rw [core] at heads ⊢
      exact List.dropWhile_cons_of_neg (by rw [heads first rfl]; decide)
    rw [kept]
    conv_lhs => rw [Py.stripped, dropped]
    exact right_stripped_solid lasts

end Bugalizer.Text
