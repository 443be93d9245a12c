import Mathlib

/-!
# Rewriting a text from left to right

`str.replace` and `re.sub`: where a rule matches, what it writes, and on behind what it
took; elsewhere one letter further. The alphabet is any. A rule that writes a mark no needle
can reach across makes no needle that was not there before.
-/

namespace Bugalizer.Text

set_option autoImplicit false

variable {Letter : Type}

/-- What a rule makes of the front of a text, and the rest behind its match. -/
abbrev Rule (Letter : Type) : Type := List Letter → Option (List Letter × List Letter)

/-- `fuel` bounds the scan by the length of the text. -/
def rewriteAll (rule : Rule Letter) : Nat → List Letter → List Letter
  | 0, text => text
  | _, [] => []
  | fuel + 1, letter :: text =>
      match rule (letter :: text) with
      | some (written, rest) => written ++ rewriteAll rule fuel rest
      | none => letter :: rewriteAll rule fuel text

/-- `text.replace(old, new)`, as a rule. -/
def replacing [DecidableEq Letter] (old new : List Letter) : Rule Letter := fun text =>
  if old.isPrefixOf text then some (new, text.drop old.length) else none

/-- A match keeps a front of what it takes and writes the mark in place of the other. -/
def Rule.Marks (rule : Rule Letter) (mark : List Letter) : Prop :=
  ∀ text written rest, rule text = some (written, rest) →
    ∃ kept gone, text = kept ++ (gone ++ rest) ∧ written = kept ++ mark

/-- No occurrence of the needle reaches over the mark or lies in it. -/
def Barrier (mark needle : List Letter) : Prop :=
  ∀ before after, needle <:+: before ++ (mark ++ after) → needle <:+: before ∨ needle <:+: after

theorem infix_separated {separator : Letter} {needle before after : List Letter}
    (apart : separator ∉ needle) (inside : needle <:+: before ++ separator :: after) :
    needle <:+: before ∨ needle <:+: after := by
  obtain ⟨front, back, shape⟩ := inside
  rw [List.append_eq_append_iff] at shape
  obtain ⟨between, same, -⟩ | ⟨between, same, rest⟩ := shape
  · exact .inl ⟨front, between, same.symm⟩
  cases between with
  | nil =>
      rw [List.append_nil] at same
      exact .inl ⟨front, [], by rw [same, List.append_nil]⟩
  | cons letter between =>
      rw [List.cons_append, List.cons.injEq] at rest
      obtain ⟨rfl, rfl⟩ := rest
      rw [List.append_eq_append_iff] at same
      obtain ⟨middle, -, whole⟩ | ⟨middle, -, whole⟩ := same
      · exact absurd (by simp [whole]) apart
      · cases middle with
        | nil =>
            rw [List.nil_append] at whole
            exact absurd (by simp [← whole]) apart
        | cons letter middle =>
            rw [List.cons_append, List.cons.injEq] at whole
            exact .inr ⟨middle, back, by rw [whole.2]⟩

theorem barrier_framed {first last : Letter} {inner needle : List Letter} (opens : first ∉ needle)
    (closes : last ∉ needle) (free : ¬needle <:+: inner) :
    Barrier (first :: (inner ++ [last])) needle := by
  intro before after inside
  have shape : before ++ (first :: (inner ++ [last]) ++ after) =
      before ++ first :: (inner ++ last :: after) := by simp
  rw [shape] at inside
  obtain front | rest := infix_separated opens inside
  · exact .inl front
  · obtain within | back := infix_separated closes rest
    · exact absurd within free
    · exact .inr back

theorem rewrite_inside {rule : Rule Letter} {mark needle : List Letter} (marks : rule.Marks mark)
    (barrier : Barrier mark needle) {fuel : Nat} (front : List Letter) {text : List Letter}
    (inside : needle <:+: front ++ rewriteAll rule fuel text) : needle <:+: front ++ text := by
  induction fuel generalizing front text with
  | zero => simpa only [rewriteAll] using inside
  | succ fuel ih =>
      cases text with
      | nil => simpa only [rewriteAll] using inside
      | cons letter text =>
          rw [rewriteAll] at inside
          cases matched : rule (letter :: text) with
          | none =>
              rw [matched] at inside
              have shifted : needle <:+: (front ++ [letter]) ++ rewriteAll rule fuel text := by
                simpa using inside
              simpa using ih _ shifted
          | some pair =>
              obtain ⟨written, rest⟩ := pair
              rw [matched] at inside
              obtain ⟨kept, gone, shape, rfl⟩ := marks _ _ _ matched
              have spread : needle <:+: (front ++ kept) ++ (mark ++ rewriteAll rule fuel rest) := by
                simpa using inside
              rw [shape]
              obtain early | late := barrier _ _ spread
              · apply early.trans
                exact ⟨[], gone ++ rest, by simp⟩
              · have later := ih [] late
                rw [List.nil_append] at later
                apply later.trans
                exact ⟨front ++ (kept ++ gone), [], by simp⟩

theorem rewrite_keeps_absent {rule : Rule Letter} {mark needle : List Letter} (marks : rule.Marks mark)
    (barrier : Barrier mark needle) {fuel : Nat} {text : List Letter} (absent : ¬needle <:+: text) :
    ¬needle <:+: rewriteAll rule fuel text := by
  intro inside
  exact absent (rewrite_inside marks barrier [] inside)

variable [DecidableEq Letter]

theorem replacing_marks (old new : List Letter) : (replacing old new).Marks new := by
  intro text written rest matched
  rw [replacing] at matched
  split at matched
  · rename_i front
    cases matched
    obtain ⟨after, rfl⟩ := List.isPrefixOf_iff_prefix.mp front
    exact ⟨[], old, by simp, rfl⟩
  · cases matched

/-- What is replaced by a mark it cannot reach across is gone. The front is what the scan has
passed: no occurrence starts in it. -/
theorem replaced_absent_from {old new : List Letter} (barrier : Barrier new old) (filled : old ≠ [])
    {fuel : Nat} (front : List Letter) {text : List Letter} (enough : text.length ≤ fuel)
    (passed : ∀ before after, front = before ++ after → after ≠ [] → ¬old <+: after ++ text) :
    ¬old <:+: front ++ rewriteAll (replacing old new) fuel text := by
  have alone : ∀ {front text : List Letter},
      (∀ before after, front = before ++ after → after ≠ [] → ¬old <+: after ++ text) →
        ¬old <:+: front := by
    intro front text passed inside
    obtain ⟨before, after, shape⟩ := inside
    apply passed before (old ++ after)
    · rw [← shape, List.append_assoc]
    · simp [filled]
    · rw [List.append_assoc]
      exact List.prefix_append old _
  induction fuel generalizing front text with
  | zero =>
      have empty : text = [] := List.length_eq_zero_iff.mp (by omega)
      subst empty
      rw [rewriteAll, List.append_nil]
      exact alone passed
  | succ fuel ih =>
      cases text with
      | nil =>
          rw [rewriteAll, List.append_nil]
          · exact alone passed
          · simp
      | cons letter text =>
          rw [rewriteAll]
          by_cases here : old.isPrefixOf (letter :: text) = true
          · rw [replacing, if_pos here]
            intro inside
            obtain early | late := barrier _ _ inside
            · exact alone passed early
            · have shorter : ((letter :: text).drop old.length).length ≤ fuel := by
                have counted := List.length_pos_iff.mpr filled
                simp only [List.length_drop, List.length_cons] at enough ⊢
                omega
              apply ih [] shorter
              · intro before after none some
                exact absurd (List.append_eq_nil_iff.mp none.symm).2 some
              · exact late
          · rw [replacing, if_neg here]
            have shifted : front ++ letter :: rewriteAll (replacing old new) fuel text =
                (front ++ [letter]) ++ rewriteAll (replacing old new) fuel text := by simp
            rw [shifted]
            apply ih _ (by simpa using enough)
            intro before after shape some
            obtain ⟨init, last, rfl⟩ := List.eq_nil_or_concat after |>.resolve_left some
            rw [List.concat_eq_append, ← List.append_assoc] at shape
            obtain ⟨rfl, same⟩ := List.append_inj' shape rfl
            cases same
            rw [List.concat_eq_append, List.append_assoc, List.singleton_append]
            by_cases empty : init = []
            · subst empty
              intro starts
              exact here (List.isPrefixOf_iff_prefix.mpr starts)
            · exact passed before init rfl empty

theorem replaced_absent {old new : List Letter} (barrier : Barrier new old) (filled : old ≠ [])
    {fuel : Nat} {text : List Letter} (enough : text.length ≤ fuel) :
    ¬old <:+: rewriteAll (replacing old new) fuel text := by
  apply replaced_absent_from barrier filled [] enough
  intro before after none some
  exact absurd (List.append_eq_nil_iff.mp none.symm).2 some

end Bugalizer.Text
