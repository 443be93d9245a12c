import Mathlib.Data.Nat.Notation

/-!
# Rights that are spent once

A right is in one hand at most. It passes from hand to hand, and who spends it has it no more.
-/

namespace Bugalizer.Coroutine

set_option autoImplicit false

/-- How often a right was spent, and who may still spend it. -/
structure Account {Holder : Type} (spent : Nat) (holds : Holder → Prop) : Prop where
  once : spent ≤ 1
  alone : ∀ one, holds one → spent = 0 ∧ ∀ other, holds other → other = one

section Account

variable {Holder : Type} {spent : Nat} {before after : Holder → Prop}

theorem account_closed (once : spent ≤ 1) (nobody : ∀ one, ¬before one) : Account spent before where
  once := once
  alone one holds := absurd holds (nobody one)

theorem account_opened {owner : Holder} (only : ∀ one, after one → one = owner) : Account 0 after where
  once := Nat.zero_le 1
  alone one holds := by
    refine ⟨rfl, ?_⟩
    intro other others
    rw [only one holds, only other others]

theorem Account.kept (account : Account spent before) (fewer : ∀ one, after one → before one) :
    Account spent after where
  once := account.once
  alone one holds := by
    obtain ⟨unspent, only⟩ := account.alone one (fewer one holds)
    refine ⟨unspent, ?_⟩
    intro other others
    exact only other (fewer other others)

theorem Account.paid {owner : Holder} (account : Account spent before) (owns : before owner)
    (gone : ∀ one, after one → before one ∧ one ≠ owner) : Account (spent + 1) after := by
  obtain ⟨unspent, only⟩ := account.alone owner owns
  apply account_closed
  · omega
  · intro one holds
    exact (gone one holds).2 (only one (gone one holds).1)

theorem Account.passed {owner heir : Holder} (account : Account spent before) (owns : before owner)
    (gone : ∀ one, after one → (before one ∧ one ≠ owner) ∨ one = heir) : Account spent after := by
  obtain ⟨unspent, only⟩ := account.alone owner owns
  subst unspent
  apply account_opened
  intro one holds
  obtain ⟨held, other⟩ | same := gone one holds
  · exact absurd (only one held) other
  · exact same

end Account

end Bugalizer.Coroutine
