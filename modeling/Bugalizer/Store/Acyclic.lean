import Mathlib

/-!
# Relations without a cycle

A relation that is grown by edges into one value stays acyclic while that value has no edge
out of it, and in an acyclic relation every finite set has a member that none of its members
follows.
-/

namespace Bugalizer.Store

set_option autoImplicit false

open Relation

variable {Value : Type}

def Acyclic (edge : Value → Value → Prop) : Prop := ∀ value, ¬TransGen edge value value

theorem Acyclic.mono {edge fewer : Value → Value → Prop} (acyclic : Acyclic edge)
    (narrow : ∀ one other, fewer one other → edge one other) : Acyclic fewer :=
  fun value cycle => acyclic value (TransGen.mono narrow value value cycle)

section Sink

variable {edge grown : Value → Value → Prop} {sink : Value}

/-- A path of the grown relation is one of the old relation, or has come to the sink. -/
theorem path_or_sink (grows : ∀ one other, grown one other → edge one other ∨ other = sink)
    (ends : ∀ other, ¬grown sink other) {one other : Value} (path : TransGen grown one other) :
    TransGen edge one other ∨ other = sink := by
  induction path with
  | single step => exact (grows _ _ step).imp_left .single
  | tail _ step ih =>
      rcases ih with before | rfl
      · exact (grows _ _ step).imp_left before.tail
      · exact absurd step (ends _)

theorem Acyclic.grow (acyclic : Acyclic edge)
    (grows : ∀ one other, grown one other → edge one other ∨ other = sink)
    (ends : ∀ other, ¬grown sink other) : Acyclic grown := by
  intro value cycle
  rcases path_or_sink grows ends cycle with before | rfl
  · exact acyclic value before
  · obtain ⟨next, step, -⟩ := TransGen.head'_iff.mp cycle
    exact ends next step

end Sink

/-- In a finite set something points out of the set, or nowhere. -/
theorem Acyclic.points_out {edge : Value → Value → Prop} (acyclic : Acyclic edge) (group : Finset Value)
    (inhabited : group.Nonempty) : ∃ one ∈ group, ∀ other ∈ group, ¬edge one other := by
  have trans : IsTrans group fun one other => TransGen edge other.1 one.1 :=
    ⟨fun _ _ _ first second => second.trans first⟩
  have irrefl : Std.Irrefl fun one other : group => TransGen edge other.1 one.1 :=
    ⟨fun one cycle => acyclic one.1 cycle⟩
  have founded : WellFounded fun one other : group => TransGen edge other.1 one.1 :=
    Finite.wellFounded_of_trans_of_irrefl _
  obtain ⟨member, here⟩ := inhabited
  obtain ⟨one, -, least⟩ := founded.has_min Set.univ ⟨⟨member, here⟩, trivial⟩
  exact ⟨one.1, one.2, fun other also step => least ⟨other, also⟩ trivial (.single step)⟩

end Bugalizer.Store
