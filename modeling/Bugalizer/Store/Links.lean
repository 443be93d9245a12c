import Mathlib

/-!
# A tree with symbolic links

A location is the names from the root down. A walk goes a path hop by hop and follows each
link it meets, up to a number of links; what follows the last of them is plain.
-/

namespace Bugalizer.Store

set_option autoImplicit false

variable {Name Content : Type}

abbrev Location (Name : Type) := List Name

inductive Hop (Name : Type) where
  | down (name : Name)
  | up

inductive Node (Name Content : Type) where
  | file (content : Content)
  | directory
  | link (absolute : Bool) (target : List (Hop Name))

/-- What stands at each location. -/
abbrev Tree (Name Content : Type) := Location Name → Option (Node Name Content)

/-- How far a path goes without a link: to its end, or to a link that leads on from a directory. -/
inductive Stretch (Name : Type) where
  | arrived (place : Location Name)
  | jump (start : Location Name) (rest : List (Hop Name))

namespace Tree

variable (tree : Tree Name Content)

def isDirectory (place : Location Name) : Bool :=
  match tree place with
  | some .directory => true
  | _ => false

/-- None where a hop starts from no directory, or leads to nothing. -/
def stretch : Location Name → List (Hop Name) → Option (Stretch Name)
  | place, [] => some (.arrived place)
  | place, .up :: rest => if tree.isDirectory place then stretch place.dropLast rest else none
  | place, .down name :: rest =>
      if tree.isDirectory place then
        match tree (place ++ [name]) with
        | none => none
        | some (.link absolute target) => some (.jump (if absolute then [] else place) (target ++ rest))
        | some _ => stretch (place ++ [name]) rest
      else none

/-- Where a path leads, and how many links may still be followed. -/
def walk : Nat → Location Name → List (Hop Name) → Option (Location Name × Nat)
  | 0, place, hops =>
      match tree.stretch place hops with
      | some (.arrived place) => some (place, 0)
      | _ => none
  | links + 1, place, hops =>
      match tree.stretch place hops with
      | some (.arrived place) => some (place, links + 1)
      | some (.jump start rest) => walk links start rest
      | none => none

/-- The last link of a walk: the directory it leads on from and the hops from there. -/
def lastJump : Nat → Location Name → List (Hop Name) → Option (Location Name × List (Hop Name))
  | 0, _, _ => none
  | links + 1, place, hops =>
      match tree.stretch place hops with
      | some (.jump start rest) => some ((lastJump links start rest).getD (start, rest))
      | _ => none

end Tree

def straight (place : Location Name) : List (Hop Name) → Location Name
  | [] => place
  | .up :: rest => straight place.dropLast rest
  | .down name :: rest => straight (place ++ [name]) rest

theorem straight_down (place : Location Name) (names : List Name) :
    straight place (names.map .down) = place ++ names := by
  induction names generalizing place with
  | nil => simp [straight]
  | cons name names ih => simp only [List.map_cons, straight, ih, List.append_assoc, List.singleton_append]

namespace Tree

variable {tree : Tree Name Content}

theorem stretch_arrived {place reached : Location Name} {hops : List (Hop Name)}
    (arrived : tree.stretch place hops = some (.arrived reached)) : reached = straight place hops := by
  induction hops generalizing place with
  | nil =>
      cases arrived
      rfl
  | cons hop hops ih =>
      cases hop with
      | up =>
          simp only [stretch] at arrived
          split at arrived
          · exact ih arrived
          · cases arrived
      | down name =>
          simp only [stretch] at arrived
          split at arrived
          · split at arrived
            · cases arrived
            · cases arrived
            · exact ih arrived
          · cases arrived

/-- A longer path goes as far as its first part, and on from there. -/
theorem stretch_append (place : Location Name) (first rest : List (Hop Name)) :
    tree.stretch place (first ++ rest) =
      match tree.stretch place first with
      | none => none
      | some (.arrived reached) => tree.stretch reached rest
      | some (.jump start left) => some (.jump start (left ++ rest)) := by
  induction first generalizing place with
  | nil => rfl
  | cons hop first ih =>
      cases hop with
      | up =>
          simp only [List.cons_append, stretch]
          split
          · exact ih _
          · rfl
      | down name =>
          simp only [List.cons_append, stretch]
          split
          · cases tree (place ++ [name]) with
            | none => rfl
            | some node =>
                cases node with
                | link absolute target => simp only [List.append_assoc]
                | file content => exact ih _
                | directory => exact ih _
          · rfl

theorem walk_append (links : Nat) (place : Location Name) (first rest : List (Hop Name)) :
    tree.walk links place (first ++ rest) =
      (tree.walk links place first).bind fun reached => tree.walk reached.2 reached.1 rest := by
  induction links generalizing place first with
  | zero =>
      simp only [walk, stretch_append]
      cases tree.stretch place first with
      | none => rfl
      | some stretch =>
          cases stretch with
          | arrived reached => simp only [Option.bind_some, walk]
          | jump start left => rfl
  | succ links ih =>
      simp only [walk, stretch_append]
      cases tree.stretch place first with
      | none => rfl
      | some stretch =>
          cases stretch with
          | arrived reached => simp only [Option.bind_some, walk]
          | jump start left => exact ih start left

/-- A walk arrives straight ahead, or straight on from its last link. -/
theorem walk_lands {links : Nat} {place : Location Name} {hops : List (Hop Name)} {reached : Location Name × Nat}
    (walked : tree.walk links place hops = some reached) :
    reached.1 =
      match tree.lastJump links place hops with
      | none => straight place hops
      | some (start, rest) => straight start rest := by
  induction links generalizing place hops with
  | zero =>
      simp only [walk, lastJump] at walked ⊢
      split at walked
      · rename_i arrived
        rw [← Option.some.inj walked]
        exact stretch_arrived arrived
      · cases walked
  | succ links ih =>
      simp only [walk, lastJump] at walked ⊢
      cases stretched : tree.stretch place hops with
      | none =>
          rw [stretched] at walked
          cases walked
      | some stretch =>
          rw [stretched] at walked
          cases stretch with
          | arrived there =>
              rw [← Option.some.inj walked]
              exact stretch_arrived stretched
          | jump start rest =>
              have landed := ih walked
              cases jumped : tree.lastJump links start rest with
              | none =>
                  rw [jumped] at landed
                  dsimp only
                  rw [jumped]
                  exact landed
              | some last =>
                  rw [jumped] at landed
                  dsimp only
                  rw [jumped]
                  exact landed

end Tree

end Bugalizer.Store
