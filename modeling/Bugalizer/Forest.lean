import Mathlib

/-!
# Listings in document order

A place in a forest is the path of child numbers that leads to it; places compare as paths do, a
node before what lies in it. A listing of a relation between places and entries has the entries of
the relation in the order of their places. Over any type of trees.
-/

namespace Bugalizer.Forest

set_option autoImplicit false

abbrev Place := List Nat

section Listing

variable {Entry : Type}

/-- The rows are the pairs of the relation, by place. -/
structure Rows (At : Place → Entry → Prop) (rows : List (Place × Entry)) : Prop where
  ordered : rows.Pairwise fun before after => before.1 < after.1
  complete : ∀ place entry, (place, entry) ∈ rows ↔ At place entry

def Listing (At : Place → Entry → Prop) (entries : List Entry) : Prop :=
  ∃ rows, Rows At rows ∧ rows.map Prod.snd = entries

theorem listing_none {At : Place → Entry → Prop} (none : ∀ place entry, ¬ At place entry) :
    Listing At [] := by
  refine ⟨[], ⟨List.Pairwise.nil, ?_⟩, rfl⟩
  intro place entry
  simp [none place entry]

theorem listing_congr {At Other : Place → Entry → Prop} (same : ∀ place entry, At place entry ↔ Other place entry)
    {entries : List Entry} (listed : Listing At entries) : Listing Other entries := by
  have equal : At = Other := by
    funext place entry
    exact propext (same place entry)
  rwa [equal] at listed

theorem listing_option (place : Place) (own : Option Entry) :
    Listing (fun other entry => other = place ∧ own = some entry) own.toList := by
  cases own with
  | none => exact listing_none fun _ _ stands => nomatch stands.2
  | some entry =>
      refine ⟨[(place, entry)], ⟨List.pairwise_singleton _ _, ?_⟩, rfl⟩
      intro other found
      simp [eq_comm]

theorem listing_append {First Second : Place → Entry → Prop}
    (apart : ∀ before entry after found, First before entry → Second after found → before < after)
    {front back : List Entry} (first : Listing First front) (second : Listing Second back) :
    Listing (fun place entry => First place entry ∨ Second place entry) (front ++ back) := by
  obtain ⟨rows, here, rfl⟩ := first
  obtain ⟨others, there, rfl⟩ := second
  refine ⟨rows ++ others, ⟨?_, ?_⟩, List.map_append⟩
  · rw [List.pairwise_append]
    refine ⟨here.ordered, there.ordered, ?_⟩
    intro before inFront after inBack
    exact apart _ _ _ _ ((here.complete before.1 before.2).mp inFront)
      ((there.complete after.1 after.2).mp inBack)
  · intro place entry
    rw [List.mem_append, here.complete, there.complete]

theorem listing_moved {At : Place → Entry → Prop} (move : Place → Place)
    (keeps : ∀ before after, before < after → move before < move after) {entries : List Entry}
    (listed : Listing At entries) :
    Listing (fun place entry => ∃ inner, place = move inner ∧ At inner entry) entries := by
  obtain ⟨rows, known, rfl⟩ := listed
  refine ⟨rows.map fun row => (move row.1, row.2), ⟨?_, ?_⟩, by simp⟩
  · rw [List.pairwise_map]
    exact known.ordered.imp fun before => keeps _ _ before
  · intro place entry
    simp only [List.mem_map, Prod.exists, Prod.mk.injEq, known.complete]
    constructor
    · rintro ⟨inner, found, stands, rfl, rfl⟩
      exact ⟨inner, rfl, stands⟩
    · rintro ⟨inner, rfl, stands⟩
      exact ⟨inner, entry, stands, rfl, rfl⟩

theorem listing_map {Read : Type} (read : Entry → Read) {At : Place → Entry → Prop} {entries : List Entry}
    (listed : Listing At entries) :
    Listing (fun place value => ∃ entry, At place entry ∧ read entry = value) (entries.map read) := by
  obtain ⟨rows, known, rfl⟩ := listed
  refine ⟨rows.map fun row => (row.1, read row.2), ⟨?_, ?_⟩, by simp⟩
  · rw [List.pairwise_map]
    exact known.ordered
  · intro place value
    simp only [List.mem_map, Prod.exists, Prod.mk.injEq, known.complete]
    constructor
    · rintro ⟨here, entry, stands, rfl, rfl⟩
      exact ⟨entry, stands, rfl⟩
    · rintro ⟨entry, stands, rfl⟩
      exact ⟨place, entry, stands, rfl, rfl⟩

theorem listing_unique {At : Place → Entry → Prop} {first second : List Entry}
    (one : Listing At first) (other : Listing At second) : first = second := by
  obtain ⟨rows, here, rfl⟩ := one
  obtain ⟨others, there, rfl⟩ := other
  have distinct : ∀ {listed : List (Place × Entry)},
      (listed.Pairwise fun before after => before.1 < after.1) → listed.Nodup := by
    intro listed ordered
    refine ordered.imp ?_
    intro before after less same
    subst same
    exact lt_irrefl _ less
  have same : rows.Perm others := by
    rw [List.perm_ext_iff_of_nodup (distinct here.ordered) (distinct there.ordered)]
    intro row
    exact (here.complete row.1 row.2).trans (there.complete row.1 row.2).symm
  have equal : rows = others := by
    apply same.eq_of_pairwise _ here.ordered there.ordered
    intro before after _ _ less more
    exact absurd (lt_trans less more) (lt_irrefl _)
  rw [equal]

end Listing

section Trees

variable {Node : Type} (children : Node → List Node)

/-- `Below children forest place between node`: the node at this place, under these others. -/
inductive Below : List Node → Place → List Node → Node → Prop
  | here {forest : List Node} {index : Nat} {node : Node} (at_ : forest[index]? = some node) :
      Below forest [index] [] node
  | under {forest : List Node} {index : Nat} {child node : Node} {place : Place} {between : List Node}
      (at_ : forest[index]? = some child) (rest : Below (children child) place between node) :
      Below forest (index :: place) (child :: between) node

variable {Entry : Type}

/-- What is marked at a place that only such nodes stand above. -/
def Found (Pass : Node → Prop) (Mark : List Node → Node → Entry → Prop) (forest : List Node)
    (place : Place) (entry : Entry) : Prop :=
  ∃ between node, Below children forest place between node ∧ (∀ above ∈ between, Pass above) ∧
    Mark between node entry

variable {children} {Pass : Node → Prop} {Mark : List Node → Node → Entry → Prop}

theorem found_nil (place : Place) (entry : Entry) : ¬ Found children Pass Mark [] place entry := by
  rintro ⟨between, node, below, -, -⟩
  cases below with
  | here at_ => simp at at_
  | under at_ rest => simp at at_

/-- A place of a forest is its first tree, a place in that tree, or one of the other trees'. -/
theorem found_cons {child : Node} {rest : List Node} {place : Place} {entry : Entry} :
    Found children Pass Mark (child :: rest) place entry ↔
      ((place = [0] ∧ Mark [] child entry) ∨
        ∃ inner, place = 0 :: inner ∧ Pass child ∧
          Found children Pass (fun between => Mark (child :: between)) (children child) inner entry) ∨
        ∃ later, place = later.modifyHead (· + 1) ∧ Found children Pass Mark rest later entry := by
  constructor
  · rintro ⟨between, node, below, passed, marked⟩
    cases below with
    | @here _ index _ at_ =>
        cases index with
        | zero =>
            cases at_
            exact Or.inl (Or.inl ⟨rfl, marked⟩)
        | succ index =>
            exact Or.inr ⟨[index], rfl, [], node, Below.here at_, passed, marked⟩
    | @under _ index above _ inner deeper at_ below =>
        cases index with
        | zero =>
            cases at_
            rw [List.forall_mem_cons] at passed
            exact Or.inl (Or.inr ⟨inner, rfl, passed.1, deeper, node, below, passed.2, marked⟩)
        | succ index =>
            exact Or.inr ⟨index :: inner, rfl, _, node, Below.under at_ below, passed, marked⟩
  · rintro ((⟨rfl, marked⟩ | ⟨inner, rfl, pass, between, node, below, passed, marked⟩) |
      ⟨later, rfl, between, node, below, passed, marked⟩)
    · refine ⟨[], child, Below.here rfl, ?_, marked⟩
      intro above none
      cases none
    · refine ⟨child :: between, node, Below.under rfl below, ?_, marked⟩
      rw [List.forall_mem_cons]
      exact ⟨pass, passed⟩
    · refine ⟨between, node, ?_, passed, marked⟩
      cases below with
      | here at_ => exact Below.here at_
      | under at_ below => exact Below.under at_ below

theorem later_lt {before after : Place} (less : before < after) :
    before.modifyHead (· + 1) < after.modifyHead (· + 1) := by
  cases after with
  | nil => exact absurd less (List.not_lt_nil _)
  | cons next after =>
      cases before with
      | nil => exact List.nil_lt_cons _ _
      | cons head before =>
          rw [List.modifyHead_cons, List.modifyHead_cons]
          rw [List.cons_lt_cons_iff] at less ⊢
          simpa using less

theorem later_filled {rest : List Node} {place : Place} {entry : Entry}
    (found : Found children Pass Mark rest place entry) :
    ∃ index inner, place = index :: inner := by
  obtain ⟨between, node, below, -, -⟩ := found
  cases below with
  | here at_ => exact ⟨_, _, rfl⟩
  | under at_ below => exact ⟨_, _, rfl⟩

/-- A forest is listed by its first tree, by what lies in that tree, and by the other trees. -/
theorem listing_cons {child : Node} {rest : List Node} {own : Option Entry} {inside later : List Entry}
    (marked : ∀ entry, Mark [] child entry ↔ own = some entry)
    (within : Listing (fun place entry => Pass child ∧
      Found children Pass (fun between => Mark (child :: between)) (children child) place entry) inside)
    (after : Listing (Found children Pass Mark rest) later) :
    Listing (Found children Pass Mark (child :: rest)) (own.toList ++ inside ++ later) := by
  have first := listing_option [0] own
  have second := listing_moved (fun inner => 0 :: inner)
    (fun before after less => List.cons_lt_cons_iff.mpr (Or.inr ⟨rfl, less⟩)) within
  have third := listing_moved (fun inner => inner.modifyHead (· + 1)) (fun _ _ => later_lt) after
  have tree := listing_append (by
    rintro _ _ _ _ ⟨rfl, -⟩ ⟨inner, rfl, -, found⟩
    obtain ⟨index, further, rfl⟩ := later_filled found
    exact List.cons_lt_cons_iff.mpr (Or.inr ⟨rfl, List.nil_lt_cons _ _⟩)) first second
  have forest := listing_append (by
    rintro before _ _ _ front ⟨inner, rfl, found⟩
    obtain ⟨index, further, rfl⟩ := later_filled found
    rcases front with ⟨rfl, -⟩ | ⟨inner, rfl, -⟩ <;>
      exact List.cons_lt_cons_iff.mpr (Or.inl (Nat.succ_pos index))) tree third
  refine listing_congr ?_ forest
  intro place entry
  rw [found_cons, marked]

end Trees

end Bugalizer.Forest
