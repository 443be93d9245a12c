import Mathlib

/-!
# Filling a page

Lines are put on a page while they fit. A loop over items puts the line of each, then what lies
inside the item, and stops at the first line that does not fit; loops nest.
-/

namespace Bugalizer.Text

set_option autoImplicit false

/-- The lines so far and what they cost. -/
structure Page (Line : Type) where
  lines : List Line
  spent : Nat

section Filling

variable {Line Item : Type} (cost : Line → Nat) (budget : Int)

def costs (lines : List Line) : Nat := (lines.map cost).sum

def Page.plus (page : Page Line) (lines : List Line) : Page Line :=
  { lines := page.lines ++ lines, spent := page.spent + costs cost lines }

def Page.put (page : Page Line) (line : Line) : Option (Page Line) :=
  if budget < page.spent + cost line then none else some (page.plus cost [line])

def each (line : Item → Line) (inside : Page Line → Item → Page Line) : Page Line → List Item → Page Line
  | page, [] => page
  | page, item :: items =>
      match page.put cost budget (line item) with
      | none => page
      | some next => each line inside (inside next item) items

/-- The blocks of the items that have one, in order; the line of the first that has none does not
fit into what is left. -/
structure Filled (line : Item → Line) (Inside : Nat → Item → List Line → Prop) (spent : Nat)
    (items : List Item) (blocks : List (List Line)) : Prop where
  short : blocks.length ≤ items.length
  full : ∀ item, items[blocks.length]? = some item → budget < spent + cost (line item)
  inner : List.Forall₂ (fun item block => Inside spent item block) (items.take blocks.length) blocks

/-- An item's block: its line and what lies inside. -/
def Block (line : Item → Line) (Inside : Nat → Item → List Line → Prop) (spent : Nat) (item : Item)
    (block : List Line) : Prop :=
  ∃ rest, block = line item :: rest ∧ Inside spent item rest

def Growing (Inside : Nat → Item → List Line → Prop) : Prop :=
  ∀ less more item rest, less ≤ more → Inside less item rest → Inside more item rest

variable {cost budget}

theorem plus_plus (page : Page Line) (first second : List Line) :
    (page.plus cost first).plus cost second = page.plus cost (first ++ second) := by
  simp [Page.plus, costs, Nat.add_assoc]

theorem plus_nil (page : Page Line) : page.plus cost [] = page := by
  simp [Page.plus, costs]

theorem put_cases {page next : Page Line} {line : Line} (put : page.put cost budget line = some next) :
    next = page.plus cost [line] ∧ (next.spent : Int) ≤ budget := by
  unfold Page.put at put
  split at put
  · cases put
  · rename_i fits
    cases put
    refine ⟨rfl, ?_⟩
    simp only [Page.plus, costs, List.map_cons, List.map_nil, List.sum_cons, List.sum_nil]
    omega

def Page.Within (budget : Int) (page : Page Line) : Prop := page.lines = [] ∧ page.spent = 0 ∨ page.spent ≤ budget

section Loop

variable {line : Item → Line} {inside : Page Line → Item → Page Line}

theorem each_within (kept : ∀ page item, (page.spent : Int) ≤ budget → ((inside page item).spent : Int) ≤ budget)
    (items : List Item) {page : Page Line} (within : page.Within budget) :
    (each cost budget line inside page items).Within budget := by
  induction items generalizing page with
  | nil => exact within
  | cons item items ih =>
      rw [each]
      split
      · exact within
      · rename_i next put
        exact ih (Or.inr (kept next item (put_cases put).2))

theorem each_bounded (kept : ∀ page item, (page.spent : Int) ≤ budget → ((inside page item).spent : Int) ≤ budget)
    (items : List Item) {page : Page Line} (bounded : (page.spent : Int) ≤ budget) :
    ((each cost budget line inside page items).spent : Int) ≤ budget := by
  induction items generalizing page with
  | nil => exact bounded
  | cons item items ih =>
      rw [each]
      split
      · exact bounded
      · rename_i next put
        exact ih (kept next item (put_cases put).2)

/-- What the loop adds are the blocks of the items up to the first that does not fit. What lies
inside an item keeps its law on a fuller page. -/
theorem each_filled {Inside : Nat → Item → List Line → Prop}
    (law : ∀ page item, ∃ rest, inside page item = page.plus cost rest ∧
      Inside (page.spent + costs cost rest) item rest)
    (grows : Growing Inside)
    (items : List Item) (page : Page Line) :
    ∃ blocks, each cost budget line inside page items = page.plus cost blocks.flatten ∧
      Filled cost budget line (Block line Inside) (page.spent + costs cost blocks.flatten) items blocks := by
  induction items generalizing page with
  | nil =>
      refine ⟨[], ?_, ?_⟩
      · rw [each, List.flatten_nil, plus_nil]
      · exact ⟨Nat.le_refl _, fun _ none => (nomatch none), List.Forall₂.nil⟩
  | cons item items ih =>
      rw [each]
      cases put : page.put cost budget (line item) with
      | none =>
          refine ⟨[], ?_, ?_⟩
          · rw [List.flatten_nil, plus_nil]
          · refine ⟨Nat.zero_le _, ?_, List.Forall₂.nil⟩
            intro first here
            cases here
            unfold Page.put at put
            split at put
            · simpa [costs] using ‹budget < _›
            · cases put
      | some next =>
          obtain ⟨rfl, -⟩ := put_cases put
          obtain ⟨rest, inner, lawful⟩ := law (page.plus cost [line item]) item
          obtain ⟨blocks, later, filled⟩ := ih (inside (page.plus cost [line item]) item)
          rw [inner, plus_plus, List.singleton_append] at later filled
          rw [plus_plus] at later
          have total : (page.plus cost (line item :: rest)).spent + costs cost blocks.flatten =
              page.spent + costs cost ((line item :: rest) :: blocks).flatten := by
            simp [Page.plus, costs, Nat.add_assoc]
          rw [total] at filled
          refine ⟨(line item :: rest) :: blocks, ?_, ?_⟩
          · simp only [inner, plus_plus, List.singleton_append]
            exact later
          · refine ⟨Nat.succ_le_succ filled.short, filled.full, ?_⟩
            refine List.Forall₂.cons ⟨rest, rfl, grows _ _ item rest ?_ lawful⟩ filled.inner
            simp [Page.plus, costs]
            omega

theorem each_whole {whole : Item → List Line}
    (inner : ∀ page item, (page.spent + costs cost (whole item) : Nat) ≤ budget →
      inside page item = page.plus cost (whole item))
    (items : List Item) (page : Page Line)
    (fits : (page.spent + costs cost (items.flatMap fun item => line item :: whole item) : Nat) ≤ budget) :
    each cost budget line inside page items =
      page.plus cost (items.flatMap fun item => line item :: whole item) := by
  induction items generalizing page with
  | nil => rw [each, List.flatMap_nil, plus_nil]
  | cons item items ih =>
      have shares : costs cost ((item :: items).flatMap fun item => line item :: whole item) =
          cost (line item) + costs cost (whole item) +
            costs cost (items.flatMap fun item => line item :: whole item) := by
        simp [costs, Nat.add_assoc]
      rw [shares] at fits
      have put : page.put cost budget (line item) = some (page.plus cost [line item]) := by
        rw [Page.put, if_neg]
        omega
      have spent : (page.plus cost [line item]).spent = page.spent + cost (line item) := by
        simp [Page.plus, costs]
      rw [each, put]
      simp only
      rw [inner _ item (by rw [spent]; omega), plus_plus, ih, plus_plus]
      · simp
      · simp only [Page.plus, costs, List.map_append, List.sum_append, List.map_cons, List.map_nil,
          List.sum_cons, List.sum_nil] at fits ⊢
        omega

end Loop

theorem filled_grows {line : Item → Line} {Inside : Nat → Item → List Line → Prop} (grows : Growing Inside)
    {less more : Nat} (fuller : less ≤ more) {items : List Item} {blocks : List (List Line)}
    (filled : Filled cost budget line Inside less items blocks) :
    Filled cost budget line Inside more items blocks where
  short := filled.short
  full := by
    intro item here
    have before := filled.full item here
    omega
  inner := filled.inner.imp fun item block => grows less more item block fuller

theorem block_grows {line : Item → Line} {Inside : Nat → Item → List Line → Prop} (grows : Growing Inside) :
    Growing (Block line Inside) := by
  intro less more item block fuller
  rintro ⟨rest, rfl, lawful⟩
  exact ⟨rest, rfl, grows less more item rest fuller lawful⟩

end Filling

end Bugalizer.Text
