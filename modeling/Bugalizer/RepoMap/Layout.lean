import Bugalizer.RepoMap.Ranking
import Bugalizer.Text.Fill

/-!
# The text of a repo map

The files in their order, with their classes and functions, as far as the budget of characters
goes.
-/

namespace Bugalizer.RepoMap

set_option autoImplicit false

open Text

def headerLine (file : RankedFile) : List Char :=
  file.path ++ " (rank: ".toList ++ Nat.toDigits 10 file.rank ++ ")".toList

def classLine (entry : ClassEntry) : List Char := "  class ".toList ++ entry.name

def methodLine (method : List Char) : List Char := "    def ".toList ++ method ++ "()".toList

def functionLine (entry : FunctionEntry) : List Char := "  def ".toList ++ entry.name ++ "()".toList

def lineCost (line : List Char) : Nat := line.length + 1

def fillMethods (budget : Int) (page : Page (List Char)) (entry : ClassEntry) : Page (List Char) :=
  each lineCost budget methodLine (fun next _ => next) page entry.methods

/-- The loop over the functions; those of a class are already shown under it. -/
def fillFunctions (budget : Int) : Page (List Char) → List FunctionEntry → Page (List Char)
  | page, [] => page
  | page, entry :: rest =>
      if entry.className.isSome then fillFunctions budget page rest
      else
        match page.put lineCost budget (functionLine entry) with
        | none => page
        | some next => fillFunctions budget next rest

def fillFile (budget : Int) (page : Page (List Char)) (file : RankedFile) : Page (List Char) :=
  fillFunctions budget (each lineCost budget classLine (fillMethods budget) page file.classes) file.functions

def compactPage (files : List RankedFile) (maxTokens : Int) : Page (List Char) :=
  each lineCost (maxTokens * 4) headerLine (fillFile (maxTokens * 4)) ⟨[], 0⟩ files

def formatCompact (files : List RankedFile) (maxTokens : Int) : List Char :=
  ['\n'].intercalate (compactPage files maxTokens).lines

def freeFunctions (file : RankedFile) : List FunctionEntry :=
  file.functions.filter fun entry => entry.className.isNone

def MethodsShown (budget : Int) (spent : Nat) (entry : ClassEntry) (lines : List (List Char)) : Prop :=
  ∃ blocks, lines = blocks.flatten ∧
    Filled lineCost budget methodLine (Block methodLine fun _ _ rest => rest = []) spent entry.methods blocks

/-- The lines below a header: classes with their methods, then functions. -/
def FileShown (budget : Int) (spent : Nat) (file : RankedFile) (lines : List (List Char)) : Prop :=
  ∃ classes functions, lines = classes.flatten ++ functions.flatten ∧
    Filled lineCost budget classLine (Block classLine (MethodsShown budget)) spent file.classes classes ∧
      Filled lineCost budget functionLine (Block functionLine fun _ _ rest => rest = []) spent
        (freeFunctions file) functions

def classLines (entry : ClassEntry) : List (List Char) := entry.methods.flatMap fun method => [methodLine method]

def fileLines (file : RankedFile) : List (List Char) :=
  (file.classes.flatMap fun entry => classLine entry :: classLines entry) ++
    (freeFunctions file).flatMap fun entry => [functionLine entry]

def allLines (files : List RankedFile) : List (List Char) :=
  files.flatMap fun file => headerLine file :: fileLines file

/-- The text is not over the budget, shows the files, classes, methods and functions in order as far
as they fit, and all of them where all fit. -/
structure TextLaw (files : List RankedFile) (maxTokens : Int) (text : List Char) : Prop where
  bounded : text = [] ∨ (text.length : Int) < maxTokens * 4
  shown : ∃ blocks, text = ['\n'].intercalate blocks.flatten ∧
    Filled lineCost (maxTokens * 4) headerLine (Block headerLine (FileShown (maxTokens * 4)))
      (costs lineCost blocks.flatten) files blocks
  whole : (costs lineCost (allLines files) : Nat) ≤ maxTokens * 4 → text = ['\n'].intercalate (allLines files)

theorem intercalate_length (lines : List (List Char)) (some : lines ≠ []) :
    (['\n'].intercalate lines).length + 1 = costs lineCost lines := by
  induction lines with
  | nil => exact absurd rfl some
  | cons line lines ih =>
      cases lines with
      | nil => simp [costs, lineCost, List.intercalate]
      | cons next lines =>
          have rest := ih (List.cons_ne_nil _ _)
          rw [List.intercalate_cons_cons, List.length_append, List.length_append]
          simp only [costs, List.map_cons, List.sum_cons, List.length_singleton, lineCost] at rest ⊢
          omega

theorem fill_functions_eq (budget : Int) (page : Page (List Char)) (entries : List FunctionEntry) :
    fillFunctions budget page entries =
      each lineCost budget functionLine (fun next _ => next) page
        (entries.filter fun entry => entry.className.isNone) := by
  induction entries generalizing page with
  | nil => rfl
  | cons entry entries ih =>
      rw [fillFunctions]
      cases held : entry.className with
      | some name => simpa [held] using ih page
      | none =>
          rw [List.filter_cons_of_pos (by simp [held]), each]
          simp only [Option.isSome_none, Bool.false_eq_true, if_false]
          cases page.put lineCost budget (functionLine entry) with
          | none => rfl
          | some next => exact ih next

section Shown

variable (budget : Int)

theorem leaf_law {Item : Type} (page : Page (List Char)) (_ : Item) :
    ∃ rest : List (List Char), page = page.plus lineCost rest ∧ rest = [] :=
  ⟨[], (plus_nil page).symm, rfl⟩

theorem leaf_grows {Item : Type} :
    Growing fun (_ : Nat) (_ : Item) (rest : List (List Char)) => rest = [] :=
  fun _ _ _ _ _ empty => empty

theorem methods_grow : Growing (MethodsShown budget) := by
  intro less more entry lines fuller
  rintro ⟨blocks, rfl, filled⟩
  exact ⟨blocks, rfl, filled_grows (block_grows leaf_grows) fuller filled⟩

theorem methods_law (page : Page (List Char)) (entry : ClassEntry) :
    ∃ rest, fillMethods budget page entry = page.plus lineCost rest ∧
      MethodsShown budget (page.spent + costs lineCost rest) entry rest := by
  have filled : ∃ blocks, fillMethods budget page entry = page.plus lineCost blocks.flatten ∧
      Filled lineCost budget methodLine (Block methodLine fun _ _ rest => rest = [])
        (page.spent + costs lineCost blocks.flatten) entry.methods blocks :=
    each_filled leaf_law leaf_grows entry.methods page
  obtain ⟨blocks, added, filled⟩ := filled
  exact ⟨_, added, blocks, rfl, filled⟩

theorem file_grows : Growing (FileShown budget) := by
  intro less more file lines fuller
  rintro ⟨classes, functions, rfl, first, second⟩
  exact ⟨classes, functions, rfl, filled_grows (block_grows (methods_grow budget)) fuller first,
    filled_grows (block_grows leaf_grows) fuller second⟩

theorem file_law (page : Page (List Char)) (file : RankedFile) :
    ∃ rest, fillFile budget page file = page.plus lineCost rest ∧
      FileShown budget (page.spent + costs lineCost rest) file rest := by
  have shown : ∃ classes, each lineCost budget classLine (fillMethods budget) page file.classes =
      page.plus lineCost classes.flatten ∧
        Filled lineCost budget classLine (Block classLine (MethodsShown budget))
          (page.spent + costs lineCost classes.flatten) file.classes classes :=
    each_filled (methods_law budget) (methods_grow budget) file.classes page
  obtain ⟨classes, added, first⟩ := shown
  have free : ∃ functions, each lineCost budget functionLine (fun next _ => next)
      (page.plus lineCost classes.flatten) (freeFunctions file) =
        (page.plus lineCost classes.flatten).plus lineCost functions.flatten ∧
        Filled lineCost budget functionLine (Block functionLine fun _ _ rest => rest = [])
          ((page.plus lineCost classes.flatten).spent + costs lineCost functions.flatten) (freeFunctions file)
          functions :=
    each_filled leaf_law leaf_grows (freeFunctions file) (page.plus lineCost classes.flatten)
  obtain ⟨functions, further, second⟩ := free
  have total : page.spent + costs lineCost (classes.flatten ++ functions.flatten) =
      (page.plus lineCost classes.flatten).spent + costs lineCost functions.flatten := by
    simp [Page.plus, costs, Nat.add_assoc]
  refine ⟨classes.flatten ++ functions.flatten, ?_, classes, functions, rfl, ?_, ?_⟩
  · rw [fillFile, fill_functions_eq, added, ← freeFunctions, further, plus_plus]
  · refine filled_grows (block_grows (methods_grow budget)) ?_ first
    simp [costs]
  · rw [total]
    exact second

theorem file_bounded (page : Page (List Char)) (file : RankedFile) (bounded : (page.spent : Int) ≤ budget) :
    ((fillFile budget page file).spent : Int) ≤ budget := by
  rw [fillFile, fill_functions_eq]
  apply each_bounded fun _ _ held => held
  apply each_bounded _ _ bounded
  intro next entry held
  exact each_bounded (fun _ _ kept => kept) entry.methods held

theorem leaf_whole {Item : Type} (page : Page (List Char)) (_ : Item)
    (_ : (page.spent + costs lineCost ([] : List (List Char)) : Nat) ≤ budget) : page = page.plus lineCost [] :=
  (plus_nil page).symm

theorem file_whole (page : Page (List Char)) (file : RankedFile)
    (fits : (page.spent + costs lineCost (fileLines file) : Nat) ≤ budget) :
    fillFile budget page file = page.plus lineCost (fileLines file) := by
  have methods : ∀ (next : Page (List Char)) (entry : ClassEntry),
      (next.spent + costs lineCost (classLines entry) : Nat) ≤ budget →
        fillMethods budget next entry = next.plus lineCost (classLines entry) := by
    intro next entry held
    exact each_whole (leaf_whole budget) entry.methods next held
  have parts : costs lineCost (fileLines file) =
      costs lineCost (file.classes.flatMap fun entry => classLine entry :: classLines entry) +
        costs lineCost ((freeFunctions file).flatMap fun entry => [functionLine entry]) := by
    simp [fileLines, costs]
  have functions : each lineCost budget functionLine (fun next _ => next)
      (page.plus lineCost (file.classes.flatMap fun entry => classLine entry :: classLines entry))
      (freeFunctions file) =
        (page.plus lineCost (file.classes.flatMap fun entry => classLine entry :: classLines entry)).plus
          lineCost ((freeFunctions file).flatMap fun entry => [functionLine entry]) := by
    apply each_whole (leaf_whole budget)
    simp only [Page.plus]
    omega
  rw [fillFile, fill_functions_eq, each_whole methods file.classes page (by omega), ← freeFunctions,
    functions, plus_plus]
  rfl

end Shown

/-- The text of a repo map is within its budget and shows what fits. -/
theorem format_compact_law (files : List RankedFile) (maxTokens : Int) :
    TextLaw files maxTokens (formatCompact files maxTokens) := by
  have laid : ∃ blocks, compactPage files maxTokens = (⟨[], 0⟩ : Page (List Char)).plus lineCost blocks.flatten ∧
      Filled lineCost (maxTokens * 4) headerLine (Block headerLine (FileShown (maxTokens * 4)))
        (0 + costs lineCost blocks.flatten) files blocks :=
    each_filled (file_law (maxTokens * 4)) (file_grows (maxTokens * 4)) files ⟨[], 0⟩
  obtain ⟨blocks, page, filled⟩ := laid
  have lines : (compactPage files maxTokens).lines = blocks.flatten := by
    rw [page]
    rfl
  have spent : (compactPage files maxTokens).spent = costs lineCost blocks.flatten := by
    rw [page]
    exact Nat.zero_add _
  refine ⟨?_, ⟨blocks, ?_, ?_⟩, ?_⟩
  · by_cases empty : blocks.flatten = []
    · left
      rw [formatCompact, lines, empty]
      rfl
    · right
      have within : (compactPage files maxTokens).Within (maxTokens * 4) :=
        each_within (file_bounded (maxTokens * 4)) files (Or.inl ⟨rfl, rfl⟩)
      have length := intercalate_length blocks.flatten empty
      rw [formatCompact, lines]
      rcases within with ⟨none, -⟩ | bounded
      · exact absurd (lines.symm.trans none) empty
      · omega
  · rw [formatCompact, lines]
  · simpa using filled
  · intro fits
    have whole : compactPage files maxTokens = (⟨[], 0⟩ : Page (List Char)).plus lineCost (allLines files) :=
      each_whole (file_whole (maxTokens * 4)) files ⟨[], 0⟩ (by simpa [allLines] using fits)
    rw [formatCompact, whole]
    rfl

end Bugalizer.RepoMap
