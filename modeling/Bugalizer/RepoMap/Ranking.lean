import Bugalizer.GitOps.Repo
import Bugalizer.Pipeline.CandidateFiles
import Bugalizer.RepoMap.Symbols
import Bugalizer.Store.Standing

/-!
# The ranking of the files

Files are ranked by how often other files import them, then by their symbols. A file is imported
by the names it goes by: its path with dots, and its base name.
-/

namespace Bugalizer.RepoMap

set_option autoImplicit false

open Store GitOps

abbrev Path := List Char

def moduleStem (path : Path) : List Char :=
  let stem := path.map fun letter => if letter = '/' ∨ letter = '\\' then '.' else letter
  if ".py".toList.isSuffixOf stem then stem.take (stem.length - 3)
  else if [".js".toList, ".ts".toList, ".tsx".toList].any fun ending => ending.isSuffixOf stem then
    beforeLast '.' stem
  else stem

def baseName (path : Path) : List Char := beforeLast '.' (fileName path)

def nameFile (modules : Mapping (List Char) Path) (path : Path) : Mapping (List Char) Path :=
  let stemmed := modules.set (moduleStem path) path
  if (stemmed.map Prod.fst).contains (baseName path) then stemmed else stemmed.set (baseName path) path

def moduleToFile (paths : List Path) : Mapping (List Char) Path := paths.foldl nameFile []

/-- The file of a name: the last one with this stem, else the first with this base name. -/
def fileOf (paths : List Path) (name : List Char) : Option Path :=
  (paths.reverse.find? fun path => moduleStem path == name).or
    (paths.find? fun path => baseName path == name)

theorem get_module_to_file (paths : List Path) (name : List Char) :
    (moduleToFile paths).get name = fileOf paths name := by
  induction paths using List.reverseRecOn generalizing name with
  | nil => rfl
  | append_singleton paths path ih =>
      have stemmed : ∀ wanted, ((moduleToFile paths).set (moduleStem path) path).get wanted =
          if wanted = moduleStem path then some path else (moduleToFile paths).get wanted :=
        Mapping.get_set _ _ _
      rw [moduleToFile, List.foldl_append, List.foldl_cons, List.foldl_nil, ← moduleToFile, nameFile, fileOf,
        List.reverse_append, List.reverse_singleton, List.singleton_append, List.find?_cons,
        List.find?_append]
      by_cases stem : moduleStem path = name
      · subst stem
        simp only [beq_self_eq_true, Option.some_or]
        split
        · rw [stemmed, if_pos rfl]
        · rw [Mapping.get_set]
          split
          · rfl
          · rw [stemmed, if_pos rfl]
      · have before : ((moduleToFile paths).set (moduleStem path) path).get name = fileOf paths name := by
          rw [stemmed, if_neg (Ne.symm stem), ih]
        simp only [beq_eq_false_iff_ne.mpr stem]
        rw [← Option.or_assoc, ← fileOf]
        by_cases base : baseName path = name
        · subst base
          have known : ((((moduleToFile paths).set (moduleStem path) path).map Prod.fst).contains
              (baseName path) = true) ↔ (fileOf paths (baseName path)).isSome := by
            rw [List.contains_iff_mem, ← before, Option.isSome_iff_ne_none, Ne, Mapping.get_absent, not_not]
          split
          · rename_i taken
            rw [before, Option.or_of_isSome (known.mp taken)]
          · rename_i free
            rw [Mapping.get_set, if_pos rfl, Option.not_isSome_iff_eq_none.mp (mt known.mpr free)]
            simp
        · have single : ([path].find? fun path => baseName path == name) = none := by
            simp [base]
          rw [single, Option.or_none]
          split
          · exact before
          · rw [Mapping.get_set, if_neg (Ne.symm base), before]

theorem names_distinct (paths : List Path) : ((moduleToFile paths).map Prod.fst).Nodup := by
  induction paths using List.reverseRecOn with
  | nil => exact List.nodup_nil
  | append_singleton paths path ih =>
      have stemmed := Mapping.keys_set_nodup ih (moduleStem path) path
      rw [moduleToFile, List.foldl_append, List.foldl_cons, List.foldl_nil, ← moduleToFile, nameFile]
      split
      · exact stemmed
      · exact Mapping.keys_set_nodup stemmed _ _

abbrev Degrees := Mapping Path Nat

def degreeOf (degrees : Degrees) (target : Path) : Nat := (degrees.get target).getD 0

/-- `in_degree[target] += 1`. -/
def bump (degrees : Degrees) (target : Path) : Degrees := degrees.set target (degreeOf degrees target + 1)

abbrev AllSymbols := Mapping Path FileSymbols

def countName (path : Path) (text : List Char) (degrees : Degrees) (named : List Char × Path) : Degrees :=
  if named.2 ≠ path ∧ named.1 <:+: text then bump degrees named.2 else degrees

def countImport (modules : Mapping (List Char) Path) (path : Path) (degrees : Degrees) (text : List Char) :
    Degrees :=
  modules.foldl (countName path text) degrees

def countFile (modules : Mapping (List Char) Path) (degrees : Degrees) (file : Path × FileSymbols) : Degrees :=
  file.2.imports.foldl (countImport modules file.1) degrees

def buildImportGraph (files : AllSymbols) : Degrees :=
  files.foldl (countFile (moduleToFile (files.map Prod.fst))) []

def ownNames (paths : List Path) (target : Path) : List (List Char) :=
  [moduleStem target, baseName target].dedup.filter fun name => fileOf paths name = some target

/-- How many names of the file an import contains. -/
def mentions (paths : List Path) (target : Path) (text : List Char) : Nat :=
  (ownNames paths target).countP fun name => name <:+: text

/-- The mentions of a file in the imports of the others. -/
def imported (files : AllSymbols) (target : Path) : Nat :=
  ((files.filter fun file => file.1 ≠ target).map fun file =>
    (file.2.imports.map (mentions (files.map Prod.fst) target)).sum).sum

theorem degree_bump (degrees : Degrees) (target wanted : Path) :
    degreeOf (bump degrees target) wanted = degreeOf degrees wanted + if wanted = target then 1 else 0 := by
  rw [degreeOf, bump, Mapping.get_set]
  split
  · rename_i same
    rw [same]
    rfl
  · rfl

/-- A loop whose every turn adds its amount adds the sum of the amounts. -/
theorem degree_loop {Item : Type} {turn : Degrees → Item → Degrees} {amount : Item → Nat} {wanted : Path}
    (adds : ∀ degrees item, degreeOf (turn degrees item) wanted = degreeOf degrees wanted + amount item)
    (items : List Item) (degrees : Degrees) :
    degreeOf (items.foldl turn degrees) wanted = degreeOf degrees wanted + (items.map amount).sum := by
  induction items generalizing degrees with
  | nil => rfl
  | cons item items ih =>
      rw [List.foldl_cons, ih, adds, List.map_cons, List.sum_cons]
      omega

theorem sum_ones {Item : Type} (wanted : Item → Bool) (items : List Item) :
    (items.map fun item => if wanted item = true then 1 else 0).sum = items.countP wanted := by
  induction items with
  | nil => rfl
  | cons item items ih =>
      rw [List.map_cons, List.sum_cons, ih, List.countP_cons]
      omega

theorem own_name {paths : List Path} {name : List Char} {target : Path}
    (found : fileOf paths name = some target) : name = moduleStem target ∨ name = baseName target := by
  rw [fileOf, Option.or_eq_some_iff] at found
  rcases found with stem | ⟨-, base⟩
  · have same := List.find?_some stem
    exact Or.inl (beq_iff_eq.mp same).symm
  · have same := List.find?_some base
    exact Or.inr (beq_iff_eq.mp same).symm

/-- The items of the mapping that lead to a file are the file's own names. -/
theorem own_names_perm (paths : List Path) (target : Path) :
    (((moduleToFile paths).filter fun item => item.2 = target).map Prod.fst).Perm (ownNames paths target) := by
  rw [List.perm_ext_iff_of_nodup]
  · intro name
    have known := get_module_to_file paths name
    simp only [List.mem_map, List.mem_filter, Prod.exists, ownNames, List.mem_dedup, List.mem_cons,
      List.not_mem_nil, or_false, decide_eq_true_eq]
    constructor
    · rintro ⟨here, path, ⟨member, rfl⟩, rfl⟩
      rw [Mapping.get_of_mem (names_distinct paths) member] at known
      exact ⟨own_name known.symm, known.symm⟩
    · rintro ⟨-, found⟩
      exact ⟨name, target, ⟨Mapping.mem_of_get (known.trans found), rfl⟩, rfl⟩
  · exact (names_distinct paths).sublist (List.filter_sublist.map _)
  · exact (List.nodup_dedup _).filter _

theorem count_import (paths : List Path) (path wanted : Path) (text : List Char) (degrees : Degrees) :
    degreeOf (countImport (moduleToFile paths) path degrees text) wanted =
      degreeOf degrees wanted + if wanted = path then 0 else mentions paths wanted text := by
  have turn : ∀ degrees (named : List Char × Path),
      degreeOf (countName path text degrees named) wanted = degreeOf degrees wanted +
        if (decide (wanted ≠ path) && (decide (named.2 = wanted) && decide (named.1 <:+: text))) = true then 1
        else 0 := by
    intro degrees named
    simp only [Bool.and_eq_true, decide_eq_true_eq]
    rw [countName]
    split
    · rename_i hit
      rw [degree_bump]
      congr 1
      by_cases same : wanted = named.2
      · subst same
        rw [if_pos rfl, if_pos ⟨hit.1, rfl, hit.2⟩]
      · rw [if_neg same, if_neg fun both => same both.2.1.symm]
    · rename_i miss
      rw [if_neg]
      · rfl
      · rintro ⟨other, rfl, inside⟩
        exact miss ⟨other, inside⟩
  rw [countImport, degree_loop turn, sum_ones]
  congr 1
  by_cases same : wanted = path
  · simp [same]
  · have names := (own_names_perm paths wanted).countP_eq fun name => decide (name <:+: text)
    rw [if_neg same, mentions, ← names, List.countP_map, List.countP_filter]
    apply List.countP_congr
    intro named _
    simp [same, and_comm]

theorem import_graph_degree (files : AllSymbols) (target : Path) :
    degreeOf (buildImportGraph files) target = imported files target := by
  have turn : ∀ degrees (file : Path × FileSymbols),
      degreeOf (countFile (moduleToFile (files.map Prod.fst)) degrees file) target =
        degreeOf degrees target + if target = file.1 then 0 else
          (file.2.imports.map (mentions (files.map Prod.fst) target)).sum := by
    intro degrees file
    rw [countFile, degree_loop fun degrees text => count_import (files.map Prod.fst) file.1 target text degrees]
    congr 1
    by_cases same : target = file.1
    · simp [same]
    · simp [same]
  have filtered : ∀ list : AllSymbols,
      (list.map fun file => if target = file.1 then 0 else
        (file.2.imports.map (mentions (files.map Prod.fst) target)).sum).sum =
      ((list.filter fun file => file.1 ≠ target).map fun file =>
        (file.2.imports.map (mentions (files.map Prod.fst) target)).sum).sum := by
    intro list
    induction list with
    | nil => rfl
    | cons file list ih =>
        by_cases same : target = file.1
        · rw [List.map_cons, List.sum_cons, List.filter_cons_of_neg (by simp [same]), if_pos same, ih,
            Nat.zero_add]
        · rw [List.map_cons, List.sum_cons, List.filter_cons_of_pos (by simp [Ne.symm same]), if_neg same, ih,
            List.map_cons, List.sum_cons]
  rw [buildImportGraph, degree_loop turn, filtered]
  exact Nat.zero_add _

structure FileEntry where
  path : Path
  inDegree : Nat
  symbolCount : Nat
  classes : List ClassEntry
  functions : List FunctionEntry
deriving DecidableEq

structure RankedFile extends FileEntry where
  rank : Nat
deriving DecidableEq

def fileEntry (degrees : Degrees) (file : Path × FileSymbols) : FileEntry :=
  { path := file.1
    inDegree := degreeOf degrees file.1
    symbolCount := file.2.classes.length + file.2.functions.length
    classes := file.2.classes
    functions := file.2.functions }

/-- `key=(in_degree, symbol_count)` under `reverse=True`, which keeps the order of equals. -/
def ranksBefore (first second : FileEntry) : Bool :=
  decide (second.inDegree < first.inDegree) ||
    (decide (second.inDegree = first.inDegree) && decide (second.symbolCount ≤ first.symbolCount))

/-- The ranking of `build_repo_map`: sorted, trimmed and numbered. -/
def rankFiles (maxFiles : Int) (files : AllSymbols) : List RankedFile :=
  let ranked := (files.map (fileEntry (buildImportGraph files))).mergeSort ranksBefore
  (Pipeline.upTo maxFiles ranked).mapIdx fun index entry => { entry with rank := index + 1 }

/-- How many of so many items `items[:limit]` keeps. -/
def keptOf (limit : Int) (count : Nat) : Nat :=
  if limit < 0 then count - limit.natAbs else min limit.toNat count

structure Weight where
  imported : Nat
  symbols : Nat

def weight (files : AllSymbols) (file : Path × FileSymbols) : Weight :=
  ⟨imported files file.1, file.2.classes.length + file.2.functions.length⟩

/-- Imported more often, or as often with more symbols, or alike in both and listed earlier. -/
def Outranks (files : AllSymbols) (first second : (Path × FileSymbols) × Nat) : Prop :=
  (weight files second.1).imported < (weight files first.1).imported ∨
    (weight files second.1).imported = (weight files first.1).imported ∧
      ((weight files second.1).symbols < (weight files first.1).symbols ∨
        (weight files second.1).symbols = (weight files first.1).symbols ∧ first.2 < second.2)

instance (files : AllSymbols) (first second : (Path × FileSymbols) × Nat) :
    Decidable (Outranks files first second) :=
  inferInstanceAs (Decidable (_ ∨ _ ∧ (_ ∨ _ ∧ _)))

/-- How many files outrank the one listed at this index. -/
def outranking (files : AllSymbols) (index : Nat) (file : Path × FileSymbols) : Nat :=
  files.zipIdx.countP fun other => Outranks files other (file, index)

theorem ranks_transitive (first second third : FileEntry) (one : ranksBefore first second = true)
    (two : ranksBefore second third = true) : ranksBefore first third = true := by
  simp only [ranksBefore, Bool.or_eq_true, Bool.and_eq_true, decide_eq_true_eq] at one two ⊢
  omega

theorem ranks_total (first second : FileEntry) : (ranksBefore first second || ranksBefore second first) = true := by
  simp only [ranksBefore, Bool.or_eq_true, Bool.and_eq_true, decide_eq_true_eq]
  omega

theorem up_to_get {Item : Type} (limit : Int) (items : List Item) (place : Nat) :
    (Pipeline.upTo limit items)[place]? = if place < keptOf limit items.length then items[place]? else none := by
  rw [Pipeline.upTo, keptOf]
  split
  · rw [List.getElem?_take]
  · rw [List.getElem?_take]
    by_cases short : place < items.length
    · simp [short]
    · have none : items[place]? = none := List.getElem?_eq_none (Nat.le_of_not_lt short)
      simp [none]

theorem standing_outranking (files : AllSymbols) (index : Nat) (file : Path × FileSymbols) :
    standing ranksBefore (files.map (fileEntry (buildImportGraph files))) index
        (fileEntry (buildImportGraph files) file) = outranking files index file := by
  rw [standing, outranking, List.zipIdx_map, List.countP_map]
  apply List.countP_congr
  intro other _
  rw [decide_eq_true_iff]
  simp only [Function.comp_apply, Prod.map_fst, Prod.map_snd, id_eq, ahead, ranksBefore, fileEntry,
    import_graph_degree, Outranks, weight, Bool.and_eq_true, Bool.or_eq_true, Bool.not_eq_true',
    Bool.or_eq_false_iff, Bool.and_eq_false_iff, decide_eq_true_eq, decide_eq_false_iff_not]
  omega

/-- The file at a place of the ranking is the one that so many files outrank. -/
theorem ranked_iff (maxFiles : Int) (files : AllSymbols) (place : Nat) (ranked : RankedFile) :
    (rankFiles maxFiles files)[place]? = some ranked ↔
      place < keptOf maxFiles files.length ∧ ∃ index file, files[index]? = some file ∧
        outranking files index file = place ∧
        ranked = { path := file.1, inDegree := imported files file.1
                   symbolCount := file.2.classes.length + file.2.functions.length
                   classes := file.2.classes, functions := file.2.functions, rank := place + 1 } := by
  have sorted := sorted_at ranks_transitive ranks_total (files.map (fileEntry (buildImportGraph files))) place
  have counted : ((files.map (fileEntry (buildImportGraph files))).mergeSort ranksBefore).length = files.length := by
    rw [List.length_mergeSort, List.length_map]
  rw [rankFiles, List.getElem?_mapIdx, up_to_get, counted]
  by_cases kept : place < keptOf maxFiles files.length
  · rw [if_pos kept, Option.map_eq_some_iff]
    simp only [sorted, kept, true_and]
    simp only [List.getElem?_map, Option.map_eq_some_iff]
    constructor
    · rintro ⟨entry, ⟨index, ⟨file, found, rfl⟩, placed⟩, rfl⟩
      refine ⟨index, file, found, ?_, ?_⟩
      · rw [← standing_outranking, placed]
      · simp [fileEntry, import_graph_degree]
    · rintro ⟨index, file, found, placed, rfl⟩
      refine ⟨_, ⟨index, ⟨file, found, rfl⟩, ?_⟩, ?_⟩
      · rw [standing_outranking, placed]
      · simp [fileEntry, import_graph_degree]
  · simp [kept]

end Bugalizer.RepoMap
