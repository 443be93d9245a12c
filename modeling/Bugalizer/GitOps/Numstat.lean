import Bugalizer.Text.Split
import Bugalizer.Wire.Value

/-!
# The paths of `git apply --numstat -z`

A record is two counts and a path, or two counts, an empty field and the two paths of a rename.
Counts are separated by tabs and paths ended by a zero byte; with `-z` git writes a path as it
is, tabs and line breaks among its characters.
-/

namespace Bugalizer.GitOps

set_option autoImplicit false

open Wire Bugalizer.Text

def tab : Point := .scalar '\t'

def zero : Point := .scalar (Char.ofNat 0)

/-- `_parse_numstat_z`'s loop over the parts from index `i` on. -/
def numstatPaths (parts : List Text) : List Text :=
  match parts with
  | [] => []
  | part :: rest =>
      match split tab part with
      | [_, _, path] =>
          if path ≠ [] then path :: numstatPaths rest
          else (rest.take 2).filter (· ≠ []) ++ numstatPaths (rest.drop 2)
      | _ => numstatPaths rest
termination_by parts.length
decreasing_by
  all_goals simp only [List.length_cons, List.length_drop]
  all_goals omega

def parseNumstatZ (out : Text) : List Text := numstatPaths (split zero out)

/-- A count: digits, or `-` for a binary file. -/
def isCount (text : Text) : Bool :=
  text == [.scalar '-'] ||
    (text != [] && text.all fun point => match point with
      | .scalar char => char.isDigit
      | .surrogate _ => false)

abbrev Count := {text : Text // isCount text = true}

/-- A path: any text but the empty one, without a zero. -/
abbrev Path := {text : Text // text ≠ [] ∧ zero ∉ text}

inductive Entry where
  | plain (added deleted : Count) (path : Path)
  | rename (added deleted : Count) (old new : Path)

namespace Entry

def encode : Entry → Text
  | plain added deleted path => added ++ tab :: (deleted ++ tab :: (path ++ [zero]))
  | rename added deleted old new =>
      added ++ tab :: (deleted ++ tab :: zero :: (old ++ zero :: (new ++ [zero])))

def paths : Entry → List Text
  | plain _ _ path => [path]
  | rename _ _ old new => [old, new]

def read : Entry → List Text
  | plain _ _ path => if tab ∈ path.1 then [] else [path]
  | rename _ _ old new => [old, new]

/-- The record is read for what it is: a plain path holds no tab. -/
def legible : Entry → Bool
  | plain _ _ path => decide (tab ∉ path.1)
  | rename .. => true

end Entry

def encodeNumstat (entries : List Entry) : Text := entries.flatMap Entry.encode

theorem count_free {text : Text} (count : isCount text = true) {point : Point}
    (apart : point = tab ∨ point = zero) : point ∉ text := by
  intro member
  simp only [isCount, Bool.or_eq_true, beq_iff_eq, Bool.and_eq_true, List.all_eq_true] at count
  rcases count with rfl | ⟨-, digits⟩
  · rcases apart with rfl | rfl <;> simp [tab, zero] at member
  · have digit := digits point member
    rcases apart with rfl | rfl <;> simp [tab, zero] at digit

/-- The part of a record before its first zero, and the fields in it. -/
theorem counts_fields (added deleted : Count) (last : Text) :
    split tab (added.1 ++ tab :: (deleted.1 ++ tab :: last)) =
      added.1 :: deleted.1 :: split tab last := by
  rw [split_append (count_free added.2 (.inl rfl)), split_append (count_free deleted.2 (.inl rfl))]

theorem counts_zero_free {added deleted : Count} {last : Text} (free : zero ∉ last) :
    zero ∉ added.1 ++ tab :: (deleted.1 ++ tab :: last) := by
  have first := count_free added.2 (.inr rfl)
  have second := count_free deleted.2 (.inr rfl)
  simp only [List.mem_append, List.mem_cons, not_or]
  exact ⟨first, by decide, second, by decide, free⟩

theorem numstat_single {part : Text} {first second path : Text} (fields : split tab part = [first, second, path])
    (named : path ≠ []) (rest : List Text) : numstatPaths (part :: rest) = path :: numstatPaths rest := by
  rw [numstatPaths, fields]
  exact if_pos named

theorem numstat_pair {part : Text} {first second : Text} (fields : split tab part = [first, second, []])
    (old new : Text) (rest : List Text) :
    numstatPaths (part :: old :: new :: rest) = [old, new].filter (· ≠ []) ++ numstatPaths rest := by
  rw [numstatPaths, fields]
  rfl

theorem numstat_other {part : Text} (fields : (split tab part).length ≠ 3) (rest : List Text) :
    numstatPaths (part :: rest) = numstatPaths rest := by
  rw [numstatPaths]
  split
  · rename_i three
    rw [three] at fields
    exact absurd rfl fields
  · rfl

theorem numstat_plain (added deleted : Count) (path : Path) (rest : List Text) :
    numstatPaths ((added.1 ++ tab :: (deleted.1 ++ tab :: path.1)) :: rest) =
      (Entry.plain added deleted path).read ++ numstatPaths rest := by
  have fields := counts_fields added deleted path.1
  by_cases tabbed : tab ∈ path.1
  · have more : (split tab path.1).length ≠ 1 := by
      rw [split_length]
      have positive := List.count_pos_iff.mpr tabbed
      omega
    simp only [Entry.read, if_pos tabbed, List.nil_append]
    apply numstat_other
    rw [fields, List.length_cons, List.length_cons]
    omega
  · rw [split_free tabbed] at fields
    simp only [Entry.read, if_neg tabbed]
    exact numstat_single fields path.2.1 rest

theorem numstat_rename (added deleted : Count) (old new : Path) (rest : List Text) :
    numstatPaths ((added.1 ++ tab :: (deleted.1 ++ [tab])) :: old.1 :: new.1 :: rest) =
      (Entry.rename added deleted old new).read ++ numstatPaths rest := by
  have fields := counts_fields added deleted []
  have both : [old.1, new.1].filter (· ≠ []) = [old.1, new.1] := by
    simp [old.2.1, new.2.1]
  rw [numstat_pair fields, both]
  rfl

theorem split_entry (entry : Entry) (rest : Text) :
    numstatPaths (split zero (entry.encode ++ rest)) = entry.read ++ numstatPaths (split zero rest) := by
  cases entry with
  | plain added deleted path =>
      have shape : (Entry.plain added deleted path).encode ++ rest =
          (added.1 ++ tab :: (deleted.1 ++ tab :: path.1)) ++ zero :: rest := by
        simp [Entry.encode]
      rw [shape, split_append (counts_zero_free path.2.2), numstat_plain]
  | rename added deleted old new =>
      have shape : (Entry.rename added deleted old new).encode ++ rest =
          (added.1 ++ tab :: (deleted.1 ++ [tab])) ++ zero :: (old.1 ++ zero :: (new.1 ++ zero :: rest)) := by
        simp [Entry.encode]
      rw [shape, split_append (counts_zero_free (by simp)), split_append old.2.2, split_append new.2.2,
        numstat_rename]

theorem parse_encode (entries : List Entry) :
    parseNumstatZ (encodeNumstat entries) = entries.flatMap Entry.read := by
  unfold parseNumstatZ
  induction entries with
  | nil =>
      have skipped := @numstat_other [] (by decide) []
      rw [numstatPaths] at skipped
      exact skipped
  | cons entry entries ih =>
      rw [encodeNumstat, List.flatMap_cons, split_entry, List.flatMap_cons, ← ih]
      rfl

theorem read_length_le (entry : Entry) : entry.read.length ≤ entry.paths.length := by
  cases entry with
  | plain added deleted path =>
      simp only [Entry.read, Entry.paths]
      split <;> simp
  | rename added deleted old new => exact le_rfl

theorem read_eq_iff (entry : Entry) : entry.read = entry.paths ↔ entry.legible = true := by
  cases entry with
  | plain added deleted path =>
      by_cases tabbed : tab ∈ path.1 <;> simp [Entry.read, Entry.paths, Entry.legible, tabbed]
  | rename added deleted old new => simp [Entry.read, Entry.paths, Entry.legible]

/-- The parser gives all the paths, in order, exactly when no plain entry's path holds a tab. -/
theorem numstat_paths_iff (entries : List Entry) :
    parseNumstatZ (encodeNumstat entries) = entries.flatMap Entry.paths ↔
      ∀ entry ∈ entries, entry.legible = true := by
  rw [parse_encode]
  simp only [← read_eq_iff]
  induction entries with
  | nil => simp
  | cons entry entries ih =>
      rw [List.forall_mem_cons, ← ih, List.flatMap_cons, List.flatMap_cons]
      constructor
      · intro same
        have shorter : (entries.flatMap Entry.read).length ≤ (entries.flatMap Entry.paths).length := by
          rw [List.length_flatMap, List.length_flatMap]
          exact List.sum_le_sum fun entry _ => read_length_le entry
        have first := read_length_le entry
        have lengths := congrArg List.length same
        rw [List.length_append, List.length_append] at lengths
        exact List.append_inj same (by omega)
      · rintro ⟨first, rest⟩
        rw [first, rest]

/-- One line added to the file `a<tab>b`. -/
def tabbed : Entry :=
  .plain ⟨Text.of "1", by decide⟩ ⟨Text.of "0", by decide⟩ ⟨Text.of "a\tb", by decide, by decide⟩

theorem tabbed_path_dropped :
    parseNumstatZ (encodeNumstat [tabbed]) = [] ∧ [tabbed].flatMap Entry.paths = [Text.of "a\tb"] := by
  refine ⟨?_, rfl⟩
  rw [parse_encode]
  decide

end Bugalizer.GitOps
