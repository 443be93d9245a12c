import Bugalizer.Effects
import Bugalizer.Text.Blanks
import Bugalizer.Text.Split

/-!
# The clone on disk

What the git commands of a clone answer is a parameter. The source files are the tracked ones with
a supported ending, outside the directories of vendored and generated code.
-/

namespace Bugalizer.GitOps

set_option autoImplicit false

open Text

structure CompletedProcess where
  returncode : Int
  stdout : List Char
  stderr : List Char

/-- `f"git ... failed: {result.stderr.strip()}"`. -/
def gitFailed (command : String) (result : CompletedProcess) : Exn :=
  .runtime "RuntimeError" ("git " ++ command ++ " failed: " ++ String.ofList (Py.stripped result.stderr))

def getHeadSha (revParse : CompletedProcess) : Except Exn (List Char) :=
  if revParse.returncode ≠ 0 then .error (gitFailed "rev-parse" revParse)
  else .ok (Py.stripped revParse.stdout)

/-- `os.path.basename`. -/
def fileName (path : List Char) : List Char := (path.reverse.takeWhile (· != '/')).reverse

/-- `text.rsplit(separator, 1)[0]`. -/
def beforeLast (separator : Char) (text : List Char) : List Char :=
  if text.contains separator then (text.reverse.dropWhile (· != separator)).tail.reverse else text

/-- `os.path.splitext(path)[1]`: from the last dot of the name, where more than dots stand before. -/
def extension (path : List Char) : List Char :=
  let stem := beforeLast '.' (fileName path)
  if (fileName path).contains '.' && stem.any (· != '.') then (fileName path).drop stem.length else []

def HasEnding (path ending : List Char) : Prop :=
  ∃ stem, fileName path = stem ++ '.' :: ending ∧ '.' ∉ ending ∧ ∃ letter ∈ stem, letter ≠ '.'

theorem before_last_eq {separator : Char} {stem ending : List Char} (free : separator ∉ ending) :
    beforeLast separator (stem ++ separator :: ending) = stem := by
  have inside : (stem ++ separator :: ending).contains separator = true := by simp
  have turned : (stem ++ separator :: ending).reverse = ending.reverse ++ separator :: stem.reverse := by simp
  rw [beforeLast, if_pos inside, turned, List.dropWhile_append_of_pos, List.dropWhile_cons_of_neg, List.tail_cons,
    List.reverse_reverse]
  · simp
  · intro letter member
    rw [List.mem_reverse] at member
    simpa using fun same : letter = separator => free (same ▸ member)

theorem last_separator {separator : Char} {text : List Char} (inside : separator ∈ text) :
    ∃ stem ending, text = stem ++ separator :: ending ∧ separator ∉ ending := by
  induction text with
  | nil => cases inside
  | cons letter text ih =>
      by_cases later : separator ∈ text
      · obtain ⟨stem, ending, rfl, free⟩ := ih later
        exact ⟨letter :: stem, ending, rfl, free⟩
      · have here : separator = letter := (List.mem_cons.mp inside).resolve_right later
        exact ⟨[], text, by rw [here, List.nil_append], later⟩

theorem extension_iff {path ending : List Char} : extension path = '.' :: ending ↔ HasEnding path ending := by
  constructor
  · intro found
    simp only [extension] at found
    split at found
    · rename_i dotted
      rw [Bool.and_eq_true, List.contains_iff_mem, List.any_eq_true] at dotted
      obtain ⟨stem, rest, named, free⟩ := last_separator dotted.1
      rw [named, before_last_eq free, List.drop_left] at found
      rw [named, before_last_eq free] at dotted
      obtain ⟨-, rfl⟩ := List.cons.inj found
      obtain ⟨letter, member, other⟩ := dotted.2
      exact ⟨stem, named, free, letter, member, by simpa using other⟩
    · cases found
  · rintro ⟨stem, named, free, letter, member, other⟩
    have some : stem.any (· != '.') = true := List.any_eq_true.mpr ⟨letter, member, by simpa using other⟩
    rw [extension, named, before_last_eq free, some, Bool.and_true, if_pos (by simp), List.drop_left]

def skipDirs : List (List Char) :=
  ["node_modules/".toList, "vendor/".toList, ".git/".toList, "__pycache__/".toList, "dist/".toList,
    "build/".toList]

def skipped (path : List Char) : Bool :=
  skipDirs.any fun dir => decide (dir <+: path) || decide ('/' :: dir <:+: path)

def listFiles (lsFiles : CompletedProcess) (extensions : List (List Char)) : Except Exn (List (List Char)) :=
  if lsFiles.returncode ≠ 0 then .error (gitFailed "ls-files" lsFiles)
  else
    let files := (split '\n' (Py.stripped lsFiles.stdout)).filter fun file => file ≠ []
    let matching := if extensions = [] then files else
      files.filter fun file => extensions.contains (extension file)
    .ok (matching.filter fun file => !skipped file)

def skipNames : List (List Char) :=
  ["node_modules".toList, "vendor".toList, ".git".toList, "__pycache__".toList, "dist".toList, "build".toList]

def Vendored (path : List Char) : Prop := ∃ name ∈ skipNames, name ∈ (split '/' path).dropLast

theorem split_drop_last {part rest : List Char} (free : '/' ∉ part) :
    (split '/' (part ++ '/' :: rest)).dropLast = part :: (split '/' rest).dropLast := by
  obtain ⟨first, parts, after⟩ := List.exists_cons_of_ne_nil (split_ne_nil '/' rest)
  rw [split_append free, after, List.dropLast_cons_cons]

theorem slash_append {name part after rest : List Char} (free : '/' ∉ name) (clear : '/' ∉ part)
    (same : name ++ '/' :: after = part ++ '/' :: rest) : name = part ∧ after = rest := by
  have split := congrArg (Text.split '/') same
  rw [split_append free, split_append clear] at split
  obtain ⟨rfl, -⟩ := List.cons.inj split
  exact ⟨rfl, (List.cons.inj (List.append_cancel_left same)).2⟩

theorem slash_infix {part needle : List Char} (clear : '/' ∉ part) (rest : List Char) :
    '/' :: needle <:+: part ++ rest ↔ '/' :: needle <:+: rest := by
  induction part with
  | nil => exact Iff.rfl
  | cons letter part ih =>
      rw [List.mem_cons, not_or] at clear
      rw [List.cons_append, List.infix_cons_iff, ih clear.2, List.cons_prefix_cons]
      exact or_iff_right fun both => clear.1 both.1

theorem directory_iff {name : List Char} (free : '/' ∉ name) (path : List Char) :
    name ++ ['/'] <+: path ∨ '/' :: (name ++ ['/']) <:+: path ↔ name ∈ (split '/' path).dropLast := by
  induction path using part_induction '/' with
  | last part clear =>
      have slash : '/' ∈ name ++ ['/'] := by simp
      rw [split_free clear]
      simp only [List.dropLast_singleton, List.not_mem_nil, iff_false, not_or]
      exact ⟨fun front => clear (front.subset slash), fun inside => clear (inside.subset List.mem_cons_self)⟩
  | next part rest clear ih =>
      rw [split_drop_last clear, List.mem_cons, ← ih, slash_infix clear, List.infix_cons_iff,
        List.cons_prefix_cons]
      have front : name ++ ['/'] <+: part ++ '/' :: rest ↔ name = part := by
        constructor
        · rintro ⟨after, same⟩
          rw [List.append_assoc] at same
          exact (slash_append free clear same).1
        · rintro rfl
          exact ⟨rest, by simp⟩
      rw [front]
      simp only [true_and]

theorem skipped_iff (path : List Char) : skipped path = true ↔ Vendored path := by
  have plain : ∀ name ∈ skipNames, '/' ∉ name := by decide
  have dirs : skipDirs = skipNames.map fun name => name ++ ['/'] := by decide
  rw [skipped, dirs, List.any_map, List.any_eq_true]
  constructor
  · rintro ⟨name, listed, hit⟩
    rw [Function.comp_apply, Bool.or_eq_true, decide_eq_true_iff, decide_eq_true_iff] at hit
    exact ⟨name, listed, (directory_iff (plain name listed) path).mp hit⟩
  · rintro ⟨name, listed, inside⟩
    refine ⟨name, listed, ?_⟩
    rw [Function.comp_apply, Bool.or_eq_true, decide_eq_true_iff, decide_eq_true_iff]
    exact (directory_iff (plain name listed) path).mpr inside

/-- The lines of what `git ls-files` says. -/
def Tracked (lsFiles : CompletedProcess) (path : List Char) : Prop :=
  path ≠ [] ∧ path ∈ split '\n' (Py.stripped lsFiles.stdout)

theorem mem_list_files {lsFiles : CompletedProcess} {endings files : List (List Char)} (some : endings ≠ [])
    (listed : listFiles lsFiles (endings.map ('.' :: ·)) = .ok files) (path : List Char) :
    path ∈ files ↔ Tracked lsFiles path ∧ (∃ ending ∈ endings, HasEnding path ending) ∧ ¬ Vendored path := by
  unfold listFiles at listed
  split at listed
  · cases listed
  · cases listed
    rw [if_neg (by simpa using some)]
    simp only [List.mem_filter, List.contains_iff_mem, List.mem_map, Bool.not_eq_true', decide_eq_true_eq]
    rw [← skipped_iff, Bool.not_eq_true, Tracked]
    have matching : (∃ ending ∈ endings, '.' :: ending = extension path) ↔ ∃ ending ∈ endings, HasEnding path ending := by
      simp only [← extension_iff, eq_comm]
    rw [matching]
    tauto

end Bugalizer.GitOps
