import Bugalizer.Effects
import Bugalizer.Store.Grouping
import Bugalizer.Text.Split

/-!
# Reading the candidate files

The paths come from a model's answer. Each is checked as a text, then opened; what `open`
makes of a path is a parameter here.
-/

namespace Bugalizer.Pipeline

set_option autoImplicit false

open Store Bugalizer.Text

/-- `os.path.join`. -/
def joinPath (root path : List Char) : List Char :=
  if path.head? = some '/' then path
  else if root = [] ∨ root.getLast? = some '/' then root ++ path
  else root ++ '/' :: path

/-- Two leading slashes are kept, one or more than two become one. -/
def initialSlashes (path : List Char) : Nat :=
  if path.head? = some '/' then
    if ['/', '/'] <+: path ∧ ¬ ['/', '/', '/'] <+: path then 2 else 1
  else 0

def dot : List Char := ['.']

def dotDot : List Char := ['.', '.']

def pushComponent (rooted : Bool) (components : List (List Char)) (component : List Char) :
    List (List Char) :=
  if component = [] ∨ component = dot then components
  else if component ≠ dotDot ∨ (rooted = false ∧ components = []) ∨ components.head? = some dotDot then
    component :: components
  else components.tail

def components (path : List Char) : List (List Char) :=
  ((split '/' path).foldl (pushComponent (decide (path.head? = some '/'))) []).reverse

def normpath (path : List Char) : List Char :=
  let normal := List.replicate (initialSlashes path) '/' ++ ['/'].intercalate (components path)
  if normal = [] then dot else normal

def slashed (path : List Char) : List Char := path.map fun letter => if letter = '\\' then '/' else letter

def validateCandidatePath (repoPath fpath : List Char) : Option (List Char) :=
  if fpath = [] ∨ fpath.head? = some '/' then none
  else if (split '/' (slashed fpath)).contains dotDot then none
  else
    let fullPath := normpath (joinPath repoPath fpath)
    let repoRoot := normpath repoPath
    if ¬ repoRoot ++ ['/'] <+: fullPath ∧ fullPath ≠ repoRoot then none else some fullPath

/-- What `open` and the decoding make of a path: an `OSError` is only logged. -/
inductive Opened where
  | text (decoded : List Char)
  | osError
  | raises (error : Exn)

/-- `file.read(limit)`. -/
def readChars (limit : Int) (decoded : List Char) : List Char :=
  if limit < 0 then decoded else decoded.take limit.toNat

/-- `entry.get("path", "")`, when `os.path.isabs` takes it; none for a value that is false. -/
def entryPath (entry : Json) : Except Exn (Option String) :=
  match entry with
  | .obj _ =>
      match entry.get "path" with
      | .str text => .ok (if text = "" then none else some text)
      | value =>
          if value.truthy then .error (.plain "TypeError" "expected str, bytes or os.PathLike object")
          else .ok none
  | _ => .error (.plain "AttributeError" "object has no attribute 'get'")

section Reading

variable (opened : List Char → Opened) (repoPath : String) (maxFiles maxChars : Int)

def readCandidate (result : Mapping String (List Char)) (entry : Json) :
    Except Exn (Mapping String (List Char)) :=
  match entryPath entry with
  | .error error => .error error
  | .ok none => .ok result
  | .ok (some fpath) =>
      match validateCandidatePath repoPath.toList fpath.toList with
      | none => .ok result
      | some fullPath =>
          match opened fullPath with
          | .text decoded => .ok (result.set fpath (readChars maxChars decoded))
          | .osError => .ok result
          | .raises error => .error error

def readCandidateFiles (candidates : List Json) : Except Exn (Mapping String (List Char)) :=
  (upTo maxFiles candidates).foldlM (readCandidate opened repoPath maxChars) []

/-- The path names a text, as far as the checks and the file system go. -/
def Reads (fpath : String) (decoded : List Char) : Prop :=
  ∃ fullPath, validateCandidatePath repoPath.toList fpath.toList = some fullPath ∧
    opened fullPath = .text decoded

variable {opened repoPath maxFiles maxChars}

theorem read_candidate_cases {result after : Mapping String (List Char)} {entry : Json}
    (read : readCandidate opened repoPath maxChars result entry = .ok after) :
    after = result ∨ ∃ fpath decoded, entryPath entry = .ok (some fpath) ∧ Reads opened repoPath fpath decoded ∧
      after = result.set fpath (readChars maxChars decoded) := by
  unfold readCandidate at read
  split at read
  · cases read
  · exact .inl (Except.ok.inj read).symm
  · rename_i fpath named
    split at read
    · exact .inl (Except.ok.inj read).symm
    · rename_i fullPath valid
      split at read
      · rename_i decoded found
        exact .inr ⟨fpath, decoded, named, ⟨fullPath, valid, found⟩, (Except.ok.inj read).symm⟩
      · exact .inl (Except.ok.inj read).symm
      · cases read

def FromCandidates (opened : List Char → Opened) (repoPath : String) (maxChars : Int)
    (files : Mapping String (List Char)) : Prop :=
  ∀ file ∈ files, ∃ decoded, Reads opened repoPath file.1 decoded ∧ file.2 = readChars maxChars decoded

theorem read_loop_mem (entries : List Json) {start files : Mapping String (List Char)}
    (known : FromCandidates opened repoPath maxChars start)
    (read : entries.foldlM (readCandidate opened repoPath maxChars) start = .ok files) :
    FromCandidates opened repoPath maxChars files := by
  induction entries generalizing start with
  | nil =>
      rw [← Except.ok.inj read]
      exact known
  | cons entry entries ih =>
      rw [List.foldlM_cons] at read
      cases first : readCandidate opened repoPath maxChars start entry with
      | error error =>
          rw [first] at read
          cases read
      | ok next =>
          rw [first] at read
          refine ih ?_ read
          rcases read_candidate_cases first with rfl | ⟨fpath, decoded, -, reads, rfl⟩
          · exact known
          · intro file member
            rcases Mapping.mem_set member with rfl | member
            · exact ⟨decoded, reads, rfl⟩
            · exact known file member

theorem read_candidates_mem {candidates : List Json} {files : Mapping String (List Char)}
    (read : readCandidateFiles opened repoPath maxFiles maxChars candidates = .ok files) :
    FromCandidates opened repoPath maxChars files := by
  apply read_loop_mem _ _ read
  intro file member
  cases member

/-- What a candidate comes to: a text under its path, nothing, or an exception. -/
def candidateText (opened : List Char → Opened) (repoPath : String) (entry : Json) :
    Except Exn (Option (String × List Char)) :=
  match entryPath entry with
  | .error error => .error error
  | .ok none => .ok none
  | .ok (some fpath) =>
      match validateCandidatePath repoPath.toList fpath.toList with
      | none => .ok none
      | some fullPath =>
          match opened fullPath with
          | .text decoded => .ok (some (fpath, decoded))
          | .osError => .ok none
          | .raises error => .error error

theorem read_candidate_eq (result : Mapping String (List Char)) (entry : Json) :
    readCandidate opened repoPath maxChars result entry =
      (candidateText opened repoPath entry).map fun found =>
        found.elim result fun (fpath, decoded) => result.set fpath (readChars maxChars decoded) := by
  unfold readCandidate candidateText
  cases entryPath entry with
  | error error => rfl
  | ok named =>
      cases named with
      | none => rfl
      | some fpath =>
          dsimp only
          cases validateCandidatePath repoPath.toList fpath.toList with
          | none => rfl
          | some fullPath =>
              dsimp only
              cases opened fullPath <;> rfl

theorem candidate_text_reads {entry : Json} {fpath : String} {decoded : List Char}
    (found : candidateText opened repoPath entry = .ok (some (fpath, decoded))) :
    Reads opened repoPath fpath decoded := by
  unfold candidateText at found
  split at found
  · cases found
  · cases found
  · rename_i named _
    split at found
    · cases found
    · rename_i fullPath valid
      split at found
      · rename_i text read
        cases found
        exact ⟨fullPath, valid, read⟩
      · cases found
      · cases found

theorem read_loop_ok_iff (entries : List Json) (start : Mapping String (List Char)) :
    (∃ files, entries.foldlM (readCandidate opened repoPath maxChars) start = .ok files) ↔
      ∀ entry ∈ entries, ∃ found, candidateText opened repoPath entry = .ok found := by
  induction entries generalizing start with
  | nil =>
      constructor
      · intro _ entry member
        cases member
      · intro _
        exact ⟨start, rfl⟩
  | cons entry entries ih =>
      rw [List.foldlM_cons, List.forall_mem_cons, read_candidate_eq]
      cases candidateText opened repoPath entry with
      | error error =>
          constructor
          · rintro ⟨files, read⟩
            cases read
          · rintro ⟨⟨found, raised⟩, -⟩
            cases raised
      | ok found =>
          refine (ih _).trans ?_
          exact ⟨fun others => ⟨⟨found, rfl⟩, others⟩, fun all => all.2⟩

theorem read_loop_keys (entries : List Json) {start files : Mapping String (List Char)}
    (read : entries.foldlM (readCandidate opened repoPath maxChars) start = .ok files) (key : String) :
    key ∈ files.map Prod.fst ↔ key ∈ start.map Prod.fst ∨
      ∃ entry ∈ entries, ∃ decoded, candidateText opened repoPath entry = .ok (some (key, decoded)) := by
  induction entries generalizing start with
  | nil =>
      obtain rfl := Except.ok.inj read
      simp
  | cons entry entries ih =>
      rw [List.foldlM_cons, read_candidate_eq] at read
      cases here : candidateText opened repoPath entry with
      | error error =>
          rw [here] at read
          cases read
      | ok found =>
          rw [here] at read
          rw [ih read]
          cases found with
          | none => simp [here]
          | some item =>
              obtain ⟨fpath, decoded⟩ := item
              have keys : key ∈ (Mapping.set start fpath (readChars maxChars decoded)).map Prod.fst ↔
                  key ∈ start.map Prod.fst ∨ key = fpath := by
                rw [Mapping.keys_set]
                split
                · rename_i present
                  exact ⟨.inl, fun given => given.elim id fun same => same ▸ present⟩
                · simp
              simp only [Option.elim_some, keys, List.exists_mem_cons_iff, here, Except.ok.injEq, Option.some.injEq,
                Prod.mk.injEq, exists_and_left, exists_eq', and_true]
              rw [or_assoc, @eq_comm _ fpath key]

end Reading

end Bugalizer.Pipeline
