import Bugalizer.Pipeline.CandidateFiles
import Bugalizer.Pipeline.FixProposer

/-!
# The file bundle of a fix proposal

Two settings bound the bundle in bytes. Both are enforced by counting characters: the read of
each file takes so many, and a running total cuts the rest.
-/

namespace Bugalizer.Pipeline

set_option autoImplicit false

open Store

/-- The settings that bound the bundle. -/
structure Caps where
  maxFiles : Int
  fileBytes : Int
  bundleBytes : Int

/-- The bundle that `propose_fix` puts into the prompt; without a file it defers. -/
def fileBundle (opened : List Char → Opened) (repoPath : String) (caps : Caps) (candidates : List Json) :
    Except Exn (Mapping String (List Char)) :=
  (readCandidateFiles opened repoPath caps.maxFiles caps.fileBytes candidates).map
    (capFiles caps.bundleBytes 0)

/-- The bytes of a text in UTF-8. -/
def bytes (text : List Char) : Nat := (text.map Char.utf8Size).sum

def surplus (text : List Char) : Nat := (text.map fun letter => letter.utf8Size - 1).sum

theorem bytes_eq (text : List Char) : bytes text = text.length + surplus text := by
  induction text with
  | nil => rfl
  | cons letter text ih =>
      have positive := letter.utf8Size_pos
      simp only [bytes, surplus, List.map_cons, List.sum_cons, List.length_cons] at ih ⊢
      omega

def charsRead (limit : Int) (text : List Char) : Nat :=
  if limit < 0 then text.length else min text.length limit.toNat

/-- What the two caps leave of each text, as counts of characters. -/
def parts (fileCap bundleCap : Int) : Nat → List (List Char) → List (List Char)
  | _, [] => []
  | before, text :: texts =>
      text.take (min (charsRead fileCap text) (bundleCap - before).toNat) ::
        parts fileCap bundleCap (before + charsRead fileCap text) texts

/-- The extra bytes of the characters beyond ASCII fit what the caps leave over. -/
def PartsFit (fileCap bundleCap : Int) (texts : List (List Char)) : Prop :=
  (∀ part ∈ parts fileCap bundleCap 0 texts, (surplus part : Int) ≤ fileCap - part.length) ∧
    (((parts fileCap bundleCap 0 texts).map surplus).sum : Int) ≤
      bundleCap - ((parts fileCap bundleCap 0 texts).map List.length).sum

theorem read_chars_length (limit : Int) (text : List Char) :
    (readChars limit text).length = charsRead limit text := by
  unfold readChars charsRead
  split
  · rfl
  · rw [List.length_take, min_comm]

theorem read_chars_take (limit : Int) (text : List Char) :
    readChars limit text = text.take (charsRead limit text) := by
  unfold readChars charsRead
  split
  · rw [List.take_length]
  · rw [List.take_eq_take_iff]
    omega

theorem parts_spent {fileCap bundleCap : Int} (texts : List (List Char)) {before : Nat}
    (spent : bundleCap ≤ before) : ∀ part ∈ parts fileCap bundleCap before texts, part = [] := by
  induction texts generalizing before with
  | nil =>
      intro part member
      cases member
  | cons text texts ih =>
      intro part member
      rcases List.mem_cons.mp member with rfl | member
      · have nothing : (bundleCap - before).toNat = 0 := by omega
        rw [nothing, Nat.min_zero, List.take_zero]
      · exact ih (by omega) part member

def limited (limit : Int) (files : Mapping String (List Char)) : Mapping String (List Char) :=
  files.map (Prod.map id (readChars limit))

theorem cap_files_spent {bundleCap total : Int} (spent : bundleCap ≤ total) (files : Mapping String (List Char)) :
    capFiles bundleCap total files = [] := by
  cases files with
  | nil => rfl
  | cons file files =>
      have nothing : bundleCap - total ≤ 0 := by omega
      simp only [capFiles, if_pos nothing]

theorem cap_files_whole {fileCap bundleCap : Int} {before : Nat} (path : String) {text : List Char}
    (files : Mapping String (List Char)) (fed : ¬bundleCap - before ≤ 0)
    (whole : (readChars fileCap text).length ≤ bundleCap - before) :
    capFiles bundleCap before (limited fileCap ((path, text) :: files)) =
      (path, readChars fileCap text) ::
        capFiles bundleCap ((before + charsRead fileCap text : Nat) : Int) (limited fileCap files) := by
  have onward : (before : Int) + (readChars fileCap text).length =
      ((before + charsRead fileCap text : Nat) : Int) := by
    rw [read_chars_length]
    omega
  simp only [limited, List.map_cons, Prod.map_apply, id_eq, capFiles, if_neg fed, if_pos whole, onward]

theorem cap_files_cut {fileCap bundleCap : Int} {before : Nat} (path : String) {text : List Char}
    (files : Mapping String (List Char)) (fed : ¬bundleCap - before ≤ 0)
    (long : ¬(readChars fileCap text).length ≤ bundleCap - before) :
    capFiles bundleCap before (limited fileCap ((path, text) :: files)) =
      [(path, (readChars fileCap text).take (bundleCap - before).toNat)] := by
  have filled : (before : Int) + ((readChars fileCap text).take (bundleCap - before).toNat).length =
      bundleCap := by
    rw [List.length_take]
    omega
  simp only [limited, List.map_cons, Prod.map_apply, id_eq, capFiles, if_neg fed, if_neg long, filled]
  rw [cap_files_spent le_rfl]

/-- The loop takes a front of the files, in order, each whole as read but the last, and of the later
ones nothing is due. -/
theorem cap_files_front (fileCap bundleCap : Int) (files : Mapping String (List Char)) (before : Nat) :
    ∃ taken, (capFiles bundleCap before (limited fileCap files)).map Prod.fst = (files.map Prod.fst).take taken ∧
      (capFiles bundleCap before (limited fileCap files)).map Prod.snd =
        (parts fileCap bundleCap before (files.map Prod.snd)).take taken ∧
      (∀ part ∈ (parts fileCap bundleCap before (files.map Prod.snd)).drop taken, part = []) ∧
      ∀ index, index + 1 < taken →
        (capFiles bundleCap before (limited fileCap files))[index]? = (limited fileCap files)[index]? := by
  induction files generalizing before with
  | nil => exact ⟨0, rfl, rfl, by simp [parts], by simp⟩
  | cons file files ih =>
      obtain ⟨path, text⟩ := file
      by_cases spent : bundleCap - before ≤ 0
      · rw [cap_files_spent (by omega)]
        refine ⟨0, rfl, rfl, ?_, ?_⟩
        · exact parts_spent _ (by omega)
        · intro index below
          omega
      by_cases whole : (readChars fileCap text).length ≤ bundleCap - before
      · -- the whole text is taken: the loop goes on
        have due : text.take (min (charsRead fileCap text) (bundleCap - before).toNat) = readChars fileCap text := by
          rw [read_chars_length] at whole
          rw [read_chars_take, Nat.min_eq_left (by omega)]
        rw [cap_files_whole path files spent whole]
        obtain ⟨taken, paths, contents, rest, uncut⟩ := ih (before + charsRead fileCap text)
        refine ⟨taken + 1, ?_, ?_, rest, ?_⟩
        · simp only [List.map_cons, List.take_succ_cons, paths]
        · simp only [List.map_cons, parts, List.take_succ_cons, due, contents]
        · intro index below
          cases index with
          | zero => rfl
          | succ index => exact uncut index (by omega)
      · -- the text is cut, and nothing is left
        have due : text.take (min (charsRead fileCap text) (bundleCap - before).toNat) =
            (readChars fileCap text).take (bundleCap - before).toNat := by
          rw [read_chars_take, List.take_take, min_comm]
        rw [cap_files_cut path files spent whole]
        refine ⟨1, rfl, ?_, ?_, ?_⟩
        · simp only [List.map_cons, List.map_nil, parts, List.take_succ_cons, List.take_zero, due]
        · intro part member
          rw [read_chars_length] at whole
          exact parts_spent _ (by push_cast; omega) part member
        · intro index below
          omega

section Candidates

variable {opened : List Char → Opened} {repoPath : String} {maxFiles : Int}

def wholeTexts (opened : List Char → Opened) (repoPath : String) (maxFiles : Int) (candidates : List Json) :
    Except Exn (Mapping String (List Char)) :=
  readCandidateFiles opened repoPath maxFiles (-1) candidates

theorem limited_set (limit : Int) (files : Mapping String (List Char)) (path : String) (text : List Char) :
    limited limit (Mapping.set files path text) = Mapping.set (limited limit files) path (readChars limit text) := by
  have keys : (limited limit files).map Prod.fst = files.map Prod.fst := by
    rw [limited, List.map_map]
    rfl
  unfold Mapping.set
  rw [keys]
  split
  · simp only [limited, List.map_map]
    apply List.map_congr_left
    intro item _
    by_cases here : item.1 = path
    · simp [here]
    · simp [here]
  · simp [limited]

theorem read_candidate_limited (limit : Int) (files : Mapping String (List Char)) (entry : Json) :
    readCandidate opened repoPath limit (limited limit files) entry =
      (readCandidate opened repoPath (-1) files entry).map (limited limit) := by
  unfold readCandidate
  cases entryPath entry with
  | error error => rfl
  | ok named =>
      cases named with
      | none => rfl
      | some fpath =>
          dsimp only
          cases validateCandidatePath repoPath.toList fpath.toList with
          | none => rfl
          | some fullPath =>
              dsimp only
              cases opened fullPath with
              | text decoded => exact congrArg Except.ok (limited_set limit files fpath decoded).symm
              | osError => rfl
              | raises error => rfl

theorem read_limited (limit : Int) (candidates : List Json) :
    readCandidateFiles opened repoPath maxFiles limit candidates =
      (wholeTexts opened repoPath maxFiles candidates).map (limited limit) := by
  unfold wholeTexts readCandidateFiles
  have held : ∀ (entries : List Json) (files : Mapping String (List Char)),
      entries.foldlM (readCandidate opened repoPath limit) (limited limit files) =
        (entries.foldlM (readCandidate opened repoPath (-1)) files).map (limited limit) := by
    intro entries
    induction entries with
    | nil =>
        intro files
        rfl
    | cons entry entries ih =>
        intro files
        rw [List.foldlM_cons, List.foldlM_cons, read_candidate_limited]
        cases readCandidate opened repoPath (-1) files entry with
        | error error => rfl
        | ok next => exact ih next
  exact held _ []

end Candidates

/-- What the claim asks of a bundle made from these texts. -/
structure Bounded (caps : Caps) (texts bundle : Mapping String (List Char)) : Prop where
  total : ((bundle.map fun file => bytes file.2).sum : Int) ≤ caps.bundleBytes
  each : ∀ file ∈ bundle, (bytes file.2 : Int) ≤ caps.fileBytes
  /-- A front of the files, each a front of its text, and only the last one shorter than its read. -/
  ordered : ∃ taken, bundle.map Prod.fst = (texts.map Prod.fst).take taken ∧
    (∀ (index : Nat) (file : String × List Char), bundle[index]? = some file → ∃ text, texts[index]? = some (file.1, text) ∧ file.2 <+: text) ∧
      ∀ index : Nat, index + 1 < taken → bundle[index]? = (limited caps.fileBytes texts)[index]?

/-- Every bundle that reaches the prompt is bounded. -/
def BundleLaw (opened : List Char → Opened) (repoPath : String) (caps : Caps) (candidates : List Json) : Prop :=
  ∀ texts bundle, wholeTexts opened repoPath caps.maxFiles candidates = .ok texts →
    fileBundle opened repoPath caps candidates = .ok bundle → bundle ≠ [] → Bounded caps texts bundle

theorem sum_nothing {measure : List Char → Nat} (nothing : measure [] = 0) {left : List (List Char)}
    (empty : ∀ part ∈ left, part = []) : (left.map measure).sum = 0 := by
  apply List.sum_eq_zero
  intro size member
  obtain ⟨part, listed, rfl⟩ := List.mem_map.mp member
  rw [empty part listed, nothing]

theorem sum_bytes (texts : List (List Char)) :
    (texts.map bytes).sum = (texts.map List.length).sum + (texts.map surplus).sum := by
  induction texts with
  | nil => rfl
  | cons text texts ih =>
      simp only [List.map_cons, List.sum_cons, ih, bytes_eq]
      omega

theorem part_front {fileCap bundleCap : Int} {texts : List (List Char)} {before index : Nat} {part : List Char}
    (due : (parts fileCap bundleCap before texts)[index]? = some part) :
    ∃ text, texts[index]? = some text ∧ part <+: text := by
  induction texts generalizing before index with
  | nil => cases due
  | cons text texts ih =>
      cases index with
      | zero =>
          obtain rfl := Option.some.inj due
          exact ⟨text, rfl, List.take_prefix _ _⟩
      | succ index => exact ih due

section Front

variable {bundle texts : Mapping String (List Char)} {all : List (List Char)} {front : Nat}

/-- What is measured of the bundle is measured of all parts: those behind the front are empty. -/
theorem front_sum {measure : List Char → Nat} (nothing : measure [] = 0)
    (contents : bundle.map Prod.snd = all.take front) (rest : ∀ part ∈ all.drop front, part = []) :
    (bundle.map fun file => measure file.2).sum = (all.map measure).sum := by
  have inner : (bundle.map fun file => measure file.2) = (all.take front).map measure := by
    rw [← contents, List.map_map]
    rfl
  have apart : (all.map measure).sum = ((all.take front).map measure).sum + ((all.drop front).map measure).sum := by
    rw [← List.sum_append, ← List.map_append, List.take_append_drop]
  rw [inner, apart, sum_nothing nothing rest, Nat.add_zero]

theorem front_at {Item Read : Type} {read : Item → Read} {items : List Item} {whole : List Read} {index : Nat}
    {item : Item} (same : items.map read = whole.take front) (held : items[index]? = some item) :
    whole[index]? = some (read item) := by
  have due := congrArg (fun items => items[index]?) same
  rw [List.getElem?_map, held] at due
  have below : index < front := by
    by_contra beyond
    rw [List.getElem?_take_eq_none (by omega)] at due
    cases due
  rw [List.getElem?_take_of_lt below] at due
  exact due.symm

theorem front_file {index : Nat} {file : String × List Char}
    (paths : bundle.map Prod.fst = (texts.map Prod.fst).take front)
    (contents : bundle.map Prod.snd = all.take front) (held : bundle[index]? = some file)
    (fronts : ∀ part, all[index]? = some part → ∃ text, (texts.map Prod.snd)[index]? = some text ∧ part <+: text) :
    ∃ text, texts[index]? = some (file.1, text) ∧ file.2 <+: text := by
  have named := front_at paths held
  obtain ⟨text, whole, front_of⟩ := fronts _ (front_at contents held)
  rw [List.getElem?_map] at named whole
  obtain ⟨item, found, same⟩ := Option.map_eq_some_iff.mp whole
  rw [found] at named
  refine ⟨text, ?_, front_of⟩
  rw [found]
  exact congrArg some (Prod.ext (Option.some.inj named) same)

end Front

theorem bounded_iff (caps : Caps) {texts : Mapping String (List Char)}
    (taken : capFiles caps.bundleBytes 0 (limited caps.fileBytes texts) ≠ []) :
    Bounded caps texts (capFiles caps.bundleBytes 0 (limited caps.fileBytes texts)) ↔
      PartsFit caps.fileBytes caps.bundleBytes (texts.map Prod.snd) := by
  have whole := cap_files_front caps.fileBytes caps.bundleBytes texts 0
  rw [Nat.cast_zero] at whole
  obtain ⟨front, paths, contents, rest, uncut⟩ := whole
  unfold PartsFit
  have fronts : ∀ index part, (parts caps.fileBytes caps.bundleBytes 0 (texts.map Prod.snd))[index]? = some part →
      ∃ text, (texts.map Prod.snd)[index]? = some text ∧ part <+: text := fun index part => part_front
  generalize capFiles caps.bundleBytes 0 (limited caps.fileBytes texts) = bundle at *
  generalize parts caps.fileBytes caps.bundleBytes 0 (texts.map Prod.snd) = all at *
  have bytes_sum : (bundle.map fun file => bytes file.2).sum =
      (all.map List.length).sum + (all.map surplus).sum := by
    rw [front_sum rfl contents rest, sum_bytes]
  constructor
  · intro bounded
    have total := bounded.total
    obtain ⟨first, present⟩ := List.exists_mem_of_ne_nil _ taken
    constructor
    · intro part member
      rw [← List.take_append_drop front all] at member
      rcases List.mem_append.mp member with member | member
      · rw [← contents] at member
        obtain ⟨file, held, rfl⟩ := List.mem_map.mp member
        have small := bounded.each file held
        rw [bytes_eq] at small
        push_cast at small
        omega
      · have small := bounded.each first present
        rw [rest part member]
        simp [surplus]
        omega
    · rw [bytes_sum] at total
      omega
  · rintro ⟨parts_fit, sum_fits⟩
    refine ⟨?_, ?_, front, paths, ?_, uncut⟩
    · rw [bytes_sum]
      omega
    · intro file member
      have due : file.2 ∈ all.take front := by
        rw [← contents]
        exact List.mem_map_of_mem member
      have small := parts_fit file.2 (List.mem_of_mem_take due)
      rw [bytes_eq]
      push_cast
      omega
    · intro index file held
      exact front_file paths contents held (fronts index)

def Ascii (text : List Char) : Prop := ∀ letter ∈ text, letter.utf8Size = 1

theorem ascii_iff (text : List Char) : Ascii text ↔ surplus text = 0 := by
  rw [surplus, List.sum_eq_zero_iff, List.forall_mem_map]
  apply forall₂_congr
  intro letter _
  have positive := letter.utf8Size_pos
  omega

theorem Ascii.bytes {text : List Char} (plain : Ascii text) : Pipeline.bytes text = text.length := by
  rw [bytes_eq, (ascii_iff text).mp plain, Nat.add_zero]

/-- Each file is within its cap, or a front of ASCII fills the cap; and with no more of each than the
cap, the files are within the bundle's. -/
def Small (fileCap bundleCap : Int) (texts : List (List Char)) : Prop :=
  (∀ text ∈ texts, (bytes text : Int) ≤ fileCap ∨ Ascii (text.take fileCap.toNat)) ∧
    ((texts.map fun text => min (bytes text) fileCap.toNat).sum : Int) ≤ bundleCap

/-- The files, each cut at the file cap, start with as many characters of ASCII as the bundle may have. -/
def Plain (fileCap bundleCap : Int) (texts : List (List Char)) : Prop :=
  Ascii ((texts.flatMap (List.take fileCap.toNat)).take bundleCap.toNat)

/-- The files whose bundle is within the caps: none, small ones, or plain ones. -/
def Fits (fileCap bundleCap : Int) (texts : List (List Char)) : Prop :=
  texts = [] ∨ bundleCap ≤ 0 ∨ 0 ≤ fileCap ∧ (Small fileCap bundleCap texts ∨ Plain fileCap bundleCap texts)

theorem surplus_append (first second : List Char) : surplus (first ++ second) = surplus first + surplus second := by
  rw [surplus, List.map_append, List.sum_append]
  rfl

theorem surplus_flatten (texts : List (List Char)) : surplus texts.flatten = (texts.map surplus).sum := by
  induction texts with
  | nil => rfl
  | cons text texts ih => rw [List.flatten_cons, surplus_append, ih, List.map_cons, List.sum_cons]

section Fitting

variable {fileCap bundleCap : Int}

theorem chars_read_bounded (bounded : 0 ≤ fileCap) (text : List Char) :
    charsRead fileCap text = (text.take fileCap.toNat).length := by
  rw [charsRead, if_neg (not_lt.mpr bounded), List.length_take, min_comm]

/-- In a row, the parts are what the bundle cap leaves of the cut files. -/
theorem parts_flatten (bounded : 0 ≤ fileCap) (texts : List (List Char)) (before : Nat) :
    (parts fileCap bundleCap before texts).flatten =
      (texts.flatMap (List.take fileCap.toNat)).take (bundleCap - before).toNat := by
  induction texts generalizing before with
  | nil => simp [parts]
  | cons text texts ih =>
      have size := chars_read_bounded bounded text
      have cut : text.take (min (charsRead fileCap text) (bundleCap - before).toNat) =
          (text.take fileCap.toNat).take (bundleCap - before).toNat := by
        rw [List.take_take, List.take_eq_take_iff, size, List.length_take]
        omega
      have left : (bundleCap - (before + charsRead fileCap text : Nat)).toNat =
          (bundleCap - before).toNat - (text.take fileCap.toNat).length := by
        rw [size]
        omega
      rw [parts, List.flatten_cons, ih, cut, left, List.flatMap_cons, List.take_append]

/-- Where the cut files are within the bundle cap, the parts are these. -/
theorem parts_whole (bounded : 0 ≤ fileCap) (texts : List (List Char)) (before : Nat)
    (room : (before + (texts.flatMap (List.take fileCap.toNat)).length : Int) ≤ bundleCap) :
    parts fileCap bundleCap before texts = texts.map (List.take fileCap.toNat) := by
  induction texts generalizing before with
  | nil => rfl
  | cons text texts ih =>
      have size := chars_read_bounded bounded text
      rw [List.flatMap_cons, List.length_append] at room
      push_cast at room
      have cut : text.take (min (charsRead fileCap text) (bundleCap - before).toNat) = text.take fileCap.toNat := by
        rw [List.take_eq_take_iff, size, List.length_take]
        rw [List.length_take] at room
        omega
      rw [parts, cut, List.map_cons, ih]
      rw [size]
      push_cast
      omega

theorem part_short (bounded : 0 ≤ fileCap) (texts : List (List Char)) (before : Nat) :
    ∀ part ∈ parts fileCap bundleCap before texts, (part.length : Int) ≤ fileCap := by
  induction texts generalizing before with
  | nil =>
      intro part member
      cases member
  | cons text texts ih =>
      intro part member
      rcases List.mem_cons.mp member with rfl | member
      · rw [List.length_take, charsRead, if_neg (by omega)]
        omega
      · exact ih _ part member

/-- A cut file is within the cap exactly if it is not cut or plain, and then has the bytes of the file, as
far as the cap goes. -/
theorem cut_fits_iff (bounded : 0 ≤ fileCap) (text : List Char) :
    (bytes (text.take fileCap.toNat) : Int) ≤ fileCap ↔
      (bytes text : Int) ≤ fileCap ∨ Ascii (text.take fileCap.toNat) := by
  have long := bytes_eq text
  by_cases whole : text.length ≤ fileCap.toNat
  · rw [List.take_of_length_le whole]
    constructor
    · exact .inl
    · intro either
      rcases either with within | plain
      · exact within
      · rw [plain.bytes]
        omega
  · have filled : (text.take fileCap.toNat).length = fileCap.toNat := by
      rw [List.length_take]
      omega
    have size := bytes_eq (text.take fileCap.toNat)
    rw [filled] at size
    rw [ascii_iff]
    omega

theorem cut_bytes (text : List Char)
    (within : (bytes text : Int) ≤ fileCap ∨ Ascii (text.take fileCap.toNat)) :
    bytes (text.take fileCap.toNat) = min (bytes text) fileCap.toNat := by
  have long := bytes_eq text
  by_cases whole : text.length ≤ fileCap.toNat
  · rw [List.take_of_length_le whole] at within ⊢
    rcases within with within | plain
    · omega
    · rw [plain.bytes]
      omega
  · have filled : (text.take fileCap.toNat).length = fileCap.toNat := by
      rw [List.length_take]
      omega
    rcases within with within | plain
    · omega
    · rw [plain.bytes, filled]
      omega

theorem parts_fit_small (bounded : 0 ≤ fileCap) (texts : List (List Char))
    (room : ((texts.flatMap (List.take fileCap.toNat)).length : Int) ≤ bundleCap) :
    PartsFit fileCap bundleCap texts ↔ Small fileCap bundleCap texts := by
  have whole : parts fileCap bundleCap 0 texts = texts.map (List.take fileCap.toNat) :=
    parts_whole bounded texts 0 (by omega)
  have each : (∀ part ∈ texts.map (List.take fileCap.toNat), (surplus part : Int) ≤ fileCap - part.length) ↔
      ∀ text ∈ texts, (bytes text : Int) ≤ fileCap ∨ Ascii (text.take fileCap.toNat) := by
    rw [List.forall_mem_map]
    apply forall₂_congr
    intro text _
    rw [← cut_fits_iff bounded, bytes_eq]
    omega
  unfold PartsFit Small
  rw [whole, each]
  apply and_congr_right
  intro within
  have total : (texts.map fun text => min (bytes text) fileCap.toNat).sum =
      ((texts.map (List.take fileCap.toNat)).map bytes).sum := by
    rw [List.map_map]
    congr 1
    apply List.map_congr_left
    intro text member
    exact (cut_bytes text (within text member)).symm
  rw [total, sum_bytes]
  omega

theorem parts_fit_plain (bounded : 0 ≤ fileCap) (fed : 0 < bundleCap) (texts : List (List Char))
    (full : bundleCap < (texts.flatMap (List.take fileCap.toNat)).length) :
    PartsFit fileCap bundleCap texts ↔ Plain fileCap bundleCap texts := by
  have row := @parts_flatten fileCap bundleCap bounded texts 0
  rw [Nat.cast_zero, Int.sub_zero] at row
  have filled : ((parts fileCap bundleCap 0 texts).map List.length).sum = bundleCap.toNat := by
    rw [← List.length_flatten, row, List.length_take]
    omega
  have plain : Plain fileCap bundleCap texts ↔ ((parts fileCap bundleCap 0 texts).map surplus).sum = 0 := by
    rw [Plain, ← row, ascii_iff, surplus_flatten]
  rw [plain]
  constructor
  · rintro ⟨_, total⟩
    rw [filled] at total
    omega
  · intro nothing
    constructor
    · intro part member
      have none_over : surplus part = 0 := List.sum_eq_zero_iff.mp nothing _ (List.mem_map_of_mem member)
      have short := part_short bounded texts 0 part member
      rw [none_over]
      omega
    · rw [nothing, filled]
      omega

theorem plain_small {texts : List (List Char)}
    (room : ((texts.flatMap (List.take fileCap.toNat)).length : Int) ≤ bundleCap)
    (plain : Plain fileCap bundleCap texts) : Small fileCap bundleCap texts := by
  rw [Plain, List.take_of_length_le (by omega)] at plain
  have each : ∀ text ∈ texts, Ascii (text.take fileCap.toNat) := by
    intro text member letter listed
    exact plain letter (List.mem_flatMap.mpr ⟨text, member, listed⟩)
  constructor
  · intro text member
    exact .inr (each text member)
  · have total : (texts.map fun text => min (bytes text) fileCap.toNat).sum =
        (texts.flatMap (List.take fileCap.toNat)).length := by
      rw [List.length_flatMap]
      congr 1
      apply List.map_congr_left
      intro text member
      rw [← cut_bytes text (.inr (each text member)), (each text member).bytes]
    rw [total]
    exact room

theorem small_room {texts : List (List Char)} (small : Small fileCap bundleCap texts) :
    ((texts.flatMap (List.take fileCap.toNat)).length : Int) ≤ bundleCap := by
  obtain ⟨-, total⟩ := small
  have shorter : (texts.flatMap (List.take fileCap.toNat)).length ≤
      (texts.map fun text => min (bytes text) fileCap.toNat).sum := by
    rw [List.length_flatMap]
    apply List.sum_le_sum
    intro text _
    have long := bytes_eq text
    rw [List.length_take]
    omega
  omega

theorem parts_fit_iff (bounded : 0 ≤ fileCap) (fed : 0 < bundleCap) (texts : List (List Char)) :
    PartsFit fileCap bundleCap texts ↔ Small fileCap bundleCap texts ∨ Plain fileCap bundleCap texts := by
  by_cases room : ((texts.flatMap (List.take fileCap.toNat)).length : Int) ≤ bundleCap
  · rw [parts_fit_small bounded texts room]
    constructor
    · exact .inl
    · rintro (small | plain)
      · exact small
      · exact plain_small room plain
  · rw [parts_fit_plain bounded fed texts (by omega)]
    constructor
    · exact .inr
    · rintro (small | plain)
      · exact absurd (small_room small) room
      · exact plain

theorem parts_fit_bounded {texts : List (List Char)} (some_text : texts ≠ [])
    (fit : PartsFit fileCap bundleCap texts) : 0 ≤ fileCap := by
  obtain ⟨each, -⟩ := fit
  cases texts with
  | nil => exact absurd rfl some_text
  | cons text texts =>
      have first := each _ List.mem_cons_self
      omega

end Fitting

theorem file_bundle_of {opened : List Char → Opened} {repoPath : String} {caps : Caps} {candidates : List Json}
    {texts : Mapping String (List Char)} (whole : wholeTexts opened repoPath caps.maxFiles candidates = .ok texts) :
    fileBundle opened repoPath caps candidates =
      .ok (capFiles caps.bundleBytes 0 (limited caps.fileBytes texts)) := by
  rw [fileBundle, read_limited, whole]
  rfl

theorem bundle_filled {caps : Caps} {texts : Mapping String (List Char)} (some_file : texts ≠ [])
    (fed : ¬caps.bundleBytes ≤ 0) : capFiles caps.bundleBytes 0 (limited caps.fileBytes texts) ≠ [] := by
  cases texts with
  | nil => exact absurd rfl some_file
  | cons file texts => simp [limited, capFiles, fed]

/-- Every bundle is bounded exactly when the files fit. -/
theorem bundle_law_iff (opened : List Char → Opened) (repoPath : String) (caps : Caps) (candidates : List Json) :
    BundleLaw opened repoPath caps candidates ↔
      ∀ texts, wholeTexts opened repoPath caps.maxFiles candidates = .ok texts →
        Fits caps.fileBytes caps.bundleBytes (texts.map Prod.snd) := by
  constructor
  · intro law texts whole
    by_cases nothing : texts = []
    · exact .inl (by rw [nothing]; rfl)
    by_cases spent : caps.bundleBytes ≤ 0
    · exact .inr (.inl spent)
    have taken := bundle_filled nothing spent
    have fit := (bounded_iff caps taken).mp (law texts _ whole (file_bundle_of whole) taken)
    have some_text : texts.map Prod.snd ≠ [] := by
      rw [Ne, List.map_eq_nil_iff]
      exact nothing
    have bounded := parts_fit_bounded some_text fit
    exact .inr (.inr ⟨bounded, (parts_fit_iff bounded (not_le.mp spent) _).mp fit⟩)
  · intro fits texts bundle whole built taken
    rw [file_bundle_of whole] at built
    obtain rfl := Except.ok.inj built
    apply (bounded_iff caps taken).mpr
    rcases fits texts whole with nothing | spent | ⟨bounded, fit⟩
    · rw [List.map_eq_nil_iff.mp nothing] at taken
      exact absurd rfl taken
    · exact absurd (cap_files_spent spent _) taken
    · have fed : 0 < caps.bundleBytes := by
        by_contra spent
        exact taken (cap_files_spent (not_lt.mp spent) _)
      exact (parts_fit_iff bounded fed _).mpr fit

/-- A file of one accented letter is over both caps, at one byte each. -/
theorem accented_file_over :
    (fileBundle (fun _ => .text ['é']) "/repo" ⟨3, 1, 1⟩ [.obj [("path", .str "f")]] = .ok [("f", ['é'])] ∧
      bytes ['é'] = 2) ∧
      ¬BundleLaw (fun _ => .text ['é']) "/repo" ⟨3, 1, 1⟩ [.obj [("path", .str "f")]] := by
  refine ⟨⟨rfl, rfl⟩, ?_⟩
  intro law
  have bounded := law [("f", ['é'])] [("f", ['é'])] rfl rfl (List.cons_ne_nil _ _)
  have total : (2 : Int) ≤ 1 := bounded.total
  omega

end Bugalizer.Pipeline
