import Bugalizer.Pipeline.CandidateFiles
import Bugalizer.Store.Links

/-!
# Which files are read

A candidate's path is checked as a text and then opened through the file system, which follows
links.
-/

namespace Bugalizer.Pipeline

set_option autoImplicit false

open Store Bugalizer.Text

/-- A component, as the file system reads it. -/
def hopOf (component : List Char) : Option (Hop (List Char)) :=
  if component = [] ∨ component = dot then none
  else if component = dotDot then some .up
  else some (.down component)

def hopsOf (path : List Char) : List (Hop (List Char)) := (split '/' path).filterMap hopOf

def namesOf (path : List Char) : List (List Char) :=
  (split '/' path).filter fun component => component ≠ [] ∧ component ≠ dot

theorem split_slashes (count : Nat) (path : List Char) :
    split '/' (List.replicate count '/' ++ path) = List.replicate count [] ++ split '/' path := by
  induction count with
  | zero => rfl
  | succ count ih => rw [List.replicate_succ, List.cons_append, split_separator, ih]; rfl

theorem hops_slashes (count : Nat) (path : List Char) :
    hopsOf (List.replicate count '/' ++ path) = hopsOf path := by
  unfold hopsOf
  rw [split_slashes, List.filterMap_append]
  have blank : (List.replicate count ([] : List Char)).filterMap hopOf = [] := by
    rw [List.filterMap_eq_nil_iff]
    intro component member
    rw [List.eq_of_mem_replicate member]
    rfl
  rw [blank, List.nil_append]

/-- A component that `normpath` keeps. -/
def Kept (component : List Char) : Prop := component ≠ [] ∧ component ≠ dot ∧ '/' ∉ component

theorem part_free (path : List Char) : ∀ part ∈ split '/' path, '/' ∉ part := by
  induction path using part_induction '/' with
  | last line free =>
      rw [split_free free]
      intro part member
      rw [List.mem_singleton.mp member]
      exact free
  | next line rest free ih =>
      rw [split_append free]
      intro part member
      rcases List.mem_cons.mp member with rfl | member
      · exact free
      · exact ih part member

theorem push_kept {rooted : Bool} {components : List (List Char)} (kept : ∀ part ∈ components, Kept part)
    {component : List Char} (free : '/' ∉ component) : ∀ part ∈ pushComponent rooted components component, Kept part := by
  unfold pushComponent
  split
  · exact kept
  · rename_i named
    rw [not_or] at named
    split
    · intro part member
      rcases List.mem_cons.mp member with rfl | member
      · exact ⟨named.1, named.2, free⟩
      · exact kept part member
    · intro part member
      exact kept part (List.mem_of_mem_tail member)

theorem fold_kept {rooted : Bool} (parts : List (List Char)) (free : ∀ part ∈ parts, '/' ∉ part)
    {start : List (List Char)} (kept : ∀ part ∈ start, Kept part) :
    ∀ part ∈ parts.foldl (pushComponent rooted) start, Kept part := by
  induction parts generalizing start with
  | nil => exact kept
  | cons part parts ih =>
      obtain ⟨first, others⟩ := List.forall_mem_cons.mp free
      exact ih others (push_kept kept first)

theorem components_kept (path : List Char) : ∀ part ∈ components path, Kept part := by
  intro part member
  rw [components, List.mem_reverse] at member
  exact fold_kept _ (part_free path) (by intro part nothing; cases nothing) part member

theorem split_intercalate {parts : List (List Char)} (some_part : parts ≠ []) (free : ∀ part ∈ parts, '/' ∉ part) :
    split '/' (['/'].intercalate parts) = parts := by
  induction parts with
  | nil => exact absurd rfl some_part
  | cons part parts ih =>
      obtain ⟨first, others⟩ := List.forall_mem_cons.mp free
      cases parts with
      | nil => rw [List.intercalate_singleton, split_free first]
      | cons next parts =>
          rw [List.intercalate_cons_cons, List.append_assoc, List.singleton_append, split_append first,
            ih (List.cons_ne_nil _ _) others]

theorem hops_normpath (path : List Char) : hopsOf (normpath path) = (components path).filterMap hopOf := by
  have joined : hopsOf (List.replicate (initialSlashes path) '/' ++ ['/'].intercalate (components path)) =
      (components path).filterMap hopOf := by
    rw [hops_slashes]
    by_cases some_part : components path = []
    · rw [some_part]
      rfl
    · unfold hopsOf
      rw [split_intercalate some_part fun part member => (components_kept path part member).2.2]
  unfold normpath
  dsimp only
  split
  · rename_i nothing
    rw [nothing] at joined
    rw [← joined]
    rfl
  · exact joined

theorem fold_names {rooted : Bool} (parts : List (List Char)) (plain : dotDot ∉ parts)
    (start : List (List Char)) :
    parts.foldl (pushComponent rooted) start =
      (parts.filter fun component => component ≠ [] ∧ component ≠ dot).reverse ++ start := by
  induction parts generalizing start with
  | nil => rfl
  | cons part parts ih =>
      rw [List.mem_cons, not_or] at plain
      rw [List.foldl_cons, ih plain.2]
      by_cases named : part = [] ∨ part = dot
      · have skipped : ¬(part ≠ [] ∧ part ≠ dot) := by
          rintro ⟨filled, other⟩
          exact named.elim filled other
        rw [pushComponent, if_pos named, List.filter_cons_of_neg (by simpa using skipped)]
      · have pushed : part ≠ [] ∧ part ≠ dot := not_or.mp named
        rw [pushComponent, if_neg named, if_pos (.inl (Ne.symm plain.1)),
          List.filter_cons_of_pos (by simpa using pushed), List.reverse_cons, List.append_assoc]
        rfl

theorem slashed_dot_dot {path : List Char} (member : dotDot ∈ split '/' path) :
    dotDot ∈ split '/' (slashed path) := by
  induction path using part_induction '/' with
  | last line free =>
      rw [split_free free] at member
      rw [← List.mem_singleton.mp member]
      decide
  | next line rest free ih =>
      rw [split_append free] at member
      have shape : slashed (line ++ '/' :: rest) = slashed line ++ '/' :: slashed rest := by
        simp [slashed]
      rw [shape, split_between, List.mem_append]
      rcases List.mem_cons.mp member with rfl | member
      · left
        decide
      · exact .inr (ih member)

section Root

variable {repoPath fpath : List Char}

theorem join_rooted (relative : fpath.head? ≠ some '/') :
    (joinPath repoPath fpath).head? = some '/' ↔ repoPath.head? = some '/' := by
  unfold joinPath
  rw [if_neg relative]
  cases repoPath with
  | nil => simp [relative]
  | cons letter rest =>
      split <;> simp

theorem components_join (relative : fpath.head? ≠ some '/') (plain : dotDot ∉ split '/' fpath) :
    components (joinPath repoPath fpath) = components repoPath ++ namesOf fpath := by
  have rooted := @join_rooted repoPath fpath relative
  have parts : ∀ start, (split '/' (joinPath repoPath fpath)).foldl
      (pushComponent (decide (repoPath.head? = some '/'))) start =
        (split '/' fpath).foldl (pushComponent (decide (repoPath.head? = some '/')))
          ((split '/' repoPath).foldl (pushComponent (decide (repoPath.head? = some '/'))) start) := by
    intro start
    unfold joinPath
    rw [if_neg relative]
    split
    · rename_i ended
      rcases ended with rfl | last
      · rfl
      · obtain ⟨front, rfl⟩ := List.getLast?_eq_some_iff.mp last
        rw [List.append_assoc, List.singleton_append, split_between, split_between, List.foldl_append,
          List.foldl_append]
        rfl
    · rw [split_between, List.foldl_append]
  unfold components
  rw [decide_eq_decide.mpr rooted, parts, fold_names _ plain, List.reverse_append, List.reverse_reverse]
  rfl

theorem normpath_rooted (path : List Char) : (normpath path).head? = some '/' ↔ path.head? = some '/' := by
  have first : (['/'].intercalate (components path)).head? ≠ some '/' := by
    have kept := components_kept path
    generalize components path = parts at kept ⊢
    cases parts with
    | nil => simp
    | cons part parts =>
        obtain ⟨filled, -, free⟩ := kept part List.mem_cons_self
        obtain ⟨letter, rest, rfl⟩ := List.exists_cons_of_ne_nil filled
        have apart : letter ≠ '/' := by
          rintro rfl
          exact free List.mem_cons_self
        cases parts with
        | nil => simpa using apart
        | cons next parts => simpa [List.intercalate_cons_cons] using apart
  unfold normpath
  dsimp only
  by_cases rooted : path.head? = some '/'
  · obtain ⟨count, slashes⟩ : ∃ count, initialSlashes path = count + 1 := by
      unfold initialSlashes
      rw [if_pos rooted]
      split
      · exact ⟨1, rfl⟩
      · exact ⟨0, rfl⟩
    rw [slashes, List.replicate_succ, List.cons_append, if_neg (List.cons_ne_nil _ _)]
    simp [rooted]
  · have slashes : initialSlashes path = 0 := if_neg rooted
    rw [slashes, List.replicate_zero, List.nil_append]
    split
    · simp [dot, rooted]
    · simp [first, rooted]

abbrev Files := Tree (List Char) (List Char)

def linkLimit : Nat := 40

/-- Where a path leads. -/
def resolve (tree : Files) (cwd : Location (List Char)) (path : List Char) :
    Option (Location (List Char) × Nat) :=
  tree.walk linkLimit (if path.head? = some '/' then [] else cwd) (hopsOf path)

/-- `open` and the decoding; a zero in a path is a `ValueError`. -/
def opening (tree : Files) (cwd : Location (List Char)) (path : List Char) : Opened :=
  if Char.ofNat 0 ∈ path then .raises (.plain "ValueError" "embedded null byte")
  else
    match resolve tree cwd path with
    | none => .osError
    | some (place, _) =>
        match tree place with
        | some (.file text) => .text text
        | _ => .osError

theorem opening_text {tree : Files} {cwd : Location (List Char)} {path text : List Char}
    (opened : opening tree cwd path = .text text) :
    ∃ reached, resolve tree cwd path = some reached ∧ tree reached.1 = some (.file text) := by
  unfold opening at opened
  split at opened
  · cases opened
  · split at opened
    · cases opened
    · rename_i place left resolved
      split at opened
      · rename_i found stands
        cases opened
        exact ⟨(place, left), resolved, stands⟩
      · cases opened

theorem valid_path {fullPath : List Char} (valid : validateCandidatePath repoPath fpath = some fullPath) :
    fullPath = normpath (joinPath repoPath fpath) ∧ fpath.head? ≠ some '/' ∧ dotDot ∉ split '/' fpath := by
  unfold validateCandidatePath at valid
  split at valid
  · cases valid
  · rename_i relative
    split at valid
    · cases valid
    · rename_i plain
      dsimp only at valid
      split at valid
      · cases valid
      · refine ⟨(Option.some.inj valid).symm, ?_, ?_⟩
        · intro rooted
          exact relative (.inr rooted)
        · intro member
          exact plain (List.contains_iff_mem.mpr (slashed_dot_dot member))

/-- An accepted path goes through the root and then down its own names. -/
theorem resolve_valid {tree : Files} {cwd : Location (List Char)} {fullPath : List Char}
    (valid : validateCandidatePath repoPath fpath = some fullPath) :
    resolve tree cwd fullPath =
      (resolve tree cwd (normpath repoPath)).bind fun root =>
        tree.walk root.2 root.1 ((namesOf fpath).map .down) := by
  obtain ⟨rfl, relative, plain⟩ := valid_path valid
  have downs : (namesOf fpath).filterMap hopOf = (namesOf fpath).map .down := by
    rw [← List.filterMap_eq_map]
    apply List.filterMap_congr
    intro name member
    obtain ⟨part, named⟩ := List.mem_filter.mp member
    have kept : name ≠ [] ∧ name ≠ dot := of_decide_eq_true named
    have other : name ≠ dotDot := by
      rintro rfl
      exact plain part
    rw [hopOf, if_neg (by rintro (nothing | same); exact kept.1 nothing; exact kept.2 same), if_neg other]
    rfl
  have starts : (normpath (joinPath repoPath fpath)).head? = some '/' ↔ (normpath repoPath).head? = some '/' := by
    rw [normpath_rooted, normpath_rooted, join_rooted relative]
  unfold resolve
  rw [hops_normpath, components_join relative plain, List.filterMap_append, downs, ← hops_normpath, Tree.walk_append]
  simp only [starts]

/-- A link below the root leads a path out of it, and no later one leads it back. -/
def Escapes (tree : Files) (cwd : Location (List Char)) (repoPath fpath : List Char) : Prop :=
  ∃ root, resolve tree cwd (normpath repoPath) = some root ∧
    ∃ start rest, tree.lastJump root.2 root.1 ((namesOf fpath).map .down) = some (start, rest) ∧
      ¬ root.1 <+: straight start rest

/-- The path reads a file under the resolved root. -/
def Contained (tree : Files) (cwd : Location (List Char)) (repoPath fpath text : List Char) : Prop :=
  ∃ fullPath reached root, validateCandidatePath repoPath fpath = some fullPath ∧
    resolve tree cwd fullPath = some reached ∧ tree reached.1 = some (.file text) ∧
      resolve tree cwd (normpath repoPath) = some root ∧ root.1 <+: reached.1

end Root

theorem contained_iff {tree : Files} {cwd : Location (List Char)} {repoPath fpath : String} {text : List Char}
    (reads : Reads (opening tree cwd) repoPath fpath text) :
    Contained tree cwd repoPath.toList fpath.toList text ↔ ¬ Escapes tree cwd repoPath.toList fpath.toList := by
  obtain ⟨fullPath, valid, opened⟩ := reads
  obtain ⟨reached, resolved, stands⟩ := opening_text opened
  have through := resolved
  rw [resolve_valid valid] at through
  obtain ⟨root, rooted, walked⟩ := Option.bind_eq_some_iff.mp through
  have landed := Tree.walk_lands walked
  have inside : root.1 <+: reached.1 ↔ ¬ Escapes tree cwd repoPath.toList fpath.toList := by
    cases jumped : tree.lastJump root.2 root.1 ((namesOf fpath.toList).map .down) with
    | none =>
        rw [jumped] at landed
        dsimp only at landed
        rw [landed, straight_down]
        refine iff_of_true (List.prefix_append _ _) ?_
        rintro ⟨other, named, start, rest, last, -⟩
        obtain rfl := Option.some.inj (rooted.symm.trans named)
        rw [jumped] at last
        cases last
    | some jump =>
        obtain ⟨start, rest⟩ := jump
        rw [jumped] at landed
        dsimp only at landed
        rw [landed]
        constructor
        · rintro under ⟨other, named, start', rest', last, outside⟩
          obtain rfl := Option.some.inj (rooted.symm.trans named)
          rw [jumped] at last
          obtain ⟨rfl, rfl⟩ := Prod.mk.inj (Option.some.inj last)
          exact outside under
        · intro stays
          by_contra outside
          exact stays ⟨root, rooted, start, rest, jumped, outside⟩
  rw [← inside]
  constructor
  · rintro ⟨other, there, base, valid', resolved', -, rooted', under⟩
    obtain rfl := Option.some.inj (valid.symm.trans valid')
    obtain rfl := Option.some.inj (resolved.symm.trans resolved')
    obtain rfl := Option.some.inj (rooted.symm.trans rooted')
    exact under
  · intro under
    exact ⟨fullPath, reached, root, valid, resolved, stands, rooted, under⟩

/-- Every content that is read is that of a file under the root. -/
def ContainmentLaw (tree : Files) (cwd : Location (List Char)) (repoPath : String) (maxFiles maxChars : Int)
    (candidates : List Json) : Prop :=
  ∀ files, readCandidateFiles (opening tree cwd) repoPath maxFiles maxChars candidates = .ok files →
    ∀ file ∈ files, ∃ text, file.2 = readChars maxChars text ∧
      Contained tree cwd repoPath.toList file.1.toList text

/-- The law holds exactly when no candidate that is read escapes through a link, or one raises. -/
theorem containment_law_iff (tree : Files) (cwd : Location (List Char)) (repoPath : String)
    (maxFiles maxChars : Int) (candidates : List Json) :
    ContainmentLaw tree cwd repoPath maxFiles maxChars candidates ↔
      (∃ entry ∈ upTo maxFiles candidates, ∃ error, candidateText (opening tree cwd) repoPath entry = .error error) ∨
        ∀ entry ∈ upTo maxFiles candidates, ∀ fpath text,
          candidateText (opening tree cwd) repoPath entry = .ok (some (fpath, text)) →
            ¬ Escapes tree cwd repoPath.toList fpath.toList := by
  constructor
  · intro law
    by_cases raising : ∃ entry ∈ upTo maxFiles candidates, ∃ error,
        candidateText (opening tree cwd) repoPath entry = .error error
    · exact .inl raising
    · refine .inr ?_
      intro entry listed fpath text found
      have all_read : ∀ entry ∈ upTo maxFiles candidates, ∃ found,
          candidateText (opening tree cwd) repoPath entry = .ok found := by
        intro entry listed
        cases outcome : candidateText (opening tree cwd) repoPath entry with
        | error error => exact absurd ⟨entry, listed, error, outcome⟩ raising
        | ok found => exact ⟨found, rfl⟩
      have total : ∃ files, readCandidateFiles (opening tree cwd) repoPath maxFiles maxChars candidates = .ok files :=
        (read_loop_ok_iff _ []).mpr all_read
      obtain ⟨files, read⟩ := total
      have present := (read_loop_keys _ read fpath).mpr (.inr ⟨entry, listed, text, found⟩)
      obtain ⟨file, member, rfl⟩ := List.mem_map.mp present
      obtain ⟨whole, -, contained⟩ := law files read file member
      have reads := candidate_text_reads found
      obtain ⟨fullPath, valid, opened⟩ := reads
      obtain ⟨reached, resolved, stands⟩ := opening_text opened
      obtain ⟨other, there, root, valid', resolved', stands', rooted, under⟩ := contained
      obtain rfl := Option.some.inj (valid.symm.trans valid')
      obtain rfl := Option.some.inj (resolved.symm.trans resolved')
      exact (contained_iff ⟨fullPath, valid, opened⟩).mp
        ⟨fullPath, reached, root, valid, resolved, stands, rooted, under⟩
  · intro stay files read file member
    obtain ⟨text, reads, content⟩ := read_candidates_mem read file member
    refine ⟨text, content, (contained_iff reads).mpr ?_⟩
    rcases stay with ⟨entry, listed, error, raised⟩ | stay
    · obtain ⟨found, outcome⟩ := (read_loop_ok_iff _ _).mp ⟨files, read⟩ entry listed
      rw [raised] at outcome
      cases outcome
    · rcases (read_loop_keys _ read file.1).mp (List.mem_map_of_mem member) with nothing | ⟨entry, listed, whole, found⟩
      · cases nothing
      · exact stay entry listed file.1 whole found

/-- The repository holds a link to a file beside it. -/
def linkedTree : Files := fun place =>
  if place = [] ∨ place = ["repo".toList] ∨ place = ["etc".toList] then some .directory
  else if place = ["repo".toList, "notes".toList] then some (.link true [.down "etc".toList, .down "key".toList])
  else if place = ["etc".toList, "key".toList] then some (.file "secret".toList)
  else none

theorem host_file_read :
    readCandidateFiles (opening linkedTree []) "/repo" 3 8000 [.obj [("path", .str "notes")]] =
        .ok [("notes", "secret".toList)] ∧
      resolve linkedTree [] "/repo/notes".toList = some (["etc".toList, "key".toList], 39) ∧
        resolve linkedTree [] "/repo".toList = some (["repo".toList], 40) := by
  refine ⟨rfl, ?_, ?_⟩ <;> decide +kernel

end Bugalizer.Pipeline
