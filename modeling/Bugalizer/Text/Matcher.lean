import Mathlib

/-!
# Backtracking matchers

A matcher takes something off the front of a text in every way it can and lists the ways in
the order a backtracking engine tries them; the first way is the match. The alphabet is any.
-/

namespace Bugalizer.Text

set_option autoImplicit false

variable {Letter First Second : Type}

/-- The ways to match, each with what is left of the text. -/
abbrev Matcher (Letter Result : Type) := StateT (List Letter) List Result

namespace Matcher

def matched (matcher : Matcher Letter First) (text : List Letter) : Option First :=
  (matcher text).head?.map Prod.fst

def literal [DecidableEq Letter] (word : List Letter) : Matcher Letter Unit := fun text =>
  if word <+: text then [((), text.drop word.length)] else []

/-- `[..]*`, the longest run first. -/
def many (allowed : Letter → Bool) : Matcher Letter (List Letter)
  | [] => [([], [])]
  | letter :: rest =>
      (if allowed letter then (many allowed rest).map (Prod.map (letter :: ·) id) else []) ++
        [([], letter :: rest)]

/-- `[..]*?`, the shortest run first. -/
def few (allowed : Letter → Bool) : Matcher Letter (List Letter)
  | [] => [([], [])]
  | letter :: rest =>
      ([], letter :: rest) ::
        if allowed letter then (few allowed rest).map (Prod.map (letter :: ·) id) else []

/-- `[..]+`, from the ways to match `[..]*`. -/
def nonempty (run : Matcher Letter (List Letter)) : Matcher Letter (List Letter) := fun text =>
  (run text).filter fun way => way.1 ≠ []

/-- `(..)?`. -/
def optionally (matcher : Matcher Letter Unit) : Matcher Letter Unit := fun text =>
  matcher text ++ [((), text)]

/-- `$`, which also matches before one last `newline`. -/
def stop [DecidableEq Letter] (newline : Letter) : Matcher Letter Unit := fun text =>
  if text = [] ∨ text = [newline] then [((), text)] else []

/-- `$` under `re.MULTILINE`. -/
def lineStop [DecidableEq Letter] (newline : Letter) : Matcher Letter Unit := fun text =>
  if text = [] ∨ text.head? = some newline then [((), text)] else []

/-- The texts after each `newline`. -/
def laterLines [DecidableEq Letter] (newline : Letter) : List Letter → List (List Letter)
  | [] => []
  | letter :: rest => if letter = newline then rest :: laterLines newline rest else laterLines newline rest

/-- `re.search` of a pattern that begins with `^` under `re.MULTILINE`. -/
def searched [DecidableEq Letter] (newline : Letter) (matcher : Matcher Letter First) (text : List Letter) :
    Option First :=
  (text :: laterLines newline text).findSome? matcher.matched

variable {text rest : List Letter}

theorem mem_pure {value result : First} : (value, rest) ∈ (pure result : Matcher Letter First) text ↔
    value = result ∧ rest = text := by
  change (value, rest) ∈ [(result, text)] ↔ _
  rw [List.mem_singleton, Prod.mk.injEq]

theorem bind_ways (matcher : Matcher Letter First) (next : First → Matcher Letter Second)
    (text : List Letter) :
    (matcher >>= next) text = (matcher text).flatMap fun way => next way.1 way.2 := rfl

theorem mem_bind {matcher : Matcher Letter First} {next : First → Matcher Letter Second}
    {value : Second} : (value, rest) ∈ (matcher >>= next) text ↔
      ∃ first middle, (first, middle) ∈ matcher text ∧ (value, rest) ∈ next first middle := by
  rw [bind_ways, List.mem_flatMap]
  constructor
  · rintro ⟨⟨first, middle⟩, before, after⟩
    exact ⟨first, middle, before, after⟩
  · rintro ⟨first, middle, before, after⟩
    exact ⟨(first, middle), before, after⟩

variable {allowed : Letter → Bool}

theorem mem_literal [DecidableEq Letter] {word : List Letter} {value : Unit} :
    (value, rest) ∈ literal word text ↔ text = word ++ rest := by
  unfold literal
  split
  · rename_i front
    obtain ⟨after, rfl⟩ := front
    simp [eq_comm]
  · rename_i other
    constructor
    · intro way
      cases way
    · rintro rfl
      exact absurd (List.prefix_append word rest) other

theorem mem_many {taken : List Letter} : (taken, rest) ∈ many allowed text ↔
    text = taken ++ rest ∧ ∀ letter ∈ taken, allowed letter = true := by
  induction text generalizing taken with
  | nil =>
      constructor
      · intro way
        obtain ⟨rfl, rfl⟩ := Prod.mk.inj (List.mem_singleton.mp way)
        simp
      · rintro ⟨same, -⟩
        obtain ⟨rfl, rfl⟩ := List.append_eq_nil_iff.mp same.symm
        exact List.mem_singleton.mpr rfl
  | cons letter text ih =>
      cases taken with
      | nil =>
          simp only [many, List.mem_append, List.mem_singleton, Prod.mk.injEq, true_and, List.nil_append,
            List.not_mem_nil, false_implies, implies_true, and_true]
          constructor
          · rintro (way | rfl)
            · split at way
              · obtain ⟨inner, -, same⟩ := List.mem_map.mp way
                cases (Prod.mk.inj same).1
              · cases way
            · rfl
          · rintro rfl
            exact .inr rfl
      | cons head taken =>
          by_cases known : allowed letter = true
          · simp only [many, if_pos known, List.mem_append, List.mem_map, List.mem_singleton, Prod.exists,
              Prod.map_apply, id_eq, Prod.mk.injEq, List.cons.injEq, reduceCtorEq, false_and, or_false,
              List.cons_append, List.forall_mem_cons]
            constructor
            · rintro ⟨run, left, way, ⟨rfl, rfl⟩, rfl⟩
              obtain ⟨rfl, all⟩ := ih.mp way
              exact ⟨⟨rfl, rfl⟩, known, all⟩
            · rintro ⟨⟨rfl, same⟩, -, all⟩
              exact ⟨taken, rest, ih.mpr ⟨same, all⟩, ⟨rfl, rfl⟩, rfl⟩
          · simp only [many, if_neg known, List.nil_append, List.mem_singleton, Prod.mk.injEq, reduceCtorEq,
              false_and, List.cons_append, List.cons.injEq, List.forall_mem_cons, false_iff]
            rintro ⟨⟨rfl, -⟩, here, -⟩
            exact known here

theorem few_perm (text : List Letter) : (few allowed text).Perm (many allowed text) := by
  induction text with
  | nil => exact List.Perm.refl _
  | cons letter text ih =>
      by_cases known : allowed letter = true
      · simp only [few, many, if_pos known]
        exact ((ih.map _).cons _).trans (List.perm_append_singleton _ _).symm
      · simp only [few, many, if_neg known]
        exact List.Perm.refl _

theorem mem_few {taken : List Letter} : (taken, rest) ∈ few allowed text ↔
    text = taken ++ rest ∧ ∀ letter ∈ taken, allowed letter = true :=
  (few_perm text).mem_iff.trans mem_many

theorem mem_nonempty {run : Matcher Letter (List Letter)} {taken : List Letter} :
    (taken, rest) ∈ nonempty run text ↔ (taken, rest) ∈ run text ∧ taken ≠ [] := by
  simp [nonempty]

theorem mem_optionally {matcher : Matcher Letter Unit} {value : Unit} :
    (value, rest) ∈ optionally matcher text ↔ (value, rest) ∈ matcher text ∨ rest = text := by
  simp [optionally]

theorem mem_optional_bind [DecidableEq Letter] {word : List Letter} {next : Matcher Letter Second}
    {value : Second} : (value, rest) ∈ (optionally (literal word) >>= fun _ => next) text ↔
      (∃ after, text = word ++ after ∧ (value, rest) ∈ next after) ∨ (value, rest) ∈ next text := by
  rw [mem_bind]
  constructor
  · rintro ⟨first, middle, front, way⟩
    rcases mem_optionally.mp front with front | rfl
    · exact .inl ⟨middle, mem_literal.mp front, way⟩
    · exact .inr way
  · rintro (⟨after, same, way⟩ | way)
    · exact ⟨(), after, mem_optionally.mpr (.inl (mem_literal.mpr same)), way⟩
    · exact ⟨(), text, mem_optionally.mpr (.inr rfl), way⟩

theorem ways_exist {matcher : Matcher Letter First} :
    matcher text ≠ [] ↔ ∃ value rest, (value, rest) ∈ matcher text := by
  rw [List.ne_nil_iff_exists_cons]
  constructor
  · rintro ⟨⟨value, rest⟩, ways, listed⟩
    exact ⟨value, rest, by rw [listed]; exact List.mem_cons_self⟩
  · rintro ⟨value, rest, way⟩
    exact List.exists_cons_of_ne_nil (List.ne_nil_of_mem way)

theorem mem_stop [DecidableEq Letter] {newline : Letter} {value : Unit} : (value, rest) ∈ stop newline text ↔
    (text = [] ∨ text = [newline]) ∧ rest = text := by
  unfold stop
  split <;> rename_i here <;> simp [here]

theorem mem_line_stop [DecidableEq Letter] {newline : Letter} {value : Unit} : (value, rest) ∈ lineStop newline text ↔
    (text = [] ∨ text.head? = some newline) ∧ rest = text := by
  unfold lineStop
  split <;> rename_i here <;> simp [here]

theorem matched_mem {matcher : Matcher Letter First} {value : First}
    (found : matcher.matched text = some value) : ∃ rest, (value, rest) ∈ matcher text := by
  obtain ⟨⟨first, left⟩, head, rfl⟩ := Option.map_eq_some_iff.mp found
  exact ⟨left, List.mem_of_head? head⟩

theorem matched_exists {matcher : Matcher Letter First} {value : First}
    (way : (value, rest) ∈ matcher text) : ∃ first, matcher.matched text = some first := by
  unfold matched
  cases ways : matcher text with
  | nil =>
      rw [ways] at way
      cases way
  | cons first _ => exact ⟨first.1, rfl⟩

theorem literal_bind [DecidableEq Letter] (word : List Letter) (next : Matcher Letter Second)
    (rest : List Letter) : (literal word >>= fun _ => next) (word ++ rest) = next rest := by
  simp [bind_ways, literal]

/-- A run up to a letter that ends it: the letter is the first one not allowed. -/
theorem many_until [DecidableEq Letter] {letter : Letter} (ends : allowed letter = false) {taken : List Letter}
    (all : ∀ letter ∈ taken, allowed letter = true) (next : List Letter → Matcher Letter Second)
    (rest : List Letter) :
    (many allowed >>= fun run => literal [letter] >>= fun _ => next run) (taken ++ letter :: rest) =
      next taken rest := by
  induction taken generalizing next with
  | nil => simp [bind_ways, many, ends, literal]
  | cons head taken ih =>
      obtain ⟨known, all⟩ := List.forall_mem_cons.mp all
      have apart : head ≠ letter := by
        rintro rfl
        rw [known] at ends
        cases ends
      have inner := ih all fun run => next (head :: run)
      simp only [bind_ways] at inner
      simp only [bind_ways, List.cons_append, many, if_pos known, List.flatMap_append, List.flatMap_map,
        List.flatMap_singleton, Prod.map_fst, Prod.map_snd, id_eq, inner]
      simp [literal, Ne.symm apart]

theorem nonempty_bind (run : Matcher Letter (List Letter)) (next : List Letter → Matcher Letter Second) :
    (nonempty run >>= next) = run >>= fun taken => if taken ≠ [] then next taken else fun _ => [] := by
  funext text
  simp only [bind_ways, nonempty]
  induction run text with
  | nil => rfl
  | cons way ways ih =>
      obtain ⟨taken, rest⟩ := way
      cases taken with
      | nil => exact ih
      | cons letter taken => exact congrArg (next (letter :: taken) rest ++ ·) ih

theorem nonempty_until [DecidableEq Letter] {letter : Letter} (ends : allowed letter = false)
    {taken : List Letter} (filled : taken ≠ []) (all : ∀ letter ∈ taken, allowed letter = true)
    (next : List Letter → Matcher Letter Second) (rest : List Letter) :
    (nonempty (many allowed) >>= fun run => literal [letter] >>= fun _ => next run)
      (taken ++ letter :: rest) = next taken rest := by
  have inner := many_until ends all (fun run => if run ≠ [] then next run else fun _ => []) rest
  rw [if_pos filled] at inner
  rw [nonempty_bind, ← inner]
  refine congrArg (fun body => (many allowed >>= body) (taken ++ letter :: rest)) ?_
  funext run
  by_cases some_letter : run ≠ []
  · simp only [if_pos some_letter]
  · simp only [if_neg some_letter]
    funext text
    simp [bind_ways]

theorem few_ordered (text : List Letter) :
    (few allowed text).Pairwise fun first second => first.1.length < second.1.length := by
  induction text with
  | nil => exact List.pairwise_singleton _ _
  | cons letter text ih =>
      simp only [few]
      split
      · apply List.Pairwise.cons
        · intro way member
          obtain ⟨inner, -, rfl⟩ := List.mem_map.mp member
          exact Nat.succ_pos _
        · apply List.Pairwise.map _ _ ih
          intro first second shorter
          exact Nat.succ_lt_succ shorter
      · exact List.pairwise_singleton _ _

/-- The first way of a search over ordered candidates comes from the least that succeeds. -/
theorem head_flat_map {Candidate Found : Type} {least : Candidate → Candidate → Prop}
    {search : Candidate → List Found} {found : Found} {candidates : List Candidate}
    (ordered : candidates.Pairwise least) (head : (candidates.flatMap search).head? = some found) :
    ∃ candidate ∈ candidates, (search candidate).head? = some found ∧
      ∀ other ∈ candidates, search other ≠ [] → other = candidate ∨ least candidate other := by
  induction candidates with
  | nil => cases head
  | cons candidate candidates ih =>
      obtain ⟨before, ordered⟩ := List.pairwise_cons.mp ordered
      rw [List.flatMap_cons] at head
      cases here : search candidate with
      | nil =>
          rw [here, List.nil_append] at head
          obtain ⟨chosen, member, first, rest⟩ := ih ordered head
          refine ⟨chosen, List.mem_cons_of_mem _ member, first, ?_⟩
          intro other listed succeeds
          rcases List.mem_cons.mp listed with rfl | listed
          · exact absurd here succeeds
          · exact rest other listed succeeds
      | cons first others =>
          rw [here] at head
          refine ⟨candidate, List.mem_cons_self, by rw [here]; exact head, ?_⟩
          intro other listed _
          rcases List.mem_cons.mp listed with rfl | listed
          · exact .inl rfl
          · exact .inr (before other listed)

/-- What follows a lazy run decides it: the run is the shortest with which the rest matches. -/
theorem fewest {next : List Letter → Matcher Letter Second} {value : Second}
    (found : (nonempty (few allowed) >>= next).matched text = some value) :
    ∃ taken middle rest, text = taken ++ middle ∧ (taken ≠ [] ∧ ∀ letter ∈ taken, allowed letter = true) ∧
      (value, rest) ∈ next taken middle ∧
      ∀ longer after, text = longer ++ after → longer ≠ [] → (∀ letter ∈ longer, allowed letter = true) →
        next longer after ≠ [] → taken.length ≤ longer.length := by
  obtain ⟨⟨first, left⟩, head, rfl⟩ := Option.map_eq_some_iff.mp found
  rw [bind_ways] at head
  obtain ⟨⟨taken, middle⟩, member, succeeds, least⟩ :=
    head_flat_map ((few_ordered text).filter _) head
  obtain ⟨way, filled⟩ := mem_nonempty.mp member
  obtain ⟨same, all⟩ := mem_few.mp way
  refine ⟨taken, middle, left, same, ⟨filled, all⟩, List.mem_of_head? succeeds, ?_⟩
  intro longer after split some_letter known matches_rest
  rcases least (longer, after) (mem_nonempty.mpr ⟨mem_few.mpr ⟨split, known⟩, some_letter⟩) matches_rest with
    same | shorter
  · rw [← (Prod.mk.inj same).1]
  · exact le_of_lt shorter

section Lines

variable [DecidableEq Letter] {newline : Letter} {line : List Letter}

theorem later_lines_free (free : newline ∉ line) : laterLines newline line = [] := by
  induction line with
  | nil => rfl
  | cons letter line ih =>
      rw [List.mem_cons, not_or] at free
      rw [laterLines, if_neg (Ne.symm free.1), ih free.2]

theorem later_lines_next (free : newline ∉ line) (rest : List Letter) :
    laterLines newline (line ++ newline :: rest) = rest :: laterLines newline rest := by
  induction line with
  | nil => exact if_pos rfl
  | cons letter line ih =>
      rw [List.mem_cons, not_or] at free
      rw [List.cons_append, laterLines, if_neg (Ne.symm free.1), ih free.2]

theorem searched_free (free : newline ∉ line) (matcher : Matcher Letter First) :
    searched newline matcher line = matcher.matched line := by
  rw [searched, later_lines_free free, List.findSome?_singleton]

theorem searched_next (free : newline ∉ line) (matcher : Matcher Letter First) (rest : List Letter) :
    searched newline matcher (line ++ newline :: rest) =
      (matcher.matched (line ++ newline :: rest)).or (searched newline matcher rest) := by
  rw [searched, later_lines_next free, List.findSome?_cons]
  cases matcher.matched (line ++ newline :: rest) <;> rfl

end Lines

end Matcher

end Bugalizer.Text
