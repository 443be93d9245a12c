import Bugalizer.GitOps.PullRequest
import Bugalizer.Scenario
import Bugalizer.Text.Blanks
import Bugalizer.Text.Matcher

/-!
# Where a pull request goes

The owner and repository of a project's URL, and the names that become git arguments. Every
name is tested by a pattern that ends in `$`, and `$` also matches before one last line feed.
-/

namespace Bugalizer.GitOps

set_option autoImplicit false

open Coroutine Program Bugalizer.Text Bugalizer.Text.Matcher

def notSlash (letter : Char) : Bool := letter != '/'

def dotGit : List Char := ".git".toList

/-- A URL of the site: the owner, the repository as short as possible, and an ending. -/
def github (host : List Char) (ending : Matcher Char Unit) : Matcher Char (List Char × List Char) := do
  literal host
  let owner ← nonempty (many notSlash)
  literal ['/']
  let repo ← nonempty (few notSlash)
  ending
  pure (owner, repo)

def httpsEnding : Matcher Char Unit := do
  optionally (literal dotGit)
  optionally (literal ['/'])
  stop '\n'

def sshEnding : Matcher Char Unit := do
  optionally (literal dotGit)
  stop '\n'

def httpsHost : List Char := "https://github.com/".toList

def sshHost : List Char := "git@github.com:".toList

def httpsGithub : Matcher Char (List Char × List Char) := github httpsHost httpsEnding

def sshGithub : Matcher Char (List Char × List Char) := github sshHost sshEnding

def slugLetter (letter : Char) : Bool := letter.isAlphanum || letter ∈ ['_', '.', '-']

/-- `_SLUG_PART`, and neither `.` nor `..`. -/
def slugPart (part : List Char) : Bool :=
  matchesAll slugLetter (String.ofList part) && decide (part ∉ [['.'], ['.', '.']])

def parseGithubSlug (repoUrl : String) : Option (String × String) :=
  let url := Py.stripped repoUrl.toList
  match (httpsGithub.matched url).or (sshGithub.matched url) with
  | none => none
  | some (owner, repo) =>
      if slugPart owner && slugPart repo then some (String.ofList owner, String.ofList repo) else none

/-- The default of `settings.github_web_base`. -/
def githubWebBase : String := "https://github.com"

def canonicalUrl (webBase owner repo : String) : String :=
  String.ofList (webBase.toList.rdropWhile (· = '/') ++ '/' :: (owner.toList ++ '/' :: (repo.toList ++ dotGit)))

theorem matches_all_iff {allowed : Char → Bool} (barred : allowed '\n' = false) (text : String) :
    matchesAll allowed text = true ↔
      ∃ body, body ≠ [] ∧ (∀ letter ∈ body, allowed letter = true) ∧
        (text.toList = body ∨ text.toList = body ++ ['\n']) := by
  unfold matchesAll beforeNewline
  rw [Bool.and_eq_true, Bool.not_eq_true', List.isEmpty_eq_false_iff, List.all_eq_true]
  split
  · rename_i last
    obtain ⟨body, whole⟩ := List.getLast?_eq_some_iff.mp last
    rw [whole, List.dropLast_concat]
    constructor
    · rintro ⟨filled, all⟩
      exact ⟨body, filled, all, .inr rfl⟩
    · rintro ⟨other, filled, all, same | same⟩
      · have line_feed := all '\n' (by rw [← same]; simp)
        rw [barred] at line_feed
        cases line_feed
      · rw [List.append_cancel_right same]
        exact ⟨filled, all⟩
  · rename_i last
    constructor
    · rintro ⟨filled, all⟩
      exact ⟨text.toList, filled, all, .inl rfl⟩
    · rintro ⟨body, filled, all, same | same⟩
      · rw [same]
        exact ⟨filled, all⟩
      · rw [same, List.getLast?_concat] at last
        exact absurd rfl last

/-- A text of the class but for one last line feed. -/
def lineFed (allowed : Char → Bool) (text : String) : Bool :=
  decide (text.toList.getLast? = some '\n') && !text.toList.dropLast.isEmpty &&
    text.toList.dropLast.all allowed

/-- What `$` lets through beyond the class. -/
theorem matches_all_clean_iff {allowed : Char → Bool} (barred : allowed '\n' = false) (text : String) :
    (matchesAll allowed text = true → ∀ letter ∈ text.toList, allowed letter = true) ↔
      lineFed allowed text = false := by
  rw [matches_all_iff barred, ← Bool.not_eq_true, lineFed, Bool.and_eq_true, Bool.and_eq_true,
    decide_eq_true_eq, Bool.not_eq_true', List.isEmpty_eq_false_iff, List.all_eq_true]
  constructor
  · rintro clean ⟨⟨last, filled⟩, all⟩
    obtain ⟨body, whole⟩ := List.getLast?_eq_some_iff.mp last
    rw [whole, List.dropLast_concat] at filled all
    have line_feed := clean ⟨body, filled, all, .inr whole⟩ '\n' (by rw [whole]; simp)
    rw [barred] at line_feed
    cases line_feed
  · rintro unfed ⟨body, filled, all, same | same⟩
    · rw [same]
      exact all
    · exfalso
      apply unfed
      rw [same, List.getLast?_concat, List.dropLast_concat]
      exact ⟨⟨rfl, filled⟩, all⟩

theorem slug_letter_clean (letter : Char) (member : slugLetter letter = true) : letter ≠ '\n' ∧ letter ≠ '/' := by
  constructor <;> (rintro rfl; revert member; decide)

theorem slug_part_iff (part : List Char) : slugPart part = true ↔
    (∃ body, body ≠ [] ∧ (∀ letter ∈ body, slugLetter letter = true) ∧ (part = body ∨ part = body ++ ['\n'])) ∧
      part ∉ [['.'], ['.', '.']] := by
  rw [slugPart, Bool.and_eq_true, matches_all_iff (by decide), decide_eq_true_eq, String.toList_ofList]

theorem slug_part_filled {part : List Char} (accepted : slugPart part = true) :
    part ≠ [] ∧ ∀ letter ∈ part, notSlash letter = true := by
  obtain ⟨⟨body, filled, all, same⟩, -⟩ := (slug_part_iff part).mp accepted
  have letters : ∀ letter ∈ body, notSlash letter = true := by
    intro letter member
    exact bne_iff_ne.mpr (slug_letter_clean letter (all letter member)).2
  rcases same with rfl | rfl
  · exact ⟨filled, letters⟩
  · refine ⟨by simp, ?_⟩
    intro letter member
    rcases List.mem_append.mp member with member | member
    · exact letters letter member
    · rw [List.mem_singleton.mp member]
      decide

/-- The spelling of a slug: `repo` is the shortest name that leaves an ending. -/
structure Spells (host : List Char) (endings : List (List Char)) (url owner repo : List Char) : Prop where
  owner_filled : owner ≠ []
  owner_plain : ∀ letter ∈ owner, notSlash letter = true
  repo_filled : repo ≠ []
  repo_plain : ∀ letter ∈ repo, notSlash letter = true
  spelled : ∃ ending ∈ endings, url = host ++ (owner ++ '/' :: (repo ++ ending)) ∧
    ∀ stem ≠ [], ∀ other ∈ endings, repo ++ ending = stem ++ other → repo.length ≤ stem.length

def httpsEndings : List (List Char) := [[], dotGit, ['/'], dotGit ++ ['/']]

def sshEndings : List (List Char) := [[], dotGit]

/-- The ending matches the texts of a list, where no line feed is last. -/
def Ends (ending : Matcher Char Unit) (endings : List (List Char)) : Prop :=
  ∀ text : List Char, text.getLast? ≠ some '\n' → (ending text ≠ [] ↔ text ∈ endings)

theorem stop_ways {text : List Char} (last : text.getLast? ≠ some '\n') {value : Unit} {rest : List Char} :
    (value, rest) ∈ stop '\n' text ↔ text = [] ∧ rest = text := by
  rw [mem_stop]
  constructor
  · rintro ⟨rfl | rfl, same⟩
    · exact ⟨rfl, same⟩
    · exact absurd rfl last
  · rintro ⟨rfl, same⟩
    exact ⟨.inl rfl, same⟩

theorem last_after {word after : List Char} (last : (word ++ after).getLast? ≠ some '\n') :
    after.getLast? ≠ some '\n' := by
  intro fed
  apply last
  rw [List.getLast?_append, fed]
  rfl

theorem ssh_ends : Ends sshEnding sshEndings := by
  intro text last
  simp only [ways_exist, sshEnding, mem_optional_bind]
  constructor
  · rintro ⟨value, rest, ⟨after, rfl, closed⟩ | closed⟩
    · obtain ⟨rfl, -⟩ := (stop_ways (last_after last)).mp closed
      decide
    · obtain ⟨rfl, -⟩ := (stop_ways last).mp closed
      decide
  · intro listed
    fin_cases listed
    · exact ⟨(), [], .inr (mem_stop.mpr ⟨.inl rfl, rfl⟩)⟩
    · exact ⟨(), [], .inl ⟨[], rfl, mem_stop.mpr ⟨.inl rfl, rfl⟩⟩⟩

theorem https_ends : Ends httpsEnding httpsEndings := by
  intro text last
  simp only [ways_exist, httpsEnding, mem_optional_bind]
  constructor
  · rintro ⟨value, rest, ⟨after, rfl, ⟨final, rfl, closed⟩ | closed⟩ | ⟨final, rfl, closed⟩ | closed⟩
    · obtain ⟨rfl, -⟩ := (stop_ways (last_after (last_after last))).mp closed
      decide
    · obtain ⟨rfl, -⟩ := (stop_ways (last_after last)).mp closed
      decide
    · obtain ⟨rfl, -⟩ := (stop_ways (last_after last)).mp closed
      decide
    · obtain ⟨rfl, -⟩ := (stop_ways last).mp closed
      decide
  · have ended : ((), []) ∈ stop '\n' [] := mem_stop.mpr ⟨.inl rfl, rfl⟩
    intro listed
    fin_cases listed
    · exact ⟨(), [], .inr (.inr ended)⟩
    · exact ⟨(), [], .inl ⟨[], rfl, .inr ended⟩⟩
    · exact ⟨(), [], .inr (.inl ⟨[], rfl, ended⟩)⟩
    · exact ⟨(), [], .inl ⟨['/'], rfl, .inl ⟨[], rfl, ended⟩⟩⟩

section Language

variable {host : List Char} {ending : Matcher Char Unit} {endings : List (List Char)}
  {url owner repo : List Char}

def repoPart (ending : Matcher Char Unit) (owner : List Char) : Matcher Char (List Char × List Char) :=
  nonempty (few notSlash) >>= fun repo => ending >>= fun _ => pure (owner, repo)

theorem github_after (filled : owner ≠ []) (plain : ∀ letter ∈ owner, notSlash letter = true)
    (tail : List Char) :
    (github host ending).matched (host ++ (owner ++ '/' :: tail)) = (repoPart ending owner).matched tail := by
  unfold matched github
  rw [literal_bind, nonempty_until (by decide) filled plain]
  rfl

theorem repo_part_way {taken middle rest : List Char} {value : List Char × List Char}
    (way : (value, rest) ∈ (ending >>= fun _ => pure (owner, taken) : Matcher Char _) middle) :
    value = (owner, taken) ∧ ending middle ≠ [] := by
  obtain ⟨closed, left, ended, same⟩ := mem_bind.mp way
  exact ⟨(mem_pure.mp same).1, ways_exist.mpr ⟨closed, left, ended⟩⟩

theorem repo_part_ways {taken middle : List Char} (ended : ending middle ≠ []) :
    (ending >>= fun _ => pure (owner, taken) : Matcher Char (List Char × List Char)) middle ≠ [] := by
  obtain ⟨closed, left, way⟩ := ways_exist.mp ended
  exact ways_exist.mpr ⟨(owner, taken), left, mem_bind.mpr ⟨closed, left, way, mem_pure.mpr ⟨rfl, rfl⟩⟩⟩

/-- What the pattern takes for the repository is the shortest name that leaves an ending. -/
theorem repo_part_matched (ends : Ends ending endings) {tail : List Char}
    (last : tail.getLast? ≠ some '\n') {value : List Char × List Char}
    (found : (repoPart ending owner).matched tail = some value) :
    value.1 = owner ∧ value.2 ≠ [] ∧ (∀ letter ∈ value.2, notSlash letter = true) ∧
      ∃ left ∈ endings, tail = value.2 ++ left ∧
        ∀ stem ≠ [], (∀ letter ∈ stem, notSlash letter = true) → ∀ other ∈ endings,
          tail = stem ++ other → value.2.length ≤ stem.length := by
  obtain ⟨taken, middle, rest, rfl, ⟨filled, plain⟩, way, least⟩ := fewest found
  obtain ⟨rfl, ended⟩ := repo_part_way way
  refine ⟨rfl, filled, plain, middle, (ends middle (last_after last)).mp ended, rfl, ?_⟩
  intro stem some_letter known other listed split
  apply least stem other split some_letter known
  apply repo_part_ways
  rw [split] at last
  exact (ends other (last_after last)).mpr listed

theorem github_form (found : (github host ending).matched url = some (owner, repo)) :
    ∃ first tail, first ≠ [] ∧ (∀ letter ∈ first, notSlash letter = true) ∧
      url = host ++ (first ++ '/' :: tail) := by
  obtain ⟨rest, way⟩ := matched_mem found
  obtain ⟨_, afterHost, hosted, way⟩ := mem_bind.mp way
  obtain ⟨first, afterOwner, owned, way⟩ := mem_bind.mp way
  obtain ⟨_, tail, slashed, _⟩ := mem_bind.mp way
  obtain ⟨run, filled⟩ := mem_nonempty.mp owned
  obtain ⟨same, plain⟩ := mem_many.mp run
  refine ⟨first, tail, filled, plain, ?_⟩
  rw [mem_literal.mp hosted, same, mem_literal.mp slashed]
  rfl

theorem github_spells (ends : Ends ending endings) (last : url.getLast? ≠ some '\n')
    (found : (github host ending).matched url = some (owner, repo)) :
    Spells host endings url owner repo := by
  obtain ⟨first, tail, filled, plain, rfl⟩ := github_form found
  rw [github_after filled plain] at found
  have tail_last : tail.getLast? ≠ some '\n' := by
    apply @last_after (host ++ first ++ ['/'])
    simpa using last
  obtain ⟨same, repo_filled, repo_plain, left, listed, shape, least⟩ := repo_part_matched ends tail_last found
  dsimp only at same repo_filled repo_plain shape least
  subst same
  refine ⟨filled, plain, repo_filled, repo_plain, left, listed, by rw [shape], ?_⟩
  intro stem some_letter other known split
  by_contra shorter
  rw [Nat.not_le] at shorter
  have front : stem <+: repo := by
    apply List.prefix_of_prefix_length_le (List.prefix_append stem other) _ (le_of_lt shorter)
    rw [← split]
    exact List.prefix_append repo left
  have bounded := least stem some_letter (fun letter member => repo_plain letter (front.subset member)) other
    known (shape.trans split)
  omega

theorem spells_github (ends : Ends ending endings) (last : url.getLast? ≠ some '\n')
    (spells : Spells host endings url owner repo) :
    (github host ending).matched url = some (owner, repo) := by
  obtain ⟨filled, plain, repo_filled, repo_plain, left, listed, rfl, shortest⟩ := spells
  have tail_last : (repo ++ left).getLast? ≠ some '\n' := by
    apply @last_after (host ++ owner ++ ['/'])
    simpa using last
  rw [github_after filled plain]
  have ended : ending left ≠ [] := (ends left (last_after tail_last)).mpr listed
  have taken : (repo, left) ∈ nonempty (few notSlash) (repo ++ left) :=
    mem_nonempty.mpr ⟨mem_few.mpr ⟨rfl, repo_plain⟩, repo_filled⟩
  obtain ⟨way, rest, continues⟩ := ways_exist.mp (@repo_part_ways _ owner repo _ ended)
  have whole : (way, rest) ∈ repoPart ending owner (repo ++ left) := mem_bind.mpr ⟨repo, left, taken, continues⟩
  obtain ⟨value, found⟩ := matched_exists whole
  obtain ⟨same, value_filled, -, other, known, shape, least⟩ := repo_part_matched ends tail_last found
  have below := least repo repo_filled repo_plain left listed rfl
  have above := shortest value.2 value_filled other known shape
  have repos := (List.append_inj shape (le_antisymm above below)).1
  have paired : value = (owner, repo) := Prod.ext same repos.symm
  rw [found, paired]

theorem github_iff (ends : Ends ending endings) (last : url.getLast? ≠ some '\n') :
    (github host ending).matched url = some (owner, repo) ↔ Spells host endings url owner repo :=
  ⟨github_spells ends last, spells_github ends last⟩

end Language

def Names (url owner repo : List Char) : Prop :=
  Spells httpsHost httpsEndings url owner repo ∨ Spells sshHost sshEndings url owner repo

theorem Spells.front {host : List Char} {endings : List (List Char)} {url owner repo : List Char}
    (spells : Spells host endings url owner repo) : host <+: url := by
  obtain ⟨ending, _, rfl, _⟩ := spells.spelled
  exact List.prefix_append _ _

theorem hosts_apart {url owner repo owner' repo' : List Char}
    (https : Spells httpsHost httpsEndings url owner repo)
    (ssh : Spells sshHost sshEndings url owner' repo') : False := by
  have nested := List.prefix_or_prefix_of_prefix https.front ssh.front
  revert nested
  decide

theorem parse_github_slug_iff (repoUrl owner repo : String) :
    parseGithubSlug repoUrl = some (owner, repo) ↔
      Names (Py.stripped repoUrl.toList) owner.toList repo.toList ∧ slugPart owner.toList = true ∧
        slugPart repo.toList = true := by
  have last := stripped_last repoUrl.toList
  have read : ∀ first second : List Char,
      (httpsGithub.matched (Py.stripped repoUrl.toList)).or (sshGithub.matched (Py.stripped repoUrl.toList)) =
        some (first, second) ↔ Names (Py.stripped repoUrl.toList) first second := by
    intro first second
    rw [Option.or_eq_some_iff, httpsGithub, github_iff https_ends last, sshGithub, github_iff ssh_ends last]
    constructor
    · rintro (https | ⟨-, ssh⟩)
      · exact .inl https
      · exact .inr ssh
    · rintro (https | ssh)
      · exact .inl https
      · refine .inr ⟨?_, ssh⟩
        rw [Option.eq_none_iff_forall_ne_some]
        intro slug found
        exact hosts_apart (github_spells https_ends last found) ssh
  unfold parseGithubSlug
  dsimp only
  split
  · rename_i nothing
    constructor
    · intro found
      cases found
    · rintro ⟨named, -, -⟩
      rw [(read _ _).mpr named] at nothing
      cases nothing
  · rename_i first second found
    have named := (read first second).mp found
    constructor
    · intro accepted
      split at accepted
      · rename_i parts
        rw [Bool.and_eq_true] at parts
        obtain ⟨rfl, rfl⟩ := Prod.mk.inj (Option.some.inj accepted)
        rw [String.toList_ofList, String.toList_ofList]
        exact ⟨named, parts⟩
      · cases accepted
    · rintro ⟨other, parts⟩
      have same := Option.some.inj (found.symm.trans ((read _ _).mpr other))
      obtain ⟨rfl, rfl⟩ := Prod.mk.inj same
      rw [if_pos (by rw [Bool.and_eq_true]; exact parts), String.ofList_toList, String.ofList_toList]

/-- An owner or a repository name: letters of the class only, and no relative path. -/
def CleanPart (part : String) : Prop :=
  (∀ letter ∈ part.toList, slugLetter letter = true) ∧ part ≠ "." ∧ part ≠ ".."

/-- A slug that is parsed is clean, and it is parsed from its canonical URL. -/
def SlugLaw (repoUrl : String) : Prop :=
  ∀ owner repo, parseGithubSlug repoUrl = some (owner, repo) →
    CleanPart owner ∧ CleanPart repo ∧
      parseGithubSlug (canonicalUrl githubWebBase owner repo) = some (owner, repo)

theorem canonical_round_trip {owner repo : String} (owned : slugPart owner.toList = true)
    (named : slugPart repo.toList = true) :
    parseGithubSlug (canonicalUrl githubWebBase owner repo) = some (owner, repo) := by
  obtain ⟨owner_filled, owner_plain⟩ := slug_part_filled owned
  obtain ⟨repo_filled, repo_plain⟩ := slug_part_filled named
  have shape : (canonicalUrl githubWebBase owner repo).toList =
      httpsHost ++ (owner.toList ++ '/' :: (repo.toList ++ dotGit)) := by
    rw [canonicalUrl, String.toList_ofList]
    exact List.append_assoc githubWebBase.toList ['/'] _
  rw [parse_github_slug_iff]
  refine ⟨.inl ?_, owned, named⟩
  have last : (canonicalUrl githubWebBase owner repo).toList.getLast? = some 't' := by
    rw [shape]
    apply List.getLast?_eq_some_iff.mpr
    exact ⟨httpsHost ++ (owner.toList ++ '/' :: (repo.toList ++ ".gi".toList)), by simp [dotGit]⟩
  rw [stripped_fixed (by rw [shape]; rfl) last (by decide) (by decide), shape]
  refine ⟨owner_filled, owner_plain, repo_filled, repo_plain, dotGit, by decide, rfl, ?_⟩
  intro stem _ other listed split
  have ended := congrArg List.length split
  rw [List.length_append, List.length_append] at ended
  have short : other.length ≤ dotGit.length := by
    have last := congrArg List.getLast? split
    fin_cases listed
    · decide
    · decide
    · simp [dotGit] at last
    · simp [dotGit] at last
  omega

/-- The URL names an owner or a repository whose last letter is a line feed. -/
def FedUrl (repoUrl : String) : Prop :=
  ∃ owner repo, Names (Py.stripped repoUrl.toList) owner repo ∧ slugPart owner = true ∧
    slugPart repo = true ∧ ('\n' ∈ owner ∨ '\n' ∈ repo)

theorem slug_part_clean {part : String} (accepted : slugPart part.toList = true) :
    CleanPart part ↔ '\n' ∉ part.toList := by
  obtain ⟨⟨body, filled, all, same⟩, named⟩ := (slug_part_iff part.toList).mp accepted
  constructor
  · rintro ⟨letters, -⟩ fed
    exact (slug_letter_clean '\n' (letters _ fed)).1 rfl
  · intro unfed
    refine ⟨?_, ?_, ?_⟩
    · rcases same with same | same
      · rw [same]
        exact all
      · rw [same] at unfed
        simp at unfed
    · rintro rfl
      exact named (by decide)
    · rintro rfl
      exact named (by decide)

theorem slug_law_iff (repoUrl : String) : SlugLaw repoUrl ↔ ¬ FedUrl repoUrl := by
  constructor
  · rintro law ⟨owner, repo, named, owned, kept, fed⟩
    have parsed := (parse_github_slug_iff repoUrl (String.ofList owner) (String.ofList repo)).mpr
      (by simpa only [String.toList_ofList] using ⟨named, owned, kept⟩)
    obtain ⟨clean_owner, clean_repo, -⟩ := law _ _ parsed
    rw [slug_part_clean (by simpa only [String.toList_ofList] using owned), String.toList_ofList] at clean_owner
    rw [slug_part_clean (by simpa only [String.toList_ofList] using kept), String.toList_ofList] at clean_repo
    exact fed.elim clean_owner clean_repo
  · intro unfed owner repo parsed
    obtain ⟨named, owned, kept⟩ := (parse_github_slug_iff repoUrl owner repo).mp parsed
    refine ⟨(slug_part_clean owned).mpr ?_, (slug_part_clean kept).mpr ?_, canonical_round_trip owned kept⟩
    · intro fed
      exact unfed ⟨_, _, named, owned, kept, .inl fed⟩
    · intro fed
      exact unfed ⟨_, _, named, owned, kept, .inr fed⟩

structure Answering (answers : (op : Op) → Except Exn op.Ans) (report : Report) (project : Project) :
    Prop where
  slug : ∀ url, answers (.observe (.parseGithubSlug url)) = .ok (parseGithubSlug url)
  known : ∃ same, answers (.query (.projectGet report.projectId)) = .ok (some ⟨project, same⟩)

/-- A call of `open_pull_request` has passed its checks. -/
def Passes (reportId : String) (project : Project) (checks : PrChecks) : Prop :=
  ∃ settings report proposal answers, Answering answers report project ∧
    (checkDestination settings reportId report proposal).eval answers = .ok checks

def branchLetter (letter : Char) : Bool := letter.isAlphanum || letter ∈ ['.', '_', '/', '-']

def idLetter (letter : Char) : Bool := letter.isAlphanum || letter = '_' || letter = '-'

def CleanBranch (branch : String) : Prop :=
  (∀ letter ∈ branch.toList, branchLetter letter = true) ∧ hasDotDot branch.toList = false

def CleanId (id : String) : Prop := ∀ letter ∈ id.toList, idLetter letter = true

section Checks

variable {settings : Settings} {reportId : String} {report : Report} {project : Project}
  {proposal : FixProposal} {answers : (op : Op) → Except Exn op.Ans} {checks : PrChecks}

theorem project_read (answering : Answering answers report project) :
    (projectGet report.projectId).eval answers = .ok (some project) := by
  obtain ⟨same, known⟩ := answering.known
  have read : (query (.projectGet report.projectId)).eval answers = .ok (some ⟨project, same⟩) :=
    (eval_perform _).trans known
  rw [projectGet, bind_eq, eval_bind, read]
  rfl

theorem slug_read (answering : Answering answers report project) (url : String) :
    (ask (.observe (.parseGithubSlug url))).eval answers = .ok (parseGithubSlug url) :=
  (eval_perform _).trans (answering.slug url)

/-- The last three checks, in the order of the source. -/
theorem gates_passed {cloned : Bool} {branch first second : String} {made : PrChecks}
    (passed : Program.eval answers
      (if !cloned then
          raise (openPrError 400 "not_cloned" "Project repo not cloned. Run POST /clone first.")
        else if !safeBranch branch then
          raise (openPrError 400 "bad_default_branch" "The project's default branch name is invalid")
        else if !safeId first || !safeId second then
          raise (openPrError 400 "bad_id" "Report or project id is not path-safe")
        else pure made : Py PrChecks) = .ok checks) :
    made = checks ∧ safeBranch branch = true ∧ safeId first = true ∧ safeId second = true := by
  split at passed
  · cases passed
  split at passed
  · cases passed
  rename_i safe
  split at passed
  · cases passed
  rename_i ids
  rw [Bool.not_eq_true', Bool.not_eq_false] at safe
  rw [Bool.or_eq_true, Bool.not_eq_true', Bool.not_eq_true', not_or, Bool.not_eq_false, Bool.not_eq_false] at ids
  exact ⟨Except.ok.inj passed, safe, ids⟩

theorem passed_checks (answering : Answering answers report project)
    (passed : (checkDestination settings reportId report proposal).eval answers = .ok checks) :
    safeBranch checks.defaultBranch = true ∧ safeId reportId = true ∧ safeId project.id = true := by
  unfold checkDestination at passed
  split at passed
  · cases passed
  rw [bind_eq, eval_bind, project_read answering] at passed
  dsimp only [Except.bind] at passed
  rw [bind_eq, eval_bind, slug_read answering] at passed
  dsimp only [Except.bind] at passed
  split at passed
  swap
  · cases passed
  rename_i found _ _ present _
  obtain rfl := Option.some.inj present
  split at passed
  · rw [pure_eq, bind_eq, done_bind] at passed
    obtain ⟨rfl, gates⟩ := gates_passed passed
    exact gates
  · obtain ⟨cloned, -, passed⟩ := eval_bind_ok passed
    obtain ⟨rfl, gates⟩ := gates_passed passed
    exact gates

theorem destination_checked (answering : Answering answers report project) {token owner repo : String}
    (tokened : settings.githubTokenValue = some token) (slug : parseGithubSlug project.repoUrl = some (owner, repo))
    (placed : orDefault project.repoPath "" ≠ "")
    (cloned : answers (.observe (.cloneExists (orDefault project.repoPath ""))) = .ok true)
    (branch : safeBranch (orDefault project.defaultBranch "main") = true) (first : safeId reportId = true)
    (second : safeId project.id = true) :
    (checkDestination settings reportId report proposal).eval answers =
      .ok { reportId, report, project, owner, repo, token, clone := orDefault project.repoPath ""
            defaultBranch := orDefault project.defaultBranch "main", proposal } := by
  have there : (ask (.observe (.cloneExists (orDefault project.repoPath "")))).eval answers = .ok true :=
    (eval_perform _).trans cloned
  unfold checkDestination
  simp only [tokened, bind_eq, eval_bind, project_read answering, Except.bind, slug_read answering, Option.map_some,
    Option.getD_some, slug, placed, if_false, there, branch, first, second]
  rfl

end Checks

def finding (project : Project) : (op : Op) → Except Exn op.Ans
  | .query (.projectGet id) => .ok (if same : project.id = id then some ⟨project, same⟩ else none)
  | .observe (.parseGithubSlug url) => .ok (parseGithubSlug url)
  | .observe (.cloneExists _) => .ok true
  | _ => .error (.plain "Error" "")

/-- A project on a GitHub repository, with this branch. -/
def onBranch (id branch : String) : Project := { Scenario.project with id, defaultBranch := some branch }

def drafted : FixProposal :=
  NewFixProposal.row
    { bugReportId := "r", analysisId := "loc", rootCause := "", explanation := "", diff := "", confidence := "1"
      filesChanged := [], triggerRef := none } "q" 0

theorem passes_on {reportId projectId branch : String} (filled : branch ≠ "") (safe : safeBranch branch = true)
    (first : safeId reportId = true) (second : safeId projectId = true) :
    ∃ checks, Passes reportId (onBranch projectId branch) checks ∧ checks.defaultBranch = branch := by
  let report := { Scenario.report .fixProposed with projectId }
  have answering : Answering (finding (onBranch projectId branch)) report (onBranch projectId branch) :=
    ⟨fun _ => rfl, rfl, by simp [finding, onBranch, report]⟩
  have slug : parseGithubSlug "https://github.com/o/r" = some ("o", "r") := by decide
  have token : Scenario.settings.githubTokenValue = some "token" := by decide
  have named : orDefault (some branch) "main" = branch := if_neg filled
  have checked := @destination_checked Scenario.settings reportId report _ drafted _ answering _ _ _ token slug
    (show orDefault (some "/repos/p") "" ≠ "" by decide) rfl (by rw [← named] at safe; exact safe) first second
  exact ⟨_, ⟨_, _, _, _, answering, checked⟩, named⟩

def BranchLaw (branch : String) : Prop :=
  ∀ reportId project checks, Passes reportId project checks → checks.defaultBranch = branch →
    CleanBranch branch

def IdLaw (id : String) : Prop :=
  ∀ reportId project checks, Passes reportId project checks → (reportId = id ∨ project.id = id) →
    CleanId id

theorem branch_law_iff (branch : String) :
    BranchLaw branch ↔ ¬(lineFed branchLetter branch = true ∧ hasDotDot branch.toList = false) := by
  have clean := matches_all_clean_iff (show branchLetter '\n' = false by decide) branch
  have safe : safeBranch branch = true ↔ matchesAll branchLetter branch = true ∧ hasDotDot branch.toList = false := by
    rw [safeBranch, Bool.and_eq_true, Bool.not_eq_true']
    rfl
  constructor
  · rintro law ⟨fed, dots⟩
    have accepted : matchesAll branchLetter branch = true := by
      by_contra refused
      rw [clean.mp fun accepted => absurd accepted refused] at fed
      cases fed
    have filled : branch ≠ "" := by
      rintro rfl
      revert accepted
      decide
    obtain ⟨checks, passes, named⟩ := @passes_on "r" "p" branch filled (safe.mpr ⟨accepted, dots⟩)
      (by decide) (by decide)
    rw [clean.mp fun _ => (law _ _ _ passes named).1] at fed
    cases fed
  · rintro unfed reportId project checks ⟨settings, report, proposal, answers, answering, passed⟩ rfl
    obtain ⟨accepted, dots⟩ := safe.mp (passed_checks answering passed).1
    refine ⟨clean.mpr ?_ accepted, dots⟩
    rw [← Bool.not_eq_true]
    exact fun fed => unfed ⟨fed, dots⟩

theorem id_law_iff (id : String) : IdLaw id ↔ lineFed idLetter id = false := by
  have clean := matches_all_clean_iff (show idLetter '\n' = false by decide) id
  rw [← clean]
  constructor
  · intro law accepted
    obtain ⟨checks, passes, -⟩ := @passes_on id "p" "main" (by decide) (by decide) accepted (by decide)
    exact law _ _ _ passes (.inl rfl)
  · rintro only reportId project checks ⟨settings, report, proposal, answers, answering, passed⟩ named
    obtain ⟨-, first, second⟩ := passed_checks answering passed
    rcases named with rfl | rfl
    · exact only first
    · exact only second

/-- URLs, branches and ids are kept to their classes exactly when none carries a line feed last:
not the owner or the repository of the URL, not the branch and not the id. -/
theorem destination_clean_iff (repoUrl branch id : String) :
    SlugLaw repoUrl ∧ BranchLaw branch ∧ IdLaw id ↔
      ¬ FedUrl repoUrl ∧ ¬(lineFed branchLetter branch = true ∧ hasDotDot branch.toList = false) ∧
        lineFed idLetter id = false := by
  rw [slug_law_iff, branch_law_iff, id_law_iff]

/-- The branch `main` and a line feed passes the checks, as an id with one does, and an owner with
one is parsed. -/
theorem line_feeds_pass :
    (parseGithubSlug "https://github.com/o\n/r" = some ("o\n", "r") ∧ ¬ CleanPart "o\n") ∧
      (∃ checks, Passes "r\n" (onBranch "p" "main\n") checks ∧ checks.defaultBranch = "main\n") ∧
        ¬ CleanBranch "main\n" ∧ ¬ CleanId "r\n" := by
  refine ⟨⟨by decide +kernel, ?_⟩, ?_, ?_, ?_⟩
  · rintro ⟨letters, -⟩
    exact absurd (letters '\n' (by decide)) (by decide)
  · exact passes_on (by decide) (by decide) (by decide) (by decide)
  · rintro ⟨letters, -⟩
    exact absurd (letters '\n' (by decide)) (by decide)
  · intro letters
    exact absurd (letters '\n' (by decide)) (by decide)

end Bugalizer.GitOps
