import Bugalizer.Pipeline.Containment
import Bugalizer.RepoMap.Build

/-!
# The cache of repo maps

One file a map, under the project, the branch and the head. A write may be seen half done: such a
file is no JSON and is passed over. The directories that a path passes before a `..` are taken to be
directories, so that the system opens what is left of the path's text.
-/

namespace Bugalizer.RepoMap

set_option autoImplicit false

open Store GitOps Text Pipeline

/-- The file that a path leads to: from the root or from the working directory, and the components
left when each `..` has taken the one before it. -/
abbrev FilePath := Bool × List (List Char)

def filePath (path : List Char) : FilePath := (path.head? == some '/', components path)

structure CacheKey where
  projectId : List Char
  branch : List Char
  sha : List Char

def cachePath (cacheDir : List Char) (key : CacheKey) : FilePath :=
  filePath (joinPath (joinPath (joinPath cacheDir key.projectId) key.branch) (key.sha ++ ".json".toList))

/-- What `json.loads` and `from_dict` make of a file. -/
inductive CacheFile where
  | loaded (map : RepoMap)
  | refused

abbrev CacheFiles := Mapping FilePath CacheFile

structure CacheSettings where
  cacheDir : List Char
  ttl : Nat
  maxFiles : Int
  maxTokens : Int

def keyOf (map : RepoMap) : CacheKey := ⟨map.projectId.toList, map.branch.toList, map.sha⟩

section Cache

variable (settings : CacheSettings)

/-- A call, with the checkout it finds and the clock it reads. -/
structure Request (Bytes : Type) where
  projectId : String
  branch : String
  repoPath : List Char
  checkout : Checkout Bytes
  now : Nat
  /-- What reading a file that is there raises. -/
  unreadable : Option Exn
  /-- What writing the map's file raises. -/
  unwritable : Option Exn

variable {Bytes : Type}

def Request.build (request : Request Bytes) : Except Exn RepoMap :=
  buildRepoMap request.checkout request.repoPath request.projectId request.branch settings.maxFiles
    settings.maxTokens

/-- `RepoMapCache.get`. -/
def cacheGet (files : CacheFiles) (request : Request Bytes) (sha : List Char) : Except Exn (Option RepoMap) :=
  match files.get (cachePath settings.cacheDir ⟨request.projectId.toList, request.branch.toList, sha⟩) with
  | none => .ok none
  | some file =>
      match request.unreadable, file with
      | some error, _ => .error error
      | none, .loaded map => .ok (if map.builtAt + settings.ttl < request.now then none else some map)
      | none, .refused => .ok none

def stored (files : CacheFiles) (map : RepoMap) : CacheFiles :=
  files.set (cachePath settings.cacheDir (keyOf map)) (.loaded map)

/-- `RepoMapCache.put`, of what was built, and the answer after it. -/
def cachePut (files : CacheFiles) (request : Request Bytes) : Except Exn RepoMap × CacheFiles :=
  match request.build settings, request.unwritable with
  | .error error, _ | .ok _, some error => (.error error, files)
  | .ok map, none => (.ok map, stored settings files map)

/-- `get_or_build`, and what it leaves on disk. -/
def getOrBuild (files : CacheFiles) (request : Request Bytes) : Except Exn RepoMap × CacheFiles :=
  match getHeadSha request.checkout.revParse with
  | .error error => (.error error, files)
  | .ok sha =>
      match cacheGet settings files request sha with
      | .error error => (.error error, files)
      | .ok (some map) => (.ok map, files)
      | .ok none => cachePut settings files request

/-- What happens to the files: calls, refreshes of a project, and writes seen half done. -/
inductive Access (Bytes : Type) where
  | call (request : Request Bytes)
  | refresh (request : Request Bytes)
  | torn (path : FilePath)

def Access.request? : Access Bytes → Option (Request Bytes)
  | call request | refresh request => some request
  | torn _ => none

def access (files : CacheFiles) : Access Bytes → CacheFiles
  | .call request => (getOrBuild settings files request).2
  | .refresh request => (cachePut settings files request).2
  | .torn path => files.set path .refused

/-- The files after these accesses, from an empty cache. -/
def cacheAfter (past : List (Access Bytes)) : CacheFiles := past.foldl (access settings) []

/-- An id of one component, a branch that is no absolute path and holds no `..`, a head of one
component. -/
structure Request.Proper (request : Request Bytes) : Prop where
  project : Kept request.projectId.toList
  ownProject : request.projectId.toList ≠ dotDot
  branch : request.branch.toList.head? ≠ some '/'
  downBranch : dotDot ∉ split '/' request.branch.toList
  head : '/' ∉ Py.stripped request.checkout.revParse.stdout

/-- The map that a request built. -/
def BuiltBy (request : Request Bytes) (map : RepoMap) : Prop := request.build settings = .ok map

/-- The map is one this request may be answered with: of its project and head, for a branch of the
same components. -/
structure Answers (request : Request Bytes) (map : RepoMap) : Prop where
  project : map.projectId = request.projectId
  branch : namesOf map.branch.toList = namesOf request.branch.toList
  head : map.sha = Py.stripped request.checkout.revParse.stdout

variable {settings}

theorem built_fields {request : Request Bytes} {map : RepoMap} (built : BuiltBy settings request map) :
    map.projectId = request.projectId ∧ map.branch = request.branch ∧
      map.sha = Py.stripped request.checkout.revParse.stdout := by
  unfold BuiltBy Request.build buildRepoMap getHeadSha at built
  split at built
  · cases built
  · cases listed : listFiles request.checkout.lsFiles supportedExtensions with
    | error error =>
        rw [listed] at built
        cases built
    | ok sources =>
        rw [listed] at built
        cases built
        exact ⟨rfl, rfl, rfl⟩

theorem names_single {part : List Char} (kept : Kept part) : namesOf part = [part] := by
  rw [namesOf, split_free kept.2.2]
  simp [kept.1, kept.2.1]

theorem relative_part {part : List Char} (free : '/' ∉ part) : part.head? ≠ some '/' := by
  intro opens
  exact free (List.mem_of_mem_head? opens)

theorem plain_part {part : List Char} (free : '/' ∉ part) (down : part ≠ dotDot) : dotDot ∉ split '/' part := by
  rw [split_free free, List.mem_singleton]
  exact down.symm

/-- The file of a head, by its length no `.` and no `..`. -/
theorem sha_file (sha : List Char) (free : '/' ∉ sha) :
    Kept (sha ++ ".json".toList) ∧ sha ++ ".json".toList ≠ dotDot := by
  have long : 5 ≤ (sha ++ ".json".toList).length := by
    rw [List.length_append]
    exact Nat.le_add_left _ _
  have apart : ∀ short : List Char, short.length < 5 → sha ++ ".json".toList ≠ short := by
    intro short less same
    rw [same] at long
    exact absurd long (Nat.not_le.mpr less)
  refine ⟨⟨apart [] (by decide), apart dot (by decide), ?_⟩, apart dotDot (by decide)⟩
  rw [List.mem_append, not_or]
  exact ⟨free, by decide⟩

theorem cache_path_parts (cacheDir : List Char) {request : Request Bytes} (proper : request.Proper) :
    (cachePath cacheDir ⟨request.projectId.toList, request.branch.toList,
        Py.stripped request.checkout.revParse.stdout⟩).2 =
      components cacheDir ++ request.projectId.toList :: (namesOf request.branch.toList ++
        [Py.stripped request.checkout.revParse.stdout ++ ".json".toList]) := by
  obtain ⟨named, down⟩ := sha_file _ proper.head
  have project := @components_join cacheDir _ (relative_part proper.project.2.2)
    (plain_part proper.project.2.2 proper.ownProject)
  have branch := @components_join (joinPath cacheDir request.projectId.toList) _ proper.branch
    proper.downBranch
  have name := @components_join (joinPath (joinPath cacheDir request.projectId.toList) request.branch.toList) _
    (relative_part named.2.2) (plain_part named.2.2 down)
  rw [cachePath, filePath, name, branch, project, names_single proper.project, names_single named]
  simp

theorem shared_path {first second : Request Bytes} {map : RepoMap} (proper : first.Proper)
    (other : second.Proper) (built : BuiltBy settings first map)
    (same : cachePath settings.cacheDir ⟨second.projectId.toList, second.branch.toList,
      Py.stripped second.checkout.revParse.stdout⟩ = cachePath settings.cacheDir (keyOf map)) :
    Answers second map := by
  obtain ⟨project, branch, head⟩ := built_fields built
  have named : keyOf map = ⟨first.projectId.toList, first.branch.toList,
      Py.stripped first.checkout.revParse.stdout⟩ := by
    rw [keyOf, project, branch, head]
  have parts := congrArg Prod.snd same
  rw [named, cache_path_parts _ other, cache_path_parts _ proper] at parts
  obtain ⟨ids, rest⟩ := List.cons.inj (List.append_cancel_left parts)
  obtain ⟨branches, names⟩ := List.append_inj' rest rfl
  refine ⟨project.trans (String.toList_injective ids).symm, ?_, head.trans ?_⟩
  · rw [branch]
    exact branches.symm
  · exact (List.append_cancel_right (List.cons.inj names).1).symm

/-- Every map on disk was built by one of the accesses and lies where it belongs. -/
def Known (settings : CacheSettings) (past : List (Access Bytes)) (files : CacheFiles) : Prop :=
  ∀ path map, files.get path = some (.loaded map) →
    (∃ earlier ∈ past, ∃ request, earlier.request? = some request ∧ BuiltBy settings request map) ∧
      path = cachePath settings.cacheDir (keyOf map)

theorem known_put {past : List (Access Bytes)} {files : CacheFiles} (known : Known settings past files)
    {last : Access Bytes} {request : Request Bytes} {map : RepoMap} (asked : last.request? = some request)
    (built : BuiltBy settings request map) : Known settings (past ++ [last]) (stored settings files map) := by
  intro path found held
  rw [stored, Mapping.get_set] at held
  split at held
  · rename_i here
    cases held
    exact ⟨⟨last, by simp, request, asked, built⟩, here⟩
  · obtain ⟨⟨earlier, member, rest⟩, placed⟩ := known path found held
    exact ⟨⟨earlier, List.mem_append_left _ member, rest⟩, placed⟩

theorem known_longer {past : List (Access Bytes)} {files : CacheFiles} (known : Known settings past files)
    (last : Access Bytes) : Known settings (past ++ [last]) files := by
  intro path found held
  obtain ⟨⟨earlier, member, rest⟩, placed⟩ := known path found held
  exact ⟨⟨earlier, List.mem_append_left _ member, rest⟩, placed⟩

theorem head_sha_ok {revParse : CompletedProcess} {sha : List Char} (headed : getHeadSha revParse = .ok sha) :
    sha = Py.stripped revParse.stdout := by
  unfold getHeadSha at headed
  split at headed
  · cases headed
  · cases headed
    rfl

theorem cache_put_cases (settings : CacheSettings) (files : CacheFiles) (request : Request Bytes) :
    (∃ map, cachePut settings files request = (.ok map, stored settings files map) ∧
      BuiltBy settings request map) ∨
    ∃ error, cachePut settings files request = (.error error, files) := by
  unfold cachePut
  cases built : request.build settings with
  | error error => exact .inr ⟨error, rfl⟩
  | ok map =>
      cases request.unwritable with
      | some error => exact .inr ⟨error, rfl⟩
      | none => exact .inl ⟨map, rfl, built⟩

/-- A call gives a map from the cache, a map it builds and stores, or an error. -/
theorem get_or_build_cases (settings : CacheSettings) (files : CacheFiles) (request : Request Bytes) :
    (∃ map, getOrBuild settings files request = (.ok map, files) ∧
      cacheGet settings files request (Py.stripped request.checkout.revParse.stdout) = .ok (some map)) ∨
    (∃ map, getOrBuild settings files request = (.ok map, stored settings files map) ∧
      BuiltBy settings request map) ∨
    ∃ error, getOrBuild settings files request = (.error error, files) := by
  cases headed : getHeadSha request.checkout.revParse with
  | error error => exact .inr (.inr ⟨error, by rw [getOrBuild, headed]⟩)
  | ok sha =>
      rw [← head_sha_ok headed]
      cases cached : cacheGet settings files request sha with
      | error error => exact .inr (.inr ⟨error, by simp only [getOrBuild, headed, cached]⟩)
      | ok found =>
          cases found with
          | some map => exact .inl ⟨map, by simp only [getOrBuild, headed, cached], rfl⟩
          | none =>
              have put : getOrBuild settings files request = cachePut settings files request := by
                simp only [getOrBuild, headed, cached]
              rw [put]
              exact .inr (cache_put_cases settings files request)

theorem known_access {past : List (Access Bytes)} {files : CacheFiles} (known : Known settings past files)
    (last : Access Bytes) : Known settings (past ++ [last]) (access settings files last) := by
  cases last with
  | call request =>
      rw [access]
      rcases get_or_build_cases settings files request with
        ⟨map, result, -⟩ | ⟨map, result, built⟩ | ⟨error, result⟩
      · rw [result]
        exact known_longer known _
      · rw [result]
        exact known_put known rfl built
      · rw [result]
        exact known_longer known _
  | refresh request =>
      rw [access]
      rcases cache_put_cases settings files request with ⟨map, result, built⟩ | ⟨error, result⟩
      · rw [result]
        exact known_put known rfl built
      · rw [result]
        exact known_longer known _
  | torn path =>
      intro other map held
      rw [access, Mapping.get_set] at held
      split at held
      · cases held
      · exact known_longer known _ other map held

theorem known_after (past : List (Access Bytes)) : Known settings past (cacheAfter settings past) := by
  induction past using List.reverseRecOn with
  | nil =>
      intro path map held
      cases held
  | append_singleton past last ih =>
      rw [cacheAfter, List.foldl_append]
      exact known_access ih last

theorem cache_get_some {files : CacheFiles} {request : Request Bytes} {sha : List Char} {map : RepoMap}
    (cached : cacheGet settings files request sha = .ok (some map)) :
    files.get (cachePath settings.cacheDir ⟨request.projectId.toList, request.branch.toList, sha⟩) =
        some (.loaded map) ∧ request.now ≤ map.builtAt + settings.ttl := by
  unfold cacheGet at cached
  split at cached
  · cases cached
  · rename_i file found
    split at cached
    · cases cached
    · rename_i held _
      split at cached
      · cases cached
      · rename_i current
        cases cached
        exact ⟨found, Nat.le_of_not_lt current⟩
    · cases cached

theorem cache_get_current {files : CacheFiles} {request : Request Bytes} {sha : List Char} {map : RepoMap}
    (found : files.get (cachePath settings.cacheDir ⟨request.projectId.toList, request.branch.toList, sha⟩) =
      some (.loaded map))
    (readable : request.unreadable = none) (current : request.now ≤ map.builtAt + settings.ttl) :
    cacheGet settings files request sha = .ok (some map) := by
  rw [cacheGet, found, readable]
  exact congrArg Except.ok (if_neg (Nat.not_lt.mpr current))

/-- After any accesses a call is answered with a map of its own project, head and branch, which it
builds itself or which an earlier access built within the time to live; and the next call at this
head that can read the file gets the same map while it lives. -/
theorem served_map_current {past : List (Access Bytes)} {request : Request Bytes} {map : RepoMap}
    (proper : ∀ earlier ∈ past, ∀ asked, earlier.request? = some asked → asked.Proper)
    (own : request.Proper) (served : (getOrBuild settings (cacheAfter settings past) request).1 = .ok map) :
    Answers request map ∧
      (BuiltBy settings request map ∨ request.now ≤ map.builtAt + settings.ttl ∧
        ∃ earlier ∈ past, ∃ asked, earlier.request? = some asked ∧ BuiltBy settings asked map) ∧
      ∀ later : Request Bytes, later.projectId = request.projectId → later.branch = request.branch →
        getHeadSha later.checkout.revParse = .ok map.sha → later.unreadable = none →
        later.now ≤ map.builtAt + settings.ttl →
          (getOrBuild settings (access settings (cacheAfter settings past) (.call request)) later).1 = .ok map := by
  have again : ∀ {files : CacheFiles} {later : Request Bytes}, getHeadSha later.checkout.revParse = .ok map.sha →
      later.unreadable = none → later.now ≤ map.builtAt + settings.ttl →
      files.get (cachePath settings.cacheDir ⟨later.projectId.toList, later.branch.toList, map.sha⟩) =
        some (.loaded map) → (getOrBuild settings files later).1 = .ok map := by
    intro files later headed readable current held
    rw [getOrBuild, headed]
    simp only [cache_get_current held readable current]
  rcases get_or_build_cases settings (cacheAfter settings past) request with
    ⟨here, result, cached⟩ | ⟨here, result, built⟩ | ⟨error, result⟩
  · rw [result] at served
    cases served
    obtain ⟨found, current⟩ := cache_get_some cached
    obtain ⟨⟨earlier, member, asked, isAsked, built⟩, placed⟩ := known_after past _ map found
    have answers := shared_path (proper earlier member asked isAsked) own built placed
    refine ⟨answers, .inr ⟨current, earlier, member, asked, isAsked, built⟩, ?_⟩
    intro later project branch headed readable lives
    apply again headed readable lives
    rw [access, result, project, branch, answers.head]
    exact found
  · rw [result] at served
    cases served
    obtain ⟨project, branch, head⟩ := built_fields built
    refine ⟨⟨project, congrArg (fun name => namesOf name.toList) branch, head⟩, .inl built, ?_⟩
    intro later laterProject laterBranch headed readable lives
    apply again headed readable lives
    rw [access, result, stored, Mapping.get_set, laterProject, laterBranch, ← project, ← branch]
    exact if_pos rfl
  · rw [result] at served
    cases served

/-- A clone without source files, at this head. -/
def bareCheckout (head : String) (clock : Nat) : Checkout Unit where
  revParse := ⟨0, head.toList, []⟩
  lsFiles := ⟨0, [], []⟩
  read _ := none
  installed _ := false
  parse _ _ := none
  frames := 0
  clock := clock

def bareRequest (clock : Nat) : Request Unit :=
  ⟨"p", "main", "/repo".toList, bareCheckout "c0ffee\n" clock, clock, none, none⟩

def bareSettings : CacheSettings := ⟨"cache".toList, 24, 50, 4000⟩

def bareMap (clock : Nat) : RepoMap := ⟨"p", "main", "c0ffee".toList, [], [], clock⟩

theorem bare_build (clock : Nat) : (bareRequest clock).build bareSettings = .ok (bareMap clock) := by
  have listed : listFiles (bareCheckout "c0ffee\n" clock).lsFiles supportedExtensions = .ok [] := rfl
  have headed : getHeadSha (bareCheckout "c0ffee\n" clock).revParse = .ok "c0ffee".toList := rfl
  have none : rankFiles 50 ([] : AllSymbols) = [] := by simp [rankFiles, Pipeline.upTo]
  have empty : Mapping.collect ([] : List (Path × FileSymbols)) = [] := rfl
  simp only [Request.build, buildRepoMap, bareRequest, headed, listed, bareSettings]
  simp only [bind, Except.bind, pure, Except.pure, List.map_nil, empty, none]
  rfl

theorem bare_first : cacheAfter bareSettings [.call (bareRequest 10)] = stored bareSettings [] (bareMap 10) := by
  have headed : getHeadSha (bareRequest 10).checkout.revParse = .ok "c0ffee".toList := rfl
  have missed : ∀ sha, cacheGet bareSettings [] (bareRequest 10) sha = .ok none := fun _ => rfl
  have writable : (bareRequest 10).unwritable = none := rfl
  simp only [cacheAfter, List.foldl_cons, List.foldl_nil, access, getOrBuild, headed, missed, cachePut,
    bare_build 10, writable]

theorem bare_proper (clock : Nat) : (bareRequest clock).Proper where
  project := (by decide : "p".toList ≠ [] ∧ "p".toList ≠ dot ∧ '/' ∉ "p".toList)
  ownProject := (by decide : "p".toList ≠ dotDot)
  branch := (by decide : "main".toList.head? ≠ some '/')
  downBranch := (by decide : dotDot ∉ split '/' "main".toList)
  head := (by decide : '/' ∉ Py.stripped "c0ffee\n".toList)

/-- The second call at a head is answered from the cache, and so is the third. -/
theorem served_map_current_twice :
    Answers (bareRequest 20) (bareMap 10) ∧
      (getOrBuild bareSettings (access bareSettings (cacheAfter bareSettings [.call (bareRequest 10)])
        (.call (bareRequest 20))) (bareRequest 30)).1 = .ok (bareMap 10) := by
  have proper : ∀ earlier ∈ [Access.call (bareRequest 10)], ∀ asked, earlier.request? = some asked →
      asked.Proper := by
    intro earlier member asked found
    rw [List.mem_singleton.mp member] at found
    cases found
    exact bare_proper 10
  have found : (getOrBuild bareSettings (cacheAfter bareSettings [.call (bareRequest 10)])
      (bareRequest 20)).1 = .ok (bareMap 10) := by
    rw [bare_first]
    rfl
  have served := served_map_current proper (bare_proper 20) found
  exact ⟨served.1, served.2.2 (bareRequest 30) rfl rfl rfl rfl (by decide)⟩

end Cache

end Bugalizer.RepoMap
