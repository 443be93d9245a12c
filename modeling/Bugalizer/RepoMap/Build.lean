import Bugalizer.RepoMap.Layout

/-!
# Building a repo map

The parsers and the files of the clone are parameters. A file that cannot be read or parsed, or whose
tree is too deep for the interpreter's stack, is listed without symbols.
-/

namespace Bugalizer.RepoMap

set_option autoImplicit false

open Store GitOps

inductive Language where
  | python | javascript | typescript | tsx | go | rust | java
deriving DecidableEq, Repr

/-- `LANGUAGE_MAP`, without the dots. -/
def languageMap : List (List Char × Language) :=
  [("py".toList, .python), ("js".toList, .javascript), ("ts".toList, .typescript), ("tsx".toList, .tsx),
    ("go".toList, .go), ("rs".toList, .rust), ("java".toList, .java)]

def supportedExtensions : List (List Char) := (languageMap.map Prod.fst).map ('.' :: ·)

/-- What the build finds outside the program: the clone's files and the installed parsers. -/
structure Checkout (Bytes : Type) where
  revParse : CompletedProcess
  lsFiles : CompletedProcess
  /-- The bytes under a path; none for an `OSError`. -/
  read : List Char → Option Bytes
  /-- Whether the language's package can be loaded. -/
  installed : Language → Bool
  /-- The root node; none where the parser raises. -/
  parse : Language → Bytes → Option Node
  /-- How many calls the interpreter's stack has left where a walk starts. -/
  frames : Nat
  clock : Nat

set_option linter.dupNamespace false in
structure RepoMap where
  projectId : String
  branch : String
  sha : List Char
  files : List RankedFile
  text : List Char
  builtAt : Nat

section Build

variable {Bytes : Type} (checkout : Checkout Bytes) (repoPath : List Char)

def getLanguage (ending : List Char) : Option Language :=
  ((languageMap.map fun entry => ('.' :: entry.1, entry.2)).lookup ending).filter checkout.installed

def treeOf (fpath : Path) : Option Node :=
  (checkout.read (Pipeline.joinPath repoPath fpath)).bind fun source =>
    (getLanguage checkout (extension fpath)).bind fun language => checkout.parse language source

def fileSymbols (fpath : Path) : FileSymbols :=
  match (treeOf checkout repoPath fpath).bind (walkNode checkout.frames { path := [] } none) with
  | none => { path := fpath }
  | some symbols => { symbols with path := fpath }

def buildRepoMap (projectId branch : String) (maxFiles maxTokens : Int) : Except Exn RepoMap := do
  let sha ← getHeadSha checkout.revParse
  let sourceFiles ← listFiles checkout.lsFiles supportedExtensions
  let allSymbols := Mapping.collect (sourceFiles.map fun fpath => (fpath, fileSymbols checkout repoPath fpath))
  let files := rankFiles maxFiles allSymbols
  pure { projectId, branch, sha, files, text := formatCompact files maxTokens, builtAt := checkout.clock }

/-- A tracked file with a supported ending, in no directory that is left out. -/
def Source (path : Path) : Prop :=
  Tracked checkout.lsFiles path ∧ (∃ ending ∈ languageMap.map Prod.fst, HasEnding path ending) ∧ ¬ Vendored path

/-- The symbols of a file: those of its tree, where it has one and the stack has room for it. -/
def SymbolsAt (path : Path) (symbols : FileSymbols) : Prop :=
  match treeOf checkout repoPath path with
  | none => symbols = { path }
  | some root =>
      (Fits checkout.frames root ∧ SymbolsOf path root symbols) ∨ (¬ Fits checkout.frames root ∧ symbols = { path })

/-- The map of a checkout: the head, and each of the best source files once, with the symbols of
its tree. -/
structure MapOf (maxFiles : Int) (map : RepoMap) : Prop where
  sha : map.sha = Py.stripped checkout.revParse.stdout
  distinct : (map.files.map fun ranked => ranked.path).Nodup
  symbols : ∀ ranked ∈ map.files, Source checkout ranked.path ∧ ∃ symbols,
    SymbolsAt checkout repoPath ranked.path symbols ∧ ranked.classes = symbols.classes ∧
      ranked.functions = symbols.functions
  count : ∃ sources : List Path, sources.Nodup ∧ (∀ path, path ∈ sources ↔ Source checkout path) ∧
    map.files.length = keptOf maxFiles sources.length

theorem file_symbols_at (path : Path) : SymbolsAt checkout repoPath path (fileSymbols checkout repoPath path) := by
  unfold SymbolsAt fileSymbols
  cases treeOf checkout repoPath path with
  | none => rfl
  | some root =>
      dsimp only
      rw [Option.bind_some]
      rcases walk_symbols_of checkout.frames [] root with ⟨tight, walked⟩ | ⟨fits, symbols, walked, spec⟩
      · rw [walked]
        exact Or.inr ⟨tight, rfl⟩
      · rw [walked]
        exact Or.inl ⟨fits, rfl, spec.functions, spec.classes, spec.imports⟩

theorem up_to_sublist {Item : Type} (limit : Int) (items : List Item) :
    (Pipeline.upTo limit items).Sublist items := by
  unfold Pipeline.upTo
  split
  · exact List.take_sublist _ _
  · exact List.take_sublist _ _

theorem up_to_length {Item : Type} (limit : Int) (items : List Item) :
    (Pipeline.upTo limit items).length = keptOf limit items.length := by
  unfold Pipeline.upTo keptOf
  split
  · rw [List.length_take]
    omega
  · rw [List.length_take]

/-- The ranking takes each file at most once, and as many as it may. -/
theorem rank_files_paths (maxFiles : Int) {files : AllSymbols} (distinct : (files.map Prod.fst).Nodup) :
    ((rankFiles maxFiles files).map fun ranked => ranked.path).Nodup ∧
      (rankFiles maxFiles files).length = keptOf maxFiles files.length ∧
        ∀ ranked ∈ rankFiles maxFiles files, ∃ symbols, (ranked.path, symbols) ∈ files ∧
          ranked.classes = symbols.classes ∧ ranked.functions = symbols.functions := by
  let entries := (files.map (fileEntry (buildImportGraph files))).mergeSort ranksBefore
  have shuffled := List.mergeSort_perm (files.map (fileEntry (buildImportGraph files))) ranksBefore
  have shown : (rankFiles maxFiles files).map RankedFile.toFileEntry = Pipeline.upTo maxFiles entries := by
    apply List.ext_getElem?
    intro index
    rw [rankFiles, List.getElem?_map, List.getElem?_mapIdx, Option.map_map]
    exact Option.map_id'
  refine ⟨?_, ?_, ?_⟩
  · have paths : (rankFiles maxFiles files).map (fun ranked => ranked.path) =
        (Pipeline.upTo maxFiles entries).map FileEntry.path := by
      rw [← shown, List.map_map]
      rfl
    rw [paths]
    apply ((up_to_sublist maxFiles entries).map FileEntry.path).nodup
    rw [(shuffled.map FileEntry.path).nodup_iff, List.map_map]
    exact distinct
  · have lengths := congrArg List.length shown
    rw [List.length_map, up_to_length, List.length_mergeSort, List.length_map] at lengths
    exact lengths
  · intro ranked member
    have kept : ranked.toFileEntry ∈ Pipeline.upTo maxFiles entries := by
      rw [← shown]
      exact List.mem_map.mpr ⟨ranked, member, rfl⟩
    have listed := shuffled.mem_iff.mp ((up_to_sublist maxFiles entries).subset kept)
    obtain ⟨file, present, same⟩ := List.mem_map.mp listed
    refine ⟨file.2, ?_, ?_, ?_⟩
    · rw [show ranked.path = file.1 from (congrArg FileEntry.path same).symm]
      exact present
    · exact (congrArg FileEntry.classes same).symm
    · exact (congrArg FileEntry.functions same).symm

end Build

end Bugalizer.RepoMap
