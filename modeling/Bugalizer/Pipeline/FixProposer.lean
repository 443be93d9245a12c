import Bugalizer.Llm.Client

/-!
# Stage 4: the fix proposal
-/

namespace Bugalizer

set_option autoImplicit false

open Coroutine Program

/-- `text.replace(old, new)`; `fuel` bounds the scan by the length of the text. -/
def replaceAll (old new : List Char) : Nat → List Char → List Char
  | 0, text => text
  | _, [] => []
  | fuel + 1, c :: text =>
      if old.isPrefixOf (c :: text) then
        new ++ replaceAll old new fuel ((c :: text).drop old.length)
      else c :: replaceAll old new fuel text

def keyChar (c : Char) : Bool := c.isAlphanum || c = '_' || c = '-'

def bearerChar (c : Char) : Bool := keyChar c || c = '.'

/-- The rest of the text after a run of at least eight characters of a class. -/
def afterRun (allowed : Char → Bool) (text : List Char) : Option (List Char) :=
  if 8 ≤ (text.takeWhile allowed).length then some (text.dropWhile allowed) else none

/-- One alternative of `_KEY_SHAPES`, matched at the start of a text. -/
def afterKey (text : List Char) : Option (List Char) :=
  let sk := "sk-".toList
  let bearer := "Bearer".toList
  if sk.isPrefixOf text then afterRun keyChar (text.drop sk.length)
  else if bearer.isPrefixOf text && (text.drop bearer.length).head?.any Py.isSpace then
    afterRun bearerChar ((text.drop bearer.length).dropWhile Py.isSpace)
  else none

def redacted : List Char := "[redacted]".toList

/-- `_KEY_SHAPES.sub(_REDACTED, text)`. The `sk-ant-` alternative matches nothing that the
`sk-` one, whose characters include the dash, does not match as far. -/
def redactKeys : Nat → List Char → List Char
  | 0, text => text
  | _, [] => []
  | fuel + 1, c :: text =>
      match afterKey (c :: text) with
      | some rest => redacted ++ redactKeys fuel rest
      | none => c :: redactKeys fuel text

def safeErrorText (error : Exn) (secrets : List String) : String :=
  let text := (error.typeName ++ ": " ++ error.text).toList
  let scrubbed := secrets.foldl
    (fun text secret =>
      if secret = "" then text else replaceAll secret.toList redacted text.length text) text
  String.ofList (redactKeys scrubbed.length scrubbed)

inductive FixKind where
  | proposed | failed | deferred | notClaimed | alreadyProposed
deriving DecidableEq, Repr

structure FixOutcome where
  kind : FixKind
  proposalId : Option String := none
  error : Option String := none

def permanentMarkers : List String :=
  ["AuthenticationError", "PermissionDeniedError", "PermissionError", "BadRequestError",
    "NotFoundError", "InvalidRequestError"]

/-- `needle in text`. -/
def containsText (needle text : List Char) : Bool := text.tails.any needle.isPrefixOf

/-- `char.upper()`, as far as `API_KEY` can be read in it: of the letters beyond ASCII only a dotless i
and a y with a ring have such a letter in upper case next to which the others can stand. -/
def upperLetter (c : Char) : List Char :=
  if c.val = 0x131 then ['I']
  else if c.val = 0x1E99 then ['Y', Char.ofNat 0x30A]
  else [c.toUpper]

def classifyLlmError (error : Exn) : Bool :=
  error.typeName ∈ permanentMarkers ||
    (error.isRuntimeError && containsText "API_KEY".toList (error.text.toList.flatMap upperLetter))

def isPermanent : Exn → Bool
  | .fixProposalError _ permanent => permanent
  | error => classifyLlmError error

/-- One entry of a pass, renamed to `{path, ...}`; `none` when it has no path. -/
def candidateEntry (preferred other : String) (entry : Json) : Option Json :=
  match entry with
  | .obj fields =>
      let path := if (entry.get preferred).truthy then entry.get preferred else entry.get other
      if path.truthy then
        some (.obj (("path", path) ::
          fields.filter fun (name, _) => name != "file" && name != "path"))
      else none
  | _ => none

/-- `value or []`, iterated; a value that is no list has no modelled iteration and is an error. -/
def iterated (value : Json) : Py (List Json) :=
  match value with
  | .arr items => pure items
  | .obj fields => pure (fields.map fun (name, _) => .str name)
  | .str text => pure (text.toList.map fun c => .str (String.singleton c))
  | value => if value.truthy then raise (.plain "TypeError" "object is not iterable") else pure []

/-- `_collect_candidate_files`: the second pass when it names any file, else the first. -/
def collectCandidateFiles (analysis : Analysis) : Py (List Json) := do
  match analysis.result with
  | some (.obj fields) => do
      let pass2 := (Json.obj fields).get "pass2"
      let refined ← if pass2.isObj && pass2.truthy then iterated (pass2.get "localizations")
        else pure []
      let out := refined.filterMap (candidateEntry "file" "path")
      if out.isEmpty then do
        let pass1 := (Json.obj fields).get "pass1"
        let named ← if pass1.isObj && pass1.truthy then iterated (pass1.get "candidate_files")
          else pure []
        pure (named.filterMap (candidateEntry "path" "file"))
      else pure out
  | _ => pure []

/-- The loop of the bundle cap, from a total on: whole files while there is room, the last one cut. -/
def capFiles (cap : Int) : Int → List (String × List Char) → List (String × List Char)
  | _, [] => []
  | total, (path, content) :: files =>
      let remaining := cap - total
      if remaining ≤ 0 then []
      else
        let clipped := if content.length ≤ remaining then content else content.take remaining.toNat
        (path, clipped) :: capFiles cap (total + clipped.length) files

def capBundle (cap : Int) (files : List (String × String)) : List (String × String) :=
  (capFiles cap 0 (files.map (Prod.map id String.toList))).map (Prod.map id String.ofList)

/-- `result.get("repo_sha")` of a localization. -/
def localizationSha (analysis : Analysis) : Json := (analysis.result.getD .null).get "repo_sha"

structure FixArgs where
  override : Option LLMOverride := none
  attributionRef : Option String := none
  triggerRef : Option String := none
  requireRequestKey : Bool := false

def FixArgs.hasKey (args : FixArgs) : Bool := args.override.any LLMOverride.hasKey

def FixArgs.requestKey (args : FixArgs) : Option String :=
  args.override.bind fun override => nonBlank override.apiKey

/-- The request's provider and model win over the project's, field by field. -/
def FixArgs.pick (args : FixArgs) (resolved : LlmPin) : LlmPin :=
  match args.override with
  | none => resolved
  | some override => (orDefault override.provider resolved.1, orDefault override.model resolved.2)

def staleMessage (analysis : Analysis) (headSha : Option String) : String :=
  "Localization is stale (repo_sha=" ++ ((localizationSha analysis).string?.getD "None") ++
    " != project head_sha=" ++ headSha.getD "None" ++ "); skipping fix proposal"

/-- Steps 1 to 3 after the claim: the localization, its freshness and its files. -/
structure FixInput where
  report : Report
  analysis : Analysis
  project : Project
  files : List (String × String)

def fixUsage (args : FixArgs) (report : Report) (response : LlmResponse) : NewTokenUsage :=
  { projectId := report.projectId
    provider := response.provider
    model := response.model
    bugReportId := report.id
    promptTokens := response.promptTokens
    completionTokens := response.completionTokens
    keySource := some (if args.requestKey.isSome then .request else .env)
    keyRef := if args.requestKey.isSome then args.override.bind LLMOverride.keyRef
      else args.attributionRef }

/-- Step 5: the rows of a valid proposal, then the status. -/
def persistProposal (args : FixArgs) (report : Report) (analysis : Analysis)
    (response : LlmResponse) (validated : ValidatedProposal) : Py String :=
  underWriteLock do
    let _ ← analysisCreate
      { bugReportId := report.id, phase := .fix, status := .completed
        result := some validated.result, llmProvider := some response.provider
        llmModel := some response.model, promptTokens := response.promptTokens
        completionTokens := response.completionTokens, triggerRef := args.triggerRef }
    let proposalId ← fixProposalCreate
      { bugReportId := report.id, analysisId := analysis.id, rootCause := validated.rootCause
        explanation := validated.explanation, diff := validated.diff
        confidence := validated.confidence, filesChanged := validated.filesChanged
        triggerRef := args.triggerRef }
    tokenUsageCreate (fixUsage args report response)
    setStatus report.id .fixProposed none
    pure proposalId

/-- Steps 3 and 4: the prompt, the call and the validation of its answer. -/
def askForFix (settings : Settings) (args : FixArgs) (input : FixInput) :
    Py (LlmResponse × ValidatedProposal) := do
  let prompt := Prompt.fix input.report input.analysis input.files settings.fixEnablePromptCaching
  formatPrompt prompt
  let picked := args.pick (resolveFixLlm settings (some input.project))
  let response ← complete settings
    { model := some picked.2, messages := prompt, provider := picked.1
      apiKey := args.requestKey, timeout := settings.fixTimeoutSeconds }
  match ← ask (.compute (.parseProposal response.content)) with
  | .error message => raise (.fixProposalError message true)
  | .ok validated => pure (response, validated)

/-- Step 2, behind the freshness gate. -/
def gatherFiles (settings : Settings) (analysis : Analysis) (project : Option Project) :
    Py (Project × List (String × String)) := do
  match project.bind fun project => (nonBlank project.repoPath).map fun path => (project, path) with
  | none => raise (.fixProposalDefer "Report project has no repo_path; cannot read files")
  | some (project, repoPath) => do
      if (nonBlank project.headSha).any fun sha => (localizationSha analysis).isStr sha then do
        let candidates ← collectCandidateFiles analysis
        if candidates.isEmpty then
          raise (.fixProposalDefer "Localization produced no candidate files")
        else do
          let read ← remote (.readCandidateFiles repoPath (.arr candidates)
            settings.localizeMaxFiles settings.fixMaxFileBytes)
          let capped := capBundle settings.fixMaxBundleBytes read.files
          if capped.isEmpty then raise (.fixProposalDefer
            "No candidate file contents available after path+size checks")
          else pure (project, capped)
      else raise (.fixProposalDefer (staleMessage analysis project.headSha))

/-- The body of `propose_fix`'s `try`. -/
def proposeClaimed (settings : Settings) (reportId : String) (args : FixArgs) : Py FixOutcome := do
  match ← reportGet reportId with
  | none => pure { kind := .notClaimed }
  | some ⟨report, _⟩ => do
      match ← latestCompletedLocalization reportId with
      | none => raise (.fixProposalDefer "No completed localization analysis to work from")
      | some analysis => do
          let existing ← fixProposalsForReport reportId
          match existing.find? fun proposal => proposal.analysisId == analysis.id with
          | some prior => do
              underWriteLock (setStatus reportId .fixProposed none)
              pure { kind := .alreadyProposed, proposalId := some prior.id }
          | none => do
              let project ← projectGet report.projectId
              let (project, files) ← gatherFiles settings analysis project
              let (response, validated) ← askForFix settings args
                { report, analysis, project, files }
              let proposalId ← persistProposal args report analysis response validated
              pure { kind := .proposed, proposalId := some proposalId }

/-- The two `except` clauses of `propose_fix`. -/
def fixFailed (reportId : String) (args : FixArgs) (error : Exn) : Py FixOutcome := do
  let errorText := safeErrorText error args.requestKey.toList
  match error with
  | .fixProposalDefer _ => do
      let _ ← underWriteLock (tryClaimReport reportId .fixProposing .triaged none)
      pure { kind := .deferred, error := some errorText }
  | error => do
      underWriteLock do
        let completedAt ← clock
        let _ ← analysisCreate
          { bugReportId := reportId, phase := .fix, status := .failed
            result := some (.obj
              [("error", .str errorText), ("permanent", .bool (isPermanent error))])
            completedAt := some completedAt, triggerRef := args.triggerRef }
        let _ ← tryClaimReport reportId .fixProposing .triaged none
      pure { kind := .failed, error := some errorText }

/-- `propose_fix`, from its claim on. -/
def claimAndPropose (settings : Settings) (reportId : String) (args : FixArgs) : Py FixOutcome := do
  let claimed ← underWriteLock (tryClaimReport reportId .triaged .fixProposing none)
  if claimed then
    (proposeClaimed settings reportId args).catching (fixFailed reportId args)
  else pure { kind := .notClaimed }

def proposeFix (settings : Settings) (reportId : String) (args : FixArgs) : Py FixOutcome := do
  note (.proposeFix reportId args.triggerRef)
  if args.requireRequestKey && !args.hasKey then
    raise (.plain "ValueError" "propose_fix: a request key is required and none was given")
  else claimAndPropose settings reportId args

end Bugalizer
