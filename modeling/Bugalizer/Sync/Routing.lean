import Bugalizer.Scenario
import Bugalizer.Sync.Authorize
import Bugalizer.Sync.TaskRuns

/-!
# Unpaid providers and local routing

`is_paid` strips and lowers a provider before it compares; `complete` compares the text as
it is. A provider that only differs from `ollama` in case or in surrounding spaces is unpaid
for the one and no Ollama call for the other.
-/

namespace Bugalizer

set_option autoImplicit false

open Coroutine Program

/-- A completion on the Ollama branch: the marked model at the Ollama host. -/
def LlmCall.OnOllama (settings : Settings) (call : LlmCall) : Prop :=
  call.route = .ollama ∧ Py.startsWith call.model "ollama/" = true ∧
    call.apiBase = some settings.ollamaHost

def ollamaOp (settings : Settings) : Op → Prop
  | .remote (.acompletion request) => request.OnOllama settings
  | _ => True

theorem marked_starts (marker model : String) : Py.startsWith (marked marker model) marker = true := by
  unfold marked
  split
  · assumption
  · simp [Py.startsWith]

theorem ollama_model_starts (settings : Settings) (model : Option String) :
    Py.startsWith (ollamaModel settings model) "ollama/" = true := by
  cases model with
  | none => simp [ollamaModel, Py.startsWith]
  | some model => exact marked_starts "ollama/" model

theorem routed_local {settings : Settings} {args : CompleteArgs} {call : LlmCall}
    (provider : args.provider = "ollama") (unset : args.apiBase = none)
    (routed : routeCall settings args = .ok call) : call.OnOllama settings := by
  unfold routeCall at routed
  rw [if_pos provider, unset] at routed
  cases routed
  exact ⟨rfl, ollama_model_starts settings args.model, rfl⟩

theorem anthropic_paid : isPaid "anthropic" = true := by decide

/-- A provider that is unpaid and not `ollama` itself goes the way of every other one. -/
theorem routed_elsewhere {settings : Settings} {args : CompleteArgs} {model : String}
    (unpaid : isPaid args.provider = false) (other : args.provider ≠ "ollama")
    (chosen : args.model = some model) :
    ∃ call, routeCall settings args = .ok call ∧ ¬call.OnOllama settings := by
  have notAnthropic : args.provider ≠ "anthropic" := by
    intro same
    rw [same, anthropic_paid] at unpaid
    cases unpaid
  unfold routeCall
  rw [if_neg other, if_neg notAnthropic, chosen]
  refine ⟨_, rfl, ?_⟩
  rintro ⟨route, _⟩
  cases route

section Stages

variable {settings : Settings}

def ollamaScope (settings : Settings) (reportId : String) (triggerRef : Option String) : StageScope :=
  { reportId, triggerRef, calls := LlmCall.OnOllama settings, claims := True, proposes := True }

theorem staged_ollama {reportId : String} {triggerRef : Option String} {op : Op}
    (staged : stageOp (ollamaScope settings reportId triggerRef) op) : ollamaOp settings op := by
  cases op with
  | remote asked =>
      cases asked with
      | acompletion call => exact staged
      | _ => trivial
  | _ => trivial

theorem takes_ollama {reportId : String} {triggerRef : Option String} {pin : LlmPin}
    (provider : pin.1 = "ollama") (prompts : Prompt → Prop) :
    TakesLocal (ollamaScope settings reportId triggerRef) settings (some pin) prompts := by
  intro chosen prompt same _ call routed
  have picked : chosen = pin := by
    rcases same with none' | same
    · cases none'
    · exact (Option.some.inj same).symm
  rw [picked] at routed
  exact routed_local provider rfl routed

theorem local_on_ollama {reportId : String} {triggerRef : Option String} {triage localize : LlmPin}
    (triages : triage.1 = "ollama") (localizes : localize.1 = "ollama") :
    (runLocalAnalysis settings reportId
      { triageLlm := some triage, localizeLlm := some localize, triggerRef }).Only
      (ollamaOp settings) :=
  (@run_local_analysis_follows (ollamaScope settings reportId triggerRef) settings .free trivial
    { triageLlm := some triage, localizeLlm := some localize, triggerRef } rfl
    (takes_ollama triages _) (takes_ollama localizes _) (.inl rfl)).forget.2.mono
    fun _ staged => staged_ollama staged

theorem fix_on_ollama {reportId : String} {args : FixArgs} {pin : LlmPin}
    (picks : ∀ resolved, args.pick resolved = pin) (provider : pin.1 = "ollama") :
    (proposeFix settings reportId args).Only (ollamaOp settings) := by
  refine (@propose_fix_follows (ollamaScope settings reportId args.triggerRef) settings .free trivial
    trivial args rfl (fun project report analysis files call routed => ?_) (.inl rfl)).forget.2.mono
    fun _ staged => staged_ollama staged
  rw [picks] at routed
  exact routed_local provider rfl routed

/-- The settings let no file into a bundle: it has no room, or no candidate is looked at. -/
def Settings.Starved (settings : Settings) : Prop :=
  settings.fixMaxBundleBytes ≤ 0 ∨ settings.localizeMaxFiles = 0

theorem capped_empty_iff (cap : Int) (files : List (String × String)) :
    capBundle cap files = [] ↔ cap ≤ 0 ∨ files = [] := by
  cases files with
  | nil => simp [capBundle, capFiles]
  | cons file files =>
      by_cases spent : cap ≤ 0
      · simp [capBundle, capFiles, spent]
      · simp [capBundle, capFiles, spent]

theorem none_read {candidates : Json} {maxChars : Int} (read : FilesRead candidates 0 maxChars) :
    read.files = [] := by
  apply List.eq_nil_iff_forall_not_mem.mpr
  intro file member
  obtain ⟨entry, listed, _⟩ := read.named file member
  cases listed

theorem starved_bundle (starved : settings.Starved) {candidates : Json}
    (read : FilesRead candidates settings.localizeMaxFiles settings.fixMaxFileBytes) :
    capBundle settings.fixMaxBundleBytes read.files = [] := by
  apply (capped_empty_iff _ _).mpr
  rcases starved with spent | unread
  · exact .inl spent
  · revert read
    rw [unread]
    intro read
    exact .inr (none_read read)

theorem starved_gather (starved : settings.Starved) (analysis : Analysis)
    (project : Option Project) (gathered : Project × List (String × String)) :
    ¬(gatherFiles settings analysis project).Returns gathered := by
  unfold gatherFiles
  split
  · exact id
  split
  swap
  · exact id
  simp only [bind_eq, returns_bind, not_exists, not_and]
  intro candidates _
  split
  · exact id
  simp only [returns_bind, not_exists, not_and]
  intro read _
  rw [starved_bundle starved read]
  exact id

theorem starved_fix_only (starved : settings.Starved) (reportId : String)
    (args : FixArgs) : (proposeFix settings reportId args).Only (ollamaOp settings) := by
  let scope := ollamaScope settings reportId args.triggerRef
  have quiet : ∀ {Value : Type} {body : Py Value}, body.Only (quietOp scope) →
      body.Only (ollamaOp settings) := fun only => only.mono fun _ quiet => staged_ollama quiet.1
  have claimed : (proposeClaimed settings reportId args).Only (ollamaOp settings) := by
    refine only_bind (quiet (quiet_query trivial)) fun found => ?_
    cases found with
    | none => trivial
    | some found =>
        refine only_bind (quiet (quiet_query trivial)) fun analysis => ?_
        cases analysis with
        | none => trivial
        | some analysis =>
            refine only_bind (quiet (quiet_query trivial)) fun existing => ?_
            split
            · have set := @status_set scope (.held reportId .fixProposing true) .fixProposing
                .fixProposed none (.inl (.inl ⟨true, rfl⟩)) (by decide)
              have set := set.forget.2.mono fun _ staged => staged_ollama staged
              exact only_bind (only_bind (only_ask trivial) fun _ => set) fun _ => trivial
            · refine only_bind (quiet (quiet_project_get _)) fun project => ?_
              exact only_bind_returned (quiet (quiet_gather _ _)) fun gathered returned =>
                absurd returned (starved_gather starved _ _ gathered)
  have failed : ∀ error, (fixFailed reportId args error).Only (ollamaOp settings) := fun error =>
    (@fix_failed_follows scope (.held reportId .fixProposing true) args rfl error
      (.inl (.inl ⟨true, rfl⟩))).forget.2.mono fun _ staged => staged_ollama staged
  refine only_bind (only_ask trivial) fun _ => ?_
  split
  · trivial
  refine only_bind (only_bind (only_ask trivial) fun _ => only_ask trivial) fun claimed' => ?_
  split
  · exact only_catching claimed failed
  · trivial

end Stages

section Elsewhere

variable {settings : Settings}

theorem returns_ask (op : Op) (value : op.Ans) : (ask op).Returns value := returns_perform op value

theorem locked_returns {Value : Type} {body : Py Value} {value : Value}
    (returned : body.Returns value) : (underWriteLock body).Returns value :=
  (returns_bind ..).mpr ⟨(), returns_ask .dbWriteLock (), returned⟩

theorem project_returns (id : String) (project : {row : Project // row.id = id}) :
    (projectGet id).Returns (some project.1) :=
  (returns_bind ..).mpr ⟨some project, returns_ask (.query (.projectGet id)) _, rfl⟩

theorem complete_asks {args : CompleteArgs} {request : LlmCall}
    (routed : routeCall settings args = .ok request) :
    (complete settings args).Asks (.remote (.acompletion request)) := by
  unfold complete
  rw [routed]
  exact (asks_perform _).before _

theorem triage_asks {report : Report} {pin : LlmPin} {triggerRef : Option String}
    {request : LlmCall}
    (routed : routeCall settings
      { model := some pin.2, messages := .triage report, provider := pin.1 } = .ok request) :
    (triageReport settings report (some pin.2) (some pin.1) triggerRef).Asks
      (.remote (.acompletion request)) := by
  have run : ∀ analysisId, (triageRun settings report pin.1 pin.2 analysisId).Asks
      (.remote (.acompletion request)) := fun analysisId =>
    Asks.after () (returns_ask _ _) ((complete_asks routed).before _)
  refine Asks.after (pin.1, pin.2) rfl (Asks.after (0 : Nat) (returns_ask (.observe .clock) _) ?_)
  exact Asks.after "id" (locked_returns (returns_ask _ _)) ((run _).guarded _)

theorem local_asks {reportId : String} {args : LocalArgs} {pin : LlmPin} {request : LlmCall}
    (pinned : args.triageLlm = some pin)
    (routed : routeCall settings
      { model := some pin.2, messages := .triage { Scenario.report .triaged with id := reportId }
        provider := pin.1 } = .ok request) :
    (runLocalAnalysis settings reportId args).Asks (.remote (.acompletion request)) := by
  let report : Report := { Scenario.report .triaged with id := reportId }
  have triaged : (processTriaged settings reportId args.triageLlm args.triggerRef).Asks
      (.remote (.acompletion request)) := by
    rw [pinned]
    refine Asks.after true (locked_returns (returns_ask _ _)) ?_
    refine Asks.after (some ⟨report, rfl⟩) (returns_ask (.query (.reportGet reportId)) _) ?_
    exact (((triage_asks routed).before _).guarded _).before _
  refine Asks.after (some ⟨report, rfl⟩) (returns_ask (.query (.reportGet reportId)) _) ?_
  refine Asks.after () rfl ?_
  refine Asks.after [] (returns_ask (.query (.analysesForReport reportId (some .triage))) _) ?_
  exact triaged.before _

/-- A localization at commit `sha`, with one candidate more than the limit drops or takes. -/
def sampleLocalization (settings : Settings) (reportId : String) : Analysis :=
  { id := "l", bugReportId := reportId, phase := .localization, status := .completed
    result := some (.obj [("repo_sha", .str "sha"),
      ("pass1", .obj [("candidate_files",
        .arr (List.replicate (settings.localizeMaxFiles.natAbs + 1) (.obj [("path", .str "main.py")])))])])
    llmProvider := none, llmModel := none, promptTokens := 0, completionTokens := 0
    startedAt := none, completedAt := none, triggerRef := none, createdAt := 0 }

theorem some_candidate_left {limit : Int} (some_limit : limit ≠ 0) (entry : Json) :
    entry ∈ Pipeline.upTo limit (List.replicate (limit.natAbs + 1) entry) := by
  unfold Pipeline.upTo
  split
  · rw [List.length_replicate, Nat.add_sub_cancel_left, List.take_replicate, List.mem_replicate]
    exact ⟨by omega, rfl⟩
  · rw [List.take_replicate, List.mem_replicate]
    exact ⟨by omega, rfl⟩

/-- With every candidate an empty file, the bundle of the sample is not empty. -/
theorem sample_gathers (fed : ¬settings.Starved) (reportId : String) :
    ∃ files, (gatherFiles settings (sampleLocalization settings reportId)
      (some Scenario.project)).Returns (Scenario.project, files) := by
  unfold Settings.Starved at fed
  rw [not_or] at fed
  let candidates : List Json :=
    List.replicate (settings.localizeMaxFiles.natAbs + 1) (.obj [("path", .str "main.py")])
  let read := FilesRead.blank (.arr candidates) settings.localizeMaxFiles settings.fixMaxFileBytes
  refine ⟨capBundle settings.fixMaxBundleBytes read.files, ?_⟩
  have found : (collectCandidateFiles (sampleLocalization settings reportId)).Returns candidates := by
    have named : candidates.filterMap (candidateEntry "path" "file") = candidates := by
      rw [List.filterMap_replicate_of_some]
      rfl
    exact named
  have listed : ("main.py", "") ∈ read.files := by
    apply List.mem_filterMap.mpr
    exact ⟨.obj [("path", .str "main.py")], some_candidate_left fed.2 _, rfl⟩
  have filled : (capBundle settings.fixMaxBundleBytes read.files).isEmpty = false := by
    rw [List.isEmpty_eq_false_iff, Ne, capped_empty_iff, not_or]
    exact ⟨fed.1, List.ne_nil_of_mem listed⟩
  refine (returns_bind ..).mpr ⟨_, found, ?_⟩
  refine (returns_bind ..).mpr ⟨read, returns_ask (.remote (.readCandidateFiles ..)) _, ?_⟩
  dsimp only
  rw [filled]
  rfl

theorem fix_asks {reportId : String} {args : FixArgs} {pin : LlmPin}
    (unkeyed : args.requireRequestKey = false) (picks : ∀ resolved, args.pick resolved = pin)
    (fed : ¬settings.Starved) (unpaid : isPaid pin.1 = false)
    (other : pin.1 ≠ "ollama") :
    ∃ request, (proposeFix settings reportId args).Asks (.remote (.acompletion request)) ∧
      ¬request.OnOllama settings := by
  let report : Report := { Scenario.report .fixProposing with id := reportId }
  obtain ⟨files, gathered⟩ := sample_gathers fed reportId
  let completion : CompleteArgs :=
    { model := some pin.2
      messages := .fix report (sampleLocalization settings reportId) files settings.fixEnablePromptCaching
      provider := pin.1, apiKey := args.requestKey, timeout := settings.fixTimeoutSeconds }
  obtain ⟨request, routed, elsewhere⟩ := @routed_elsewhere settings completion pin.2 unpaid other rfl
  refine ⟨request, ?_, elsewhere⟩
  have asked : (askForFix settings args ⟨report, sampleLocalization settings reportId, Scenario.project,
      files⟩).Asks (.remote (.acompletion request)) := by
    refine Asks.after () (returns_ask _ _) ?_
    rw [picks]
    exact (complete_asks routed).before _
  have claimed : (proposeClaimed settings reportId args).Asks (.remote (.acompletion request)) := by
    refine Asks.after (some ⟨report, rfl⟩) (returns_ask (.query (.reportGet reportId)) _) ?_
    refine Asks.after (some (sampleLocalization settings reportId))
      (returns_ask (.query (.latestCompletedLocalization reportId)) _) ?_
    refine Asks.after [] (returns_ask (.query (.fixProposalsForReport reportId)) _) ?_
    refine Asks.after (some Scenario.project) (project_returns "p" ⟨Scenario.project, rfl⟩) ?_
    exact Asks.after _ gathered (asked.before _)
  refine Asks.after () (returns_ask (.note _) _) ?_
  rw [unkeyed]
  exact Asks.after true (locked_returns (returns_ask _ _)) (claimed.guarded _)

end Elsewhere

/-- The provider whose text decides where an action of this kind, admitted as unpaid, sends
its completions; and the ways it makes none. -/
def RoutedLocally (settings : Settings) (project : Project) : Kind → Prop
  | .fixAndOpenPr =>
      (resolveFixLlm settings (some project)).1 = "ollama" ∨
        LLMOverride.validate (some (resolveFixLlm settings (some project)).1)
          (some (resolveFixLlm settings (some project)).2) none none = none ∨
        settings.Starved
  | _ => (resolveLocalLlm settings (some project) .triage).1 = "ollama"

/-- The requester's email is not on the allowlist. -/
def NotAllowlisted (settings : Settings) (action : ListedAction) : Prop :=
  ∀ email, (getField (objectOr action.requestedBy) "email").Returns email →
    ¬(allowlisted settings email).Returns true

section Admitted

variable {settings : Settings} {row : TriageAction}

theorem run_llm_local (mode : row.keyMode = none) (kind : row.kind = .analyzeLocal) :
    runLlm settings row none = (note (.runLlm row.actionId)).bind fun _ =>
      (runLocalAnalysis settings row.reportId
        { triageLlm := row.pinnedLlm.bind PinnedLlm.triage
          localizeLlm := row.pinnedLlm.bind PinnedLlm.localization
          triggerRef := some row.actionId }).bind fun outcome => done (mapLocal outcome) := by
  unfold runLlm
  simp only [mode, kind, reduceCtorEq, if_false, if_true, bind_eq, pure_eq]

theorem run_llm_fix {pin : LlmPin} (off : settings.sonicgridUserKeys = false)
    (mode : row.keyMode = none) (kind : row.kind ≠ .analyzeLocal)
    (pinned : row.pinnedLlm.bind PinnedLlm.fix = some pin) :
    runLlm settings row none = (note (.runLlm row.actionId)).bind fun _ =>
      (makeOverride pin none none).bind fun override =>
        (proposeFix settings row.reportId
          { override := some override, attributionRef := attributionRef row
            triggerRef := some row.actionId }).bind fun outcome => done (mapFix row.kind outcome) := by
  unfold runLlm runLegacyFix
  simp only [mode, kind, off, pinned, reduceCtorEq, if_false, Bool.false_and, bind_eq, pure_eq,
    done_bind, Bool.false_eq_true]

/-- The pinned provider and model win over every later configuration. -/
theorem override_picks {pin : LlmPin} {override : LLMOverride} {user trigger : Option String}
    (built : LLMOverride.validate (some pin.1) (some pin.2) none none = some override)
    (resolved : LlmPin) :
    FixArgs.pick { override := some override, attributionRef := user, triggerRef := trigger }
      resolved = pin := by
  obtain ⟨provider, model, -⟩ := LLMOverride.validate_fields built
  simp [FixArgs.pick, provider, model, orDefault, override.provider_nonempty provider,
    override.model_nonempty model]

theorem local_routed_iff {triage localize : LlmPin} (mode : row.keyMode = none)
    (kind : row.kind = .analyzeLocal) (pinned : row.pinnedLlm = some ⟨some triage, some localize, none⟩)
    (unpaid : isPaid triage.1 = false) (same : localize.1 = triage.1) :
    (∀ request, (runLlm settings row none).Asks (.remote (.acompletion request)) →
      request.OnOllama settings) ↔ triage.1 = "ollama" := by
  rw [run_llm_local mode kind, pinned]
  constructor
  · intro every
    by_contra other
    obtain ⟨request, routed, elsewhere⟩ := @routed_elsewhere settings
      { model := some triage.2, messages := .triage { Scenario.report .triaged with id := row.reportId }
        provider := triage.1 } triage.2 unpaid other rfl
    exact elsewhere (every request
      (Asks.after () (returns_ask (.note _) _) ((local_asks rfl routed).before _)))
  · intro provider request asks
    have only : Only (ollamaOp settings) ((note (.runLlm row.actionId)).bind fun _ =>
        (runLocalAnalysis settings row.reportId
          { triageLlm := some triage, localizeLlm := some localize
            triggerRef := some row.actionId }).bind fun outcome => done (mapLocal outcome)) :=
      only_bind (only_ask trivial) fun _ =>
        only_bind (local_on_ollama provider (same.trans provider)) fun _ => trivial
    exact only.asked asks

theorem fix_routed_iff {pin : LlmPin} (off : settings.sonicgridUserKeys = false)
    (mode : row.keyMode = none) (kind : row.kind ≠ .analyzeLocal)
    (pinned : row.pinnedLlm = some (fixPin pin)) (unpaid : isPaid pin.1 = false) :
    (∀ request, (runLlm settings row none).Asks (.remote (.acompletion request)) →
      request.OnOllama settings) ↔
      pin.1 = "ollama" ∨ LLMOverride.validate (some pin.1) (some pin.2) none none = none ∨
        settings.Starved := by
  have fix : row.pinnedLlm.bind PinnedLlm.fix = some pin := by rw [pinned]; rfl
  rw [run_llm_fix off mode kind fix]
  unfold makeOverride
  cases built : LLMOverride.validate (some pin.1) (some pin.2) none none with
  | none =>
      refine ⟨fun _ => .inr (.inl rfl), fun _ request asks => ?_⟩
      have only : Only (ollamaOp settings) ((note (.runLlm row.actionId)).bind fun _ =>
          (raise validationError : Py Result)) := only_bind (only_ask trivial) fun _ => trivial
      exact only.asked asks
  | some override =>
      have picks := @override_picks pin override (attributionRef row) (some row.actionId) built
      constructor
      · intro every
        by_contra neither
        simp only [not_or] at neither
        obtain ⟨request, asks, elsewhere⟩ := @fix_asks settings row.reportId _ pin rfl picks
          neither.2.2 unpaid neither.1
        exact elsewhere (every request (Asks.after () (returns_ask (.note _) _) (asks.before _)))
      · intro either request asks
        have proposes : (proposeFix settings row.reportId
            { override := some override, attributionRef := attributionRef row
              triggerRef := some row.actionId }).Only (ollamaOp settings) := by
          rcases either with provider | absent | starved
          · exact fix_on_ollama picks provider
          · cases absent
          · exact starved_fix_only starved _ _
        have only : Only (ollamaOp settings) ((note (.runLlm row.actionId)).bind fun _ =>
            (proposeFix settings row.reportId
              { override := some override, attributionRef := attributionRef row
                triggerRef := some row.actionId }).bind fun outcome => done (mapFix row.kind outcome)) :=
          only_bind (only_ask trivial) fun _ => only_bind proposes fun _ => trivial
        exact only.asked asks

end Admitted

/-- With per-user keys off: the completions of an admitted `analyze_local`, or of an admitted
`fix_and_open_pr` of a requester who is not allowlisted, are all on the Ollama branch exactly
when the text of the provider is `ollama`, or none can be made. An unpaid provider as such is
routed there exactly when it is that text. -/
theorem unpaid_routed_locally_iff {settings : Settings} (off : settings.sonicgridUserKeys = false) :
    (∀ (project : Project) (report : Report) (action : ListedAction) (auth : Authorization)
      (row : TriageAction), (authorize settings project report action).Returns auth →
      auth.refusal = none →
      (action.kind = .analyzeLocal ∨
        action.kind = .fixAndOpenPr ∧ NotAllowlisted settings action) →
      row.kind = action.kind → row.pinnedLlm = some auth.pinned → row.keyMode = auth.keyMode →
      ((∀ request, (runLlm settings row none).Asks (.remote (.acompletion request)) →
          request.OnOllama settings) ↔ RoutedLocally settings project action.kind)) ∧
      ∀ provider, isPaid provider = false →
        ((∀ args request, args.provider = provider → args.apiBase = none →
            routeCall settings args = .ok request → request.OnOllama settings) ↔
          provider = "ollama") := by
  refine ⟨fun project report action auth row decided admitted kinds same pinned mode => ?_,
    fun provider unpaid => ⟨fun every => ?_, fun provider args request same unset routed => ?_⟩⟩
  · simp only [authorize, bind_eq, returns_bind] at decided
    obtain ⟨email, answered, decided⟩ := decided
    rcases kinds with kind | ⟨kind, stranger⟩
    · simp only [kind] at decided same
      obtain ⟨rfl, triage, localize⟩ := local_grants decided.symm admitted
      rw [kind]
      exact local_routed_iff mode same pinned triage rfl
    · simp only [kind, off] at decided same
      obtain ⟨rfl, allowed⟩ := legacy_grants decided admitted
      have unpaid : isPaid (resolveFixLlm settings (some project)).1 = false := by
        by_contra paid
        exact stranger email answered (allowed (.inr (by simpa using paid)))
      rw [kind]
      exact fix_routed_iff off mode (by simp [same]) pinned unpaid
  · by_contra other
    obtain ⟨request, routed, elsewhere⟩ := @routed_elsewhere settings
      { model := some "m", messages := .triage (Scenario.report .triaged), provider } "m" unpaid
      other rfl
    exact elsewhere (every _ request rfl rfl routed)
  · exact routed_local (same.trans provider) unset routed

/-- The stored text of the provider has a capital, and its model is a hosted one. -/
def Scenario.capitalized : Project :=
  { Scenario.project with llmProvider := some "Ollama", llmModel := some "gpt-4o" }

def Scenario.analyzeLocal : ListedAction :=
  { id := "a", bugId := "bug", kind := .analyzeLocal, params := .null, consents := .null
    requestedBy := .null }

def Scenario.localGrant : Authorization :=
  { pinned := ⟨some ("Ollama", "gpt-4o"), some ("Ollama", "gpt-4o"), none⟩ }

def Scenario.grantedRow : TriageAction :=
  { Scenario.action .analyzeLocal .dispatched with pinnedLlm := some Scenario.localGrant.pinned }

def Scenario.capitalizedCall : LlmCall :=
  { provider := "Ollama", requestedModel := "gpt-4o", route := .passthrough, model := "gpt-4o"
    apiBase := none, apiKey := none, messages := .triage (Scenario.report .triaged)
    timeout := 120 }

theorem capitalized_admitted : (authorize Scenario.settings Scenario.capitalized
    (Scenario.report .triaged) Scenario.analyzeLocal).Returns Scenario.localGrant := by
  simp only [authorize, bind_eq, returns_bind]
  exact ⟨.null, rfl, rfl⟩

/-- The completions of an action admitted as local on a project whose provider is `Ollama`. -/
theorem unpaid_routed_locally_capitalized :
    (∀ request, (runLlm Scenario.settings Scenario.grantedRow none).Asks
        (.remote (.acompletion request)) → request.OnOllama Scenario.settings) ↔
      RoutedLocally Scenario.settings Scenario.capitalized .analyzeLocal :=
  (unpaid_routed_locally_iff rfl).1 Scenario.capitalized (Scenario.report .triaged)
    Scenario.analyzeLocal Scenario.localGrant Scenario.grantedRow capitalized_admitted rfl (.inl rfl)
    rfl rfl rfl

/-- An admitted local action asks for a completion that is no Ollama call. -/
theorem capitalized_leaves_ollama :
    Scenario.settings.sonicgridUserKeys = false ∧ isPaid "Ollama" = false ∧
      (authorize Scenario.settings Scenario.capitalized (Scenario.report .triaged)
        Scenario.analyzeLocal).Returns Scenario.localGrant ∧
      Scenario.localGrant.refusal = none ∧
      ∃ request, (runLlm Scenario.settings Scenario.grantedRow none).Asks
        (.remote (.acompletion request)) ∧ request.route = .passthrough ∧
        request.model = "gpt-4o" := by
  refine ⟨rfl, by decide, capitalized_admitted, rfl, Scenario.capitalizedCall, ?_, rfl, rfl⟩
  rw [run_llm_local rfl rfl]
  refine Asks.after () (returns_ask (.note _) _) (Asks.before ?_ _)
  exact @local_asks Scenario.settings "r" _ ("Ollama", "gpt-4o") Scenario.capitalizedCall rfl rfl

end Bugalizer
