import Bugalizer.Calls

/-!
# Provider resolution and routing

`resolve_local_llm` and `resolve_fix_llm` choose the provider and model of a stage;
`complete` sends a call down one of three branches by comparing the provider.
-/

namespace Bugalizer

set_option autoImplicit false

open Coroutine Program

inductive LocalStage where
  | triage | localize
deriving DecidableEq, Repr

def resolveLocalLlm (settings : Settings) (project : Option Project) (stage : LocalStage) : LlmPin :=
  let defaultModel :=
    if stage = .triage then settings.defaultTriageModel else settings.defaultLocalizeModel
  match project with
  | none => ("ollama", defaultModel)
  | some project => (orDefault project.llmProvider "ollama", orDefault project.llmModel defaultModel)

def resolveFixLlm (settings : Settings) (project : Option Project) : LlmPin :=
  match project with
  | none => (settings.fixProvider, settings.defaultFixModel)
  | some project =>
      (orDefault project.fixLlmProvider settings.fixProvider,
        orDefault project.fixLlmModel settings.defaultFixModel)

structure LlmResponse where
  content : String
  promptTokens : Nat
  completionTokens : Nat
  model : String
  provider : String

structure CompleteArgs where
  model : Option String
  messages : Prompt
  apiBase : Option String := none
  timeout : Nat := 120
  provider : String := "ollama"
  apiKey : Option String := none

/-- `model` with the provider's marker in front, unless it is there. -/
def marked (marker model : String) : String :=
  if Py.startsWith model marker then model else marker ++ model

/-- The model of the Ollama branch; the default one is always marked. -/
def ollamaModel (settings : Settings) : Option String → String
  | none => "ollama/" ++ settings.defaultTriageModel
  | some model => marked "ollama/" model

/-- The keyword arguments `complete` hands to litellm. -/
def routeCall (settings : Settings) (args : CompleteArgs) : Except Exn LlmCall :=
  if args.provider = "ollama" then
    .ok
      { provider := args.provider
        requestedModel := args.model.getD settings.defaultTriageModel
        route := .ollama
        model := ollamaModel settings args.model
        apiBase := some (orDefault args.apiBase settings.ollamaHost)
        apiKey := none
        messages := args.messages
        timeout := args.timeout }
  else if args.provider = "anthropic" then
    if orDefault args.apiKey settings.anthropicApiKey = "" then
      .error (.runtime "RuntimeError"
        "anthropic provider selected but BUGALIZER_ANTHROPIC_API_KEY is not set. Set the env var or pass api_key= explicitly.")
    else
      .ok
        { provider := args.provider
          requestedModel := args.model.getD settings.defaultFixModel
          route := .anthropic
          model := marked "anthropic/" (args.model.getD settings.defaultFixModel)
          apiBase := none
          apiKey := some (orDefault args.apiKey settings.anthropicApiKey)
          messages := args.messages
          timeout := args.timeout }
  else
    match args.model with
    | none =>
        .error (.plain "ValueError"
          ("provider '" ++ args.provider ++ "' requires an explicit litellm model string"))
    | some model =>
        .ok
          { provider := args.provider
            requestedModel := model
            route := .passthrough
            model
            apiBase := none
            apiKey := nonBlank args.apiKey
            messages := args.messages
            timeout := args.timeout }

def complete (settings : Settings) (args : CompleteArgs) : Py LlmResponse := do
  match routeCall settings args with
  | .error error => raise error
  | .ok request => do
      let completion ← remote (.acompletion request)
      pure
        { content := completion.content
          promptTokens := completion.promptTokens
          completionTokens := completion.completionTokens
          model := request.model
          provider := args.provider }

theorem routed_ollama_iff {settings : Settings} {args : CompleteArgs} {call : LlmCall}
    (routed : routeCall settings args = .ok call) :
    call.route = .ollama ↔ args.provider = "ollama" := by
  unfold routeCall at routed
  split at routed
  · rename_i isOllama
    cases routed
    simp [isOllama]
  · rename_i notOllama
    split at routed
    · split at routed <;> cases routed
      simp [notOllama]
    · split at routed <;> cases routed
      simp [notOllama]

theorem routed_provider {settings : Settings} {args : CompleteArgs} {call : LlmCall}
    (routed : routeCall settings args = .ok call) : call.provider = args.provider := by
  unfold routeCall at routed
  split at routed
  · cases routed
    rfl
  · split at routed
    · split at routed <;> cases routed
      rfl
    · split at routed <;> cases routed
      rfl

theorem routed_messages {settings : Settings} {args : CompleteArgs} {call : LlmCall}
    (routed : routeCall settings args = .ok call) : call.messages = args.messages := by
  unfold routeCall at routed
  split at routed
  · cases routed
    rfl
  · split at routed
    · split at routed <;> cases routed
      rfl
    · split at routed <;> cases routed
      rfl

theorem routed_key {settings : Settings} {args : CompleteArgs} {call : LlmCall} {key : String}
    (anthropic : args.provider = "anthropic") (given : args.apiKey = some key) (filled : key ≠ "")
    (routed : routeCall settings args = .ok call) : call.apiKey = some key := by
  have notOllama : args.provider ≠ "ollama" := by simp [anthropic]
  unfold routeCall at routed
  rw [if_neg notOllama, if_pos anthropic, given] at routed
  have kept : orDefault (some key) settings.anthropicApiKey = key := by simp [orDefault, filled]
  rw [kept, if_neg filled] at routed
  cases routed
  rfl

theorem routed_model {settings : Settings} {args : CompleteArgs} {call : LlmCall} {model : String}
    (chosen : args.model = some model) (routed : routeCall settings args = .ok call) :
    call.requestedModel = model := by
  unfold routeCall at routed
  rw [chosen] at routed
  split at routed
  · cases routed
    rfl
  · split at routed
    · split at routed <;> cases routed
      rfl
    · cases routed
      rfl

end Bugalizer
