import Bugalizer.System

/-!
# Small worlds to run the process on

A database with one report, one project and one action, an outside that answers every call
in one way, and the choices of a scheduler.
-/

namespace Bugalizer

set_option autoImplicit false

open Coroutine Store

namespace Scenario

def settings : Settings :=
  { defaultTriageModel := "qwen", defaultLocalizeModel := "qwen", ollamaHost := "http://ollama"
    fixProvider := "anthropic", defaultFixModel := "claude", anthropicApiKey := "env-key"
    localizeMaxFiles := 3, localizeMaxFileChars := 8000, fixMaxBundleBytes := 1000
    fixMaxFileBytes := 1000, fixEnablePromptCaching := true, fixTimeoutSeconds := 600
    githubToken := some "token", githubWebBase := "https://github.com"
    triageActionTimeout := 45, triageActionTimeoutText := "45", triageMaxConcurrent := 1
    triagePushPerTick := 20, sonicgridCloudUsers := "", sonicgridUserKeys := false, casefold := id }

def report (status : BugStatus) : Report :=
  { id := "r", projectId := "p", title := "title", description := "text", featureArea := .null
    severity := .str "medium", status, analysisMode := .str "auto", claimToken := none
    resolutionReason := none, externalId := some "bug", createdAt := 0, updatedAt := 0 }

def project : Project :=
  { id := "p", repoUrl := "https://github.com/o/r", repoPath := some "/repos/p"
    headSha := some "sha", defaultBranch := some "main", llmProvider := some "ollama"
    llmModel := some "qwen", fixLlmProvider := none, fixLlmModel := none
    ingestSource := some "sonicgrid"
    ingestConfig := .obj [("triage_credential_env", .str "TOKEN")], createdAt := 0, updatedAt := 0 }

/-- A localization of the report at the project's HEAD, made at this time. -/
def localized (createdAt : Nat) : Analysis :=
  { id := "loc", bugReportId := "r", phase := .localization, status := .completed
    result := some (.obj [("repo_sha", .str "sha")]), llmProvider := none, llmModel := none
    promptTokens := 0, completionTokens := 0, startedAt := none, completedAt := some createdAt
    triggerRef := none, createdAt }

def action (kind : Kind) (phase : LedgerPhase) : TriageAction :=
  { LedgerWrite.reservedRow "a" "p" "r" kind (.obj []) none 0 with phase, intentAt := some 0 }

def database (status : BugStatus) (actions : TriageActions) : Database :=
  { Database.empty with
    reports := ⟨[report status], List.nodup_singleton _⟩
    projects := ⟨[project], List.nodup_singleton _⟩
    ledger := actions }

def single (row : TriageAction) : TriageActions := ⟨[row], List.nodup_singleton _⟩

def world (db : Database) : World := World.initial db settings

/-- Every database call commits, every helper and every request fails. -/
def outside (clock : Nat) : (op : Op) → op.Env
  | .remote _ => .error ⟨.other, .of "Error", ""⟩
  | .compute _ => .error ⟨.other, .of "Error", ""⟩
  | .observe .clock => clock
  | .observe (.resolveEnvCredential _) => some "secret"
  | .observe (.parseGithubSlug _) => some ("o", "r")
  | .observe (.cloneExists _) => true
  | .observe (.trailer ..) => none
  | .observe (.formatted _) => ""
  | .newToken => "token"
  | .query _ | .report _ | .stage _ | .ledger _ | .joint _ | .project .. | .outbox _ | .memory _
  | .acquire _ | .dbWriteLock | .note _ | .createTask .. => ⟨none, clock, "id"⟩

/-- A sonicgrid that lists one action and answers its claim with this status. -/
def grid (clock : Nat) (listed : Json) (claimed : Nat) : (op : Op) → op.Env
  | .compute (.triageBaseUrl _) => .ok (some "https://grid")
  | .remote (.listActions ..) => .ok ⟨200, some (.obj [("actions", .arr [listed])])⟩
  | .remote (.advance ..) => .ok ⟨claimed, none⟩
  | op => outside clock op

/-- A pending action of the report, as it is listed. -/
def pending (kind : String) (requestedBy : Json) : Json :=
  .obj [("id", .str "a"), ("bugId", .str "bug"), ("kind", .str kind), ("state", .str "pending"),
    ("requestedBy", requestedBy)]

/-- So many steps of one task. -/
def steps (id : Nat) (oracle : (op : Op) → op.Env) (count : Nat) :
    List (Choice Op Op.Env Job Boot) := List.replicate count (.advance id oracle)

end Scenario

end Bugalizer
