import Bugalizer.Store.Grouping

/-!
# `token_usage_summary`

The ledger of the models' tokens, and what is told of it: the totals, the same by provider and
model, and the same by who paid. A cost is a `REAL`, whose arithmetic is a parameter.
-/

namespace Bugalizer.Usage

set_option autoImplicit false

open Store

/-- A row of `token_usage`; the columns the summary reads. -/
structure Row (Cost : Type) where
  projectId : String
  provider : String
  model : String
  promptTokens : Nat
  completionTokens : Nat
  cost : Cost
  keySource : Option String
  keyRef : Option String

/-- `token_usage` beside the projects it refers to, whose ids `_new_id` drew. -/
structure Ledger (Cost : Type) where
  projects : List String
  distinct : projects.Nodup
  drawn : "" ∉ projects
  rows : List (Row Cost)
  foreign : ∀ row ∈ rows, row.projectId ∈ projects

/-- How costs add up: `SUM` over a group, and `+=` over the groups. -/
structure Arithmetic (Cost : Type) where
  sum : List Cost → Cost
  zero : Cost
  add : Cost → Cost → Cost

structure Totals (Cost : Type) where
  promptTokens : Nat
  completionTokens : Nat
  estimatedCostUsd : Cost

structure Attribution (Cost : Type) where
  keySource : Option String
  keyRef : Option String
  calls : Nat
  totals : Totals Cost

structure Summary (Cost : Type) where
  totals : Totals Cost
  byProvider : Mapping String (Totals Cost)
  attribution : List (Attribution Cost)

variable {Cost : Type} (arithmetic : Arithmetic Cost)

namespace Row

/-- `GROUP BY provider, model`. -/
def llm (row : Row Cost) : String × String := (row.provider, row.model)

/-- `GROUP BY key_source, key_ref`. -/
def payer (row : Row Cost) : Option String × Option String := (row.keySource, row.keyRef)

end Row

/-- The order of a column, `NULL` first. -/
def columnBelow : Option String → Option String → Bool
  | none, _ => true
  | some _, none => false
  | some first, some second => decide (first ≤ second)

def llmBelow (first second : String × String) : Bool :=
  if first.1 = second.1 then decide (first.2 ≤ second.2) else decide (first.1 ≤ second.1)

def payerBelow (first second : Option String × Option String) : Bool :=
  if first.1 = second.1 then columnBelow first.2 second.2 else columnBelow first.1 second.1

/-- `if project_id:`, so an empty id filters nothing. -/
def matching (projectId : Option String) (rows : List (Row Cost)) : List (Row Cost) :=
  match projectId with
  | none => rows
  | some id => if id = "" then rows else rows.filter fun row => row.projectId = id

def totalsOf (rows : List (Row Cost)) : Totals Cost where
  promptTokens := (rows.map Row.promptTokens).sum
  completionTokens := (rows.map Row.completionTokens).sum
  estimatedCostUsd := arithmetic.sum (rows.map Row.cost)

/-- The key of `by_provider`. -/
def providerKey (llm : String × String) : String := llm.1 ++ "/" ++ llm.2

def tokenUsageSummary (projectId : Option String) (rows : List (Row Cost)) : Summary Cost :=
  let found := matching projectId rows
  let llms := groupKeys llmBelow Row.llm found
  let spent := llms.map fun llm => totalsOf arithmetic (group Row.llm found llm)
  { totals :=
      { promptTokens := (spent.map Totals.promptTokens).sum
        completionTokens := (spent.map Totals.completionTokens).sum
        estimatedCostUsd := (spent.map Totals.estimatedCostUsd).foldl arithmetic.add arithmetic.zero }
    byProvider :=
      Mapping.named providerKey (fun llm => totalsOf arithmetic (group Row.llm found llm)) llms
    attribution :=
      (groupKeys payerBelow Row.payer found).map fun payer =>
        { keySource := payer.1
          keyRef := payer.2
          calls := (group Row.payer found payer).length
          totals := totalsOf arithmetic (group Row.payer found payer) } }

/-- The sums of a row's provider and model among the rows. -/
def spentOn (found : List (Row Cost)) (llm : String × String) : Totals Cost :=
  totalsOf arithmetic (group Row.llm found llm)

/-- The totals are those of either breakdown, the calls are the rows, the projects' totals are the
ledger's, and each row's group stands in both breakdowns with its own sums. -/
structure Conserved (ledger : Ledger Cost) (projectId : Option String) : Prop where
  promptByProvider :
    (tokenUsageSummary arithmetic projectId ledger.rows).totals.promptTokens =
      ((tokenUsageSummary arithmetic projectId ledger.rows).byProvider.map fun entry =>
        entry.2.promptTokens).sum
  completionByProvider :
    (tokenUsageSummary arithmetic projectId ledger.rows).totals.completionTokens =
      ((tokenUsageSummary arithmetic projectId ledger.rows).byProvider.map fun entry =>
        entry.2.completionTokens).sum
  promptByPayer :
    (tokenUsageSummary arithmetic projectId ledger.rows).totals.promptTokens =
      ((tokenUsageSummary arithmetic projectId ledger.rows).attribution.map fun entry =>
        entry.totals.promptTokens).sum
  completionByPayer :
    (tokenUsageSummary arithmetic projectId ledger.rows).totals.completionTokens =
      ((tokenUsageSummary arithmetic projectId ledger.rows).attribution.map fun entry =>
        entry.totals.completionTokens).sum
  calls :
    ((tokenUsageSummary arithmetic projectId ledger.rows).attribution.map Attribution.calls).sum =
      (matching projectId ledger.rows).length
  promptByProject :
    (ledger.projects.map fun id =>
      (tokenUsageSummary arithmetic (some id) ledger.rows).totals.promptTokens).sum =
        (tokenUsageSummary arithmetic none ledger.rows).totals.promptTokens
  completionByProject :
    (ledger.projects.map fun id =>
      (tokenUsageSummary arithmetic (some id) ledger.rows).totals.completionTokens).sum =
        (tokenUsageSummary arithmetic none ledger.rows).totals.completionTokens
  provided : ∀ row ∈ matching projectId ledger.rows,
    (providerKey row.llm, spentOn arithmetic (matching projectId ledger.rows) row.llm) ∈
      (tokenUsageSummary arithmetic projectId ledger.rows).byProvider
  paid : ∀ row ∈ matching projectId ledger.rows,
    ({ keySource := row.keySource
       keyRef := row.keyRef
       calls := (group Row.payer (matching projectId ledger.rows) row.payer).length
       totals := totalsOf arithmetic (group Row.payer (matching projectId ledger.rows) row.payer) } :
      Attribution Cost) ∈ (tokenUsageSummary arithmetic projectId ledger.rows).attribution

/-- Different models whose keys are spelt alike have the same sums, and no tokens. -/
def SpeltApart (found : List (Row Cost)) : Prop :=
  ∀ first ∈ found, ∀ second ∈ found, first.llm ≠ second.llm →
    providerKey first.llm = providerKey second.llm →
      spentOn arithmetic found first.llm = spentOn arithmetic found second.llm ∧
        (spentOn arithmetic found first.llm).promptTokens = 0 ∧
          (spentOn arithmetic found first.llm).completionTokens = 0

section Sums

variable (amount : Row Cost → Nat)

theorem sum_by_llm (found : List (Row Cost)) :
    ((groupKeys llmBelow Row.llm found).map fun llm => ((group Row.llm found llm).map amount).sum).sum =
      (found.map amount).sum :=
  sum_group_by llmBelow Row.llm amount found

theorem sum_by_payer (found : List (Row Cost)) :
    ((groupKeys payerBelow Row.payer found).map fun payer =>
      ((group Row.payer found payer).map amount).sum).sum = (found.map amount).sum :=
  sum_group_by payerBelow Row.payer amount found

theorem sum_by_project (ledger : Ledger Cost) :
    (ledger.projects.map fun id => ((matching (some id) ledger.rows).map amount).sum).sum =
      (ledger.rows.map amount).sum := by
  have filtered : ∀ id ∈ ledger.projects,
      ((matching (some id) ledger.rows).map amount).sum =
        ((group Row.projectId ledger.rows id).map amount).sum := by
    intro id member
    have named : id ≠ "" := fun empty => ledger.drawn (empty ▸ member)
    simp only [matching, if_neg named, group]
  rw [← sum_groups Row.projectId amount ledger.distinct ledger.foreign]
  exact congrArg List.sum (List.map_congr_left filtered)

end Sums

theorem total_prompt (projectId : Option String) (rows : List (Row Cost)) :
    (tokenUsageSummary arithmetic projectId rows).totals.promptTokens =
      ((matching projectId rows).map Row.promptTokens).sum := by
  rw [← sum_by_llm]
  simp only [tokenUsageSummary, List.map_map]
  rfl

theorem total_completion (projectId : Option String) (rows : List (Row Cost)) :
    (tokenUsageSummary arithmetic projectId rows).totals.completionTokens =
      ((matching projectId rows).map Row.completionTokens).sum := by
  rw [← sum_by_llm]
  simp only [tokenUsageSummary, List.map_map]
  rfl

theorem payer_prompt (projectId : Option String) (rows : List (Row Cost)) :
    ((tokenUsageSummary arithmetic projectId rows).attribution.map fun entry =>
      entry.totals.promptTokens).sum = ((matching projectId rows).map Row.promptTokens).sum := by
  rw [← sum_by_payer]
  simp only [tokenUsageSummary, List.map_map]
  rfl

theorem payer_completion (projectId : Option String) (rows : List (Row Cost)) :
    ((tokenUsageSummary arithmetic projectId rows).attribution.map fun entry =>
      entry.totals.completionTokens).sum = ((matching projectId rows).map Row.completionTokens).sum := by
  rw [← sum_by_payer]
  simp only [tokenUsageSummary, List.map_map]
  rfl

theorem payer_calls (projectId : Option String) (rows : List (Row Cost)) :
    ((tokenUsageSummary arithmetic projectId rows).attribution.map Attribution.calls).sum =
      (matching projectId rows).length := by
  have covered : ∀ row ∈ matching projectId rows,
      row.payer ∈ groupKeys payerBelow Row.payer (matching projectId rows) :=
    fun row member => mem_group_keys.mpr ⟨row, member, rfl⟩
  rw [← length_groups Row.payer (group_keys_nodup payerBelow Row.payer _) covered]
  simp only [tokenUsageSummary, List.map_map]
  rfl

/-- The sums over `by_provider`, against those of the groups it was built from. -/
theorem llm_sums (found : List (Row Cost)) (amount : Row Cost → Nat) (told : Totals Cost → Nat)
    (tells : ∀ rows : List (Row Cost), told (totalsOf arithmetic rows) = (rows.map amount).sum) :
    ((groupKeys llmBelow Row.llm found).map fun llm => told (spentOn arithmetic found llm)).sum =
      (found.map amount).sum := by
  rw [← sum_by_llm]
  congr 1
  apply List.map_congr_left
  intro llm _
  exact tells _

/-- The summary conserves every row's spend exactly when the models that share a key of
`by_provider` are the same one, or have spent nothing that differs. -/
theorem summary_conserves_iff (ledger : Ledger Cost) (projectId : Option String) :
    Conserved arithmetic ledger projectId ↔
      SpeltApart arithmetic (matching projectId ledger.rows) := by
  have distinct := group_keys_nodup llmBelow Row.llm (matching projectId ledger.rows)
  have listed : ∀ {llm : String × String},
      llm ∈ groupKeys llmBelow Row.llm (matching projectId ledger.rows) ↔
        ∃ row ∈ matching projectId ledger.rows, row.llm = llm := mem_group_keys
  have prompts := llm_sums arithmetic (matching projectId ledger.rows) Row.promptTokens
    Totals.promptTokens fun _ => rfl
  have completions := llm_sums arithmetic (matching projectId ledger.rows) Row.completionTokens
    Totals.completionTokens fun _ => rfl
  constructor
  · intro conserved first here second there apart shared
    have keeps : ∀ llm ∈ groupKeys llmBelow Row.llm (matching projectId ledger.rows),
        (providerKey llm, spentOn arithmetic (matching projectId ledger.rows) llm) ∈
          (tokenUsageSummary arithmetic projectId ledger.rows).byProvider := by
      intro llm member
      obtain ⟨row, present, rfl⟩ := listed.mp member
      exact conserved.provided row present
    have first_listed := listed.mpr ⟨first, here, rfl⟩
    have second_listed := listed.mpr ⟨second, there, rfl⟩
    have alike := (Mapping.named_keeps_iff _ _).mp keeps
    have prompt := conserved.promptByProvider
    have completion := conserved.completionByProvider
    rw [total_prompt, ← prompts] at prompt
    rw [total_completion, ← completions] at completion
    refine ⟨alike _ first_listed _ second_listed shared, ?_, ?_⟩
    · exact (Mapping.named_sum_iff distinct _ _ Totals.promptTokens keeps).mp prompt.symm
        _ first_listed _ second_listed apart shared
    · exact (Mapping.named_sum_iff distinct _ _ Totals.completionTokens keeps).mp completion.symm
        _ first_listed _ second_listed apart shared
  · intro spelt
    have keeps : ∀ llm ∈ groupKeys llmBelow Row.llm (matching projectId ledger.rows),
        (providerKey llm, spentOn arithmetic (matching projectId ledger.rows) llm) ∈
          (tokenUsageSummary arithmetic projectId ledger.rows).byProvider := by
      apply (Mapping.named_keeps_iff _ _).mpr
      intro first here second there shared
      obtain ⟨one, present, rfl⟩ := listed.mp here
      obtain ⟨other, also, rfl⟩ := listed.mp there
      by_cases same : one.llm = other.llm
      · rw [same]
      · exact (spelt one present other also same shared).1
    have worthless : ∀ first ∈ groupKeys llmBelow Row.llm (matching projectId ledger.rows),
        ∀ second ∈ groupKeys llmBelow Row.llm (matching projectId ledger.rows), first ≠ second →
          providerKey first = providerKey second →
            (spentOn arithmetic (matching projectId ledger.rows) first).promptTokens = 0 ∧
              (spentOn arithmetic (matching projectId ledger.rows) first).completionTokens = 0 := by
      intro first here second there apart shared
      obtain ⟨one, present, rfl⟩ := listed.mp here
      obtain ⟨other, also, rfl⟩ := listed.mp there
      exact (spelt one present other also apart shared).2
    have prompt := (Mapping.named_sum_iff distinct _ _ Totals.promptTokens keeps).mpr
      fun first here second there apart shared => (worthless first here second there apart shared).1
    have completion := (Mapping.named_sum_iff distinct _ _ Totals.completionTokens keeps).mpr
      fun first here second there apart shared => (worthless first here second there apart shared).2
    constructor
    · rw [total_prompt, ← prompts]
      exact prompt.symm
    · rw [total_completion, ← completions]
      exact completion.symm
    · rw [total_prompt, payer_prompt]
    · rw [total_completion, payer_completion]
    · exact payer_calls arithmetic projectId ledger.rows
    · simp only [total_prompt]
      exact sum_by_project Row.promptTokens ledger
    · simp only [total_completion]
      exact sum_by_project Row.completionTokens ledger
    · intro row member
      exact keeps row.llm (listed.mpr ⟨row, member, rfl⟩)
    · intro row member
      exact List.mem_map.mpr ⟨row.payer, mem_group_keys.mpr ⟨row, member, rfl⟩, rfl⟩

def counted : Arithmetic Nat := ⟨List.sum, 0, (· + ·)⟩

def routed (provider model : String) (tokens : Nat) : Row Nat where
  projectId := "p"
  provider := provider
  model := model
  promptTokens := tokens
  completionTokens := tokens
  cost := tokens
  keySource := some "env"
  keyRef := none

/-- `openrouter/meta` with `llama`, and `openrouter` with `meta/llama`. -/
def colliding : Ledger Nat where
  projects := ["p"]
  distinct := List.nodup_singleton _
  drawn := by simp
  rows := [routed "openrouter/meta" "llama" 10, routed "openrouter" "meta/llama" 5]
  foreign := by simp [routed]

/-- Both groups are written under one key, and the second overwrites the first. -/
theorem colliding_models_lose_tokens : ¬Conserved counted colliding none := by
  intro conserved
  have first := conserved.provided (routed "openrouter/meta" "llama" 10) List.mem_cons_self
  have second := conserved.provided (routed "openrouter" "meta/llama" 5)
    (List.mem_cons_of_mem _ List.mem_cons_self)
  have shared : providerKey (routed "openrouter/meta" "llama" 10).llm =
      providerKey (routed "openrouter" "meta/llama" 5).llm := by decide
  rw [shared] at first
  have same := congrArg Totals.promptTokens (Mapping.named_single _ _ first second)
  have apart : (spentOn counted (matching none colliding.rows)
      (routed "openrouter/meta" "llama" 10).llm).promptTokens ≠
        (spentOn counted (matching none colliding.rows)
          (routed "openrouter" "meta/llama" 5).llm).promptTokens := by decide
  exact apart same

end Bugalizer.Usage
