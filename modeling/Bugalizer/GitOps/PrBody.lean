import Bugalizer.Calls

/-!
# The body of a pull request
-/

namespace Bugalizer

set_option autoImplicit false

def prBodyFooter : String :=
  "Opened by Bugalizer. A human reviews and merges; Bugalizer never merges."

def maxPrBodyChars : Nat := 60000

/-- `produced_by`: an analysis without a provider is `unknown`. -/
def producedBy (analysis : Option Analysis) : String :=
  match analysis.bind fun row => (nonBlank row.llmProvider).map fun provider => (row, provider) with
  | none => "unknown"
  | some (row, provider) =>
      (if provider = "ollama" then "local" else "cloud") ++ " tier, `" ++ provider ++ "/" ++
        orDefault row.llmModel "?" ++ "`"

/-- `items or [other]`. -/
def orElseLines (other : String) (items : List String) : List String :=
  if items.isEmpty then [other] else items

section Body

-- `f"{confidence:.2f}"` of the text of a number.
variable (twoPlaces : String → String)

def prBodyLines (report : Report) (proposal : FixProposal) (analysis : Option Analysis) :
    List String :=
  ["Bugalizer report `" ++ report.id ++ "`: " ++ report.title,
    "",
    "## Root cause",
    orDefault (some proposal.rootCause) "(none recorded)",
    "",
    "## Explanation",
    orDefault (some proposal.explanation) "(none recorded)",
    "",
    "**Confidence:** " ++ twoPlaces proposal.confidence,
    "",
    "## Files changed"] ++
  orElseLines "(none listed)" (proposal.filesChanged.map fun file => "- `" ++ file ++ "`") ++
  ["",
    "**Produced by:** " ++ producedBy analysis,
    "**Fix proposal:** `" ++ proposal.id ++ "`",
    "",
    "---",
    prBodyFooter]

def prBody (report : Report) (proposal : FixProposal) (analysis : Option Analysis) : String :=
  let body := String.intercalate "\n" (prBodyLines twoPlaces report proposal analysis)
  if maxPrBodyChars < body.length then
    String.ofList (body.toList.take (maxPrBodyChars - prBodyFooter.length - 20)) ++
      "\n\n(truncated)\n\n" ++ prBodyFooter
  else body

theorem pr_body_bounded (report : Report) (proposal : FixProposal) (analysis : Option Analysis) :
    (prBody twoPlaces report proposal analysis).length ≤ maxPrBodyChars := by
  have footer : prBodyFooter.length ≤ 100 := by decide
  have mark : "\n\n(truncated)\n\n".length = 15 := by decide
  unfold prBody
  dsimp only
  split
  · rw [String.length_append, String.length_append, String.length_ofList, List.length_take, mark]
    unfold maxPrBodyChars
    omega
  · rename_i short
    exact not_lt.mp short

theorem produced_by_named (report : Report) (proposal : FixProposal) (analysis : Option Analysis) :
    "**Produced by:** " ++ producedBy analysis ∈ prBodyLines twoPlaces report proposal analysis := by
  unfold prBodyLines
  apply List.mem_append_right
  exact List.mem_cons_of_mem _ List.mem_cons_self

end Body

end Bugalizer
