import Bugalizer.Sync.Stage
import Bugalizer.Wire.Schema

/-!
# Result payloads

The full picture of one report, built field by field against the contract of the other side,
and its fingerprint.
-/

namespace Bugalizer.Results

set_option autoImplicit false

open Wire

def summaryMax : Nat := 2000
def categoryMax : Nat := 50
def longTextMax : Nat := 20000
def candidatesMax : Nat := 50
def pathMax : Nat := 500
def reasonMax : Nat := 2000
def diffMaxBytes : Nat := 256 * 1024
def prUrlMax : Nat := 500
def branchMax : Nat := 255
def modelMax : Nat := 120

def statuses : List String :=
  ["submitted", "validating", "triaged", "analyzing", "clarification_needed", "fix_proposing",
    "fix_proposed", "fix_approved", "fix_committed", "verified", "closed", "rejected", "duplicate",
    "deferred"]

def severities : List String := ["critical", "high", "medium", "low"]

def modes : List String := ["auto", "local_only", "hold"]

def prStates : List String := ["open", "merged", "closed"]

def text (value : Value) (limit : Nat) : Value :=
  match value with
  | .str text => if text = [] then .null else .str (text.take limit)
  | _ => .null

/-- `_unit`: a number in 0..1, or `None`. -/
def unit : Value → Except Raised Value
  | .int value => do
      let nan ← isnanInt value
      pure (if nan ∨ value < 0 ∨ 1 < value then .null
        else .real (.finite false value.toNat))
  | .real value => pure (if value = .nan ∨ value.outsideUnit then .null else .real value)
  | _ => pure .null

def latestCompleted (analyses : List AnalysisRow) (phase : String) : Option AnalysisRow :=
  analyses.find? fun row => row.phase == phase && row.status == "completed"

def withProvider (provider model : String) : String :=
  if provider = "" ∨ (provider ++ "/").toList.isPrefixOf model.toList = true then model
  else provider ++ "/" ++ model

def modelLabel (analysis : Option AnalysisRow) : Value :=
  match analysis.bind AnalysisRow.llmModel with
  | none => .null
  | some model =>
      let provider := (analysis.bind AnalysisRow.llmProvider).getD ""
      if model = "" then .null
      else .str ((Text.of (withProvider provider model)).take modelMax)

/-- `_fix_analysis`: the newest completed fix created no later than the proposal. -/
def fixAnalysis (analyses : List AnalysisRow) (proposal : Option ProposalRow) :
    Option AnalysisRow :=
  proposal.bind fun proposal =>
    if proposal.createdAt = "" then none
    else analyses.find? fun row =>
      row.phase == "fix" && row.status == "completed" && decide (row.createdAt ≤ proposal.createdAt)

/-- `result.get(key)` of the result of a row, if there is one. -/
def resultGet (analysis : Option AnalysisRow) (key : String) : Value :=
  (analysis.elim .null AnalysisRow.result).get key

/-- The entry behind an item of `candidate_files`, with its path: an item that is a text is
the path itself, and one without a path is passed over. -/
def candidateEntry (item : Value) : Option (Value × Value) :=
  let entry : Value := match item with
    | .str path => .dict [(Text.of "path", .str path)]
    | item => item
  match entry with
  | .dict _ =>
      let named := if (entry.get "path").truthy then entry.get "path" else entry.get "file"
      match text named pathMax with
      | .null => none
      | path => some (path, entry)
  | _ => none

def candidateFile (named : Value × Value) : Except Raised Value := do
  let relevance ← unit (named.2.get "relevance")
  pure (.dict
    [(Text.of "path", named.1), (Text.of "relevance", relevance),
      (Text.of "reason", text (named.2.get "reason") reasonMax)])

def candidateLoop (out : List Value) : List Value → Except Raised (List Value)
  | [] => pure out
  | item :: items =>
      match candidateEntry item with
      | none => candidateLoop out items
      | some named => do
          let file ← candidateFile named
          let out := out ++ [file]
          if out.length = candidatesMax then pure out else candidateLoop out items

def candidates (localization : Option AnalysisRow) : Except Raised Value :=
  match (resultGet localization "pass1").get "candidate_files" with
  | .list raw => (candidateLoop [] raw).map .list
  | _ => pure .null

def hypothesis (localization : Option AnalysisRow) : Value :=
  text ((resultGet localization "pass2").get "root_cause_hypothesis") longTextMax

/-- `_diff`: over the limit, `None`. -/
def diff : Value → Except Raised Value
  | .str text =>
      if text = [] then pure .null
      else do
        let encoded ← text.encode
        pure (if encoded.length ≤ diffMaxBytes then .str text else .null)
  | _ => pure .null

def prUrl : Value → Value
  | .str url =>
      if (Text.of "https://").isPrefixOf url ∧ url.length ≤ prUrlMax then .str url else .null
  | _ => .null

/-- `value if value in allowed else other`. -/
def among (allowed : List String) (other : Value) (value : Option String) : Value :=
  match value with
  | some text => if text ∈ allowed then .str (Text.of text) else other
  | none => other

/-- The recorded pull request: nothing without a positive number and a branch. -/
def pullRequest (recorded : Option ProposalRow) : Value :=
  match recorded.bind ProposalRow.prNumber with
  | some number =>
      if 0 < number then
        match text (Value.column (recorded.bind ProposalRow.branchName)) branchMax with
        | .null => .null
        | branch => .dict [(Text.of "number", .int number), (Text.of "branch", branch)]
      else .null
  | none => .null

def updatedAt (rows : Rows) : String :=
  let stamps := rows.analyses.flatMap (fun row => [row.completedAt.getD "", row.createdAt]) ++
    rows.proposals.map ProposalRow.updatedAt
  stamps.foldl (fun newest stamp => if newest < stamp then stamp else newest)
    (orElse rows.report.createdAt (some rows.report.updatedAt))

def publicPart (rows : Rows) : Value :=
  let triage := latestCompleted rows.analyses "triage"
  let recorded := rows.proposals.find? fun row => row.prUrl.any (· != "")
  .dict
    [(Text.of "pipelineStatus",
        among statuses (.str (Text.of "submitted")) (some rows.report.status)),
      (Text.of "summary", text (resultGet triage "summary") summaryMax),
      (Text.of "severity", among severities .null rows.report.severity),
      (Text.of "prUrl", prUrl (Value.column (recorded.bind ProposalRow.prUrl))),
      (Text.of "stage", .str (Text.of (stageOf rows).1)),
      (Text.of "stageDetail", .str (Text.of (stageOf rows).2)),
      (Text.of "prState", among prStates .null (recorded.bind ProposalRow.prState))]

/-- The fields of the second part, given those whose helpers may raise. -/
def adminFields (rows : Rows) (triageConfidence candidateFiles diff fixConfidence : Value) :
    Value :=
  let triage := latestCompleted rows.analyses "triage"
  let localization := latestCompleted rows.analyses "localization"
  let proposal := rows.proposals.head?
  let recorded := rows.proposals.find? fun row => row.prUrl.any (· != "")
  .dict
    [(Text.of "analysisMode", among modes .null (some rows.report.analysisMode)),
      (Text.of "localized", .bool localization.isSome),
      (Text.of "category", text (resultGet triage "category") categoryMax),
      (Text.of "triageConfidence", triageConfidence),
      (Text.of "rootCause",
        text (Value.column (proposal.bind ProposalRow.rootCause)) longTextMax),
      (Text.of "rootCauseHypothesis", hypothesis localization),
      (Text.of "explanation",
        text (Value.column (proposal.bind ProposalRow.explanation)) longTextMax),
      (Text.of "candidateFiles", candidateFiles),
      (Text.of "diff", diff),
      (Text.of "fixConfidence", fixConfidence),
      (Text.of "pr", pullRequest recorded),
      (Text.of "triageModel", modelLabel triage),
      (Text.of "localizationModel", modelLabel localization),
      (Text.of "fixModel", modelLabel (fixAnalysis rows.analyses proposal))]

def adminPart (rows : Rows) : Except Raised Value := do
  let proposal := rows.proposals.head?
  let triageConfidence ← unit (resultGet (latestCompleted rows.analyses "triage") "confidence")
  let candidateFiles ← candidates (latestCompleted rows.analyses "localization")
  let diff ← diff (Value.column (proposal.bind ProposalRow.diff))
  let fixConfidence ← unit ((proposal.bind ProposalRow.confidence).elim .null .real)
  pure (adminFields rows triageConfidence candidateFiles diff fixConfidence)

def buildPayload (rows : Rows) : Except Raised Value := do
  let admin ← adminPart rows
  pure (.dict
    [(Text.of "bugalizerUpdatedAt", .str (Text.of (updatedAt rows))),
      (Text.of "public", publicPart rows), (Text.of "admin", admin)])

def withoutRevision : Value → Value
  | .dict fields => .dict (fields.filter fun field => field.1 != Text.of "revision")
  | other => other

section Fingerprint

variable (repr : Double → String) (sha256 : List UInt8 → String)

def canonical (payload : Value) : Text := dumps repr payload

/-- The hash of the whole payload except `revision`. -/
def fingerprint (payload : Value) : Except Raised String := do
  let encoded ← (canonical repr (withoutRevision payload)).encode
  pure (sha256 encoded)

/-- The first loop of `_push`, up to what it asks the database: each report's payload and
fingerprint. -/
def pushCores : List Rows → Except Raised (List (Value × String))
  | [] => pure []
  | rows :: others => do
      let core ← buildPayload rows
      let hash ← fingerprint repr sha256 core
      let cores ← pushCores others
      pure ((core, hash) :: cores)

end Fingerprint

def candidateSchema : Schema :=
  .object
    [("path", .text 1 500), ("relevance", .nullable .unit), ("reason", .nullable (.text 1 2000))]

def publicSchema : Schema :=
  .object
    [("pipelineStatus", .oneOf statuses),
      ("summary", .nullable (.text 1 2000)),
      ("severity", .nullable (.oneOf severities)),
      ("prUrl", .nullable (.startsWith "https://" 500)),
      ("stage", .oneOf lanes),
      ("stageDetail", .oneOf laneDetails),
      ("prState", .nullable (.oneOf prStates))]

def pullRequestSchema : Schema := .object [("number", .positive), ("branch", .text 1 255)]

def adminSchema : Schema :=
  .object
    [("analysisMode", .nullable (.oneOf modes)),
      ("localized", .bool),
      ("category", .nullable (.text 1 50)),
      ("triageConfidence", .nullable .unit),
      ("rootCause", .nullable (.text 1 20000)),
      ("rootCauseHypothesis", .nullable (.text 1 20000)),
      ("explanation", .nullable (.text 1 20000)),
      ("candidateFiles", .nullable (.list 50 candidateSchema)),
      ("diff", .nullable (.bytes 262144)),
      ("fixConfidence", .nullable .unit),
      ("pr", .nullable pullRequestSchema),
      ("triageModel", .nullable (.text 1 120)),
      ("localizationModel", .nullable (.text 1 120)),
      ("fixModel", .nullable (.text 1 120))]

/-- What the other side takes of a payload, apart from its `revision`. -/
def contract : Schema :=
  .object [("bugalizerUpdatedAt", .anyText), ("public", publicSchema), ("admin", adminSchema)]

end Bugalizer.Results
