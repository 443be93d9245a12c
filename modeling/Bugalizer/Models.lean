import Bugalizer.Json

/-!
# The status workflow and the request models

`VALID_TRANSITIONS`, the phase gate and the claim statuses, as `models.py` has them,
and the per-request override of a model.
-/

namespace Bugalizer

set_option autoImplicit false

inductive BugStatus where
  | submitted | validating | triaged | analyzing | clarificationNeeded | fixProposing
  | fixProposed | fixApproved | fixCommitted | verified | closed | rejected | duplicate | deferred
deriving DecidableEq, Repr

namespace BugStatus

def value : BugStatus → String
  | submitted => "submitted"
  | validating => "validating"
  | triaged => "triaged"
  | analyzing => "analyzing"
  | clarificationNeeded => "clarification_needed"
  | fixProposing => "fix_proposing"
  | fixProposed => "fix_proposed"
  | fixApproved => "fix_approved"
  | fixCommitted => "fix_committed"
  | verified => "verified"
  | closed => "closed"
  | rejected => "rejected"
  | duplicate => "duplicate"
  | deferred => "deferred"

/-- `TERMINAL_STATUSES`. -/
def terminal : BugStatus → Bool
  | closed | rejected | duplicate => true
  | _ => false

/-- `CLAIM_STATUSES`: left by the claim's owner only, never by a gated transition. -/
def claim : BugStatus → Bool
  | fixApproved => true
  | _ => false

/-- The transient claims of the pipeline stages, the keys of `ORPHANED_CLAIM_ROLLBACK`. -/
def stageClaim : BugStatus → Bool
  | validating | analyzing | fixProposing => true
  | _ => false

/-- `ORPHANED_CLAIM_ROLLBACK`; a status that is no stage claim stays. -/
def rollback : BugStatus → BugStatus
  | validating => submitted
  | analyzing => triaged
  | fixProposing => triaged
  | status => status

end BugStatus

open BugStatus

def validTransitions : BugStatus → List BugStatus
  | submitted => [validating, rejected, triaged]
  | validating => [triaged, rejected]
  | triaged => [analyzing, fixProposing, deferred, duplicate, closed]
  | analyzing => [clarificationNeeded, fixProposed, triaged]
  | clarificationNeeded => [analyzing, closed]
  | fixProposing => [fixProposed, triaged]
  | fixProposed => [fixApproved, triaged, closed]
  | fixApproved => [fixCommitted, fixProposed]
  | fixCommitted => [verified, triaged]
  | verified => [closed]
  | deferred => [triaged]
  | closed | rejected | duplicate => []

def currentPhaseTargets : List BugStatus :=
  [validating, triaged, analyzing, clarificationNeeded, fixProposing, fixProposed, deferred,
    duplicate, closed, rejected]

def validateTransition (current target : BugStatus) (enforcePhaseGating : Bool) : Bool :=
  if target ∉ validTransitions current then false
  else if enforcePhaseGating && (target ∉ currentPhaseTargets || current.claim) then false
  else true

theorem terminal_has_no_transition {current target : BugStatus} (terminal : current.terminal)
    (gated : Bool) : validateTransition current target gated = false := by
  cases current <;> first | rfl | cases terminal

inductive AnalysisMode where
  | auto | localOnly | hold
deriving DecidableEq, Repr

def AnalysisMode.value : AnalysisMode → String
  | auto => "auto"
  | localOnly => "local_only"
  | hold => "hold"

/-- `KEY_REF_PATTERN`, without its anchors. -/
def keyRefChar (c : Char) : Bool := c.isAlphanum || c ∈ ['.', '_', ':', '/', '-']

/-- `Optional[str]` with `min_length` 1 and a `max_length`. -/
def fitsField (longest : Nat) : Option String → Bool
  | none => true
  | some text => 1 ≤ text.length && text.length ≤ longest

/-- `LLMOverride`; a value that breaks a field's bounds is refused when it is built. -/
structure LLMOverride where
  provider : Option String
  model : Option String
  apiKey : Option String
  keyRef : Option String
  providerFits : fitsField 50 provider
  modelFits : fitsField 200 model
  keyRefFits : fitsField 128 keyRef
  keyRefMatches : ∀ text, keyRef = some text → text.toList.all keyRefChar

namespace LLMOverride

/-- `LLMOverride(...)`; `none` is its `ValidationError`. -/
def validate (provider model apiKey keyRef : Option String) : Option LLMOverride :=
  if fits : fitsField 50 provider ∧ fitsField 200 model ∧ fitsField 128 keyRef ∧
      (∀ text, keyRef = some text → text.toList.all keyRefChar) then
    some ⟨provider, model, apiKey, keyRef, fits.1, fits.2.1, fits.2.2.1, fits.2.2.2⟩
  else none

def hasKey (override : LLMOverride) : Bool :=
  match override.apiKey with
  | none => false
  | some key => key != ""

theorem validate_fields {provider model apiKey keyRef : Option String} {override : LLMOverride}
    (built : validate provider model apiKey keyRef = some override) :
    override.provider = provider ∧ override.model = model ∧ override.apiKey = apiKey ∧
      override.keyRef = keyRef := by
  unfold validate at built
  split at built
  · cases built
    exact ⟨rfl, rfl, rfl, rfl⟩
  · cases built

theorem provider_nonempty (override : LLMOverride) {text : String}
    (chosen : override.provider = some text) : text ≠ "" := by
  intro blank
  have fits := override.providerFits
  rw [chosen, blank] at fits
  cases fits

theorem model_nonempty (override : LLMOverride) {text : String}
    (chosen : override.model = some text) : text ≠ "" := by
  intro blank
  have fits := override.modelFits
  rw [chosen, blank] at fits
  cases fits

end LLMOverride

end Bugalizer
