import Bugalizer.Sync.Actions
import Bugalizer.Wire.Strings

/-!
# What is checked before a key is released and after it

A requester's key is released once. The pin and the user id of the action were accepted before that;
the override that carries the key checks them again, by other rules. The texts here are those that
sonicgrid's JSON can hold, lone surrogates among them.
-/

namespace Bugalizer.KeyRelease

set_option autoImplicit false

open Wire

def requesterPin (params : Value) : Option (Text × Text) :=
  match params.get "llm" with
  | .dict fields =>
      match (Value.dict fields).get "provider", (Value.dict fields).get "model" with
      | .str provider, .str model =>
          if provider = Text.of requesterProvider ∧ model.all Point.isSpace = false ∧ model.length ≤ 200 then
            some (provider, model)
          else none
      | _, _ => none
  | _ => none

/-- The columns of a `key_mode=requester` row that `run_llm` reads. -/
structure PaidRow where
  fixPin : Option (Text × Text)
  requestedByUserId : Option Text
deriving DecidableEq

/-- The user id that `triage_action_reserve` stores. The driver encodes it, and a `requestedBy` that is
no `dict` has no `get`: `none` is an exception, and no row. -/
def storedUser (requestedBy : Value) : Option (Option Text) :=
  match requestedBy with
  | .dict fields =>
      match (Value.dict fields).get "userId" with
      | .str user => if user.Encodable then some (some user) else none
      | _ => some none
  | other => if other.truthy then none else some none

/-- The row of an authorized paid action. The pin is stored as JSON and read back as it was. -/
def authorizedRow (requestedBy params : Value) : Option PaidRow :=
  match storedUser requestedBy, requesterPin params with
  | some user, some pin => some ⟨some pin, user⟩
  | _, _ => none

/-- The key that `_credential_outcome` returns. -/
def releasedKey (row : PaidRow) (status : Nat) (body : Value) : Option Text :=
  if status = 200 then
    match body.get "apiKey" with
    | .str key =>
        if (body.get "provider").isStr requesterProvider = true ∧
            row.fixPin.map Prod.fst = some (Text.of requesterProvider) ∧ key ≠ [] then some key
        else none
    | _ => none
  else none

def keyRefPoint : Point → Bool
  | .scalar char => keyRefChar char
  | .surrogate _ => false

/-- `Optional[str]` with `min_length` 1 and a `max_length`; a text with a surrogate is no valid string. -/
def fitsField (longest : Nat) : Option Text → Bool
  | none => true
  | some text => text.all Point.isScalar && decide (1 ≤ text.length) && decide (text.length ≤ longest)

def matchesPattern : Option Text → Bool
  | none => true
  | some text => text.all keyRefPoint

/-- `LLMOverride`. -/
structure Override where
  provider : Option Text
  model : Option Text
  apiKey : Option Text
  keyRef : Option Text
  providerFits : fitsField 50 provider = true
  modelFits : fitsField 200 model = true
  keyRefFits : fitsField 128 keyRef = true
  keyRefMatches : matchesPattern keyRef = true

/-- `LLMOverride(...)`; `none` is its `ValidationError`. The key comes as a `SecretStr`, which is not
looked into. -/
def Override.validate (provider model apiKey keyRef : Option Text) : Option Override :=
  if fits : fitsField 50 provider = true ∧ fitsField 200 model = true ∧ fitsField 128 keyRef = true ∧
      matchesPattern keyRef = true then
    some ⟨provider, model, apiKey, keyRef, fits.1, fits.2.1, fits.2.2.1, fits.2.2.2⟩
  else none

def attributionRef (user : Option Text) : Option Text :=
  match user with
  | none | some [] => none
  | some user => some ((Text.of "sonicgrid:" ++ user).take 128)

/-- How `run_llm` leaves its paid branch: with a result of its own, or into `propose_fix`. -/
inductive Entered where
  | result (message : String)
  | proposing (override : Override)

/-- The paid branch of `run_llm`, up to the call of `propose_fix`; `none` is a `ValidationError`. -/
def runRequester (row : PaidRow) (apiKey : Option Text) : Option Entered :=
  match row.fixPin, apiKey with
  | some pin, some key =>
      if pin.1 = Text.of requesterProvider ∧ key ≠ [] then
        (Override.validate (some pin.1) (some pin.2) (some key) (attributionRef row.requestedByUserId)).map
          .proposing
      else some (.result invalidCredential)
  | _, _ => some (.result invalidCredential)

section Checks

variable {row : PaidRow} {pin : Text × Text} {key : Text}

theorem requester_pin_fits {params : Value} (pinned : requesterPin params = some pin) :
    pin.1 = Text.of requesterProvider ∧ 1 ≤ pin.2.length ∧ pin.2.length ≤ 200 := by
  unfold requesterPin at pinned
  split at pinned
  · split at pinned
    · split at pinned
      · rename_i provider model _ _ fits
        cases pinned
        refine ⟨fits.1, ?_, fits.2.2⟩
        -- An empty model is blank.
        apply Nat.one_le_iff_ne_zero.mpr
        intro empty
        have none_left : model = [] := List.eq_nil_of_length_eq_zero empty
        have blank := fits.2.1
        rw [none_left] at blank
        cases blank
      · cases pinned
    · cases pinned
  · cases pinned

theorem authorized_row_fits {requestedBy params : Value} (authorized : authorizedRow requestedBy params = some row) :
    ∃ pin, row.fixPin = some pin ∧ pin.1 = Text.of requesterProvider ∧
      1 ≤ pin.2.length ∧ pin.2.length ≤ 200 := by
  unfold authorizedRow at authorized
  split at authorized
  · rename_i user pin _ pinned
    cases authorized
    exact ⟨pin, rfl, requester_pin_fits pinned⟩
  · cases authorized

theorem released_key_filled {status : Nat} {body : Value} (released : releasedKey row status body = some key) :
    key ≠ [] := by
  unfold releasedKey at released
  split at released
  · split at released
    · split at released
      · rename_i accepted
        cases released
        exact accepted.2.2
      · cases released
    · cases released
  · cases released

theorem key_ref_point_scalar {point : Point} (allowed : keyRefPoint point = true) : point.isScalar = true := by
  cases point with
  | scalar char => rfl
  | surrogate half => cases allowed

theorem attribution_ref_of {user : Text} (filled : user ≠ []) :
    attributionRef (some user) = some (Text.of "sonicgrid:" ++ user.take 118) := by
  cases user with
  | nil => exact absurd rfl filled
  | cons point rest =>
      have cut : (Text.of "sonicgrid:" ++ point :: rest).take 128 =
          Text.of "sonicgrid:" ++ (point :: rest).take 118 := by
        rw [List.take_append]
        rfl
      exact congrArg some cut

/-- What is left of a user id in the reference is all that the pattern looks at; the clipping keeps the
length, and the service's name passes. -/
theorem attribution_ref_fits (user : Option Text) :
    (fitsField 128 (attributionRef user) = true ∧ matchesPattern (attributionRef user) = true) ↔
      ∀ text, user = some text → (text.take 118).all keyRefPoint = true := by
  cases user with
  | none => simp [attributionRef, fitsField, matchesPattern]
  | some text =>
      by_cases filled : text = []
      · subst filled
        simp [attributionRef, fitsField, matchesPattern]
      · rw [attribution_ref_of filled]
        have named : (Text.of "sonicgrid:").all keyRefPoint = true := by decide
        have short : (Text.of "sonicgrid:").length = 10 := by decide
        simp only [fitsField, matchesPattern, List.all_append, named, Bool.true_and, Bool.and_eq_true,
          decide_eq_true_eq, List.length_append, short, List.length_take, Option.some.injEq, forall_eq']
        constructor
        · rintro ⟨_, allowed⟩
          exact allowed
        · intro allowed
          refine ⟨⟨⟨⟨by decide, ?_⟩, by omega⟩, by omega⟩, allowed⟩
          rw [List.all_eq_true] at allowed ⊢
          intro point member
          exact key_ref_point_scalar (allowed point member)

theorem provider_fits : fitsField 50 (some (Text.of requesterProvider)) = true := by decide

theorem encodable_all (text : Text) : text.all Point.isScalar = true ↔ text.Encodable :=
  List.all_eq_true

/-- `run_llm` takes the released key into `propose_fix` as it is, with the pinned provider and model. -/
def Runs (row : PaidRow) (key : Text) : Prop :=
  ∃ pin override, row.fixPin = some pin ∧ runRequester row (some key) = some (.proposing override) ∧
    override.provider = some pin.1 ∧ override.model = some pin.2 ∧ override.apiKey = some key

theorem validate_some_iff {provider model apiKey keyRef : Option Text} {override : Override} :
    Override.validate provider model apiKey keyRef = some override ↔
      override.provider = provider ∧ override.model = model ∧ override.apiKey = apiKey ∧
        override.keyRef = keyRef := by
  unfold Override.validate
  constructor
  · intro built
    split at built
    · cases built
      exact ⟨rfl, rfl, rfl, rfl⟩
    · cases built
  · rintro ⟨rfl, rfl, rfl, rfl⟩
    rw [dif_pos ⟨override.providerFits, override.modelFits, override.keyRefFits, override.keyRefMatches⟩]

theorem runs_iff (pinned : row.fixPin = some pin) (provider : pin.1 = Text.of requesterProvider)
    (filled : key ≠ []) :
    Runs row key ↔ fitsField 200 (some pin.2) = true ∧
      fitsField 128 (attributionRef row.requestedByUserId) = true ∧
      matchesPattern (attributionRef row.requestedByUserId) = true := by
  have entered : runRequester row (some key) =
      (Override.validate (some pin.1) (some pin.2) (some key) (attributionRef row.requestedByUserId)).map
        .proposing := by
    unfold runRequester
    rw [pinned]
    exact if_pos ⟨provider, filled⟩
  unfold Runs
  rw [entered]
  constructor
  · rintro ⟨_, override, _, built, _⟩
    obtain ⟨built', validated, _⟩ := Option.map_eq_some_iff.mp built
    obtain ⟨_, model, _, keyRef⟩ := validate_some_iff.mp validated
    rw [← model, ← keyRef]
    exact ⟨built'.modelFits, built'.keyRefFits, built'.keyRefMatches⟩
  · rintro ⟨model, keyRef, allowed⟩
    have fits : fitsField 50 (some pin.1) = true := by
      rw [provider]
      exact provider_fits
    let override : Override :=
      ⟨some pin.1, some pin.2, some key, attributionRef row.requestedByUserId, fits, model, keyRef, allowed⟩
    have built : Override.validate (some pin.1) (some pin.2) (some key) (attributionRef row.requestedByUserId) =
        some override := validate_some_iff.mpr ⟨rfl, rfl, rfl, rfl⟩
    refine ⟨pin, override, pinned, ?_, rfl, rfl, rfl⟩
    rw [built]
    rfl

/-- Once the key of an authorized action is released, its run starts exactly when the pinned model holds
no lone surrogate and the stored user id, as far as the reference takes it, matches the pattern. -/
theorem released_key_runs_iff (requestedBy params body : Value) (status : Nat) (row : PaidRow) (key : Text)
    (authorized : authorizedRow requestedBy params = some row)
    (released : releasedKey row status body = some key) :
    Runs row key ↔
      (∀ pin, row.fixPin = some pin → pin.2.Encodable) ∧
        ∀ user, row.requestedByUserId = some user → (user.take 118).all keyRefPoint = true := by
  obtain ⟨pin, pinned, provider, filled, short⟩ := authorized_row_fits authorized
  rw [runs_iff pinned provider (released_key_filled released), attribution_ref_fits]
  have model : fitsField 200 (some pin.2) = true ↔ ∀ other, row.fixPin = some other → other.2.Encodable := by
    simp only [fitsField, Bool.and_eq_true, decide_eq_true_eq, encodable_all, pinned, Option.some.injEq, forall_eq']
    constructor
    · rintro ⟨⟨clean, _⟩, _⟩
      exact clean
    · intro clean
      exact ⟨⟨clean, filled⟩, short⟩
  rw [model]

end Checks

section Address

def requestedBy (user : String) : Value := .dict [(Text.of "userId", .str (Text.of user))]

def pinning (model : String) : Value :=
  .dict [(Text.of "llm",
    .dict [(Text.of "provider", .str (Text.of requesterProvider)), (Text.of "model", .str (Text.of model))])]

def releasing (key : String) : Value :=
  .dict [(Text.of "provider", .str (Text.of requesterProvider)), (Text.of "apiKey", .str (Text.of key))]

def rowOf (user : String) : PaidRow :=
  ⟨some (Text.of requesterProvider, Text.of "claude"), some (Text.of user)⟩

theorem plain_id_authorized : authorizedRow (requestedBy "u-1") (pinning "claude") = some (rowOf "u-1") := by
  decide +kernel

theorem plain_id_released : releasedKey (rowOf "u-1") 200 (releasing "key") = some (Text.of "key") := by
  decide +kernel

theorem plain_id_matches :
    (∀ pin, (rowOf "u-1").fixPin = some pin → pin.2.Encodable) ∧
      ∀ user, (rowOf "u-1").requestedByUserId = some user → (user.take 118).all keyRefPoint = true := by
  constructor
  · intro pin pinned
    cases pinned
    exact Text.of_encodable _
  · intro user stored
    cases stored
    decide

theorem plain_id_runs : Runs (rowOf "u-1") (Text.of "key") :=
  (released_key_runs_iff (requestedBy "u-1") (pinning "claude") (releasing "key") 200 (rowOf "u-1") (Text.of "key")
    plain_id_authorized plain_id_released).mpr plain_id_matches

/-- The action of `a@b` is authorized and its key is released, and the override that was to carry the key
is refused. -/
theorem mail_address_burns_key :
    authorizedRow (requestedBy "a@b") (pinning "claude") = some (rowOf "a@b") ∧
      releasedKey (rowOf "a@b") 200 (releasing "key") = some (Text.of "key") ∧
      ¬Runs (rowOf "a@b") (Text.of "key") := by
  refine ⟨by decide +kernel, by decide +kernel, ?_⟩
  rintro ⟨_, override, _, entered, _⟩
  have refused : (runRequester (rowOf "a@b") (some (Text.of "key"))).isNone = true := by decide +kernel
  rw [entered] at refused
  cases refused

end Address

end Bugalizer.KeyRelease
