import Bugalizer.Sync.KeyRelease
import Bugalizer.Sync.TriageSync

/-!
# A listed action as it comes

Its texts are those that sonicgrid's JSON can hold, lone surrogates among them. The database driver
encodes every text that it binds and httpx builds a URL of the id: what they refuse is raised before
anything is asked for.
-/

namespace Bugalizer.Items

set_option autoImplicit false

open Coroutine Program Wire

/-- What httpx and the interpreter make of an action's values. -/
structure Outside where
  /-- Whether httpx builds the URL of this id's claim. -/
  builds : Endpoint → String → Bool
  /-- Whether `json.dumps` gets through the value on the stack that is left. -/
  writes : Value → Bool
  /-- `float.__repr__`. -/
  repr : Double → String

/-- A listed action that passed `_well_formed`. -/
structure Item where
  id : Text
  bugId : Text
  kind : Text
  params : Value
  consents : Value
  requestedBy : Value

/-- `_well_formed`, with the fields a well-formed action is read for. -/
def wellFormed (action : Value) : Option Item :=
  match action.get "id", action.get "bugId", action.get "kind" with
  | .str id, .str bugId, .str kind =>
      if id != [] && bugId != [] &&
          ((action.get "state").isStr "pending" || (action.get "state").isStr "claimed") then
        some
          { id, bugId, kind, params := action.get "params", consents := action.get "consents"
            requestedBy := action.get "requestedBy" }
      else none
  | _, _, _ => none

def shownPoint : Point → List Char
  | .scalar char => [char]
  | .surrogate half => '\\' :: 'u' :: Nat.toDigits 16 (0xD800 + half)

/-- A text as a row holds it: a surrogate, which only a column of JSON can hold, is its escape. -/
def shown (text : Text) : String := String.ofList (text.flatMap shownPoint)

def bound (text : Text) : Py String :=
  if text.Encodable then pure (shown text)
  else raise (.plain "UnicodeEncodeError" "surrogates not allowed")

/-- `value.get(name)`, which only a `dict` has. -/
def getField (value : Value) (name : String) : Py Value :=
  match value with
  | .dict fields => pure ((Value.dict fields).get name)
  | _ => raise (.plain "AttributeError" ("no attribute 'get' for " ++ name))

/-- `value or {}`. -/
def objectOr (value : Value) : Value := if value.truthy then value else .dict []

def isTrue : Value → Bool
  | .bool true => true
  | _ => false

/-- `name in value`, of a `dict`. -/
def holds (name : String) : Value → Bool
  | .dict fields => (fields.lookup (Text.of name)).isSome
  | _ => false

namespace Item

/-- The kind, as the code compares it with `KINDS`. -/
def named (item : Item) : Kind := .parse (shown item.kind)

/-- `params if isinstance(params, dict) else {}`. -/
def fields (item : Item) : Value :=
  match item.params with
  | .dict fields => .dict fields
  | _ => .dict []

end Item

section Columns

variable (repr : Double → String)

mutual

def toJson : Value → Json
  | .null => .null
  | .bool value => .bool value
  | .int value => .int value
  | .real value => .real (repr value)
  | .str text => .str (shown text)
  | .list items => .arr (toJsonItems items)
  | .dict fields => .obj (toJsonFields fields)

def toJsonItems : List Value → List Json
  | [] => []
  | item :: items => toJson item :: toJsonItems items

def toJsonFields : List (Text × Value) → List (String × Json)
  | [] => []
  | (key, value) :: fields => (shown key, toJson value) :: toJsonFields fields

end

/-- The action as the process's model lists it, whose texts hold no surrogates. -/
def Item.listed (item : Item) : ListedAction :=
  { id := shown item.id, bugId := shown item.bugId, kind := item.named, params := toJson repr item.params
    consents := toJson repr item.consents, requestedBy := toJson repr item.requestedBy }

end Columns

/-- `consents.get(name) is True`. -/
def consented (item : Item) (name : String) : Py Bool := do
  let given ← getField (objectOr item.consents) name
  pure (isTrue given)

/-- `allowlisted`. A surrogate is left by `casefold`, and the set holds none. -/
def allowlisted (settings : Settings) (email : Value) : Py Bool :=
  match email with
  | .str text =>
      pure (text != [] && decide text.Encodable &&
        decide (settings.casefold (Py.strip (shown text)) ∈ settings.sonicgridCloudUserSet))
  | email =>
      if email.truthy then raise (.plain "AttributeError" "no attribute 'strip'") else pure false

def pinOf (pin : Text × Text) : LlmPin := (shown pin.1, shown pin.2)

def authorizeRequester (project : Project) (report : Report) (item : Item) : Py Authorization := do
  let kind := item.named
  if !holds "llm" item.fields then pure (refused kind legacyRefusal)
  else
    match KeyRelease.requesterPin item.fields with
    | none => pure (refused kind noPinRefusal)
    | some pin => do
        let repoWrite ← if kind = .fixAndOpenPr then consented item "repoWrite" else pure true
        if !repoWrite then pure (refused kind repoWriteRefusal (fixPin (pinOf pin)))
        else do
          let cloudSpend ← if kind = .fixAndOpenPr then consented item "cloudSpend" else pure true
          if !cloudSpend then pure (refused kind cloudSpendRefusal (fixPin (pinOf pin)))
          else do
            let granted : Authorization :=
              { pinned := fixPin (pinOf pin), noAutoRetry := true, keyMode := some requester }
            authorizeChecked project report kind granted

/-- The paid kinds with per-user keys off. -/
def authorizeLegacy (settings : Settings) (project : Project) (report : Report) (item : Item)
    (email : Value) : Py Authorization := do
  let kind := item.named
  if holds "llm" item.fields then pure (refused kind userKeysOffRefusal)
  else do
    let fix := resolveFixLlm settings (some project)
    let paid := isPaid fix.1
    let repoWrite ← if kind = .fixAndOpenPr then consented item "repoWrite" else pure true
    if !repoWrite then pure (refused kind repoWriteRefusal (fixPin fix))
    else do
      let cloudSpend ← if kind = .fixAndOpenPr && paid then consented item "cloudSpend"
        else pure true
      if !cloudSpend then pure (refused kind cloudSpendRefusal (fixPin fix))
      else do
        let allowed ← if decide (kind = .analyzeCloud) || paid then allowlisted settings email
          else pure true
        if !allowed then pure (refused kind allowlistRefusal (fixPin fix))
        else do
          let granted : Authorization :=
            { pinned := fixPin fix, noAutoRetry := decide (kind = .analyzeCloud) || paid }
          authorizeChecked project report kind granted

/-- `set_mode`: a mode that cannot be hashed is an exception, not a refusal. -/
def authorizeMode (item : Item) : Py Authorization := do
  match ← getField (objectOr item.params) "mode" with
  | .list _ | .dict _ => raise (.plain "TypeError" "unhashable type")
  | mode =>
      if modes.any fun known => mode.isStr known.value then pure {}
      else pure (refused item.named "params.mode must be auto, local_only or hold")

/-- `authorize`. The local stages read no more of the action than its kind. -/
def authorize (repr : Double → String) (settings : Settings) (project : Project) (report : Report)
    (item : Item) : Py Authorization := do
  let email ← getField (objectOr item.requestedBy) "email"
  match item.named with
  | .unknown text => pure (refused item.named ("Unknown action kind '" ++ text ++ "'"))
  | .analyzeLocal => pure (authorizeLocal settings project report (item.listed repr))
  | .analyzeCloud | .fixAndOpenPr =>
      if settings.sonicgridUserKeys then authorizeRequester project report item
      else authorizeLegacy settings project report item email
  | .openPr => do
      let repoWrite ← consented item "repoWrite"
      if repoWrite then pure {} else pure (refused item.named repoWriteRefusal)
  | .setMode => authorizeMode item
  | .reopen =>
      if report.status = .closed then pure {}
      else pure (refused item.named (reopenRefusal report.status.value))
  | .close =>
      match checkStatusTransition report .closed with
      | some message => pure (refused item.named message)
      | none => pure {}

/-- The message of a refusal is bound; that of an unknown kind quotes the kind. -/
def boundRefusal (item : Item) : Py Unit := do
  match item.named with
  | .unknown _ =>
      let _ ← bound ((Text.of "Unknown action kind '" ++ item.kind ++ Text.of "'").take 2000)
  | _ => pure ()

/-- `user if isinstance(user, str) else None`, which is bound. -/
def boundUser (user : Value) : Py (Option String) := do
  match user with
  | .str text =>
      let written ← bound text
      pure (some written)
  | _ => pure none

section Handle

variable (outside : Outside) (settings : Settings) (endpoint : Endpoint) (project : Project)

/-- `json.dumps(params)`. -/
def dumped (params : Value) : Py Json :=
  if outside.writes params then pure (toJson outside.repr params)
  else raise (.plain "RecursionError" "maximum recursion depth exceeded")

/-- The claim's request, once httpx has built its URL. -/
def advanceClaimed (actionId : String) : Py (Nat × Json) :=
  if outside.builds endpoint actionId then advance endpoint actionId .claimed
  else raise (.plain "InvalidURL" "Invalid non-printable ASCII character in URL")

/-- Authorization, and the one write that either finishes the reservation or pins it. -/
def authorizeReserved (report : Report) (actionId : String) (item : Item) : Py Unit := do
  let auth ← authorize outside.repr settings project report item
  match auth.refusal with
  | some refusal => do
      note (.authorized actionId none)
      boundRefusal item
      let _ ← finish actionId refusal (some .reserved)
  | none => do
      note (.authorized actionId (some ⟨auth.pinned, auth.noAutoRetry, auth.keyMode⟩))
      let now ← clock
      let moved ← triageActionUpdate actionId (some .reserved)
        { phase := some .intent, intentAt := some now, pinnedLlm := some auth.pinned
          noAutoRetry := some auth.noAutoRetry, keyMode := some auth.keyMode }
      if moved then dispatchAuthorized actionId else pure ()

def claimAndStart (actionId : String) (item : Item) : Py Unit :=
  let body : Py Unit := do
    let (status, _) ← advanceClaimed outside endpoint actionId
    if status = 404 ∨ status = 409 then triageActionDeleteReserved actionId
    else if status = 200 then do
      match ← triageActionGet actionId with
      | none => pure ()
      | some ⟨row, _⟩ => do
          match ← reportGet row.reportId with
          | none => pure ()
          | some ⟨report, _⟩ => authorizeReserved outside settings project report actionId item
    else pure ()
  body.ensuring (releaseUnlessRunning actionId)

def handleNew (actionId : String) (item : Item) : Py Unit := do
  let bugId ← bound item.bugId
  match ← query (.reportByExternalId project.id bugId) with
  | none => ask (.memory (.addUnresolved project.id))
  | some report => do
      let held ← tryHold actionId report.id item.named.llm
      if held then do
        let user ← getField (objectOr item.requestedBy) "userId"
        let params ← dumped outside item.fields
        let _ ← bound item.kind
        let user ← boundUser user
        let reserved ← triageActionReserve actionId project.id report.id item.named params user
        if reserved then claimAndStart outside settings endpoint project actionId item
        else release actionId
      else pure ()

def handle (item : Item) : Py Unit := do
  let actionId ← bound item.id
  match ← triageActionGet actionId with
  | none => handleNew outside settings endpoint project actionId item
  | some ⟨row, _⟩ => do
      let running ← taskRunning actionId
      if row.phase = .finished || running then handleRunning settings row running
      else if row.phase = .reserved then do
        let held ← tryHold actionId row.reportId row.kind.llm
        if held then claimAndStart outside settings endpoint project actionId item else pure ()
      else recover settings row

end Handle

/-- What `repr` writes for a zero and for nothing else. -/
def ReprZero (repr : Double → String) : Prop :=
  ∀ value, repr value = "0.0" ∨ repr value = "-0.0" ↔ ∃ negative, value = .finite negative 0

/-- Nothing of the action is refused as a text, by its depth or by its URL. -/
structure Item.Clean (outside : Outside) (endpoint : Endpoint) (item : Item) : Prop where
  id : item.id.Encodable
  bugId : item.bugId.Encodable
  kind : item.kind.Encodable
  params : item.params.Encodable
  consents : item.consents.Encodable
  requestedBy : item.requestedBy.Encodable
  url : outside.builds endpoint (shown item.id) = true
  depth : outside.writes item.fields = true

theorem shown_of (text : String) : shown (Text.of text) = text := by
  have letters : (Text.of text).flatMap shownPoint = text.toList := by
    rw [Text.of, List.flatMap_map]
    exact List.flatMap_singleton' _
  rw [shown, letters, String.ofList_toList]

theorem of_shown {text : Text} (clean : text.Encodable) : Text.of (shown text) = text := by
  induction text with
  | nil => rfl
  | cons point rest ih =>
      obtain ⟨scalar, later⟩ := (Text.encodable_cons point rest).mp clean
      cases point with
      | surrogate half => cases scalar
      | scalar char =>
          have front : Text.of (shown (.scalar char :: rest)) = .scalar char :: Text.of (shown rest) := by
            simp [Text.of, shown, shownPoint]
          rw [front, ih later]

theorem shown_eq_iff {text : Text} (clean : text.Encodable) (name : String) :
    shown text = name ↔ text = Text.of name := by
  constructor
  · intro same
    rw [← same, of_shown clean]
  · intro same
    rw [same, shown_of]

theorem shown_length {text : Text} (clean : text.Encodable) : (shown text).length = text.length := by
  rw [← Text.length_of, of_shown clean]

theorem shown_blank {text : Text} (clean : text.Encodable) :
    Py.isBlank (shown text) = text.all Point.isSpace := by
  have letters := congrArg (fun points => points.all Point.isSpace) (of_shown clean)
  rw [← letters, Text.of, List.all_map]
  rfl

theorem bound_clean {text : Text} (clean : text.Encodable) : bound text = done (shown text) := if_pos clean

section Values

variable {repr : Double → String}

theorem lookup_to_json {fields : List (Text × Value)} (clean : FieldsEncodable fields) (name : String) :
    (toJsonFields repr fields).lookup name = (fields.lookup (Text.of name)).map (toJson repr) := by
  induction fields with
  | nil => rfl
  | cons field fields ih =>
      obtain ⟨key, value⟩ := field
      obtain ⟨written, -, rest⟩ := clean
      simp only [toJsonFields, List.lookup_cons]
      by_cases same : Text.of name = key
      · have text : name = shown key := ((shown_eq_iff written name).mpr same.symm).symm
        rw [same, text, beq_self_eq_true, beq_self_eq_true]
        rfl
      · have apart : name ≠ shown key := fun text => same ((shown_eq_iff written name).mp text.symm).symm
        simp only [beq_false_of_ne apart, beq_false_of_ne same]
        exact ih rest

theorem to_json_truthy (zero : ReprZero repr) {value : Value} (clean : value.Encodable) :
    (toJson repr value).truthy = value.truthy := by
  cases value with
  | real value =>
      have zeros := zero value
      rw [Bool.eq_iff_iff]
      simp only [toJson, Json.truthy, Bool.and_eq_true, bne_iff_ne, ← not_or, zeros]
      cases value with
      | finite negative magnitude => simp [Value.truthy]
      | _ => simp [Value.truthy]
  | str text =>
      rw [Bool.eq_iff_iff]
      have empty := shown_eq_iff clean ""
      cases text with
      | nil => simp [toJson, Json.truthy, Value.truthy, shown]
      | cons point rest =>
          have filled : shown (point :: rest) ≠ "" := fun same => by cases empty.mp same
          simp [toJson, Json.truthy, Value.truthy, filled]
  | list items => cases items <;> rfl
  | dict fields =>
      cases fields with
      | nil => rfl
      | cons field fields => rfl
  | _ => rfl

theorem get_clean {value : Value} (clean : value.Encodable) (name : String) : (value.get name).Encodable := by
  cases value with
  | dict fields =>
      show ((fields.lookup (Text.of name)).getD .null).Encodable
      induction fields with
      | nil => trivial
      | cons field fields ih =>
          obtain ⟨key, value⟩ := field
          obtain ⟨-, here, rest⟩ := clean
          rw [List.lookup_cons]
          split
          · exact here
          · exact ih rest
  | _ => trivial

theorem to_json_get {value : Value} (clean : value.Encodable) (name : String) :
    (toJson repr value).get name = toJson repr (value.get name) := by
  cases value with
  | dict fields =>
      simp only [toJson, Json.get, Json.field?, Value.get, lookup_to_json clean]
      cases fields.lookup (Text.of name) <;> rfl
  | _ => rfl

theorem to_json_field {value : Value} (clean : value.Encodable) (name : String) :
    ((toJson repr value).field? name).isSome = holds name value := by
  cases value with
  | dict fields => simp only [toJson, Json.field?, holds, lookup_to_json clean, Option.isSome_map]
  | _ => rfl

theorem to_json_is_str {value : Value} (clean : value.Encodable) (text : String) :
    (toJson repr value).isStr text = value.isStr text := by
  cases value with
  | str other =>
      rw [Bool.eq_iff_iff]
      simp only [toJson, Json.isStr, Value.isStr, beq_iff_eq]
      exact shown_eq_iff clean text
  | _ => rfl

theorem to_json_is_true (value : Value) : (toJson repr value).isTrue = isTrue value := by
  cases value with
  | bool given => cases given <;> rfl
  | _ => rfl

theorem object_or_json (zero : ReprZero repr) {value : Value} (clean : value.Encodable) :
    Bugalizer.objectOr (toJson repr value) = toJson repr (objectOr value) := by
  unfold Bugalizer.objectOr objectOr
  rw [to_json_truthy zero clean]
  split <;> rfl

theorem object_or_clean {value : Value} (clean : value.Encodable) : (objectOr value).Encodable := by
  unfold objectOr
  split
  · exact clean
  · trivial

theorem get_field_json (zero : ReprZero repr) {value : Value} (clean : value.Encodable) (name : String) :
    Bugalizer.getField (Bugalizer.objectOr (toJson repr value)) name =
      (getField (objectOr value) name).bind fun found => done (toJson repr found) := by
  rw [object_or_json zero clean]
  have read := @to_json_get repr _ (object_or_clean clean) name
  generalize objectOr value = object at read
  cases object with
  | dict fields => exact congrArg done read
  | _ => rfl

theorem requester_pin_listed {value : Value} (clean : value.Encodable) :
    Bugalizer.requesterPin (toJson repr value) = (KeyRelease.requesterPin value).map pinOf := by
  have read := @to_json_get repr _ clean "llm"
  have written := get_clean clean "llm"
  unfold Bugalizer.requesterPin KeyRelease.requesterPin
  unfold Json.get at read
  generalize value.get "llm" = llm at read written
  cases found : (toJson repr value).field? "llm" with
  | none =>
      rw [found] at read
      cases llm with
      | dict fields => cases read
      | _ => rfl
  | some json =>
      rw [found] at read
      have same : json = toJson repr llm := read
      subst same
      cases llm with
      | dict fields =>
          have first := @to_json_get repr _ written "provider"
          have second := @to_json_get repr _ written "model"
          have text := get_clean written "model"
          have anthropic := @to_json_is_str repr _ (get_clean written "provider") requesterProvider
          simp only [toJson] at first second ⊢
          rw [first, second]
          generalize (Value.dict fields).get "provider" = provider at anthropic ⊢
          generalize (Value.dict fields).get "model" = model at text ⊢
          cases provider with
          | str provider =>
              cases model with
              | str model =>
                  have named : shown provider = requesterProvider ↔ provider = Text.of requesterProvider := by
                    rw [← beq_iff_eq, ← beq_iff_eq (b := Text.of requesterProvider)]
                    exact Bool.eq_iff_iff.mp anthropic
                  simp only [toJson, named, shown_blank text, shown_length text, Bool.not_eq_true]
                  split <;> rfl
              | _ => rfl
          | _ => rfl
      | _ => rfl

theorem allowlisted_listed (zero : ReprZero repr) {settings : Settings} {email : Value} (clean : email.Encodable) :
    Bugalizer.allowlisted settings (toJson repr email) = allowlisted settings email := by
  have truth := to_json_truthy zero clean
  cases email with
  | str text =>
      simp only [toJson, Json.truthy, Value.truthy] at truth
      have filled : (text != []) = !text.isEmpty := by cases text <;> rfl
      have encodable : decide text.Encodable = true := decide_eq_true clean
      simp only [toJson, Bugalizer.allowlisted, allowlisted, truth, filled, encodable, Bool.and_true]
  | _ =>
      simp only [toJson] at truth
      simp only [toJson, Bugalizer.allowlisted, allowlisted, truth]

end Values

section Actions

variable {outside : Outside} {settings : Settings} {endpoint : Endpoint} {project : Project} {report : Report}
variable {item : Item}

theorem consented_listed (zero : ReprZero outside.repr) (clean : item.consents.Encodable) (name : String) :
    Bugalizer.consented (item.listed outside.repr) name = consented item name := by
  unfold Bugalizer.consented consented Item.listed
  simp only [bind_eq, pure_eq]
  rw [get_field_json zero clean, bind_assoc]
  simp only [done_bind, to_json_is_true]

theorem fields_listed :
    (if (item.listed outside.repr).params.isObj then (item.listed outside.repr).params else .obj []) =
      toJson outside.repr item.fields := by
  unfold Item.listed Item.fields
  cases item.params <;> rfl

theorem fields_clean (clean : item.params.Encodable) : item.fields.Encodable := by
  unfold Item.fields
  split
  · rename_i fields same
    rw [same] at clean
    exact clean
  · trivial

theorem authorize_requester_listed (zero : ReprZero outside.repr) (clean : item.Clean outside endpoint) :
    Bugalizer.authorizeRequester project report (item.listed outside.repr) (toJson outside.repr item.fields) =
      authorizeRequester project report item := by
  have present := @to_json_field outside.repr _ (fields_clean clean.params) "llm"
  unfold Bugalizer.authorizeRequester authorizeRequester
  simp only [consented_listed zero clean.consents, requester_pin_listed (fields_clean clean.params), present,
    ← Option.not_isSome]
  cases KeyRelease.requesterPin item.fields with
  | none => rfl
  | some pin => rfl

theorem authorize_legacy_listed (zero : ReprZero outside.repr) (clean : item.Clean outside endpoint)
    {email : Value} (written : email.Encodable) :
    Bugalizer.authorizeLegacy settings project report (item.listed outside.repr)
        (toJson outside.repr item.fields) (toJson outside.repr email) =
      authorizeLegacy settings project report item email := by
  have present := @to_json_field outside.repr _ (fields_clean clean.params) "llm"
  unfold Bugalizer.authorizeLegacy authorizeLegacy
  simp only [consented_listed zero clean.consents, allowlisted_listed zero written, present]
  rfl

theorem authorize_mode_listed (zero : ReprZero outside.repr) (clean : item.Clean outside endpoint) :
    Bugalizer.authorizeMode (item.listed outside.repr) = authorizeMode item := by
  have read := get_field_json zero clean.params "mode"
  have written := object_or_clean clean.params
  unfold Bugalizer.authorizeMode authorizeMode
  simp only [Item.listed, bind_eq, read, bind_assoc, done_bind]
  generalize objectOr item.params = object at written
  cases object with
  | dict fields =>
      have text := get_clean written "mode"
      simp only [getField, pure_eq, done_bind]
      generalize (Value.dict fields).get "mode" = mode at text
      cases mode with
      | str mode =>
          have same := @to_json_is_str outside.repr (.str mode) text
          simp only [toJson] at same ⊢
          simp only [same]
      | _ => rfl
  | _ => rfl

theorem authorize_listed (zero : ReprZero outside.repr) (clean : item.Clean outside endpoint) :
    Bugalizer.authorize settings project report (item.listed outside.repr) =
      authorize outside.repr settings project report item := by
  have read := get_field_json zero clean.requestedBy "email"
  have written := object_or_clean clean.requestedBy
  unfold Bugalizer.authorize authorize
  rw [fields_listed]
  show (Bugalizer.getField (Bugalizer.objectOr (toJson outside.repr item.requestedBy)) "email").bind _ =
    (getField (objectOr item.requestedBy) "email").bind _
  rw [read, bind_assoc]
  generalize objectOr item.requestedBy = object at written
  cases object with
  | dict fields =>
      have email := get_clean written "email"
      simp only [getField, pure_eq, done_bind]
      generalize (Value.dict fields).get "email" = value at email
      have named : (item.listed outside.repr).kind = item.named := rfl
      rw [named]
      cases item.named with
      | analyzeCloud | fixAndOpenPr =>
          simp only [authorize_requester_listed zero clean, authorize_legacy_listed zero clean email]
      | openPr => simp only [consented_listed zero clean.consents]
      | setMode => exact authorize_mode_listed zero clean
      | _ => rfl
  | _ => rfl

theorem bound_refusal_clean (clean : item.kind.Encodable) : boundRefusal item = done () := by
  have quoted : Text.Encodable ((Text.of "Unknown action kind '" ++ item.kind ++ Text.of "'").take 2000) := by
    apply Text.Encodable.take
    rw [Text.encodable_append, Text.encodable_append]
    exact ⟨⟨Text.of_encodable _, clean⟩, Text.of_encodable _⟩
  unfold boundRefusal
  split
  · rw [bound_clean quoted]
    rfl
  · rfl

theorem authorize_reserved_listed (zero : ReprZero outside.repr) (clean : item.Clean outside endpoint) :
    authorizeReserved outside settings project report (shown item.id) item =
      Bugalizer.authorizeReserved settings project report (item.listed outside.repr) := by
  unfold authorizeReserved Bugalizer.authorizeReserved
  rw [authorize_listed zero clean, bound_refusal_clean clean.kind]
  rfl

theorem claim_and_start_listed (zero : ReprZero outside.repr) (clean : item.Clean outside endpoint) :
    claimAndStart outside settings endpoint project (shown item.id) item =
      Bugalizer.claimAndStart settings endpoint project (item.listed outside.repr) := by
  refine congrArg (fun body : Py Unit => body.ensuring (releaseUnlessRunning (shown item.id))) ?_
  have asked : advanceClaimed outside endpoint (shown item.id) = advance endpoint (shown item.id) .claimed :=
    if_pos clean.url
  rw [asked]
  refine congrArg (Program.bind _) (funext fun answer => ?_)
  dsimp only
  split
  · rfl
  split
  swap
  · rfl
  refine congrArg (Program.bind _) (funext fun found => ?_)
  cases found with
  | none => rfl
  | some row =>
      refine congrArg (Program.bind _) (funext fun found => ?_)
      cases found with
      | none => rfl
      | some report => exact authorize_reserved_listed zero clean

theorem bound_user_clean {user : Value} (clean : user.Encodable) (repr : Double → String) :
    boundUser user = done (toJson repr user).string? := by
  cases user with
  | str text =>
      unfold boundUser
      simp only [bound_clean clean, bind_eq, done_bind]
      rfl
  | _ => rfl

theorem handle_new_listed (zero : ReprZero outside.repr) (clean : item.Clean outside endpoint) :
    handleNew outside settings endpoint project (shown item.id) item =
      Bugalizer.handleNew settings endpoint project (item.listed outside.repr) := by
  have read := get_field_json zero clean.requestedBy "userId"
  have written := object_or_clean clean.requestedBy
  unfold handleNew Bugalizer.handleNew dumped
  rw [bound_clean clean.bugId, bind_eq, done_bind, fields_listed]
  refine congrArg (Program.bind _) (funext fun found => ?_)
  cases found with
  | none => rfl
  | some report =>
      refine congrArg (Program.bind _) (funext fun held => ?_)
      cases held with
      | false => rfl
      | true =>
          show (getField (objectOr item.requestedBy) "userId").bind _ =
            (Bugalizer.getField (Bugalizer.objectOr (toJson outside.repr item.requestedBy)) "userId").bind _
          rw [read, bind_assoc]
          generalize objectOr item.requestedBy = object at written
          cases object with
          | dict fields =>
              simp only [getField, pure_eq, bind_eq, done_bind, clean.depth, if_true, bound_clean clean.kind,
                bound_user_clean (get_clean written "userId") outside.repr, claim_and_start_listed zero clean]
              rfl
          | _ => rfl

/-- An action that is refused nowhere is handled as the process's model handles it. -/
theorem handle_listed (zero : ReprZero outside.repr) (clean : item.Clean outside endpoint) :
    handle outside settings endpoint project item =
      Bugalizer.handle settings endpoint project (item.listed outside.repr) := by
  unfold handle Bugalizer.handle
  rw [bound_clean clean.id, bind_eq, done_bind]
  refine congrArg (Program.bind _) (funext fun found => ?_)
  cases found with
  | none => exact handle_new_listed zero clean
  | some row =>
      refine congrArg (Program.bind _) (funext fun running => ?_)
      rw [claim_and_start_listed zero clean]
      rfl

end Actions

end Bugalizer.Items
