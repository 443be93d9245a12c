import Bugalizer.Pipeline.FixProposer
import Bugalizer.Wire.Decoder

/-!
# What a model's answer becomes

`_extract_json` and `_validate_proposal` raise their own permanent error for an answer that is no
proposal. Other exceptions of the steps are told apart by their names, and count as transient.
-/

namespace Bugalizer.Pipeline

set_option autoImplicit false

open Wire

/-- The interpreter: its limits, and the texts that it makes. -/
structure Python where
  limits : DecodeLimits
  /-- The frames that `repr` has left. -/
  reprDepth : Nat
  /-- `repr(value)`, which escapes lone surrogates. -/
  reprOf : Value → String
  /-- `float(text)` of a `str`; `none` is a `ValueError`. -/
  floatOf : Text → Option Double
  /-- `str(first_error)`, of the first brace that opens no object. -/
  firstError : Text → String

/-- `FixProposalError(message)`. -/
def defect (message : String) : Exn := .fixProposalError message true

/-- An exception of the library. A `RecursionError` is a `RuntimeError`, and its text names no
`API_KEY`. -/
def libraryError (typeName : String) : Exn :=
  if typeName = "RecursionError" then .runtime typeName "" else .plain typeName ""

def decodeExn : DecodeError → Exn
  | .malformed => libraryError "JSONDecodeError"
  | .tooManyDigits => libraryError "ValueError"
  | .tooDeep => libraryError "RecursionError"

def fence : Text := Text.of "```"

/-- `re.sub(r"\s*```\s*$", "", text)`. -/
def withoutClosing (text : Text) : Text :=
  let bare := Text.rstrip text
  if fence.isSuffixOf bare then Text.rstrip (bare.take (bare.length - 3)) else text

/-- `re.sub(r"^```(?:json)?\s*", "", text)` of a text that starts with a fence. -/
def withoutOpening (text : Text) : Text :=
  let behind := text.drop 3
  Text.lstrip (if (Text.of "json").isPrefixOf behind then behind.drop 4 else behind)

/-- The stripped text, without the fences around it. -/
def unfenced (content : Text) : Text :=
  let text := Text.strip content
  if fence.isPrefixOf text then withoutClosing (withoutOpening text) else text

/-- The loop over the braces: the first that opens an object. -/
def searchObject (limits : DecodeLimits) : Text → Except DecodeError (Option Value)
  | [] => .ok none
  | first :: rest =>
      if first.isMark '\x7b' then
        match rawDecode limits (first :: rest) with
        | .ok (.dict fields, _) => .ok (some (.dict fields))
        | .ok _ | .error .malformed => searchObject limits rest
        | .error error => .error error
      else searchObject limits rest

def extractJson (python : Python) (content : Text) : Except Exn Value :=
  let text := unfenced content
  match loads python.limits text with
  | .ok value => .ok value
  | .error .malformed =>
      if text.any (Point.isMark '\x7b') then
        match searchObject python.limits text with
        | .ok (some value) => .ok value
        | .ok none => .error (defect ("Extracted candidate JSON is malformed: " ++ python.firstError text))
        | .error error => .error (decodeExn error)
      else
        .error (defect ("No JSON object found in LLM response: " ++ python.reprOf (.str (text.take 200))))
  | .error error => .error (decodeExn error)

def isHunk (line : Text) : Bool :=
  (Text.of "@@").isPrefixOf line && Text.contains (Text.of "@@") (line.drop 2)

def looksLikeUnifiedDiff (diff : Text) : Bool :=
  let lines := Text.splitLines [] diff
  lines.any (Text.of "--- ").isPrefixOf && lines.any (Text.of "+++ ").isPrefixOf && lines.any isHunk

def requiredKeys : List String := ["root_cause", "explanation", "diff", "confidence", "files_changed"]

/-- `key in payload`, which a number, a `bool` and `None` have no answer to. -/
def hasKey (payload : Value) (key : String) : Except Exn Bool :=
  match payload with
  | .dict fields => .ok (fields.lookup (Text.of key)).isSome
  | .list items => .ok (items.any (Value.isStr key))
  | .str text => .ok (Text.contains (Text.of key) text)
  | _ => .error (libraryError "TypeError")

def checkKeys (payload : Value) : List String → Except Exn Unit
  | [] => .ok ()
  | key :: keys =>
      match hasKey payload key with
      | .error error => .error error
      | .ok false => .error (defect ("Missing required key in proposal: '" ++ key ++ "'"))
      | .ok true => checkKeys payload keys

/-- `payload[key]`; a text and a list have no such index. -/
def itemAt (payload : Value) (key : String) : Except Exn Value :=
  match payload with
  | .dict fields =>
      match fields.lookup (Text.of key) with
      | some value => .ok value
      | none => .error (libraryError "KeyError")
  | _ => .error (libraryError "TypeError")

/-- What `str` makes of a value. -/
def textOf (python : Python) : Value → Text
  | .str text => text
  | value => Text.of (python.reprOf value)

/-- `str(value)` of a value that the decoder made: its integers are short enough. -/
def strOf (python : Python) (value : Value) : Except Exn Text :=
  if python.reprDepth < value.depth then .error (libraryError "RecursionError") else .ok (textOf python value)

/-- `OverflowError`, `ValueError` and `TypeError`. -/
inductive FloatError where
  | overflow | value | type

/-- `float(value)`. -/
def toFloat (python : Python) (value : Value) : Except FloatError Double :=
  match value with
  | .int number =>
      if doubleOverflow ≤ number.natAbs then .error .overflow
      else .ok (.nearest (decide (number < 0)) number.natAbs 1)
  | .bool value => .ok (.finite false (if value then 1 else 0))
  | .real value => .ok value
  | .str text =>
      match python.floatOf text with
      | some value => .ok value
      | none => .error .value
  | _ => .error .type

/-- `0.0 <= value <= 1.0`. -/
def inUnit : Double → Bool
  | .nan | .infinite _ => false
  | .finite true magnitude => magnitude == 0
  | .finite false magnitude => decide (magnitude ≤ 1)

/-- The `try` around `float`; the message of its `except` writes the value. -/
def confidenceOf (python : Python) (value : Value) : Except Exn Double :=
  match toFloat python value with
  | .ok confidence => .ok confidence
  | .error .overflow => .error (libraryError "OverflowError")
  | .error .value | .error .type =>
      if python.reprDepth < value.depth then .error (libraryError "RecursionError")
      else .error (defect ("confidence must be a float, got " ++ python.reprOf value))

def stringsOf : Value → Option (List Text)
  | .list items => items.mapM fun item =>
      match item with
      | .str text => some text
      | _ => none
  | _ => none

structure Proposal where
  rootCause : Text
  explanation : Text
  diff : Text
  confidence : Double
  filesChanged : List Text
  shaped : looksLikeUnifiedDiff diff = true
  likely : inUnit confidence = true

/-- `str(payload[key])`. -/
def textAt (python : Python) (payload : Value) (key : String) : Except Exn Text := do
  let value ← itemAt payload key
  strOf python value

/-- The normalized proposal, of files that are a list of texts. -/
def normalized (rootCause explanation diff : Text) (confidence : Double)
    (shaped : looksLikeUnifiedDiff diff = true) (likely : inUnit confidence = true) :
    Option (List Text) → Except Exn Proposal
  | some filesChanged =>
      .ok ⟨Text.strip rootCause, Text.strip explanation, diff, confidence, filesChanged, shaped, likely⟩
  | none => .error (defect "files_changed must be a list of strings")

/-- The end of `_validate_proposal`: the files. -/
def withFiles (payload : Value) (rootCause explanation diff : Text) (confidence : Double)
    (shaped : looksLikeUnifiedDiff diff = true) (likely : inUnit confidence = true) : Except Exn Proposal := do
  let files ← itemAt payload "files_changed"
  normalized rootCause explanation diff confidence shaped likely (stringsOf files)

def withConfidence (python : Python) (payload : Value) (rootCause explanation diff : Text)
    (shaped : looksLikeUnifiedDiff diff = true) : Except Exn Proposal := do
  let value ← itemAt payload "confidence"
  let confidence ← confidenceOf python value
  if likely : inUnit confidence = true then
    withFiles payload rootCause explanation diff confidence shaped likely
  else
    .error (defect ("confidence must be in [0.0, 1.0], got " ++ python.reprOf (.real confidence)))

def withDiff (python : Python) (payload : Value) (rootCause explanation diff : Text) : Except Exn Proposal :=
  if Text.strip diff = [] then .error (defect "Proposal diff is empty")
  else if shaped : looksLikeUnifiedDiff diff = true then
    withConfidence python payload rootCause explanation diff shaped
  else
    .error (defect "Proposal diff is not a unified diff (missing `---`/`+++`/`@@` headers)")

def validateProposal (python : Python) (payload : Value) : Except Exn Proposal := do
  checkKeys payload requiredKeys
  let rootCause ← textAt python payload "root_cause"
  let explanation ← textAt python payload "explanation"
  let diff ← textAt python payload "diff"
  withDiff python payload rootCause explanation diff

def parseProposal (python : Python) (content : Text) : Except Exn Proposal := do
  let payload ← extractJson python content
  validateProposal python payload

/-- The texts that `fix_proposal_create` binds as they are; the driver encodes them. -/
def storeProposal (proposal : Proposal) : Except Exn Proposal :=
  if proposal.diff.Encodable ∧ proposal.explanation.Encodable ∧ proposal.rootCause.Encodable then .ok proposal
  else .error (libraryError "UnicodeEncodeError")

/-- Steps 4 and 5, as far as the answer decides them. -/
def takeAnswer (python : Python) (content : Text) : Except Exn Proposal := do
  let proposal ← parseProposal python content
  storeProposal proposal

section Raised

variable {First Second : Type}

def Raises (allowed : Exn → Prop) (result : Except Exn First) : Prop :=
  ∀ error, result = .error error → allowed error

variable {allowed : Exn → Prop}

theorem raises_ok (value : First) : Raises allowed (.ok value) := by
  intro error raised
  cases raised

theorem raises_error {error : Exn} : Raises allowed (.error error : Except Exn First) ↔ allowed error := by
  constructor
  · intro raises
    exact raises error rfl
  · intro permitted other raised
    cases raised
    exact permitted

theorem raises_bind {body : Except Exn First} {rest : First → Except Exn Second} :
    Raises allowed (body >>= rest) ↔
      Raises allowed body ∧ ∀ value, body = .ok value → Raises allowed (rest value) := by
  cases body with
  | error error =>
      have stops : (Except.error error >>= rest) = .error error := rfl
      rw [stops, raises_error, raises_error]
      constructor
      · intro permitted
        refine ⟨permitted, ?_⟩
        intro value returned
        cases returned
      · intro both
        exact both.1
  | ok value =>
      have goes_on : (Except.ok value >>= rest) = rest value := rfl
      rw [goes_on]
      constructor
      · intro raises
        refine ⟨raises_ok value, ?_⟩
        intro other returned
        cases returned
        exact raises
      · intro both
        exact both.2 value rfl

theorem raises_after {body : Except Exn First} {rest : First → Except Exn Second} (first : Raises allowed body)
    (later : ∀ value, Raises allowed (rest value)) : Raises allowed (body >>= rest) :=
  raises_bind.mpr ⟨first, fun value _ => later value⟩

/-- The exceptions of the two steps: their own, and seven of the library. -/
def Known (error : Exn) : Prop :=
  (∃ message, error = defect message) ∨
    ∃ name ∈ ["JSONDecodeError", "ValueError", "RecursionError", "TypeError", "KeyError", "OverflowError",
      "UnicodeEncodeError"], error = libraryError name

theorem defect_known (message : String) : Known (defect message) := .inl ⟨message, rfl⟩

theorem library_permanent : ∀ name ∈ ["JSONDecodeError", "ValueError", "RecursionError", "TypeError", "KeyError",
    "OverflowError", "UnicodeEncodeError"], isPermanent (libraryError name) = false := by
  decide

theorem known_permanent {error : Exn} (known : Known error) (permanent : isPermanent error = true) :
    ∃ message, error = .fixProposalError message true := by
  rcases known with own | ⟨name, listed, rfl⟩
  · exact own
  · rw [library_permanent name listed] at permanent
    cases permanent

variable {python : Python} {payload : Value}

theorem decode_known (error : DecodeError) : Known (decodeExn error) := by
  cases error with
  | malformed => exact .inr ⟨"JSONDecodeError", by decide, rfl⟩
  | tooManyDigits => exact .inr ⟨"ValueError", by decide, rfl⟩
  | tooDeep => exact .inr ⟨"RecursionError", by decide, rfl⟩

theorem extract_known (content : Text) : Raises Known (extractJson python content) := by
  unfold extractJson
  dsimp only
  split
  · exact raises_ok _
  · split
    · split
      · exact raises_ok _
      · exact raises_error.mpr (defect_known _)
      · exact raises_error.mpr (decode_known _)
    · exact raises_error.mpr (defect_known _)
  · exact raises_error.mpr (decode_known _)

theorem has_key_known (key : String) : Raises Known (hasKey payload key) := by
  unfold hasKey
  cases payload with
  | dict fields => exact raises_ok _
  | list items => exact raises_ok _
  | str text => exact raises_ok _
  | _ => exact raises_error.mpr (.inr ⟨"TypeError", by decide, rfl⟩)

theorem check_known (keys : List String) : Raises Known (checkKeys payload keys) := by
  induction keys with
  | nil => exact raises_ok ()
  | cons key keys ih =>
      unfold checkKeys
      split
      · rename_i error raised
        exact raises_error.mpr (has_key_known key error raised)
      · exact raises_error.mpr (defect_known _)
      · exact ih

theorem item_known (key : String) : Raises Known (itemAt payload key) := by
  unfold itemAt
  split
  · split
    · exact raises_ok _
    · exact raises_error.mpr (.inr ⟨"KeyError", by decide, rfl⟩)
  · exact raises_error.mpr (.inr ⟨"TypeError", by decide, rfl⟩)

theorem str_known (value : Value) : Raises Known (strOf python value) := by
  unfold strOf
  split
  · exact raises_error.mpr (.inr ⟨"RecursionError", by decide, rfl⟩)
  · exact raises_ok _

theorem confidence_known (value : Value) : Raises Known (confidenceOf python value) := by
  unfold confidenceOf
  split
  · exact raises_ok _
  · exact raises_error.mpr (.inr ⟨"OverflowError", by decide, rfl⟩)
  · split
    · exact raises_error.mpr (.inr ⟨"RecursionError", by decide, rfl⟩)
    · exact raises_error.mpr (defect_known _)
  · split
    · exact raises_error.mpr (.inr ⟨"RecursionError", by decide, rfl⟩)
    · exact raises_error.mpr (defect_known _)

theorem text_known (key : String) : Raises Known (textAt python payload key) :=
  raises_after (item_known key) str_known

theorem files_known {rootCause explanation diff : Text} {confidence : Double}
    (shaped : looksLikeUnifiedDiff diff = true) (likely : inUnit confidence = true) :
    Raises Known (withFiles payload rootCause explanation diff confidence shaped likely) := by
  unfold withFiles
  apply raises_after (item_known _)
  intro files
  unfold normalized
  split
  · exact raises_ok _
  · exact raises_error.mpr (defect_known _)

theorem with_confidence_known {rootCause explanation diff : Text} (shaped : looksLikeUnifiedDiff diff = true) :
    Raises Known (withConfidence python payload rootCause explanation diff shaped) := by
  unfold withConfidence
  apply raises_after (item_known _)
  intro value
  apply raises_after (confidence_known value)
  intro confidence
  split
  · exact files_known shaped _
  · exact raises_error.mpr (defect_known _)

theorem validate_known : Raises Known (validateProposal python payload) := by
  unfold validateProposal
  apply raises_after (check_known _)
  intro _
  apply raises_after (text_known _)
  intro rootCause
  apply raises_after (text_known _)
  intro explanation
  apply raises_after (text_known _)
  intro diff
  unfold withDiff
  split
  · exact raises_error.mpr (defect_known _)
  · split
    · exact with_confidence_known _
    · exact raises_error.mpr (defect_known _)

theorem parse_known (content : Text) : Raises Known (parseProposal python content) :=
  raises_after (extract_known content) fun _ => validate_known

end Raised

section Settled

def Permanent (error : Exn) : Prop := isPermanent error = true

/-- The answer becomes a proposal, or the permanent error of the two steps, and is recorded as that. -/
structure Settled (python : Python) (content : Text) : Prop where
  raised : ∀ error, parseProposal python content = .error error →
    ∃ message, error = .fixProposalError message true
  recorded : ∀ error, takeAnswer python content = .error error → isPermanent error = true

/-- `repr` has the frames that the value takes. -/
def Printable (python : Python) (value : Value) : Prop := value.depth ≤ python.reprDepth

def Shaped (diff : Text) : Prop := Text.strip diff ≠ [] ∧ looksLikeUnifiedDiff diff = true

/-- The values of a proposal can be written and converted, and those that are taken can be stored. -/
structure ValuesPlain (python : Python) (rootCause explanation diff confidence files : Value) : Prop where
  printed : Printable python rootCause ∧ Printable python explanation ∧ Printable python diff
  converted : Shaped (textOf python diff) →
    (∀ number, confidence = .int number → number.natAbs < doubleOverflow) ∧ Printable python confidence
  stored : Shaped (textOf python diff) → ∀ likely, toFloat python confidence = .ok likely →
    inUnit likely = true → (stringsOf files).isSome = true →
    (textOf python diff).Encodable ∧ (textOf python explanation).Encodable ∧ (textOf python rootCause).Encodable

/-- An object with all the keys has plain values; a list or a text lacks a key; nothing else is a
payload. -/
def PayloadPlain (python : Python) : Value → Prop
  | .dict fields =>
      ∀ rootCause explanation diff confidence files,
        fields.lookup (Text.of "root_cause") = some rootCause →
        fields.lookup (Text.of "explanation") = some explanation →
        fields.lookup (Text.of "diff") = some diff →
        fields.lookup (Text.of "confidence") = some confidence →
        fields.lookup (Text.of "files_changed") = some files →
        ValuesPlain python rootCause explanation diff confidence files
  | .list items => ∃ key ∈ requiredKeys, items.any (Value.isStr key) = false
  | .str text => ∃ key ∈ requiredKeys, Text.contains (Text.of key) text = false
  | _ => False

/-- The decoder ends with a plain payload or with its own error; after its own error, where there is a
brace, so does the search for an object. -/
def AnswerPlain (python : Python) (content : Text) : Prop :=
  match loads python.limits (unfenced content) with
  | .ok payload => PayloadPlain python payload
  | .error .malformed =>
      (unfenced content).any (Point.isMark '\x7b') = true →
        match searchObject python.limits (unfenced content) with
        | .ok (some payload) => PayloadPlain python payload
        | .ok none => True
        | .error _ => False
  | .error _ => False

variable {python : Python} {Second : Type}

theorem defect_permanent (message : String) : Permanent (defect message) := rfl

theorem str_then_iff {value : Value} {rest : Text → Except Exn Second} :
    Raises Permanent (strOf python value >>= rest) ↔
      Printable python value ∧ Raises Permanent (rest (textOf python value)) := by
  unfold strOf Printable
  split
  · rename_i deep
    apply iff_of_false
    · intro raises
      cases raises _ rfl
    · intro both
      exact absurd both.1 (Nat.not_le.mpr deep)
  · rename_i shallow
    constructor
    · intro raises
      exact ⟨Nat.not_lt.mp shallow, raises⟩
    · intro both
      exact both.2

/-- What is no number, and no text of one, is written into the message. -/
theorem refused_then_iff {value : Value} {rest : Double → Except Exn Second}
    (refused : toFloat python value = .error .value ∨ toFloat python value = .error .type) :
    Raises Permanent (confidenceOf python value >>= rest) ↔ Printable python value := by
  have written : confidenceOf python value =
      if python.reprDepth < value.depth then .error (libraryError "RecursionError")
      else .error (defect ("confidence must be a float, got " ++ python.reprOf value)) := by
    unfold confidenceOf
    rcases refused with same | same
    · rw [same]
    · rw [same]
  rw [written]
  unfold Printable
  split
  · rename_i deep
    apply iff_of_false
    · intro raises
      cases raises _ rfl
    · exact Nat.not_le.mpr deep
  · rename_i shallow
    apply iff_of_true
    · intro error raised
      cases raised
      rfl
    · exact Nat.not_lt.mp shallow

theorem overflow_iff (value : Value) :
    toFloat python value ≠ .error .overflow ↔ ∀ number, value = .int number → number.natAbs < doubleOverflow := by
  cases value with
  | int number =>
      unfold toFloat
      dsimp only
      by_cases large : doubleOverflow ≤ number.natAbs
      · rw [if_pos large]
        apply iff_of_false
        · intro other
          exact other rfl
        · intro short
          exact absurd (short number rfl) (Nat.not_lt.mpr large)
      · rw [if_neg large]
        apply iff_of_true
        · intro same
          cases same
        · rintro other same
          cases same
          exact Nat.not_le.mp large
  | str text =>
      apply iff_of_true
      · unfold toFloat
        dsimp only
        split
        · intro same
          cases same
        · intro same
          cases same
      · intro number same
        cases same
  | _ =>
      apply iff_of_true
      · intro same
        cases same
      · intro number same
        cases same

theorem confidence_then_iff {value : Value} {rest : Double → Except Exn Second} :
    Raises Permanent (confidenceOf python value >>= rest) ↔
      ((∀ number, value = .int number → number.natAbs < doubleOverflow) ∧ Printable python value) ∧
        ∀ likely, toFloat python value = .ok likely → Raises Permanent (rest likely) := by
  rw [← @overflow_iff python value]
  cases converted : toFloat python value with
  | ok likely =>
      have goes_on : (confidenceOf python value >>= rest) = rest likely := by
        unfold confidenceOf
        rw [converted]
        rfl
      have flat : Printable python value := by
        cases value with
        | list items => cases converted
        | dict fields => cases converted
        | _ => exact Nat.zero_le _
      rw [goes_on]
      simp [flat]
  | error error =>
      cases error with
      | overflow =>
          have raised : (confidenceOf python value >>= rest) = .error (libraryError "OverflowError") := by
            unfold confidenceOf
            rw [converted]
            rfl
          rw [raised, raises_error]
          apply iff_of_false
          · intro permanent
            cases permanent
          · rintro ⟨⟨other, _⟩, _⟩
            exact other rfl
      | value =>
          rw [refused_then_iff (.inl converted)]
          simp
      | type =>
          rw [refused_then_iff (.inr converted)]
          simp

theorem store_iff {proposal : Proposal} :
    Raises Permanent (storeProposal proposal) ↔
      proposal.diff.Encodable ∧ proposal.explanation.Encodable ∧ proposal.rootCause.Encodable := by
  unfold storeProposal
  split
  · rename_i encodable
    exact iff_of_true (raises_ok _) encodable
  · rename_i refused
    apply iff_of_false
    · intro raises
      cases raises _ rfl
    · exact refused

section Dict

variable {fields : List (Text × Value)} {rootCause explanation diff confidence files : Value}

theorem item_found {key : String} {value : Value} (found : fields.lookup (Text.of key) = some value) :
    itemAt (.dict fields) key = .ok value := by
  unfold itemAt
  dsimp only
  rw [found]

theorem files_then_iff {root why patch : Text} {likelihood : Double}
    (found : fields.lookup (Text.of "files_changed") = some files)
    (shaped : looksLikeUnifiedDiff patch = true) (likely : inUnit likelihood = true) :
    Raises Permanent (withFiles (.dict fields) root why patch likelihood shaped likely >>= storeProposal) ↔
      ((stringsOf files).isSome = true → patch.Encodable ∧ why.Encodable ∧ root.Encodable) := by
  have reads : withFiles (.dict fields) root why patch likelihood shaped likely =
      normalized root why patch likelihood shaped likely (stringsOf files) := by
    unfold withFiles
    rw [item_found found]
    rfl
  rw [reads]
  cases stringsOf files with
  | none =>
      have refused : (normalized root why patch likelihood shaped likely none >>= storeProposal) =
          .error (defect "files_changed must be a list of strings") := rfl
      rw [refused, raises_error]
      apply iff_of_true
      · exact defect_permanent _
      · intro named
        cases named
  | some filesChanged =>
      have taken : (normalized root why patch likelihood shaped likely (some filesChanged) >>= storeProposal) =
          storeProposal ⟨Text.strip root, Text.strip why, patch, likelihood, filesChanged, shaped, likely⟩ := rfl
      rw [taken, store_iff, Text.strip_encodable, Text.strip_encodable]
      simp

theorem with_confidence_then_iff {root why patch : Text}
    (read : fields.lookup (Text.of "confidence") = some confidence)
    (found : fields.lookup (Text.of "files_changed") = some files)
    (shaped : looksLikeUnifiedDiff patch = true) :
    Raises Permanent (withConfidence python (.dict fields) root why patch shaped >>= storeProposal) ↔
      ((∀ number, confidence = .int number → number.natAbs < doubleOverflow) ∧ Printable python confidence) ∧
        ∀ likely, toFloat python confidence = .ok likely → inUnit likely = true →
          (stringsOf files).isSome = true → patch.Encodable ∧ why.Encodable ∧ root.Encodable := by
  have reads : (withConfidence python (.dict fields) root why patch shaped >>= storeProposal) =
      confidenceOf python confidence >>= fun likelihood =>
        (if likely : inUnit likelihood = true then
          withFiles (.dict fields) root why patch likelihood shaped likely
        else .error (defect ("confidence must be in [0.0, 1.0], got " ++ python.reprOf (.real likelihood)))) >>=
          storeProposal := by
    unfold withConfidence
    rw [item_found read]
    exact bind_assoc (confidenceOf python confidence) _ storeProposal
  rw [reads, confidence_then_iff]
  apply and_congr_right
  intro _
  apply forall_congr'
  intro likelihood
  apply imp_congr_right
  intro _
  by_cases likely : inUnit likelihood = true
  · rw [dif_pos likely, files_then_iff found]
    simp [likely]
  · rw [dif_neg likely]
    apply iff_of_true
    · intro error raised
      cases raised
      rfl
    · intro inside
      exact absurd inside likely

theorem with_diff_then_iff {root why patch : Text}
    (read : fields.lookup (Text.of "confidence") = some confidence)
    (found : fields.lookup (Text.of "files_changed") = some files) :
    Raises Permanent (withDiff python (.dict fields) root why patch >>= storeProposal) ↔
      (Shaped patch →
        ((∀ number, confidence = .int number → number.natAbs < doubleOverflow) ∧ Printable python confidence) ∧
        ∀ likely, toFloat python confidence = .ok likely → inUnit likely = true →
          (stringsOf files).isSome = true → patch.Encodable ∧ why.Encodable ∧ root.Encodable) := by
  unfold withDiff
  by_cases blank : Text.strip patch = []
  · rw [if_pos blank]
    apply iff_of_true
    · intro error raised
      cases raised
      rfl
    · intro shaped
      exact absurd blank shaped.1
  · rw [if_neg blank]
    by_cases shaped : looksLikeUnifiedDiff patch = true
    · rw [dif_pos shaped, with_confidence_then_iff read found]
      constructor
      · intro plain _
        exact plain
      · intro plain
        exact plain ⟨blank, shaped⟩
    · rw [dif_neg shaped]
      apply iff_of_true
      · intro error raised
        cases raised
        rfl
      · intro both
        exact absurd both.2 shaped

theorem text_then {key : String} {value : Value} (found : fields.lookup (Text.of key) = some value) :
    textAt python (.dict fields) key = strOf python value := by
  unfold textAt
  rw [item_found found]
  rfl

theorem values_then_iff (present : checkKeys (.dict fields) requiredKeys = .ok ())
    (rootFound : fields.lookup (Text.of "root_cause") = some rootCause)
    (whyFound : fields.lookup (Text.of "explanation") = some explanation)
    (patchFound : fields.lookup (Text.of "diff") = some diff)
    (read : fields.lookup (Text.of "confidence") = some confidence)
    (found : fields.lookup (Text.of "files_changed") = some files) :
    Raises Permanent (validateProposal python (.dict fields) >>= storeProposal) ↔
      ValuesPlain python rootCause explanation diff confidence files := by
  have reads : (validateProposal python (.dict fields) >>= storeProposal) =
      strOf python rootCause >>= fun root => strOf python explanation >>= fun why =>
        strOf python diff >>= fun patch => withDiff python (.dict fields) root why patch >>= storeProposal := by
    unfold validateProposal
    rw [present, text_then rootFound, text_then whyFound, text_then patchFound]
    simp only [bind_assoc]
    rfl
  rw [reads, str_then_iff, str_then_iff, str_then_iff, with_diff_then_iff read found]
  constructor
  · rintro ⟨root, why, patch, rest⟩
    exact ⟨⟨root, why, patch⟩, fun shaped => (rest shaped).1, fun shaped => (rest shaped).2⟩
  · rintro ⟨⟨root, why, patch⟩, converted, stored⟩
    exact ⟨root, why, patch, fun shaped => ⟨converted shaped, stored shaped⟩⟩

end Dict

theorem check_keys_of {payload : Value} {test : String → Bool} (answers : ∀ key, hasKey payload key = .ok (test key))
    (keys : List String) :
    (keys.all test = true → checkKeys payload keys = .ok ()) ∧
      (keys.all test = false → ∃ message, checkKeys payload keys = .error (defect message)) := by
  induction keys with
  | nil =>
      constructor
      · intro _
        rfl
      · intro some_missing
        cases some_missing
  | cons key keys ih =>
      unfold checkKeys
      rw [answers key, List.all_cons]
      cases test key with
      | true =>
          rw [Bool.true_and]
          exact ih
      | false =>
          rw [Bool.false_and]
          constructor
          · intro all_there
            cases all_there
          · intro _
            exact ⟨_, rfl⟩

/-- A payload of another kind than a `dict`. -/
theorem no_dict_then_iff {payload : Value} {test : String → Bool} (answers : ∀ key, hasKey payload key = .ok (test key))
    (no_item : ∀ key, itemAt payload key = .error (libraryError "TypeError")) :
    Raises Permanent (validateProposal python payload >>= storeProposal) ↔ ∃ key ∈ requiredKeys, test key = false := by
  obtain ⟨all_there, some_missing⟩ := check_keys_of answers requiredKeys
  by_cases present : requiredKeys.all test = true
  · have raised : (validateProposal python payload >>= storeProposal) = .error (libraryError "TypeError") := by
      unfold validateProposal textAt
      rw [all_there present, no_item]
      rfl
    rw [raised, raises_error]
    apply iff_of_false
    · intro permanent
      cases permanent
    · rintro ⟨key, required, missing⟩
      rw [List.all_eq_true.mp present key required] at missing
      cases missing
  · obtain ⟨message, refused⟩ := some_missing (Bool.not_eq_true _ ▸ present)
    have raised : (validateProposal python payload >>= storeProposal) = .error (defect message) := by
      unfold validateProposal
      rw [refused]
      rfl
    rw [raised, raises_error]
    apply iff_of_true
    · exact defect_permanent message
    · rw [List.all_eq_true, not_forall] at present
      obtain ⟨key, missing⟩ := present
      rw [Classical.not_imp] at missing
      exact ⟨key, missing.1, Bool.not_eq_true _ ▸ missing.2⟩

theorem payload_then_iff (payload : Value) :
    Raises Permanent (validateProposal python payload >>= storeProposal) ↔ PayloadPlain python payload := by
  have refuses : ∀ scalar : Value, (∀ key, hasKey scalar key = .error (libraryError "TypeError")) →
      ¬Raises Permanent (validateProposal python scalar >>= storeProposal) := by
    intro scalar no_answer raises
    have raised : (validateProposal python scalar >>= storeProposal) = .error (libraryError "TypeError") := by
      unfold validateProposal requiredKeys checkKeys
      rw [no_answer]
      rfl
    rw [raised, raises_error] at raises
    cases raises
  cases payload with
  | list items => exact no_dict_then_iff (fun _ => rfl) fun _ => rfl
  | str text => exact no_dict_then_iff (fun _ => rfl) fun _ => rfl
  | dict fields =>
      obtain ⟨all_there, some_missing⟩ :=
        @check_keys_of (.dict fields) (fun key => (fields.lookup (Text.of key)).isSome) (fun _ => rfl) requiredKeys
      by_cases present : requiredKeys.all (fun key => (fields.lookup (Text.of key)).isSome) = true
      · have found : ∀ key ∈ requiredKeys, ∃ value, fields.lookup (Text.of key) = some value := by
          intro key required
          exact Option.isSome_iff_exists.mp (List.all_eq_true.mp present key required)
        obtain ⟨rootCause, rootFound⟩ := found "root_cause" (by decide)
        obtain ⟨explanation, whyFound⟩ := found "explanation" (by decide)
        obtain ⟨diff, patchFound⟩ := found "diff" (by decide)
        obtain ⟨confidence, read⟩ := found "confidence" (by decide)
        obtain ⟨files, named⟩ := found "files_changed" (by decide)
        rw [values_then_iff (all_there present) rootFound whyFound patchFound read named]
        dsimp only [PayloadPlain]
        rw [rootFound, whyFound, patchFound, read, named]
        constructor
        · intro plain root why patch likely paths first second third fourth fifth
          cases first
          cases second
          cases third
          cases fourth
          cases fifth
          exact plain
        · intro plain
          exact plain _ _ _ _ _ rfl rfl rfl rfl rfl
      · obtain ⟨message, refused⟩ := some_missing (Bool.not_eq_true _ ▸ present)
        have raised : (validateProposal python (.dict fields) >>= storeProposal) = .error (defect message) := by
          unfold validateProposal
          rw [refused]
          rfl
        rw [raised, raises_error]
        apply iff_of_true
        · exact defect_permanent message
        · intro rootCause explanation diff confidence files rootFound whyFound patchFound read named
          refine absurd ?_ present
          simp [requiredKeys, rootFound, whyFound, patchFound, read, named]
  | _ => exact iff_of_false (refuses _ fun _ => rfl) id

theorem take_reads (content : Text) :
    takeAnswer python content =
      extractJson python content >>= fun payload => validateProposal python payload >>= storeProposal := by
  unfold takeAnswer parseProposal
  exact bind_assoc _ _ _

theorem decode_not_permanent (error : DecodeError) : ¬Permanent (decodeExn error) := by
  intro permanent
  cases error with
  | malformed => cases permanent
  | tooManyDigits => cases permanent
  | tooDeep => cases permanent

theorem take_then_iff (content : Text) : Raises Permanent (takeAnswer python content) ↔ AnswerPlain python content := by
  rw [take_reads]
  unfold extractJson AnswerPlain
  dsimp only
  cases loads python.limits (unfenced content) with
  | ok payload => exact payload_then_iff payload
  | error error =>
      have raises_decoded : ∀ error, ¬Raises Permanent ((.error (decodeExn error) : Except Exn Value) >>=
          fun payload => validateProposal python payload >>= storeProposal) := by
        intro error raises
        exact decode_not_permanent error (raises _ rfl)
      cases error with
      | malformed =>
          by_cases braced : (unfenced content).any (Point.isMark '\x7b') = true
          · simp only [braced, if_true, forall_const]
            cases searchObject python.limits (unfenced content) with
            | ok found =>
                cases found with
                | some payload => exact payload_then_iff payload
                | none => exact iff_of_true (fun _ raised => by cases raised; rfl) trivial
            | error error => exact iff_of_false (raises_decoded error) id
          · simp only [braced]
            exact iff_of_true (fun _ raised => by cases raised; rfl) fun other => by cases other
      | tooManyDigits => exact iff_of_false (raises_decoded _) id
      | tooDeep => exact iff_of_false (raises_decoded _) id

/-- An answer is settled exactly when it is plain. -/
theorem answer_settled_iff (python : Python) (content : Text) : Settled python content ↔ AnswerPlain python content := by
  rw [← take_then_iff]
  constructor
  · intro settled
    exact settled.recorded
  · intro raises
    refine ⟨?_, raises⟩
    intro error raised
    have taken : takeAnswer python content = .error error := by
      unfold takeAnswer
      rw [raised]
      rfl
    exact known_permanent (parse_known content error raised) (raises error taken)

end Settled

/-- An interpreter of plain texts. -/
def plainPython : Python :=
  { limits := ⟨4300, 1000⟩, reprDepth := 1000, reprOf := fun _ => "value", floatOf := fun _ => none
    firstError := fun _ => "Expecting value" }

/-- `null` is decoded, and asked for its keys. -/
theorem null_answer_transient :
    (∃ error, takeAnswer plainPython (Text.of "null") = .error error ∧ isPermanent error = false) ∧
      ¬Settled plainPython (Text.of "null") := by
  have raised : takeAnswer plainPython (Text.of "null") = .error (libraryError "TypeError") := rfl
  refine ⟨⟨_, raised, by decide⟩, ?_⟩
  intro settled
  cases settled.recorded _ raised

end Bugalizer.Pipeline
