import Bugalizer.Pipeline.FixProposer
import Bugalizer.Text.Rewrite

/-!
# Secrets kept out of error texts

`redact` and `_safe_error_text` replace one secret after the other and then whatever a
pattern finds. Each pass reads what the one before it wrote: none of them joins the pieces
of a secret, because what it writes is a mark that no secret reaches across.
-/

namespace Bugalizer

set_option autoImplicit false

open Text

def base64Digits : List Char :=
  "ABCDEFGHIJKLMNOPQRSTUVWXYZabcdefghijklmnopqrstuvwxyz0123456789+/".toList

def base64Digit (value : Nat) : Char := base64Digits.getD value 'A'

def b64encode : List UInt8 → List Char
  | [] => []
  | [first] =>
      [base64Digit (first.toNat / 4), base64Digit (first.toNat % 4 * 16), '=', '=']
  | [first, second] =>
      [base64Digit (first.toNat / 4), base64Digit (first.toNat % 4 * 16 + second.toNat / 16),
        base64Digit (second.toNat % 16 * 4), '=']
  | first :: second :: third :: rest =>
      base64Digit (first.toNat / 4) :: base64Digit (first.toNat % 4 * 16 + second.toNat / 16) ::
        base64Digit (second.toNat % 16 * 4 + third.toNat / 64) :: base64Digit (third.toNat % 64) ::
          b64encode rest

/-- `base64.b64encode(f"x-access-token:{token}".encode()).decode()`. -/
def basicAuth (token : String) : List Char :=
  b64encode (("x-access-token:".toList ++ token.toList).flatMap String.utf8EncodeChar)

/-- Whether a letter of a pattern matches under `(?i)`: beside its capital, a dotted capital
and a dotless small `i` match an `i`. -/
def matchesFolded (letter c : Char) : Bool :=
  c == letter || c == letter.toUpper || (letter == 'i' && c.val ∈ [0x130, 0x131])

def foldedPrefix (word text : List Char) : Bool :=
  word.length ≤ text.length && (word.zip text).all fun (letter, c) => matchesFolded letter c

def stars : List Char := "***".toList

/-- `_AUTH_LINE`, replaced by `\1***` where it matches. -/
def authLine : Rule Char := fun text =>
  let word := "authorization:".toList
  if foldedPrefix word text then
    let value := text.drop word.length
    some (text.take word.length ++ value.takeWhile Py.isSpace ++ stars,
      (value.dropWhile Py.isSpace).dropWhile fun c => c != '\r' && c != '\n')
  else none

def redact (text token : Option String) : String :=
  match text with
  | none => ""
  | some text =>
      if text = "" then ""
      else
        let out := text.toList
        let out :=
          match token with
          | none => out
          | some token =>
              if token = "" then out
              else
                let out := replaceAll (basicAuth token) stars out.length out
                replaceAll token.toList stars out.length out
        String.ofList (rewriteAll authLine out.length out)

theorem replace_all_eq (old new : List Char) (fuel : Nat) (text : List Char) :
    replaceAll old new fuel text = rewriteAll (replacing old new) fuel text := by
  induction fuel generalizing text with
  | zero => rfl
  | succ fuel ih =>
      cases text with
      | nil => rfl
      | cons letter text =>
          rw [replaceAll, rewriteAll, replacing]
          by_cases here : old.isPrefixOf (letter :: text) = true
          · rw [if_pos here, if_pos here]
            exact congrArg (new ++ ·) (ih _)
          · rw [if_neg here, if_neg here]
            exact congrArg (letter :: ·) (ih _)

/-- `_KEY_SHAPES`, replaced by the mark where it matches. -/
def keyShape : Rule Char := fun text => (afterKey text).map fun rest => (redacted, rest)

theorem redact_keys_eq (fuel : Nat) (text : List Char) :
    redactKeys fuel text = rewriteAll keyShape fuel text := by
  induction fuel generalizing text with
  | zero => rfl
  | succ fuel ih =>
      cases text with
      | nil => rfl
      | cons letter text =>
          rw [redactKeys, rewriteAll, keyShape]
          cases afterKey (letter :: text) with
          | none => exact congrArg (letter :: ·) (ih _)
          | some rest => exact congrArg (redacted ++ ·) (ih _)

theorem after_run_suffix {allowed : Char → Bool} {text rest : List Char}
    (ran : afterRun allowed text = some rest) : rest <:+ text := by
  unfold afterRun at ran
  split at ran
  · cases ran
    exact List.dropWhile_suffix allowed
  · cases ran

theorem key_shape_marks : keyShape.Marks redacted := by
  intro text written rest matched
  obtain ⟨left, found, same⟩ := Option.map_eq_some_iff.mp matched
  cases same
  have behind : rest <:+ text := by
    unfold afterKey at found
    dsimp only at found
    split at found
    · exact (after_run_suffix found).trans (List.drop_suffix _ _)
    · split at found
      · exact (after_run_suffix found).trans
          ((List.dropWhile_suffix Py.isSpace).trans (List.drop_suffix _ _))
      · cases found
  obtain ⟨gone, shape⟩ := behind
  exact ⟨[], gone, shape.symm, rfl⟩

theorem auth_line_marks : authLine.Marks stars := by
  intro text written rest matched
  unfold authLine at matched
  dsimp only at matched
  split at matched
  · cases matched
    generalize "authorization:".toList.length = width
    let value := text.drop width
    refine ⟨text.take width ++ value.takeWhile Py.isSpace,
      (value.dropWhile Py.isSpace).takeWhile fun c => c != '\r' && c != '\n', ?_, rfl⟩
    rw [List.takeWhile_append_dropWhile, List.append_assoc, List.takeWhile_append_dropWhile,
      List.take_append_drop]
  · cases matched

theorem stars_barrier {secret : List Char} (plain : '*' ∉ secret) (filled : secret ≠ []) :
    Barrier stars secret := by
  have framed : stars = '*' :: (['*'] ++ ['*']) := by decide
  rw [framed]
  apply barrier_framed plain plain
  intro inside
  obtain ⟨letter, rest, rfl⟩ := List.exists_cons_of_ne_nil filled
  have starred : letter = '*' := by
    simpa using inside.subset (List.mem_cons_self)
  apply plain
  rw [starred]
  exact List.mem_cons_self

theorem redacted_barrier {secret : List Char} (opens : '[' ∉ secret) (closes : ']' ∉ secret)
    (free : ¬secret <:+: "redacted".toList) : Barrier redacted secret := by
  have framed : redacted = '[' :: ("redacted".toList ++ [']']) := by decide
  rw [framed]
  exact barrier_framed opens closes free

theorem base64_digit_ne (value : Nat) : base64Digit value ≠ '*' := by
  have digits : base64Digits.all (fun digit => digit != '*') = true := by decide
  unfold base64Digit
  rw [List.getD_eq_getElem?_getD]
  cases found : base64Digits[value]? with
  | none => decide
  | some digit =>
      have checked := List.all_eq_true.mp digits digit (List.mem_of_getElem? found)
      simpa using checked

theorem b64encode_plain (bytes : List UInt8) : '*' ∉ b64encode bytes := by
  have digit (value : Nat) : '*' ≠ base64Digit value := fun same => base64_digit_ne value same.symm
  fun_induction b64encode bytes with
  | case1 => simp
  | case2 => simp [digit]
  | case3 => simp [digit]
  | case4 first second third rest ih => simp [digit, ih]

theorem b64encode_filled {bytes : List UInt8} (some : bytes ≠ []) : b64encode bytes ≠ [] := by
  fun_cases b64encode bytes with
  | case1 => exact absurd rfl some
  | case2 => simp
  | case3 => simp
  | case4 => simp

theorem basic_auth_filled (token : String) : basicAuth token ≠ [] := by
  unfold basicAuth
  apply b64encode_filled
  intro empty
  rw [List.flatMap_append, List.append_eq_nil_iff] at empty
  exact absurd empty.1 (by decide)

/-- A pass of `_safe_error_text` for one secret. -/
def scrub (text : List Char) (secret : String) : List Char :=
  if secret = "" then text else replaceAll secret.toList redacted text.length text

theorem scrub_keeps_absent {needle : List Char} (barrier : Barrier redacted needle)
    (text : List Char) (secret : String) (absent : ¬needle <:+: text) :
    ¬needle <:+: scrub text secret := by
  unfold scrub
  split
  · exact absent
  · rw [replace_all_eq]
    exact rewrite_keeps_absent (replacing_marks _ _) barrier absent

theorem scrubs_keep_absent {needle : List Char} (barrier : Barrier redacted needle)
    (secrets : List String) (text : List Char) (absent : ¬needle <:+: text) :
    ¬needle <:+: secrets.foldl scrub text := by
  induction secrets generalizing text with
  | nil => exact absent
  | cons secret secrets ih => exact ih _ (scrub_keeps_absent barrier text secret absent)

theorem scrub_removes {secret : String} (barrier : Barrier redacted secret.toList)
    (filled : secret ≠ "") (text : List Char) : ¬secret.toList <:+: scrub text secret := by
  unfold scrub
  rw [if_neg filled, replace_all_eq]
  apply replaced_absent barrier
  · intro empty
    exact filled (String.toList_eq_nil_iff.mp empty)
  · exact le_refl _

theorem scrubs_remove {secret : String} (barrier : Barrier redacted secret.toList)
    (filled : secret ≠ "") (secrets : List String) (listed : secret ∈ secrets) (text : List Char) :
    ¬secret.toList <:+: secrets.foldl scrub text := by
  induction secrets generalizing text with
  | nil => cases listed
  | cons first secrets ih =>
      rw [List.foldl_cons]
      by_cases later : secret ∈ secrets
      · exact ih later _
      · have same : secret = first := (List.mem_cons.mp listed).resolve_right later
        subst same
        exact scrubs_keep_absent barrier secrets _ (scrub_removes barrier filled text)

theorem safe_error_text_hides (error : Exn) (secrets : List String) {secret : String}
    (listed : secret ∈ secrets) (filled : secret ≠ "") (opens : '[' ∉ secret.toList)
    (closes : ']' ∉ secret.toList) (free : ¬secret.toList <:+: "redacted".toList) :
    ¬secret.toList <:+: (safeErrorText error secrets).toList := by
  have barrier := redacted_barrier opens closes free
  unfold safeErrorText
  rw [String.toList_ofList, redact_keys_eq]
  apply rewrite_keeps_absent key_shape_marks barrier
  exact scrubs_remove barrier filled secrets listed _

/-- The two replacements of `redact`: the encoding first, then the token in what that leaves. -/
theorem redact_hides (text : Option String) {token : String} (filled : token ≠ "")
    (plain : '*' ∉ token.toList) :
    ¬token.toList <:+: (redact text (some token)).toList ∧
      ¬basicAuth token <:+: (redact text (some token)).toList := by
  have named : token.toList ≠ [] := fun empty => filled (String.toList_eq_nil_iff.mp empty)
  have apart := stars_barrier plain named
  have encoded := stars_barrier (b64encode_plain _) (basic_auth_filled token)
  unfold redact
  split
  · simp [named, basic_auth_filled]
  · rename_i text
    split
    · simp [named, basic_auth_filled]
    · dsimp only
      rw [if_neg filled, String.toList_ofList, replace_all_eq, replace_all_eq]
      constructor
      · apply rewrite_keeps_absent auth_line_marks apart
        exact replaced_absent apart named (le_refl _)
      · apply rewrite_keeps_absent auth_line_marks encoded
        apply rewrite_keeps_absent (replacing_marks _ _) encoded
        apply replaced_absent encoded (basic_auth_filled token)
        exact le_refl _

/-- Whatever the text, no secret handed to a pass is in what it returns: `redact` hides the token
and its encoding, `_safe_error_text` each of its secrets. -/
theorem secrets_redacted :
    (∀ (text : Option String) (token : String), token ≠ "" → '*' ∉ token.toList →
        ¬token.toList <:+: (redact text (some token)).toList ∧
          ¬basicAuth token <:+: (redact text (some token)).toList) ∧
      ∀ (error : Exn) (secrets : List String),
        (∀ secret ∈ secrets, secret ≠ "" ∧ '[' ∉ secret.toList ∧ ']' ∉ secret.toList ∧
            ¬secret.toList <:+: "redacted".toList) →
          ∀ secret ∈ secrets, ¬secret.toList <:+: (safeErrorText error secrets).toList := by
  constructor
  · intro text token filled plain
    exact redact_hides text filled plain
  · intro error secrets allowed secret listed
    obtain ⟨filled, opens, closes, free⟩ := allowed secret listed
    exact safe_error_text_hides error secrets listed filled opens closes free

/-- Two secrets of which one lies in the other, and a text that has both run together. -/
theorem secrets_redacted_nested :
    (¬"abab".toList <:+: (redact (some "ababab Authorization: x") (some "abab")).toList ∧
        ¬basicAuth "abab" <:+: (redact (some "ababab Authorization: x") (some "abab")).toList) ∧
      ∀ secret ∈ ["key", "keykey2"], ¬secret.toList <:+:
        (safeErrorText (.plain "ValueError" "kekeykey2y") ["key", "keykey2"]).toList :=
  ⟨secrets_redacted.1 _ _ (by decide) (by decide),
    secrets_redacted.2 _ _ (by decide +kernel)⟩

end Bugalizer
