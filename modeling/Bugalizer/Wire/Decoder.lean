import Bugalizer.Store.Grouping
import Bugalizer.Wire.Strings

/-!
# `json.loads` and `raw_decode`

The scanner of the standard library with `strict=False`. It ends in three ways besides a value: with
its own error, with the error of an integer of too many digits, and with that of a nesting deeper than
the frames that are left.
-/

namespace Bugalizer.Wire

set_option autoImplicit false

open Store

/-- `JSONDecodeError`, the `ValueError` of `int`, `RecursionError`. -/
inductive DecodeError where
  | malformed
  | tooManyDigits
  | tooDeep
deriving DecidableEq, Repr

/-- A value and the text behind it. -/
abbrev Scanned (Result : Type) := Except DecodeError (Result × Text)

namespace Point

def isDigit : Point → Bool
  | .scalar char => char.isDigit
  | .surrogate _ => false

def digitValue (point : Point) : Nat := point.code - 48

end Point

def digitRun (text : Text) : Text × Text := (text.takeWhile Point.isDigit, text.dropWhile Point.isDigit)

/-- `int(digits)`. -/
def number (digits : Text) : Nat := digits.foldl (fun total point => 10 * total + point.digitValue) 0

namespace Double

/-- The double nearest to a quotient, to the even one of two. -/
def nearest (negative : Bool) (num den : Nat) : Double :=
  if num = 0 then finite negative 0
  else
    let high : Int := (Nat.log2 num : Int) - Nat.log2 den
    let reaches : Bool := decide (den * 2 ^ high.toNat ≤ num * 2 ^ (-high).toNat)
    -- The unit in the last place; that of the subnormals is the least.
    let unit : Int := max ((if reaches then high else high - 1) - 52) (-1074)
    let scaledNum := num * 2 ^ (-unit).toNat
    let scaledDen := den * 2 ^ unit.toNat
    let floor := scaledNum / scaledDen
    let left := 2 * (scaledNum % scaledDen)
    let rounded := if left < scaledDen ∨ (left = scaledDen ∧ floor % 2 = 0) then floor else floor + 1
    if 2 ^ 1024 ≤ rounded * 2 ^ unit.toNat then infinite negative
    else finite negative ((rounded * 2 ^ unit.toNat : Nat) / (2 ^ (-unit).toNat : Nat))

/-- `float` of a decimal: an integer times a power of ten. -/
def ofDecimal (negative : Bool) (digits : Nat) (exponent : Int) : Double :=
  nearest negative (digits * 10 ^ exponent.toNat) (10 ^ (-exponent).toNat)

end Double

/-- One zero, or digits that start with another one. -/
def integerPart (text : Text) : Option (Text × Text) :=
  match text with
  | [] => none
  | first :: rest =>
      if first.isMark '0' then some ([first], rest)
      else if first.isDigit then some (digitRun text)
      else none

def fractionPart (text : Text) : Text × Text :=
  match text with
  | [] => ([], text)
  | first :: rest => if first.isMark '.' && (digitRun rest).1 != [] then digitRun rest else ([], text)

/-- An `e`, a sign perhaps, and digits. -/
def exponentPart (text : Text) : Option Int × Text :=
  match text with
  | [] => (none, text)
  | first :: rest =>
      if first.isMark 'e' || first.isMark 'E' then
        let negative := rest.head?.any (Point.isMark '-')
        let unsigned := if negative || rest.head?.any (Point.isMark '+') then rest.tail else rest
        let (digits, behind) := digitRun unsigned
        if digits = [] then (none, text)
        else (some (if negative then -(number digits : Int) else number digits), behind)
      else (none, text)

/-- `_match_number`. -/
def scanNumber (digitLimit : Nat) (text : Text) : Scanned Value :=
  let negative := text.head?.any (Point.isMark '-')
  match integerPart (if negative then text.tail else text) with
  | none => .error .malformed
  | some (whole, rest) =>
      let fraction := fractionPart rest
      let exponent := exponentPart fraction.2
      if fraction.1 = [] ∧ exponent.1 = none then
        if digitLimit < whole.length then .error .tooManyDigits
        else .ok (.int (if negative then -(number whole : Int) else number whole), rest)
      else
        .ok (.real (.ofDecimal negative (number (whole ++ fraction.1))
          (exponent.1.getD 0 - fraction.1.length)), exponent.2)

namespace Point

/-- The point of a code unit; half a pair is a surrogate. -/
def ofUnit (code : Nat) : Point :=
  if half : 0xD800 ≤ code ∧ code < 0xE000 then .surrogate ⟨code - 0xD800, by omega⟩
  else .scalar (Char.ofNat code)

def hexValue : Point → Option Nat
  | .surrogate _ => none
  | .scalar char =>
      if char.isDigit then some (char.toNat - 48)
      else if 'a' ≤ char ∧ char ≤ 'f' then some (char.toNat - 87)
      else if 'A' ≤ char ∧ char ≤ 'F' then some (char.toNat - 55)
      else none

end Point

def hexUnit (text : Text) : Option (Nat × Text) :=
  match text with
  | first :: second :: third :: fourth :: rest =>
      match first.hexValue, second.hexValue, third.hexValue, fourth.hexValue with
      | some first, some second, some third, some fourth =>
          some (((first * 16 + second) * 16 + third) * 16 + fourth, rest)
      | _, _, _, _ => none
  | _ => none

/-- The second half of a pair, escaped as well. -/
def lowHalf (text : Text) : Option (Nat × Text) :=
  match text with
  | first :: second :: rest =>
      if first.isMark '\\' && second.isMark 'u' then
        (hexUnit rest).filter fun found => decide (0xDC00 ≤ found.1 ∧ found.1 < 0xE000)
      else none
  | _ => none

/-- The point of an escaped unit; two halves that follow each other are joined. -/
def joinHalves (code : Nat) (rest : Text) : Point × Text :=
  if 0xD800 ≤ code ∧ code < 0xDC00 then
    match lowHalf rest with
    | some (low, behind) => (.scalar (Char.ofNat (0x10000 + (code - 0xD800) * 1024 + (low - 0xDC00))), behind)
    | none => (.ofUnit code, rest)
  else (.ofUnit code, rest)

def shortEscapes : List (Char × Nat) :=
  [('"', 34), ('\\', 92), ('/', 47), ('b', 8), ('f', 12), ('n', 10), ('r', 13), ('t', 9)]

def unescape (text : Text) : Option (Point × Text) :=
  match text with
  | [] => none
  | mark :: rest =>
      if mark.isMark 'u' then (hexUnit rest).map fun found => joinHalves found.1 found.2
      else
        (shortEscapes.find? fun escape => mark.isMark escape.1).map fun escape => (.ofUnit escape.2, rest)

/-- `scanstring`, behind the opening quote. Every step of the loop takes a point. -/
def scanString : Nat → Text → Scanned Text
  | 0, _ | _, [] => .error .malformed
  | fuel + 1, first :: rest =>
      if first.isMark '"' then .ok ([], rest)
      else if first.isMark '\\' then
        match unescape rest with
        | none => .error .malformed
        | some (point, rest) => (scanString fuel rest).map fun found => (point :: found.1, found.2)
      else (scanString fuel rest).map fun found => (first :: found.1, found.2)

def isBlank (point : Point) : Bool := point.isMark ' ' || point.isMark '\t' || point.isMark '\n' || point.isMark '\r'

def skipBlanks (text : Text) : Text := text.dropWhile isBlank

def literals : List (Text × Value) :=
  [(Text.of "null", .null), (Text.of "true", .bool true), (Text.of "false", .bool false),
    (Text.of "NaN", .real .nan), (Text.of "Infinity", .real (.infinite false)),
    (Text.of "-Infinity", .real (.infinite true))]

def scanScalar (digitLimit : Nat) (text : Text) : Scanned Value :=
  match literals.find? fun literal => literal.1.isPrefixOf text with
  | some (name, value) => .ok (value, text.drop name.length)
  | none =>
      match text with
      | [] => .error .malformed
      | first :: rest =>
          if first.isMark '"' then
            (scanString (rest.length + 1) rest).map fun found => (.str found.1, found.2)
          else scanNumber digitLimit text

section Containers

variable (scan : Text → Scanned Value)

/-- What follows an item: the end, or a comma and more. -/
def scanMore {Item : Type} (ending : Char) (item : Item) (more : Text → Scanned (List Item)) (text : Text) :
    Scanned (List Item) :=
  match skipBlanks text with
  | [] => .error .malformed
  | first :: rest =>
      if first.isMark ending then .ok ([item], rest)
      else if first.isMark ',' then (more (skipBlanks rest)).map fun found => (item :: found.1, found.2)
      else .error .malformed

def scanItems : Nat → Text → Scanned (List Value)
  | 0, _ => .error .malformed
  | fuel + 1, text =>
      match scan text with
      | .error error => .error error
      | .ok (item, rest) => scanMore ']' item (scanItems fuel) rest

def scanField (text : Text) : Scanned (Text × Value) :=
  match text with
  | [] => .error .malformed
  | first :: rest =>
      if first.isMark '"' then
        match scanString (rest.length + 1) rest with
        | .error error => .error error
        | .ok (key, rest) =>
            match skipBlanks rest with
            | [] => .error .malformed
            | colon :: rest =>
                if colon.isMark ':' then
                  (scan (skipBlanks rest)).map fun found => ((key, found.1), found.2)
                else .error .malformed
      else .error .malformed

/-- The fields of a `dict`, from one of them on. -/
def scanFields : Nat → Text → Scanned (List (Text × Value))
  | 0, _ => .error .malformed
  | fuel + 1, text =>
      match scanField scan text with
      | .error error => .error error
      | .ok (field, rest) => scanMore '\x7d' field (scanFields fuel) rest

/-- `_parse_array`, behind its bracket. -/
def scanList (text : Text) : Scanned Value :=
  match skipBlanks text with
  | [] => .error .malformed
  | first :: rest =>
      if first.isMark ']' then .ok (.list [], rest)
      else (scanItems scan (rest.length + 2) (first :: rest)).map fun found => (.list found.1, found.2)

/-- `_parse_object`, behind its brace. A key that comes again replaces its value. -/
def scanDict (text : Text) : Scanned Value :=
  match skipBlanks text with
  | [] => .error .malformed
  | first :: rest =>
      if first.isMark '\x7d' then .ok (.dict [], rest)
      else
        (scanFields scan (rest.length + 2) (first :: rest)).map fun found =>
          (.dict (Mapping.collect found.1), found.2)

end Containers

/-- `scan_once`: so many more lists and objects can be opened. -/
def scanOnce (digitLimit : Nat) : Nat → Text → Scanned Value
  | 0, text =>
      match text with
      | [] => .error .malformed
      | first :: _ =>
          if first.isMark '[' || first.isMark '\x7b' then .error .tooDeep else scanScalar digitLimit text
  | depth + 1, text =>
      match text with
      | [] => .error .malformed
      | first :: rest =>
          if first.isMark '[' then scanList (scanOnce digitLimit depth) rest
          else if first.isMark '\x7b' then scanDict (scanOnce digitLimit depth) rest
          else scanScalar digitLimit text

/-- The digits an `int` may have and the frames that are left. -/
structure DecodeLimits where
  digits : Nat
  depth : Nat

/-- `decoder.raw_decode`, from a position on. -/
def rawDecode (limits : DecodeLimits) (text : Text) : Scanned Value := scanOnce limits.digits limits.depth text

def loads (limits : DecodeLimits) (text : Text) : Except DecodeError Value :=
  if text.head?.any fun first => first.code = 0xFEFF then .error .malformed
  else
    match rawDecode limits (skipBlanks text) with
    | .error error => .error error
    | .ok (value, rest) => if skipBlanks rest = [] then .ok value else .error .malformed

-- Each step of a loop takes a point, so a bound above the length of the text is never reached.

section Bounds

def Shrinks {Result : Type} (scan : Text → Scanned Result) : Prop :=
  ∀ text found, scan text = .ok found → found.2.length < text.length

theorem skip_blanks_length (text : Text) : (skipBlanks text).length ≤ text.length :=
  (List.dropWhile_sublist isBlank).length_le

theorem hex_unit_length {text : Text} {found : Nat × Text} (scanned : hexUnit text = some found) :
    found.2.length < text.length := by
  unfold hexUnit at scanned
  split at scanned
  · split at scanned
    · cases scanned
      simp only [List.length_cons]
      omega
    · cases scanned
  · cases scanned

theorem low_half_length {text : Text} {found : Nat × Text} (scanned : lowHalf text = some found) :
    found.2.length < text.length := by
  unfold lowHalf at scanned
  split at scanned
  · split at scanned
    · have inner := hex_unit_length (Option.filter_eq_some_iff.mp scanned).1
      simp only [List.length_cons]
      omega
    · cases scanned
  · cases scanned

theorem join_halves_length (code : Nat) (rest : Text) : (joinHalves code rest).2.length ≤ rest.length := by
  unfold joinHalves
  split
  · split
    · rename_i low behind half
      have shorter := low_half_length half
      exact shorter.le
    · exact le_rfl
  · exact le_rfl

theorem unescape_length {text : Text} {found : Point × Text} (scanned : unescape text = some found) :
    found.2.length < text.length := by
  unfold unescape at scanned
  split at scanned
  · cases scanned
  · split at scanned
    · obtain ⟨unit, inner, rfl⟩ := Option.map_eq_some_iff.mp scanned
      have hex := hex_unit_length inner
      have joined := join_halves_length unit.1 unit.2
      simp only [List.length_cons]
      omega
    · obtain ⟨escape, _, rfl⟩ := Option.map_eq_some_iff.mp scanned
      simp only [List.length_cons]
      omega

theorem map_ok {First Second : Type} {scanned : Scanned First} {change : First × Text → Second × Text}
    {found : Second × Text} (mapped : scanned.map change = .ok found) :
    ∃ inner, scanned = .ok inner ∧ found = change inner := by
  cases scanned with
  | error error => cases mapped
  | ok inner =>
      cases mapped
      exact ⟨inner, rfl, rfl⟩

theorem scan_string_shrinks (fuel : Nat) : Shrinks (scanString fuel) := by
  induction fuel with
  | zero =>
      intro text found scanned
      cases scanned
  | succ fuel ih =>
      intro text found scanned
      cases text with
      | nil => cases scanned
      | cons first rest =>
          unfold scanString at scanned
          rw [List.length_cons]
          split at scanned
          · cases scanned
            exact Nat.lt_succ_self _
          · split at scanned
            · split at scanned
              · cases scanned
              · rename_i point behind escape
                obtain ⟨inner, inside, rfl⟩ := map_ok scanned
                have taken := unescape_length escape
                have shorter := ih behind inner inside
                dsimp only at taken ⊢
                omega
            · obtain ⟨inner, inside, rfl⟩ := map_ok scanned
              have shorter := ih rest inner inside
              dsimp only
              omega

theorem scan_string_bound {fuel more : Nat} (later : fuel ≤ more) :
    ∀ text : Text, text.length < fuel → scanString more text = scanString fuel text := by
  induction fuel generalizing more with
  | zero =>
      intro text short
      omega
  | succ fuel ih =>
      intro text short
      obtain ⟨more, rfl⟩ : ∃ less, more = less + 1 := ⟨more - 1, by omega⟩
      cases text with
      | nil => rfl
      | cons first rest =>
          rw [List.length_cons] at short
          have tail := @ih more (by omega)
          unfold scanString
          split
          · rfl
          · split
            · split
              · rfl
              · rename_i point behind escape
                have taken := unescape_length escape
                dsimp only at taken
                rw [tail behind (by omega)]
            · rw [tail rest (by omega)]

/-- What follows an item depends on the loop at shorter texts alone. -/
theorem scan_more_congr {Item : Type} {ending : Char} {item : Item} {more other : Text → Scanned (List Item)}
    {text : Text} (same : ∀ rest : Text, rest.length < text.length → more rest = other rest) :
    scanMore ending item more text = scanMore ending item other text := by
  have skipped := skip_blanks_length text
  unfold scanMore
  split
  · rfl
  · rename_i first rest behind
    rw [behind, List.length_cons] at skipped
    split
    · rfl
    · split
      · have again := skip_blanks_length rest
        rw [same (skipBlanks rest) (by omega)]
      · rfl

variable {scan : Text → Scanned Value}

theorem scan_items_bound (shrinks : Shrinks scan) {fuel more : Nat} (later : fuel ≤ more) :
    ∀ text : Text, text.length < fuel → scanItems scan more text = scanItems scan fuel text := by
  induction fuel generalizing more with
  | zero =>
      intro text short
      omega
  | succ fuel ih =>
      intro text short
      obtain ⟨more, rfl⟩ : ∃ less, more = less + 1 := ⟨more - 1, by omega⟩
      unfold scanItems
      cases scanned : scan text with
      | error error => rfl
      | ok found =>
          have shorter := shrinks text found scanned
          apply scan_more_congr
          intro rest less
          exact @ih more (by omega) rest (by omega)

theorem scan_field_shrinks (shrinks : Shrinks scan) : Shrinks (scanField scan) := by
  intro text found scanned
  unfold scanField at scanned
  split at scanned
  · cases scanned
  · rename_i first rest
    split at scanned
    · split at scanned
      · cases scanned
      · rename_i key behind keyed
        have named := scan_string_shrinks _ _ _ keyed
        have skipped := skip_blanks_length behind
        split at scanned
        · cases scanned
        · rename_i colon after blanks
          rw [blanks, List.length_cons] at skipped
          split at scanned
          · obtain ⟨inner, inside, rfl⟩ := map_ok scanned
            have again := skip_blanks_length after
            have shorter := shrinks _ _ inside
            dsimp only at named ⊢
            rw [List.length_cons]
            omega
          · cases scanned
    · cases scanned

theorem scan_fields_bound (shrinks : Shrinks scan) {fuel more : Nat} (later : fuel ≤ more) :
    ∀ text : Text, text.length < fuel → scanFields scan more text = scanFields scan fuel text := by
  induction fuel generalizing more with
  | zero =>
      intro text short
      omega
  | succ fuel ih =>
      intro text short
      obtain ⟨more, rfl⟩ : ∃ less, more = less + 1 := ⟨more - 1, by omega⟩
      unfold scanFields
      cases scanned : scanField scan text with
      | error error => rfl
      | ok found =>
          have shorter := scan_field_shrinks shrinks text found scanned
          apply scan_more_congr
          intro rest less
          exact @ih more (by omega) rest (by omega)

theorem digit_run_length (text : Text) : (digitRun text).2.length ≤ text.length :=
  (List.dropWhile_sublist Point.isDigit).length_le

theorem integer_part_length {text : Text} {found : Text × Text} (scanned : integerPart text = some found) :
    found.2.length < text.length := by
  unfold integerPart at scanned
  split at scanned
  · cases scanned
  · rename_i first rest
    split at scanned
    · cases scanned
      exact Nat.lt_succ_self _
    · split at scanned
      · rename_i digit
        cases scanned
        have shorter := digit_run_length rest
        unfold digitRun at shorter ⊢
        rw [List.dropWhile_cons_of_pos digit, List.length_cons]
        dsimp only at shorter ⊢
        omega
      · cases scanned

theorem fraction_part_length (text : Text) : (fractionPart text).2.length ≤ text.length := by
  unfold fractionPart
  split
  · exact le_rfl
  · rename_i first rest
    have shorter := digit_run_length rest
    split
    · rw [List.length_cons]
      omega
    · exact le_rfl

theorem exponent_part_length (text : Text) : (exponentPart text).2.length ≤ text.length := by
  unfold exponentPart
  split
  · exact le_rfl
  · rename_i first rest
    split
    · dsimp only
      generalize signed : (if (rest.head?.any (Point.isMark '-') || rest.head?.any (Point.isMark '+')) = true then
        rest.tail else rest) = unsigned
      have shorter := digit_run_length unsigned
      have tail : unsigned.length ≤ rest.length := by
        rw [← signed]
        split
        · rw [List.length_tail]
          omega
        · exact le_rfl
      split
      · exact le_rfl
      · dsimp only
        rw [List.length_cons]
        omega
    · exact le_rfl

theorem scan_number_shrinks (digitLimit : Nat) : Shrinks (scanNumber digitLimit) := by
  intro text found scanned
  unfold scanNumber at scanned
  dsimp only at scanned
  have unsigned : (if text.head?.any (Point.isMark '-') = true then text.tail else text).length ≤ text.length := by
    split
    · rw [List.length_tail]
      omega
    · exact le_rfl
  split at scanned
  · cases scanned
  · rename_i whole rest part
    have shorter := integer_part_length part
    dsimp only at shorter
    split at scanned
    · split at scanned
      · cases scanned
      · cases scanned
        dsimp only
        omega
    · cases scanned
      have fraction := fraction_part_length rest
      have exponent := exponent_part_length (fractionPart rest).2
      dsimp only
      omega

theorem scan_scalar_shrinks (digitLimit : Nat) : Shrinks (scanScalar digitLimit) := by
  intro text found scanned
  unfold scanScalar at scanned
  split at scanned
  · rename_i name value literal
    cases scanned
    have named : ∀ literal ∈ literals, 0 < literal.1.length := by decide
    have filled := named _ (List.mem_of_find?_eq_some literal)
    have kept : name.isPrefixOf text = true := by
      have fits := List.find?_some literal
      exact fits
    have starts := (List.isPrefixOf_iff_prefix.mp kept).length_le
    dsimp only at filled starts ⊢
    rw [List.length_drop]
    omega
  · split at scanned
    · cases scanned
    · rename_i first rest
      split at scanned
      · obtain ⟨inner, inside, rfl⟩ := map_ok scanned
        have shorter := scan_string_shrinks _ _ _ inside
        dsimp only
        rw [List.length_cons]
        omega
      · exact scan_number_shrinks digitLimit _ _ scanned

theorem scan_more_shrinks {Item : Type} (ending : Char) (item : Item) {more : Text → Scanned (List Item)}
    (shrinks : Shrinks more) : Shrinks (scanMore ending item more) := by
  intro text found scanned
  have skipped := skip_blanks_length text
  unfold scanMore at scanned
  split at scanned
  · cases scanned
  · rename_i first rest behind
    rw [behind, List.length_cons] at skipped
    split at scanned
    · cases scanned
      dsimp only
      omega
    · split at scanned
      · obtain ⟨inner, inside, rfl⟩ := map_ok scanned
        have again := skip_blanks_length rest
        have shorter := shrinks _ _ inside
        dsimp only
        omega
      · cases scanned

theorem scan_items_shrinks (shrinks : Shrinks scan) (fuel : Nat) : Shrinks (scanItems scan fuel) := by
  induction fuel with
  | zero =>
      intro text found scanned
      cases scanned
  | succ fuel ih =>
      intro text found scanned
      unfold scanItems at scanned
      split at scanned
      · cases scanned
      · rename_i item rest first
        have taken := shrinks _ _ first
        have shorter := scan_more_shrinks _ item ih _ _ scanned
        dsimp only at taken
        omega

theorem scan_fields_shrinks (shrinks : Shrinks scan) (fuel : Nat) : Shrinks (scanFields scan fuel) := by
  induction fuel with
  | zero =>
      intro text found scanned
      cases scanned
  | succ fuel ih =>
      intro text found scanned
      unfold scanFields at scanned
      split at scanned
      · cases scanned
      · rename_i field rest first
        have taken := scan_field_shrinks shrinks _ _ first
        have shorter := scan_more_shrinks _ field ih _ _ scanned
        dsimp only at taken
        omega

theorem scan_list_shrinks (shrinks : Shrinks scan) : Shrinks (scanList scan) := by
  intro text found scanned
  have skipped := skip_blanks_length text
  unfold scanList at scanned
  split at scanned
  · cases scanned
  · rename_i first rest behind
    rw [behind, List.length_cons] at skipped
    split at scanned
    · cases scanned
      dsimp only
      omega
    · obtain ⟨inner, inside, rfl⟩ := map_ok scanned
      have shorter := scan_items_shrinks shrinks _ _ _ inside
      rw [List.length_cons] at shorter
      dsimp only
      omega

theorem scan_dict_shrinks (shrinks : Shrinks scan) : Shrinks (scanDict scan) := by
  intro text found scanned
  have skipped := skip_blanks_length text
  unfold scanDict at scanned
  split at scanned
  · cases scanned
  · rename_i first rest behind
    rw [behind, List.length_cons] at skipped
    split at scanned
    · cases scanned
      dsimp only
      omega
    · obtain ⟨inner, inside, rfl⟩ := map_ok scanned
      have shorter := scan_fields_shrinks shrinks _ _ _ inside
      rw [List.length_cons] at shorter
      dsimp only
      omega

/-- The scans that the loops run on take a point, at any depth. -/
theorem scan_once_shrinks (digitLimit depth : Nat) : Shrinks (scanOnce digitLimit depth) := by
  induction depth with
  | zero =>
      intro text found scanned
      cases text with
      | nil => cases scanned
      | cons first rest =>
          simp only [scanOnce] at scanned
          split at scanned
          · cases scanned
          · exact scan_scalar_shrinks digitLimit _ _ scanned
  | succ depth ih =>
      intro text found scanned
      cases text with
      | nil => cases scanned
      | cons first rest =>
          simp only [scanOnce] at scanned
          split at scanned
          · have shorter := scan_list_shrinks ih _ _ scanned
            rw [List.length_cons]
            omega
          · split at scanned
            · have shorter := scan_dict_shrinks ih _ _ scanned
              rw [List.length_cons]
              omega
            · exact scan_scalar_shrinks digitLimit _ _ scanned

end Bounds

end Bugalizer.Wire
