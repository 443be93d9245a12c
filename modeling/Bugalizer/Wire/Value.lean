import Mathlib

/-!
# What `json.loads` yields and `json.dumps` writes

A text is a list of code points, halves of surrogate pairs among them: JSON escapes can name
one alone, a Python `str` holds it, and UTF-8 has no bytes for it. An integer is unbounded; a
float may be no number at all.
-/

namespace Bugalizer.Wire

set_option autoImplicit false

/-- What the standard library raises where a value has no counterpart. -/
inductive Raised where
  | overflowError
  | unicodeEncodeError
deriving DecidableEq, Repr

inductive Point where
  | scalar (char : Char)
  | surrogate (half : Fin 2048)
deriving DecidableEq

namespace Point

def code : Point → Nat
  | scalar char => char.toNat
  | surrogate half => 0xD800 + half

def isScalar : Point → Bool
  | scalar _ => true
  | surrogate _ => false

end Point

abbrev Text := List Point

namespace Text

/-- A text without surrogates. -/
def of (text : String) : Text := text.toList.map .scalar

def Encodable (text : Text) : Prop := ∀ point ∈ text, point.isScalar = true

instance (text : Text) : Decidable text.Encodable :=
  inferInstanceAs (Decidable (∀ point ∈ text, _))

def encode : Text → Except Raised (List UInt8)
  | [] => .ok []
  | .scalar char :: rest => (encode rest).map (String.utf8EncodeChar char ++ ·)
  | .surrogate _ :: _ => .error .unicodeEncodeError

/-- The order of `str`. -/
def atMost (left right : Text) : Bool := decide (left.map Point.code ≤ right.map Point.code)

theorem of_encodable (text : String) : (of text).Encodable := by
  intro point member
  obtain ⟨char, -, rfl⟩ := List.mem_map.mp member
  rfl

theorem length_of (text : String) : (of text).length = text.length := by
  rw [of, List.length_map, String.length_toList]

theorem of_injective {first second : String} (same : of first = of second) : first = second := by
  unfold of at same
  have chars : first.toList = second.toList :=
    List.map_injective_iff.mpr (fun left right same => by cases same; rfl) same
  exact String.ext chars

theorem encodable_nil : Encodable [] := by
  intro point member
  cases member

theorem encodable_cons (point : Point) (text : Text) :
    Encodable (point :: text) ↔ point.isScalar = true ∧ text.Encodable :=
  List.forall_mem_cons

theorem encodable_append (first second : Text) :
    Encodable (first ++ second) ↔ first.Encodable ∧ second.Encodable :=
  List.forall_mem_append

theorem Encodable.take {text : Text} (clean : text.Encodable) (limit : Nat) :
    Encodable (text.take limit) := by
  intro point member
  exact clean point (List.mem_of_mem_take member)

theorem encode_ok_iff (text : Text) : (∃ bytes, text.encode = .ok bytes) ↔ text.Encodable := by
  induction text with
  | nil => exact ⟨fun _ => encodable_nil, fun _ => ⟨[], rfl⟩⟩
  | cons point rest ih =>
      rw [encodable_cons, ← ih]
      cases point with
      | scalar char =>
          constructor
          · rintro ⟨bytes, encoded⟩
            refine ⟨rfl, ?_⟩
            cases tail : encode rest with
            | ok bytes => exact ⟨bytes, rfl⟩
            | error exn =>
                rw [encode, tail] at encoded
                cases encoded
          · rintro ⟨-, bytes, tail⟩
            exact ⟨String.utf8EncodeChar char ++ bytes, by rw [encode, tail]; rfl⟩
      | surrogate half =>
          constructor
          · rintro ⟨bytes, encoded⟩
            cases encoded
          · rintro ⟨scalar, -⟩
            cases scalar

end Text

/-- A float; a zero keeps its sign. Every finite double is a rational. -/
inductive Double where
  | nan
  | infinite (negative : Bool)
  | finite (negative : Bool) (magnitude : ℚ≥0)
deriving DecidableEq

inductive Value where
  | null
  | bool (value : Bool)
  | int (value : Int)
  | real (value : Double)
  | str (text : Text)
  | list (items : List Value)
  | dict (fields : List (Text × Value))

namespace Value

/-- A text that stands in a column of the database, or NULL. -/
def column : Option String → Value
  | none => null
  | some text => str (Text.of text)

/-- `value.get(name)` of a `dict`, and `None` of anything else. -/
def get (name : String) : Value → Value
  | dict fields => (fields.lookup (Text.of name)).getD null
  | _ => null

/-- `bool(value)`. -/
def truthy : Value → Bool
  | null => false
  | bool value => value
  | int value => value != 0
  | real value => match value with
    | .finite _ magnitude => magnitude != 0
    | _ => true
  | str text => !text.isEmpty
  | list items => !items.isEmpty
  | dict fields => !fields.isEmpty

def isNull : Value → Bool
  | null => true
  | _ => false

/-- `value == text`. -/
def isStr (expected : String) : Value → Bool
  | str text => text == Text.of expected
  | _ => false

end Value

def doubleOverflow : Nat := 2 ^ 1024 - 2 ^ 970

/-- `math.isnan(value)` of an integer: it is first made a float. -/
def isnanInt (value : Int) : Except Raised Bool :=
  if doubleOverflow ≤ value.natAbs then .error .overflowError else .ok false

namespace Double

/-- `value < 0 or value > 1`. -/
def outsideUnit : Double → Bool
  | nan => false
  | infinite _ => true
  | finite true magnitude => magnitude != 0
  | finite false magnitude => decide (1 < magnitude)

end Double

section Dumps

variable (repr : Double → String)

/-- One point of a text under `ensure_ascii=False`. -/
def escape : Point → Text
  | .scalar char =>
      if char = '"' then Text.of "\\\""
      else if char = '\\' then Text.of "\\\\"
      else if char = '\n' then Text.of "\\n"
      else if char = '\r' then Text.of "\\r"
      else if char = '\t' then Text.of "\\t"
      else if char.toNat = 8 then Text.of "\\b"
      else if char.toNat = 12 then Text.of "\\f"
      else if char.toNat < 32 then
        Text.of ("\\u00" ++ String.ofList
          [Nat.digitChar (char.toNat / 16), Nat.digitChar (char.toNat % 16)])
      else [.scalar char]
  | .surrogate half => [.surrogate half]

def quoted (text : Text) : Text := Text.of "\"" ++ text.flatMap escape ++ Text.of "\""

def joined (parts : List Text) : Text := (Text.of ",").intercalate parts

/-- The fields of a `dict`, each written already, in the order of their keys. -/
def sortedFields (fields : List (Text × Text)) : List Text :=
  (fields.mergeSort fun left right => left.1.atMost right.1).map Prod.snd

mutual

/-- `json.dumps(value, sort_keys=True, separators=(",", ":"), ensure_ascii=False)`; `repr` is
`float.__repr__`. -/
def dumps : Value → Text
  | .null => Text.of "null"
  | .bool value => Text.of (if value then "true" else "false")
  | .int value => Text.of (toString value)
  | .real value => Text.of (repr value)
  | .str text => quoted text
  | .list items => Text.of "[" ++ joined (dumpItems items) ++ Text.of "]"
  | .dict fields => Text.of "\x7b" ++ joined (sortedFields (dumpFields fields)) ++ Text.of "\x7d"

def dumpItems : List Value → List Text
  | [] => []
  | item :: items => dumps item :: dumpItems items

def dumpFields : List (Text × Value) → List (Text × Text)
  | [] => []
  | (key, value) :: fields =>
      (key, quoted key ++ Text.of ":" ++ dumps value) :: dumpFields fields

end

end Dumps

mutual

def Value.Encodable : Value → Prop
  | .str text => text.Encodable
  | .list items => ItemsEncodable items
  | .dict fields => FieldsEncodable fields
  | _ => True

def ItemsEncodable : List Value → Prop
  | [] => True
  | item :: items => item.Encodable ∧ ItemsEncodable items

def FieldsEncodable : List (Text × Value) → Prop
  | [] => True
  | (key, value) :: fields => key.Encodable ∧ value.Encodable ∧ FieldsEncodable fields

end

theorem escape_encodable (point : Point) : (escape point).Encodable ↔ point.isScalar = true := by
  cases point with
  | surrogate half => simp [escape, Text.Encodable]
  | scalar char =>
      refine ⟨fun _ => rfl, fun _ => ?_⟩
      simp only [escape]
      repeat' split
      all_goals first
        | exact Text.of_encodable _
        | exact (Text.encodable_cons _ _).mpr ⟨rfl, Text.encodable_nil⟩

theorem quoted_encodable (text : Text) : (quoted text).Encodable ↔ text.Encodable := by
  have middle : Text.Encodable (text.flatMap escape) ↔ text.Encodable := by
    induction text with
    | nil => exact Iff.rfl
    | cons point rest ih =>
        rw [List.flatMap_cons, Text.encodable_append, escape_encodable, ih, Text.encodable_cons]
  rw [quoted, Text.encodable_append, Text.encodable_append, middle]
  exact ⟨fun whole => whole.1.2, fun clean => ⟨⟨Text.of_encodable _, clean⟩, Text.of_encodable _⟩⟩

theorem joined_encodable (parts : List Text) :
    (joined parts).Encodable ↔ ∀ part ∈ parts, part.Encodable := by
  rw [joined]
  induction parts with
  | nil => simp [Text.Encodable]
  | cons part parts ih =>
      cases parts with
      | nil => simp
      | cons next parts =>
          rw [List.intercalate_cons_cons, Text.encodable_append, Text.encodable_append, ih,
            List.forall_mem_cons (a := part)]
          constructor
          · rintro ⟨⟨first, -⟩, rest⟩
            exact ⟨first, rest⟩
          · rintro ⟨first, rest⟩
            exact ⟨⟨first, Text.of_encodable _⟩, rest⟩

theorem sorted_fields_encodable (fields : List (Text × Text)) :
    (∀ part ∈ sortedFields fields, part.Encodable) ↔ ∀ field ∈ fields, field.2.Encodable := by
  simp only [sortedFields, List.forall_mem_map, List.mem_mergeSort]

section Dumps

variable (repr : Double → String)

mutual

/-- A value is written without surrogates exactly when it holds none. -/
theorem dumps_encodable : ∀ value : Value, (dumps repr value).Encodable ↔ value.Encodable
  | .null => iff_of_true (Text.of_encodable _) trivial
  | .bool _ => iff_of_true (Text.of_encodable _) trivial
  | .int _ => iff_of_true (Text.of_encodable _) trivial
  | .real _ => iff_of_true (Text.of_encodable _) trivial
  | .str text => quoted_encodable text
  | .list items => by
      rw [dumps, Text.encodable_append, Text.encodable_append, joined_encodable,
        dump_items_encodable items, Value.Encodable]
      exact ⟨fun whole => whole.1.2,
        fun clean => ⟨⟨Text.of_encodable _, clean⟩, Text.of_encodable _⟩⟩
  | .dict fields => by
      rw [dumps, Text.encodable_append, Text.encodable_append, joined_encodable,
        sorted_fields_encodable, dump_fields_encodable fields, Value.Encodable]
      exact ⟨fun whole => whole.1.2,
        fun clean => ⟨⟨Text.of_encodable _, clean⟩, Text.of_encodable _⟩⟩

theorem dump_items_encodable : ∀ items : List Value,
    (∀ part ∈ dumpItems repr items, part.Encodable) ↔ ItemsEncodable items
  | [] => by simp [dumpItems, ItemsEncodable]
  | item :: items => by
      rw [dumpItems, List.forall_mem_cons, dumps_encodable item, dump_items_encodable items,
        ItemsEncodable]

theorem dump_fields_encodable : ∀ fields : List (Text × Value),
    (∀ field ∈ dumpFields repr fields, field.2.Encodable) ↔ FieldsEncodable fields
  | [] => by simp [dumpFields, FieldsEncodable]
  | (key, value) :: fields => by
      rw [dumpFields, List.forall_mem_cons, Text.encodable_append, Text.encodable_append,
        quoted_encodable, dumps_encodable value, dump_fields_encodable fields, FieldsEncodable]
      have colon := Text.of_encodable ":"
      tauto

end

end Dumps

end Bugalizer.Wire
