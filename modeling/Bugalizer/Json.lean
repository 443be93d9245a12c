import Mathlib

/-!
# JSON values and the few Python notions the code applies to them

A `real` holds the text that `repr` writes of the float, whatever its literal was: a zero is `0.0` or
`-0.0`. No modelled function computes with one.
-/

namespace Bugalizer

set_option autoImplicit false

inductive Json where
  | null
  | bool (value : Bool)
  | int (value : Int)
  | real (text : String)
  | str (text : String)
  | arr (items : List Json)
  | obj (fields : List (String × Json))

namespace Json

/-- `bool(value)`. -/
def truthy : Json → Bool
  | null => false
  | bool value => value
  | int value => value != 0
  | real text => text != "0.0" && text != "-0.0"
  | str text => text != ""
  | arr items => !items.isEmpty
  | obj fields => !fields.isEmpty

/-- The value under a key, of a `dict` and of nothing else. -/
def field? (name : String) : Json → Option Json
  | obj fields => fields.lookup name
  | _ => none

def string? : Json → Option String
  | str text => some text
  | _ => none

def isObj : Json → Bool
  | obj _ => true
  | _ => false

def list? : Json → Option (List Json)
  | arr items => some items
  | _ => none

/-- `value.get(name)` of a value known to be a `dict`; a missing key is `None`. -/
def get (name : String) (value : Json) : Json := (value.field? name).getD null

/-- `value is True`. -/
def isTrue : Json → Bool
  | bool true => true
  | _ => false

/-- What SQLite binds to a column; a `dict` or a `list` is refused by the driver. -/
def bindable : Json → Bool
  | arr _ => false
  | obj _ => false
  | _ => true

def isNull : Json → Bool
  | null => true
  | _ => false

/-- Equality with a string, as `value == text` decides it. -/
def isStr (text : String) : Json → Bool
  | str other => other == text
  | _ => false

end Json

namespace Py

/-- The characters `str.strip` removes. -/
def isSpace (c : Char) : Bool :=
  c.val ∈ [9, 10, 11, 12, 13, 28, 29, 30, 31, 32, 133, 160, 5760, 8192, 8193, 8194, 8195, 8196,
    8197, 8198, 8199, 8200, 8201, 8202, 8232, 8233, 8239, 8287, 12288]

/-- `text.strip()`, as its characters. -/
def stripped (text : List Char) : List Char :=
  ((text.dropWhile isSpace).reverse.dropWhile isSpace).reverse

def lowerChar (c : Char) : Char :=
  if c.val ∈ [0x212A] then 'k' else c.toLower

/-- `text.lower()`, as far as the result can be an ASCII word: beside the ASCII capitals
only the Kelvin sign has a lower case in ASCII alone. -/
def lowered (text : List Char) : List Char := text.map lowerChar

def strip (text : String) : String := String.ofList (stripped text.toList)

def startsWith (text start : String) : Bool := start.toList.isPrefixOf text.toList

/-- `text[:limit]`. -/
def clipTo (limit : Nat) (text : String) : String := String.ofList (text.toList.take limit)

theorem clip_length (limit : Nat) (text : String) : (clipTo limit text).length ≤ limit := by
  simp [clipTo]

def isBlank (text : String) : Bool := text.toList.all isSpace

/-- Insertion sort, stable, as `ORDER BY` and `list.sort` are on rows of one order. -/
def sortOn {Row : Type} (stamp : Row → Nat) (rows : List Row) : List Row :=
  rows.insertionSort fun first second => stamp first ≤ stamp second

def sortDescending {Row : Type} (stamp : Row → Nat) (rows : List Row) : List Row :=
  rows.insertionSort fun first second => stamp second ≤ stamp first

end Py

namespace Pipeline

/-- `items[:limit]`. -/
def upTo {Item : Type} (limit : Int) (items : List Item) : List Item :=
  if limit < 0 then items.take (items.length - limit.natAbs) else items.take limit.toNat

end Pipeline

end Bugalizer
