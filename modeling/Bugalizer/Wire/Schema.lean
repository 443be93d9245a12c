import Bugalizer.Wire.Value

/-!
# Strict schemas

What the other side of an exchange takes: an object has the listed keys and no other one, and
a text, a list or a number keeps its limit.
-/

namespace Bugalizer.Wire

set_option autoImplicit false

inductive Schema where
  /-- A text of at least and at most so many code points. -/
  | text (least most : Nat)
  | anyText
  | startsWith (start : String) (most : Nat)
  /-- A text of at most so many bytes of UTF-8. -/
  | bytes (most : Nat)
  | oneOf (texts : List String)
  /-- A float between 0 and 1. -/
  | unit
  | positive
  | bool
  | nullable (inner : Schema)
  | list (most : Nat) (item : Schema)
  | object (fields : List (String × Schema))

namespace Schema

mutual

def accepts : Schema → Value → Bool
  | text least most, .str found => decide (least ≤ found.length) && decide (found.length ≤ most)
  | anyText, .str _ => true
  | startsWith start most, .str found =>
      (Text.of start).isPrefixOf found && decide (found.length ≤ most)
  | bytes most, .str found =>
      match found.encode with
      | .ok encoded => decide (encoded.length ≤ most)
      | .error _ => false
  | oneOf texts, .str found => texts.any fun text => found == Text.of text
  | unit, .real (.finite negative magnitude) => !(Double.finite negative magnitude).outsideUnit
  | positive, .int value => decide (0 < value)
  | bool, .bool _ => true
  | nullable inner, value => value.isNull || inner.accepts value
  | list most item, .list items => decide (items.length ≤ most) && items.all item.accepts
  | object fields, .dict found => acceptsFields fields found
  | _, _ => false

def acceptsFields : List (String × Schema) → List (Text × Value) → Bool
  | [], [] => true
  | (name, schema) :: fields, (key, value) :: found =>
      key == Text.of name && schema.accepts value && acceptsFields fields found
  | _, _ => false

end

theorem accepts_nullable (inner : Schema) (value : Value) :
    (nullable inner).accepts value = (value.isNull || inner.accepts value) := by
  rw [accepts]

theorem accepts_object (fields : List (String × Schema)) (found : List (Text × Value)) :
    (object fields).accepts (.dict found) = acceptsFields fields found := by
  rw [accepts]

theorem accepts_fields_nil : acceptsFields [] [] = true := by
  rw [acceptsFields]

theorem accepts_fields_cons (name : String) (schema : Schema) (fields : List (String × Schema))
    (value : Value) (found : List (Text × Value)) :
    acceptsFields ((name, schema) :: fields) ((Text.of name, value) :: found) =
      (schema.accepts value && acceptsFields fields found) := by
  rw [acceptsFields, beq_self_eq_true, Bool.true_and]

end Schema

end Bugalizer.Wire
