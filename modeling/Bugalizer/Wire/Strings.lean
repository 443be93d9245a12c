import Bugalizer.Json
import Bugalizer.Wire.Value

/-!
# What `str` does to a text of code points

Stripping, lines and substrings. A lone surrogate is no blank and ends no line.
-/

namespace Bugalizer.Wire

set_option autoImplicit false

namespace Point

def isMark (char : Char) (point : Point) : Bool := point == .scalar char

def isSpace : Point → Bool
  | .scalar char => Py.isSpace char
  | .surrogate _ => false

/-- What `splitlines` ends a line at. -/
def endsLine : Point → Bool
  | .scalar char => char.val ∈ [10, 11, 12, 13, 28, 29, 30, 133, 8232, 8233]
  | .surrogate _ => false

theorem space_scalar {point : Point} (space : point.isSpace = true) : point.isScalar = true := by
  cases point with
  | scalar char => rfl
  | surrogate half => cases space

end Point

namespace Text

def lstrip (text : Text) : Text := text.dropWhile Point.isSpace

def rstrip (text : Text) : Text := (lstrip text.reverse).reverse

def strip (text : Text) : Text := rstrip (lstrip text)

/-- `needle in text`. -/
def contains (needle : Text) (text : Text) : Bool := text.tails.any needle.isPrefixOf

/-- `text.splitlines()`; the first text is the line so far, backwards. -/
def splitLines : Text → Text → List Text
  | line, [] => if line = [] then [] else [line.reverse]
  | line, first :: rest =>
      if first.endsLine then
        match rest with
        | [] => [line.reverse]
        | second :: behind =>
            if first.isMark '\r' && second.isMark '\n' then line.reverse :: splitLines [] behind
            else line.reverse :: splitLines [] (second :: behind)
      else splitLines (first :: line) rest

theorem encodable_reverse (text : Text) : Encodable text.reverse ↔ Encodable text := by
  unfold Encodable
  simp only [List.mem_reverse]

theorem lstrip_encodable (text : Text) : Encodable (lstrip text) ↔ Encodable text := by
  have whole : text.takeWhile Point.isSpace ++ lstrip text = text := List.takeWhile_append_dropWhile
  have blanks : Encodable (text.takeWhile Point.isSpace) := by
    intro point member
    exact Point.space_scalar (List.mem_takeWhile_imp member)
  constructor
  · intro rest
    rw [← whole, encodable_append]
    exact ⟨blanks, rest⟩
  · intro clean
    rw [← whole, encodable_append] at clean
    exact clean.2

theorem strip_encodable (text : Text) : Encodable (strip text) ↔ Encodable text := by
  rw [strip, rstrip, encodable_reverse, lstrip_encodable, encodable_reverse,
    lstrip_encodable]

end Text

mutual

def Value.depth : Value → Nat
  | .list items => itemsDepth items + 1
  | .dict fields => fieldsDepth fields + 1
  | _ => 0

def itemsDepth : List Value → Nat
  | [] => 0
  | item :: items => max item.depth (itemsDepth items)

def fieldsDepth : List (Text × Value) → Nat
  | [] => 0
  | (_, value) :: fields => max value.depth (fieldsDepth fields)

end

end Bugalizer.Wire
