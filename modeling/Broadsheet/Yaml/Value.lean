import Broadsheet.Text.Double

/-!
# Broadsheet.Yaml.Value

The values of a YAML document after its scalars are recognised.
-/

namespace Broadsheet.Yaml

/-- A value.  Floats are held as their 64 bits. -/
inductive Value
  | null
  | boolean (b : Bool)
  | integer (n : Int)
  | float (bits : UInt64)
  | string (s : String)
  | sequence (items : List Value)
  | mapping (entries : List (Value × Value))
  /-- A value under a local tag; the tag's name stands without its mark. -/
  | tagged (tag : String) (value : Value)

/-- Whether the bits are those of a float that is not a number. -/
def isNan (bits : UInt64) : Bool := Decimal.magnitude bits > Decimal.infinityBits

/-- Whether two floats count as one key: the two zeros do, and so do all that are no numbers. -/
def sameFloat (a b : UInt64) : Bool :=
  a == b || (isNan a && isNan b) || (Decimal.magnitude a == 0 && Decimal.magnitude b == 0)

mutual

/-- Whether two values count as one key of a mapping. -/
def Value.same : Value → Value → Bool
  | .null, .null => true
  | .boolean a, .boolean b => a == b
  | .integer a, .integer b => a == b
  | .float a, .float b => sameFloat a b
  | .string a, .string b => a == b
  | .sequence xs, .sequence ys => sameItems xs ys
  | .mapping xs, .mapping ys => sameEntries xs ys
  | .tagged s a, .tagged t b => s == t && Value.same a b
  | _, _ => false

/-- Whether two lists hold the same values. -/
def sameItems : List Value → List Value → Bool
  | [], [] => true
  | x :: xs, y :: ys => Value.same x y && sameItems xs ys
  | _, _ => false

/-- Whether two mappings hold the same entries in the same order. -/
def sameEntries : List (Value × Value) → List (Value × Value) → Bool
  | [], [] => true
  | (a, x) :: xs, (b, y) :: ys => Value.same a b && Value.same x y && sameEntries xs ys
  | _, _ => false

end

end Broadsheet.Yaml
