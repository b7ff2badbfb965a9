/-!
# Broadsheet.Text.Double

Decimal numbers and the 64-bit floating point numbers nearest to them.  A
float is held as its 64 bits, so floats compare and print exactly.

A decimal `m * 10 ^ e` is an exact quotient of naturals.  It is divided by
the power of two that leaves 53 bits, or by the least power of two there is,
and rounded to nearest with ties to even.  Exponents far outside the range of
floats are settled first, so that no huge power is computed.
-/

namespace Broadsheet

/-- A decimal number `± significand * 10 ^ exponent`. -/
structure Decimal where
  negative : Bool
  significand : Nat
  exponent : Int

namespace Decimal

/-! ## Rounding -/

/-- The quotient rounded to nearest, ties to even. -/
def roundDiv (num den : Nat) : Nat :=
  let q := num / den
  let r := num % den
  if 2 * r > den || (2 * r == den && q % 2 == 1) then q + 1 else q

/-- The bits of infinity. -/
def infinityBits : Nat := 0x7FF0000000000000

/-- The bit of the sign. -/
def signBit : Nat := 1 <<< 63

/-- The bits of a float without its sign. -/
def magnitude (bits : UInt64) : Nat := bits.toNat % signBit

/-- The least significand with an implicit top bit. -/
def implicitBit : Nat := 1 <<< 52

/-- The bits of the float nearest to the positive quotient `num / den`. -/
def quotientBits (num den : Nat) : Nat :=
  -- the power of two that leaves 53 bits before the point, or one bit more
  let guess : Int := (num.log2 : Int) - den.log2 - 52
  let scaled (k : Int) : Nat × Nat :=
    if 0 ≤ k then (num, den <<< k.toNat) else (num <<< (-k).toNat, den)
  let low := scaled guess
  let k := if low.1 / low.2 < implicitBit then guess - 1 else guess
  let k := if k < -1074 then -1074 else k
  let q := scaled k
  let significand := roundDiv q.1 q.2
  -- the implicit top bit makes a carry into the exponent come out right
  let bits :=
    if significand < implicitBit then significand
    else (k + 1075).toNat * implicitBit + (significand - implicitBit)
  min bits infinityBits

/-- The bits of the float nearest to a decimal. -/
def toBits (d : Decimal) : UInt64 :=
  let digits : Int := (Nat.toDigits 10 d.significand).length
  let size :=
    if d.significand = 0 then 0
    else if digits + d.exponent > 310 then infinityBits
    else if digits + d.exponent < -330 then 0
    else if 0 ≤ d.exponent then quotientBits (d.significand * Nat.pow 10 d.exponent.toNat) 1
    else quotientBits d.significand (Nat.pow 10 (-d.exponent).toNat)
  UInt64.ofNat (size + if d.negative then signBit else 0)

/-! ## Reading -/

/-- The value of a run of digits, after the value of those before it. -/
def digitsValue (base : Nat) (digit : Char → Option Nat) : Nat → List Char → Nat
  | acc, [] => acc
  | acc, c :: cs => digitsValue base digit (acc * base + (digit c).getD 0) cs

/-- A decimal digit. -/
def decimalDigit (c : Char) : Option Nat :=
  if '0' ≤ c ∧ c ≤ '9' then some (c.toNat - 48) else none

/-- A hexadecimal digit of either case. -/
def hexDigit (c : Char) : Option Nat :=
  if '0' ≤ c ∧ c ≤ '9' then some (c.toNat - 48)
  else if 'a' ≤ c ∧ c ≤ 'f' then some (c.toNat - 87)
  else if 'A' ≤ c ∧ c ≤ 'F' then some (c.toNat - 55)
  else none

/-- Whether a character is a decimal digit. -/
def isDigit (c : Char) : Bool := (decimalDigit c).isSome

/-- The value of decimal digits. -/
def natValue (s : List Char) : Nat := digitsValue 10 decimalDigit 0 s

/-- Takes a sign from the front: whether it is a minus, and the rest. -/
def takeSign : List Char → Bool × List Char
  | '-' :: s => (true, s)
  | '+' :: s => (false, s)
  | s => (false, s)

/-- Reads an exponent, `e` or `E` with a sign if any and digits, or the end of the text. -/
def readExponent : List Char → Option Int
  | [] => some 0
  | c :: s =>
    if c = 'e' ∨ c = 'E' then
      let (negative, digits) := takeSign s
      if digits.isEmpty || !digits.all isDigit then none
      else some (if negative then -(natValue digits : Int) else natValue digits)
    else none

/-- Reads a decimal number: a sign if any, digits with or without a point among, before or after
them, and an exponent if any.  There must be at least one digit beside the exponent's. -/
def read? (s : List Char) : Option Decimal := do
  let (negative, s) := takeSign s
  let whole := s.takeWhile isDigit
  let s := s.dropWhile isDigit
  let (fraction, s) := match s with
    | '.' :: t => (t.takeWhile isDigit, t.dropWhile isDigit)
    | t => ([], t)
  guard (!(whole.isEmpty && fraction.isEmpty))
  let exponent ← readExponent s
  return ⟨negative, natValue (whole ++ fraction), exponent - fraction.length⟩

end Decimal

end Broadsheet
