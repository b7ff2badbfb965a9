import Broadsheet.Toml.Value
import Broadsheet.Text.Double
import Broadsheet.Text.Search
import Broadsheet.Text.Word

/-!
# Broadsheet.Toml.Scalar

Values without delimiters of their own: booleans, numbers, dates and times.
Each is recognised from its whole text.
-/

namespace Broadsheet.Toml

open Decimal (isDigit natValue hexDigit digitsValue)

/-! ## Numbers -/

/-- Takes the underscores out of a run of digits.  Each must stand between two digits, and there
must be a digit. -/
def plainDigits (digit : Char → Bool) : List Char → Option (List Char)
  | [] => none
  | [c] => if digit c then some [c] else none
  | c :: '_' :: cs => if digit c then (plainDigits digit cs).map (c :: ·) else none
  | c :: cs => if digit c then (plainDigits digit cs).map (c :: ·) else none

/-- Digits of a base, as a number. -/
def basedInteger (base : Nat) (digit : Char → Option Nat) (s : List Char) : Option Int :=
  (plainDigits (fun c => (digit c).isSome) s).map fun ds => digitsValue base digit 0 ds

/-- A digit below a bound. -/
def digitBelow (bound : Nat) (c : Char) : Option Nat := (hexDigit c).filter (· < bound)

/-- Decimal digits without a leading zero, `0` itself apart. -/
def wholeDigits (s : List Char) : Option (List Char) :=
  match s with
  | ['0'] => some ['0']
  | '0' :: _ => none
  | _ => plainDigits isDigit s

/-- An integer: decimal with a sign if any, or in base 16, 8 or 2 without one. -/
def readInteger (s : List Char) : Option Int :=
  match s with
  | '0' :: 'x' :: ds => basedInteger 16 hexDigit ds
  | '0' :: 'o' :: ds => basedInteger 8 (digitBelow 8) ds
  | '0' :: 'b' :: ds => basedInteger 2 (digitBelow 2) ds
  | _ =>
    let (negative, ds) := Decimal.takeSign s
    (wholeDigits ds).map fun ds => if negative then -(natValue ds : Int) else natValue ds

/-- Whether a character begins an exponent. -/
def isExponentMark (c : Char) : Bool := c == 'e' || c == 'E'

/-- The text after the mark of an exponent is a sign if any, and digits. -/
def isExponent (s : List Char) : Bool := (plainDigits isDigit (Decimal.takeSign s).2).isSome

/-- Whether a text is a float: a whole part with a fraction, an exponent or both, or one of the
special numbers. -/
def isFloat (s : List Char) : Bool :=
  let body := (Decimal.takeSign s).2
  if body = "inf".toList || body = "nan".toList then true
  else
    let whole := body.takeWhile fun c => c != '.' && !isExponentMark c
    let rest := body.drop whole.length
    (wholeDigits whole).isSome &&
    match rest with
    | '.' :: t =>
      let fraction := t.takeWhile fun c => !isExponentMark c
      (plainDigits isDigit fraction).isSome &&
        match t.drop fraction.length with
        | [] => true
        | _ :: e => isExponent e
    | _ :: e => isExponent e
    | [] => false

/-- Whether a written float is a number outside the range of floats. -/
def floatOverflows (literal : List Char) : Bool :=
  match Decimal.read? (literal.filter (· != '_')) with
  | some d => Decimal.magnitude d.toBits == Decimal.infinityBits
  | none => false

/-! ## Dates and times -/

/-- Two digits at the front, as a number, and the rest. -/
def twoDigits : List Char → Option (Nat × List Char)
  | a :: b :: s => if isDigit a && isDigit b then some (natValue [a, b], s) else none
  | _ => none

/-- The days of a month. -/
def monthDays (year month : Nat) : Nat :=
  if month = 2 then
    if year % 4 = 0 ∧ (year % 100 ≠ 0 ∨ year % 400 = 0) then 29 else 28
  else if month ∈ [4, 6, 9, 11] then 30 else 31

/-- Takes a date `year-month-day` from the front. -/
def afterDate? (s : List Char) : Option (List Char) := do
  let (y1, s) ← twoDigits s
  let (y2, s) ← twoDigits s
  let (month, s) ← twoDigits (← after? ['-'] s)
  let (day, s) ← twoDigits (← after? ['-'] s)
  guard (1 ≤ month ∧ month ≤ 12 ∧ 1 ≤ day ∧ day ≤ monthDays (y1 * 100 + y2) month)
  return s

/-- Takes the seconds of a time from the front, if there are any: a colon, two digits, and a
fraction if any. -/
def afterSeconds? (s : List Char) : Option (List Char) :=
  match s with
  | ':' :: t => do
    let (second, t) ← twoDigits t
    guard (second ≤ 60)
    match t with
    | '.' :: u =>
      guard (!(u.takeWhile isDigit).isEmpty)
      return u.dropWhile isDigit
    | _ => return t
  | _ => some s

/-- Takes a time `hour:minute:second` from the front; the seconds may be left out. -/
def afterTime? (s : List Char) : Option (List Char) := do
  let (hour, s) ← twoDigits s
  let (minute, s) ← twoDigits (← after? [':'] s)
  guard (hour ≤ 23 ∧ minute ≤ 59)
  afterSeconds? s

/-- Whether a text is an offset from universal time, or nothing. -/
def isOffset (s : List Char) : Bool :=
  match s with
  | [] => true
  | [c] => c == 'Z' || c == 'z'
  | c :: t =>
    (c == '+' || c == '-') &&
    match twoDigits t with
    | some (hour, ':' :: u) =>
      match twoDigits u with
      | some (minute, []) => hour ≤ 23 && minute ≤ 59
      | _ => false
    | _ => false

/-- Whether a text is a date, a time, or both with an offset if any. -/
def isDate (s : List Char) : Bool :=
  match afterDate? s with
  | some [] => true
  | some (c :: t) =>
    (c == 'T' || c == 't' || c == ' ') &&
      ((afterTime? t).map isOffset).getD false
  | none => afterTime? s == some []

/-! ## Recognition -/

/-- The value that a text without delimiters stands for.  A number out of range is refused. -/
def readScalar (s : List Char) : Option Value :=
  if s = "true".toList then some (.boolean true)
  else if s = "false".toList then some (.boolean false)
  else if let some n := readInteger s then
    if fitsWord 128 n then some (.integer n) else none
  else if isFloat s then
    if floatOverflows s then none else some (.float s)
  else if isDate s then some (.date s)
  else none

end Broadsheet.Toml
