import OperatorSource.Decimal.Double

/-!
# Shortest decimal texts

A finite number is shown by the fewest decimal digits that read back as it, and among those by the
ones nearest to it. All comparisons are exact: the numbers that round to the given one form an
interval whose ends are whole multiples of a power of two, and it includes its ends just when the
significand is even. For one digit, two digits and so on, the two neighbours of the number on that
decimal grid are tried; seventeen digits are always enough.
-/

namespace OperatorSource.Decimal

/-- The decimal number `digits` times the power of ten with this exponent. -/
structure Digits where
  digits : Nat
  exponent : Int
  deriving DecidableEq

/-- A positive number and the interval of what rounds to it, all as multiples of one unit, which is
the power of two with this exponent. -/
structure Interval where
  low : Nat
  number : Nat
  high : Nat
  unit : Int
  /-- Whether the ends of the interval belong to it. -/
  closed : Bool

/-- The interval of what rounds to a positive number. Below a power of two the next number is only
half as far away. -/
def Interval.ofDouble (number : Double) : Interval :=
  let significand := number.significand
  let halved := number.fractionBits == 0 && 1 < number.exponentBits
  { low := if halved then 4 * significand - 1 else 4 * significand - 2
    number := 4 * significand
    high := 4 * significand + 2
    unit := number.binaryExponent - 2
    closed := significand % 2 == 0 }

namespace Interval

def ratio (base : Nat) (exponent : Int) : Nat × Nat :=
  (Nat.pow base exponent.toNat, Nat.pow base (-exponent).toNat)

/-- Multiples of the unit and of a power of ten, scaled so that they compare as whole numbers: the
factor of the former and the factor of the latter. -/
def scales (interval : Interval) (exponent : Int) : Nat × Nat :=
  let two := ratio 2 interval.unit
  let ten := ratio 10 exponent
  (two.1 * ten.2, ten.1 * two.2)

/-- Whether a multiple of a power of ten is in the interval. -/
def contains (interval : Interval) (candidate : Digits) : Bool :=
  let (unit, power) := interval.scales candidate.exponent
  let value := candidate.digits * power
  if interval.closed then interval.low * unit ≤ value && value ≤ interval.high * unit
  else interval.low * unit < value && value < interval.high * unit

/-- The grid point in the interval that is nearest to the number, among its two neighbours. -/
def onGrid? (interval : Interval) (exponent : Int) : Option Digits :=
  let (unit, power) := interval.scales exponent
  let value := interval.number * unit
  let below : Digits := ⟨value / power, exponent⟩
  let above : Digits := ⟨value / power + 1, exponent⟩
  match interval.contains below && 0 < below.digits, interval.contains above with
  | true, true =>
    if 2 * (value % power) ≤ power then some below else some above
  | true, false => some below
  | false, true => some above
  | false, false => none

/-- The least exponent from `exponent` on, within some steps, whose power of ten is above the
number. -/
def decimalSize (interval : Interval) : (steps : Nat) → (exponent : Int) → Int
  | 0, exponent => exponent
  | steps + 1, exponent =>
    let (unit, power) := interval.scales exponent
    if interval.number * unit < power then exponent
    else interval.decimalSize steps (exponent + 1)

/-- The first grid point in the interval, from a grid exponent downwards. -/
def search (interval : Interval) : (steps : Nat) → (exponent : Int) → Digits
  | 0, exponent =>
    let (unit, power) := interval.scales exponent
    ⟨interval.number * unit / power, exponent⟩
  | steps + 1, exponent =>
    match interval.onGrid? exponent with
    | some found => found
    | none => interval.search steps (exponent - 1)

def shortest (interval : Interval) : Digits :=
  interval.search 18 (interval.decimalSize 650 (-330))

end Interval

namespace Double

/-- The shortest digits of a finite number, its sign aside. -/
def shortestDigits (number : Double) : Digits :=
  if number.isZero then ⟨0, 0⟩ else (Interval.ofDouble number).shortest

def zeros (count : Nat) : String := String.ofList (List.replicate count '0')

def signText (number : Double) : String := if number.isNegative then "-" else ""

/-- Decimal digits in positional notation; there is always a point. -/
def positionalDigits (shortest : Digits) : String :=
  let digits := toString shortest.digits
  if 0 ≤ shortest.exponent then digits ++ zeros shortest.exponent.toNat ++ ".0"
  else
    let point := digits.length + shortest.exponent
    if 0 < point then
      String.ofList (digits.toList.take point.toNat) ++ "." ++
        String.ofList (digits.toList.drop point.toNat)
    else "0." ++ zeros (-point).toNat ++ digits

/-- Decimal digits with one of them before the point, and an exponent. -/
def scientificDigits (shortest : Digits) : String :=
  let digits := toString shortest.digits
  let exponent := toString (digits.length + shortest.exponent - 1)
  match digits.toList with
  | [] | [_] => digits ++ "e" ++ exponent
  | first :: rest => first.toString ++ "." ++ String.ofList rest ++ "e" ++ exponent

/-- A number in positional notation, however long. -/
def positionalText (number : Double) : String :=
  if number.isNaN then "NaN"
  else if number.isFinite then number.signText ++ positionalDigits number.shortestDigits
  else number.signText ++ "inf"

/-- A number in positional notation where its point is within sixteen digits or at most five places
in front of them, and with an exponent otherwise. -/
def compactText (number : Double) : String :=
  if number.isNaN then ".nan"
  else if number.isFinite then
    let shortest := number.shortestDigits
    let point := (toString shortest.digits).length + shortest.exponent
    number.signText ++
      (if -5 < point ∧ point ≤ 16 then positionalDigits shortest else scientificDigits shortest)
  else number.signText ++ ".inf"

end Double

end OperatorSource.Decimal
