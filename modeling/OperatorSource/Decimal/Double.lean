/-!
# Numbers in double precision

A number of double precision is kept as its sixty-four bits. Finite ones are `significand` times a
power of two, with a sign. Decimal text is read to the nearest such number.
-/

namespace OperatorSource.Decimal

/-- A number of double precision, as its bits. -/
structure Double where
  bits : UInt64
  deriving DecidableEq

namespace Double

def infinity : Double := ⟨0x7FF0000000000000⟩

def negativeInfinity : Double := ⟨0xFFF0000000000000⟩

/-- The result of an operation that has none. -/
def nan : Double := ⟨0x7FF8000000000000⟩

def isNegative (number : Double) : Bool := number.bits >>> 63 == 1

def exponentBits (number : Double) : Nat := ((number.bits >>> 52) &&& 0x7FF).toNat

def fractionBits (number : Double) : Nat := (number.bits &&& 0xFFFFFFFFFFFFF).toNat

def isFinite (number : Double) : Bool := number.exponentBits < 0x7FF

/-- Whether a number is undefined. -/
def isNaN (number : Double) : Bool := number.exponentBits == 0x7FF && number.fractionBits != 0

def isZero (number : Double) : Bool := number.exponentBits == 0 && number.fractionBits == 0

/-- The bit in front of the fraction, which is not stored. -/
def hiddenBit : Nat := 0x10000000000000

/-- The whole number that a power of two is multiplied by. -/
def significand (number : Double) : Nat :=
  if number.exponentBits = 0 then number.fractionBits else hiddenBit + number.fractionBits

/-- The exponent of the power of two that the significand is multiplied by. -/
def binaryExponent (number : Double) : Int := (max number.exponentBits 1 : Nat) - 1075

/-- Equality of numbers: the two zeros are one number, and so are all undefined ones. -/
def same (left right : Double) : Bool :=
  left == right || (left.isZero && right.isZero) || (left.isNaN && right.isNaN)

/-- A fraction rounded to the nearest whole number; of two the even one. -/
def roundedQuotient (numerator denominator : Nat) : Nat :=
  let quotient := numerator / denominator
  let twice := 2 * (numerator % denominator)
  if twice < denominator ∨ (twice = denominator ∧ quotient % 2 = 0) then quotient
  else quotient + 1

/-- The bits, without a sign, of the number nearest to a positive fraction. Its significand counts a
power of two that leaves fifty-three bits, or the least such power if the fraction is smaller; what
is too large is infinite. -/
def magnitudeBits (numerator denominator : Nat) : Nat :=
  let scaled (unit : Int) : Nat × Nat :=
    (numerator * Nat.pow 2 (-unit).toNat, denominator * Nat.pow 2 unit.toNat)
  let least : Int := max ((numerator.log2 : Int) - denominator.log2 - 53) (-1074)
  let unit := if (scaled least).1 / (scaled least).2 < 2 * hiddenBit then least else least + 1
  let significand := roundedQuotient (scaled unit).1 (scaled unit).2
  min ((unit + 1074).toNat * hiddenBit + significand) (0x7FF * hiddenBit)

/-- The number nearest to `digits` times the power of ten with this exponent. Exponents that leave
nothing or too much are not expanded. -/
def nearest (negative : Bool) (digits : Nat) (exponent : Int) : Double :=
  let size := (Nat.toDigits 10 digits).length + exponent
  let magnitude :=
    if digits = 0 ∨ size < -330 then 0
    else if 310 < size then 0x7FF * hiddenBit
    else magnitudeBits (digits * Nat.pow 10 exponent.toNat) (Nat.pow 10 (-exponent).toNat)
  ⟨UInt64.ofNat ((if negative then 0x8000000000000000 else 0) + magnitude)⟩

def digitsValue (digits : List Char) : Nat :=
  digits.foldl (fun number digit => 10 * number + (digit.toNat - '0'.toNat)) 0

/-- The exponent at the end of a decimal text: nothing, or a letter, perhaps a sign, and digits. -/
def exponentOf? : List Char → Option Int
  | [] => some 0
  | letter :: rest =>
    if letter = 'e' ∨ letter = 'E' then
      let (negative, digits) := match rest with
        | '-' :: digits => (true, digits)
        | '+' :: digits => (false, digits)
        | digits => (false, digits)
      if digits.isEmpty || !digits.all Char.isDigit then none
      else some (if negative then -(digitsValue digits : Int) else digitsValue digits)
    else none

/-- Reads a decimal text: perhaps a minus sign, digits with perhaps a point among or beside them,
and perhaps an exponent. -/
def ofText? (text : List Char) : Option Double :=
  let (negative, unsigned) := match text with
    | '-' :: unsigned => (true, unsigned)
    | unsigned => (false, unsigned)
  let whole := unsigned.takeWhile Char.isDigit
  let behind := unsigned.dropWhile Char.isDigit
  let (fraction, rest) := match behind with
    | '.' :: more => (more.takeWhile Char.isDigit, more.dropWhile Char.isDigit)
    | _ => ([], behind)
  if whole.isEmpty && fraction.isEmpty then none
  else
    (exponentOf? rest).map (fun exponent =>
      nearest negative (digitsValue (whole ++ fraction)) (exponent - fraction.length))

end Double

end OperatorSource.Decimal
