/-!
# Shortest decimals

The shortest decimal that reads back as a given binary number. All reals closer to the number than
to its neighbours read back as it, so what is sought is a point of the coarsest decimal grid that
meets this interval; on each grid only the two points next to the number come into question. All
arithmetic is exact.
-/

namespace LinkedAccess.Decimal

/-- A quotient of natural numbers. -/
structure Ratio where
  numerator : Nat
  denominator : Nat

/-- A quotient times a power of ten. -/
def Ratio.scale (ratio : Ratio) (exponent : Int) : Ratio :=
  if 0 ≤ exponent then ⟨ratio.numerator * Nat.pow 10 exponent.toNat, ratio.denominator⟩
  else ⟨ratio.numerator, ratio.denominator * Nat.pow 10 (-exponent).toNat⟩

/-- The numbers that read back as one binary number: those between two bounds around it. -/
structure Neighbourhood where
  value : Ratio
  lower : Ratio
  upper : Ratio
  /-- Whether the bounds themselves read back as the number. -/
  isClosed : Bool

/-- The neighbourhood of `significand * 2 ^ exponent`. The gap below a power of two is half the gap
above it. -/
def Neighbourhood.of (significand : Nat) (exponent : Int) (isPower : Bool) : Neighbourhood :=
  let ratio (quarters : Nat) : Ratio :=
    if 2 ≤ exponent then ⟨quarters * Nat.pow 2 (exponent - 2).toNat, 1⟩
    else ⟨quarters, Nat.pow 2 (2 - exponent).toNat⟩
  { value := ratio (4 * significand)
    lower := ratio (4 * significand - if isPower then 1 else 2)
    upper := ratio (4 * significand + 2)
    isClosed := significand % 2 = 0 }

/-- Whether a whole number lies between the bounds, when these are scaled by a power of ten. -/
def Neighbourhood.holds (neighbourhood : Neighbourhood) (exponent : Int) (point : Nat) : Bool :=
  let lower := neighbourhood.lower.scale exponent
  let upper := neighbourhood.upper.scale exponent
  let below := point * lower.denominator
  let above := point * upper.denominator
  if neighbourhood.isClosed then lower.numerator ≤ below && above ≤ upper.numerator
  else lower.numerator < below && above < upper.numerator

/-- The whole number next to a quotient that reads back as it: the nearer one if both do, and of two
that are equally near the even one. -/
def Neighbourhood.point? (neighbourhood : Neighbourhood) (exponent : Int) : Option Nat :=
  let value := neighbourhood.value.scale exponent
  let floor := value.numerator / value.denominator
  let rest := value.numerator % value.denominator
  let isNearFloor :=
    2 * rest < value.denominator || (2 * rest = value.denominator && floor % 2 = 0)
  let candidates := if isNearFloor then [floor, floor + 1] else [floor + 1, floor]
  candidates.find? fun point => point ≠ 0 && neighbourhood.holds exponent point

/-- The exponent of the first decimal digit of a positive quotient. -/
def Ratio.magnitude (ratio : Ratio) : Int :=
  if ratio.denominator ≤ ratio.numerator then
    (Nat.toDigits 10 (ratio.numerator / ratio.denominator)).length - 1
  else
    match (List.range 400).find? fun shift =>
      decide (ratio.denominator ≤ ratio.numerator * Nat.pow 10 shift) with
    | some shift => -(shift : Int)
    | none => 0

/-- A decimal: its digits and the exponent of the last one. -/
structure Digits where
  digits : List Char
  exponent : Int

/-- The same decimal without zeros at its end. -/
def Digits.trim (decimal : Digits) : Digits :=
  let zeros := (decimal.digits.reverse.takeWhile (· = '0')).length
  ⟨decimal.digits.take (decimal.digits.length - zeros), decimal.exponent + zeros⟩

/-- The shortest decimal in the neighbourhood of a positive number. Seventeen digits always do. -/
def Neighbourhood.shortest (neighbourhood : Neighbourhood) : Digits :=
  let magnitude := neighbourhood.value.magnitude
  let found := (List.range 17).findSome? fun (count : Nat) =>
    let exponent : Int := count - magnitude
    (neighbourhood.point? exponent).map fun point =>
      (⟨Nat.toDigits 10 point, -exponent⟩ : Digits)
  (found.getD ⟨['0'], 0⟩).trim

/-- The highest bit of a significand, which is not stored. -/
def implicitBit : Nat := 0x10000000000000

/-- The shortest decimal that reads back as the absolute value of a finite nonzero number. -/
def ofFloat (number : Float) : Digits :=
  let bits := number.toBits.toNat
  let field := bits / implicitBit % 0x800
  let fraction := bits % implicitBit
  if field = 0 then (Neighbourhood.of fraction (-1074) false).shortest
  else
    (Neighbourhood.of (implicitBit + fraction) ((field : Int) - 1075)
      (fraction = 0 && 1 < field)).shortest

end LinkedAccess.Decimal
