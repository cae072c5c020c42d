import LinkedAccess.Decimal.Shortest
import LinkedAccess.Json.Reading

/-!
# JSON numbers

A whole number is kept exactly as long as it fits into 64 bits; every other number becomes a binary
float. Its digits are gathered while they fit into 64 bits, the remaining ones only count for the
magnitude, and the result is one multiplication or division by a power of ten.
-/

namespace LinkedAccess.Json

/-- The least number that does not fit into 64 bits. -/
def wordLimit : Nat := 0x10000000000000000

/-- The least number that does not fit into 31 bits. -/
def exponentLimit : Nat := 0x80000000

/-- A number as it was read. -/
inductive Number where
  | natural (value : Nat)
  /-- The negative of a positive number. -/
  | negative (value : Nat)
  | float (value : Float)

namespace Number

/-- The text of a float: the shortest digits, with a point inside them or behind them as long as the
number has at most sixteen digits before the point and at most four zeros behind it. Otherwise a
single digit stands before the point, and a power of ten with its sign follows. -/
def renderFloat (number : Float) : String :=
  let sign := if 2 * number.toBits.toNat ≥ wordLimit then "-" else ""
  if number == 0 then sign ++ "0.0"
  else
    let decimal := Decimal.ofFloat number
    let count : Int := decimal.digits.length
    let whole := count + decimal.exponent
    let digits := decimal.digits
    let text :=
      if 0 ≤ decimal.exponent && whole ≤ 16 then
        digits ++ List.replicate decimal.exponent.toNat '0' ++ ['.', '0']
      else if 0 < whole && whole ≤ 16 then
        digits.take whole.toNat ++ '.' :: digits.drop whole.toNat
      else if -5 < whole && whole ≤ 0 then
        '0' :: '.' :: List.replicate (-whole).toNat '0' ++ digits
      else
        let fraction := if digits.length = 1 then [] else '.' :: digits.drop 1
        let power := (if 0 < whole then '+' else '-') :: Nat.toDigits 10 (whole - 1).natAbs
        digits.take 1 ++ fraction ++ 'e' :: power
    sign ++ String.ofList text

/-- The text of a number. -/
def render : Number → String
  | natural value => toString value
  | negative value => "-" ++ toString value
  | float value => renderFloat value

/-- A number in the place of another value. -/
def found (number : Number) : Found :=
  match number with
  | float _ => .float number.render
  | _ => .integer number.render

/-- Adds digits to a number as long as it stays below a limit; what does not fit is left. -/
def gather (limit value : Nat) : List Char → Nat × List Char
  | [] => (value, [])
  | digit :: rest =>
    let next := value * 10 + (digit.toNat - '0'.toNat)
    if limit ≤ next then (value, digit :: rest) else gather limit next rest

/-- A number times a power of ten, where the power is applied in portions of at most 308; none if it
is too large. -/
def scaleFloat? (value : Float) (exponent : Int) : Nat → Option Float
  | 0 => some value
  | portions + 1 =>
    if exponent.natAbs ≤ 308 then
      let power := Float.ofScientific 1 false exponent.natAbs
      if 0 ≤ exponent then
        if (value * power).isInf then none else some (value * power)
      else some (value / power)
    else if value == 0 then some value
    else if 0 ≤ exponent then none
    else scaleFloat? (value / Float.ofScientific 1 false 308) (exponent + 308) portions

end Number

namespace Reading

/-- Takes a row of digits. -/
def digits : Reading (List Char) := takeWhile Char.isDigit

/-- Puts the digits and the exponent of a number together. -/
def assemble (isPositive : Bool) (significand : Nat) (exponent : Int) : Reading Number := do
  match Number.scaleFloat? (Float.ofNat significand) exponent 4 with
  | some value => return .float (if isPositive then value else -value)
  | none => failHere .numberOutOfRange

/-- Reads an exponent behind its letter. -/
def exponentPart (isPositive : Bool) (significand : Nat) (shift : Int) : Reading Number := do
  let sign ← peek
  if sign = some '+' || sign = some '-' then skip 1
  let isUp := sign ≠ some '-'
  match ← peek with
  | none => failHere .endInValue
  | some next =>
    if !next.isDigit then failNext .invalidNumber
    else
      let row := (← get).rest.takeWhile Char.isDigit
      let (exponent, excess) := Number.gather exponentLimit 0 row
      if excess.isEmpty then
        skip row.length
        assemble isPositive significand (shift + if isUp then (exponent : Int) else -exponent)
      else if significand ≠ 0 && isUp then
        failAfter (row.length - excess.length + 1) .numberOutOfRange
      else
        skip row.length
        return .float (if isPositive then 0 else -0)

/-- Reads an exponent if there is one. -/
def exponentPart? (isPositive : Bool) (significand : Nat) (shift : Int) : Reading Number := do
  let next ← peek
  if next = some 'e' || next = some 'E' then
    skip 1
    exponentPart isPositive significand shift
  else assemble isPositive significand shift

/-- Reads a fraction behind its point. -/
def fractionPart (isPositive : Bool) (significand : Nat) (shift : Int) : Reading Number := do
  let row ← digits
  if row.isEmpty then
    if (← peek).isNone then failNext .endInValue else failNext .invalidNumber
  else
    let (significand, excess) := Number.gather wordLimit significand row
    exponentPart? isPositive significand (shift - (row.length - excess.length))

/-- A whole number with its sign; a negative one that is zero or too large becomes a float. -/
def wholeNumber (isPositive : Bool) (value : Nat) : Number :=
  if isPositive then .natural value
  else if value = 0 || wordLimit < 2 * value then .float (-(Float.ofNat value))
  else .negative value

/-- Reads a number behind its sign. -/
def number (isPositive : Bool) : Reading Number := do
  match ← peek with
  | none => failHere .endInValue
  | some first =>
    if !first.isDigit then failNext .invalidNumber
    else
      let row ← if first = '0' then do skip 1; pure ['0'] else digits
      let next ← peek
      if first = '0' && next.any Char.isDigit then failNext .invalidNumber
      else
        let (significand, excess) := Number.gather wordLimit 0 row
        if next = some '.' then
          skip 1
          fractionPart isPositive significand excess.length
        else if next = some 'e' || next = some 'E' || !excess.isEmpty then
          exponentPart? isPositive significand excess.length
        else return wholeNumber isPositive significand

/-- Passes over an exponent behind its letter. -/
def skipExponent : Reading Unit := do
  let sign ← peek
  if sign = some '+' || sign = some '-' then skip 1
  if (← digits).isEmpty then failNext .invalidNumber

/-- Passes over an exponent if there is one. -/
def skipExponent? : Reading Unit := do
  let next ← peek
  if next = some 'e' || next = some 'E' then
    skip 1
    skipExponent

/-- Passes over a number behind its sign. -/
def skipNumber : Reading Unit := do
  match ← peek with
  | none => failNext .invalidNumber
  | some first =>
    if !first.isDigit then failNext .invalidNumber
    else
      if first = '0' then skip 1 else let _ ← digits
      let next ← peek
      if first = '0' && next.any Char.isDigit then failNext .invalidNumber
      else if next = some '.' then
        skip 1
        if (← digits).isEmpty then failNext .invalidNumber else skipExponent?
      else skipExponent?

end Reading

end LinkedAccess.Json
