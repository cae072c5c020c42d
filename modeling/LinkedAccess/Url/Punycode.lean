/-!
# Punycode

The encoding of labels with characters beyond ASCII. First come the ASCII characters of the label,
then, behind a hyphen if there are any, a row of numbers. Each number stands for one of the other
characters, in the order of their code points: it says how many places and code points to move on
until the character is to be inserted. The digits of a number have weights that depend on the
numbers before it, through a `bias`, so that a row of similar characters gets short numbers.
-/

namespace LinkedAccess.Url.Punycode

/-- The value of a digit in base 36: the letters come before the decimal digits. -/
def digit? (character : Char) : Option Nat :=
  if character.isLower then some (character.toNat - 'a'.toNat)
  else if character.isDigit then some (character.toNat - '0'.toNat + 26)
  else none

/-- The digit of a value below 36. -/
def digitChar (value : Nat) : Char :=
  if value < 26 then Char.ofNat ('a'.toNat + value) else Char.ofNat ('0'.toNat + (value - 26))

/-- The least digit of weight `position` that ends no number. -/
def threshold (position bias : Nat) : Nat := min 26 (max 1 (position - bias))

theorem threshold_pos (position bias : Nat) : 0 < threshold position bias := by
  unfold threshold
  omega

/-- Scales a distance down to the range from which a bias is computed. -/
def scale (distance bias : Nat) : Nat :=
  if 455 < distance then scale (distance / 35) (bias + 36)
  else bias + 36 * distance / (distance + 38)
termination_by distance
decreasing_by omega

/-- The bias behind a number that moved on by `distance`, with `count` characters found so far. -/
def adapt (distance count : Nat) (isFirst : Bool) : Nat :=
  let distance := if isFirst then distance / 700 else distance / 2
  scale (distance + distance / count) 0

/-- How far the insertions have come. -/
structure Progress where
  /-- How many characters there are so far. -/
  count : Nat
  /-- The code point of the latest insertion. -/
  codePoint : Nat := 128
  /-- The place behind the latest insertion. -/
  place : Nat := 0
  bias : Nat := 72

namespace Progress

/-- The code point and the place to which a number leads. -/
def target (progress : Progress) (number : Nat) : Nat × Nat :=
  let steps := progress.place + number
  (progress.codePoint + steps / (progress.count + 1), steps % (progress.count + 1))

/-- The number that leads to a code point and a place. -/
def number (progress : Progress) (codePoint place : Nat) : Nat :=
  (codePoint - progress.codePoint) * (progress.count + 1) + place - progress.place

/-- The progress after an insertion. -/
def insert (progress : Progress) (number : Nat) : Progress :=
  let (codePoint, place) := progress.target number
  { count := progress.count + 1, codePoint, place := place + 1
    bias := adapt number (progress.count + 1) (progress.place = 0) }

end Progress

/-- A label that is being decoded, in the middle of a number. -/
structure Decoding extends Progress where
  /-- The label so far. -/
  label : List Char
  /-- What the digits of the number come to so far. -/
  value : Nat := 0
  /-- The weight of the next digit. -/
  weight : Nat := 1
  /-- The place of the next digit, in steps of 36. -/
  position : Nat := 36

/-- The least number that the digits may not come to. -/
def limit : Nat := 0x100000000

/-- The label after the last digit of a number, if the number leads to a proper character. -/
def Decoding.insert? (state : Decoding) : Option Decoding :=
  let (codePoint, place) := state.target state.value
  if codePoint.isValidChar then
    some
      { state.toProgress.insert state.value with
        label := state.label.take place ++ Char.ofNat codePoint :: state.label.drop place }
  else none

/-- Reads the digits of the remaining numbers. -/
def decodeNumbers? (state : Decoding) : List Char → Option (List Char)
  | [] => if state.position = 36 then some state.label else none
  | character :: rest => do
    let digit ← digit? character
    let value := state.value + digit * state.weight
    let least := threshold state.position state.bias
    let weight := state.weight * (36 - least)
    if limit ≤ state.place + value then none
    else if digit < least then decodeNumbers? (← { state with value }.insert?) rest
    else if limit ≤ weight then none
    else decodeNumbers? { state with value, weight, position := state.position + 36 } rest

/-- Decodes a label that has characters beyond ASCII. -/
def decode? (encoded : List Char) : Option (List Char) :=
  let numbers := (encoded.reverse.takeWhile (· ≠ '-')).reverse
  let plain := encoded.take (encoded.length - numbers.length - 1)
  if numbers.isEmpty || encoded.head? = some '-' && plain.isEmpty then none
  else decodeNumbers? { count := plain.length, label := plain } numbers

/-- The digits of a number. -/
def digits (bias position number : Nat) : List Char :=
  let least := threshold position bias
  if number < least then [digitChar number]
  else
    let more := number - least
    digitChar (least + more % (36 - least)) :: digits bias (position + 36) (more / (36 - least))
termination_by number
decreasing_by
  have := threshold_pos position bias
  have := Nat.div_le_self (number - threshold position bias) (36 - threshold position bias)
  omega

/-- The digits of the numbers for the remaining insertions into a label, each given by its character
and its place in the whole label. It is inserted behind the characters that are there already. -/
def encodeNumbers (label : List Char) (progress : Progress) : List (Char × Nat) → List Char
  | [] => []
  | (character, index) :: later =>
    let place := (label.take index).countP (· ≤ character)
    let number := progress.number character.toNat place
    digits progress.bias 36 number ++ encodeNumbers label (progress.insert number) later

/-- Encodes a label. -/
def encode (label : List Char) : List Char :=
  let plain := label.filter (·.toNat < 128)
  let others := label.zipIdx.filter (128 ≤ ·.1.toNat)
  plain ++ (if plain.isEmpty then [] else ['-']) ++
    encodeNumbers label { count := plain.length }
      (others.mergeSort fun first second => first.1 ≤ second.1)

end LinkedAccess.Url.Punycode
