import LinkedAccess.Text.Parts

/-!
# Addresses

Hosts that are given as numbers. An address of four bytes may be written in many ways, as one to
four numbers in three bases, and has one normal form. An address of eight pieces has one form as
well, in which the longest row of zero pieces is left out.
-/

namespace LinkedAccess.Url

open Text

/-- A number in an address of four bytes: decimal, octal behind `0`, or hexadecimal behind `0x`. -/
def addressNumber? : List Char → Option Nat
  | [] => none
  | ['0'] => some 0
  | '0' :: 'x' :: digits => numeral? 16 digits
  | '0' :: 'X' :: digits => numeral? 16 digits
  | '0' :: digits => numeral? 8 digits
  | digits => numeral? 10 digits

/-- Splits a host at its dots; a single dot at the end does not count. -/
def addressParts (host : List Char) : List (List Char) :=
  let parts := splitAt '.' host
  if parts.getLast? = some [] then parts.dropLast else parts

/-- Whether a host has to be read as an address of four bytes: its last part is a number. -/
def endsInNumber (host : List Char) : Bool :=
  match (addressParts host).getLast? with
  | none => false
  | some [] => false
  | some part => part.all Char.isDigit || (addressNumber? part).isSome

/-- The address that one to four numbers give. Each number but the last stands for one byte, and
the last for all the bytes that remain. -/
def fourBytes? (numbers : List Nat) : Option Nat := do
  let last ← numbers.getLast?
  let first := numbers.dropLast
  let range := Nat.pow 256 (4 - first.length)
  if first.length ≤ 3 && first.all (· < 256) && last < range then
    some (first.foldl (fun value byte => 256 * value + byte) 0 * range + last)
  else none

/-- The normal form of an address of four bytes. -/
def renderFourBytes (address : Nat) : List Char :=
  ['.'].intercalate ([24, 16, 8, 0].map fun shift => Nat.toDigits 10 (address >>> shift % 256))

/-- Reads an address of four bytes into its normal form. -/
def normalFourBytes? (host : List Char) : Option (List Char) := do
  let numbers ← (addressParts host).mapM addressNumber?
  renderFourBytes <$> fourBytes? numbers

/-- A byte in plain decimal digits, without zeros in front. -/
def plainByte? (digits : List Char) : Option Nat := do
  if digits.isEmpty || (1 < digits.length && digits.head? = some '0') then none
  else (← numeral? 10 digits) |> fun value => if value < 256 then some value else none

/-- The two pieces that four bytes at the end of an address make. -/
def trailingPieces? (text : List Char) : Option (List Nat) := do
  match ← (splitAt '.' text).mapM plainByte? with
  | [first, second, third, fourth] => some [256 * first + second, 256 * third + fourth]
  | _ => none

/-- A piece of an address: one to four hexadecimal digits. -/
def piece? (digits : List Char) : Option Nat :=
  if digits.isEmpty || 4 < digits.length then none else numeral? 16 digits

/-- The pieces between single colons. Four bytes may stand at the end, where that is the end of the
address. -/
def pieces? (isEnd : Bool) (text : List Char) : Option (List Nat) := do
  if text.isEmpty then return []
  let parts := splitAt ':' text
  let last ← parts.getLast?
  let first ← parts.dropLast.mapM piece?
  let final ← if isEnd && last.contains '.' then trailingPieces? last else (piece? last).map ([·])
  return first ++ final

/-- What stands before and behind the first double colon. -/
def splitDoubleColon? : List Char → Option (List Char × List Char)
  | ':' :: ':' :: rest => some ([], rest)
  | [] => none
  | character :: rest => (splitDoubleColon? rest).map fun split => (character :: split.1, split.2)

/-- The eight pieces of an address. A double colon stands for at least one zero piece. -/
def eightPieces? (text : List Char) : Option (List Nat) := do
  match splitDoubleColon? text with
  | none =>
    let pieces ← pieces? true text
    if pieces.length = 8 then some pieces else none
  | some (before, behind) =>
    let before ← pieces? false before
    let behind ← pieces? true behind
    let given := before.length + behind.length
    if given ≤ 7 then some (before ++ List.replicate (8 - given) 0 ++ behind) else none

/-- The length of the row of zero pieces at a place. -/
def zeroRow (pieces : List Nat) (start : Nat) : Nat :=
  ((pieces.drop start).takeWhile (· = 0)).length

/-- The normal form of an address of eight pieces: the first of the longest rows of at least two
zero pieces is left out. -/
def renderPieces (pieces : List Nat) : List Char :=
  let start := (List.range 8).foldl
    (fun best start => if zeroRow pieces best < zeroRow pieces start then start else best) 0
  let join (pieces : List Nat) : List Char := [':'].intercalate (pieces.map (Nat.toDigits 16))
  if zeroRow pieces start < 2 then join pieces
  else
    join (pieces.take start) ++ [':', ':'] ++ join (pieces.drop (start + zeroRow pieces start))

end LinkedAccess.Url
