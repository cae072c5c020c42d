import LinkedAccess.Json.Reading
import LinkedAccess.Text.Parts

/-!
# JSON strings

Strings are read behind their opening quote. Characters beyond the basic plane may be written as two
escapes, which have to form a pair. A string that is only passed over is checked for less: its
escapes have to be well formed, and need not form pairs.
-/

namespace LinkedAccess.Json.Reading

/-- The number of bytes from here on to the end of the text. -/
def remainingBytes : Reading Nat :=
  return (← get).rest.foldl (fun size character => size + character.utf8Size) 0

/-- Reads the four digits of an escape. -/
def fourDigits : Reading Nat := do
  let digits := (← get).rest.take 4
  if (← remainingBytes) < 4 then
    skip (← get).rest.length
    failHere .endInString
  else
    match Text.numeral? 16 digits with
    | some value =>
      skip 4
      return value
    | none => failAfter 4 .invalidEscape

/-- Takes a character that the second escape of a pair begins with. -/
def pairMark (mark : Char) : Reading Unit := do
  match ← peek with
  | none => failHere .endInString
  | some next => if next = mark then skip 1 else failNext .endOfEscape

/-- Reads the digits of an escape, and the whole second escape if the first one asks for it. -/
def codePoint : Reading Char := do
  let first ← fourDigits
  if 0xDC00 ≤ first && first ≤ 0xDFFF then failHere .loneSurrogate
  else if 0xD800 ≤ first && first ≤ 0xDBFF then
    pairMark '\\'
    pairMark 'u'
    let second ← fourDigits
    if 0xDC00 ≤ second && second ≤ 0xDFFF then
      return Char.ofNat ((first - 0xD800) * 0x400 + (second - 0xDC00) + 0x10000)
    else failHere .loneSurrogate
  else return Char.ofNat first

/-- The character that a letter stands for behind a backslash. -/
def escapeLetter? : Char → Option Char
  | '"' => some '"'
  | '\\' => some '\\'
  | '/' => some '/'
  | 'b' => some '\x08'
  | 'f' => some '\x0c'
  | 'n' => some '\n'
  | 'r' => some '\r'
  | 't' => some '\t'
  | _ => none

/-- Reads an escape behind its backslash. -/
def escape : Reading Char := do
  match ← peek with
  | none => failHere .endInString
  | some 'u' =>
    skip 1
    codePoint
  | some letter =>
    match escapeLetter? letter with
    | some character =>
      skip 1
      return character
    | none => failNext .invalidEscape

/-- Whether a character of a string stands for itself. -/
def isPlain (character : Char) : Bool :=
  character ≠ '"' && character ≠ '\\' && ' ' ≤ character

/-- Reads a string behind its opening quote, in at most a number of runs of plain characters. -/
def stringRuns (found : List Char) : Nat → Reading String
  | 0 => failHere .endInString
  | runs + 1 => do
    let plain ← takeWhile isPlain
    match ← peek with
    | none => failHere .endInString
    | some '"' =>
      skip 1
      return String.ofList (found ++ plain)
    | some '\\' =>
      skip 1
      let character ← escape
      stringRuns (found ++ plain ++ [character]) runs
    | some _ => failNext .controlCharacter

/-- Reads a string behind its opening quote. -/
def stringBody : Reading String := do stringRuns [] ((← get).rest.length + 1)

/-- Passes over an escape behind its backslash. -/
def skipEscape : Reading Unit := do
  match ← peek with
  | none => failHere .endInString
  | some 'u' =>
    skip 1
    let _ ← fourDigits
  | some letter =>
    if (escapeLetter? letter).isSome then skip 1 else failNext .invalidEscape

/-- Passes over a string behind its opening quote, in at most a number of runs. -/
def skipStringRuns : Nat → Reading Unit
  | 0 => failHere .endInString
  | runs + 1 => do
    let _ ← takeWhile isPlain
    match ← peek with
    | none => failHere .endInString
    | some '"' => skip 1
    | some '\\' =>
      skip 1
      skipEscape
      skipStringRuns runs
    | some _ => failHere .controlCharacter

/-- Passes over a string behind its opening quote. -/
def skipString : Reading Unit := do skipStringRuns ((← get).rest.length + 1)

end LinkedAccess.Json.Reading
