import LinkedAccess.Statement
import LinkedAccess.Text.Character
import LinkedAccess.Text.Quoted

/-!
# Reading a line of triples

A line is a comment, or blank, or a statement that may be followed by a comment. A reader of a part
of the line takes the remaining characters and gives the part with the characters after it, or the
reason why the part is not there. Where a term may be of several kinds, the reason is that of the
last kind tried, and it always shows what remained of the line at that point.

Each kind of term begins with characters that no other kind begins with, so no reader ever has to
take back what another one accepted, with one exception: a literal whose value breaks off at a bad
escape is treated as one without any value, and is refused for the missing quote at its beginning.
-/

namespace LinkedAccess.Triples

/-- What a reader looked for. -/
inductive Expected where
  /-- One particular character. -/
  | mark
  /-- The two characters that open a blank node. -/
  | opening
  /-- At least one character of a name. -/
  | name

/-- The word for it in messages. -/
def Expected.word : Expected → String
  | mark => "Char"
  | opening => "Tag"
  | name => "TakeWhile1"

/-- Why a line is not accepted. -/
inductive LineError where
  /-- Something that a statement needs is missing before the remaining characters. -/
  | missing (expected : Expected) (remaining : List Char)
  /-- A whole statement is followed by something that is no comment. -/
  | trailing (remaining : List Char)

/-- The message for a refused line. -/
def LineError.message : LineError → String
  | missing expected remaining =>
    "Parsing Error: Error \x7b input: " ++ Text.quoted remaining ++ ", code: " ++ expected.word ++
      " \x7d"
  | trailing remaining => "Unexpected trailing input " ++ Text.quoted remaining

/-- Whether a character may stand in an IRI. -/
def isIriChar (character : Char) : Bool := character ≠ '>' && !Text.isBlank character

/-- Whether a character may stand in the label of a blank node. -/
def isLabelChar (character : Char) : Bool :=
  Text.isAlphanumeric character || character = '_' || character = '-'

/-- Whether a character may stand in a language tag. -/
def isTagChar (character : Char) : Bool := character.isAlphanum || character = '-'

/-- Whether a character may stand between the terms of a statement. -/
def isGap (character : Char) : Bool := character = ' ' || character = '\t'

/-- Reads a nonempty run of characters of one class. -/
def readName (belongs : Char → Bool) (input : List Char) :
    Except LineError (List Char × List Char) :=
  if input.takeWhile belongs = [] then .error (.missing .name input)
  else .ok (input.takeWhile belongs, input.dropWhile belongs)

/-- Reads one particular character. -/
def readMark (character : Char) : List Char → Except LineError (List Char)
  | [] => .error (.missing .mark [])
  | head :: rest =>
    if head = character then .ok rest else .error (.missing .mark (head :: rest))

/-- Reads a name between angle brackets. -/
def readBracketed (input : List Char) : Except LineError (String × List Char) := do
  let rest ← readMark '<' input
  let (name, rest) ← readName isIriChar rest
  let rest ← readMark '>' rest
  return (String.ofList name, rest)

/-- Reads an IRI. -/
def readIri (input : List Char) : Except LineError (Term × List Char) := do
  let (name, rest) ← readBracketed input
  return (.iri name, rest)

/-- Reads a blank node. -/
def readBlank : List Char → Except LineError (Term × List Char)
  | '_' :: ':' :: rest => do
    let (label, rest) ← readName isLabelChar rest
    return (.blank (String.ofList label), rest)
  | input => .error (.missing .opening input)

/-- The character that a letter stands for behind a backslash. -/
def unescape? : Char → Option Char
  | '\\' => some '\\'
  | '"' => some '"'
  | 'n' => some '\n'
  | 'r' => some '\r'
  | 't' => some '\t'
  | _ => none

/-- Reads the value of a literal up to its closing quote; none if it breaks off at a bad escape. -/
def readValue? : List Char → Option (List Char × List Char)
  | [] => some ([], [])
  | '"' :: rest => some ([], '"' :: rest)
  | '\\' :: letter :: rest => do
    let character ← unescape? letter
    let (value, rest) ← readValue? rest
    return (character :: value, rest)
  | '\\' :: [] => none
  | character :: rest => do
    let (value, rest) ← readValue? rest
    return (character :: value, rest)

/-- Reads the language tag or the datatype that may follow a value; what is neither is left. -/
def readAnnotation (value : String) : List Char → Literal × List Char
  | '@' :: rest =>
    match readName isTagChar rest with
    | .ok (language, rest) => (⟨value, some (String.ofList language), none⟩, rest)
    | .error _ => (.plain value, '@' :: rest)
  | '^' :: '^' :: rest =>
    match readBracketed rest with
    | .ok (datatype, rest) => (⟨value, none, some datatype⟩, rest)
    | .error _ => (.plain value, '^' :: '^' :: rest)
  | rest => (.plain value, rest)

/-- Reads a literal. -/
def readLiteral (input : List Char) : Except LineError (Term × List Char) := do
  let body ← readMark '"' input
  let (value, rest) := (readValue? body).getD ([], body)
  let rest ← readMark '"' rest
  let (literal, rest) := readAnnotation (String.ofList value) rest
  return (.literal literal, rest)

/-- Reads an IRI or a blank node. -/
def readSubject (input : List Char) : Except LineError (Term × List Char) :=
  match readIri input with
  | .ok found => .ok found
  | .error _ => readBlank input

/-- Reads a term of any kind. -/
def readObject (input : List Char) : Except LineError (Term × List Char) :=
  match readSubject input with
  | .ok found => .ok found
  | .error _ => readLiteral input

/-- Passes over the spaces and tabs between two terms. -/
def skipGap (input : List Char) : List Char := input.dropWhile isGap

/-- Reads a statement with its full stop. -/
def readStatement (input : List Char) : Except LineError (Statement × List Char) := do
  let (subject, rest) ← readSubject input
  let (predicate, rest) ← readIri (skipGap rest)
  let (object, rest) ← readObject (skipGap rest)
  let rest ← readMark '.' (skipGap rest)
  return (⟨subject, predicate, object⟩, rest)

/-- The characters between the white space at both ends. -/
def trim (characters : List Char) : List Char :=
  ((characters.dropWhile Text.isBlank).reverse.dropWhile Text.isBlank).reverse

/-- Whether nothing more is said: the characters are none, or a comment. -/
def isSilent : List Char → Bool
  | [] => true
  | head :: _ => head = '#'

/-- The statement of a line, if it holds one. -/
def readLine (line : List Char) : Except LineError (Option Statement) :=
  if isSilent (trim line) then .ok none
  else do
    let (statement, rest) ← readStatement (trim line)
    let rest := rest.dropWhile Text.isBlank
    if isSilent rest then .ok (some statement) else .error (.trailing rest)

end LinkedAccess.Triples
