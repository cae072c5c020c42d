import LinkedAccess.Json.Error

/-!
# Reading a JSON text

A reading takes characters from a cursor and gives a value or an error. The cursor stays where it is
when a reading fails, so that the error can be given a place afterwards. An error about the next
character is placed behind the first byte of that character.
-/

namespace LinkedAccess.Json

/-- The remaining characters of a text, and the place where they begin. -/
structure Cursor where
  rest : List Char
  position : Position

/-- The cursor at the beginning of a text. -/
def Cursor.start (text : String) : Cursor := ⟨text.toList, ⟨1, 0⟩⟩

/-- The place behind a number of bytes from a place on. -/
def Position.after (position : Position) (bytes : Nat) : List Char → Position
  | [] => position
  | character :: rest =>
    if bytes = 0 then position
    else if character = '\n' then Position.after ⟨position.line + 1, 0⟩ (bytes - 1) rest
    else if bytes < character.utf8Size then { position with column := position.column + bytes }
    else
      Position.after { position with column := position.column + character.utf8Size }
        (bytes - character.utf8Size) rest

/-- A computation on a cursor. -/
abbrev Reading := ExceptT Error (StateM Cursor)

namespace Reading

variable {α : Type}

/-- The next character. -/
def peek : Reading (Option Char) := return (← get).rest.head?

/-- Takes a number of characters. -/
def skip (count : Nat) : Reading Unit :=
  modify fun cursor =>
    let taken := cursor.rest.take count
    ⟨cursor.rest.drop count,
      cursor.position.after (taken.foldl (fun size c => size + c.utf8Size) 0) taken⟩

/-- Takes all characters from here on that belong to a class. -/
def takeWhile (belongs : Char → Bool) : Reading (List Char) := do
  let taken := (← get).rest.takeWhile belongs
  skip taken.length
  return taken

/-- Fails without a place. -/
def fail (fault : Fault) : Reading α := throw { fault }

/-- Fails behind a number of bytes from here on. -/
def failAfter (bytes : Nat) (fault : Fault) : Reading α := do
  let cursor ← get
  throw ⟨fault, some (cursor.position.after bytes cursor.rest)⟩

/-- Fails here. -/
def failHere (fault : Fault) : Reading α := failAfter 0 fault

/-- Fails for what the next character is. -/
def failNext (fault : Fault) : Reading α := failAfter 1 fault

/-- Whether a character may stand between the parts of a value. -/
def isSpace (character : Char) : Bool :=
  character = ' ' || character = '\n' || character = '\t' || character = '\r'

/-- The next character that is not white space. -/
def peekToken : Reading (Option Char) := do
  let _ ← takeWhile isSpace
  peek

/-- Places an error of a reading where the reading ended. -/
def placed (reading : Reading α) : Reading α := fun cursor =>
  match reading cursor with
  | (.ok value, cursor) => (.ok value, cursor)
  | (.error error, cursor) => (.error (error.placed cursor.position), cursor)

/-- Reads a value and then its end. The end is looked for even if the value could not be read, but
the error of the value is the one that counts. -/
def closedBy (reading : Reading α) (closing : Reading Unit) : Reading α := fun cursor =>
  match reading cursor with
  | (.ok value, cursor) =>
    match closing cursor with
    | (.ok (), cursor) => (.ok value, cursor)
    | (.error error, cursor) => (.error error, cursor)
  | (.error error, cursor) => (.error error, (closing cursor).2)

/-- Takes the given characters, which continue a word. -/
def word : List Char → Reading Unit
  | [] => pure ()
  | character :: rest => do
    match ← peek with
    | none => failHere .endInValue
    | some next =>
      if next = character then
        skip 1
        word rest
      else failNext .expectedIdentifier

/-- Takes the colon between a key and its value. -/
def colon : Reading Unit := do
  match ← peekToken with
  | some ':' => skip 1
  | some _ => failNext .expectedColon
  | none => failNext .endInObject

/-- Takes the end of a list whose items have all been read. -/
def endList : Reading Unit := do
  match ← peekToken with
  | some ']' => skip 1
  | some ',' =>
    skip 1
    match ← peekToken with
    | some ']' => failNext .trailingComma
    | _ => failNext .trailingCharacters
  | some _ => failNext .trailingCharacters
  | none => failNext .endInList

/-- Takes the end of an object whose members have all been read. -/
def endObject : Reading Unit := do
  match ← peekToken with
  | some '\x7d' => skip 1
  | some ',' => failNext .trailingComma
  | some _ => failNext .trailingCharacters
  | none => failNext .endInObject

/-- Goes to the next item of a list, past the comma before it; tells whether there is one. -/
def nextItem (isFirst : Bool) : Reading Bool := do
  match ← peekToken with
  | none => failNext .endInList
  | some ']' => return false
  | some next =>
    if isFirst then return true
    else if next = ',' then
      skip 1
      match ← peekToken with
      | some ']' => failNext .trailingComma
      | some _ => return true
      | none => failNext .endInValue
    else failNext .expectedListEnd

/-- Goes to the key of the next member of an object, past the comma before it; tells whether there
is one. -/
def nextMember (isFirst : Bool) : Reading Bool := do
  match ← peekToken with
  | none => failNext .endInObject
  | some '\x7d' => return false
  | some next =>
    if isFirst then
      if next = '"' then return true else failNext .keyNotString
    else if next = ',' then
      skip 1
      match ← peekToken with
      | some '"' => return true
      | some '\x7d' => failNext .trailingComma
      | some _ => failNext .keyNotString
      | none => failNext .endInValue
    else failNext .expectedObjectEnd

/-- The value of a whole text. -/
def run (reading : Reading α) (text : String) : Except Error α :=
  let whole : Reading α := do
    let value ← reading
    match ← peekToken with
    | some _ => failNext .trailingCharacters
    | none => return value
  (whole (Cursor.start text)).1

end Reading

end LinkedAccess.Json
