import LinkedAccess.Text.Quoted

/-!
# Errors of JSON texts

A text is refused because it is no JSON, or because it is not the value that was asked for. Errors
of the first kind always know where they are. Those of the second kind come without a place, and
whoever reads the value from a text adds one.
-/

namespace LinkedAccess.Json

/-- A place in a text: lines are counted from one, and columns are bytes from zero. -/
structure Position where
  line : Nat
  column : Nat
deriving DecidableEq

/-- What was found in place of the value that was asked for. -/
inductive Found where
  | null
  | boolean (value : Bool)
  | integer (text : String)
  | float (text : String)
  | string (value : String)
  | sequence
  | map
  | bareVariant

/-- What was found, in words. -/
def Found.describe : Found → String
  | null => "null"
  | boolean value => "boolean `" ++ toString value ++ "`"
  | integer text => "integer `" ++ text ++ "`"
  | float text => "floating point `" ++ text ++ "`"
  | string value => "string " ++ Text.quoted value.toList
  | sequence => "sequence"
  | map => "map"
  | bareVariant => "unit variant"

/-- What is wrong with a text. -/
inductive Fault where
  | endInList
  | endInObject
  | endInString
  | endInValue
  | expectedColon
  | expectedListEnd
  | expectedObjectEnd
  | expectedIdentifier
  | expectedValue
  | invalidEscape
  | invalidNumber
  | numberOutOfRange
  | keyNotString
  | controlCharacter
  | loneSurrogate
  | endOfEscape
  | trailingComma
  | trailingCharacters
  | tooDeep
  | invalidType (found : Found) (expected : String)
  | invalidLength (length : Nat) (expected : String)
  | unknownVariant (name : String) (expected : List String)
  | missingField (name : String)
  | duplicateField (name : String)

/-- The choices of a variant, in words. -/
def choices : List String → String
  | [first, second] => "`" ++ first ++ "` or `" ++ second ++ "`"
  | names => "one of " ++ ", ".intercalate (names.map fun name => "`" ++ name ++ "`")

/-- What is wrong, in words. -/
def Fault.describe : Fault → String
  | endInList => "EOF while parsing a list"
  | endInObject => "EOF while parsing an object"
  | endInString => "EOF while parsing a string"
  | endInValue => "EOF while parsing a value"
  | expectedColon => "expected `:`"
  | expectedListEnd => "expected `,` or `]`"
  | expectedObjectEnd => "expected `,` or `\x7d`"
  | expectedIdentifier => "expected ident"
  | expectedValue => "expected value"
  | invalidEscape => "invalid escape"
  | invalidNumber => "invalid number"
  | numberOutOfRange => "number out of range"
  | keyNotString => "key must be a string"
  | controlCharacter => "control character (\\u0000-\\u001F) found while parsing a string"
  | loneSurrogate => "lone leading surrogate in hex escape"
  | endOfEscape => "unexpected end of hex escape"
  | trailingComma => "trailing comma"
  | trailingCharacters => "trailing characters"
  | tooDeep => "recursion limit exceeded"
  | invalidType found expected => "invalid type: " ++ found.describe ++ ", expected " ++ expected
  | invalidLength length expected =>
    "invalid length " ++ toString length ++ ", expected " ++ expected
  | unknownVariant name expected =>
    "unknown variant `" ++ name ++ "`, expected " ++ choices expected
  | missingField name => "missing field `" ++ name ++ "`"
  | duplicateField name => "duplicate field `" ++ name ++ "`"

/-- A fault, with its place if it has one. -/
structure Error where
  fault : Fault
  position : Option Position := none

/-- The message for an error. -/
def Error.message (error : Error) : String :=
  match error.position with
  | none => error.fault.describe
  | some position =>
    error.fault.describe ++ " at line " ++ toString position.line ++ " column " ++
      toString position.column

/-- The error with a place, unless it has one already. -/
def Error.placed (error : Error) (position : Position) : Error :=
  { error with position := some (error.position.getD position) }

end LinkedAccess.Json
