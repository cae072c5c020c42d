import LinkedAccess.Json.Value

/-!
# Writing JSON texts

Values are written without white space. Only quotation marks, backslashes and control characters
below the space are escaped; everything else stands for itself.
-/

namespace LinkedAccess.Json

/-- The text of a character inside a string. -/
def renderCharacter (character : Char) : List Char :=
  match character with
  | '"' => "\\\"".toList
  | '\\' => "\\\\".toList
  | '\x08' => "\\b".toList
  | '\x0c' => "\\f".toList
  | '\n' => "\\n".toList
  | '\r' => "\\r".toList
  | '\t' => "\\t".toList
  | _ =>
    if character < ' ' then
      let code := character.toNat
      '\\' :: 'u' :: '0' :: '0' :: [Nat.digitChar (code / 16), Nat.digitChar (code % 16)]
    else [character]

/-- The text of a string, with its quotation marks. -/
def renderString (text : String) : String :=
  "\"" ++ String.ofList (text.toList.flatMap renderCharacter) ++ "\""

namespace Value

mutual

/-- The text of a value. -/
def render : Value → String
  | null => "null"
  | boolean value => toString value
  | number value => value.render
  | string value => renderString value
  | list items => "[" ++ ",".intercalate (renderItems items) ++ "]"
  | object members => "\x7b" ++ ",".intercalate (renderMembers members) ++ "\x7d"

/-- The texts of the items of a list. -/
def renderItems : List Value → List String
  | [] => []
  | item :: later => item.render :: renderItems later

/-- The texts of the members of an object. -/
def renderMembers : List (String × Value) → List String
  | [] => []
  | (name, value) :: later =>
    (renderString name ++ ":" ++ value.render) :: renderMembers later

end

end Value

end LinkedAccess.Json
