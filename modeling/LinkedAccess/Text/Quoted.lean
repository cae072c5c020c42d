import LinkedAccess.Text.Printable

/-!
# Quoted text

How a piece of input is shown inside a message: between double quotes, on one line, with everything
that cannot be seen written as an escape.
-/

namespace LinkedAccess.Text

/-- A code point in braces, in hexadecimal digits without leading zeros. -/
def codePointEscape (character : Char) : List Char :=
  '\\' :: 'u' :: '\x7b' :: Nat.toDigits 16 character.toNat ++ ['\x7d']

/-- A character as quoted text shows it. -/
def quotedChar (character : Char) : List Char :=
  if character = '\x00' then ['\\', '0']
  else if character = '\t' then ['\\', 't']
  else if character = '\n' then ['\\', 'n']
  else if character = '\r' then ['\\', 'r']
  else if character = '\\' then ['\\', '\\']
  else if character = '"' then ['\\', '"']
  else if extendsGrapheme character then codePointEscape character
  else if isPrintable character then [character]
  else codePointEscape character

/-- A text between double quotes. -/
def quoted (text : List Char) : String :=
  String.ofList ('"' :: text.flatMap quotedChar ++ ['"'])

end LinkedAccess.Text
