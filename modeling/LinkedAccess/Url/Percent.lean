import LinkedAccess.Text.Parts

/-!
# Percent encoding

A character that may not stand for itself in some part of a URL is written as its bytes, each as a
percent sign with two hexadecimal digits. Which characters these are depends on the part; control
characters and everything beyond ASCII are among them everywhere.
-/

namespace LinkedAccess.Url

/-- One byte in percent encoding. -/
def percentByte (byte : UInt8) : List Char :=
  ['%', (Nat.digitChar (byte.toNat / 16)).toUpper, (Nat.digitChar (byte.toNat % 16)).toUpper]

/-- A text in percent encoding, where a set of ASCII characters is reserved. -/
def percentEncode (reserved : List Char) (text : List Char) : List Char :=
  text.flatMap fun character =>
    if character.toNat < 32 || 127 ≤ character.toNat || reserved.contains character then
      (String.utf8EncodeChar character).flatMap percentByte
    else [character]

/-- What is reserved in a fragment. -/
def fragmentReserved : List Char := " \"<>`".toList

/-- What is reserved in a query. -/
def queryReserved : List Char := " \"#<>".toList

/-- What is reserved in a path. -/
def pathReserved : List Char := fragmentReserved ++ "#?\x7b\x7d".toList

/-- What is reserved in a user name and in a password. -/
def userReserved : List Char := pathReserved ++ "/:;=@[\\]^|".toList

/-- The bytes of a text in percent encoding; a percent sign without two digits is itself. -/
def percentDecode : List Char → List UInt8
  | [] => []
  | '%' :: high :: low :: rest =>
    match Text.digitValue? high, Text.digitValue? low with
    | some high, some low => UInt8.ofNat (16 * high + low) :: percentDecode rest
    | _, _ => 37 :: percentDecode (high :: low :: rest)
  | character :: rest => String.utf8EncodeChar character ++ percentDecode rest

end LinkedAccess.Url
