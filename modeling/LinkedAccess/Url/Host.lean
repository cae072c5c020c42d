import LinkedAccess.Url.Address
import LinkedAccess.Url.Label
import LinkedAccess.Url.Percent

/-!
# Hosts

A host is an address or a name. The names of the well-known schemes are compared without regard to
case and may not hold certain characters; a name in them that ends in a number has to be an address.
Names of other schemes are opaque and only have to fit into a URL.

Characters beyond ASCII in the name of a well-known scheme are written in the encoding of labels. A
name in which they give way to others, such as capital letters, is not supported.
-/

namespace LinkedAccess.Url

/-- An address between square brackets, in its normal form. -/
def bracketed? (host : List Char) : Option (List Char) :=
  if host.getLast? = some ']' then
    (eightPieces? (host.drop 1).dropLast).map fun pieces => '[' :: renderPieces pieces ++ [']']
  else none

/-- What may not stand in the name of a host, apart from control characters and the space. -/
def hostForbidden : List Char := "%#/:<>?@[\\]^|".toList

/-- The host of a well-known scheme in its normal form. -/
def normalHost? (host : List Char) : Option (List Char) := do
  if host.head? = some '[' then bracketed? host
  else
    let text ← String.fromUTF8? ⟨(percentDecode host).toArray⟩
    let name := text.toList.map Char.toLower
    if name.any fun character => character ≤ ' ' || character = '\x7f' ||
        hostForbidden.contains character then none
    else
      let labels ← normalLabels? (Text.splitAt '.' name)
      let name := ['.'].intercalate labels
      if name.isEmpty then none
      else if endsInNumber name then normalFourBytes? name
      else some name

/-- What may not stand in an opaque host. -/
def opaqueForbidden : List Char := "\x00\t\n\r #/:<>?@[\\]^|".toList

/-- The host of any other scheme in its normal form. -/
def opaqueHost? (host : List Char) : Option (List Char) :=
  if host.head? = some '[' then bracketed? host
  else if host.any opaqueForbidden.contains then none
  else some (percentEncode [] host)

end LinkedAccess.Url
