import LinkedAccess.Text.Composed
import LinkedAccess.Text.Direction
import LinkedAccess.Text.Joining
import LinkedAccess.Text.Settled
import LinkedAccess.Url.Punycode

/-!
# Labels

The name of a host is a row of labels. A label with characters beyond ASCII is written in its
encoding, behind the mark `xn--`. It has to be in the one form in which such labels are compared:
folded and composed, with a base in front of every mark. The labels of one name are read here
together, because a single label that is written from right to left puts a rule on all of them.
-/

namespace LinkedAccess.Url

/-- How many characters a label beyond ASCII may have. -/
def labelLimit : Nat := 1000

/-- How many characters the encoding of a label may have behind its mark. -/
def encodedLimit : Nat := 2000

/-- Whether a label beyond ASCII is in the form in which labels are compared. -/
def isNormalLabel (label : List Char) : Bool :=
  label.length ≤ labelLimit && label.all Text.isSettled && !label.head?.any Text.isMark &&
    Text.isComposed label && Text.joinersCount [] label

/-- What stands in front of an encoded label. -/
def encodedMark : List Char := "xn--".toList

/-- The characters that a label stands for. -/
def readLabel? (label : List Char) : Option (List Char) := do
  let isPlain := label.all (·.toNat < 128)
  let isMarked := encodedMark.isPrefixOf label
  let encoded := label.drop encodedMark.length
  if isPlain && !isMarked then some label
  else if isMarked && (!isPlain || encodedLimit < encoded.length) then none
  else
    let characters ← if isMarked then Punycode.decode? encoded else some label
    if isNormalLabel characters then some characters else none

/-- The text of a label in ASCII. -/
def renderLabel (label : List Char) : List Char :=
  if label.all (·.toNat < 128) then label else encodedMark ++ Punycode.encode label

/-- Reads the labels of a name and gives them in ASCII. Where one of them asks for a text from right
to left, each has to have a single direction. -/
def normalLabels? (labels : List (List Char)) : Option (List (List Char)) := do
  let characters ← labels.mapM readLabel?
  let directions := characters.map (·.map Text.direction)
  if (directions.any (·.any Text.Direction.isBackward)) && !directions.all Text.isUniform then none
  else some (labels.map renderLabel)

end LinkedAccess.Url
