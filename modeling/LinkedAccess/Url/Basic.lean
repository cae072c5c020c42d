import LinkedAccess.Url.Host
import LinkedAccess.Url.Path

/-!
# URLs

An absolute URL in its normal form. Two spellings of the same URL have the same normal form, so that
identifiers below it can be compared as texts.

A text is read from left to right: the scheme, which decides about the rules for all that follows,
then the authority with the user, the host and the number of a service, then the path, the query and
the fragment. Each reader takes the remaining characters and gives its part with the characters
behind it.
-/

namespace LinkedAccess

/-- The parts of a URL, each in its normal form. -/
structure Url where
  scheme : List Char
  /-- What stands between the double slash and the path, if there is a double slash. -/
  authority : Option (List Char)
  path : List Char
  /-- What follows the path, with its marks. -/
  suffix : List Char

namespace Url

/-- The text of a URL. A path that would look like an authority is kept apart by a dot. -/
def render (url : Url) : List Char :=
  let opening :=
    match url.authority with
    | some authority => '/' :: '/' :: authority
    | none => if ['/', '/'].isPrefixOf url.path then ['/', '.'] else []
  url.scheme ++ ':' :: opening ++ url.path ++ url.suffix

/-- A text without spaces and control characters at both ends. -/
def trimmed (text : List Char) : List Char :=
  ((text.dropWhile (· ≤ ' ')).reverse.dropWhile (· ≤ ' ')).reverse

/-- Reads a scheme up to its colon. -/
def readScheme? (input : List Char) : Option (List Char × List Char) :=
  let name := counted (input.takeWhile (· ≠ ':'))
  let isInside (character : Char) : Bool := character.isAlphanum || "+-.".toList.contains character
  match input.dropWhile (· ≠ ':') with
  | ':' :: rest =>
    if name.head?.any Char.isAlpha && name.all isInside then some (name.map Char.toLower, rest)
    else none
  | _ => none

/-- The number of the service that a scheme of the web uses unless another one is given. -/
def usualService? (scheme : List Char) : Option Nat :=
  [("http", 80), ("https", 443), ("ws", 80), ("wss", 443), ("ftp", 21)].lookup
    (String.ofList scheme)

/-- The rules that a scheme follows. -/
def schemeKind (scheme : List Char) : SchemeKind :=
  if String.ofList scheme = "file" then .file
  else if (usualService? scheme).isSome then .web
  else .other

/-- Whether a character ends an authority. -/
def endsAuthority (kind : SchemeKind) (character : Char) : Bool :=
  kind.isSeparator character || character = '?' || character = '#'

/-- Splits an authority behind its last at-sign. -/
def splitUser? (authority : List Char) : Option (List Char × List Char) :=
  if authority.contains '@' then
    let host := (authority.reverse.takeWhile (· ≠ '@')).reverse
    some (authority.take (authority.length - host.length - 1), host)
  else none

/-- The user and the password in their normal form, with the at-sign if there is any of the two. -/
def renderUser (user : List Char) : List Char :=
  let name := percentEncode userReserved (user.takeWhile (· ≠ ':'))
  let password := percentEncode userReserved ((user.dropWhile (· ≠ ':')).drop 1)
  let login := name ++ if password.isEmpty then [] else ':' :: password
  if login.isEmpty then [] else login ++ ['@']

/-- Splits a host from the number of a service at the first colon outside of square brackets. -/
def splitService (inBrackets : Bool) : List Char → List Char × Option (List Char)
  | [] => ([], none)
  | ':' :: rest =>
    if inBrackets then
      let (host, service) := splitService inBrackets rest
      (':' :: host, service)
    else ([], some rest)
  | character :: rest =>
    let inBrackets := character = '[' || (inBrackets && character ≠ ']')
    let (host, service) := splitService inBrackets rest
    (character :: host, service)

/-- The number of a service in its normal form, with its colon; nothing for the usual service. -/
def normalService? (scheme digits : List Char) : Option (List Char) :=
  if digits.isEmpty then some []
  else do
    let service ← Text.numeral? 10 digits
    if 65536 ≤ service then none
    else if usualService? scheme = some service then some []
    else some (':' :: Nat.toDigits 10 service)

/-- The authority of a URL in its normal form. -/
def normalAuthority? (kind : SchemeKind) (scheme authority : List Char) :
    Option (List Char) := do
  let (user, rest) := (splitUser? authority).getD ([], authority)
  let user := renderUser user
  let (host, service) := splitService false rest
  let host ← if kind = .other then opaqueHost? host else normalHost? host
  let service ← service.mapM fun digits =>
    if host.isEmpty then none else normalService? scheme digits
  if host.isEmpty && !user.isEmpty then none else some (user ++ host ++ service.getD [])

/-- The query and the fragment in their normal form. -/
def normalSuffix (kind : SchemeKind) (input : List Char) : List Char :=
  let fragment (input : List Char) : List Char :=
    match input with
    | '#' :: rest => '#' :: percentEncode fragmentReserved rest
    | _ => []
  match input with
  | '?' :: rest =>
    let reserved := if kind.isSpecial then '\'' :: queryReserved else queryReserved
    '?' :: percentEncode reserved (rest.takeWhile (· ≠ '#')) ++
      fragment (rest.dropWhile (· ≠ '#'))
  | _ => fragment input

/-- Whether a character ends a path. -/
def endsPath (character : Char) : Bool := character = '?' || character = '#'

/-- The path behind an authority. In the web there is always one; elsewhere it may be missing. -/
def pathBehindAuthority (kind : SchemeKind) (path : List Char) : Path :=
  match path with
  | [] => if kind = .other then { folders := [] } else { folders := [[]] }
  | first :: rest =>
    Path.read kind [[]] (if kind.isSeparator first then rest else path)

/-- Splits a text behind the authority at its beginning. A backslash that is no separator still ends
the number of a service. -/
def splitAuthority (kind : SchemeKind) (input : List Char) : List Char × List Char :=
  let authority := input.takeWhile (!endsAuthority kind ·)
  let rest := input.dropWhile (!endsAuthority kind ·)
  let (_, host) := (splitUser? authority).getD ([], authority)
  let (_, service) := splitService false host
  let behindService := (service.getD []).dropWhile (· ≠ '\\')
  (authority.take (authority.length - behindService.length), behindService ++ rest)

/-- Reads what follows the colon of a URL with an authority. An at-sign alone is no authority for a
path, a query or a fragment. -/
def readWithAuthority? (kind : SchemeKind) (scheme input : List Char) : Option Url := do
  let (authority, rest) := splitAuthority kind input
  if authority = ['@'] && !rest.isEmpty then none
  else
    let authority ← normalAuthority? kind scheme authority
    let path := pathBehindAuthority kind (rest.takeWhile (!endsPath ·))
    some
      { scheme, authority := some authority, path := path.render kind
        suffix := normalSuffix kind (rest.dropWhile (!endsPath ·)) }

/-- Reads what follows the colon of a URL without an authority: a path, or an opaque text. -/
def readWithoutAuthority (scheme input : List Char) : Url :=
  let path := input.takeWhile (!endsPath ·)
  let suffix := normalSuffix .other (input.dropWhile (!endsPath ·))
  match path with
  | '/' :: rest =>
    { scheme, authority := none, path := (Path.read .other [[]] rest).render .other, suffix }
  | _ => { scheme, authority := none, path := percentEncode [] path, suffix }

/-- The host of a file in its normal form: nothing for the machine itself. -/
def normalFileHost? (host : List Char) : Option (List Char) := do
  if host.isEmpty then some []
  else
    let host ← normalHost? host
    some (if String.ofList host = "localhost" then [] else host)

/-- What follows a separator at the beginning of a text. -/
def behindSeparator? (kind : SchemeKind) (input : List Char) : Option (List Char) :=
  match input.dropWhile isIgnored with
  | [] => none
  | first :: rest => if kind.isSeparator first then some rest else none

/-- Reads what follows the colon of the URL of a file, where ignored characters have an effect. A
drive in the place of the host belongs to the path. -/
def readFile? (scheme input : List Char) : Option Url :=
  let url (host : List Char) (path : Path) (rest : List Char) : Url :=
    { scheme, authority := some (if path.dropsHost then [] else host), path := path.render .file
      suffix := normalSuffix .file (counted (rest.dropWhile (!endsPath ·))) }
  match (behindSeparator? .file input).bind (behindSeparator? .file) with
  | some rest => do
    let host := counted (rest.takeWhile (!endsAuthority .file ·))
    let rest := if isDriveLetter host then rest else rest.dropWhile (!endsAuthority .file ·)
    let host ← if isDriveLetter host then some [] else normalFileHost? host
    let path := rest.takeWhile (!endsPath ·)
    if host.isEmpty then some (url [] (Path.read .file [[]] path) rest)
    else some (url host (pathBehindAuthority .file path) rest)
  | none =>
    let path := input.takeWhile (!endsPath ·)
    some (url [] (Path.read .file [[]] ((behindSeparator? .file path).getD path)) input)

/-- Reads a text as an absolute URL. -/
def parse? (text : String) : Option Url := do
  let (scheme, rest) ← readScheme? (trimmed text.toList)
  let kind := schemeKind scheme
  match kind, counted rest with
  | .file, _ => readFile? scheme rest
  | .web, rest => readWithAuthority? kind scheme (rest.dropWhile kind.isSeparator)
  | .other, '/' :: '/' :: rest => readWithAuthority? kind scheme rest
  | .other, rest => some (readWithoutAuthority scheme rest)

end Url

end LinkedAccess
