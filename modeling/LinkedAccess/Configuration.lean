import LinkedAccess.Policy.Resolve
import LinkedAccess.Resolver
import LinkedAccess.WebAccess.Resolve

/-!
# Configurations

A deployment chooses one way to find permissions. The base URL is looked at only by the ways that
need a hierarchy.
-/

namespace LinkedAccess

/-- The way in which a deployment finds permissions. -/
inductive Configuration where
  /-- By Web Access Control, with documents of a given suffix. -/
  | acl (suffix : String)
  /-- By Access Control Policy, with documents of a given suffix. -/
  | acp (suffix : String)
  /-- Everything is permitted everywhere, or nothing. -/
  | static (allow : Bool)
deriving DecidableEq

namespace Configuration

/-- The suffix of documents of Web Access Control, unless another one is chosen. -/
def aclSuffix : String := ".acl"

/-- The suffix of documents of Access Control Policy, unless another one is chosen. -/
def acpSuffix : String := ".acr"

/-- What a deployment does that chooses nothing. -/
def standard : Configuration := acl aclSuffix

/-- The layout below a base URL. -/
def layout (base suffix : String) : Except AccessError Layout :=
  match Hierarchy.ofUrl base with
  | .ok hierarchy => .ok ⟨hierarchy, ⟨suffix⟩⟩
  | .error error => .error (.configuration error.message)

/-- The resolver of a deployment below a base URL. -/
def build {σ : Type} (configuration : Configuration) (base : String) (reader : Reader σ) :
    Except AccessError (Resolver σ) :=
  match configuration with
  | acl suffix => do
    let layout ← layout base suffix
    return WebAccess.resolver layout reader .standard
  | acp suffix => do
    let layout ← layout base suffix
    return Policy.resolver layout reader
  | static allow => .ok (.uniform (if allow then .all else .none))

end Configuration

end LinkedAccess
