import LinkedAccess.Permission.Mode
import LinkedAccess.Term

/-!
# Access control policies

An access control resource links access controls, some for the resource it is about and some for
the members of that resource. An access control applies policies, and a policy allows and denies
modes to the requests that satisfy its matchers.
-/

namespace LinkedAccess

/-- A condition on the identities of a request: for each kind of identity the values it may have. -/
@[ext]
structure Matcher where
  /-- The node that describes the matcher, if it comes from a graph. -/
  node : Option Term := none
  agents : List String := []
  clients : List String := []
  issuers : List String := []
  /-- Verifiable credentials, which no request presents. -/
  credentials : List String := []
deriving DecidableEq

/-- Modes for the requests that satisfy certain matchers. -/
@[ext]
structure Policy where
  /-- The node that describes the policy, if it comes from a graph. -/
  node : Option Term := none
  allow : Modes := ∅
  deny : Modes := ∅
  /-- Matchers that all have to be satisfied. -/
  allOf : List Matcher := []
  /-- Matchers of which one has to be satisfied, if there are any. -/
  anyOf : List Matcher := []
  /-- Matchers of which none may be satisfied. -/
  noneOf : List Matcher := []
deriving DecidableEq

/-- Policies that are applied together. -/
@[ext]
structure AccessControl where
  /-- The node that describes the access control. -/
  node : Term
  policies : List Policy
deriving DecidableEq

/-- Whether policies are about a resource or about its members. -/
inductive PolicyScope where
  | resource
  | member
deriving DecidableEq

/-- The access controls that one node links. -/
@[ext]
structure AccessControlResource where
  /-- The node itself. -/
  node : Term
  /-- What the access controls are about, if it is said. -/
  resource : Option Term
  /-- The access controls for the resource itself. -/
  accessControls : List AccessControl
  /-- The access controls for the members of the resource. -/
  memberAccessControls : List AccessControl
deriving DecidableEq

namespace AccessControlResource

/-- The access controls of one scope. -/
def controls (description : AccessControlResource) : PolicyScope → List AccessControl
  | .resource => description.accessControls
  | .member => description.memberAccessControls

/-- The policies of one scope, in the order of the access controls. -/
def policies (description : AccessControlResource) (scope : PolicyScope) : List Policy :=
  (description.controls scope).flatMap (·.policies)

end AccessControlResource

end LinkedAccess
