import LinkedAccess.Credentials
import LinkedAccess.Policy.Basic
import LinkedAccess.Vocabulary

/-!
# Satisfied policies

A matcher asks something of each kind of identity that it lists, and nothing of the kinds it does
not list; but a matcher that lists nothing is never satisfied. What is granted in the end is what
the satisfied policies allow, without what any of them denies.
-/

namespace LinkedAccess

open Vocabulary

namespace Matcher

/-- Whether a value stands for the asserted agent. -/
def acceptsAgent (credentials : Credentials) (value : String) : Bool :=
  if value = Acp.PublicAgent then true
  else if value = Acp.AuthenticatedAgent then credentials.isAuthenticated
  else credentials.agent = some value

/-- Whether a value stands for the asserted client. -/
def acceptsClient (credentials : Credentials) (value : String) : Bool :=
  value = Acp.PublicClient || credentials.client = some value

/-- Whether a value stands for the asserted issuer. -/
def acceptsIssuer (credentials : Credentials) (value : String) : Bool :=
  credentials.issuer = some value

/-- Whether one kind of identity is as a matcher asks. -/
def agrees (values : List String) (accepts : String → Bool) : Bool :=
  values.isEmpty || values.any accepts

/-- Whether a matcher lists nothing. -/
def isVacuous (matcher : Matcher) : Bool :=
  matcher.agents.isEmpty && matcher.clients.isEmpty && matcher.issuers.isEmpty &&
    matcher.credentials.isEmpty

/-- Whether a request with given identities is as a matcher asks. -/
def isSatisfied (matcher : Matcher) (credentials : Credentials) : Bool :=
  !matcher.isVacuous && agrees matcher.agents (acceptsAgent credentials) &&
    agrees matcher.clients (acceptsClient credentials) &&
    agrees matcher.issuers (acceptsIssuer credentials) && matcher.credentials.isEmpty

end Matcher

namespace Policy

/-- Whether a policy applies to a request with given identities. -/
def isSatisfied (policy : Policy) (credentials : Credentials) : Bool :=
  policy.allOf.all (·.isSatisfied credentials) &&
    (policy.anyOf.isEmpty || policy.anyOf.any (·.isSatisfied credentials)) &&
    !policy.noneOf.any (·.isSatisfied credentials)

/-- The policies of a list that apply. -/
def satisfied (policies : List Policy) (credentials : Credentials) : List Policy :=
  policies.filter (·.isSatisfied credentials)

/-- The modes of all policies of a list, taken from one side of each. -/
def modesOf (side : Policy → Modes) (policies : List Policy) : Modes :=
  policies.foldl (fun modes policy => modes ∪ side policy) ∅

/-- The modes that the satisfied policies allow and none of them denies. -/
def allowedModes (policies : List Policy) (credentials : Credentials) : Modes :=
  modesOf allow (satisfied policies credentials) \ modesOf deny (satisfied policies credentials)

end Policy

end LinkedAccess
