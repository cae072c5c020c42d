import LinkedAccess.Permission.Basic

/-!
# Credentials

What a request asserts about who makes it. Any of the three identities may be absent, and an
identity that is an empty text is still present.
-/

namespace LinkedAccess

/-- The identities that a request asserts. -/
@[ext]
structure Credentials where
  /-- The WebID of the agent. -/
  agent : Option String := none
  /-- The identifier of the application that the request was made through. -/
  client : Option String := none
  /-- The URL of the identity provider. -/
  issuer : Option String := none
deriving DecidableEq

namespace Credentials

/-- Whether an agent is asserted. -/
def isAuthenticated (credentials : Credentials) : Bool := credentials.agent.isSome

/-- What a group is judged by: everyone by no identity at all, and the agent, which only exists if
it is asserted, by all that is asserted. -/
def forGroup (credentials : Credentials) : Group → Option Credentials
  | .everyone => some {}
  | .agent => if credentials.isAuthenticated then some credentials else none

/-- The groups of a request, with what each is judged by. -/
def groups (credentials : Credentials) : List (Group × Credentials) :=
  Group.all.filterMap fun group => (credentials.forGroup group).map (group, ·)

end Credentials

end LinkedAccess
