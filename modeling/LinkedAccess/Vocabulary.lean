/-!
# Vocabularies

The IRIs in which access control documents are written, one namespace for each vocabulary.
-/

namespace LinkedAccess.Vocabulary

namespace Rdf

/-- Relates a node to a class it belongs to. -/
def type := "http://www.w3.org/1999/02/22-rdf-syntax-ns#type"

end Rdf

namespace Acl

/-- What every name of Web Access Control begins with. -/
def base := "http://www.w3.org/ns/auth/acl#"

/-- The class of rules. -/
def Authorization := "http://www.w3.org/ns/auth/acl#Authorization"
/-- Relates a rule to the resource it is about. -/
def accessTo := "http://www.w3.org/ns/auth/acl#accessTo"
/-- Relates a rule to the container whose members it is about. -/
def default := "http://www.w3.org/ns/auth/acl#default"
def agent := "http://www.w3.org/ns/auth/acl#agent"
def agentClass := "http://www.w3.org/ns/auth/acl#agentClass"
def agentGroup := "http://www.w3.org/ns/auth/acl#agentGroup"
/-- The class of all agents that assert who they are. -/
def AuthenticatedAgent := "http://www.w3.org/ns/auth/acl#AuthenticatedAgent"
/-- Relates a rule to a mode it grants. -/
def mode := "http://www.w3.org/ns/auth/acl#mode"
def Read := "http://www.w3.org/ns/auth/acl#Read"
def Append := "http://www.w3.org/ns/auth/acl#Append"
def Write := "http://www.w3.org/ns/auth/acl#Write"
def Control := "http://www.w3.org/ns/auth/acl#Control"

end Acl

namespace Foaf

/-- The class of all agents. -/
def Agent := "http://xmlns.com/foaf/0.1/Agent"

end Foaf

namespace Vcard

/-- Relates a group to one of its members. -/
def hasMember := "http://www.w3.org/2006/vcard/ns#hasMember"

end Vcard

namespace Acp

/-- What every name of Access Control Policy begins with. -/
def base := "http://www.w3.org/ns/solid/acp#"

/-- The class of access control resources. -/
def AccessControlResource := "http://www.w3.org/ns/solid/acp#AccessControlResource"
/-- Relates an access control resource to what it controls. -/
def resource := "http://www.w3.org/ns/solid/acp#resource"
/-- Relates an access control resource to an access control of the resource itself. -/
def accessControl := "http://www.w3.org/ns/solid/acp#accessControl"
/-- Relates an access control resource to an access control of the members. -/
def memberAccessControl := "http://www.w3.org/ns/solid/acp#memberAccessControl"
/-- Relates an access control to one of its policies. -/
def apply := "http://www.w3.org/ns/solid/acp#apply"
def allow := "http://www.w3.org/ns/solid/acp#allow"
def deny := "http://www.w3.org/ns/solid/acp#deny"
def allOf := "http://www.w3.org/ns/solid/acp#allOf"
def anyOf := "http://www.w3.org/ns/solid/acp#anyOf"
def noneOf := "http://www.w3.org/ns/solid/acp#noneOf"
def agent := "http://www.w3.org/ns/solid/acp#agent"
def client := "http://www.w3.org/ns/solid/acp#client"
def issuer := "http://www.w3.org/ns/solid/acp#issuer"
def vc := "http://www.w3.org/ns/solid/acp#vc"
/-- Matches every request. -/
def PublicAgent := "http://www.w3.org/ns/solid/acp#PublicAgent"
/-- Matches every request that asserts an agent. -/
def AuthenticatedAgent := "http://www.w3.org/ns/solid/acp#AuthenticatedAgent"
/-- Matches every client. -/
def PublicClient := "http://www.w3.org/ns/solid/acp#PublicClient"

end Acp

end LinkedAccess.Vocabulary
