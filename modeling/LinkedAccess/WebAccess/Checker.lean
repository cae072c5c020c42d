import LinkedAccess.Resolution
import LinkedAccess.Vocabulary

/-!
# Checkers

A rule of Web Access Control names those it applies to in several ways, and there is a checker for
each of them. Checkers combine into a checker that is satisfied as soon as one of them is; the
later ones are then not asked, so that no document is read for them.
-/

namespace LinkedAccess

open Vocabulary

/-- A way to decide whether a rule applies to credentials. -/
inductive Checker where
  /-- The rule names the asserted agent. -/
  | agent
  /-- The rule names a class that holds the asserted agent, or everyone. -/
  | agentClass
  /-- The rule names a group whose own document lists the asserted agent. -/
  | agentGroup
  /-- Some checker of a list is satisfied. -/
  | any (checkers : List Checker)

namespace Checker

variable {σ : Type}

/-- The checkers that every deployment needs. -/
def standard : Checker := any [agent, agentClass, agentGroup]

/-- Whether a rule names an agent. -/
def namesAgent (rules : Graph) (rule : Term) (credentials : Credentials) : Bool :=
  credentials.agent.any fun webId => rules.holds rule (.iri Acl.agent) (.iri webId)

/-- Whether a rule names everyone, or all agents if one is asserted. -/
def namesClass (rules : Graph) (rule : Term) (credentials : Credentials) : Bool :=
  rules.holds rule (.iri Acl.agentClass) (.iri Foaf.Agent) ||
    credentials.isAuthenticated &&
      rules.holds rule (.iri Acl.agentClass) (.iri Acl.AuthenticatedAgent)

/-- The document that describes a group: its IRI up to the first number sign. -/
def groupDocument (group : String) : Identifier :=
  ⟨String.ofList (group.toList.takeWhile (· ≠ '#'))⟩

/-- Whether some group of a list has a member. The groups are looked up one after the other until
one has it; a group without a document has no members. -/
def anyGroupHolds (reader : Reader σ) (webId : String) :
    List String → Resolution (Cache × σ) Bool
  | [] => pure false
  | group :: later => do
    let description ← reader.load (groupDocument group) .empty
    if description.holds (.iri group) (.iri Vcard.hasMember) (.iri webId) then pure true
    else anyGroupHolds reader webId later

/-- Whether a rule names a group that holds the asserted agent. -/
def namesGroup (reader : Reader σ) (rules : Graph) (rule : Term) (credentials : Credentials) :
    Resolution (Cache × σ) Bool :=
  match credentials.agent with
  | none => pure false
  | some webId =>
    anyGroupHolds reader webId ((rules.objects rule (.iri Acl.agentGroup)).filterMap Term.asIri?)

mutual

/-- Whether a checker finds that a rule applies to credentials. -/
def check (reader : Reader σ) (rules : Graph) (rule : Term) (credentials : Credentials) :
    Checker → Resolution (Cache × σ) Bool
  | agent => pure (namesAgent rules rule credentials)
  | agentClass => pure (namesClass rules rule credentials)
  | agentGroup => namesGroup reader rules rule credentials
  | any checkers => checkAny reader rules rule credentials checkers

/-- Whether some checker of a list finds that a rule applies. -/
def checkAny (reader : Reader σ) (rules : Graph) (rule : Term) (credentials : Credentials) :
    List Checker → Resolution (Cache × σ) Bool
  | [] => pure false
  | checker :: later => do
    if ← check reader rules rule credentials checker then pure true
    else checkAny reader rules rule credentials later

end

end Checker

end LinkedAccess
