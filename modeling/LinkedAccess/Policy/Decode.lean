import LinkedAccess.Graph
import LinkedAccess.Policy.Basic
import LinkedAccess.Vocabulary

/-!
# Policies in a graph

Every node that is typed as an access control resource, or that links access controls, is read as
one, and everything else is found by following links from there. Each link is followed for a fixed
number of steps only, so nodes that link each other in circles do no harm: a node is read again in
every place where it is linked.
-/

namespace LinkedAccess

open Vocabulary

namespace Graph

/-- The texts of the values of a node under a predicate, whatever their kind. -/
def valueTexts (graph : Graph) (node : Term) (predicate : String) : List String :=
  (graph.objects node (.iri predicate)).map Term.value

/-- The modes that a node links. -/
def linkedModes (graph : Graph) (node : Term) (predicate : String) : Modes :=
  .ofList ((graph.objects node (.iri predicate)).filterMap fun mode =>
    mode.asIri?.bind Mode.ofIri?)

/-- The matcher that a node describes. -/
def matcher (graph : Graph) (node : Term) : Matcher where
  node := node
  agents := graph.valueTexts node Acp.agent
  clients := graph.valueTexts node Acp.client
  issuers := graph.valueTexts node Acp.issuer
  credentials := graph.valueTexts node Acp.vc

/-- The matchers that a node links. -/
def linkedMatchers (graph : Graph) (node : Term) (predicate : String) : List Matcher :=
  (graph.objects node (.iri predicate)).map graph.matcher

/-- The policy that a node describes. -/
def policy (graph : Graph) (node : Term) : Policy where
  node := node
  allow := graph.linkedModes node Acp.allow
  deny := graph.linkedModes node Acp.deny
  allOf := graph.linkedMatchers node Acp.allOf
  anyOf := graph.linkedMatchers node Acp.anyOf
  noneOf := graph.linkedMatchers node Acp.noneOf

/-- The access controls that a node links. -/
def linkedControls (graph : Graph) (node : Term) (predicate : String) : List AccessControl :=
  (graph.objects node (.iri predicate)).map fun control =>
    ⟨control, (graph.objects control (.iri Acp.apply)).map graph.policy⟩

/-- The nodes that count as access control resources. -/
def accessControlNodes (graph : Graph) : AscendingSet Term :=
  graph.subjects (.iri Rdf.type) (.iri Acp.AccessControlResource) ∪
    graph.subjectsWith (.iri Acp.accessControl) ∪
    graph.subjectsWith (.iri Acp.memberAccessControl)

/-- The access control resource that a node describes. -/
def accessControlResource (graph : Graph) (node : Term) : AccessControlResource where
  node := node
  resource := (graph.objects node (.iri Acp.resource)).head?
  accessControls := graph.linkedControls node Acp.accessControl
  memberAccessControls := graph.linkedControls node Acp.memberAccessControl

/-- The access control resources that a graph describes, in the order of their nodes. -/
def accessControlResources (graph : Graph) : List AccessControlResource :=
  graph.accessControlNodes.toList.map graph.accessControlResource

end Graph

end LinkedAccess
