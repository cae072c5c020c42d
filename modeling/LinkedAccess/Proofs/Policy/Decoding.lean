import LinkedAccess.Proofs.Construction
import LinkedAccess.Proofs.Policy.Meaning
import Mathlib.Data.List.Forall2

/-!
# What is decoded from a graph

What the policies of a graph look like is described here by the statements of the graph alone, one
kind of node after the other: a list in the description of a node has one item for each term that
the node links, in the order of these terms, and each item describes its own term. A description is
unique, and decoding finds it. The values that are followed are values of a few predicates, so that
nothing else in a graph has an influence on what is found.
-/

namespace LinkedAccess

open Vocabulary

/-- A list has one item for each term with a property, in the order of the terms. -/
def ListsEach {α : Type} (isTerm : Term → Prop) (isFor : Term → α → Prop) (items : List α) : Prop :=
  ∃ terms, Enumerates Term.Precedes terms isTerm ∧ List.Forall₂ isFor terms items

/-- Where each term has one item, there is one list of these items. -/
theorem listsEach_iff {α : Type} {isTerm : Term → Prop} {isFor : Term → α → Prop}
    {terms : List Term} {item : Term → α} {items : List α}
    (enumerates : Enumerates Term.Precedes terms isTerm)
    (isFor_iff : ∀ term other, isFor term other ↔ other = item term) :
    ListsEach isTerm isFor items ↔ items = terms.map item := by
  have isFor_map (others : List Term) :
      List.Forall₂ isFor others items ↔ items = others.map item := by
    have isItem : isFor = fun term other => item term = other := by
      funext term other
      exact propext ((isFor_iff term other).trans eq_comm)
    rw [isItem, ← List.forall₂_map_left_iff, List.forall₂_eq_eq_eq, eq_comm]
  constructor
  · rintro ⟨others, enumeratesToo, isForEach⟩
    rw [enumerates.unique enumeratesToo, (isFor_map others).1 isForEach]
  · intro itemsEq
    exact ⟨terms, enumerates, (isFor_map terms).2 itemsEq⟩

namespace Graph

/-- A node has a value under a predicate. -/
def HasValue (graph : Graph) (predicate : String) (node value : Term) : Prop :=
  ⟨node, .iri predicate, value⟩ ∈ graph

/-- The values of a node under a predicate, each as the text that it is. -/
def ListsTexts (graph : Graph) (predicate : String) (node : Term) : List String → Prop :=
  ListsEach (graph.HasValue predicate node) fun value text => text = value.value

/-- A matcher lists the values that its node has, of each kind of identity. -/
structure DescribesMatcher (graph : Graph) (node : Term) (matcher : Matcher) : Prop where
  isNode : matcher.node = some node
  agents : graph.ListsTexts Acp.agent node matcher.agents
  clients : graph.ListsTexts Acp.client node matcher.clients
  issuers : graph.ListsTexts Acp.issuer node matcher.issuers
  credentials : graph.ListsTexts Acp.vc node matcher.credentials

/-- A policy allows and denies the modes that its node links by their IRIs, and has a matcher for
each node that its node links as one. -/
structure DescribesPolicy (graph : Graph) (node : Term) (policy : Policy) : Prop where
  isNode : policy.node = some node
  allow : ∀ mode, mode ∈ policy.allow ↔ graph.HasValue Acp.allow node (.iri mode.iri)
  deny : ∀ mode, mode ∈ policy.deny ↔ graph.HasValue Acp.deny node (.iri mode.iri)
  allOf : ListsEach (graph.HasValue Acp.allOf node) graph.DescribesMatcher policy.allOf
  anyOf : ListsEach (graph.HasValue Acp.anyOf node) graph.DescribesMatcher policy.anyOf
  noneOf : ListsEach (graph.HasValue Acp.noneOf node) graph.DescribesMatcher policy.noneOf

/-- An access control has a policy for each node that its node applies. -/
structure DescribesControl (graph : Graph) (node : Term) (control : AccessControl) : Prop where
  isNode : control.node = node
  policies : ListsEach (graph.HasValue Acp.apply node) graph.DescribesPolicy control.policies

/-- A node counts as an access control resource by its type or by a link to an access control. -/
def IsAccessControlNode (graph : Graph) (node : Term) : Prop :=
  graph.HasValue Rdf.type node (.iri Acp.AccessControlResource) ∨
    (∃ control, graph.HasValue Acp.accessControl node control) ∨
    ∃ control, graph.HasValue Acp.memberAccessControl node control

/-- An access control resource has an access control for each node that its node links as one, for
itself or for its members. -/
structure DescribesResource (graph : Graph) (node : Term) (description : AccessControlResource) :
    Prop where
  isNode : description.node = node
  /-- Of several resources the one that comes first is meant. -/
  resource : ∀ value, description.resource = some value ↔
    graph.HasValue Acp.resource node value ∧
      ∀ other, graph.HasValue Acp.resource node other → value = other ∨ value.Precedes other
  accessControls : ListsEach (graph.HasValue Acp.accessControl node) graph.DescribesControl
    description.accessControls
  memberAccessControls : ListsEach (graph.HasValue Acp.memberAccessControl node)
    graph.DescribesControl description.memberAccessControls

/-- The predicates whose values say what the policies of a graph are. -/
abbrev policyPredicates : List String :=
  [Rdf.type, Acp.resource, Acp.accessControl, Acp.memberAccessControl, Acp.apply, Acp.allow,
    Acp.deny, Acp.allOf, Acp.anyOf, Acp.noneOf, Acp.agent, Acp.client, Acp.issuer, Acp.vc]

variable {graph other : Graph} {node : Term}

theorem listsTexts_iff {predicate : String} {texts : List String} :
    graph.ListsTexts predicate node texts ↔ texts = graph.valueTexts node predicate :=
  listsEach_iff (graph.enumerates_objects node (.iri predicate)) fun _ _ => Iff.rfl

theorem listsValues_iff {α : Type} {isFor : Term → α → Prop} {item : Term → α}
    (isFor_iff : ∀ term other, isFor term other ↔ other = item term) (predicate : String)
    {items : List α} :
    ListsEach (graph.HasValue predicate node) isFor items ↔
      items = (graph.objects node (.iri predicate)).map item :=
  listsEach_iff (graph.enumerates_objects node (.iri predicate)) isFor_iff

theorem describesMatcher_iff (node : Term) (matcher : Matcher) :
    graph.DescribesMatcher node matcher ↔ matcher = graph.matcher node := by
  constructor
  · intro describes
    exact Matcher.ext describes.isNode (listsTexts_iff.1 describes.agents)
      (listsTexts_iff.1 describes.clients) (listsTexts_iff.1 describes.issuers)
      (listsTexts_iff.1 describes.credentials)
  · rintro rfl
    exact ⟨rfl, listsTexts_iff.2 rfl, listsTexts_iff.2 rfl, listsTexts_iff.2 rfl,
      listsTexts_iff.2 rfl⟩

theorem modes_eq_linkedModes_iff {predicate : String} {modes : Modes} :
    (∀ mode, mode ∈ modes ↔ graph.HasValue predicate node (.iri mode.iri)) ↔
      modes = graph.linkedModes node predicate := by
  constructor
  · intro mem_iff
    apply AscendingSet.ext
    intro mode
    rw [mem_iff, Policy.mem_linkedModes, HasValue]
  · rintro rfl mode
    exact Policy.mem_linkedModes

theorem describesPolicy_iff (node : Term) (policy : Policy) :
    graph.DescribesPolicy node policy ↔ policy = graph.policy node := by
  have lists_iff {predicate : String} {matchers : List Matcher} :
      ListsEach (graph.HasValue predicate node) graph.DescribesMatcher matchers ↔
        matchers = graph.linkedMatchers node predicate :=
    listsValues_iff describesMatcher_iff predicate
  constructor
  · intro describes
    exact Policy.ext describes.isNode (modes_eq_linkedModes_iff.1 describes.allow)
      (modes_eq_linkedModes_iff.1 describes.deny) (lists_iff.1 describes.allOf)
      (lists_iff.1 describes.anyOf) (lists_iff.1 describes.noneOf)
  · rintro rfl
    exact ⟨rfl, modes_eq_linkedModes_iff.2 rfl, modes_eq_linkedModes_iff.2 rfl, lists_iff.2 rfl,
      lists_iff.2 rfl, lists_iff.2 rfl⟩

theorem describesControl_iff (node : Term) (control : AccessControl) :
    graph.DescribesControl node control ↔
      control = ⟨node, (graph.objects node (.iri Acp.apply)).map graph.policy⟩ := by
  have lists_iff {policies : List Policy} :
      ListsEach (graph.HasValue Acp.apply node) graph.DescribesPolicy policies ↔
        policies = (graph.objects node (.iri Acp.apply)).map graph.policy :=
    listsValues_iff describesPolicy_iff Acp.apply
  constructor
  · intro describes
    exact AccessControl.ext describes.isNode (lists_iff.1 describes.policies)
  · rintro rfl
    exact ⟨rfl, lists_iff.2 rfl⟩

theorem resource_eq_head?_iff {resource : Option Term} :
    (∀ value, resource = some value ↔ graph.HasValue Acp.resource node value ∧
        ∀ other, graph.HasValue Acp.resource node other → value = other ∨ value.Precedes other) ↔
      resource = (graph.objects node (.iri Acp.resource)).head? := by
  have isLeast_iff (value : Term) :
      (graph.objects node (.iri Acp.resource)).head? = some value ↔
        graph.HasValue Acp.resource node value ∧ ∀ other, graph.HasValue Acp.resource node other →
          value = other ∨ value.Precedes other :=
    (graph.enumerates_objects node (.iri Acp.resource)).head?_eq_some_iff
  constructor
  · intro isLeast
    apply Option.ext
    intro value
    rw [isLeast value, isLeast_iff value]
  · rintro rfl
    exact isLeast_iff

theorem describesResource_iff (node : Term) (description : AccessControlResource) :
    graph.DescribesResource node description ↔ description = graph.accessControlResource node := by
  have lists_iff {predicate : String} {controls : List AccessControl} :
      ListsEach (graph.HasValue predicate node) graph.DescribesControl controls ↔
        controls = graph.linkedControls node predicate :=
    listsValues_iff describesControl_iff predicate
  constructor
  · intro describes
    exact AccessControlResource.ext describes.isNode (resource_eq_head?_iff.1 describes.resource)
      (lists_iff.1 describes.accessControls) (lists_iff.1 describes.memberAccessControls)
  · rintro rfl
    exact ⟨rfl, resource_eq_head?_iff.2 rfl, lists_iff.2 rfl, lists_iff.2 rfl⟩

theorem mem_accessControlNodes :
    node ∈ graph.accessControlNodes ↔ graph.IsAccessControlNode node := by
  simp [accessControlNodes, IsAccessControlNode, HasValue, or_assoc]

theorem enumerates_accessControlNodes (graph : Graph) :
    Enumerates Term.Precedes graph.accessControlNodes.toList graph.IsAccessControlNode :=
  (enumerates_terms _).congr fun _ => mem_accessControlNodes

section Frame

variable (same : ∀ predicate ∈ policyPredicates, ∀ node value,
  graph.HasValue predicate node value ↔ other.HasValue predicate node value)

include same

theorem objects_congr {predicate : String} (isFollowed : predicate ∈ policyPredicates)
    (node : Term) : graph.objects node (.iri predicate) = other.objects node (.iri predicate) :=
  (graph.enumerates_objects node (.iri predicate)).unique
    ((other.enumerates_objects node (.iri predicate)).congr fun value =>
      (same predicate isFollowed node value).symm)

theorem matcher_congr : graph.matcher = other.matcher := by
  funext node
  simp (disch := simp only [List.mem_cons, true_or, or_true]) only
    [matcher, valueTexts, objects_congr same]

theorem policy_congr : graph.policy = other.policy := by
  funext node
  simp (disch := simp only [List.mem_cons, true_or, or_true]) only
    [policy, linkedModes, linkedMatchers, objects_congr same, matcher_congr same]

theorem accessControlResource_congr :
    graph.accessControlResource = other.accessControlResource := by
  funext node
  simp (disch := simp only [List.mem_cons, true_or, or_true]) only
    [accessControlResource, linkedControls, objects_congr same, policy_congr same]

theorem accessControlNodes_congr : graph.accessControlNodes = other.accessControlNodes := by
  apply AscendingSet.ext
  intro node
  rw [mem_accessControlNodes, mem_accessControlNodes]
  simp (disch := simp only [List.mem_cons, true_or, or_true]) only
    [IsAccessControlNode, same]

end Frame

/-- The access control resources that are decoded from a graph are the list that describes each node
that counts as one, and no other list does. Graphs with the same values under the predicates of
policies describe the same ones. -/
theorem decoding_describes_each_node (graph : Graph) :
    (∀ descriptions, descriptions = graph.accessControlResources ↔
      ListsEach graph.IsAccessControlNode graph.DescribesResource descriptions) ∧
    ∀ other : Graph, (∀ predicate ∈ policyPredicates, ∀ node value,
        graph.HasValue predicate node value ↔ other.HasValue predicate node value) →
      graph.accessControlResources = other.accessControlResources := by
  constructor
  · intro descriptions
    exact (listsEach_iff graph.enumerates_accessControlNodes describesResource_iff).symm
  · intro other same
    rw [accessControlResources, accessControlResources, accessControlNodes_congr same,
      accessControlResource_congr same]

/-- A node that is access control resource, access control, policy and matcher at once. It lists an
agent twice, and links a mode by a literal. -/
def entwined : Graph := .ofList [
  ⟨.iri "#it", .iri Acp.resource, .blank "pod"⟩,
  ⟨.iri "#it", .iri Acp.resource, .iri "#pod"⟩,
  ⟨.iri "#it", .iri Acp.accessControl, .iri "#it"⟩,
  ⟨.iri "#it", .iri Acp.apply, .iri "#it"⟩,
  ⟨.iri "#it", .iri Acp.allow, .iri Acl.Read⟩,
  ⟨.iri "#it", .iri Acp.allow, .literal (.plain Acl.Write)⟩,
  ⟨.iri "#it", .iri Acp.anyOf, .iri "#it"⟩,
  ⟨.iri "#it", .iri Acp.agent, .literal (.plain "#me")⟩,
  ⟨.iri "#it", .iri Acp.agent, .iri "#me"⟩]

def remark : Statement := ⟨.iri "#it", .iri "#is", .iri "#it"⟩

def annotated : Graph := entwined.insert remark

theorem remark_changes_no_description :
    (∀ predicate ∈ policyPredicates, ∀ node value,
      annotated.HasValue predicate node value ↔ entwined.HasValue predicate node value) ∧
      annotated.accessControlResources =
        [{ node := .iri "#it", resource := some (.iri "#pod"), memberAccessControls := []
           accessControls := [{ node := .iri "#it", policies := [{
             node := some (.iri "#it"), allow := .ofList [.read],
             anyOf := [{ node := some (.iri "#it"), agents := ["#me", "#me"] }] }] }] }] := by
  have same : ∀ predicate ∈ policyPredicates, ∀ node value,
      annotated.HasValue predicate node value ↔ entwined.HasValue predicate node value := by
    intro predicate isFollowed node value
    have isOther : (⟨node, .iri predicate, value⟩ : Statement) ≠ remark := by
      simp only [remark, ne_eq, Statement.mk.injEq, Term.iri.injEq, not_and]
      rintro _ rfl
      exact absurd isFollowed (by decide)
    rw [HasValue, annotated, AscendingSet.mem_insert, or_iff_right isOther, HasValue]
  refine ⟨same, ?_⟩
  rw [(decoding_describes_each_node annotated).2 entwined same]
  decide +kernel

end Graph

end LinkedAccess
