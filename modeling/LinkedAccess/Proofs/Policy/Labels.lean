import LinkedAccess.Proofs.Policy.Meaning
import LinkedAccess.Proofs.Relabelling
import LinkedAccess.Proofs.Triples.RoundTrip

/-!
# Labels of blank nodes

A blank node is to be known by what is said about it and not by its label. Decoding policies and
satisfying them keeps to this as long as nodes only link each other: other labels change the order
in which nodes are listed and nothing else. But the values of a matcher are compared by their texts,
whatever kind of term they are, so that a blank node is taken for the identity that its label
happens to spell. Other labels are therefore of no consequence to a request as long as they stand
for what the listed labels stand for, and nothing less is enough for all graphs.
-/

namespace LinkedAccess

open Vocabulary

/-- No identity is spelled as a label could be in a document. No URL is. -/
structure Credentials.SpellsNoLabel (credentials : Credentials) : Prop where
  agent : ∀ webId, credentials.agent = some webId → ¬IsBlankLabel webId
  client : ∀ name, credentials.client = some name → ¬IsBlankLabel name
  issuer : ∀ url, credentials.issuer = some url → ¬IsBlankLabel url

namespace Policy

variable {graph : Graph} {rename : String → String} {credentials : Credentials} {node : Term}
  {link : String} {mode : Mode}

/-- The labels that are listed under a predicate stand for a request if and only if the other labels
do. -/
def KeepsLabels (graph : Graph) (rename : String → String) (predicate : String)
    (accepts : String → Prop) : Prop :=
  ∀ matcher label, ⟨matcher, .iri predicate, .blank label⟩ ∈ graph →
    (accepts (rename label) ↔ accepts label)

/-- Other labels are taken for the identities of a request if and only if the labels are. -/
structure KeepsStanding (graph : Graph) (rename : String → String) (credentials : Credentials) :
    Prop where
  agent : KeepsLabels graph rename Acp.agent (StandsForAgent credentials)
  client : KeepsLabels graph rename Acp.client (StandsForClient credentials)
  issuer : KeepsLabels graph rename Acp.issuer (StandsForIssuer credentials)

/-- Two labels are taken for the same identities of a request. -/
structure StandAlike (credentials : Credentials) (label other : String) : Prop where
  agent : StandsForAgent credentials other ↔ StandsForAgent credentials label
  client : StandsForClient credentials other ↔ StandsForClient credentials label
  issuer : StandsForIssuer credentials other ↔ StandsForIssuer credentials label

theorem keepsStanding_of_standAlike
    (alike : ∀ matcher predicate label, ⟨matcher, .iri predicate, .blank label⟩ ∈ graph →
      StandAlike credentials label (rename label)) : KeepsStanding graph rename credentials := by
  constructor
  · intro matcher label labelMem
    exact (alike matcher _ label labelMem).agent
  · intro matcher label labelMem
    exact (alike matcher _ label labelMem).client
  · intro matcher label labelMem
    exact (alike matcher _ label labelMem).issuer

theorem standAlike_of_isBlankLabel {label other : String} (spellsNone : credentials.SpellsNoLabel)
    (isLabel : IsBlankLabel label) (isLabelToo : IsBlankLabel other) :
    StandAlike credentials label other := by
  have neither {accepts : String → Prop} (isOut : ∀ value, accepts value → ¬IsBlankLabel value) :
      accepts other ↔ accepts label :=
    iff_of_false (fun accepted => isOut other accepted isLabelToo)
      (fun accepted => isOut label accepted isLabel)
  have isNoSentinel : ∀ name ∈ [Acp.PublicAgent, Acp.AuthenticatedAgent, Acp.PublicClient],
      ¬IsBlankLabel name := by decide
  constructor
  · refine neither ?_
    rintro value (rfl | ⟨rfl, _⟩ | asserted)
    · exact isNoSentinel _ (by simp)
    · exact isNoSentinel _ (by simp)
    · exact spellsNone.agent value asserted
  · refine neither ?_
    rintro value (rfl | asserted)
    · exact isNoSentinel _ (by simp)
    · exact spellsNone.client value asserted
  · refine neither ?_
    intro value asserted
    exact spellsNone.issuer value asserted

/-- The labels of documents are only of consequence to identities that are spelled like them. -/
theorem keepsStanding_of_isWritable (isWritable : graph.IsWritable)
    (isWritableToo : (graph.relabel rename).IsWritable) (spellsNone : credentials.SpellsNoLabel) :
    KeepsStanding graph rename credentials := by
  apply keepsStanding_of_standAlike
  intro matcher predicate label labelMem
  have isLabel : IsBlankLabel label := (isWritable _ labelMem).object
  have isLabelToo : IsBlankLabel (rename label) :=
    (isWritableToo _ (Graph.mem_relabel labelMem)).object
  exact standAlike_of_isBlankLabel spellsNone isLabel isLabelToo

/-- A satisfied policy of a graph that is linked in a certain way says something about a mode. -/
def SaysIn (graph : Graph) (credentials : Credentials) (link side : String) (mode : Mode) : Prop :=
  ∃ policy, Links graph link policy ∧ PolicyHolds graph credentials policy ∧
    ⟨policy, .iri side, .iri mode.iri⟩ ∈ graph

/-- The modes that the policies of a graph allow in one scope. -/
def modesIn (graph : Graph) (scope : PolicyScope) (credentials : Credentials) : Modes :=
  allowedModes (graph.accessControlResources.flatMap (·.policies scope)) credentials

theorem mem_modesIn {scope : PolicyScope} :
    mode ∈ modesIn graph scope credentials ↔
      SaysIn graph credentials (linkOf scope) Acp.allow mode ∧
        ¬SaysIn graph credentials (linkOf scope) Acp.deny mode := by
  have side_iff (side : Policy → Modes) (predicate : String)
      (isLinked : ∀ node, mode ∈ side (graph.policy node) ↔
        ⟨node, .iri predicate, .iri mode.iri⟩ ∈ graph) :
      (∃ policy ∈ graph.accessControlResources.flatMap (·.policies scope),
        policy.isSatisfied credentials = true ∧ mode ∈ side policy) ↔
          SaysIn graph credentials (linkOf scope) predicate mode := by
    simp only [mem_policies_iff]
    constructor
    · rintro ⟨_, ⟨policy, links, rfl⟩, satisfied, modeMem⟩
      exact ⟨policy, links, isSatisfied_policy_iff.1 satisfied, (isLinked policy).1 modeMem⟩
    · rintro ⟨policy, links, holds, linked⟩
      exact ⟨_, ⟨policy, links, rfl⟩, isSatisfied_policy_iff.2 holds, (isLinked policy).2 linked⟩
  rw [modesIn, mem_allowedModes, side_iff allow Acp.allow fun _ => mem_linkedModes,
    side_iff deny Acp.deny fun _ => mem_linkedModes]

section Relabelled

variable (apart : graph.KeepsApart rename)

include apart

theorem links_relabel_iff :
    Links (graph.relabel rename) link node ↔
      ∃ policy, Links graph link policy ∧ policy.relabel rename = node := by
  constructor
  · rintro ⟨_, _, linksControl, applies⟩
    rcases Graph.exists_of_mem_relabel linksControl with ⟨owner, control, controlMem, rfl, rfl⟩
    rw [apart.mem_relabel_iff (Graph.mentions_object controlMem)] at applies
    rcases applies with ⟨policy, policyMem, rfl⟩
    exact ⟨policy, ⟨owner, control, controlMem, policyMem⟩, rfl⟩
  · rintro ⟨policy, ⟨owner, control, controlMem, policyMem⟩, rfl⟩
    exact ⟨_, _, Graph.mem_relabel controlMem, Graph.mem_relabel policyMem⟩

theorem admits_relabel_iff (isMentioned : graph.Mentions node) {predicate : String}
    {accepts : String → Prop} (keeps : KeepsLabels graph rename predicate accepts) :
    Admits (graph.relabel rename) (node.relabel rename) predicate accepts ↔
      Admits graph node predicate accepts := by
  have onValue (value : Term) (valueMem : ⟨node, .iri predicate, value⟩ ∈ graph) :
      accepts (value.relabel rename).value ↔ accepts value.value := by
    -- The text of a blank node is the only one that changes.
    cases value with
    | iri name => rfl
    | blank label => exact keeps node label valueMem
    | literal content => rfl
  rw [Admits, Admits, apart.exists_mem_relabel_iff isMentioned,
    apart.exists_value_iff isMentioned onValue]

variable (keeps : KeepsStanding graph rename credentials)

include keeps

theorem matcherHolds_relabel_iff (isMentioned : graph.Mentions node) :
    MatcherHolds (graph.relabel rename) credentials (node.relabel rename) ↔
      MatcherHolds graph credentials node := by
  have asks_iff := apart.exists_mem_relabel_iff isMentioned
  have agent_iff := admits_relabel_iff apart isMentioned keeps.agent
  have client_iff := admits_relabel_iff apart isMentioned keeps.client
  have issuer_iff := admits_relabel_iff apart isMentioned keeps.issuer
  have vc_iff := not_congr (asks_iff Acp.vc)
  rw [not_exists, not_exists] at vc_iff
  constructor
  · intro holds
    refine ⟨?_, agent_iff.1 holds.agent, client_iff.1 holds.client, issuer_iff.1 holds.issuer,
      vc_iff.1 holds.vc⟩
    simpa only [asks_iff] using holds.asks
  · intro holds
    refine ⟨?_, agent_iff.2 holds.agent, client_iff.2 holds.client, issuer_iff.2 holds.issuer,
      vc_iff.2 holds.vc⟩
    simpa only [asks_iff] using holds.asks

theorem policyHolds_relabel_iff (isMentioned : graph.Mentions node) :
    PolicyHolds (graph.relabel rename) credentials (node.relabel rename) ↔
      PolicyHolds graph credentials node := by
  have onMatcher (predicate : String) (matcher : Term)
      (matcherMem : ⟨node, .iri predicate, matcher⟩ ∈ graph) :
      MatcherHolds (graph.relabel rename) credentials (matcher.relabel rename) ↔
        MatcherHolds graph credentials matcher :=
    matcherHolds_relabel_iff apart keeps (Graph.mentions_object matcherMem)
  have allOf_iff := apart.forall_value_iff isMentioned (onMatcher Acp.allOf)
  have lists_iff := apart.exists_mem_relabel_iff isMentioned Acp.anyOf
  have anyOf_iff := apart.exists_value_iff isMentioned (onMatcher Acp.anyOf)
  have noneOf_iff := not_congr (apart.exists_value_iff isMentioned (onMatcher Acp.noneOf))
  simp only [not_exists, not_and] at noneOf_iff
  constructor
  · intro holds
    exact ⟨allOf_iff.1 holds.allOf, fun lists => anyOf_iff.1 (holds.anyOf (lists_iff.2 lists)),
      noneOf_iff.1 holds.noneOf⟩
  · intro holds
    exact ⟨allOf_iff.2 holds.allOf, fun lists => anyOf_iff.2 (holds.anyOf (lists_iff.1 lists)),
      noneOf_iff.2 holds.noneOf⟩

theorem saysIn_relabel_iff {side : String} :
    SaysIn (graph.relabel rename) credentials link side mode ↔
      SaysIn graph credentials link side mode := by
  have onPolicy (policy : Term) (links : Links graph link policy) :
      (PolicyHolds (graph.relabel rename) credentials (policy.relabel rename) ∧
        ⟨policy.relabel rename, .iri side, .iri mode.iri⟩ ∈ graph.relabel rename) ↔
      PolicyHolds graph credentials policy ∧ ⟨policy, .iri side, .iri mode.iri⟩ ∈ graph := by
    rcases links with ⟨_, control, _, applies⟩
    have isMentioned := Graph.mentions_object applies
    rw [policyHolds_relabel_iff apart keeps isMentioned, apart.mem_relabel_iff isMentioned]
    simp only [Graph.relabel_eq_iri_iff, exists_eq_right]
  simp only [SaysIn, links_relabel_iff apart]
  constructor
  · rintro ⟨_, ⟨policy, links, rfl⟩, isSaid⟩
    exact ⟨policy, links, (onPolicy policy links).1 isSaid⟩
  · rintro ⟨policy, links, isSaid⟩
    exact ⟨_, ⟨policy, links, rfl⟩, (onPolicy policy links).2 isSaid⟩

theorem modesIn_relabel (scope : PolicyScope) :
    modesIn (graph.relabel rename) scope credentials = modesIn graph scope credentials := by
  apply AscendingSet.ext
  intro mode
  rw [mem_modesIn, mem_modesIn, saysIn_relabel_iff apart keeps, saysIn_relabel_iff apart keeps]

end Relabelled

end Policy

namespace Answers

/-- The same documents with other labels, chosen for each document on its own, so that no two blank
nodes of a document become one and a request is taken for the same labels. -/
structure Relabels (before after : Answers) (rename : Identifier → String → String)
    (credentials : Credentials) : Prop where
  read : ∀ document,
    after.read document = (before.read document).map (Graph.relabel (rename document))
  apart : ∀ document graph, before.read document = .ok graph → graph.KeepsApart (rename document)
  keeps : ∀ document graph, before.read document = .ok graph →
    Policy.KeepsStanding graph (rename document) credentials

variable {before after : Answers} {rename : Identifier → String → String}
  {credentials : Credentials} {layout : Layout} {target : Identifier} {mode : Mode}

namespace Relabels

variable (relabels : before.Relabels after rename credentials)

include relabels

theorem description (document : Identifier) :
    after.description document =
      (before.description document).map (Graph.relabel (rename document)) := by
  have relabelEmpty : Graph.relabel (rename document) ∅ = ∅ := rfl
  rw [Answers.description, Answers.description, relabels.read]
  cases before.read document with
  | ok graph => rfl
  | error cause =>
      cases notFound : cause.isNotFound with
      | true => simp [Except.map, Absence.settle, notFound, relabelEmpty]
      | false => simp [Except.map, Absence.settle, notFound]

theorem reading (documents : List Identifier) :
    after.reading () documents = before.reading () documents := by
  induction documents with
  | nil => rfl
  | cons document later inductionHypothesis =>
      rw [Answers.reading, Answers.reading, relabels.description]
      cases before.description document with
      | ok graph => exact inductionHypothesis
      | error error => rfl

theorem walk (naming : AuxiliaryNaming) (lineage : Lineage) :
    after.walk naming lineage = before.walk naming lineage := by
  rw [walk_eq_bind, walk_eq_bind, relabels.reading]

theorem exists_saysIn_iff (document : Identifier) {link side : String} :
    (∃ graph, after.read document = .ok graph ∧ Policy.SaysIn graph credentials link side mode) ↔
      ∃ graph, before.read document = .ok graph ∧
        Policy.SaysIn graph credentials link side mode := by
  rw [relabels.read]
  cases isRead : before.read document with
  | error cause => simp [Except.map]
  | ok graph =>
      simp only [Except.map, Except.ok.injEq, exists_eq_left']
      exact Policy.saysIn_relabel_iff (relabels.apart document graph isRead)
        (relabels.keeps document graph isRead)

end Relabels

end Answers

namespace Policy

theorem says_iff {answers : Answers} {layout : Layout} {credentials : Credentials}
    {target : Identifier} {side : String} {mode : Mode} :
    Says answers layout credentials target side mode ↔
      (∃ graph, answers.read (layout.naming.document (layout.naming.governed target)) = .ok graph ∧
        SaysIn graph credentials Acp.accessControl side mode) ∨
      ∃ ancestor ∈ (layout.lineage target).ancestors, ∃ graph,
        answers.read (layout.naming.document ancestor) = .ok graph ∧
          SaysIn graph credentials Acp.memberAccessControl side mode := by
  constructor
  · rintro ⟨graph, policy, applies, holds, linked⟩
    cases applies with
    | own _ _ read links => exact Or.inl ⟨graph, read, policy, links, holds, linked⟩
    | inherited ancestor _ _ isAbove read links =>
        exact Or.inr ⟨ancestor, isAbove, graph, read, policy, links, holds, linked⟩
  · rintro (⟨graph, read, policy, links, holds, linked⟩ |
      ⟨ancestor, isAbove, graph, read, policy, links, holds, linked⟩)
    · exact ⟨graph, policy, .own graph policy read links, holds, linked⟩
    · exact ⟨graph, policy, .inherited ancestor graph policy isAbove read links, holds, linked⟩

variable {before after : Answers} {rename : Identifier → String → String}
  {credentials : Credentials} {layout : Layout} {target : Identifier} {mode : Mode}

theorem says_relabels_iff (relabels : before.Relabels after rename credentials) {side : String} :
    Says after layout credentials target side mode ↔
      Says before layout credentials target side mode := by
  rw [says_iff, says_iff]
  simp only [relabels.exists_saysIn_iff]

theorem policyPermission_relabels (relabels : before.Relabels after rename credentials)
    (target : Identifier) :
    after.policyPermission layout credentials target =
      before.policyPermission layout credentials target := by
  apply Permission.eq_of_allows_eq
  intro mode
  rw [Bool.eq_iff_iff, allows_policyPermission_iff, allows_policyPermission_iff]
  simp only [Grants, Allows, says_relabels_iff relabels]

theorem resolvePolicies_relabels (relabels : before.Relabels after rename credentials)
    (found : PermissionMap) (targets : List Identifier) :
    after.resolvePolicies layout credentials found targets =
      before.resolvePolicies layout credentials found targets := by
  induction targets generalizing found with
  | nil => rfl
  | cons target later inductionHypothesis =>
      simp only [Answers.resolvePolicies, relabels.walk, policyPermission_relabels relabels,
        inductionHypothesis]

/-- A policy that lets those read who satisfy a matcher with one listed label. -/
def listing (predicate label : String) : Graph := .ofList [
  ⟨.iri "#resource", .iri Acp.accessControl, .iri "#control"⟩,
  ⟨.iri "#control", .iri Acp.apply, .iri "#policy"⟩,
  ⟨.iri "#policy", .iri Acp.anyOf, .iri "#matcher"⟩,
  ⟨.iri "#policy", .iri Acp.allow, .iri Acl.Read⟩,
  ⟨.iri "#matcher", .iri predicate, .blank label⟩]

theorem relabel_listing (rename : String → String) (predicate label : String) :
    (listing predicate label).relabel rename = listing predicate (rename label) := by
  apply AscendingSet.ext
  intro statement
  simp [Graph.relabel, listing, Statement.relabel, Term.relabel, eq_comm]

theorem mem_matcher_listing {predicate label other : String} {value : Term} :
    ⟨.iri "#matcher", .iri other, value⟩ ∈ listing predicate label ↔
      other = predicate ∧ value = .blank label := by
  simp [listing]

theorem mem_policy_listing {predicate label other : String} {value : Term} :
    ⟨.iri "#policy", .iri other, value⟩ ∈ listing predicate label ↔
      (other = Acp.anyOf ∧ value = .iri "#matcher") ∨
        (other = Acp.allow ∧ value = .iri Acl.Read) := by
  simp [listing]

theorem admits_listing_iff {predicate label other : String} {accepts : String → Prop} :
    Admits (listing predicate label) (.iri "#matcher") other accepts ↔
      (other = predicate → accepts label) := by
  simp only [Admits, mem_matcher_listing]
  constructor
  · intro admits same
    rcases admits ⟨_, same, rfl⟩ with ⟨_, ⟨_, rfl⟩, accepted⟩
    exact accepted
  · rintro accepted ⟨_, same, rfl⟩
    exact ⟨_, ⟨same, rfl⟩, accepted same⟩

theorem matcherHolds_listing_iff {predicate label : String} :
    MatcherHolds (listing predicate label) credentials (.iri "#matcher") ↔
      predicate ∈ [Acp.agent, Acp.client, Acp.issuer] ∧
      (Acp.agent = predicate → StandsForAgent credentials label) ∧
      (Acp.client = predicate → StandsForClient credentials label) ∧
      (Acp.issuer = predicate → StandsForIssuer credentials label) := by
  constructor
  · intro holds
    rcases holds.asks with ⟨asked, askedMem, value, valueMem⟩
    rw [(mem_matcher_listing.1 valueMem).1] at askedMem
    exact ⟨askedMem, admits_listing_iff.1 holds.agent, admits_listing_iff.1 holds.client,
      admits_listing_iff.1 holds.issuer⟩
  · rintro ⟨askedMem, agent, client, issuer⟩
    refine ⟨⟨predicate, askedMem, _, mem_matcher_listing.2 ⟨rfl, rfl⟩⟩,
      admits_listing_iff.2 agent, admits_listing_iff.2 client, admits_listing_iff.2 issuer, ?_⟩
    intro value valueMem
    rw [← (mem_matcher_listing.1 valueMem).1] at askedMem
    exact absurd askedMem (by decide)

theorem links_listing_iff {predicate label : String} {policy : Term} :
    Links (listing predicate label) Acp.accessControl policy ↔ policy = .iri "#policy" := by
  constructor
  · rintro ⟨node, control, linksControl, applies⟩
    simp [listing, Acp.accessControl, Acp.apply, Acp.anyOf, Acp.allow] at linksControl
    rcases linksControl with ⟨_, rfl⟩ | ⟨_, _, rfl⟩
    · simpa [listing, Acp.accessControl, Acp.apply, Acp.anyOf, Acp.allow] using applies
    · simp [listing] at applies
  · rintro rfl
    exact ⟨.iri "#resource", .iri "#control", by simp [listing], by simp [listing]⟩

theorem policyHolds_listing_iff {predicate label : String} :
    PolicyHolds (listing predicate label) credentials (.iri "#policy") ↔
      MatcherHolds (listing predicate label) credentials (.iri "#matcher") := by
  have isAny : ⟨.iri "#policy", .iri Acp.anyOf, .iri "#matcher"⟩ ∈ listing predicate label :=
    mem_policy_listing.2 (Or.inl ⟨rfl, rfl⟩)
  constructor
  · intro holds
    rcases holds.anyOf ⟨_, isAny⟩ with ⟨matcher, matcherMem, matcherHolds⟩
    simp [mem_policy_listing, Acp.anyOf, Acp.allow] at matcherMem
    rwa [← matcherMem]
  · intro matcherHolds
    refine ⟨?_, fun _ => ⟨_, isAny, matcherHolds⟩, ?_⟩
    · simp [mem_policy_listing, Acp.allOf, Acp.anyOf, Acp.allow]
    · simp [mem_policy_listing, Acp.noneOf, Acp.anyOf, Acp.allow]

theorem read_mem_modesIn_listing_iff {predicate label : String} :
    .read ∈ modesIn (listing predicate label) .resource credentials ↔
      MatcherHolds (listing predicate label) credentials (.iri "#matcher") := by
  rw [mem_modesIn]
  simp only [SaysIn, linkOf, links_listing_iff, exists_eq_left, policyHolds_listing_iff,
    mem_policy_listing]
  simp [Acp.anyOf, Acp.allow, Acp.deny, Mode.iri]

theorem keepsApart_listing (rename : String → String) (predicate label : String) :
    (listing predicate label).KeepsApart rename := by
  have isOnly (other : String) (isMentioned : (listing predicate label).Mentions (.blank other)) :
      other = label := by
    rcases isMentioned with ⟨statement, statementMem, isPart⟩
    simp only [listing, AscendingSet.mem_ofList, List.mem_cons, List.not_mem_nil, or_false]
      at statementMem
    rcases statementMem with rfl | rfl | rfl | rfl | rfl
    all_goals simp at isPart
    exact isPart
  intro first second isMentioned isMentionedToo _
  rw [isOnly first isMentioned, isOnly second isMentionedToo]

/-- Other labels never change what the policies of a graph allow to a request. -/
def IsHarmless (rename : String → String) (credentials : Credentials) : Prop :=
  ∀ graph : Graph, graph.KeepsApart rename → ∀ scope,
    modesIn (graph.relabel rename) scope credentials = modesIn graph scope credentials

theorem isHarmless_iff {rename : String → String} :
    IsHarmless rename credentials ↔ ∀ label, StandAlike credentials label (rename label) := by
  constructor
  · intro isHarmless label
    -- Where one label is listed, what it stands for decides whether anything is allowed.
    have holds_iff (predicate : String) :
        MatcherHolds (listing predicate (rename label)) credentials (.iri "#matcher") ↔
          MatcherHolds (listing predicate label) credentials (.iri "#matcher") := by
      rw [← read_mem_modesIn_listing_iff, ← read_mem_modesIn_listing_iff, ← relabel_listing,
        isHarmless _ (keepsApart_listing rename predicate label)]
    constructor
    · simpa [matcherHolds_listing_iff, Acp.agent, Acp.client, Acp.issuer] using holds_iff Acp.agent
    · simpa [matcherHolds_listing_iff, Acp.agent, Acp.client, Acp.issuer] using holds_iff Acp.client
    · simpa [matcherHolds_listing_iff, Acp.agent, Acp.client, Acp.issuer] using holds_iff Acp.issuer
  · intro alike graph apart scope
    exact modesIn_relabel apart (keepsStanding_of_standAlike fun _ _ label _ => alike label) scope

/-- Other labels are of no consequence to a request, neither to the policies of a graph nor to what
the resolver finds in documents that are each labelled anew, where those that are listed by matchers
are taken for the same identities. In documents this is so if no identity is spelled like a label.
Whatever the graph, other labels are of no consequence only if all labels are taken for the same
identities. -/
theorem labels_matter_where_matchers_list_them (credentials : Credentials) :
    (∀ (graph : Graph) rename, graph.KeepsApart rename → KeepsStanding graph rename credentials →
      ∀ scope, modesIn (graph.relabel rename) scope credentials =
        modesIn graph scope credentials) ∧
    (∀ {σ τ : Type} (reader : Reader σ) (other : Reader τ) before after state later rename,
      reader.Steady before state → other.Steady after later →
        before.Relabels after rename credentials → ∀ layout requested,
          (resolver layout other credentials requested later).1 =
            (resolver layout reader credentials requested state).1) ∧
    (credentials.SpellsNoLabel → ∀ (graph : Graph) rename, graph.IsWritable →
      (graph.relabel rename).IsWritable → KeepsStanding graph rename credentials) ∧
    ∀ rename, IsHarmless rename credentials ↔
      ∀ label, StandAlike credentials label (rename label) := by
  refine ⟨?_, ?_, ?_, fun rename => isHarmless_iff⟩
  · intro graph rename apart keeps
    exact modesIn_relabel apart keeps
  · intro σ τ reader other before after state later rename steady steadyToo relabels layout
      requested
    rw [run_resolver steady, run_resolver steadyToo]
    exact resolvePolicies_relabels relabels ∅ requested.keys.toList
  · intro spellsNone graph rename isWritable isWritableToo
    exact keepsStanding_of_isWritable isWritable isWritableToo spellsNone

/-- Members of a container may be read through one application, and all that links to its policy are
blank nodes. Beside the application another one is listed, by a blank node. -/
def clients : Graph := .ofList [
  ⟨.iri "#root", .iri Acp.memberAccessControl, .blank "members"⟩,
  ⟨.blank "members", .iri Acp.apply, .blank "visitors"⟩,
  ⟨.blank "visitors", .iri Acp.anyOf, .blank "either"⟩,
  ⟨.blank "visitors", .iri Acp.allow, .iri Acl.Read⟩,
  ⟨.blank "either", .iri Acp.client, .iri "https://app.example/id"⟩,
  ⟨.blank "either", .iri Acp.client, .blank "reader"⟩]

/-- A longer label. -/
def longer (label : String) : String := "b" ++ label

theorem keepsApart_longer (graph : Graph) : graph.KeepsApart longer := by
  intro first second _ _ same
  simpa [longer] using same

/-- Whoever comes through an application that is named by a URL is not taken for a blank node. -/
theorem spellsNoLabel_app : Credentials.SpellsNoLabel { client := "https://app.example/id" } := by
  constructor
  · intro webId asserted
    cases asserted
  · intro name asserted
    cases asserted
    decide
  · intro url asserted
    cases asserted

/-- The answers where the root has a document and nothing else has. -/
def rootAnswers (graph : Graph) : Answers := .ofGraphs (.ofList [(⟨"https://pod/.acr"⟩, graph)])

theorem relabels_rootAnswers {rename : String → String} (apart : graph.KeepsApart rename)
    (keeps : KeepsStanding graph rename credentials) :
    (rootAnswers graph).Relabels (rootAnswers (graph.relabel rename)) (fun _ => rename)
      credentials := by
  have read (graph : Graph) (document : Identifier) : (rootAnswers graph).read document =
      if document = ⟨"https://pod/.acr"⟩ then .ok graph else .error (.notFound document) := by
    by_cases isRoot : document = ⟨"https://pod/.acr"⟩
    · simp [rootAnswers, Answers.ofGraphs, AscendingMap.ofList, isRoot]
    · simp [rootAnswers, Answers.ofGraphs, AscendingMap.ofList, isRoot]
  have isOnly {document : Identifier} {other : Graph}
      (isRead : (rootAnswers graph).read document = .ok other) : other = graph := by
    rw [read] at isRead
    split at isRead
    · cases isRead
      rfl
    · cases isRead
  constructor
  · intro document
    rw [read, read]
    split
    · rfl
    · rfl
  · intro document other isRead
    rwa [isOnly isRead]
  · intro document other isRead
    rwa [isOnly isRead]

theorem clients_are_harmed_by_labels :
    (rootAnswers clients).Relabels (rootAnswers (clients.relabel longer)) (fun _ => longer)
        { client := "https://app.example/id" } ∧
      (resolver podLayout (rootAnswers (clients.relabel longer)).reader
        { client := "https://app.example/id" } (.ofList [(⟨"https://pod/a"⟩, ∅)]) ()).1 =
          .ok (.ofList [(⟨"https://pod/a"⟩, .uniform { read := true })]) ∧
      modesIn (clients.relabel longer) .member { client := "https://app.example/id" } =
        .ofList [.read] ∧
      ¬IsHarmless longer { client := "reader" } := by
  rcases labels_matter_where_matchers_list_them { client := "https://app.example/id" } with
    ⟨onGraphs, onResolver, keeps, _⟩
  rcases labels_matter_where_matchers_list_them { client := "reader" } with ⟨_, _, _, harmless_iff⟩
  have apart := keepsApart_longer clients
  have isWritable : clients.IsWritable ∧ (clients.relabel longer).IsWritable := by decide +kernel
  have keepsStanding := keeps spellsNoLabel_app clients longer isWritable.1 isWritable.2
  have relabels := relabels_rootAnswers apart keepsStanding
  refine ⟨relabels, ?_, ?_, ?_⟩
  · rw [onResolver _ _ _ _ () () _ (Answers.steady_reader _ ()) (Answers.steady_reader _ ())
      relabels]
    exact toOption_eq_some_iff.1 (by decide +kernel)
  · rw [onGraphs clients longer apart keepsStanding]
    decide +kernel
  · intro isHarmless
    have alike := ((harmless_iff longer).1 isHarmless "reader").client
    rcases alike.2 (Or.inr rfl) with isPublic | asserted
    · exact absurd isPublic (by decide)
    · exact absurd asserted (by decide)

end Policy

end LinkedAccess
