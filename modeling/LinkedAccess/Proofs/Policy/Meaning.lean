import LinkedAccess.Proofs.Policy.Evaluation

/-!
# What Access Control Policy means

Every document on the way up from a target counts. What applies, who satisfies it and what is
granted is said here in terms of the statements of these documents alone: no document is decoded in
this description, and none is remembered. `resolver_gives_what_policies_say` says that the resolver
grants what is described and nothing else.
-/

namespace LinkedAccess

open Vocabulary

namespace Policy

/-- A value of a matcher stands for the agent of a request. -/
def StandsForAgent (credentials : Credentials) (value : String) : Prop :=
  value = Acp.PublicAgent ∨
    (value = Acp.AuthenticatedAgent ∧ ∃ webId, credentials.agent = some webId) ∨
    credentials.agent = some value

/-- A value of a matcher stands for the client of a request. -/
def StandsForClient (credentials : Credentials) (value : String) : Prop :=
  value = Acp.PublicClient ∨ credentials.client = some value

/-- A value of a matcher stands for the issuer of the identity of a request. -/
def StandsForIssuer (credentials : Credentials) (value : String) : Prop :=
  credentials.issuer = some value

/-- If a node has values under a predicate, one of them is as it has to be. -/
def Admits (graph : Graph) (node : Term) (predicate : String) (accepts : String → Prop) : Prop :=
  (∃ value, ⟨node, .iri predicate, value⟩ ∈ graph) →
    ∃ value, ⟨node, .iri predicate, value⟩ ∈ graph ∧ accepts value.value

/-- A node of a graph is a matcher that a request satisfies. -/
structure MatcherHolds (graph : Graph) (credentials : Credentials) (matcher : Term) : Prop where
  /-- It asks for something that a request can have. -/
  asks : ∃ predicate ∈ [Acp.agent, Acp.client, Acp.issuer], ∃ value,
    ⟨matcher, .iri predicate, value⟩ ∈ graph
  agent : Admits graph matcher Acp.agent (StandsForAgent credentials)
  client : Admits graph matcher Acp.client (StandsForClient credentials)
  issuer : Admits graph matcher Acp.issuer (StandsForIssuer credentials)
  /-- It asks for no verifiable credential. -/
  vc : ∀ value, ⟨matcher, .iri Acp.vc, value⟩ ∉ graph

/-- A node of a graph is a policy that a request satisfies. -/
structure PolicyHolds (graph : Graph) (credentials : Credentials) (policy : Term) : Prop where
  allOf : ∀ matcher, ⟨policy, .iri Acp.allOf, matcher⟩ ∈ graph →
    MatcherHolds graph credentials matcher
  anyOf : (∃ matcher, ⟨policy, .iri Acp.anyOf, matcher⟩ ∈ graph) →
    ∃ matcher, ⟨policy, .iri Acp.anyOf, matcher⟩ ∈ graph ∧ MatcherHolds graph credentials matcher
  noneOf : ∀ matcher, ⟨policy, .iri Acp.noneOf, matcher⟩ ∈ graph →
    ¬MatcherHolds graph credentials matcher

/-- A node of a graph links a policy through an access control. -/
def Links (graph : Graph) (predicate : String) (policy : Term) : Prop :=
  ∃ node control, ⟨node, .iri predicate, control⟩ ∈ graph ∧
    ⟨control, .iri Acp.apply, policy⟩ ∈ graph

/-- A policy of a document applies to a target: it is a policy for the resource in its own document
or a policy for members in a document further up. A document that is absent has no policies. -/
inductive Applies (answers : Answers) (layout : Layout) (target : Identifier) :
    Graph → Term → Prop where
  | own (graph : Graph) (policy : Term)
      (read : answers.read (layout.naming.document (layout.naming.governed target)) = .ok graph)
      (links : Links graph Acp.accessControl policy) : Applies answers layout target graph policy
  | inherited (ancestor : Identifier) (graph : Graph) (policy : Term)
      (isAbove : ancestor ∈ (layout.lineage target).ancestors)
      (read : answers.read (layout.naming.document ancestor) = .ok graph)
      (links : Links graph Acp.memberAccessControl policy) :
      Applies answers layout target graph policy

/-- A satisfied policy that applies says something about a mode. -/
def Says (answers : Answers) (layout : Layout) (credentials : Credentials) (target : Identifier)
    (predicate : String) (mode : Mode) : Prop :=
  ∃ graph policy, Applies answers layout target graph policy ∧
    PolicyHolds graph credentials policy ∧ ⟨policy, .iri predicate, .iri mode.iri⟩ ∈ graph

/-- Some satisfied policy that applies allows a mode, and none denies it. -/
def Allows (answers : Answers) (layout : Layout) (credentials : Credentials) (target : Identifier)
    (mode : Mode) : Prop :=
  Says answers layout credentials target Acp.allow mode ∧
    ¬Says answers layout credentials target Acp.deny mode

/-- A mode is allowed, or it is appending and writing is. -/
def Grants (answers : Answers) (layout : Layout) (credentials : Credentials) (target : Identifier)
    (mode : Mode) : Prop :=
  Allows answers layout credentials target mode ∨
    mode = .append ∧ Allows answers layout credentials target .write

/-- What policies say about a target: its way up ends at the root, and every group is granted what
they grant or, on an access control document, everything if they grant control. -/
def PoliciesSay (answers : Answers) (layout : Layout) (credentials : Credentials)
    (target : Identifier) (permissions : PermissionSet) : Prop :=
  (layout.lineage target).chain.getLast? = some layout.hierarchy.root ∧
    ∃ permission, (∀ group, permissions.get? group = some permission) ∧ ∀ mode,
      permission.allows mode = true ↔ Grants answers layout credentials target
        (if layout.naming.isAuxiliary target then .control else mode)

@[simp]
theorem mem_valueTexts {graph : Graph} {node : Term} {predicate text : String} :
    text ∈ graph.valueTexts node predicate ↔
      ∃ value, ⟨node, .iri predicate, value⟩ ∈ graph ∧ value.value = text := by
  simp [Graph.valueTexts]

theorem isEmpty_valueTexts_iff {graph : Graph} {node : Term} {predicate : String} :
    (graph.valueTexts node predicate).isEmpty = true ↔
      ∀ value, ⟨node, .iri predicate, value⟩ ∉ graph := by
  rw [List.isEmpty_iff, List.eq_nil_iff_forall_not_mem]
  simp only [mem_valueTexts]
  constructor
  · intro noText value valueMem
    exact noText value.value ⟨value, valueMem, rfl⟩
  · rintro noValue text ⟨value, valueMem, _⟩
    exact noValue value valueMem

theorem agrees_valueTexts_iff {graph : Graph} {node : Term} {predicate : String}
    {accepts : String → Bool} :
    Matcher.agrees (graph.valueTexts node predicate) accepts = true ↔
      Admits graph node predicate (accepts · = true) := by
  rw [Matcher.agrees, Bool.or_eq_true, isEmpty_valueTexts_iff, List.any_eq_true, Admits]
  constructor
  · rintro (noValue | ⟨text, textMem, accepted⟩) ⟨value, valueMem⟩
    · exact absurd valueMem (noValue value)
    · rcases mem_valueTexts.1 textMem with ⟨other, otherMem, rfl⟩
      exact ⟨other, otherMem, accepted⟩
  · intro admits
    by_cases listed : ∃ value, ⟨node, .iri predicate, value⟩ ∈ graph
    · rcases admits listed with ⟨value, valueMem, accepted⟩
      exact Or.inr ⟨value.value, mem_valueTexts.2 ⟨value, valueMem, rfl⟩, accepted⟩
    · exact Or.inl fun value valueMem => listed ⟨value, valueMem⟩

theorem acceptsAgent_iff {credentials : Credentials} {value : String} :
    Matcher.acceptsAgent credentials value = true ↔ StandsForAgent credentials value := by
  unfold Matcher.acceptsAgent StandsForAgent Credentials.isAuthenticated
  cases agent : credentials.agent with
  | none => grind
  | some webId => grind

theorem acceptsClient_iff {credentials : Credentials} {value : String} :
    Matcher.acceptsClient credentials value = true ↔ StandsForClient credentials value := by
  simp [Matcher.acceptsClient, StandsForClient]

theorem acceptsIssuer_iff {credentials : Credentials} {value : String} :
    Matcher.acceptsIssuer credentials value = true ↔ StandsForIssuer credentials value := by
  simp [Matcher.acceptsIssuer, StandsForIssuer]

theorem isVacuous_matcher_iff {graph : Graph} {node : Term} :
    (graph.matcher node).isVacuous = true ↔
      ∀ predicate ∈ [Acp.agent, Acp.client, Acp.issuer, Acp.vc], ∀ value,
        ⟨node, .iri predicate, value⟩ ∉ graph := by
  simp [Matcher.isVacuous, Graph.matcher, -List.isEmpty_iff, isEmpty_valueTexts_iff, and_assoc]

theorem isSatisfied_matcher_iff {graph : Graph} {credentials : Credentials} {node : Term} :
    (graph.matcher node).isSatisfied credentials = true ↔ MatcherHolds graph credentials node := by
  rw [Matcher.isSatisfied]
  simp only [Bool.and_eq_true, Bool.not_eq_true', ← Bool.not_eq_true, isVacuous_matcher_iff]
  simp only [Graph.matcher, agrees_valueTexts_iff, isEmpty_valueTexts_iff, acceptsAgent_iff,
    acceptsClient_iff, acceptsIssuer_iff]
  constructor
  · rintro ⟨⟨⟨⟨notVacuous, agent⟩, client⟩, issuer⟩, vc⟩
    refine ⟨?_, agent, client, issuer, vc⟩
    -- A matcher that only asks for verifiable credentials is not vacuous, but it is not satisfied.
    refine Classical.byContradiction fun asksNothing => notVacuous ?_
    intro predicate predicateMem value valueMem
    rcases List.mem_append.1 (show predicate ∈ [Acp.agent, Acp.client, Acp.issuer] ++ [Acp.vc] from
      predicateMem) with isAsked | isVc
    · exact asksNothing ⟨predicate, isAsked, value, valueMem⟩
    · rw [List.mem_singleton.1 isVc] at valueMem
      exact vc value valueMem
  · intro holds
    refine ⟨⟨⟨⟨?_, holds.agent⟩, holds.client⟩, holds.issuer⟩, holds.vc⟩
    intro isVacuous
    rcases holds.asks with ⟨predicate, isAsked, value, valueMem⟩
    exact isVacuous predicate (List.mem_append_left [Acp.vc] isAsked) value valueMem

theorem mem_linkedMatchers {graph : Graph} {node : Term} {predicate : String} {matcher : Matcher} :
    matcher ∈ graph.linkedMatchers node predicate ↔
      ∃ linked, ⟨node, .iri predicate, linked⟩ ∈ graph ∧ graph.matcher linked = matcher := by
  simp [Graph.linkedMatchers]

theorem isSatisfied_policy_iff {graph : Graph} {credentials : Credentials} {node : Term} :
    (graph.policy node).isSatisfied credentials = true ↔ PolicyHolds graph credentials node := by
  simp only [isSatisfied, Graph.policy, Bool.and_eq_true, Bool.or_eq_true, Bool.not_eq_true',
    List.all_eq_true, List.any_eq_true, List.any_eq_false, mem_linkedMatchers]
  constructor
  · rintro ⟨⟨allOf, anyOf⟩, noneOf⟩
    refine ⟨?_, ?_, ?_⟩
    · intro matcher linked
      exact isSatisfied_matcher_iff.1 (allOf _ ⟨matcher, linked, rfl⟩)
    · rintro ⟨matcher, linked⟩
      rcases anyOf with noMatcher | ⟨_, ⟨other, otherLinked, rfl⟩, satisfied⟩
      · have isThere := mem_linkedMatchers.2 ⟨matcher, linked, rfl⟩
        rw [List.isEmpty_iff.1 noMatcher] at isThere
        cases isThere
      · exact ⟨other, otherLinked, isSatisfied_matcher_iff.1 satisfied⟩
    · intro matcher linked holds
      exact noneOf _ ⟨matcher, linked, rfl⟩ (isSatisfied_matcher_iff.2 holds)
  · intro holds
    refine ⟨⟨?_, ?_⟩, ?_⟩
    · rintro _ ⟨matcher, linked, rfl⟩
      exact isSatisfied_matcher_iff.2 (holds.allOf matcher linked)
    · by_cases listed : ∃ matcher, ⟨node, .iri Acp.anyOf, matcher⟩ ∈ graph
      · rcases holds.anyOf listed with ⟨matcher, linked, matcherHolds⟩
        exact Or.inr ⟨_, ⟨matcher, linked, rfl⟩, isSatisfied_matcher_iff.2 matcherHolds⟩
      · left
        rw [List.isEmpty_iff, List.eq_nil_iff_forall_not_mem]
        intro matcher matcherMem
        rcases mem_linkedMatchers.1 matcherMem with ⟨linked, isLinked, _⟩
        exact listed ⟨linked, isLinked⟩
    · rintro _ ⟨matcher, linked, rfl⟩ satisfied
      exact holds.noneOf matcher linked (isSatisfied_matcher_iff.1 satisfied)

@[simp]
theorem mem_linkedModes {graph : Graph} {node : Term} {predicate : String} {mode : Mode} :
    mode ∈ graph.linkedModes node predicate ↔
      ⟨node, .iri predicate, .iri mode.iri⟩ ∈ graph := by
  rw [Graph.linkedModes, AscendingSet.mem_ofList, Graph.mem_filterMap_asIri?]
  simp [Mode.ofIri?_eq_some_iff]

/-- The predicate that links the access controls of a scope. -/
def linkOf : PolicyScope → String
  | .resource => Acp.accessControl
  | .member => Acp.memberAccessControl

theorem mem_flatMap_linkedControls {graph : Graph} {node : Term} {predicate : String}
    {policy : Policy} :
    policy ∈ (graph.linkedControls node predicate).flatMap (·.policies) ↔
      ∃ control linked, ⟨node, .iri predicate, control⟩ ∈ graph ∧
        ⟨control, .iri Acp.apply, linked⟩ ∈ graph ∧ graph.policy linked = policy := by
  simp only [Graph.linkedControls, List.mem_flatMap, List.mem_map, Graph.mem_objects]
  constructor
  · rintro ⟨_, ⟨control, links, rfl⟩, policyMem⟩
    rcases List.mem_map.1 policyMem with ⟨linked, linkedMem, policyEq⟩
    exact ⟨control, linked, links, Graph.mem_objects.1 linkedMem, policyEq⟩
  · rintro ⟨control, linked, links, applies, policyEq⟩
    exact ⟨_, ⟨control, links, rfl⟩,
      List.mem_map.2 ⟨linked, Graph.mem_objects.2 applies, policyEq⟩⟩

theorem mem_policies_iff {graph : Graph} {scope : PolicyScope} {policy : Policy} :
    policy ∈ graph.accessControlResources.flatMap (·.policies scope) ↔
      ∃ node, Links graph (linkOf scope) node ∧ graph.policy node = policy := by
  have onNode (node : Term) : policy ∈ (graph.accessControlResource node).policies scope ↔
      ∃ control linked, ⟨node, .iri (linkOf scope), control⟩ ∈ graph ∧
        ⟨control, .iri Acp.apply, linked⟩ ∈ graph ∧ graph.policy linked = policy := by
    cases scope with
    | resource => exact mem_flatMap_linkedControls
    | member => exact mem_flatMap_linkedControls
  simp only [Graph.accessControlResources, List.mem_flatMap, List.mem_map]
  constructor
  · rintro ⟨_, ⟨node, _, rfl⟩, isGiven⟩
    rcases (onNode node).1 isGiven with ⟨control, linked, links, applies, policyEq⟩
    exact ⟨linked, ⟨node, control, links, applies⟩, policyEq⟩
  · rintro ⟨linked, ⟨node, control, links, applies⟩, policyEq⟩
    refine ⟨_, ⟨node, ?_, rfl⟩, (onNode node).2 ⟨control, linked, links, applies, policyEq⟩⟩
    rw [← AscendingSet.mem_iff_mem_toList]
    cases scope with
    | resource =>
        simp only [Graph.accessControlNodes, AscendingSet.mem_union, Graph.mem_subjectsWith]
        exact Or.inl (Or.inr ⟨control, links⟩)
    | member =>
        simp only [Graph.accessControlNodes, AscendingSet.mem_union, Graph.mem_subjectsWith]
        exact Or.inr ⟨control, links⟩

theorem mem_modesOf {side : Policy → Modes} {policies : List Policy} {mode : Mode} :
    mode ∈ modesOf side policies ↔ ∃ policy ∈ policies, mode ∈ side policy := by
  have onList (modes : Modes) :
      mode ∈ policies.foldl (fun modes policy => modes ∪ side policy) modes ↔
        mode ∈ modes ∨ ∃ policy ∈ policies, mode ∈ side policy := by
    induction policies generalizing modes with
    | nil => simp
    | cons policy later inductionHypothesis =>
        rw [List.foldl_cons, inductionHypothesis, AscendingSet.mem_union]
        simp only [List.mem_cons, exists_eq_or_imp]
        rw [or_assoc]
  rw [modesOf, onList]
  simp

theorem mem_allowedModes {policies : List Policy} {credentials : Credentials} {mode : Mode} :
    mode ∈ allowedModes policies credentials ↔
      (∃ policy ∈ policies, policy.isSatisfied credentials = true ∧ mode ∈ policy.allow) ∧
        ¬∃ policy ∈ policies, policy.isSatisfied credentials = true ∧ mode ∈ policy.deny := by
  simp only [allowedModes, AscendingSet.mem_sdiff, mem_modesOf, satisfied, List.mem_filter,
    and_assoc]

/-- A document that links anything is there and says what it says. -/
theorem read_of_links {answers : Answers} {document : Identifier} {predicate : String}
    {policy : Term} (links : Links (answers.content document) predicate policy) :
    answers.read document = .ok (answers.content document) := by
  rcases links with ⟨node, control, linked, _⟩
  cases read : answers.read document with
  | ok graph => rw [Answers.content_of_description (Answers.description_of_read read)]
  | error cause =>
      have isEmpty : answers.content document = ∅ := by
        by_cases notFound : cause.isNotFound = true
        · exact Answers.content_of_description (Answers.description_of_notFound read notFound)
        · simp [Answers.content, Answers.description, read, Absence.settle, notFound,
            Except.toOption]
      rw [isEmpty] at linked
      exact absurd linked (AscendingSet.not_mem_empty _)

theorem mem_policies_lineage_iff {answers : Answers} {layout : Layout} {target : Identifier}
    {policy : Policy} :
    policy ∈ answers.policies layout.naming .resource (layout.lineage target) ↔
      ∃ graph node, Applies answers layout target graph node ∧ graph.policy node = policy := by
  have governedEq : (layout.lineage target).resource = layout.naming.governed target :=
    Lineage.resource_lineage layout.hierarchy _
  simp only [Answers.policies, Answers.described, governedEq]
  rw [List.mem_append, mem_policies_iff, List.mem_flatMap]
  simp only [mem_policies_iff]
  constructor
  · rintro (⟨node, links, policyEq⟩ | ⟨ancestor, isAbove, node, links, policyEq⟩)
    · exact ⟨_, node, .own _ node (read_of_links links) links, policyEq⟩
    · exact ⟨_, node, .inherited ancestor _ node isAbove (read_of_links links) links, policyEq⟩
  · rintro ⟨graph, node, applies, policyEq⟩
    cases applies with
    | own _ _ read links =>
        rw [← Answers.content_of_description (Answers.description_of_read read)] at links policyEq
        exact Or.inl ⟨node, links, policyEq⟩
    | inherited ancestor _ _ isAbove read links =>
        rw [← Answers.content_of_description (Answers.description_of_read read)] at links policyEq
        exact Or.inr ⟨ancestor, isAbove, node, links, policyEq⟩

theorem mem_allowedModes_lineage_iff {answers : Answers} {layout : Layout}
    {credentials : Credentials} {target : Identifier} {mode : Mode} :
    mode ∈ allowedModes (answers.policies layout.naming .resource (layout.lineage target))
        credentials ↔ Allows answers layout credentials target mode := by
  have side_iff (side : Policy → Modes) (predicate : String)
      (isLinked : ∀ (graph : Graph) (node : Term), mode ∈ side (graph.policy node) ↔
        ⟨node, .iri predicate, .iri mode.iri⟩ ∈ graph) :
      (∃ policy ∈ answers.policies layout.naming .resource (layout.lineage target),
        policy.isSatisfied credentials = true ∧ mode ∈ side policy) ↔
          Says answers layout credentials target predicate mode := by
    simp only [mem_policies_lineage_iff]
    constructor
    · rintro ⟨_, ⟨graph, node, applies, rfl⟩, satisfied, modeMem⟩
      exact ⟨graph, node, applies, isSatisfied_policy_iff.1 satisfied,
        (isLinked graph node).1 modeMem⟩
    · rintro ⟨graph, node, applies, holds, linked⟩
      exact ⟨_, ⟨graph, node, applies, rfl⟩, isSatisfied_policy_iff.2 holds,
        (isLinked graph node).2 linked⟩
  rw [mem_allowedModes, side_iff allow Acp.allow fun _ _ => mem_linkedModes,
    side_iff deny Acp.deny fun _ _ => mem_linkedModes, Allows]

theorem allows_policyPermission_iff {answers : Answers} {layout : Layout}
    {credentials : Credentials} {target : Identifier} {mode : Mode} :
    (answers.policyPermission layout credentials target).allows mode = true ↔
      Grants answers layout credentials target
        (if layout.naming.isAuxiliary target then .control else mode) := by
  have ofModes_iff (mode : Mode) : (Permission.ofModes (allowedModes
      (answers.policies layout.naming .resource (layout.lineage target))
        credentials).toList).allows mode = true ↔
      Grants answers layout credentials target mode := by
    rw [Permission.allows_ofModes, ← AscendingSet.mem_iff_mem_toList,
      ← AscendingSet.mem_iff_mem_toList, mem_allowedModes_lineage_iff,
      mem_allowedModes_lineage_iff, Grants]
  rw [Answers.policyPermission, permissionOn]
  by_cases auxiliary : layout.naming.isAuxiliary target = true
  · simp only [if_pos auxiliary, Permission.allows_onDocument]
    exact ofModes_iff .control
  · simp only [if_neg auxiliary]
    exact ofModes_iff mode

/-- Whatever the resolver answers, every target is given what the policies say. -/
theorem resolver_gives_what_policies_say {σ : Type} {reader : Reader σ} {answers : Answers}
    {state : σ} (steady : reader.Steady answers state) {layout : Layout}
    {credentials : Credentials} {requested : AccessMap} {found : PermissionMap}
    (resolved : (resolver layout reader credentials requested state).1 = .ok found)
    {target : Identifier} (isRequested : target ∈ requested.keys) :
    ∃ permissions, found.get? target = some permissions ∧
      PoliciesSay answers layout credentials target permissions := by
  rw [run_resolver steady] at resolved
  rcases Answers.of_resolvePolicies resolved with ⟨allWalk, rfl⟩
  have endsWell := (Answers.walk_eq_ok_iff.1 (allWalk target isRequested)).2
  refine ⟨.uniform (answers.policyPermission layout credentials target), ?_, ?_, ?_⟩
  · rw [AscendingMap.get?_foldl_insert, if_pos (AscendingSet.mem_iff_mem_toList.1 isRequested)]
  · exact (Lineage.follows_lineage layout.hierarchy _).getLast?_chain endsWell
  · exact ⟨_, PermissionSet.get?_uniform _, fun mode => allows_policyPermission_iff⟩

/-- Resources below one host, with documents that are named by a dot and three letters. -/
def podLayout : Layout := ⟨.rootedAt "https://pod/".toList, ⟨".acr"⟩⟩

/-- A root whose policy lets anybody write to its members, and denies them to read. -/
def dropBox : AscendingMap Identifier Graph :=
  .ofList [(⟨"https://pod/.acr"⟩, .ofList [
    ⟨.iri "#root", .iri Acp.memberAccessControl, .iri "#members"⟩,
    ⟨.iri "#members", .iri Acp.apply, .iri "#drop"⟩,
    ⟨.iri "#drop", .iri Acp.anyOf, .iri "#anybody"⟩,
    ⟨.iri "#drop", .iri Acp.allow, .iri Acl.Read⟩,
    ⟨.iri "#drop", .iri Acp.allow, .iri Acl.Write⟩,
    ⟨.iri "#drop", .iri Acp.deny, .iri Acl.Read⟩,
    ⟨.iri "#anybody", .iri Acp.agent, .iri Acp.PublicAgent⟩])]

theorem policiesSay_below_dropBox :
    PoliciesSay (.ofGraphs dropBox) podLayout {} ⟨"https://pod/a"⟩
      (.uniform { append := true, write := true }) := by
  let requested : AccessMap := .ofList [(⟨"https://pod/a"⟩, ∅)]
  have isRequested : ⟨"https://pod/a"⟩ ∈ requested.keys := by decide
  have resolved : (resolver podLayout (Answers.ofGraphs dropBox).reader {} requested ()).1 =
      .ok (.ofList [(⟨"https://pod/a"⟩, .uniform { append := true, write := true })]) :=
    toOption_eq_some_iff.1 (by decide +kernel)
  rcases resolver_gives_what_policies_say (Answers.steady_reader _ ()) resolved isRequested with
    ⟨permissions, isFound, saying⟩
  cases isFound
  exact saying

end Policy

end LinkedAccess
