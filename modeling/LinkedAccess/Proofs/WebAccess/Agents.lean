import LinkedAccess.Proofs.WebAccess.Meaning

/-!
# What credentials are good for

Of all that a request asserts only the agent counts, and it counts for nothing but the permission of
the agent: what everyone is permitted is the same whoever asks. An agent never holds less than
everyone, because each way for a rule to apply to everyone is also a way for it to apply to an
agent. And only an agent can be a member of a group, so nobody else makes the resolver look for one:
without an agent it reads governing documents and no others, and what others say cannot matter.
-/

namespace LinkedAccess

namespace Checker

variable {σ : Type} {reader : Reader σ} {answers : Answers} {rules : Graph} {rule : Term}

section SameAgent

variable {first second : Credentials}

mutual

theorem check_congr (same : first.agent = second.agent) : (checker : Checker) →
    check reader rules rule first checker = check reader rules rule second checker
  | agent => by rw [check, check, namesAgent, namesAgent, same]
  | agentClass => by
      rw [check, check, namesClass, namesClass, Credentials.isAuthenticated,
        Credentials.isAuthenticated, same]
  | agentGroup => by rw [check, check, namesGroup, namesGroup, same]
  | any checkers => checkAny_congr same checkers

theorem checkAny_congr (same : first.agent = second.agent) : (checkers : List Checker) →
    checkAny reader rules rule first checkers = checkAny reader rules rule second checkers
  | [] => rfl
  | checker :: later => by
      rw [checkAny, checkAny, check_congr same checker, checkAny_congr same later]

end

end SameAgent

section Everyone

variable (credentials : Credentials)

mutual

/-- A rule that applies to everyone applies to whoever asks. -/
theorem accepts_of_everyone : (checker : Checker) →
    accepts answers rules rule {} checker = true →
      accepts answers rules rule credentials checker = true
  | agent => fun impossible => by cases impossible
  | agentClass => by
      intro named
      have isForAll : rules.holds rule (.iri Vocabulary.Acl.agentClass)
          (.iri Vocabulary.Foaf.Agent) = true := by
        simpa [accepts, namesClass, Credentials.isAuthenticated] using named
      rw [accepts, namesClass, isForAll, Bool.true_or]
  | agentGroup => fun impossible => by cases impossible
  | any checkers => acceptsAny_of_everyone checkers

theorem acceptsAny_of_everyone : (checkers : List Checker) →
    acceptsAny answers rules rule {} checkers = true →
      acceptsAny answers rules rule credentials checkers = true
  | [] => fun impossible => by cases impossible
  | checker :: later => by
      rw [acceptsAny, acceptsAny, Bool.or_eq_true, Bool.or_eq_true]
      exact Or.imp (accepts_of_everyone checker) (acceptsAny_of_everyone later)

end

end Everyone

section WithoutAgent

variable {credentials : Credentials}

mutual

theorem consulted_of_no_agent (noAgent : credentials.agent = none) : (checker : Checker) →
    consulted answers rules rule credentials checker = []
  | agent => rfl
  | agentClass => rfl
  | agentGroup => by rw [consulted, noAgent]
  | any checkers => consultedByAny_of_no_agent noAgent checkers

theorem consultedByAny_of_no_agent (noAgent : credentials.agent = none) :
    (checkers : List Checker) → consultedByAny answers rules rule credentials checkers = []
  | [] => rfl
  | checker :: later => by
      rw [consultedByAny, consulted_of_no_agent noAgent checker,
        consultedByAny_of_no_agent noAgent later, ite_self]
      rfl

end

mutual

/-- Whether a rule applies to somebody without an agent is a matter of the rule alone. -/
theorem accepts_of_no_agent (noAgent : credentials.agent = none) (others : Answers) :
    (checker : Checker) → accepts others rules rule credentials checker =
      accepts answers rules rule credentials checker
  | agent => rfl
  | agentClass => rfl
  | agentGroup => by rw [accepts, accepts, noAgent, Option.any_none, Option.any_none]
  | any checkers => acceptsAny_of_no_agent noAgent others checkers

theorem acceptsAny_of_no_agent (noAgent : credentials.agent = none) (others : Answers) :
    (checkers : List Checker) → acceptsAny others rules rule credentials checkers =
      acceptsAny answers rules rule credentials checkers
  | [] => rfl
  | checker :: later => by
      rw [acceptsAny, acceptsAny, accepts_of_no_agent noAgent others checker,
        acceptsAny_of_no_agent noAgent others later]

end

end WithoutAgent

end Checker

namespace Credentials

variable {credentials : Credentials}

theorem isAuthenticated_of_no_agent (noAgent : credentials.agent = none) :
    credentials.isAuthenticated = false := by
  rw [isAuthenticated, noAgent]
  rfl

theorem groups_of_no_agent (noAgent : credentials.agent = none) :
    credentials.groups = [(.everyone, {})] := by
  simp [groups, Group.all, forGroup, isAuthenticated_of_no_agent noAgent]

end Credentials

namespace WebAccess

variable {σ : Type} {reader : Reader σ} {state : σ}

section SameAgent

variable {checker : Checker} {first second : Credentials}

theorem permitRules_congr (same : first.agent = second.agent) (rules : Graph)
    (permission : Permission) (candidates : List Term) :
    permitRules reader checker rules first permission candidates =
      permitRules reader checker rules second permission candidates := by
  induction candidates generalizing permission with
  | nil => rfl
  | cons rule later inductionHypothesis =>
      simp only [permitRules, Checker.check_congr same, inductionHypothesis]

theorem permitGroups_congr (same : first.agent = second.agent) (rules : Graph)
    (permissions : PermissionSet) :
    permitGroups reader checker rules permissions first.groups =
      permitGroups reader checker rules permissions second.groups := by
  have sameAuthentication : first.isAuthenticated = second.isAuthenticated :=
    congrArg Option.isSome same
  cases authenticated : second.isAuthenticated with
  | false =>
      rw [authenticated] at sameAuthentication
      simp [Credentials.groups, Group.all, Credentials.forGroup, sameAuthentication, authenticated]
  | true =>
      rw [authenticated] at sameAuthentication
      simp [Credentials.groups, Group.all, Credentials.forGroup, sameAuthentication, authenticated,
        permitGroups, permitRules_congr same]

theorem permitScope_congr (same : first.agent = second.agent) (document : Graph)
    (subject : Identifier) (byScope : ByScope) (scope : Scope) :
    permitScope reader checker first document subject byScope scope =
      permitScope reader checker second document subject byScope scope := by
  simp only [permitScope, permitGroups_congr same]

theorem resolveTargets_congr (same : first.agent = second.agent) (naming : AuxiliaryNaming)
    (document : Graph) (subject : Identifier) (byScope : ByScope) (found : PermissionMap)
    (targets : List Identifier) :
    resolveTargets naming reader checker first document subject byScope found targets =
      resolveTargets naming reader checker second document subject byScope found targets := by
  induction targets generalizing byScope found with
  | nil => rfl
  | cons target later inductionHypothesis =>
      simp only [resolveTargets, permitScope_congr same, inductionHypothesis]

theorem resolveDocuments_congr (same : first.agent = second.agent) (naming : AuxiliaryNaming)
    (found : PermissionMap) (entries : List (Identifier × List Identifier)) :
    resolveDocuments naming reader checker first found entries =
      resolveDocuments naming reader checker second found entries := by
  induction entries generalizing found with
  | nil => rfl
  | cons entry later inductionHypothesis =>
      simp only [resolveDocuments, resolveTargets_congr same, inductionHypothesis]

/-- Requests by the same agent are worked off alike, whatever else they assert. -/
theorem resolver_congr (same : first.agent = second.agent) (layout : Layout) :
    resolver layout reader checker first = resolver layout reader checker second := by
  funext requested
  simp only [resolver, resolveDocuments_congr same]

end SameAgent

namespace Inquiry

variable {inquiry : Inquiry}

/-- What everyone is permitted, any requester is. -/
theorem allows_permission_of_everyone {rules : Graph} {mode : Mode} (credentials : Credentials)
    (allowed : (inquiry.permission rules {}).allows mode = true) :
    (inquiry.permission rules credentials).allows mode = true := by
  have grantedToo (granted : Mode)
      (isGranted : granted ∈ ((authorizations rules).filter fun rule =>
        inquiry.checker.accepts inquiry.answers rules rule {}).flatMap (grantedModes rules)) :
      granted ∈ ((authorizations rules).filter fun rule =>
        inquiry.checker.accepts inquiry.answers rules rule credentials).flatMap
          (grantedModes rules) := by
    rcases List.mem_flatMap.1 isGranted with ⟨rule, ruleMem, isGranted⟩
    rcases List.mem_filter.1 ruleMem with ⟨isRule, applies⟩
    exact List.mem_flatMap.2 ⟨rule, List.mem_filter.2
      ⟨isRule, Checker.accepts_of_everyone credentials inquiry.checker applies⟩, isGranted⟩
  rw [permission, Permission.allows_ofModes] at allowed ⊢
  rcases allowed with isGranted | ⟨isAppend, isGranted⟩
  · exact Or.inl (grantedToo mode isGranted)
  · exact Or.inr ⟨isAppend, grantedToo .write isGranted⟩

/-- On every target the agent holds what everyone holds. -/
theorem grantedBy_of_authenticated (inquiry : Inquiry)
    (authenticated : inquiry.credentials.isAuthenticated = true) (document target : Identifier) :
    ∃ everyone agent, (inquiry.grantedBy document target).get? .everyone = some everyone ∧
      (inquiry.grantedBy document target).get? .agent = some agent ∧
      ∀ mode, everyone.allows mode = true → agent.allows mode = true := by
  have judgedBy : inquiry.credentials.forGroup .agent = some inquiry.credentials := by
    rw [Credentials.forGroup, if_pos authenticated]
  rw [grantedBy, get?_granted, get?_granted, judgedBy]
  refine ⟨_, _, rfl, rfl, fun mode allowed => ?_⟩
  by_cases isAuxiliary : inquiry.layout.naming.isAuxiliary target = true
  · simp only [isAuxiliary, if_true, Permission.allows_onDocument] at allowed ⊢
    exact allows_permission_of_everyone _ allowed
  · simp only [isAuxiliary] at allowed ⊢
    exact allows_permission_of_everyone _ allowed

section WithoutAgent

theorem consultedFor_of_no_agent (noAgent : inquiry.credentials.agent = none)
    (document target : Identifier) : inquiry.consultedFor document target = [] := by
  rw [consultedFor, consulted, Credentials.groups_of_no_agent noAgent]
  simp [Checker.consulted_of_no_agent]

/-- Without an agent nothing but the governing documents is loaded. -/
theorem loads_of_no_agent (noAgent : inquiry.credentials.agent = none)
    (entries : List (Identifier × List Identifier)) :
    inquiry.loads entries = entries.map fun entry => (entry.1, .fail) := by
  induction entries with
  | nil => rfl
  | cons entry later inductionHypothesis =>
      rw [loads_cons, inductionHypothesis, List.map_cons]
      simp [consultedFor_of_no_agent noAgent]

theorem located_of_mem_reads (noAgent : inquiry.credentials.agent = none)
    {targets : List Identifier} {document : Identifier}
    (isRead : document ∈ inquiry.reads targets) :
    ∃ target ∈ targets, inquiry.located target = .ok document := by
  rw [reads] at isRead
  cases gathering : inquiry.gather ∅ targets with
  | error error =>
      rw [gathering] at isRead
      cases isRead
  | ok governed =>
      rw [gathering] at isRead
      have isLoaded := (mem_unseen.1 ((inquiry.answers.made_isPrefix [] _).subset isRead)).1
      rw [loads_of_no_agent noAgent, List.map_map] at isLoaded
      rcases List.mem_map.1 isLoaded with ⟨⟨governing, group⟩, entryMem, rfl⟩
      rcases (gathered_of_gather gathering).1.mem_toList.1 entryMem with ⟨rfl, notEmpty⟩
      rcases List.exists_mem_of_ne_nil _ notEmpty with ⟨target, targetMem⟩
      exact ⟨target, mem_governedBy.1 targetMem⟩

variable {answers others : Answers} {layout : Layout} {checker : Checker}
  {credentials : Credentials}

theorem permissions_of_no_agent (noAgent : credentials.agent = none) (rules : Graph) :
    permissions ⟨others, layout, checker, credentials⟩ rules =
      permissions ⟨answers, layout, checker, credentials⟩ rules := by
  have sameJudgement (rule : Term) :
      checker.accepts others rules rule {} = checker.accepts answers rules rule {} :=
    Checker.accepts_of_no_agent rfl others checker
  simp [permissions, permission, sameJudgement, Credentials.isAuthenticated_of_no_agent noAgent]

theorem gather_congr {targets : List Identifier} (governed : Governed)
    (sameWay : ∀ target ∈ targets, located ⟨others, layout, checker, credentials⟩ target =
      located ⟨answers, layout, checker, credentials⟩ target) :
    gather ⟨others, layout, checker, credentials⟩ governed targets =
      gather ⟨answers, layout, checker, credentials⟩ governed targets := by
  induction targets generalizing governed with
  | nil => rfl
  | cons target later inductionHypothesis =>
      rcases List.forall_mem_cons.1 sameWay with ⟨sameHere, onLater⟩
      simp only [gather, sameHere, inductionHypothesis _ onLater]

theorem grantedBy_congr (noAgent : credentials.agent = none) {document : Identifier}
    (sameRead : others.read document = answers.read document) (target : Identifier) :
    grantedBy ⟨others, layout, checker, credentials⟩ document target =
      grantedBy ⟨answers, layout, checker, credentials⟩ document target := by
  have sameContent : others.content document = answers.content document := by
    rw [Answers.content, Answers.content, Answers.description, Answers.description, sameRead]
  have sameRules (graph : Graph) (subject : Identifier) :
      rulesFor ⟨others, layout, checker, credentials⟩ graph subject target =
        rulesFor ⟨answers, layout, checker, credentials⟩ graph subject target := rfl
  rw [grantedBy, grantedBy, granted, granted, sameRules, sameContent,
    permissions_of_no_agent noAgent]

theorem findings_congr (noAgent : credentials.agent = none)
    {entries : List (Identifier × List Identifier)} (found : PermissionMap)
    (sameRead : ∀ entry ∈ entries, others.read entry.1 = answers.read entry.1) :
    findings ⟨others, layout, checker, credentials⟩ found entries =
      findings ⟨answers, layout, checker, credentials⟩ found entries := by
  induction entries generalizing found with
  | nil => rw [findings, findings, List.foldl_nil, List.foldl_nil]
  | cons entry later inductionHypothesis =>
      rcases List.forall_mem_cons.1 sameRead with ⟨sameHere, onLater⟩
      rw [findings, findings, List.foldl_cons, List.foldl_cons]
      simp only [grantedBy_congr noAgent sameHere]
      exact inductionHypothesis _ onLater

theorem loading_congr {α : Type} (value : α) (loaded : List Identifier)
    {loads : List (Identifier × Absence)}
    (sameRead : ∀ load ∈ loads, others.read load.1 = answers.read load.1) :
    others.loading value loaded loads = answers.loading value loaded loads := by
  induction loads generalizing loaded with
  | nil => rfl
  | cons load later inductionHypothesis =>
      rcases List.forall_mem_cons.1 sameRead with ⟨sameHere, onLater⟩
      have sameSettled : others.settled loaded load.2 load.1 =
          answers.settled loaded load.2 load.1 := by
        rw [Answers.settled, Answers.settled, Answers.description, Answers.description, sameHere]
      rw [Answers.loading, Answers.loading, sameSettled]
      simp only [inductionHypothesis _ onLater]

/-- Without an agent a request is answered by its governing documents, whatever others say. -/
theorem resolve_congr (noAgent : credentials.agent = none) {targets : List Identifier}
    (sameWay : ∀ target ∈ targets, located ⟨others, layout, checker, credentials⟩ target =
      located ⟨answers, layout, checker, credentials⟩ target)
    (sameRead : ∀ target ∈ targets, ∀ document,
      located ⟨answers, layout, checker, credentials⟩ target = .ok document →
        others.read document = answers.read document) :
    resolve ⟨others, layout, checker, credentials⟩ targets =
      resolve ⟨answers, layout, checker, credentials⟩ targets := by
  rw [resolve, resolve, gather_congr ∅ sameWay]
  cases gathering : gather ⟨answers, layout, checker, credentials⟩ ∅ targets with
  | error error =>
      show (Except.error error : Except AccessError PermissionMap) = .error error
      rfl
  | ok governed =>
      have onEntries : ∀ entry ∈ governed.toList, others.read entry.1 = answers.read entry.1 := by
        rintro ⟨document, group⟩ entryMem
        rcases (gathered_of_gather gathering).1.mem_toList.1 entryMem with ⟨rfl, notEmpty⟩
        rcases List.exists_mem_of_ne_nil _ notEmpty with ⟨target, targetMem⟩
        rcases mem_governedBy.1 targetMem with ⟨targetMem, isLocated⟩
        exact sameRead target targetMem document isLocated
      show others.loading _ [] _ = answers.loading _ [] _
      rw [loads_of_no_agent noAgent, loads_of_no_agent noAgent, findings_congr noAgent ∅ onEntries]
      refine loading_congr _ [] fun load loadMem => ?_
      rcases List.mem_map.1 loadMem with ⟨entry, entryMem, rfl⟩
      exact onEntries entry entryMem

end WithoutAgent

/-- What everyone is granted does not depend on who asks. -/
theorem exists_everyone {answers : Answers} {layout : Layout} {checker : Checker}
    (document target : Identifier) : ∃ permission, ∀ credentials,
      (grantedBy ⟨answers, layout, checker, credentials⟩ document target).get? .everyone =
        some permission := by
  have whenNobodyAsks : ∃ permission,
      (grantedBy ⟨answers, layout, checker, {}⟩ document target).get? .everyone =
        some permission := by
    rw [grantedBy, get?_granted]
    exact ⟨_, rfl⟩
  rcases whenNobodyAsks with ⟨permission, isPermitted⟩
  refine ⟨permission, fun credentials => ?_⟩
  rw [← isPermitted, grantedBy, grantedBy, get?_granted, get?_granted]
  rfl

end Inquiry

/-- What requests by any credentials come to, and the accesses that are made for them. -/
structure CountsAgent (answers : Answers) (layout : Layout) (checker : Checker)
    (requested : AccessMap) (outcome : Credentials → Except AccessError PermissionMap)
    (accesses : Credentials → List Access) : Prop where
  /-- Nothing but the agent counts, for what is asked and for what is answered. -/
  sameAgent : ∀ first second, first.agent = second.agent →
    outcome first = outcome second ∧ accesses first = accesses second
  /-- Everyone is permitted the same, whoever asks. -/
  samePublic : ∀ first second found other, outcome first = .ok found → outcome second = .ok other →
    ∀ target ∈ requested.keys, ∃ here there permission, found.get? target = some here ∧
      other.get? target = some there ∧ here.get? .everyone = some permission ∧
      there.get? .everyone = some permission
  /-- An agent holds on every target what everyone holds there. -/
  agentHoldsPublic : ∀ credentials found, credentials.isAuthenticated = true →
    outcome credentials = .ok found → ∀ target ∈ requested.keys,
      ∃ permissions everyone agent, found.get? target = some permissions ∧
        permissions.get? .everyone = some everyone ∧ permissions.get? .agent = some agent ∧
        ∀ mode, everyone.allows mode = true → agent.allows mode = true
  /-- Without an agent only documents that govern a target are read. -/
  readsGoverning : ∀ credentials, credentials.agent = none →
    ∀ document, .read document ∈ accesses credentials → ∃ target ∈ requested.keys,
      answers.located layout.naming (layout.lineage target) = .ok document
  /-- And the outcome is that of every other reader with the same governing documents. -/
  sameGoverning : ∀ {τ : Type} {other : Reader τ} {others : Answers} {there : τ},
    other.Steady others there →
    (∀ target ∈ requested.keys, others.located layout.naming (layout.lineage target) =
      answers.located layout.naming (layout.lineage target)) →
    (∀ target ∈ requested.keys, ∀ document,
      answers.located layout.naming (layout.lineage target) = .ok document →
        others.read document = answers.read document) →
    ∀ credentials, credentials.agent = none →
      (resolver layout other checker credentials requested there).1 = outcome credentials

/-- Requests to a steady reader that differ in their credentials. -/
theorem resolver_counts_agent {answers : Answers} (steady : reader.Steady answers state)
    (layout : Layout) (checker : Checker) (requested : AccessMap) :
    CountsAgent answers layout checker requested
      (fun credentials =>
        (resolver layout reader.logged checker credentials requested ([], state)).1)
      (fun credentials =>
        (resolver layout reader.logged checker credentials requested ([], state)).2.1) := by
  have outcome (credentials : Credentials) :
      (resolver layout reader.logged checker credentials requested ([], state)).1 =
        Inquiry.resolve ⟨answers, layout, checker, credentials⟩ requested.keys.toList :=
    run_resolver ⟨answers, layout, checker, credentials⟩ (steady.logged []) requested
  have accesses (credentials : Credentials) :
      (resolver layout reader.logged checker credentials requested ([], state)).2.1 =
        Inquiry.accesses ⟨answers, layout, checker, credentials⟩ requested.keys.toList := by
    rw [after_resolver ⟨answers, layout, checker, credentials⟩ (steady.logged []),
      Reader.after_logged, List.nil_append]
  constructor
  case sameAgent =>
    intro first second same
    simp only [resolver_congr same layout, and_self]
  case samePublic =>
    intro first second found other answered answeredToo target isRequested
    rw [outcome] at answered answeredToo
    rcases get?_of_resolve answered isRequested with ⟨document, _, isLocated, _, isFound⟩
    rcases get?_of_resolve answeredToo isRequested with ⟨_, _, isLocatedToo, _, isFoundToo⟩
    cases isLocated.symm.trans isLocatedToo
    rcases Inquiry.exists_everyone document target with ⟨permission, isPermitted⟩
    exact ⟨_, _, permission, isFound, isFoundToo, isPermitted first, isPermitted second⟩
  case agentHoldsPublic =>
    intro credentials found authenticated answered target isRequested
    rw [outcome] at answered
    rcases get?_of_resolve answered isRequested with ⟨document, _, _, _, isFound⟩
    rcases Inquiry.grantedBy_of_authenticated ⟨answers, layout, checker, credentials⟩ authenticated
      document target with ⟨everyone, agent, holds⟩
    exact ⟨_, everyone, agent, isFound, holds⟩
  case readsGoverning =>
    intro credentials noAgent document isAccess
    rw [accesses, Inquiry.accesses] at isAccess
    rcases List.mem_append.1 isAccess with isProbe | isRead
    · rcases List.mem_map.1 isProbe with ⟨resource, _, impossible⟩
      cases impossible
    · rcases List.mem_map.1 isRead with ⟨_, isRead, same⟩
      cases same
      exact Inquiry.located_of_mem_reads noAgent isRead
  case sameGoverning =>
    intro τ other others there steadyThere sameWay sameRead credentials noAgent
    rw [outcome, run_resolver ⟨others, layout, checker, credentials⟩ steadyThere]
    exact Inquiry.resolve_congr noAgent sameWay sameRead

/-- A root that is only open to a group whose document cannot be read. -/
def staffRoot : Answers :=
  (Answers.ofGraphs (.ofList [(⟨"https://pod/.acl"⟩, .ofList [
    ⟨.iri "#staff", .iri Vocabulary.Rdf.type, .iri Vocabulary.Acl.Authorization⟩,
    ⟨.iri "#staff", .iri Vocabulary.Acl.default, .iri "https://pod/"⟩,
    ⟨.iri "#staff", .iri Vocabulary.Acl.agentGroup, .iri "https://pod/staff#all"⟩,
    ⟨.iri "#staff", .iri Vocabulary.Acl.mode, .iri Vocabulary.Acl.Read⟩])])).failing
      (.ofList [⟨"https://pod/staff"⟩])

def anyFile : AccessMap := .ofList [(⟨"https://pod/a"⟩, ∅)]

/-- Who asserts no agent is answered, and no other identity makes up for one. -/
theorem staffRoot_answers_everyone :
    (∃ found, (resolver openLayout staffRoot.reader .standard
      { client := some "https://app/" } anyFile ()).1 = .ok found) ∧
    .read ⟨"https://pod/staff"⟩ ∉ (resolver openLayout staffRoot.reader.logged .standard
      { client := some "https://app/" } anyFile ([], ())).2.1 := by
  have counts := resolver_counts_agent (Answers.steady_reader staffRoot ()) openLayout .standard
    anyFile
  constructor
  · exact ⟨.ofList [(⟨"https://pod/a"⟩, { everyone := some .none })],
      toOption_eq_some_iff.1 (by decide +kernel)⟩
  · intro isRead
    rcases counts.readsGoverning _ rfl _ isRead with ⟨target, isRequested, isLocated⟩
    have governs : ∀ target ∈ anyFile.keys, (staffRoot.located openLayout.naming
        (openLayout.lineage target)).toOption ≠ some ⟨"https://pod/staff"⟩ := by
      decide +kernel
    exact governs target isRequested (toOption_eq_some_iff.2 isLocated)

end WebAccess

end LinkedAccess
