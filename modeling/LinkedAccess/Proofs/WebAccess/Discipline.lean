import LinkedAccess.Proofs.WebAccess.Accesses
import LinkedAccess.Proofs.WebAccess.Asking
import LinkedAccess.Proofs.WebAccess.Meaning

/-!
# The discipline of accesses

What a request may ask of its reader, in which order, and when it stops. Nothing is supposed about
the reader: it may answer differently each time. But it is never asked the same thing twice, and so
`Asks.exists_record` puts the answers that it gave in the place of answers that do not change. All
that is said here is therefore about the record of one call, in which every exchange is an access
with the answer it was given.
-/

namespace LinkedAccess

open Vocabulary

namespace WebAccess

/-- By a record, some resources on the way up from a target have no document, and the next has. -/
structure Locating (layout : Layout) (record : List Exchange) (target : Identifier)
    (passed : List Identifier) (resource : Identifier) : Prop where
  onWay : passed ++ [resource] <+: (layout.lineage target).chain
  missing : ∀ other ∈ passed, ∃ answer,
    ⟨.probe (layout.naming.document other), answer⟩ ∈ record ∧
      (answer = .ok false ∨ ∃ cause, answer = .error cause ∧ cause.isNotFound = true)
  found : ⟨.probe (layout.naming.document resource), .ok true⟩ ∈ record

/-- The answers after which a request goes on. To be told that a document is absent is one of them,
unless the document is read because it is to govern. -/
inductive Tolerated (inquiry : Inquiry) (targets : List Identifier) : Exchange → Prop where
  | presence (document : Identifier) (found : Bool) :
      Tolerated inquiry targets ⟨.probe document, .ok found⟩
  | absence (document : Identifier) (cause : StorageError) (notFound : cause.isNotFound = true) :
      Tolerated inquiry targets ⟨.probe document, .error cause⟩
  | graph (document : Identifier) (graph : Graph) :
      Tolerated inquiry targets ⟨.read document, .ok graph⟩
  | memberless (document : Identifier) (cause : StorageError)
      (notFound : cause.isNotFound = true) (isForGroup : IsForGroup inquiry targets document) :
      Tolerated inquiry targets ⟨.read document, .error cause⟩

/-- A rule that counts in a scope of a document names a group, and an agent in no other way. -/
structure NamesByGroup (document : Graph) (scope : Scope) (subject : Identifier) (rule : Term)
    (webId group : String) : Prop where
  isAbout : ⟨rule, scope.predicate, .iri subject.path⟩ ∈ document
  typed : ⟨rule, .iri Rdf.type, .iri Acl.Authorization⟩ ∈ document
  names : ⟨rule, .iri Acl.agentGroup, .iri group⟩ ∈ document
  notAgent : ⟨rule, .iri Acl.agent, .iri webId⟩ ∉ document
  notEveryone : ⟨rule, .iri Acl.agentClass, .iri Foaf.Agent⟩ ∉ document
  notAuthenticated : ⟨rule, .iri Acl.agentClass, .iri Acl.AuthenticatedAgent⟩ ∉ document

/-- What the record of a request looks like, and what it tells about an outcome. -/
structure Disciplined (layout : Layout) (credentials : Credentials) (requested : AccessMap)
    (record : List Exchange) (outcome : Except AccessError PermissionMap) : Prop where
  /-- Nothing is asked twice, and nothing is read before the last question about presence. -/
  ordered : ∃ probed read : List Identifier,
    record.map (·.access) = probed.map .probe ++ read.map .read ∧ probed.Nodup ∧ read.Nodup
  /-- If some target is not located, nothing is read. -/
  unread : ∀ target ∈ requested.keys,
    (¬∃ passed resource, Locating layout record target passed resource) →
      ∀ document, .read document ∉ record.map (·.access)
  /-- An error that is not tolerated is the last answer. -/
  ends : ∀ exchange ∈ record,
    ¬Tolerated ⟨.ofRecord record, layout, .standard, credentials⟩ requested.keys.toList exchange →
      record.getLast? = some exchange
  /-- A request is answered if all its targets are located and all answers are tolerated. -/
  answered : (∃ found, outcome = .ok found) ↔
    (∀ target ∈ requested.keys, ∃ passed resource,
      Locating layout record target passed resource) ∧
    ∀ exchange ∈ record,
      Tolerated ⟨.ofRecord record, layout, .standard, credentials⟩ requested.keys.toList exchange
  /-- With a success just the ways to the governing documents were asked about. -/
  probed : ∀ found, outcome = .ok found → ∀ document,
    .probe document ∈ record.map (·.access) ↔ ∃ target ∈ requested.keys, ∃ passed resource,
      Locating layout record target passed resource ∧
        ∃ asked ∈ passed ++ [resource], document = layout.naming.document asked
  /-- Every target is then governed by a document that was read once. -/
  governing : ∀ found, outcome = .ok found → ∀ target ∈ requested.keys, ∃ passed resource,
    Locating layout record target passed resource ∧
      (record.map (·.access)).count (.read (layout.naming.document resource)) = 1
  /-- All else that was read describes a group, for the sake of a rule of a governing document. -/
  read : ∀ found, outcome = .ok found → ∀ document, .read document ∈ record.map (·.access) →
    ∃ target ∈ requested.keys, ∃ passed resource,
      Locating layout record target passed resource ∧
        (document = layout.naming.document resource ∨
          ∃ graph rule webId group, ⟨.read (layout.naming.document resource), .ok graph⟩ ∈ record ∧
            credentials.agent = some webId ∧
            NamesByGroup graph (scopeOf layout.naming resource target) resource rule webId group ∧
            document = Checker.groupDocument group)

variable {inquiry : Inquiry} {targets : List Identifier}

section Asked

theorem mem_accesses_probe {document : Identifier} :
    .probe document ∈ inquiry.accesses targets ↔
      ∃ resource ∈ inquiry.sought [] targets,
        inquiry.layout.naming.document resource = document := by
  simp [Inquiry.accesses, AuxiliaryNaming.probes]

theorem mem_accesses_read {document : Identifier} :
    .read document ∈ inquiry.accesses targets ↔ document ∈ inquiry.reads targets := by
  simp [Inquiry.accesses, AuxiliaryNaming.probes]

theorem exists_order (inquiry : Inquiry) (targets : List Identifier) :
    ∃ probed read : List Identifier,
      inquiry.accesses targets = probed.map .probe ++ read.map .read ∧ probed.Nodup ∧
        read.Nodup := by
  refine ⟨(inquiry.sought [] targets).map inquiry.layout.naming.document, inquiry.reads targets,
    ?_, ?_, nodup_reads targets⟩
  · rw [List.map_map]
    rfl
  · exact List.Pairwise.map _
      (fun _ _ differ same => differ (AuxiliaryNaming.document_injective same))
      (nodup_sought [] targets)

theorem nodup_accesses (inquiry : Inquiry) (targets : List Identifier) :
    (inquiry.accesses targets).Nodup := by
  rcases exists_order inquiry targets with ⟨probed, read, accessesEq, probedOnce, readOnce⟩
  rw [accessesEq, List.nodup_append]
  refine ⟨?_, ?_, ?_⟩
  · exact List.Pairwise.map _ (fun _ _ differ same => differ (Access.probe.inj same)) probedOnce
  · exact List.Pairwise.map _ (fun _ _ differ same => differ (Access.read.inj same)) readOnce
  · simp

theorem mem_sought_of_located
    (allLocated : ∀ target ∈ targets, ∃ document, inquiry.located target = .ok document)
    {resource : Identifier} :
    resource ∈ inquiry.sought [] targets ↔
      ∃ target ∈ targets, resource ∈ inquiry.approach target := by
  rw [sought_of_located allLocated, mem_unseen, List.mem_flatMap]
  simp

theorem located_of_resolve {found : PermissionMap}
    (resolved : inquiry.resolve targets = .ok found) :
    ∀ target ∈ targets, ∃ document, inquiry.located target = .ok document := by
  rcases bind_eq_ok_iff.1 resolved with ⟨governed, gathering, _⟩
  exact (gathered_of_gather gathering).2

theorem reads_of_error {target : Identifier} {error : AccessError} (targetMem : target ∈ targets)
    (failed : inquiry.located target = .error error) : inquiry.reads targets = [] := by
  rw [List.eq_nil_iff_forall_not_mem]
  intro document isRead
  rcases located_of_mem_reads isRead target targetMem with ⟨governing, isLocated⟩
  rw [failed] at isLocated
  cases isLocated

theorem getLast?_accesses_of_probe {resource : Identifier} {error : AccessError}
    (isSought : resource ∈ inquiry.sought [] targets)
    (failed : inquiry.answers.presence (inquiry.layout.naming.document resource) = .error error) :
    (inquiry.accesses targets).getLast? =
      some (.probe (inquiry.layout.naming.document resource)) := by
  rcases getLast?_sought isSought failed with ⟨isLast, target, targetMem, cause, fails⟩
  rw [Inquiry.accesses, reads_of_error targetMem fails, List.map_nil, List.append_nil,
    AuxiliaryNaming.probes, List.getLast?_map, isLast]
  rfl

theorem getLast?_accesses_of_read {document : Identifier} {cause : StorageError}
    (isRead : document ∈ inquiry.reads targets)
    (failed : inquiry.answers.read document = .error cause)
    (matters : cause.isNotFound = true → ¬IsForGroup inquiry targets document) :
    (inquiry.accesses targets).getLast? = some (.read document) := by
  rw [Inquiry.accesses, List.getLast?_append, List.getLast?_map,
    getLast?_reads isRead failed matters]
  rfl

/-- What the standard checkers ask for are documents of groups that a rule of the document names. -/
theorem of_mem_consultedFor (isStandard : inquiry.checker = .standard)
    {resource target consulted : Identifier}
    (isConsulted :
      consulted ∈ inquiry.consultedFor (inquiry.layout.naming.document resource) target) :
    ∃ rule webId group, inquiry.credentials.agent = some webId ∧
      NamesByGroup (inquiry.answers.content (inquiry.layout.naming.document resource))
        (scopeOf inquiry.layout.naming resource target) resource rule webId group ∧
      consulted = Checker.groupDocument group := by
  simp only [Inquiry.consultedFor, Inquiry.consulted, Inquiry.rulesFor, List.mem_flatMap,
    mem_authorizations, isStandard, AuxiliaryNaming.governed_document] at isConsulted
  rcases isConsulted with ⟨⟨group, judged⟩, isJudgedBy, rule, typed, isConsulted⟩
  rcases Checker.of_mem_consulted_standard isConsulted with
    ⟨webId, named, asserts, notAgent, notEveryone, notAuthenticated, names, documentEq⟩
  have isAsserted := Credentials.eq_of_mem_groups isJudgedBy asserts
  rcases mem_rulesOf.1 typed with ⟨typed, isAbout⟩
  have notNamed {statement : Statement} (isOurs : statement.subject = rule)
      (unnamed : statement ∉ rulesOf _ _ _) : statement ∉ _ :=
    fun isSaid => unnamed (mem_rulesOf.2 ⟨isSaid, isOurs ▸ isAbout⟩)
  exact ⟨rule, webId, named, isAsserted ▸ asserts,
    ⟨isAbout, typed, (mem_rulesOf.1 names).1, notNamed rfl notAgent, notNamed rfl notEveryone,
      notNamed rfl notAuthenticated⟩, documentEq⟩

end Asked

section Recorded

variable {record : List Exchange}

/-- A record of the accesses of a request, with the answers that they were given. -/
structure IsRecord (inquiry : Inquiry) (targets : List Identifier) (record : List Exchange) :
    Prop where
  accesses_eq : record.map (·.access) = inquiry.accesses targets
  agree : ∀ exchange ∈ record, exchange.Agrees inquiry.answers

namespace IsRecord

theorem mem_of_probe (isRecord : IsRecord inquiry targets record) {resource : Identifier}
    (isSought : resource ∈ inquiry.sought [] targets) :
    ⟨.probe (inquiry.layout.naming.document resource),
      inquiry.answers.probe (inquiry.layout.naming.document resource)⟩ ∈ record := by
  refine Exchange.Agrees.mem_record rfl isRecord.agree ?_
  rw [isRecord.accesses_eq]
  exact mem_accesses_probe.2 ⟨resource, isSought, rfl⟩

theorem mem_of_read (isRecord : IsRecord inquiry targets record) {document : Identifier}
    (isRead : document ∈ inquiry.reads targets) :
    ⟨.read document, inquiry.answers.read document⟩ ∈ record := by
  refine Exchange.Agrees.mem_record rfl isRecord.agree ?_
  rw [isRecord.accesses_eq]
  exact mem_accesses_read.2 isRead

/-- Where all targets are located the record tells how. -/
theorem locating (isRecord : IsRecord inquiry targets record)
    (allLocated : ∀ target ∈ targets, ∃ document, inquiry.located target = .ok document)
    {target document : Identifier} (targetMem : target ∈ targets)
    (isLocated : inquiry.located target = .ok document) :
    ∃ passed resource, Locating inquiry.layout record target passed resource ∧
      inquiry.approach target = passed ++ [resource] ∧
      document = inquiry.layout.naming.document resource := by
  rcases inquiry.answers.exists_walks inquiry.layout.naming (inquiry.layout.lineage target)
    with ⟨passed, resource, walks⟩
  rcases walks.of_located isLocated with ⟨present, documentEq⟩
  have isAsked : ∀ asked ∈ passed ++ [resource],
      ⟨.probe (inquiry.layout.naming.document asked),
        inquiry.answers.probe (inquiry.layout.naming.document asked)⟩ ∈ record := by
    intro asked askedMem
    refine isRecord.mem_of_probe ((mem_sought_of_located allLocated).2 ⟨target, targetMem, ?_⟩)
    rw [Inquiry.approach, walks.approach_eq]
    exact askedMem
  refine ⟨passed, resource, ⟨walks.isPrefix, ?_, ?_⟩, walks.approach_eq, documentEq⟩
  · intro other otherMem
    exact ⟨_, isAsked other (List.mem_append_left _ otherMem),
      Answers.probe_of_missing (walks.missing other otherMem)⟩
  · rw [← Answers.probe_of_present present]
    exact isAsked resource (List.mem_append_right _ List.mem_cons_self)

theorem ends (isRecord : IsRecord inquiry targets record) {exchange : Exchange}
    (exchangeMem : exchange ∈ record) (matters : ¬Tolerated inquiry targets exchange) :
    record.getLast? = some exchange := by
  have agrees := isRecord.agree exchange exchangeMem
  have isAsked : exchange.access ∈ record.map (·.access) := List.mem_map_of_mem exchangeMem
  refine agrees.getLast?_record isRecord.agree ?_
  rw [isRecord.accesses_eq] at isAsked ⊢
  rcases exchange with ⟨document | document, answer⟩
  · cases answer with
    | ok found => exact absurd (.presence document found) matters
    | error cause =>
        rcases mem_accesses_probe.1 isAsked with ⟨resource, isSought, rfl⟩
        have notFound : cause.isNotFound = false :=
          Bool.not_eq_true _ ▸ fun notFound => matters (.absence _ cause notFound)
        exact getLast?_accesses_of_probe isSought (Answers.presence_of_error agrees notFound)
  · cases answer with
    | ok graph => exact absurd (.graph document graph) matters
    | error cause =>
        exact getLast?_accesses_of_read (mem_accesses_read.1 isAsked) agrees
          fun notFound isForGroup => matters (.memberless document cause notFound isForGroup)

/-- Of a request that is answered the record tells where each target was located. -/
theorem locating_of_resolve (isRecord : IsRecord inquiry targets record) {found : PermissionMap}
    (resolved : inquiry.resolve targets = .ok found) {target : Identifier}
    (targetMem : target ∈ targets) :
    ∃ passed resource, Locating inquiry.layout record target passed resource ∧
      inquiry.approach target = passed ++ [resource] ∧
      inquiry.located target = .ok (inquiry.layout.naming.document resource) := by
  have allLocated := located_of_resolve resolved
  rcases allLocated target targetMem with ⟨document, isLocated⟩
  rcases isRecord.locating allLocated targetMem isLocated with
    ⟨passed, resource, locating, approachEq, rfl⟩
  exact ⟨passed, resource, locating, approachEq, isLocated⟩

theorem tolerated_of_resolve (isRecord : IsRecord inquiry targets record) {found : PermissionMap}
    (resolved : inquiry.resolve targets = .ok found) {exchange : Exchange}
    (exchangeMem : exchange ∈ record) : Tolerated inquiry targets exchange := by
  have agrees := isRecord.agree exchange exchangeMem
  have isAsked : exchange.access ∈ record.map (·.access) := List.mem_map_of_mem exchangeMem
  rw [isRecord.accesses_eq] at isAsked
  rcases exchange with ⟨document | document, answer⟩
  · cases answer with
    | ok found => exact .presence document found
    | error cause =>
        refine .absence document cause ?_
        rw [← Bool.not_eq_false]
        intro matters
        rcases mem_accesses_probe.1 isAsked with ⟨resource, isSought, rfl⟩
        rcases getLast?_sought isSought (Answers.presence_of_error agrees matters) with
          ⟨_, target, targetMem, error, fails⟩
        rcases located_of_resolve resolved target targetMem with ⟨governing, isLocated⟩
        rw [fails] at isLocated
        cases isLocated
  · cases answer with
    | ok graph => exact .graph document graph
    | error cause =>
        rcases of_resolve_of_failed resolved (mem_accesses_read.1 isAsked) agrees with
          ⟨notFound, isForGroup⟩
        exact .memberless document cause notFound isForGroup

theorem located_of_locating (isRecord : IsRecord inquiry targets record)
    {target resource : Identifier} {passed : List Identifier}
    (locating : Locating inquiry.layout record target passed resource) :
    inquiry.located target = .ok (inquiry.layout.naming.document resource) := by
  refine Answers.located_of_chain locating.onWay ?_ ?_
  · intro other otherMem
    rcases locating.missing other otherMem with ⟨answer, exchangeMem, saysMissing⟩
    have agrees : inquiry.answers.probe (inquiry.layout.naming.document other) = answer :=
      isRecord.agree _ exchangeMem
    rw [← agrees] at saysMissing
    exact Answers.presence_of_missing saysMissing
  · have agrees : inquiry.answers.probe (inquiry.layout.naming.document resource) = .ok true :=
      isRecord.agree _ locating.found
    rw [Answers.presence, agrees]

theorem answered (isRecord : IsRecord inquiry targets record) :
    (∃ found, inquiry.resolve targets = .ok found) ↔
      (∀ target ∈ targets, ∃ passed resource,
        Locating inquiry.layout record target passed resource) ∧
      ∀ exchange ∈ record, Tolerated inquiry targets exchange := by
  constructor
  · rintro ⟨found, resolved⟩
    refine ⟨fun target targetMem => ?_,
      fun exchange exchangeMem => isRecord.tolerated_of_resolve resolved exchangeMem⟩
    rcases isRecord.locating_of_resolve resolved targetMem with ⟨passed, resource, locating, _⟩
    exact ⟨passed, resource, locating⟩
  · rintro ⟨allLocating, allTolerated⟩
    refine exists_resolve ?_ ?_
    · intro target targetMem
      rcases allLocating target targetMem with ⟨passed, resource, locating⟩
      exact ⟨_, isRecord.located_of_locating locating⟩
    · intro document isRead cause failed
      have tolerated := allTolerated _ (isRecord.mem_of_read isRead)
      rw [failed] at tolerated
      cases tolerated with
      | memberless _ _ notFound isForGroup => exact ⟨notFound, isForGroup⟩

theorem probed (isRecord : IsRecord inquiry targets record) {found : PermissionMap}
    (resolved : inquiry.resolve targets = .ok found) {document : Identifier} :
    .probe document ∈ record.map (·.access) ↔ ∃ target ∈ targets, ∃ passed resource,
      Locating inquiry.layout record target passed resource ∧
        ∃ asked ∈ passed ++ [resource], document = inquiry.layout.naming.document asked := by
  constructor
  · intro isAsked
    rw [isRecord.accesses_eq] at isAsked
    rcases mem_accesses_probe.1 isAsked with ⟨asked, isSought, rfl⟩
    rcases (mem_sought_of_located (located_of_resolve resolved)).1 isSought with
      ⟨target, targetMem, isMet⟩
    rcases isRecord.locating_of_resolve resolved targetMem with
      ⟨passed, resource, locating, approachEq, _⟩
    rw [approachEq] at isMet
    exact ⟨target, targetMem, passed, resource, locating, asked, isMet, rfl⟩
  · rintro ⟨target, _, passed, resource, locating, asked, isMet, rfl⟩
    rcases List.mem_append.1 isMet with isPassed | isLast
    · rcases locating.missing asked isPassed with ⟨answer, exchangeMem, _⟩
      exact List.mem_map_of_mem exchangeMem
    · rw [List.mem_singleton.1 isLast]
      exact List.mem_map_of_mem locating.found

theorem governing (isRecord : IsRecord inquiry targets record) {found : PermissionMap}
    (resolved : inquiry.resolve targets = .ok found) {target : Identifier}
    (targetMem : target ∈ targets) :
    ∃ passed resource, Locating inquiry.layout record target passed resource ∧
      (record.map (·.access)).count (.read (inquiry.layout.naming.document resource)) = 1 := by
  rcases isRecord.locating_of_resolve resolved targetMem with
    ⟨passed, resource, locating, _, isLocated⟩
  refine ⟨passed, resource, locating, ?_⟩
  rw [isRecord.accesses_eq, (nodup_accesses inquiry targets).count]
  refine if_pos (mem_accesses_read.2 ((mem_reads_of_resolve resolved).2 ?_))
  exact ⟨target, targetMem, _, isLocated, List.mem_cons_self⟩

theorem read (isRecord : IsRecord inquiry targets record) (isStandard : inquiry.checker = .standard)
    {found : PermissionMap} (resolved : inquiry.resolve targets = .ok found)
    {document : Identifier} (isAsked : .read document ∈ record.map (·.access)) :
    ∃ target ∈ targets, ∃ passed resource,
      Locating inquiry.layout record target passed resource ∧
        (document = inquiry.layout.naming.document resource ∨
          ∃ graph rule webId group,
            ⟨.read (inquiry.layout.naming.document resource), .ok graph⟩ ∈ record ∧
            inquiry.credentials.agent = some webId ∧
            NamesByGroup graph (scopeOf inquiry.layout.naming resource target) resource rule webId
              group ∧
            document = Checker.groupDocument group) := by
  rw [isRecord.accesses_eq, mem_accesses_read, mem_reads_of_resolve resolved] at isAsked
  rcases isAsked with ⟨target, targetMem, governing, isLocated, isNeeded⟩
  rcases isRecord.locating_of_resolve resolved targetMem with
    ⟨passed, resource, locating, _, isLocatedHere⟩
  rw [isLocated, Except.ok.injEq] at isLocatedHere
  subst isLocatedHere
  refine ⟨target, targetMem, passed, resource, locating, ?_⟩
  rcases List.mem_cons.1 isNeeded with isGoverning | isConsulted
  · exact Or.inl isGoverning
  · rcases of_mem_consultedFor isStandard isConsulted with
      ⟨rule, webId, group, asserts, names, documentEq⟩
    right
    refine ⟨_, rule, webId, group, ?_, asserts, names, documentEq⟩
    rw [← Answers.read_of_mem_content names.typed]
    refine isRecord.mem_of_read ((mem_reads_of_resolve resolved).2 ?_)
    exact ⟨target, targetMem, _, isLocated, List.mem_cons_self⟩

end IsRecord

end Recorded

theorem run_resolver_logged (answers : Answers) (layout : Layout) (checker : Checker)
    (credentials : Credentials) (requested : AccessMap) :
    resolver layout answers.reader.logged checker credentials requested ([], ()) =
      (Inquiry.resolve ⟨answers, layout, checker, credentials⟩ requested.keys.toList,
        Inquiry.accesses ⟨answers, layout, checker, credentials⟩ requested.keys.toList, ()) := by
  have steady := (answers.steady_reader ()).logged []
  refine Prod.ext (run_resolver ⟨answers, layout, checker, credentials⟩ steady requested) ?_
  rw [after_resolver ⟨answers, layout, checker, credentials⟩ steady requested, Reader.after_logged]
  rfl

/-- Whatever a reader answers, the resolver works off the request that its answers make. -/
theorem exists_isRecord {σ : Type} (reader : Reader σ) (state : σ) (layout : Layout)
    (checker : Checker) (credentials : Credentials) (requested : AccessMap) :
    ∃ record, resolver layout reader.recorded checker credentials requested ([], state) =
        ((resolver layout reader checker credentials requested state).1, record,
          (resolver layout reader checker credentials requested state).2) ∧
      IsRecord ⟨.ofRecord record, layout, checker, credentials⟩ requested.keys.toList record ∧
      (resolver layout reader checker credentials requested state).1 =
        Inquiry.resolve ⟨.ofRecord record, layout, checker, credentials⟩
          requested.keys.toList := by
  have asks := isInterview_resolver checker layout credentials requested
  have steadyOnce (answers : Answers) :
      (resolver layout answers.reader.logged checker credentials requested
        (([], ()) : List Access × Unit)).2.1.Nodup := by
    rw [run_resolver_logged]
    exact nodup_accesses _ _
  rcases asks.exists_record steadyOnce reader state with ⟨record, recordedRun, agree, steadyRun⟩
  simp only [run_resolver_logged, Prod.mk.injEq] at steadyRun
  exact ⟨record, recordedRun, ⟨steadyRun.2.1.symm, agree⟩, steadyRun.1.symm⟩

/-- Every call keeps the discipline, whatever its reader answers. -/
theorem resolver_keeps_discipline {σ : Type} (reader : Reader σ) (state : σ) (layout : Layout)
    (credentials : Credentials) (requested : AccessMap) :
    ∃ record, resolver layout reader.recorded .standard credentials requested ([], state) =
        ((resolver layout reader .standard credentials requested state).1, record,
          (resolver layout reader .standard credentials requested state).2) ∧
      Disciplined layout credentials requested record
        (resolver layout reader .standard credentials requested state).1 := by
  rcases exists_isRecord reader state layout .standard credentials requested with
    ⟨record, recordedRun, isRecord, outcomeEq⟩
  refine ⟨record, recordedRun, ?_⟩
  rw [outcomeEq]
  constructor
  case ordered =>
    rw [isRecord.accesses_eq]
    exact exists_order _ _
  case unread =>
    intro target targetMem notLocating document isAsked
    rw [isRecord.accesses_eq, mem_accesses_read] at isAsked
    have allLocated := located_of_mem_reads isAsked
    rcases allLocated target targetMem with ⟨governing, isLocated⟩
    rcases isRecord.locating allLocated targetMem isLocated with ⟨passed, resource, locating, _⟩
    exact notLocating ⟨passed, resource, locating⟩
  case ends =>
    intro exchange exchangeMem matters
    exact isRecord.ends exchangeMem matters
  case answered => exact isRecord.answered
  case probed =>
    intro found resolved document
    exact isRecord.probed resolved
  case governing =>
    intro found resolved target targetMem
    exact isRecord.governing resolved targetMem
  case read =>
    intro found resolved document isAsked
    exact isRecord.read rfl resolved isAsked

/-- Siblings share what is above them, and the document that governs both is read once. -/
example : (resolver openLayout (Answers.ofGraphs openRoot).reader.logged .standard {}
    (.ofList [(⟨"https://pod/a"⟩, ∅), (⟨"https://pod/b"⟩, ∅)]) (([], ()) : List Access × Unit)).2.1 =
      [.probe ⟨"https://pod/a.acl"⟩, .probe ⟨"https://pod/.acl"⟩, .probe ⟨"https://pod/b.acl"⟩,
        .read ⟨"https://pod/.acl"⟩] := by
  decide +kernel

end WebAccess

end LinkedAccess
