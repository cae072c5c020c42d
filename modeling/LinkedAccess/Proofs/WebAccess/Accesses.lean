import LinkedAccess.Proofs.WebAccess.Answered

/-!
# What is asked for a request

The resources that are asked about to locate a target are passed one after the other as long as they
have no document. The last of them has one, and then it governs the target, or the search fails with
it. Several targets are asked about in one sequence without repetitions that ends with the first
target that cannot be located, and only when there is none anything is read. What a document is read
for is settled by who comes to it first: those whom it governs, or the group checker.
-/

namespace LinkedAccess

open Vocabulary

namespace AuxiliaryNaming

theorem document_injective {naming : AuxiliaryNaming} {first second : Identifier}
    (same : naming.document first = naming.document second) : first = second := by
  have sameSubject := congrArg naming.subject same
  rwa [subject_document, subject_document, Except.ok.injEq] at sameSubject

end AuxiliaryNaming

namespace Answers

variable {answers : Answers} {naming : AuxiliaryNaming}

theorem probe_of_present {document : Identifier} (present : answers.presence document = .ok true) :
    answers.probe document = .ok true := by
  have isFound := finds_of_presence present
  unfold finds at isFound
  cases probe : answers.probe document with
  | ok found =>
      rw [probe] at isFound
      exact congrArg Except.ok isFound
  | error cause =>
      rw [probe] at isFound
      cases isFound

theorem probe_of_missing {document : Identifier}
    (missing : answers.presence document = .ok false) :
    answers.probe document = .ok false ∨
      ∃ cause, answers.probe document = .error cause ∧ cause.isNotFound = true := by
  rw [presence] at missing
  cases probe : answers.probe document with
  | ok found =>
      simp only [probe, Except.ok.injEq] at missing
      exact Or.inl (congrArg Except.ok missing)
  | error cause =>
      simp only [probe] at missing
      split at missing
      · rename_i notFound
        exact Or.inr ⟨cause, rfl, notFound⟩
      · cases missing

theorem presence_of_missing {document : Identifier}
    (missing : answers.probe document = .ok false ∨
      ∃ cause, answers.probe document = .error cause ∧ cause.isNotFound = true) :
    answers.presence document = .ok false := by
  rcases missing with missing | ⟨cause, failed, notFound⟩
  · simp [presence, missing]
  · simp [presence, failed, notFound]

theorem presence_of_error {document : Identifier} {cause : StorageError}
    (failed : answers.probe document = .error cause) (matters : cause.isNotFound = false) :
    answers.presence document = .error (.ofRead document cause) := by
  simp [presence, failed, matters]

/-- On the way up from the first resource of a lineage some are passed, and the next is the last. -/
structure Walks (answers : Answers) (naming : AuxiliaryNaming) (lineage : Lineage)
    (passed : List Identifier) (last : Identifier) : Prop where
  approach_eq : answers.approach naming lineage = passed ++ [last]
  missing : ∀ resource ∈ passed, answers.presence (naming.document resource) = .ok false
  outcome : answers.presence (naming.document last) = .ok true ∧
      answers.located naming lineage = .ok (naming.document last) ∨
    answers.presence (naming.document last) ≠ .ok true ∧
      ∃ error, answers.located naming lineage = .error error

/-- A search that fails where it begins. -/
theorem walks_of_error {lineage : Lineage} {error : AccessError}
    (isOnly : answers.approach naming lineage = [lineage.resource])
    (notPresent : answers.presence (naming.document lineage.resource) ≠ .ok true)
    (failed : answers.located naming lineage = .error error) :
    answers.Walks naming lineage [] lineage.resource where
  approach_eq := isOnly
  missing := List.forall_mem_nil _
  outcome := Or.inr ⟨notPresent, error, failed⟩

/-- Unless the first resource has no document, it is the last one. -/
theorem walks_or_missing (lineage : Lineage) :
    answers.Walks naming lineage [] lineage.resource ∨
      answers.presence (naming.document lineage.resource) = .ok false := by
  cases presence : answers.presence (naming.document lineage.resource) with
  | error error =>
      left
      exact walks_of_error (approach_of_error lineage presence) (by simp [presence])
        (located_of_error lineage presence)
  | ok found =>
      cases found with
      | false => exact Or.inr rfl
      | true =>
          left
          exact ⟨approach_of_present lineage presence, List.forall_mem_nil _,
            Or.inl ⟨presence, located_of_present lineage presence⟩⟩

theorem Walks.child {identifier last : Identifier} {parents : Lineage} {passed : List Identifier}
    (walks : answers.Walks naming parents passed last)
    (missing :
      answers.presence (naming.document (Lineage.child identifier parents).resource) = .ok false) :
    answers.Walks naming (.child identifier parents) (identifier :: passed) last where
  approach_eq := by
    rw [approach_child parents missing, walks.approach_eq]
    rfl
  missing := List.forall_mem_cons.2 ⟨missing, walks.missing⟩
  outcome := by
    rw [located_child parents missing]
    exact walks.outcome

theorem exists_walks (answers : Answers) (naming : AuxiliaryNaming) (lineage : Lineage) :
    ∃ passed last, answers.Walks naming lineage passed last := by
  induction lineage with
  | root identifier =>
      rcases answers.walks_or_missing (.root identifier) with walks | missing
      · exact ⟨_, _, walks⟩
      · exact ⟨_, _, walks_of_error (approach_root identifier) (by simp [missing])
          (located_root missing)⟩
  | stray identifier reason =>
      rcases answers.walks_or_missing (.stray identifier reason) with walks | missing
      · exact ⟨_, _, walks⟩
      · exact ⟨_, _, walks_of_error (approach_stray identifier reason) (by simp [missing])
          (located_stray missing)⟩
  | child identifier parents inductionHypothesis =>
      rcases answers.walks_or_missing (.child identifier parents) with walks | missing
      · exact ⟨_, _, walks⟩
      · rcases inductionHypothesis with ⟨passed, last, walks⟩
        exact ⟨_, _, walks.child missing⟩

namespace Walks

variable {lineage : Lineage} {passed : List Identifier} {last : Identifier}

theorem isPrefix (walks : answers.Walks naming lineage passed last) :
    passed ++ [last] <+: lineage.chain := by
  rw [← walks.approach_eq]
  exact approach_isPrefix lineage

theorem of_located (walks : answers.Walks naming lineage passed last) {document : Identifier}
    (isLocated : answers.located naming lineage = .ok document) :
    answers.presence (naming.document last) = .ok true ∧ document = naming.document last := by
  rcases walks.outcome with ⟨present, isLocatedHere⟩ | ⟨_, error, failed⟩
  · rw [isLocated, Except.ok.injEq] at isLocatedHere
    exact ⟨present, isLocatedHere⟩
  · rw [isLocated] at failed
    cases failed

/-- Where asking fails the way ends, and so does the search. -/
theorem of_presence_eq_error (walks : answers.Walks naming lineage passed last)
    {resource : Identifier} (isMet : resource ∈ answers.approach naming lineage)
    {error : AccessError} (failed : answers.presence (naming.document resource) = .error error) :
    resource = last ∧ ∃ cause, answers.located naming lineage = .error cause := by
  rw [walks.approach_eq, List.mem_append, List.mem_singleton] at isMet
  rcases isMet with isPassed | rfl
  · rw [walks.missing resource isPassed] at failed
    cases failed
  · refine ⟨rfl, ?_⟩
    rcases walks.outcome with ⟨present, _⟩ | ⟨_, fails⟩
    · rw [failed] at present
      cases present
    · exact fails

end Walks

/-- What governs is the document of a resource that has one, if those before it have none. -/
theorem located_of_chain {lineage : Lineage} {passed : List Identifier} {resource : Identifier}
    (onWay : passed ++ [resource] <+: lineage.chain)
    (missing : ∀ other ∈ passed, answers.presence (naming.document other) = .ok false)
    (present : answers.presence (naming.document resource) = .ok true) :
    answers.located naming lineage = .ok (naming.document resource) := by
  induction passed generalizing lineage with
  | nil =>
      rcases List.cons_prefix_cons.1 onWay with ⟨rfl, _⟩
      exact located_of_present lineage present
  | cons first later inductionHypothesis =>
      rcases List.forall_mem_cons.1 missing with ⟨missingHere, onLater⟩
      rcases List.cons_prefix_cons.1 onWay with ⟨rfl, onRest⟩
      cases lineage with
      | root identifier => simp [Lineage.ancestors] at onRest
      | stray identifier reason => simp [Lineage.ancestors] at onRest
      | child identifier parents =>
          rw [located_child parents missingHere]
          exact inductionHypothesis onRest onLater

/-- A document that says something was read. -/
theorem read_of_mem_content {document : Identifier} {statement : Statement}
    (isSaid : statement ∈ answers.content document) :
    answers.read document = .ok (answers.content document) := by
  cases read : answers.read document with
  | ok graph => rw [content_of_description (description_of_read read)]
  | error cause =>
      have saysNothing : answers.content document = ∅ := by
        cases notFound : cause.isNotFound with
        | true => exact content_of_description (description_of_notFound read notFound)
        | false =>
            rw [content, description_of_breaks ⟨read, notFound⟩]
            rfl
      rw [saysNothing] at isSaid
      exact absurd isSaid (AscendingSet.not_mem_empty _)

end Answers

namespace Checker

/-- A checker asks for a document if none before it was satisfied. -/
theorem mem_consultedByAny_cons {answers : Answers} {rules : Graph} {rule : Term}
    {credentials : Credentials} {checker : Checker} {later : List Checker}
    {document : Identifier} :
    document ∈ consultedByAny answers rules rule credentials (checker :: later) ↔
      document ∈ consulted answers rules rule credentials checker ∨
        accepts answers rules rule credentials checker = false ∧
          document ∈ consultedByAny answers rules rule credentials later := by
  rw [consultedByAny, List.mem_append]
  cases accepts answers rules rule credentials checker with
  | true => simp
  | false => simp

/-- The standard checkers only look at the groups of a rule that names an agent in no other way. -/
theorem of_mem_consulted_standard {answers : Answers} {rules : Graph} {rule : Term}
    {credentials : Credentials} {document : Identifier}
    (isConsulted : document ∈ standard.consulted answers rules rule credentials) :
    ∃ webId group, credentials.agent = some webId ∧
      ⟨rule, .iri Acl.agent, .iri webId⟩ ∉ rules ∧
      ⟨rule, .iri Acl.agentClass, .iri Foaf.Agent⟩ ∉ rules ∧
      ⟨rule, .iri Acl.agentClass, .iri Acl.AuthenticatedAgent⟩ ∉ rules ∧
      ⟨rule, .iri Acl.agentGroup, .iri group⟩ ∈ rules ∧ document = groupDocument group := by
  simp only [standard, consulted, mem_consultedByAny_cons, accepts, List.not_mem_nil,
    false_or] at isConsulted
  rcases isConsulted with ⟨notAgent, notClass, isConsulted | ⟨_, impossible⟩⟩
  case inr => cases impossible
  cases asserts : credentials.agent with
  | none =>
      rw [asserts] at isConsulted
      cases isConsulted
  | some webId =>
      rw [asserts] at isConsulted
      rcases exists_group_of_mem_groupDocuments isConsulted with ⟨group, groupMem, documentEq⟩
      simp only [namesAgent, namesClass, Credentials.isAuthenticated, asserts, Option.any_some,
        Option.isSome_some, Bool.true_and, ← Bool.not_eq_true, Bool.or_eq_true, not_or,
        Graph.holds_iff] at notAgent notClass
      exact ⟨webId, group, rfl, notAgent, notClass.1, notClass.2, mem_groupsOf.1 groupMem,
        documentEq⟩

end Checker

theorem Credentials.eq_of_mem_groups {credentials judged : Credentials} {group : Group}
    {webId : String} (isJudgedBy : (group, judged) ∈ credentials.groups)
    (asserts : judged.agent = some webId) : judged = credentials := by
  simp only [groups, List.mem_filterMap, Option.map_eq_some_iff, Prod.mk.injEq] at isJudgedBy
  rcases isJudgedBy with ⟨existing, _, found, isJudgedBy, rfl, rfl⟩
  cases existing with
  | everyone =>
      cases isJudgedBy
      cases asserts
  | agent =>
      simp only [forGroup, Option.ite_none_right_eq_some, Option.some.injEq] at isJudgedBy
      exact isJudgedBy.2.symm

namespace WebAccess

variable {inquiry : Inquiry} {targets : List Identifier} {governed : Governed}

section Probes

theorem sought_isPrefix (known : List Identifier) (targets : List Identifier) :
    inquiry.sought known targets <+: unseen known (targets.flatMap inquiry.approach) := by
  induction targets generalizing known with
  | nil => exact List.prefix_refl []
  | cons target later inductionHypothesis =>
      rw [Inquiry.sought, List.flatMap_cons, unseen_append, List.prefix_append_right_inj]
      exact continuing_isPrefix _ (inductionHypothesis _)

theorem sought_of_located {known : List Identifier}
    (allLocated : ∀ target ∈ targets, ∃ document, inquiry.located target = .ok document) :
    inquiry.sought known targets = unseen known (targets.flatMap inquiry.approach) := by
  induction targets generalizing known with
  | nil => rfl
  | cons target later inductionHypothesis =>
      rcases List.forall_mem_cons.1 allLocated with ⟨⟨document, isLocated⟩, onLater⟩
      rw [Inquiry.sought, List.flatMap_cons, unseen_append, isLocated, continuing,
        inductionHypothesis onLater]

theorem nodup_sought (known : List Identifier) (targets : List Identifier) :
    (inquiry.sought known targets).Nodup :=
  (nodup_unseen _).sublist (sought_isPrefix known targets).sublist

/-- Where asking fails, it is the last that is asked, and some target is not located. -/
theorem getLast?_sought {known : List Identifier} {resource : Identifier} {error : AccessError}
    (isSought : resource ∈ inquiry.sought known targets)
    (failed : inquiry.answers.presence (inquiry.layout.naming.document resource) = .error error) :
    (inquiry.sought known targets).getLast? = some resource ∧
      ∃ target ∈ targets, ∃ cause, inquiry.located target = .error cause := by
  induction targets generalizing known with
  | nil => cases isSought
  | cons target later inductionHypothesis =>
      rw [Inquiry.sought] at isSought ⊢
      rcases List.mem_append.1 isSought with isHere | isLater
      · rcases inquiry.answers.exists_walks inquiry.layout.naming (inquiry.layout.lineage target)
          with ⟨passed, last, walks⟩
        rw [mem_unseen] at isHere
        rcases walks.of_presence_eq_error isHere.1 failed with ⟨rfl, cause, fails⟩
        have isFirst : resource ∉ known ++ passed := by
          intro isMet
          rcases List.mem_append.1 isMet with isKnown | isPassed
          · exact isHere.2 isKnown
          · rw [walks.missing resource isPassed] at failed
            cases failed
        rw [show inquiry.located target = _ from fails, Inquiry.approach, walks.approach_eq,
          unseen_append, unseen_cons_of_fresh isFirst List.not_mem_nil, unseen_nil, continuing,
          List.append_nil, List.getLast?_concat]
        exact ⟨rfl, target, List.mem_cons_self, cause, fails⟩
      · cases isLocated : inquiry.located target with
        | error cause =>
            rw [isLocated] at isLater
            cases isLater
        | ok document =>
            rw [isLocated, continuing] at isLater
            rcases inductionHypothesis isLater with ⟨isLast, other, otherMem, fails⟩
            rw [continuing, List.getLast?_append, isLast]
            exact ⟨rfl, other, List.mem_cons_of_mem _ otherMem, fails⟩

end Probes

section Reads

theorem exists_gather_of_mem_reads {document : Identifier}
    (isRead : document ∈ inquiry.reads targets) :
    ∃ governed, inquiry.gather ∅ targets = .ok governed ∧
      document ∈ inquiry.answers.made [] (inquiry.loads governed.toList) := by
  rw [Inquiry.reads] at isRead
  cases gathering : inquiry.gather ∅ targets with
  | error error =>
      rw [gathering] at isRead
      cases isRead
  | ok governed =>
      rw [gathering] at isRead
      exact ⟨governed, rfl, isRead⟩

/-- Nothing is read before all targets are located. -/
theorem located_of_mem_reads {document : Identifier} (isRead : document ∈ inquiry.reads targets) :
    ∀ target ∈ targets, ∃ governing, inquiry.located target = .ok governing := by
  rcases exists_gather_of_mem_reads isRead with ⟨governed, gathering, _⟩
  exact (gathered_of_gather gathering).2

theorem nodup_reads (targets : List Identifier) : (inquiry.reads targets).Nodup := by
  rw [Inquiry.reads]
  split
  · exact (nodup_unseen _).sublist (Answers.made_isPrefix _ _).sublist
  · exact List.nodup_nil

theorem mem_reads_of_resolve {found : PermissionMap}
    (resolved : inquiry.resolve targets = .ok found) {document : Identifier} :
    document ∈ inquiry.reads targets ↔ ∃ target ∈ targets, ∃ governing,
      inquiry.located target = .ok governing ∧ document ∈ inquiry.needs governing target := by
  rcases bind_eq_ok_iff.1 resolved with ⟨governed, gathering, loaded⟩
  rw [Inquiry.reads, gathering]
  simp only
  rw [Answers.made_of_loading loaded, mem_unseen,
    mem_map_loads_of_gathered (gathered_of_gather gathering).1]
  simp

/-- A document governs no target, or the group checker asks for it before its turn comes. -/
def IsForGroup (inquiry : Inquiry) (targets : List Identifier) (document : Identifier) : Prop :=
  (∀ target ∈ targets, inquiry.located target ≠ .ok document) ∨
    ConsultedBefore inquiry targets document

theorem mem_loads_fail {entries : List (Identifier × List Identifier)} {document : Identifier} :
    (document, .fail) ∈ inquiry.loads entries ↔ ∃ group, (document, group) ∈ entries := by
  simp [Inquiry.loads]

theorem Gathered.governs_of_mem_loads (gathered : Gathered inquiry targets governed)
    {document : Identifier} (loadMem : (document, .fail) ∈ inquiry.loads governed.toList) :
    ∃ target ∈ targets, inquiry.located target = .ok document := by
  rcases mem_loads_fail.1 loadMem with ⟨group, entryMem⟩
  rcases gathered.mem_toList.1 entryMem with ⟨rfl, notEmpty⟩
  rcases List.exists_mem_of_ne_nil _ notEmpty with ⟨target, targetMem⟩
  exact ⟨target, mem_governedBy.1 targetMem⟩

/-- Before the turn of a document it is only loaded for the group checker. -/
theorem absence_of_mem_front {front back : List (Identifier × List Identifier)}
    {document : Identifier} {group : List Identifier} {absence : Absence}
    (split : governed.toList = front ++ (document, group) :: back)
    (loadMem : (document, absence) ∈ inquiry.loads front) : absence = .empty := by
  cases absence with
  | empty => rfl
  | fail =>
      rcases mem_loads_fail.1 loadMem with ⟨_, entryMem⟩
      have isEarlier := ((AscendingMap.mem_front_iff split).1 entryMem).2
      simp at isEarlier

/-- The first load of a document is in front if any is there, and else it is its own turn. -/
theorem first_load_of_split {front : List (Identifier × List Identifier)}
    {document : Identifier} {later : List (Identifier × Absence)} {absence : Absence}
    (isFound : (inquiry.loads front ++ (document, .fail) :: later).find? (·.1 = document) =
      some (document, absence)) :
    (document, absence) ∈ inquiry.loads front ∨
      document ∉ (inquiry.loads front).map (·.1) ∧ absence = .fail := by
  rw [List.find?_append] at isFound
  cases inFront : (inquiry.loads front).find? (·.1 = document) with
  | some load =>
      rw [inFront, Option.some_or, Option.some.injEq] at isFound
      subst isFound
      exact Or.inl (List.mem_of_find?_eq_some inFront)
  | none =>
      right
      rw [inFront, Option.none_or, List.find?_cons_of_pos (by simp), Option.some.injEq,
        Prod.mk.injEq] at isFound
      refine ⟨fun isLoaded => ?_, isFound.2.symm⟩
      rcases List.mem_map.1 isLoaded with ⟨load, loadMem, rfl⟩
      simpa using List.find?_eq_none.1 inFront load loadMem

/-- It is the group checker that comes to a document first, or the document is to govern. -/
theorem Gathered.absence_eq_empty_iff (gathered : Gathered inquiry targets governed)
    {before after : List (Identifier × Absence)} {document : Identifier} {absence : Absence}
    (split : inquiry.loads governed.toList = before ++ (document, absence) :: after)
    (isFirst : document ∉ before.map (·.1)) :
    absence = .empty ↔ IsForGroup inquiry targets document := by
  have isFound : (inquiry.loads governed.toList).find? (·.1 = document) =
      some (document, absence) := by
    rw [List.find?_eq_some_iff_append]
    refine ⟨by simp, before, after, split, fun load loadMem => ?_⟩
    simp only [Bool.not_eq_true', decide_eq_false_iff_not]
    rintro rfl
    exact isFirst (List.mem_map_of_mem loadMem)
  by_cases governs : ∃ target ∈ targets, inquiry.located target = .ok document
  · rcases governs with ⟨target, targetMem, isLocated⟩
    rcases List.append_of_mem (gathered.entry_mem targetMem isLocated) with
      ⟨front, back, splitEntries⟩
    have isForGroup_iff : IsForGroup inquiry targets document ↔
        document ∈ (inquiry.loads front).map (·.1) := by
      rw [gathered.mem_loads_iff splitEntries]
      exact or_iff_right fun never => never target targetMem isLocated
    rw [splitEntries, loads_append, loads_cons] at isFound
    rw [isForGroup_iff]
    rcases first_load_of_split isFound with loadMem | ⟨isFresh, rfl⟩
    · exact iff_of_true (absence_of_mem_front splitEntries loadMem) (List.mem_map_of_mem loadMem)
    · exact iff_of_false Absence.noConfusion isFresh
  · have isForGroup : IsForGroup inquiry targets document :=
      Or.inl fun target targetMem isLocated => governs ⟨target, targetMem, isLocated⟩
    refine iff_of_true ?_ isForGroup
    cases absence with
    | empty => rfl
    | fail =>
        exact absurd (gathered.governs_of_mem_loads (List.mem_of_find?_eq_some isFound)) governs

/-- A read that fails is the last one, unless the group checker is told that a document is absent.
-/
theorem getLast?_reads {document : Identifier} {cause : StorageError}
    (isRead : document ∈ inquiry.reads targets)
    (failed : inquiry.answers.read document = .error cause)
    (matters : cause.isNotFound = true → ¬IsForGroup inquiry targets document) :
    (inquiry.reads targets).getLast? = some document := by
  rcases exists_gather_of_mem_reads isRead with ⟨governed, gathering, isMade⟩
  have gathered := (gathered_of_gather gathering).1
  rcases List.append_of_mem isMade with ⟨front, back, reads⟩
  rcases Answers.of_made reads with ⟨before, absence, after, split, isFirst, ends⟩
  rw [List.nil_append] at isFirst
  have isLast : back = [] := by
    apply ends (.ofRead document cause)
    rw [failed, Absence.settle]
    refine if_neg fun isTolerated => ?_
    simp only [Bool.and_eq_true, decide_eq_true_iff] at isTolerated
    exact matters isTolerated.2 ((gathered.absence_eq_empty_iff split isFirst).1 isTolerated.1)
  rw [Inquiry.reads, gathering]
  simp only
  rw [reads, isLast, List.getLast?_concat]

/-- A request that is answered met no other failures than absent documents of groups. -/
theorem of_resolve_of_failed {found : PermissionMap}
    (resolved : inquiry.resolve targets = .ok found) {document : Identifier}
    {cause : StorageError} (isRead : document ∈ inquiry.reads targets)
    (failed : inquiry.answers.read document = .error cause) :
    cause.isNotFound = true ∧ IsForGroup inquiry targets document := by
  have onEach := resolve_eq_ok_iff.1 ⟨found, resolved⟩
  rcases (mem_reads_of_resolve resolved).1 isRead with
    ⟨target, targetMem, governing, isLocated, isNeeded⟩
  rcases onEach target targetMem with ⟨other, isLocatedThere, _, readable⟩
  rw [isLocated, Except.ok.injEq] at isLocatedThere
  subst isLocatedThere
  have notFound : cause.isNotFound = true := by
    rw [← Bool.not_eq_false]
    intro matters
    exact Answers.isReadable_iff.1 (readable document isNeeded) cause ⟨failed, matters⟩
  refine ⟨notFound, ?_⟩
  by_cases governs : ∃ target ∈ targets, inquiry.located target = .ok document
  · rcases governs with ⟨governed, governedMem, isLocatedHere⟩
    rcases onEach governed governedMem with ⟨same, isLocatedThere, isConsulted, _⟩
    rw [isLocatedHere, Except.ok.injEq] at isLocatedThere
    subst isLocatedThere
    exact Or.inr (isConsulted ⟨cause, failed, notFound⟩)
  · exact Or.inl fun other otherMem isLocatedHere => governs ⟨other, otherMem, isLocatedHere⟩

/-- With all targets located and no other failures than these, a request is answered. -/
theorem exists_resolve
    (allLocated : ∀ target ∈ targets, ∃ document, inquiry.located target = .ok document)
    (goesOn : ∀ document ∈ inquiry.reads targets, ∀ cause,
      inquiry.answers.read document = .error cause →
        cause.isNotFound = true ∧ IsForGroup inquiry targets document) :
    ∃ found, inquiry.resolve targets = .ok found := by
  rcases gather_of_located ∅ allLocated with ⟨governed, gathering⟩
  rw [Inquiry.reads, gathering] at goesOn
  rw [Inquiry.resolve, gathering]
  cases outcome : inquiry.answers.loading (inquiry.findings ∅ governed.toList) []
      (inquiry.loads governed.toList) with
  | ok found => exact ⟨found, outcome⟩
  | error error =>
      rcases Answers.made_of_error (by simp) outcome with
        ⟨front, document, absence, before, after, reads, split, isFirst, fails⟩
      have isRead : document ∈ inquiry.answers.made [] (inquiry.loads governed.toList) := by
        rw [reads]
        exact List.mem_append_right _ List.mem_cons_self
      cases read : inquiry.answers.read document with
      | ok graph => simp [read, Absence.settle] at fails
      | error cause =>
          rcases goesOn document isRead cause read with ⟨notFound, isForGroup⟩
          have isTolerant := ((gathered_of_gather gathering).1.absence_eq_empty_iff split
            isFirst).2 isForGroup
          simp [read, isTolerant, Absence.settle, notFound] at fails

end Reads

end WebAccess

end LinkedAccess
