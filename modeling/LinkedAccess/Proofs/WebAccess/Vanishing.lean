import LinkedAccess.Proofs.WebAccess.Answered
import LinkedAccess.Proofs.WebAccess.Meaning

/-!
# Governing documents that vanish

A governing document that is said to be absent when its turn comes ends the request with an error
that names it. Its turn does not come if it was consulted as a group document before: then it counts
as empty, and those whom it governs are answered, with permissions that grant nothing.
-/

namespace LinkedAccess.WebAccess

open Vocabulary

variable {inquiry : Inquiry} {targets : List Identifier}

/-- The first document to have vanished is named by the error, unless it was consulted before. -/
theorem resolve_of_vanished
    (allLocated : ∀ other ∈ targets, ∃ document, inquiry.located other = .ok document)
    {target document : Identifier} {cause : StorageError} (targetMem : target ∈ targets)
    (isLocated : inquiry.located target = .ok document)
    (read : inquiry.answers.read document = .error cause) (notFound : cause.isNotFound = true)
    (isFresh : ¬ConsultedBefore inquiry targets document)
    (earlier : ∀ other ∈ targets, ∀ otherDocument, inquiry.located other = .ok otherDocument →
      compare otherDocument document = .lt →
      (inquiry.answers.Vanished otherDocument → ConsultedBefore inquiry targets otherDocument) ∧
        ∀ needed ∈ inquiry.needs otherDocument other, inquiry.answers.IsReadable needed) :
    inquiry.resolve targets = .error (.backendFailure document cause) := by
  rcases gather_of_located ∅ allLocated with ⟨governed, gathering⟩
  have gathered := (gathered_of_gather gathering).1
  rcases List.append_of_mem (gathered.entry_mem targetMem isLocated) with ⟨before, after, split⟩
  have beforeSucceeds : inquiry.answers.loading () [] (inquiry.loads before) = .ok () := by
    refine gathered.loading_front split () ?_
    rintro ⟨otherDocument, group⟩ entryMem other otherMem
    rcases (AscendingMap.mem_front_iff split).1 entryMem with ⟨isListed, isEarlier⟩
    rcases gathered.mem_toList.1 isListed with ⟨rfl, _⟩
    rcases mem_governedBy.1 otherMem with ⟨otherMem, isLocatedThere⟩
    exact earlier other otherMem otherDocument isLocatedThere isEarlier
  have isMissing : inquiry.answers.settled ([] ++ (inquiry.loads before).map (·.1)) .fail document =
      .error (.backendFailure document cause) := by
    rw [← gathered.mem_loads_iff split] at isFresh
    rw [Answers.settled, List.nil_append, if_neg isFresh, read]
    cases cause with
    | notFound identifier => rfl
    | _ => cases notFound
  rw [Inquiry.resolve, gathering]
  show inquiry.answers.loading _ [] (inquiry.loads governed.toList) = _
  rw [split, loads_append, Answers.loading_append (), beforeSucceeds, loads_cons]
  show inquiry.answers.loading _ _ ((document, .fail) :: _) = _
  rw [Answers.loading, isMissing]

theorem eq_none_of_get?_granted {subject target : Identifier} {group : Group}
    {permission : Permission}
    (isGranted : (inquiry.granted ∅ subject target).get? group = some permission) :
    permission = .none := by
  have noRules : authorizations (inquiry.rulesFor ∅ subject target) = [] := by
    rw [List.eq_nil_iff_forall_not_mem]
    intro rule ruleMem
    rw [mem_authorizations, Inquiry.rulesFor, mem_rulesOf] at ruleMem
    exact AscendingSet.not_mem_empty _ ruleMem.1
  rw [Inquiry.get?_granted, Option.map_eq_some_iff] at isGranted
  rcases isGranted with ⟨credentials, _, rfl⟩
  have isEmpty : inquiry.permission (inquiry.rulesFor ∅ subject target) credentials = .none := by
    rw [Inquiry.permission, noRules]
    rfl
  simp only [isEmpty]
  split
  · rfl
  · rfl

/-- What becomes of a request on a target whose governing document has vanished. -/
structure MeetsVanished (inquiry : Inquiry) (requested : AccessMap) (target document : Identifier)
    (cause : StorageError) (outcome : Except AccessError PermissionMap) : Prop where
  /-- Unless the document was consulted before, there is no answer. -/
  fails : ¬ConsultedBefore inquiry requested.keys.toList document → ∃ error, outcome = .error error
  /-- If in addition nothing goes wrong before, the error names the document. -/
  names : ¬ConsultedBefore inquiry requested.keys.toList document →
    (∀ other ∈ requested.keys, ∃ governing, inquiry.located other = .ok governing) →
    (∀ other ∈ requested.keys, ∀ governing, inquiry.located other = .ok governing →
      governing ≠ document → (∃ graph, inquiry.answers.read governing = .ok graph) ∧
        ∀ consulted ∈ inquiry.consultedFor governing other,
          inquiry.answers.IsReadable consulted) →
    outcome = .error (.backendFailure document cause)
  /-- Those requests are answered on which nothing else goes wrong and no governing document has
  vanished that was not consulted before. -/
  answered : (∃ found, outcome = .ok found) ↔
    ∀ other ∈ requested.keys, ∃ governing, inquiry.located other = .ok governing ∧
      (inquiry.answers.Vanished governing →
        ConsultedBefore inquiry requested.keys.toList governing) ∧
      ∀ needed ∈ inquiry.needs governing other, inquiry.answers.IsReadable needed
  /-- The target is then given nothing. -/
  empty : ∀ found, outcome = .ok found → ∃ permissions, found.get? target = some permissions ∧
    ∀ group permission, permissions.get? group = some permission → permission = .none

/-- A governing document that has vanished is noticed exactly if it was not consulted before. -/
theorem resolver_meets_vanished {σ : Type} {reader : Reader σ} {inquiry : Inquiry} {state : σ}
    (steady : reader.Steady inquiry.answers state) {requested : AccessMap}
    {target subject : Identifier} {cause : StorageError} (isRequested : target ∈ requested.keys)
    (isFirst : (inquiry.layout.lineage target).chain.find? (fun resource =>
      inquiry.answers.finds (inquiry.layout.naming.document resource)) = some subject)
    (unreadable : inquiry.answers.read (inquiry.layout.naming.document subject) = .error cause)
    (notFound : cause.isNotFound = true) :
    MeetsVanished inquiry requested target (inquiry.layout.naming.document subject) cause
      (resolver inquiry.layout reader inquiry.checker inquiry.credentials requested state).1 := by
  have governs {document : Identifier} (isLocated : inquiry.located target = .ok document) :
      document = inquiry.layout.naming.document subject := by
    rcases Answers.find?_of_located isLocated with ⟨resource, isFirstToo, rfl⟩
    rw [isFirst, Option.some.injEq] at isFirstToo
    rw [isFirstToo]
  have vanished : inquiry.answers.Vanished (inquiry.layout.naming.document subject) :=
    ⟨cause, unreadable, notFound⟩
  rw [run_resolver inquiry steady]
  constructor
  case answered => exact resolve_eq_ok_iff
  case fails =>
    intro isFresh
    cases outcome : inquiry.resolve requested.keys.toList with
    | error error => exact ⟨error, rfl⟩
    | ok found =>
        rcases resolve_eq_ok_iff.1 ⟨found, outcome⟩ target isRequested with
          ⟨document, isLocated, isConsulted, _⟩
        rw [governs isLocated] at isConsulted
        exact absurd (isConsulted vanished) isFresh
  case names =>
    intro isFresh allLocated others
    rcases allLocated target isRequested with ⟨document, isLocated⟩
    have documentEq := governs isLocated
    subst documentEq
    refine resolve_of_vanished allLocated isRequested isLocated unreadable notFound isFresh ?_
    intro other isRequestedToo governing isLocatedThere isEarlier
    have differs : governing ≠ inquiry.layout.naming.document subject := by
      rintro rfl
      simp at isEarlier
    rcases others other isRequestedToo governing isLocatedThere differs with
      ⟨⟨graph, read⟩, readable⟩
    refine ⟨?_, ?_⟩
    · rintro ⟨_, absent, _⟩
      rw [read] at absent
      cases absent
    · intro needed isNeeded
      rcases List.mem_cons.1 isNeeded with rfl | isConsulted
      · exact ⟨graph, Answers.description_of_read read⟩
      · exact readable needed isConsulted
  case empty =>
    intro found resolved
    rcases get?_of_resolve resolved isRequested with ⟨document, graph, isLocated, _, isFound⟩
    refine ⟨_, isFound, fun group permission isGranted => ?_⟩
    have isEmpty : inquiry.answers.content document = ∅ := by
      rw [governs isLocated]
      exact Answers.content_of_description (Answers.description_of_notFound unreadable notFound)
    rw [Inquiry.grantedBy, isEmpty] at isGranted
    exact eq_none_of_get?_granted isGranted

/-- A root whose rule for what lies below it names a group described in the document of a container,
which is there when it is looked for and absent when it is read. -/
def entangledRoot : Inquiry where
  answers :=
    { Answers.ofGraphs (.ofList [(⟨"https://pod/.acl"⟩, .ofList [
        ⟨.iri "#shared", .iri Rdf.type, .iri Acl.Authorization⟩,
        ⟨.iri "#shared", .iri Acl.default, .iri "https://pod/"⟩,
        ⟨.iri "#shared", .iri Acl.agentGroup, .iri "https://pod/b/.acl#g"⟩,
        ⟨.iri "#shared", .iri Acl.mode, .iri Acl.Read⟩])]) with
      probe := fun identifier =>
        .ok (identifier = ⟨"https://pod/.acl"⟩ || identifier = ⟨"https://pod/b/.acl"⟩) }
  layout := openLayout
  checker := .standard
  credentials := { agent := some "https://alice/#me" }

/-- A sibling that is judged before the container makes its vanished document pass for empty. -/
theorem entangledRoot_answers : ∃ found permissions,
    (resolver entangledRoot.layout entangledRoot.answers.reader entangledRoot.checker
      entangledRoot.credentials (.ofList [(⟨"https://pod/a"⟩, ∅), (⟨"https://pod/b/"⟩, ∅)]) ()).1 =
        .ok found ∧
    found.get? ⟨"https://pod/b/"⟩ = some permissions ∧
    ∀ group permission, permissions.get? group = some permission → permission = .none := by
  let requested : AccessMap := .ofList [(⟨"https://pod/a"⟩, ∅), (⟨"https://pod/b/"⟩, ∅)]
  have isRequested : ⟨"https://pod/b/"⟩ ∈ requested.keys := by decide
  have isFirst : (entangledRoot.layout.lineage ⟨"https://pod/b/"⟩).chain.find? (fun resource =>
      entangledRoot.answers.finds (entangledRoot.layout.naming.document resource)) =
        some ⟨"https://pod/b/"⟩ := by decide +kernel
  have meets := resolver_meets_vanished (Answers.steady_reader entangledRoot.answers ()) isRequested
    isFirst rfl rfl
  have resolved : ∃ found, (resolver entangledRoot.layout entangledRoot.answers.reader
      entangledRoot.checker entangledRoot.credentials requested ()).1 = .ok found := by
    refine ⟨.ofList [
      (⟨"https://pod/a"⟩, { everyone := some .none, agent := some .none }),
      (⟨"https://pod/b/"⟩, { everyone := some .none, agent := some .none })], ?_⟩
    exact toOption_eq_some_iff.1 (by decide +kernel)
  rcases resolved with ⟨found, resolved⟩
  rcases meets.empty found resolved with ⟨permissions, isFound, isEmpty⟩
  exact ⟨found, permissions, resolved, isFound, isEmpty⟩

end LinkedAccess.WebAccess
