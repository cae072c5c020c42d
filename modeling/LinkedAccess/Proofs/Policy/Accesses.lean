import LinkedAccess.Proofs.Policy.Batch

/-!
# What is read for policies

The documents on the way up from one target are read before those of the next one, and a document
that was met before is not read again. Nothing else is asked of the reader: policies name those whom
they are for, and so the credentials are only looked at when all has been read. Hence a log of the
accesses does not tell who made a request, and neither does the error if there is one.
-/

namespace LinkedAccess

namespace Lineage

theorem hierarchy_of_ending_eq_error {lineage : Lineage} {error : AccessError}
    (failed : lineage.ending = .error error) : ∃ reason, error = .hierarchy reason := by
  induction lineage with
  | root identifier => cases failed
  | stray identifier reason =>
      cases failed
      exact ⟨reason, rfl⟩
  | child identifier parents inductionHypothesis => exact inductionHypothesis failed

end Lineage

/-- The documents on the way up from a target, the nearest first. -/
def Layout.way (layout : Layout) (target : Identifier) : List Identifier :=
  (layout.lineage target).chain.map layout.naming.document

/-- The documents on the ways up from the targets of a request, each where it is met first. -/
def Layout.ways (layout : Layout) (requested : AccessMap) : List Identifier :=
  (requested.keys.toList.flatMap layout.way).eraseDups

namespace Answers

variable {answers : Answers} {layout : Layout} {loaded targets : List Identifier}

theorem isReadable_of_walk {target : Identifier}
    (walks : answers.walk layout.naming (layout.lineage target) = .ok ()) :
    ∀ document ∈ layout.way target, answers.IsReadable document := by
  intro document documentMem
  rcases List.mem_map.1 documentMem with ⟨resource, isOnWay, rfl⟩
  exact (walk_eq_ok_iff.1 walks).1 resource isOnWay

theorem made_of_walk {target : Identifier}
    (walks : answers.walk layout.naming (layout.lineage target) = .ok ()) :
    answers.made loaded ((layout.way target).map (·, .empty)) =
      unseen loaded (layout.way target) := by
  have succeeds : answers.loading () loaded ((layout.way target).map (·, .empty)) = .ok () := by
    rw [loading_map_empty]
    exact reading_eq_ok_iff.2 ⟨rfl, isReadable_of_walk walks⟩
  rw [made_of_loading succeeds, map_fst_map_empty]

theorem surveyed_cons (target : Identifier) (later : List Identifier) :
    answers.surveyed layout loaded (target :: later) =
      answers.made loaded ((layout.way target).map (·, .empty)) ++
        continuing (answers.walk layout.naming (layout.lineage target))
          (answers.surveyed layout (loaded ++ layout.way target) later) := rfl

/-- As long as nothing goes wrong, all is read that was not read before. -/
theorem surveyed_append {first : List Identifier} (second : List Identifier)
    (allWalk : ∀ target ∈ first, answers.walk layout.naming (layout.lineage target) = .ok ()) :
    answers.surveyed layout loaded (first ++ second) =
      unseen loaded (first.flatMap layout.way) ++
        answers.surveyed layout (loaded ++ first.flatMap layout.way) second := by
  induction first generalizing loaded with
  | nil => rw [List.flatMap_nil, unseen_nil, List.append_nil, List.nil_append, List.nil_append]
  | cons target later inductionHypothesis =>
      rcases List.forall_mem_cons.1 allWalk with ⟨walks, onLater⟩
      rw [List.cons_append, surveyed_cons, walks, made_of_walk walks, continuing,
        inductionHypothesis onLater, List.flatMap_cons, unseen_append, List.append_assoc,
        List.append_assoc]

theorem surveyed_of_walks
    (allWalk : ∀ target ∈ targets, answers.walk layout.naming (layout.lineage target) = .ok ()) :
    answers.surveyed layout loaded targets = unseen loaded (targets.flatMap layout.way) := by
  have atEnd : answers.surveyed layout loaded (targets ++ []) =
      unseen loaded (targets.flatMap layout.way) ++ [] := surveyed_append [] allWalk
  rwa [List.append_nil, List.append_nil] at atEnd

theorem surveyed_isPrefix (loaded targets : List Identifier) :
    answers.surveyed layout loaded targets <+: unseen loaded (targets.flatMap layout.way) := by
  induction targets generalizing loaded with
  | nil => exact List.prefix_refl []
  | cons target later inductionHypothesis =>
      rw [surveyed_cons, List.flatMap_cons, unseen_append]
      cases walks : answers.walk layout.naming (layout.lineage target) with
      | ok _ =>
          rw [made_of_walk walks, continuing, List.prefix_append_right_inj]
          exact inductionHypothesis _
      | error error =>
          -- The first way itself may have been left before its end.
          have isPrefix := answers.made_isPrefix loaded ((layout.way target).map (·, .empty))
          rw [map_fst_map_empty] at isPrefix
          rw [continuing, List.append_nil]
          exact isPrefix.trans (List.prefix_append _ _)

/-- If a document breaks, it is the last one that is read. -/
theorem surveyed_of_error {credentials : Credentials} {found : PermissionMap} {error : AccessError}
    (failed : answers.resolvePolicies layout credentials found targets = .error error) :
    (∃ reason, error = .hierarchy reason) ∨ ∃ front document,
      answers.surveyed layout [] targets = front ++ [document] ∧
        answers.BreaksWith document error := by
  rcases exists_walk_of_resolvePolicies_eq_error failed with
    ⟨front, target, back, rfl, onFront, walkFails⟩
  rw [surveyed_append _ onFront, surveyed_cons, walkFails, continuing, List.append_nil,
    List.nil_append]
  rw [walk_eq_bind, ← Layout.way] at walkFails
  cases reading : answers.reading () (layout.way target) with
  | ok _ =>
      rw [reading] at walkFails
      exact Or.inl (Lineage.hierarchy_of_ending_eq_error walkFails)
  | error cause =>
      rw [reading] at walkFails
      cases walkFails
      have readable : ∀ document ∈ front.flatMap layout.way, answers.IsReadable document := by
        intro document documentMem
        rcases List.mem_flatMap.1 documentMem with ⟨earlier, earlierMem, isOnWay⟩
        exact isReadable_of_walk (onFront earlier earlierMem) document isOnWay
      rcases made_of_reading_eq_error readable reading with ⟨before, document, reads, breaksWith⟩
      right
      rw [reads, ← List.append_assoc]
      exact ⟨_, document, rfl, breaksWith⟩

/-- Who asks makes no difference to what a request fails with. -/
theorem resolvePolicies_eq_error_of_other {first second : Credentials}
    {found other : PermissionMap} {error : AccessError}
    (failed : answers.resolvePolicies layout first found targets = .error error) :
    answers.resolvePolicies layout second other targets = .error error := by
  induction targets generalizing found other with
  | nil => cases failed
  | cons target later inductionHypothesis =>
      rw [resolvePolicies] at failed ⊢
      cases walks : answers.walk layout.naming (layout.lineage target) with
      | error cause =>
          rw [walks] at failed
          cases failed
          rfl
      | ok _ =>
          rw [walks] at failed
          exact inductionHypothesis failed

end Answers

namespace Policy

variable {σ : Type} {reader : Reader σ} {answers : Answers} {state : σ}

theorem after_resolver (steady : reader.Steady answers state) (layout : Layout)
    (credentials : Credentials) (requested : AccessMap) :
    (resolver layout reader credentials requested state).2 =
      reader.after ((answers.surveyed layout [] requested.keys.toList).map .read) state :=
  (settles_resolveTargets (decodes_empty answers []) ∅ requested.keys.toList ∅ state .nil
    steady).2.1

/-- What requests by any credentials come to, and the accesses that are made for them. -/
structure ReadsWays (answers : Answers) (layout : Layout) (requested : AccessMap)
    (outcome : Credentials → Except AccessError PermissionMap)
    (accesses : Credentials → List Access) : Prop where
  /-- The documents on the ways up are read in order, and nothing else is asked. -/
  inOrder : ∀ credentials, ∃ reads, accesses credentials = reads.map .read ∧
    reads <+: layout.ways requested
  /-- Before there is an answer all of them are read. -/
  succeeds : ∀ credentials found, outcome credentials = .ok found →
    accesses credentials = (layout.ways requested).map .read
  /-- The ways then lead to the root. -/
  reachesRoot : ∀ credentials found, outcome credentials = .ok found →
    ∀ target ∈ requested.keys,
      (layout.lineage target).chain.getLast? = some layout.hierarchy.root
  /-- What cannot be read is the last access, and what fails otherwise is a way without an end. -/
  fails : ∀ credentials error, outcome credentials = .error error →
    (∃ reason, error = .hierarchy reason) ∨ ∃ document,
      (accesses credentials).getLast? = some (.read document) ∧ answers.BreaksWith document error
  /-- Two requesters have the same documents read. -/
  sameAccesses : ∀ first second, accesses first = accesses second
  /-- Both are answered, or both are told the same error. -/
  sameError : ∀ first second error, outcome first = .error error ↔ outcome second = .error error

/-- With a steady reader, which documents are read and which error is told is a matter of the
targets and of what can be read on their ways up. -/
theorem resolver_reads_ways (steady : reader.Steady answers state) (layout : Layout)
    (requested : AccessMap) :
    ReadsWays answers layout requested
      (fun credentials => (resolver layout reader.logged credentials requested ([], state)).1)
      (fun credentials => (resolver layout reader.logged credentials requested ([], state)).2.1) := by
  have outcome (credentials : Credentials) :
      (resolver layout reader.logged credentials requested ([], state)).1 =
        answers.resolvePolicies layout credentials ∅ requested.keys.toList :=
    run_resolver (steady.logged []) layout credentials requested
  have accesses (credentials : Credentials) :
      (resolver layout reader.logged credentials requested ([], state)).2.1 =
        (answers.surveyed layout [] requested.keys.toList).map .read := by
    rw [after_resolver (steady.logged []), Reader.after_logged, List.nil_append]
  have allWalk {credentials : Credentials} {found : PermissionMap}
      (answered : answers.resolvePolicies layout credentials ∅ requested.keys.toList = .ok found) :
      ∀ target ∈ requested.keys.toList,
        answers.walk layout.naming (layout.lineage target) = .ok () :=
    (Answers.of_resolvePolicies answered).1
  simp only [outcome, accesses]
  constructor
  case inOrder =>
    intro _
    rw [Layout.ways, ← unseen_empty]
    exact ⟨_, rfl, Answers.surveyed_isPrefix [] requested.keys.toList⟩
  case succeeds =>
    intro credentials found answered
    rw [Layout.ways, ← unseen_empty, Answers.surveyed_of_walks (allWalk answered)]
  case reachesRoot =>
    intro credentials found answered target isRequested
    have endsWell := (Answers.walk_eq_ok_iff.1 (allWalk answered target isRequested)).2
    exact (Lineage.follows_lineage layout.hierarchy _).getLast?_chain endsWell
  case fails =>
    intro credentials error failed
    rcases Answers.surveyed_of_error failed with isOutside | ⟨front, document, reads, breaksWith⟩
    · exact Or.inl isOutside
    · right
      refine ⟨document, ?_, breaksWith⟩
      rw [reads, List.map_append]
      exact List.getLast?_concat
  case sameAccesses =>
    intro _ _
    rfl
  case sameError =>
    intro first second error
    exact ⟨Answers.resolvePolicies_eq_error_of_other, Answers.resolvePolicies_eq_error_of_other⟩

/-- A request on two files of one container. -/
def siblings : AccessMap := .ofList [(⟨"https://pod/a"⟩, ∅), (⟨"https://pod/b"⟩, ∅)]

/-- The document of the root is read for the first of two siblings and not again for the second. -/
theorem siblings_share_their_way :
    (resolver podLayout (Answers.ofGraphs ∅).reader.logged {} siblings ([], ())).2.1 =
      [.read ⟨"https://pod/a.acr"⟩, .read ⟨"https://pod/.acr"⟩, .read ⟨"https://pod/b.acr"⟩] := by
  have reads := resolver_reads_ways (Answers.steady_reader (Answers.ofGraphs ∅) ()) podLayout
    siblings
  have answered : ∃ found, (resolver podLayout (Answers.ofGraphs ∅).reader.logged {} siblings
      ([], ())).1 = .ok found :=
    ⟨.ofList [(⟨"https://pod/a"⟩, .uniform .none), (⟨"https://pod/b"⟩, .uniform .none)],
      toOption_eq_some_iff.1 (by decide +kernel)⟩
  have ways : podLayout.ways siblings =
      [⟨"https://pod/a.acr"⟩, ⟨"https://pod/.acr"⟩, ⟨"https://pod/b.acr"⟩] := by
    decide +kernel
  rcases answered with ⟨found, answered⟩
  have accesses := reads.succeeds {} found answered
  rw [ways] at accesses
  exact accesses

end Policy

end LinkedAccess
