import LinkedAccess.Proofs.Policy.Meaning

/-!
# Policies for many targets at once

A request on many targets reads each document once and decodes it once. What it comes to cannot be
told from asking for each target alone, from scratch: it is answered if each of its targets is, and
else it fails with the error of the first that is not. A target alone fails if it lies outside of
the hierarchy or if a document on its way up breaks, and of several errors the one that is met first
counts, the end of the way being the last.
-/

namespace LinkedAccess

namespace Answers

variable {answers : Answers} {layout : Layout} {credentials : Credentials}
  {targets : List Identifier}

theorem resolvePolicies_eq_ok_iff {found : PermissionMap} :
    (∃ result, answers.resolvePolicies layout credentials found targets = .ok result) ↔
      ∀ target ∈ targets, answers.walk layout.naming (layout.lineage target) = .ok () := by
  constructor
  · rintro ⟨result, resolved⟩
    exact (of_resolvePolicies resolved).1
  · intro allWalk
    induction targets generalizing found with
    | nil => exact ⟨found, rfl⟩
    | cons target later inductionHypothesis =>
        rcases List.forall_mem_cons.1 allWalk with ⟨walks, onLater⟩
        rw [resolvePolicies, walks]
        exact inductionHypothesis onLater

/-- What a request fails with is the error on the way up from its first target that has one. -/
theorem exists_walk_of_resolvePolicies_eq_error {found : PermissionMap} {error : AccessError}
    (failed : answers.resolvePolicies layout credentials found targets = .error error) :
    ∃ front target back, targets = front ++ target :: back ∧
      (∀ earlier ∈ front, answers.walk layout.naming (layout.lineage earlier) = .ok ()) ∧
      answers.walk layout.naming (layout.lineage target) = .error error := by
  induction targets generalizing found with
  | nil => cases failed
  | cons target later inductionHypothesis =>
      rw [resolvePolicies] at failed
      cases walks : answers.walk layout.naming (layout.lineage target) with
      | error cause =>
          rw [walks] at failed
          cases failed
          exact ⟨[], target, later, rfl, by simp, walks⟩
      | ok _ =>
          rw [walks] at failed
          rcases inductionHypothesis failed with ⟨front, failing, back, rfl, onFront, walkFails⟩
          exact ⟨target :: front, failing, back, rfl, List.forall_mem_cons.2 ⟨walks, onFront⟩,
            walkFails⟩

theorem resolvePolicies_singleton_eq_error_iff {target : Identifier} {error : AccessError} :
    answers.resolvePolicies layout credentials ∅ [target] = .error error ↔
      answers.walk layout.naming (layout.lineage target) = .error error := by
  rw [resolvePolicies]
  constructor
  · intro failed
    cases walks : answers.walk layout.naming (layout.lineage target) with
    | error cause =>
        rw [walks] at failed
        cases failed
        rfl
    | ok _ =>
        rw [walks] at failed
        cases failed
  · intro walkFails
    rw [walkFails]
    rfl

end Answers

namespace Policy

/-- The errors with which the way up from a target can fail. -/
inductive FailsWith (answers : Answers) (layout : Layout) (target : Identifier) :
    AccessError → Prop where
  /-- A document breaks, and no document before it does. -/
  | breaks (front back : List Identifier) (resource : Identifier) (error : AccessError)
      (way : (layout.lineage target).chain = front ++ resource :: back)
      (readable : ∀ nearer ∈ front, ∀ cause, ¬answers.Breaks (layout.naming.document nearer) cause)
      (breaksWith : answers.BreaksWith (layout.naming.document resource) error) :
      FailsWith answers layout target error
  /-- No document breaks, but the way begins outside of the hierarchy. -/
  | outside
      (readable : ∀ resource ∈ (layout.lineage target).chain, ∀ cause,
        ¬answers.Breaks (layout.naming.document resource) cause)
      (isOutside : layout.hierarchy.supports (layout.naming.governed target) = false) :
      FailsWith answers layout target (.hierarchy (.unsupported (layout.naming.governed target)))

variable {answers : Answers} {layout : Layout} {target : Identifier}

theorem ending_lineage_of_outside
    (isOutside : layout.hierarchy.supports (layout.naming.governed target) = false) :
    (layout.lineage target).ending =
      .error (.hierarchy (.unsupported (layout.naming.governed target))) := by
  rw [Layout.lineage, Hierarchy.lineage_of_outside isOutside]
  rfl

theorem ending_lineage_of_inside
    (isInside : layout.hierarchy.supports (layout.naming.governed target) = true) :
    (layout.lineage target).ending = .ok () := by
  have follows := Lineage.follows_lineage layout.hierarchy (layout.naming.governed target)
  apply follows.ending_of_supports
  rwa [Lineage.resource_lineage]

theorem forall_isReadable_map_iff {resources : List Identifier} :
    (∀ document ∈ resources.map layout.naming.document, answers.IsReadable document) ↔
      ∀ resource ∈ resources, ∀ cause, ¬answers.Breaks (layout.naming.document resource) cause := by
  rw [List.forall_mem_map]
  simp only [Answers.isReadable_iff]

theorem walk_eq_error_iff {error : AccessError} :
    answers.walk layout.naming (layout.lineage target) = .error error ↔
      FailsWith answers layout target error := by
  rw [Answers.walk_eq_bind]
  constructor
  · intro failed
    cases reading : answers.reading ()
        ((layout.lineage target).chain.map layout.naming.document) with
    | error cause =>
        rw [reading] at failed
        cases failed
        rcases Answers.exists_breaksWith_of_reading_eq_error reading with
          ⟨front, document, back, way, readable, breaksWith⟩
        rcases List.map_eq_append_iff.1 way with ⟨nearer, further, chainEq, rfl, furtherEq⟩
        rcases List.map_eq_cons_iff.1 furtherEq with ⟨resource, above, rfl, rfl, _⟩
        exact .breaks nearer above resource _ chainEq (forall_isReadable_map_iff.1 readable)
          breaksWith
    | ok _ =>
        -- Only the end of the way can have failed, and it can only fail outside.
        rw [reading] at failed
        have readable := forall_isReadable_map_iff.1 (Answers.reading_eq_ok_iff.1 reading).2
        cases isInside : layout.hierarchy.supports (layout.naming.governed target) with
        | true =>
            rw [ending_lineage_of_inside isInside] at failed
            cases failed
        | false =>
            rw [ending_lineage_of_outside isInside] at failed
            cases failed
            exact .outside readable isInside
  · intro fails
    cases fails with
    | breaks front back resource error way readable breaksWith =>
        rw [way, List.map_append, List.map_cons,
          Answers.reading_of_breaksWith (forall_isReadable_map_iff.2 readable) breaksWith]
        rfl
    | outside readable isOutside =>
        rw [Answers.reading_eq_ok_iff.2 ⟨rfl, forall_isReadable_map_iff.2 readable⟩,
          ending_lineage_of_outside isOutside]
        rfl

/-- A request on one target fails if and only if it lies outside of the hierarchy or a document on
its way up breaks. -/
theorem exists_failsWith_iff :
    (∃ error, FailsWith answers layout target error) ↔
      layout.hierarchy.supports (layout.naming.governed target) = false ∨
        ∃ resource ∈ (layout.lineage target).chain, ∃ cause,
          answers.Breaks (layout.naming.document resource) cause := by
  constructor
  · rintro ⟨_, fails⟩
    cases fails with
    | breaks front back resource error way _ breaksWith =>
        refine Or.inr ⟨resource, ?_, breaksWith.breaks⟩
        rw [way]
        exact List.mem_append_right _ List.mem_cons_self
    | outside _ isOutside => exact Or.inl isOutside
  · intro cannotSucceed
    cases walks : answers.walk layout.naming (layout.lineage target) with
    | error error => exact ⟨error, walk_eq_error_iff.1 walks⟩
    | ok _ =>
        rcases Answers.walk_eq_ok_iff.1 walks with ⟨readable, endsWell⟩
        rcases cannotSucceed with isOutside | ⟨resource, isOnWay, cause, breaks⟩
        · rw [ending_lineage_of_outside isOutside] at endsWell
          cases endsWell
        · exact absurd breaks (Answers.isReadable_iff.1 (readable resource isOnWay) cause)

/-- How the answer to a request relates to those to its targets alone. -/
structure ResolvesEachAlone (answers : Answers) (layout : Layout) (requested : AccessMap)
    (batch : Except AccessError PermissionMap)
    (alone : Identifier → Modes → Except AccessError PermissionMap) : Prop where
  /-- The request is answered exactly when each target is. -/
  succeeds : (∃ found, batch = .ok found) ↔
    ∀ target ∈ requested.keys, ∀ modes, ∃ found, alone target modes = .ok found
  /-- Each target is then given what it is given alone. -/
  same : ∀ found, batch = .ok found → ∀ target ∈ requested.keys, ∀ modes,
    ∃ single permissions, alone target modes = .ok single ∧
      found.get? target = some permissions ∧ single.get? target = some permissions
  /-- And else the first target that fails decides on the error. -/
  firstFailing : ∀ error, batch = .error error → ∃ target ∈ requested.keys,
    (∀ modes, alone target modes = .error error) ∧
      ∀ other ∈ requested.keys, compare other target = .lt →
        ∀ modes, ∃ found, alone other modes = .ok found
  /-- A target alone fails when it lies outside or a document on its way up breaks. -/
  fails : ∀ target modes, (∃ error, alone target modes = .error error) ↔
    layout.hierarchy.supports (layout.naming.governed target) = false ∨
      ∃ resource ∈ (layout.lineage target).chain, ∃ cause,
        answers.Breaks (layout.naming.document resource) cause
  /-- It fails with what is met first on the way up. -/
  failsWith : ∀ target modes error,
    alone target modes = .error error ↔ FailsWith answers layout target error
  /-- The way up from inside leads to the root. -/
  reachesRoot : ∀ target, layout.hierarchy.supports (layout.naming.governed target) = true →
    (layout.lineage target).chain.getLast? = some layout.hierarchy.root

theorem resolvePolicies_resolvesEachAlone (answers : Answers) (layout : Layout)
    (credentials : Credentials) (requested : AccessMap) :
    ResolvesEachAlone answers layout requested
      (answers.resolvePolicies layout credentials ∅ requested.keys.toList)
      (fun target _ => answers.resolvePolicies layout credentials ∅ [target]) where
  succeeds := by
    simp only [Answers.resolvePolicies_eq_ok_iff, List.forall_mem_singleton, forall_const]
    rfl
  same := by
    intro found resolved target isRequested _
    have walks := (Answers.of_resolvePolicies resolved).1 target isRequested
    have alone : ∃ single, answers.resolvePolicies layout credentials ∅ [target] = .ok single :=
      Answers.resolvePolicies_eq_ok_iff.2 (List.forall_mem_singleton.2 walks)
    rcases alone with ⟨single, resolvedAlone⟩
    exact ⟨single, _, resolvedAlone, Answers.get?_of_resolvePolicies resolved isRequested,
      Answers.get?_of_resolvePolicies resolvedAlone List.mem_cons_self⟩
  firstFailing := by
    intro error failed
    rcases Answers.exists_walk_of_resolvePolicies_eq_error failed with
      ⟨front, target, back, split, onFront, walkFails⟩
    have isRequested : target ∈ requested.keys := by
      rw [AscendingSet.mem_iff_mem_toList, split]
      exact List.mem_append_right _ List.mem_cons_self
    refine ⟨target, isRequested,
      fun _ => Answers.resolvePolicies_singleton_eq_error_iff.2 walkFails, ?_⟩
    intro other isRequestedToo isEarlier _
    have inFront := (AscendingSet.mem_front_iff split).2 ⟨isRequestedToo, isEarlier⟩
    exact Answers.resolvePolicies_eq_ok_iff.2 (List.forall_mem_singleton.2 (onFront other inFront))
  fails := by
    intro target _
    simp only [Answers.resolvePolicies_singleton_eq_error_iff, walk_eq_error_iff]
    exact exists_failsWith_iff
  failsWith := by
    intro target _ error
    rw [Answers.resolvePolicies_singleton_eq_error_iff, walk_eq_error_iff]
  reachesRoot := by
    intro target isInside
    exact (Lineage.follows_lineage layout.hierarchy _).getLast?_chain
      (ending_lineage_of_inside isInside)

/-- With a steady reader a request on many targets is answered as its targets are, one by one and
from scratch. The reader may be in another state by then, as long as it gives the same answers. -/
theorem resolver_resolves_each_alone {σ : Type} {reader : Reader σ} {answers : Answers}
    {state other : σ} (steady : reader.Steady answers state)
    (steadyThere : reader.Steady answers other) (layout : Layout) (credentials : Credentials)
    (requested : AccessMap) :
    ResolvesEachAlone answers layout requested
      (resolver layout reader credentials requested state).1
      (fun target modes =>
        (resolver layout reader credentials (AscendingMap.insert ∅ target modes) other).1) := by
  have aloneEq : (fun target modes =>
      (resolver layout reader credentials (AscendingMap.insert ∅ target modes) other).1) =
        fun target _ => answers.resolvePolicies layout credentials ∅ [target] := by
    funext target modes
    exact run_resolver steadyThere layout credentials _
  rw [run_resolver steady, aloneEq]
  exact resolvePolicies_resolvesEachAlone answers layout credentials requested

/-- Nothing but a container whose document breaks. -/
def brokenContainer : Answers := (Answers.ofGraphs ∅).failing (.ofList [⟨"https://pod/b/.acr"⟩])

theorem breaksWith_brokenContainer :
    brokenContainer.BreaksWith (podLayout.naming.document ⟨"https://pod/b/"⟩)
      (.backendFailure ⟨"https://pod/b/.acr"⟩
        (.backend ⟨"https://pod/b/.acr"⟩ "injected failure")) :=
  .failed _ ⟨Answers.read_failing_of_mem (by decide +kernel), rfl⟩ nofun

theorem brokenContainer_fails :
    (resolver podLayout brokenContainer.reader {} (AscendingMap.insert ∅ ⟨"https://pod/b/x"⟩ ∅)
      ()).1 = .error (.backendFailure ⟨"https://pod/b/.acr"⟩
        (.backend ⟨"https://pod/b/.acr"⟩ "injected failure")) ∧
    ¬∃ found, (resolver podLayout brokenContainer.reader {}
      (.ofList [(⟨"https://pod/a"⟩, ∅), (⟨"https://pod/b/x"⟩, ∅)]) ()).1 = .ok found := by
  have steady := Answers.steady_reader brokenContainer ()
  have agrees := resolver_resolves_each_alone steady steady podLayout {}
    (.ofList [(⟨"https://pod/a"⟩, ∅), (⟨"https://pod/b/x"⟩, ∅)])
  have isAbsent : ∀ nearer ∈ [(⟨"https://pod/b/x"⟩ : Identifier)], ∀ cause,
      ¬brokenContainer.Breaks (podLayout.naming.document nearer) cause := by
    intro nearer nearerMem
    rw [List.mem_singleton.1 nearerMem, ← Answers.isReadable_iff]
    exact ⟨∅, toOption_eq_some_iff.1 (by decide +kernel)⟩
  have failsAlone := (agrees.failsWith ⟨"https://pod/b/x"⟩ ∅ _).2
    (.breaks [⟨"https://pod/b/x"⟩] [⟨"https://pod/"⟩] ⟨"https://pod/b/"⟩ _ (by decide +kernel)
      isAbsent breaksWith_brokenContainer)
  refine ⟨failsAlone, fun succeeds => ?_⟩
  rcases agrees.succeeds.1 succeeds ⟨"https://pod/b/x"⟩ (by decide +kernel) ∅ with
    ⟨_, succeedsAlone⟩
  cases failsAlone.symm.trans succeedsAlone

end Policy

end LinkedAccess
