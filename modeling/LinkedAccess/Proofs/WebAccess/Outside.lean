import LinkedAccess.Proofs.WebAccess.Batch

/-!
# Targets outside of the hierarchy

The way up from a resource that lies outside is over at once, but only after it was asked whether
the resource has a document of its own. If it is said to have one, the resource is governed by it
like any other, and the hierarchy is not looked at. Nothing else lets a request through: whatever
the reader says, and however its answers change, each resource that was ever located lies inside or
was said to have a document (`Vouched`).
-/

namespace LinkedAccess

open Vocabulary

namespace Reader

variable {σ : Type} {reader : Reader σ} {start state : σ} {document : Identifier}

/-- A document that may be said to be there, be it after other questions. -/
def MayFind (reader : Reader σ) (start : σ) (document : Identifier) : Prop :=
  ∃ state, reader.Reaches start state ∧ (reader.probe document state).1 = .ok true

theorem Reaches.isPresent (reaches : reader.Reaches start state) (document : Identifier) :
    reader.Reaches start (reader.isPresent document state).2 := by
  have stateEq : (reader.isPresent document state).2 = (reader.probe document state).2 := by
    unfold Reader.isPresent
    rcases reader.probe document state with ⟨answer, later⟩
    cases answer with
    | ok found => rfl
    | error error =>
        simp only
        split
        · rfl
        · rfl
  rw [stateEq]
  exact .probe document reaches

theorem Reaches.mayFind (reaches : reader.Reaches start state)
    (present : (reader.isPresent document state).1 = .ok true) : reader.MayFind start document := by
  refine ⟨state, reaches, ?_⟩
  unfold Reader.isPresent at present
  rcases probe : reader.probe document state with ⟨answer, later⟩
  rw [probe] at present
  cases answer with
  | ok found => simpa using present
  | error error =>
      simp only at present
      split at present
      · cases present
      · cases present

end Reader

namespace WebAccess

variable {σ : Type} {reader : Reader σ} {start state : σ} {layout : Layout} {located : Located}

/-- A resource that lies inside of the hierarchy or may be said to have a document. -/
def Admits (reader : Reader σ) (start : σ) (layout : Layout) (resource : Identifier) : Prop :=
  layout.hierarchy.supports resource = true ∨
    reader.MayFind start (layout.naming.document resource)

/-- Every remembered resource was let through for a reason. -/
def Vouched (reader : Reader σ) (start : σ) (layout : Layout) (located : Located) : Prop :=
  ∀ resource document, located.get? resource = some document → Admits reader start layout resource

theorem vouched_empty (reader : Reader σ) (start : σ) (layout : Layout) :
    Vouched reader start layout ∅ := by
  intro resource document isKnown
  cases isKnown

theorem Vouched.insert (vouched : Vouched reader start layout located) {resource : Identifier}
    (admits : Admits reader start layout resource) (document : Identifier) :
    Vouched reader start layout (located.insert resource document) :=
  AscendingMap.forall_insert vouched admits

/-- What the run of a location leaves behind, and what it means if it succeeds. -/
structure Confined (reader : Reader σ) (start : σ) (layout : Layout) (resource : Identifier)
    (run : Except AccessError (Identifier × Located) × σ) : Prop where
  reaches : reader.Reaches start run.2
  admits : ∀ document known, run.1 = .ok (document, known) →
    Admits reader start layout resource ∧ Vouched reader start layout known

theorem confined_error {resource : Identifier} (reaches : reader.Reaches start state)
    (error : AccessError) : Confined reader start layout resource (.error error, state) := by
  refine ⟨reaches, fun document known succeeded => ?_⟩
  cases succeeded

theorem confined_ok {resource document : Identifier} (reaches : reader.Reaches start state)
    (admits : Admits reader start layout resource) (vouched : Vouched reader start layout located) :
    Confined reader start layout resource (.ok (document, located), state) := by
  refine ⟨reaches, fun _ _ succeeded => ?_⟩
  cases succeeded
  exact ⟨admits, vouched⟩

theorem confined_or_onward (vouched : Vouched reader start layout located) (lineage : Lineage)
    (reaches : reader.Reaches start state) :
    Confined reader start layout lineage.resource
        (locate layout.naming reader located lineage state) ∨
      ∃ later, reader.Reaches start later ∧ locate layout.naming reader located lineage state =
        onward layout.naming reader located lineage later := by
  rw [locate.eq_def]
  cases isKnown : located.get? lineage.resource with
  | some document => exact Or.inl (confined_ok reaches (vouched _ document isKnown) vouched)
  | none =>
      simp only [Resolution.run_bind]
      have reachesLater := reaches.isPresent (layout.naming.document lineage.resource)
      rcases run : reader.isPresent (layout.naming.document lineage.resource) state with
        ⟨found, later⟩
      rw [run] at reachesLater
      cases found with
      | error error => exact Or.inl (confined_error reachesLater error)
      | ok found =>
          cases found with
          | true =>
              have admits : Admits reader start layout lineage.resource :=
                Or.inr (reaches.mayFind (congrArg Prod.fst run))
              exact Or.inl (confined_ok reachesLater admits (vouched.insert admits _))
          | false =>
              refine Or.inr ⟨later, reachesLater, ?_⟩
              cases lineage <;> rfl

/-- What lies on the way up from another resource lies inside, whatever is found there. -/
theorem confined_locate (vouched : Vouched reader start layout located) {lineage : Lineage}
    (follows : lineage.Follows layout.hierarchy) (reaches : reader.Reaches start state) :
    Confined reader start layout lineage.resource
      (locate layout.naming reader located lineage state) := by
  induction lineage generalizing state with
  | root identifier =>
      rcases confined_or_onward vouched (.root identifier) reaches with done | ⟨later, reaches, run⟩
      · exact done
      · rw [run]
        exact confined_error reaches _
  | stray identifier reason =>
      rcases confined_or_onward vouched (.stray identifier reason) reaches with
        done | ⟨later, reaches, run⟩
      · exact done
      · rw [run]
        exact confined_error reaches _
  | child identifier parents inductionHypothesis =>
      rcases confined_or_onward vouched (.child identifier parents) reaches with
        done | ⟨later, reaches, run⟩
      · exact done
      · have onParents := inductionHypothesis follows.parents reaches
        rw [run, onward, Resolution.run_bind]
        rcases walk : locate layout.naming reader located parents later with ⟨result, last⟩
        rw [walk] at onParents
        cases result with
        | error error => exact confined_error onParents.reaches error
        | ok result =>
            rcases result with ⟨document, known⟩
            -- Whatever governs the resource, it has a parent and so it lies inside.
            have isInside : Admits reader start layout identifier :=
              Or.inl (Hierarchy.supports_of_parent follows.parent_eq)
            have vouchedAbove := (onParents.admits document known rfl).2
            exact confined_ok onParents.reaches isInside (vouchedAbove.insert isInside document)

theorem admits_of_govern (vouched : Vouched reader start layout located)
    (reaches : reader.Reaches start state) {governed result : Governed} {targets : List Identifier}
    (succeeded : (govern layout reader located governed targets state).1 = .ok result) :
    ∀ target ∈ targets, Admits reader start layout (layout.naming.governed target) := by
  induction targets generalizing located governed state with
  | nil => simp
  | cons target later inductionHypothesis =>
      have follows := Lineage.follows_lineage layout.hierarchy (layout.naming.governed target)
      have confined := confined_locate vouched follows reaches
      rw [Lineage.resource_lineage] at confined
      rw [govern, Resolution.run_bind, Layout.lineage] at succeeded
      rcases run : locate layout.naming reader located
        (layout.hierarchy.lineage (layout.naming.governed target)) state with ⟨outcome, last⟩
      rw [run] at succeeded confined
      cases outcome with
      | error error => cases succeeded
      | ok found =>
          rcases found with ⟨document, known⟩
          rcases confined.admits document known rfl with ⟨admits, vouchedLater⟩
          exact List.forall_mem_cons.2
            ⟨admits, inductionHypothesis vouchedLater confined.reaches succeeded⟩

/-- Whatever the reader does, only targets that were admitted are answered. -/
theorem admits_of_resolver {checker : Checker} {credentials : Credentials} {requested : AccessMap}
    {found : PermissionMap}
    (resolved : (resolver layout reader checker credentials requested start).1 = .ok found) :
    ∀ target ∈ requested.keys, Admits reader start layout (layout.naming.governed target) := by
  intro target isRequested
  rw [resolver, Resolution.run_bind] at resolved
  rcases run : govern layout reader ∅ ∅ requested.keys.toList start with ⟨outcome, last⟩
  rw [run] at resolved
  cases outcome with
  | error error => cases resolved
  | ok governed =>
      exact admits_of_govern (vouched_empty reader start layout) .start
        (congrArg Prod.fst run) target (AscendingSet.mem_iff_mem_toList.1 isRequested)

/-- What becomes of a request on a target outside of the hierarchy. -/
structure MeetsOutside (reader : Reader σ) (start : σ) (layout : Layout) (checker : Checker)
    (credentials : Credentials) (requested : AccessMap) (target : Identifier)
    (outcome : Except AccessError PermissionMap) : Prop where
  /-- There is no answer, unless the target is said to have a document of its own. -/
  fails : ¬reader.MayFind start (layout.naming.document (layout.naming.governed target)) →
    ∃ error, outcome = .error error
  /-- If it has none and no target before it fails, the error says where the target lies. -/
  names : ∀ answers, reader.Steady answers start →
    answers.presence (layout.naming.document (layout.naming.governed target)) = .ok false →
    (∀ earlier ∈ requested.keys, compare earlier target = .lt →
      ∃ document, answers.located layout.naming (layout.lineage earlier) = .ok document) →
    outcome = .error (.hierarchy (.unsupported (layout.naming.governed target)))
  /-- If it has one, there is an answer unless something else goes wrong. -/
  answered : ∀ answers, reader.Steady answers start → answers.Reliable →
    answers.presence (layout.naming.document (layout.naming.governed target)) = .ok true →
    (∀ other ∈ requested.keys, ∀ document,
      answers.located layout.naming (layout.lineage other) = .ok document →
      ∀ needed ∈ Inquiry.needs ⟨answers, layout, checker, credentials⟩ document other,
        answers.IsReadable needed) →
    (∀ other ∈ requested.keys, other ≠ target →
      ∃ document, answers.located layout.naming (layout.lineage other) = .ok document) →
    ∃ found, outcome = .ok found
  /-- If there is an answer, the target is given what its own document gives. -/
  judged : ∀ answers, reader.Steady answers start → ∀ found, outcome = .ok found →
    ∃ graph,
      answers.description (layout.naming.document (layout.naming.governed target)) = .ok graph ∧
      found.get? target = some (onTarget layout.naming target
        (Inquiry.permissions ⟨answers, layout, checker, credentials⟩
          (rulesOf graph .own (layout.naming.governed target))))

theorem located_of_outside {answers : Answers} {target document : Identifier}
    (isOutside : layout.hierarchy.supports (layout.naming.governed target) = false)
    (isLocated : answers.located layout.naming (layout.lineage target) = .ok document) :
    document = layout.naming.document (layout.naming.governed target) := by
  rw [Layout.lineage, Hierarchy.lineage_of_outside isOutside] at isLocated
  rcases Answers.own_or_missing_of_located isLocated with ⟨_, isOwn⟩ | missing
  · exact isOwn
  · rw [Answers.located_stray missing] at isLocated
    cases isLocated

/-- A target outside of the hierarchy is only answered by a document of its own. -/
theorem resolver_meets_outside (reader : Reader σ) (start : σ) (checker : Checker)
    (credentials : Credentials) {requested : AccessMap} {target : Identifier}
    (isRequested : target ∈ requested.keys)
    (isOutside : layout.hierarchy.supports (layout.naming.governed target) = false) :
    MeetsOutside reader start layout checker credentials requested target
      (resolver layout reader checker credentials requested start).1 where
  fails := by
    intro neverFound
    cases outcome : (resolver layout reader checker credentials requested start).1 with
    | error error => exact ⟨error, rfl⟩
    | ok found =>
        rcases admits_of_resolver outcome target isRequested with isInside | mayFind
        · rw [isOutside] at isInside
          cases isInside
        · exact absurd mayFind neverFound
  names := by
    intro answers steady missing earlier
    rw [run_resolver ⟨answers, layout, checker, credentials⟩ steady]
    have isStray : Inquiry.located ⟨answers, layout, checker, credentials⟩ target =
        .error (.hierarchy (.unsupported (layout.naming.governed target))) := by
      rw [Inquiry.located, Layout.lineage, Hierarchy.lineage_of_outside isOutside]
      exact Answers.located_stray missing
    exact resolve_of_first_stray isRequested isStray earlier
  answered := by
    intro answers steady reliable present readable othersLocated
    rw [run_resolver ⟨answers, layout, checker, credentials⟩ steady]
    refine (resolve_eq_ok_iff_of_reliable reliable).2 fun other isRequestedToo => ?_
    have isLocated : ∃ document,
        answers.located layout.naming (layout.lineage other) = .ok document := by
      by_cases same : other = target
      · subst same
        rw [Layout.lineage, Hierarchy.lineage_of_outside isOutside]
        exact ⟨_, Answers.located_of_present _ present⟩
      · exact othersLocated other isRequestedToo same
    rcases isLocated with ⟨document, isLocated⟩
    exact ⟨document, isLocated, readable other isRequestedToo document isLocated⟩
  judged := by
    intro answers steady found resolved
    rw [run_resolver ⟨answers, layout, checker, credentials⟩ steady] at resolved
    rcases get?_of_resolve resolved isRequested with
      ⟨document, graph, isLocated, described, isFound⟩
    have isOwn := located_of_outside isOutside isLocated
    subst isOwn
    refine ⟨graph, described, ?_⟩
    rw [isFound, Inquiry.grantedBy, Answers.content_of_description described, Inquiry.granted,
      Inquiry.rulesFor, AuxiliaryNaming.governed_document, scopeOf, if_pos rfl]

/-- A document on another host that lets everyone read the resource it is attached to. -/
def elsewhere : Answers := .ofGraphs (.ofList [(⟨"https://elsewhere/file.acl"⟩, .ofList [
  ⟨.iri "#open", .iri Rdf.type, .iri Acl.Authorization⟩,
  ⟨.iri "#open", .iri Acl.accessTo, .iri "https://elsewhere/file"⟩,
  ⟨.iri "#open", .iri Acl.agentClass, .iri Foaf.Agent⟩,
  ⟨.iri "#open", .iri Acl.mode, .iri Acl.Read⟩])])

def onElsewhere : AccessMap := .ofList [(⟨"https://elsewhere/file"⟩, ∅)]

/-- The file is reported to lie outside as long as nobody stores a document for it. -/
theorem elsewhere_is_answered :
    (resolver openLayout (Answers.ofGraphs openRoot).reader .standard {} onElsewhere ()).1 =
      .error (.hierarchy (.unsupported ⟨"https://elsewhere/file"⟩)) ∧
    ∃ found permissions,
      (resolver openLayout elsewhere.reader .standard {} onElsewhere ()).1 = .ok found ∧
      found.get? ⟨"https://elsewhere/file"⟩ = some permissions ∧
      permissions.allows .read = true := by
  have isRequested : ⟨"https://elsewhere/file"⟩ ∈ onElsewhere.keys := by decide
  have governs : openLayout.naming.governed ⟨"https://elsewhere/file"⟩ =
      ⟨"https://elsewhere/file"⟩ := AuxiliaryNaming.governed_of_plain (by decide)
  have isOutside : openLayout.hierarchy.supports
      (openLayout.naming.governed ⟨"https://elsewhere/file"⟩) = false := by decide +kernel
  have resolved : (resolver openLayout elsewhere.reader .standard {} onElsewhere ()).1 =
      .ok (.ofList [(⟨"https://elsewhere/file"⟩, { everyone := some { read := true } })]) :=
    toOption_eq_some_iff.1 (by decide +kernel)
  constructor
  · have meets := resolver_meets_outside (Answers.ofGraphs openRoot).reader () .standard {}
      isRequested isOutside
    have isNamed := meets.names _ (Answers.steady_reader _ ())
      (toOption_eq_some_iff.1 (by decide +kernel))
    rw [governs] at isNamed
    apply isNamed
    intro earlier isRequestedToo isEarlier
    have isOnly : earlier = ⟨"https://elsewhere/file"⟩ := List.mem_singleton.1 isRequestedToo
    rw [isOnly] at isEarlier
    simp at isEarlier
  · have meets := resolver_meets_outside elsewhere.reader () .standard {} isRequested isOutside
    rcases meets.judged elsewhere (Answers.steady_reader elsewhere ()) _ resolved with
      ⟨graph, _, isFound⟩
    have isReading : (.ofList [(⟨"https://elsewhere/file"⟩, { everyone := some { read := true } })] :
        PermissionMap).get? ⟨"https://elsewhere/file"⟩ =
          some { everyone := some { read := true } } := by decide
    refine ⟨_, _, resolved, isFound, ?_⟩
    rw [isFound, Option.some.injEq] at isReading
    rw [isReading]
    rfl

end WebAccess

end LinkedAccess
