import LinkedAccess.Proofs.Lineage
import LinkedAccess.Proofs.WebAccess.Rules

/-!
# Where the governing documents are

Locating remembers every resource it has passed. A memo in which each resource leads to the document
that a walk from this resource would find is never wrong about a later target, and locating keeps it
so: what is shared is the rest of the way, and that is the same for all who come through. So the
governing document of a target is `Answers.located`, the outcome of its own walk, and the targets
are gathered under just these documents. What is asked on the way are the resources of
`Answers.approach` that were not met before.
-/

namespace LinkedAccess

namespace Answers

/-- Whether a document is there. To be told that it is not found is an answer, and no error. -/
def presence (answers : Answers) (document : Identifier) : Except AccessError Bool :=
  match answers.probe document with
  | .ok found => .ok found
  | .error error => if error.isNotFound then .ok false else .error (.ofRead document error)

/-- The document that governs the resource of a lineage, found without any memory. -/
def located (answers : Answers) (naming : AuxiliaryNaming) (lineage : Lineage) :
    Except AccessError Identifier :=
  match answers.presence (naming.document lineage.resource) with
  | .error error => .error error
  | .ok true => .ok (naming.document lineage.resource)
  | .ok false =>
    match lineage with
    | .root identifier => .error (.missingRootPolicy identifier)
    | .stray _ reason => .error (.hierarchy reason)
    | .child _ parents => answers.located naming parents

/-- The resources that are asked about to locate the first of a lineage without any memory. -/
def approach (answers : Answers) (naming : AuxiliaryNaming) (lineage : Lineage) :
    List Identifier :=
  match answers.presence (naming.document lineage.resource) with
  | .error _ => [lineage.resource]
  | .ok true => [lineage.resource]
  | .ok false =>
    match lineage with
    | .root identifier => [identifier]
    | .stray identifier _ => [identifier]
    | .child identifier parents => identifier :: answers.approach naming parents

variable {answers : Answers} {naming : AuxiliaryNaming}

theorem finds_of_presence {document : Identifier} {found : Bool}
    (presence : answers.presence document = .ok found) : answers.finds document = found := by
  unfold Answers.presence at presence
  unfold finds
  cases probe : answers.probe document with
  | ok answer => simpa [probe] using presence
  | error error =>
      rw [probe] at presence
      simp only at presence
      split at presence
      · simpa using presence
      · cases presence

theorem located_of_present (lineage : Lineage)
    (present : answers.presence (naming.document lineage.resource) = .ok true) :
    answers.located naming lineage = .ok (naming.document lineage.resource) := by
  rw [located.eq_def, present]

theorem located_of_error (lineage : Lineage) {error : AccessError}
    (failed : answers.presence (naming.document lineage.resource) = .error error) :
    answers.located naming lineage = .error error := by
  rw [located.eq_def, failed]

theorem located_root {identifier : Identifier}
    (missing : answers.presence (naming.document (Lineage.root identifier).resource) = .ok false) :
    answers.located naming (.root identifier) = .error (.missingRootPolicy identifier) := by
  rw [located.eq_def, missing]

theorem located_stray {identifier : Identifier} {reason : StorageError}
    (missing :
      answers.presence (naming.document (Lineage.stray identifier reason).resource) = .ok false) :
    answers.located naming (.stray identifier reason) = .error (.hierarchy reason) := by
  rw [located.eq_def, missing]

theorem located_child {identifier : Identifier} (parents : Lineage)
    (missing :
      answers.presence (naming.document (Lineage.child identifier parents).resource) = .ok false) :
    answers.located naming (.child identifier parents) = answers.located naming parents := by
  rw [located.eq_def, missing]

theorem find?_chain_of_finds (lineage : Lineage)
    (found : answers.finds (naming.document lineage.resource) = true) :
    lineage.chain.find? (fun resource => answers.finds (naming.document resource)) =
      some lineage.resource :=
  List.find?_cons_of_pos found

theorem find?_chain_child {identifier : Identifier} {parents : Lineage}
    (missing : answers.finds (naming.document identifier) = false) :
    (Lineage.child identifier parents).chain.find?
        (fun resource => answers.finds (naming.document resource)) =
      parents.chain.find? (fun resource => answers.finds (naming.document resource)) :=
  List.find?_cons_of_neg (by simp [Lineage.resource, missing])

theorem own_or_missing_of_located {lineage : Lineage} {document : Identifier}
    (isLocated : answers.located naming lineage = .ok document) :
    answers.finds (naming.document lineage.resource) = true ∧
        document = naming.document lineage.resource ∨
      answers.presence (naming.document lineage.resource) = .ok false := by
  cases presence : answers.presence (naming.document lineage.resource) with
  | error error =>
      rw [located_of_error lineage presence] at isLocated
      cases isLocated
  | ok found =>
      cases found with
      | false => exact Or.inr rfl
      | true =>
          rw [located_of_present lineage presence, Except.ok.injEq] at isLocated
          exact Or.inl ⟨finds_of_presence presence, isLocated.symm⟩

/-- What governs is the document of the first resource that has one. -/
theorem find?_of_located {lineage : Lineage} {document : Identifier}
    (isLocated : answers.located naming lineage = .ok document) :
    ∃ resource, lineage.chain.find? (fun resource => answers.finds (naming.document resource)) =
      some resource ∧ document = naming.document resource := by
  induction lineage with
  | root identifier =>
      rcases own_or_missing_of_located isLocated with ⟨isFound, isOwn⟩ | missing
      · exact ⟨_, find?_chain_of_finds _ isFound, isOwn⟩
      · rw [located_root missing] at isLocated
        cases isLocated
  | stray identifier reason =>
      rcases own_or_missing_of_located isLocated with ⟨isFound, isOwn⟩ | missing
      · exact ⟨_, find?_chain_of_finds _ isFound, isOwn⟩
      · rw [located_stray missing] at isLocated
        cases isLocated
  | child identifier parents inductionHypothesis =>
      rcases own_or_missing_of_located isLocated with ⟨isFound, isOwn⟩ | missing
      · exact ⟨_, find?_chain_of_finds _ isFound, isOwn⟩
      · rw [located_child parents missing] at isLocated
        rcases inductionHypothesis isLocated with ⟨resource, isFirst, documentEq⟩
        exact ⟨resource, (find?_chain_child (finds_of_presence missing)).trans isFirst, documentEq⟩

theorem finds_of_located {lineage : Lineage} {document : Identifier}
    (isLocated : answers.located naming lineage = .ok document) :
    answers.finds document = true := by
  rcases find?_of_located isLocated with ⟨resource, isFirst, rfl⟩
  have isFound := List.find?_some isFirst
  exact isFound

theorem approach_of_present (lineage : Lineage)
    (present : answers.presence (naming.document lineage.resource) = .ok true) :
    answers.approach naming lineage = [lineage.resource] := by
  rw [approach.eq_def, present]

theorem approach_of_error (lineage : Lineage) {error : AccessError}
    (failed : answers.presence (naming.document lineage.resource) = .error error) :
    answers.approach naming lineage = [lineage.resource] := by
  rw [approach.eq_def, failed]

theorem approach_root (identifier : Identifier) :
    answers.approach naming (.root identifier) = [identifier] := by
  rw [approach.eq_def]
  split
  · rfl
  · rfl
  · rfl

theorem approach_stray (identifier : Identifier) (reason : StorageError) :
    answers.approach naming (.stray identifier reason) = [identifier] := by
  rw [approach.eq_def]
  split
  · rfl
  · rfl
  · rfl

theorem approach_child {identifier : Identifier} (parents : Lineage)
    (missing :
      answers.presence (naming.document (Lineage.child identifier parents).resource) = .ok false) :
    answers.approach naming (.child identifier parents) =
      identifier :: answers.approach naming parents := by
  rw [approach.eq_def, missing]

/-- Below the last resource that is asked about none has a document. -/
theorem only_or_missing (identifier : Identifier) (parents : Lineage) :
    answers.approach naming (.child identifier parents) = [identifier] ∨
      answers.presence (naming.document (Lineage.child identifier parents).resource) =
        .ok false := by
  cases presence : answers.presence
      (naming.document (Lineage.child identifier parents).resource) with
  | error error => exact Or.inl (approach_of_error _ presence)
  | ok found =>
      cases found with
      | true => exact Or.inl (approach_of_present _ presence)
      | false => exact Or.inr rfl

theorem approach_isPrefix (lineage : Lineage) :
    answers.approach naming lineage <+: lineage.chain := by
  induction lineage with
  | root identifier =>
      rw [approach_root]
      exact List.prefix_append _ _
  | stray identifier reason =>
      rw [approach_stray]
      exact List.prefix_append _ _
  | child identifier parents inductionHypothesis =>
      rw [Lineage.chain_child]
      rcases answers.only_or_missing identifier parents with isOnly | missing
      · rw [isOnly]
        exact List.prefix_append [identifier] _
      · rw [approach_child parents missing, List.prefix_cons_inj]
        exact inductionHypothesis

end Answers

namespace AuxiliaryNaming

/-- The questions whether resources have documents. -/
def probes (naming : AuxiliaryNaming) (resources : List Identifier) : List Access :=
  resources.map fun resource => .probe (naming.document resource)

theorem probes_append (naming : AuxiliaryNaming) (first second : List Identifier) :
    naming.probes (first ++ second) = naming.probes first ++ naming.probes second :=
  List.map_append

end AuxiliaryNaming

namespace Reader

variable {σ : Type} {reader : Reader σ} {answers : Answers} {state : σ}

theorem run_isPresent (steady : reader.Steady answers state) (document : Identifier) :
    (reader.isPresent document state).1 = answers.presence document ∧
      (reader.isPresent document state).2 = reader.after [.probe document] state := by
  unfold isPresent Answers.presence
  rw [← (steady.probe document).1]
  rcases run : reader.probe document state with ⟨found, later⟩
  have laterEq : reader.after [.probe document] state = later := congrArg Prod.snd run
  rw [laterEq]
  cases found with
  | ok found => exact ⟨rfl, rfl⟩
  | error error =>
      simp only
      split
      · exact ⟨rfl, rfl⟩
      · exact ⟨rfl, rfl⟩

end Reader

namespace WebAccess

variable {σ : Type} {reader : Reader σ} {answers : Answers} {layout : Layout} {state : σ}
  {known : List Identifier} {located : Located}

/-- Every remembered resource leads to the document that its own walk finds, and with a resource all
are remembered that this walk meets. -/
structure Recalls (answers : Answers) (layout : Layout) (known : List Identifier)
    (located : Located) : Prop where
  faithful : ∀ resource document, located.get? resource = some document →
    answers.located layout.naming (layout.hierarchy.lineage resource) = .ok document
  isKnown_iff : ∀ resource, resource ∈ known ↔ ∃ document, located.get? resource = some document
  closed : ∀ resource ∈ known,
    ∀ above ∈ answers.approach layout.naming (layout.hierarchy.lineage resource), above ∈ known

theorem recalls_empty (answers : Answers) (layout : Layout) : Recalls answers layout [] ∅ where
  faithful _ _ isKnown := by cases isKnown
  isKnown_iff resource := by simp
  closed _ impossible := by cases impossible

namespace Recalls

theorem not_mem_iff (recalls : Recalls answers layout known located) {resource : Identifier} :
    resource ∉ known ↔ located.get? resource = none := by
  rw [recalls.isKnown_iff]
  cases located.get? resource with
  | some document => simp
  | none => simp

theorem congr {other : List Identifier} (recalls : Recalls answers layout known located)
    (same : ∀ resource, resource ∈ other ↔ resource ∈ known) :
    Recalls answers layout other located where
  faithful := recalls.faithful
  isKnown_iff resource := (same resource).trans (recalls.isKnown_iff resource)
  closed resource isKnown above isAbove :=
    (same above).2 (recalls.closed resource ((same resource).1 isKnown) above isAbove)

theorem insert (recalls : Recalls answers layout known located)
    {resource document : Identifier}
    (isLocated :
      answers.located layout.naming (layout.hierarchy.lineage resource) = .ok document)
    (onWay : ∀ above ∈ answers.approach layout.naming (layout.hierarchy.lineage resource),
      above ∈ known ++ [resource]) :
    Recalls answers layout (known ++ [resource]) (located.insert resource document) where
  faithful := AscendingMap.forall_insert recalls.faithful isLocated
  isKnown_iff other := by
    rw [AscendingMap.get?_insert, List.mem_append, List.mem_singleton, recalls.isKnown_iff]
    by_cases same : other = resource
    · simp [same]
    · simp [same]
  closed other otherMem above isAbove := by
    rcases List.mem_append.1 otherMem with isKnown | isHere
    · exact List.mem_append_left _ (recalls.closed other isKnown above isAbove)
    · rw [List.mem_singleton.1 isHere] at isAbove
      exact onWay above isAbove

end Recalls

/-- What locating a resource comes to, what is asked for it and what is remembered afterwards. -/
structure Locates (reader : Reader σ) (answers : Answers) (layout : Layout)
    (known : List Identifier) (located : Located) (lineage : Lineage) (state : σ) : Prop where
  outcome : (locate layout.naming reader located lineage state).1.map (·.1) =
    answers.located layout.naming lineage
  leads : (locate layout.naming reader located lineage state).2 =
    reader.after (layout.naming.probes (unseen known (answers.approach layout.naming lineage))) state
  recalls : ∀ found, (locate layout.naming reader located lineage state).1 = .ok found →
    Recalls answers layout (known ++ answers.approach layout.naming lineage) found.2

/-- What is done to locate a resource that has no document of its own. -/
def onward (naming : AuxiliaryNaming) (reader : Reader σ) (located : Located) :
    Lineage → Resolution σ (Identifier × Located)
  | .root identifier => throw (.missingRootPolicy identifier)
  | .stray _ reason => throw (.hierarchy reason)
  | .child identifier parents => do
    let (document, located) ← locate naming reader located parents
    pure (document, located.insert identifier document)

/-- A resource that is not remembered is asked about, and what is done then is up to the answer. -/
theorem run_locate_of_fresh (lineage : Lineage) (steady : reader.Steady answers state)
    (isFresh : located.get? lineage.resource = none) :
    locate layout.naming reader located lineage state =
      let document := layout.naming.document lineage.resource
      let later := reader.after [.probe document] state
      match answers.presence document with
      | .error error => (.error error, later)
      | .ok true => (.ok (document, located.insert lineage.resource document), later)
      | .ok false => onward layout.naming reader located lineage later := by
  rcases Reader.run_isPresent steady (layout.naming.document lineage.resource) with ⟨answer, leads⟩
  rcases run : reader.isPresent (layout.naming.document lineage.resource) state with ⟨found, later⟩
  rw [run] at answer leads
  simp only at answer leads
  rw [locate.eq_def, isFresh]
  simp only [Resolution.run_bind, run, ← answer, ← leads]
  cases found with
  | error error => rfl
  | ok found =>
      cases found with
      | true => rfl
      | false =>
          cases lineage with
          | root identifier => rfl
          | stray identifier reason => rfl
          | child identifier parents => rfl

theorem locates_of_found {lineage : Lineage} {document : Identifier} {after : Located} {later : σ}
    (run : locate layout.naming reader located lineage state = (.ok (document, after), later))
    (isLocated : answers.located layout.naming lineage = .ok document)
    (leads : later = reader.after
      (layout.naming.probes (unseen known (answers.approach layout.naming lineage))) state)
    (kept : Recalls answers layout (known ++ answers.approach layout.naming lineage) after) :
    Locates reader answers layout known located lineage state where
  outcome := by
    rw [run, isLocated]
    rfl
  leads := by rw [run, leads]
  recalls := by
    intro found isFound
    rw [run] at isFound
    cases isFound
    exact kept

theorem locates_of_throw {lineage : Lineage} {error : AccessError} {later : σ}
    (run : locate layout.naming reader located lineage state = (.error error, later))
    (fails : answers.located layout.naming lineage = .error error)
    (leads : later = reader.after
      (layout.naming.probes (unseen known (answers.approach layout.naming lineage))) state) :
    Locates reader answers layout known located lineage state where
  outcome := by
    rw [run, fails]
    rfl
  leads := by rw [run, leads]
  recalls := by
    intro found isFound
    rw [run] at isFound
    cases isFound

theorem Recalls.locates_of_isKnown (recalls : Recalls answers layout known located)
    {lineage : Lineage} (follows : lineage.Follows layout.hierarchy) {document : Identifier}
    (isKnown : located.get? lineage.resource = some document) :
    Locates reader answers layout known located lineage state := by
  have isLocated := recalls.faithful _ _ isKnown
  have isMem := (recalls.isKnown_iff _).2 ⟨document, isKnown⟩
  have onWay := recalls.closed _ isMem
  rw [follows] at isLocated onWay
  have run : locate layout.naming reader located lineage state =
      (.ok (document, located), state) := by
    rw [locate.eq_def, isKnown]
    rfl
  refine locates_of_found run isLocated ?_ (recalls.congr (by grind))
  rw [unseen_eq_nil_iff.2 onWay]
  rfl

/-- Unless a resource is unknown and has no document, the rest of the way is not looked at. -/
theorem locates_or_missing (recalls : Recalls answers layout known located) {lineage : Lineage}
    (follows : lineage.Follows layout.hierarchy) (steady : reader.Steady answers state) :
    Locates reader answers layout known located lineage state ∨
      located.get? lineage.resource = none ∧
        answers.presence (layout.naming.document lineage.resource) = .ok false := by
  cases isKnown : located.get? lineage.resource with
  | some document => exact Or.inl (recalls.locates_of_isKnown follows isKnown)
  | none =>
      have isFresh := recalls.not_mem_iff.2 isKnown
      have run : locate layout.naming reader located lineage state = _ :=
        run_locate_of_fresh lineage steady isKnown
      cases presence : answers.presence (layout.naming.document lineage.resource) with
      | error error =>
          left
          simp only [presence] at run
          refine locates_of_throw run (Answers.located_of_error lineage presence) ?_
          rw [Answers.approach_of_error lineage presence,
            unseen_cons_of_fresh isFresh List.not_mem_nil]
          rfl
      | ok found =>
          cases found with
          | false => exact Or.inr ⟨rfl, rfl⟩
          | true =>
              left
              have isLocated := Answers.located_of_present lineage presence
              have isOnly := Answers.approach_of_present lineage presence
              simp only [presence] at run
              refine locates_of_found run isLocated ?_ ?_
              · rw [isOnly, unseen_cons_of_fresh isFresh List.not_mem_nil]
                rfl
              · rw [isOnly]
                rw [← follows] at isLocated isOnly
                refine recalls.insert (by simpa using isLocated) ?_
                simp [isOnly]

theorem run_locate_of_missing (lineage : Lineage) (steady : reader.Steady answers state)
    (isFresh : located.get? lineage.resource = none)
    (missing : answers.presence (layout.naming.document lineage.resource) = .ok false) :
    locate layout.naming reader located lineage state =
      onward layout.naming reader located lineage
        (reader.after [.probe (layout.naming.document lineage.resource)] state) := by
  rw [run_locate_of_fresh lineage steady isFresh]
  simp only [missing]

/-- A resource without a document is located as what is above it, and is remembered with it. -/
theorem Locates.child {identifier : Identifier} {parents : Lineage}
    (recalls : Recalls answers layout known located)
    (follows : (Lineage.child identifier parents).Follows layout.hierarchy)
    (steady : reader.Steady answers state) (isFresh : located.get? identifier = none)
    (missing : answers.presence (layout.naming.document identifier) = .ok false)
    (onParents : Locates reader answers layout known located parents
      (reader.after [.probe (layout.naming.document identifier)] state)) :
    Locates reader answers layout known located (.child identifier parents) state := by
  have isOnce : identifier ∉ answers.approach layout.naming parents :=
    fun isMet => follows.not_mem_chain ((answers.approach_isPrefix parents).subset isMet)
  have isLocated : answers.located layout.naming (.child identifier parents) = _ :=
    Answers.located_child parents missing
  have approaches : answers.approach layout.naming (.child identifier parents) = _ :=
    Answers.approach_child parents missing
  have run : locate layout.naming reader located (.child identifier parents) state =
      onward layout.naming reader located (.child identifier parents)
        (reader.after [.probe (layout.naming.document identifier)] state) :=
    run_locate_of_missing _ steady isFresh missing
  rw [onward, Resolution.run_bind] at run
  rcases onParents with ⟨outcome, leads, kept⟩
  rcases walk : locate layout.naming reader located parents
    (reader.after [.probe (layout.naming.document identifier)] state) with ⟨result, last⟩
  rw [walk] at run outcome leads kept
  have leadsOn : last = reader.after (layout.naming.probes
      (unseen known (answers.approach layout.naming (.child identifier parents)))) state := by
    rw [approaches, unseen_cons_of_fresh (recalls.not_mem_iff.2 isFresh) isOnce]
    exact leads
  cases result with
  | error error =>
      refine locates_of_throw run ?_ leadsOn
      rw [isLocated, ← outcome]
      rfl
  | ok found =>
      rcases found with ⟨document, after⟩
      have isOurs : answers.located layout.naming (.child identifier parents) = .ok document := by
        rw [isLocated, ← outcome]
        rfl
      refine locates_of_found run isOurs leadsOn ?_
      -- The rest of the way is remembered by then, so the first resource may join it.
      have beyond := kept (document, after) rfl
      have self : layout.hierarchy.lineage identifier = .child identifier parents := follows
      rw [← self] at isOurs
      refine (beyond.insert isOurs ?_).congr ?_
      · rw [self, approaches]
        grind
      · rw [approaches]
        grind

/-- With what was remembered before a resource is located as it is without any memory, and only what
is not remembered is asked about. -/
theorem locates (recalls : Recalls answers layout known located) {lineage : Lineage}
    (follows : lineage.Follows layout.hierarchy) (steady : reader.Steady answers state) :
    Locates reader answers layout known located lineage state := by
  induction lineage generalizing state with
  | root identifier =>
      rcases locates_or_missing recalls follows steady with done | ⟨isFresh, missing⟩
      · exact done
      · have isUnseen : identifier ∉ known := recalls.not_mem_iff.2 isFresh
        refine locates_of_throw (run_locate_of_missing _ steady isFresh missing)
          (Answers.located_root missing) ?_
        rw [Answers.approach_root, unseen_cons_of_fresh isUnseen List.not_mem_nil]
        rfl
  | stray identifier reason =>
      rcases locates_or_missing recalls follows steady with done | ⟨isFresh, missing⟩
      · exact done
      · have isUnseen : identifier ∉ known := recalls.not_mem_iff.2 isFresh
        refine locates_of_throw (run_locate_of_missing _ steady isFresh missing)
          (Answers.located_stray missing) ?_
        rw [Answers.approach_stray, unseen_cons_of_fresh isUnseen List.not_mem_nil]
        rfl
  | child identifier parents inductionHypothesis =>
      rcases locates_or_missing recalls follows steady with done | ⟨isFresh, missing⟩
      · exact done
      · exact Locates.child recalls follows steady isFresh missing
          (inductionHypothesis follows.parents (steady.after _))

end WebAccess

end LinkedAccess
