import LinkedAccess.Proofs.WebAccess.Location

/-!
# How a request is worked off

All targets are located first, and gathered under the documents that govern them. What follows is a
list of loads: each document, which then has to be there, and after it the group documents that are
consulted for its targets, which do not. The request is answered if all of these loads succeed, and
the answer holds for each target what its document grants.

`Inquiry.resolve` is this outcome as a function of the answers, and `run_resolver` says that it is
the outcome of the resolver. In the same way `Inquiry.accesses` are the accesses that it makes.
-/

namespace LinkedAccess

namespace WebAccess

namespace Inquiry

/-- The document that governs a target. -/
def located (inquiry : Inquiry) (target : Identifier) : Except AccessError Identifier :=
  inquiry.answers.located inquiry.layout.naming (inquiry.layout.lineage target)

/-- The resources that are asked about for a target alone. -/
def approach (inquiry : Inquiry) (target : Identifier) : List Identifier :=
  inquiry.answers.approach inquiry.layout.naming (inquiry.layout.lineage target)

/-- The resources that are asked about for the targets of a list: those that were not asked about
before, as long as each target is located. -/
def sought (inquiry : Inquiry) (known : List Identifier) : List Identifier → List Identifier
  | [] => []
  | target :: later =>
    unseen known (inquiry.approach target) ++
      continuing (inquiry.located target) (inquiry.sought (known ++ inquiry.approach target) later)

/-- The targets that a document governs. -/
def governedBy (inquiry : Inquiry) (targets : List Identifier) (document : Identifier) :
    List Identifier :=
  targets.filter fun target => decide ((inquiry.located target).toOption = some document)

/-- The documents that govern the targets of a list, each with those that it governs. -/
def gather (inquiry : Inquiry) (governed : Governed) :
    List Identifier → Except AccessError Governed
  | [] => .ok governed
  | target :: later => do
    let document ← inquiry.located target
    let targets := (governed.get? document).getD [] ++ [target]
    inquiry.gather (governed.insert document targets) later

/-- What a document gives on a target. -/
def grantedBy (inquiry : Inquiry) (document target : Identifier) : PermissionSet :=
  inquiry.granted (inquiry.answers.content document) (inquiry.layout.naming.governed document)
    target

/-- The group documents that are asked for to judge a target by a document. -/
def consultedFor (inquiry : Inquiry) (document target : Identifier) : List Identifier :=
  inquiry.consulted (inquiry.rulesFor (inquiry.answers.content document)
    (inquiry.layout.naming.governed document) target)

/-- A map with an entry for each target that is listed under a document. -/
def findings (inquiry : Inquiry) (found : PermissionMap)
    (entries : List (Identifier × List Identifier)) : PermissionMap :=
  entries.foldl (fun found entry => entry.2.foldl (fun found target =>
    found.insert target (inquiry.grantedBy entry.1 target)) found) found

/-- The loads that are made for the targets of one document after another. -/
def loads (inquiry : Inquiry) (entries : List (Identifier × List Identifier)) :
    List (Identifier × Absence) :=
  entries.flatMap fun entry =>
    (entry.1, .fail) :: (entry.2.flatMap (inquiry.consultedFor entry.1)).map (·, .empty)

/-- The documents that are read for a request on the targets of a list. -/
def reads (inquiry : Inquiry) (targets : List Identifier) : List Identifier :=
  match inquiry.gather ∅ targets with
  | .ok governed => inquiry.answers.made [] (inquiry.loads governed.toList)
  | .error _ => []

/-- All that is asked for a request on the targets of a list. -/
def accesses (inquiry : Inquiry) (targets : List Identifier) : List Access :=
  inquiry.layout.naming.probes (inquiry.sought [] targets) ++ (inquiry.reads targets).map .read

/-- The outcome of a request on the targets of a list. -/
def resolve (inquiry : Inquiry) (targets : List Identifier) : Except AccessError PermissionMap := do
  let governed ← inquiry.gather ∅ targets
  inquiry.answers.loading (inquiry.findings ∅ governed.toList) [] (inquiry.loads governed.toList)

end Inquiry

variable {σ : Type} {reader : Reader σ} {inquiry : Inquiry} {state : σ}

/-- What is gathered are the targets of each document that governs any. -/
def Gathered (inquiry : Inquiry) (targets : List Identifier) (governed : Governed) : Prop :=
  ∀ document, governed.get? document =
    if inquiry.governedBy targets document = [] then none
    else some (inquiry.governedBy targets document)

theorem gathered_nil : Gathered inquiry [] ∅ := fun _ => rfl

theorem Gathered.insert {targets : List Identifier} {governed : Governed}
    (gathered : Gathered inquiry targets governed) {target document : Identifier}
    (isLocated : inquiry.located target = .ok document) :
    Gathered inquiry (targets ++ [target])
      (governed.insert document ((governed.get? document).getD [] ++ [target])) := by
  intro other
  have before : (governed.get? document).getD [] = inquiry.governedBy targets document := by
    rw [gathered document]
    split
    · simp [*]
    · rfl
  have after : inquiry.governedBy (targets ++ [target]) other =
      inquiry.governedBy targets other ++ if document = other then [target] else [] := by
    simp [Inquiry.governedBy, List.filter_cons, isLocated, Except.toOption]
  rw [AscendingMap.get?_insert, before, after]
  by_cases same : other = document
  · subst same
    simp
  · simpa [same, Ne.symm same] using gathered other

theorem Gathered.gather {targets done : List Identifier} {governed result : Governed}
    (gathered : Gathered inquiry done governed)
    (succeeded : inquiry.gather governed targets = .ok result) :
    Gathered inquiry (done ++ targets) result ∧
      ∀ target ∈ targets, ∃ document, inquiry.located target = .ok document := by
  induction targets generalizing governed done with
  | nil =>
      cases succeeded
      exact ⟨by rwa [List.append_nil], by simp⟩
  | cons target later inductionHypothesis =>
      simp only [Inquiry.gather] at succeeded
      cases isLocated : inquiry.located target with
      | error error =>
          rw [isLocated] at succeeded
          cases succeeded
      | ok document =>
          rw [isLocated] at succeeded
          rcases inductionHypothesis (gathered.insert isLocated) succeeded with ⟨atEnd, onLater⟩
          rw [List.append_assoc] at atEnd
          exact ⟨atEnd, List.forall_mem_cons.2 ⟨⟨document, isLocated⟩, onLater⟩⟩

theorem gathered_of_gather {targets : List Identifier} {governed : Governed}
    (gathering : inquiry.gather ∅ targets = .ok governed) :
    Gathered inquiry targets governed ∧
      ∀ target ∈ targets, ∃ document, inquiry.located target = .ok document :=
  gathered_nil.gather gathering

theorem gather_of_located {targets : List Identifier} (governed : Governed)
    (allLocated : ∀ target ∈ targets, ∃ document, inquiry.located target = .ok document) :
    ∃ result, inquiry.gather governed targets = .ok result := by
  induction targets generalizing governed with
  | nil => exact ⟨governed, rfl⟩
  | cons target later inductionHypothesis =>
      rcases List.forall_mem_cons.1 allLocated with ⟨⟨document, isLocated⟩, onLater⟩
      rw [Inquiry.gather, isLocated]
      exact inductionHypothesis _ onLater

theorem gather_of_error {earlier later : List Identifier} {target : Identifier}
    {error : AccessError} (governed : Governed)
    (allLocated : ∀ other ∈ earlier, ∃ document, inquiry.located other = .ok document)
    (failed : inquiry.located target = .error error) :
    inquiry.gather governed (earlier ++ target :: later) = .error error := by
  induction earlier generalizing governed with
  | nil =>
      rw [List.nil_append, Inquiry.gather, failed]
      rfl
  | cons other earlier inductionHypothesis =>
      rcases List.forall_mem_cons.1 allLocated with ⟨⟨document, isLocated⟩, onLater⟩
      rw [List.cons_append, Inquiry.gather, isLocated]
      exact inductionHypothesis _ onLater

@[simp]
theorem mem_governedBy {targets : List Identifier} {document target : Identifier} :
    target ∈ inquiry.governedBy targets document ↔
      target ∈ targets ∧ inquiry.located target = .ok document := by
  rw [Inquiry.governedBy, List.mem_filter, decide_eq_true_iff, toOption_eq_some_iff]

theorem Gathered.mem_toList {targets group : List Identifier} {governed : Governed}
    (gathered : Gathered inquiry targets governed) {document : Identifier} :
    (document, group) ∈ governed.toList ↔
      group = inquiry.governedBy targets document ∧ group ≠ [] := by
  rw [AscendingMap.mem_toList, gathered document]
  split
  · grind
  · grind

theorem Gathered.entry_mem {targets : List Identifier} {governed : Governed}
    (gathered : Gathered inquiry targets governed) {document target : Identifier}
    (targetMem : target ∈ targets) (isLocated : inquiry.located target = .ok document) :
    (document, inquiry.governedBy targets document) ∈ governed.toList :=
  gathered.mem_toList.2 ⟨rfl, List.ne_nil_of_mem (mem_governedBy.2 ⟨targetMem, isLocated⟩)⟩

theorem Gathered.attached {targets : List Identifier} {governed : Governed}
    (gathered : Gathered inquiry targets governed) :
    ∀ entry ∈ governed.toList, ∃ resource,
      entry.1 = inquiry.layout.naming.document resource := by
  rintro ⟨document, group⟩ entryMem
  rcases gathered.mem_toList.1 entryMem with ⟨rfl, notEmpty⟩
  rcases List.exists_mem_of_ne_nil _ notEmpty with ⟨target, targetMem⟩
  rcases Answers.find?_of_located (mem_governedBy.1 targetMem).2 with ⟨resource, _, documentEq⟩
  exact ⟨resource, documentEq⟩

theorem Gathered.isOnly {targets : List Identifier} {governed : Governed}
    (gathered : Gathered inquiry targets governed) {document target : Identifier}
    (isLocated : inquiry.located target = .ok document) :
    ∀ entry ∈ governed.toList, target ∈ entry.2 → entry.1 = document := by
  rintro ⟨other, group⟩ entryMem targetMem
  rcases gathered.mem_toList.1 entryMem with ⟨rfl, _⟩
  have isLocatedThere := (mem_governedBy.1 targetMem).2
  rw [isLocated, Except.ok.injEq] at isLocatedThere
  exact isLocatedThere.symm

theorem get?_findings {entries : List (Identifier × List Identifier)} {document target : Identifier}
    (isOnly : ∀ entry ∈ entries, target ∈ entry.2 → entry.1 = document) {found : PermissionMap}
    (isGiven : (∃ entry ∈ entries, target ∈ entry.2) ∨
      found.get? target = some (inquiry.grantedBy document target)) :
    (inquiry.findings found entries).get? target =
      some (inquiry.grantedBy document target) := by
  induction entries generalizing found with
  | nil =>
      rcases isGiven with ⟨entry, entryMem, _⟩ | isFound
      · cases entryMem
      · exact isFound
  | cons entry later inductionHypothesis =>
      rcases List.forall_mem_cons.1 isOnly with ⟨isFirst, onLater⟩
      apply inductionHypothesis onLater
      rw [AscendingMap.get?_foldl_insert]
      by_cases isHere : target ∈ entry.2
      · right
        rw [if_pos isHere, isFirst isHere]
      · rcases isGiven with ⟨other, otherMem, targetMem⟩ | isFound
        · rcases List.mem_cons.1 otherMem with rfl | otherMem
          · exact absurd targetMem isHere
          · exact Or.inl ⟨other, otherMem, targetMem⟩
        · right
          rw [if_neg isHere, isFound]

theorem run_locate (inquiry : Inquiry) (steady : reader.Steady inquiry.answers state)
    (target : Identifier) :
    (locate inquiry.layout.naming reader ∅ (inquiry.layout.lineage target) state).1.map (·.1) =
      inquiry.located target :=
  (locates (recalls_empty inquiry.answers inquiry.layout)
    (Lineage.follows_lineage inquiry.layout.hierarchy _) steady).outcome

theorem runs_govern (steady : reader.Steady inquiry.answers state) {known : List Identifier}
    {located : Located} (recalls : Recalls inquiry.answers inquiry.layout known located)
    (governed : Governed) (targets : List Identifier) :
    (govern inquiry.layout reader located governed targets state).1 =
        inquiry.gather governed targets ∧
      (govern inquiry.layout reader located governed targets state).2 =
        reader.after (inquiry.layout.naming.probes (inquiry.sought known targets)) state := by
  induction targets generalizing state known located governed with
  | nil => exact ⟨rfl, rfl⟩
  | cons target later inductionHypothesis =>
      have follows := Lineage.follows_lineage inquiry.layout.hierarchy
        (inquiry.layout.naming.governed target)
      rcases locates recalls follows steady with ⟨outcome, leads, kept⟩
      rw [← Layout.lineage, ← Inquiry.approach] at leads
      rw [← Layout.lineage, ← Inquiry.located] at outcome
      rw [govern, Inquiry.gather, Inquiry.sought, AuxiliaryNaming.probes_append,
        Reader.after_append, ← leads, Resolution.run_bind, ← outcome]
      rw [← Layout.lineage] at kept
      rcases run : locate inquiry.layout.naming reader located (inquiry.layout.lineage target) state
        with ⟨result, after⟩
      rw [run] at kept leads
      cases result with
      | error error => exact ⟨rfl, rfl⟩
      | ok found =>
          have steadyThen : reader.Steady inquiry.answers after := by
            rw [show after = _ from leads]
            exact steady.after _
          exact inductionHypothesis steadyThen (kept found rfl) _

theorem loads_cons (document : Identifier) (targets : List Identifier)
    (later : List (Identifier × List Identifier)) :
    inquiry.loads ((document, targets) :: later) =
      (document, .fail) :: ((targets.flatMap (inquiry.consultedFor document)).map (·, .empty) ++
        inquiry.loads later) := rfl

theorem loads_append (first second : List (Identifier × List Identifier)) :
    inquiry.loads (first ++ second) = inquiry.loads first ++ inquiry.loads second :=
  List.flatMap_append

theorem mem_map_loads {entries : List (Identifier × List Identifier)} {needed : Identifier} :
    needed ∈ (inquiry.loads entries).map (·.1) ↔
      ∃ entry ∈ entries, needed = entry.1 ∨
        ∃ target ∈ entry.2, needed ∈ inquiry.consultedFor entry.1 target := by
  induction entries with
  | nil => simp [Inquiry.loads]
  | cons entry later inductionHypothesis =>
      rw [loads_cons]
      simp only [List.map_cons, List.map_append, Answers.map_fst_map_empty, List.mem_cons,
        List.mem_append, List.mem_flatMap, inductionHypothesis, exists_eq_or_imp]
      rw [or_assoc]

theorem append_map_loads_cons (loaded : List Identifier) (document : Identifier)
    (targets : List Identifier) (later : List (Identifier × List Identifier)) :
    loaded ++ (inquiry.loads ((document, targets) :: later)).map (·.1) =
      loaded ++ [document] ++ targets.flatMap (inquiry.consultedFor document) ++
        (inquiry.loads later).map (·.1) := by
  rw [loads_cons, List.map_cons, List.map_append, Answers.map_fst_map_empty, List.append_assoc,
    List.append_assoc]
  rfl

theorem loading_loads_cons {α : Type} (value : α) (loaded : List Identifier)
    (document : Identifier) (targets : List Identifier)
    (later : List (Identifier × List Identifier)) :
    inquiry.answers.loading value loaded (inquiry.loads ((document, targets) :: later)) =
      inquiry.answers.settled loaded .fail document >>= fun _ =>
        inquiry.answers.reading () (targets.flatMap (inquiry.consultedFor document)) >>= fun _ =>
          inquiry.answers.loading value
            (loaded ++ [document] ++ targets.flatMap (inquiry.consultedFor document))
            (inquiry.loads later) := by
  rw [loads_cons, Answers.loading, Answers.loading_append (), Answers.loading_map_empty,
    Answers.map_fst_map_empty]
  cases inquiry.answers.settled loaded .fail document with
  | error error => rfl
  | ok graph => rfl

theorem made_loads_cons (loaded : List Identifier) (document : Identifier)
    (targets : List Identifier) (later : List (Identifier × List Identifier)) :
    inquiry.answers.made loaded (inquiry.loads ((document, targets) :: later)) =
      inquiry.answers.made loaded [(document, .fail)] ++
        continuing (inquiry.answers.settled loaded .fail document)
          (inquiry.answers.made (loaded ++ [document])
              ((targets.flatMap (inquiry.consultedFor document)).map (·, .empty)) ++
            continuing (inquiry.answers.reading () (targets.flatMap (inquiry.consultedFor document)))
              (inquiry.answers.made
                (loaded ++ [document] ++ targets.flatMap (inquiry.consultedFor document))
                (inquiry.loads later))) := by
  rw [loads_cons, Answers.made, Answers.made_append, Answers.loading_map_empty,
    Answers.map_fst_map_empty, Answers.made, Answers.made, continuing_nil, List.append_nil]

theorem consults_targets {loaded : List Identifier} {document resource : Identifier}
    {graph : Graph} (contentEq : inquiry.answers.content document = graph)
    (governedEq : inquiry.layout.naming.governed document = resource) (found : PermissionMap)
    (targets : List Identifier) :
    Resolution.Consults reader inquiry.answers loaded
      (resolveTargets inquiry.layout.naming reader inquiry.checker inquiry.credentials graph
        resource ∅ found targets)
      (targets.foldl (fun found target =>
        found.insert target (inquiry.grantedBy document target)) found)
      (targets.flatMap (inquiry.consultedFor document)) := by
  subst contentEq governedEq
  exact consults_resolveTargets (remembers_empty inquiry _ _ loaded) found targets

/-- The documents of a list are worked off by loading what they ask for, one after the other. -/
theorem settles_resolveDocuments {loaded : List Identifier} (found : PermissionMap)
    {entries : List (Identifier × List Identifier)}
    (attached : ∀ entry ∈ entries, ∃ resource,
      entry.1 = inquiry.layout.naming.document resource) :
    Resolution.Settles reader inquiry.answers loaded
      (resolveDocuments inquiry.layout.naming reader inquiry.checker inquiry.credentials found
        entries)
      (inquiry.answers.loading (inquiry.findings found entries) loaded (inquiry.loads entries))
      (inquiry.answers.made loaded (inquiry.loads entries))
      (loaded ++ (inquiry.loads entries).map (·.1)) := by
  induction entries generalizing loaded found with
  | nil =>
      rw [Inquiry.loads, List.flatMap_nil, List.map_nil, List.append_nil]
      exact Resolution.settles_pure found
  | cons entry later inductionHypothesis =>
      rcases entry with ⟨document, targets⟩
      rcases List.forall_mem_cons.1 attached with ⟨⟨resource, isAttached⟩, onLater⟩
      have subjectEq : inquiry.layout.naming.subject document = .ok resource := by
        rw [show document = _ from isAttached, AuxiliaryNaming.subject_document]
      have governedEq : inquiry.layout.naming.governed document = resource := by
        rw [AuxiliaryNaming.governed, subjectEq]
      rw [loading_loads_cons, made_loads_cons, append_map_loads_cons, resolveDocuments]
      apply Resolution.Settles.bind (Reader.settles_load document .fail)
      intro graph isSettled
      have contentEq : inquiry.answers.content document = graph :=
        Answers.content_of_description (Answers.description_of_settled isSettled)
      -- Whether its group documents were cached before makes no difference to what is consulted.
      simp only [subjectEq]
      apply Resolution.Consults.settles (consults_targets contentEq governedEq found targets)
      exact inductionHypothesis _ onLater

theorem runs_resolver (inquiry : Inquiry) (steady : reader.Steady inquiry.answers state)
    (requested : AccessMap) :
    (resolver inquiry.layout reader inquiry.checker inquiry.credentials requested state).1 =
        inquiry.resolve requested.keys.toList ∧
      (resolver inquiry.layout reader inquiry.checker inquiry.credentials requested state).2 =
        reader.after (inquiry.accesses requested.keys.toList) state := by
  rw [resolver, Inquiry.resolve, Inquiry.accesses, Inquiry.reads, Reader.after_append,
    Resolution.run_bind]
  rcases runs_govern steady (recalls_empty inquiry.answers inquiry.layout) ∅ requested.keys.toList
    with ⟨outcome, leads⟩
  rw [← leads]
  rcases run : govern inquiry.layout reader ∅ ∅ requested.keys.toList state with ⟨result, later⟩
  rw [run] at outcome leads
  simp only at outcome leads
  subst outcome
  cases gathering : inquiry.gather ∅ requested.keys.toList with
  | error error => exact ⟨rfl, rfl⟩
  | ok governed =>
      have steadyThen : reader.Steady inquiry.answers later := by
        rw [leads]
        exact steady.after _
      have attached := (gathered_of_gather gathering).1.attached
      rcases settles_resolveDocuments ∅ attached ∅ later .nil steadyThen with ⟨outcome, reads, _⟩
      exact ⟨outcome, reads⟩

/-- The outcome of the resolver is a matter of the answers alone. -/
theorem run_resolver (inquiry : Inquiry) (steady : reader.Steady inquiry.answers state)
    (requested : AccessMap) :
    (resolver inquiry.layout reader inquiry.checker inquiry.credentials requested state).1 =
      inquiry.resolve requested.keys.toList :=
  (runs_resolver inquiry steady requested).1

/-- And so are the accesses that the resolver makes. -/
theorem after_resolver (inquiry : Inquiry) (steady : reader.Steady inquiry.answers state)
    (requested : AccessMap) :
    (resolver inquiry.layout reader inquiry.checker inquiry.credentials requested state).2 =
      reader.after (inquiry.accesses requested.keys.toList) state :=
  (runs_resolver inquiry steady requested).2

theorem get?_of_resolve {targets : List Identifier} {found : PermissionMap}
    (resolved : inquiry.resolve targets = .ok found) {target : Identifier}
    (targetMem : target ∈ targets) :
    ∃ document graph, inquiry.located target = .ok document ∧
      inquiry.answers.description document = .ok graph ∧
      found.get? target = some (inquiry.grantedBy document target) := by
  rw [Inquiry.resolve] at resolved
  cases gathering : inquiry.gather ∅ targets with
  | error error =>
      rw [gathering] at resolved
      cases resolved
  | ok governed =>
      rw [gathering] at resolved
      rcases gathered_of_gather gathering with ⟨gathered, allLocated⟩
      rcases allLocated target targetMem with ⟨document, isLocated⟩
      have isGoverned : target ∈ inquiry.governedBy targets document :=
        mem_governedBy.2 ⟨targetMem, isLocated⟩
      have entryMem := gathered.entry_mem targetMem isLocated
      have loadMem : (document, .fail) ∈ inquiry.loads governed.toList :=
        List.mem_flatMap.2 ⟨_, entryMem, List.mem_cons_self⟩
      rcases Answers.of_loading resolved with ⟨rfl, readable⟩
      rcases readable _ loadMem with ⟨graph, description⟩
      refine ⟨document, graph, isLocated, description, ?_⟩
      exact get?_findings (gathered.isOnly isLocated) (Or.inl ⟨_, entryMem, isGoverned⟩)

end WebAccess

end LinkedAccess
