import LinkedAccess.Policy.Resolve
import LinkedAccess.Proofs.Ascent
import LinkedAccess.WebAccess.Resolve

/-!
# Loops up the hierarchy

Both resolvers climb from a resource in a loop: what a round looks at is the parent of what the last
one looked at, and no number of rounds is fixed beforehand. A loop that is cut off after some rounds
is a function of their number, so it can be said that it ends: from some number on the cut is never
met. One round for the resource and one for each container above it are enough, whatever the reader
answers, and the loop has then done what the recursion over the lineage does.
-/

namespace LinkedAccess

/-- A loop of at most so many rounds. A round ends it with a value, or gives what the next round
begins with; a loop that is cut off has no value. -/
def Resolution.rounds {σ α β : Type} (round : α → Resolution σ (α ⊕ β)) :
    Nat → α → Resolution σ (Option β)
  | 0, _ => pure none
  | limit + 1, start => do
    match ← round start with
    | .inl next => rounds round limit next
    | .inr value => pure (some value)

/-- A loop does what a resolution does, as soon as it may take more than so many rounds. -/
def Resolution.Completes {σ α β : Type} (round : α → Resolution σ (α ⊕ β)) (start : α)
    (count : Nat) (resolution : Resolution σ β) : Prop :=
  ∀ limit, count < limit → rounds round limit start = some <$> resolution

namespace WebAccess

variable {σ : Type}

/-- Remembers for each resource of a list that a document governs it. -/
def remember (located : Located) (document : Identifier) (visited : List Identifier) : Located :=
  visited.foldl (fun located resource => located.insert resource document) located

/-- One round of the search for a governing document, which has passed some resources before. -/
def searchRound (layout : Layout) (reader : Reader σ) (located : Located) :
    List Identifier × Identifier →
      Resolution σ ((List Identifier × Identifier) ⊕ (Identifier × Located))
  | (visited, current) =>
    match located.get? current with
    | some document => pure (.inr (document, remember located document visited))
    | none => do
      let document := layout.naming.document current
      let visited := visited ++ [current]
      if ← reader.isPresent document then
        pure (.inr (document, remember located document visited))
      else if current = layout.hierarchy.root then throw (.missingRootPolicy current)
      else
        match layout.hierarchy.parent current with
        | .error reason => throw (.hierarchy reason)
        | .ok parent => pure (.inl (visited, parent))

theorem remember_insert (located : Located) (document resource : Identifier)
    (visited : List Identifier) :
    remember (located.insert resource document) document visited =
      remember located document (visited ++ [resource]) := by
  apply AscendingMap.ext
  intro other
  simp only [remember, AscendingMap.get?_foldl_insert, AscendingMap.get?_insert, List.mem_append,
    List.mem_singleton]
  grind

/-- The search ends, and finds what is found on the lineage. Each round is one step of the
induction: what it has visited is what the recursion still has to remember. -/
theorem rounds_searchRound (reader : Reader σ) (layout : Layout) (located : Located)
    {lineage : Lineage} (follows : lineage.Follows layout.hierarchy) (visited : List Identifier)
    {limit : Nat} (isEnough : lineage.ancestors.length < limit) :
    Resolution.rounds (searchRound layout reader located) limit (visited, lineage.resource) =
      locate layout.naming reader located lineage >>= fun found =>
        pure (some (found.1, remember found.2 found.1 visited)) := by
  induction lineage generalizing visited limit with
  | root identifier =>
      rcases limit with _ | limit
      · omega
      have isRoot : identifier = layout.hierarchy.root := follows.root_eq
      simp only [Resolution.rounds, searchRound, locate, Lineage.resource]
      cases isLocated : located.get? identifier with
      | some document => simp
      | none =>
          simp only [bind_assoc]
          apply bind_congr
          intro isFound
          cases isFound with
          | true => simp [remember_insert]
          | false => simp [← isRoot]
  | stray identifier reason =>
      rcases limit with _ | limit
      · omega
      rcases follows.stray_eq with ⟨notRoot, hasNoParent⟩
      simp only [Resolution.rounds, searchRound, locate, Lineage.resource]
      cases isLocated : located.get? identifier with
      | some document => simp
      | none =>
          simp only [bind_assoc]
          apply bind_congr
          intro isFound
          cases isFound with
          | true => simp [remember_insert]
          | false => simp [notRoot, hasNoParent]
  | child identifier parents inductionHypothesis =>
      rcases limit with _ | limit
      · omega
      have isParent := follows.parent_eq
      have isLeft : parents.ancestors.length < limit := by
        simpa [Lineage.ancestors] using isEnough
      simp only [Resolution.rounds, searchRound, locate, Lineage.resource]
      cases isLocated : located.get? identifier with
      | some document => simp
      | none =>
          simp only [bind_assoc]
          apply bind_congr
          intro isFound
          cases isFound with
          | true => simp [remember_insert]
          | false =>
              have notRoot := Hierarchy.ne_root_of_parent isParent
              -- The loop remembers at its end what the recursion remembers on its way back.
              simp [notRoot, isParent, remember_insert,
                inductionHypothesis follows.parents (visited ++ [identifier]) isLeft]

end WebAccess

namespace Policy

variable {σ : Type}

/-- The policies that count at a resource on the way up from another one. -/
def scopeAt (start current : Identifier) : PolicyScope :=
  if current = start then .resource else .member

/-- One round of the collection of policies on the way up from a resource. -/
def collectRound (layout : Layout) (reader : Reader σ) (start : Identifier) :
    Identifier × List Policy × Decoded →
      Resolution (Cache × σ) ((Identifier × List Policy × Decoded) ⊕ (List Policy × Decoded))
  | (current, policies, decoded) => do
    let (descriptions, decoded) ← describe reader decoded (layout.naming.document current)
    let policies := policies ++ descriptions.flatMap (·.policies (scopeAt start current))
    if current = layout.hierarchy.root then pure (.inr (policies, decoded))
    else
      match layout.hierarchy.parent current with
      | .error reason => throw (.hierarchy reason)
      | .ok parent => pure (.inl (parent, policies, decoded))

/-- The collection ends, and has what applies on the lineage behind what it began with. -/
theorem rounds_collectRound (reader : Reader σ) (layout : Layout) {start : Identifier}
    {lineage : Lineage} (follows : lineage.Follows layout.hierarchy)
    (isBelow : start ∉ lineage.ancestors) (policies : List Policy) (decoded : Decoded)
    {limit : Nat} (isEnough : lineage.ancestors.length < limit) :
    Resolution.rounds (collectRound layout reader start) limit
        (lineage.resource, policies, decoded) =
      applicable layout.naming reader (scopeAt start lineage.resource) decoded lineage >>=
        fun found => pure (some (policies ++ found.1, found.2)) := by
  induction lineage generalizing policies decoded limit with
  | root identifier =>
      rcases limit with _ | limit
      · omega
      have isRoot : identifier = layout.hierarchy.root := follows.root_eq
      simp [Resolution.rounds, collectRound, applicable, Lineage.resource, ← isRoot]
  | stray identifier reason =>
      rcases limit with _ | limit
      · omega
      rcases follows.stray_eq with ⟨notRoot, hasNoParent⟩
      simp [Resolution.rounds, collectRound, applicable, Lineage.resource, notRoot, hasNoParent]
  | child identifier parents inductionHypothesis =>
      rcases limit with _ | limit
      · omega
      have isParent := follows.parent_eq
      have isLeft : parents.ancestors.length < limit := by
        simpa [Lineage.ancestors] using isEnough
      have notRoot := Hierarchy.ne_root_of_parent isParent
      rw [Lineage.ancestors, List.mem_cons, not_or] at isBelow
      have isMember : scopeAt start parents.resource = .member := if_neg (Ne.symm isBelow.1)
      have onParents := inductionHypothesis follows.parents isBelow.2
      rw [isMember] at onParents
      rw [applicable]
      simp only [Resolution.rounds, collectRound, Lineage.resource, bind_assoc]
      apply bind_congr
      intro described
      simp [notRoot, isParent, onParents _ _ isLeft]

end Policy

namespace Hierarchy

/-- What one step up from a resource comes to. -/
structure StepsUp (hierarchy : Hierarchy) (identifier : Identifier) : Prop where
  unsupported : hierarchy.parent identifier = .error (.unsupported identifier) ↔
    ¬ hierarchy.root.characters <+: identifier.characters
  rootContainer : hierarchy.parent identifier = .error (.rootContainer identifier) ↔
    identifier = hierarchy.root
  /-- Otherwise the path is cut to that of a parent, and the root is never taken in its place. -/
  parent : hierarchy.root.characters <+: identifier.characters → identifier ≠ hierarchy.root →
    ∃ parent, hierarchy.parent identifier = .ok parent ∧
      parent.characters = enclosing identifier.characters ∧
      hierarchy.root.characters <+: parent.characters ∧
      parent.Encloses identifier ∧
      ∀ container : Identifier, container.Encloses identifier →
        container.characters.length ≤ parent.characters.length

/-- The resources that are visited by steps up from a resource to the root. -/
structure Visits (hierarchy : Hierarchy) (identifier : Identifier) (visited : List Identifier) :
    Prop where
  isChain : (identifier :: visited).IsChain fun lower upper => hierarchy.parent lower = .ok upper
  endsAtRoot : (identifier :: visited).getLast? = some hierarchy.root
  longestFirst : visited.Pairwise fun lower upper =>
    upper.characters.length < lower.characters.length
  mem_iff : ∀ container, container ∈ visited ↔
    container.Encloses identifier ∧ hierarchy.root.characters <+: container.characters

/-- Everything that steps up from a resource meet, and that the loops which take them come to their
end, whatever a reader answers on the way. -/
structure Climbs (hierarchy : Hierarchy) (identifier : Identifier) : Prop where
  stepsUp : hierarchy.StepsUp identifier
  visits : hierarchy.root.characters <+: identifier.characters →
    ∃ visited, hierarchy.Visits identifier visited
  search : ∀ {σ : Type} (reader : Reader σ) (naming : AuxiliaryNaming)
    (located : WebAccess.Located),
    Resolution.Completes (WebAccess.searchRound ⟨hierarchy, naming⟩ reader located)
      ([], identifier) (hierarchy.lineage identifier).ancestors.length
      (WebAccess.locate naming reader located (hierarchy.lineage identifier))
  collect : ∀ {σ : Type} (reader : Reader σ) (naming : AuxiliaryNaming) (decoded : Policy.Decoded),
    Resolution.Completes (Policy.collectRound ⟨hierarchy, naming⟩ reader identifier)
      (identifier, [], decoded) (hierarchy.lineage identifier).ancestors.length
      (Policy.applicable naming reader .resource decoded (hierarchy.lineage identifier))

variable {hierarchy : Hierarchy} {identifier : Identifier}

theorem stepsUp (hierarchy : Hierarchy) (identifier : Identifier) :
    hierarchy.StepsUp identifier := by
  constructor
  · rw [← supports_iff, Bool.not_eq_true]
    constructor
    · intro isError
      rw [← Bool.not_eq_true]
      intro isInside
      by_cases isRoot : identifier = hierarchy.root
      · rw [isRoot, parent_root] at isError
        cases isError
      · rw [parent_of_inside isInside isRoot] at isError
        cases isError
    · exact parent_of_outside
  · constructor
    · intro isError
      cases supported : hierarchy.supports identifier with
      | false =>
          rw [parent_of_outside supported] at isError
          cases isError
      | true =>
          by_contra notRoot
          rw [parent_of_inside supported notRoot] at isError
          cases isError
    · rintro rfl
      exact parent_root
  · intro isPrefix notRoot
    rcases exists_parent (supports_iff.2 isPrefix) notRoot with ⟨parent, isParent, supported⟩
    refine ⟨parent, isParent, (parent_eq_ok_iff.1 isParent).2.2, supports_iff.1 supported,
      parent_encloses isParent, ?_⟩
    intro container encloses
    rcases (encloses_iff isParent).1 encloses with rfl | isAbove
    · exact Nat.le_refl _
    · exact Nat.le_of_lt isAbove.length_lt

theorem visits_ancestors (isInside : hierarchy.supports identifier = true) :
    hierarchy.Visits identifier (hierarchy.lineage identifier).ancestors := by
  have follows := Lineage.follows_lineage hierarchy identifier
  have sameResource := Lineage.resource_lineage hierarchy identifier
  rw [← sameResource] at isInside
  have chainEq : identifier :: (hierarchy.lineage identifier).ancestors =
      (hierarchy.lineage identifier).chain := by
    rw [Lineage.chain, sameResource]
  constructor
  · rw [chainEq]
    exact follows.isChain_chain
  · rw [chainEq]
    exact follows.getLast?_chain (follows.ending_of_supports isInside)
  · apply (List.pairwise_cons.1 follows.pairwise_chain).2.imp
    intro lower upper encloses
    exact encloses.length_lt
  · intro container
    rw [follows.mem_ancestors_iff isInside, sameResource, supports_iff]

/-- From every resource the way up meets just the containers that enclose it, and the loops that
take it come to an end. -/
theorem ways_up_meet_containers (hierarchy : Hierarchy) (identifier : Identifier) :
    hierarchy.Climbs identifier := by
  have follows := Lineage.follows_lineage hierarchy identifier
  have sameResource := Lineage.resource_lineage hierarchy identifier
  constructor
  · exact stepsUp hierarchy identifier
  · intro isInside
    exact ⟨_, visits_ancestors (supports_iff.2 isInside)⟩
  · intro σ reader naming located limit isEnough
    have found := WebAccess.rounds_searchRound reader ⟨hierarchy, naming⟩ located follows []
      isEnough
    rw [sameResource] at found
    simp [found, WebAccess.remember]
  · intro σ reader naming decoded limit isEnough
    have isBelow : identifier ∉ (hierarchy.lineage identifier).ancestors := by
      have above := (List.pairwise_cons.1 follows.pairwise_chain).1
      intro isAbove
      exact (above identifier isAbove).isProper sameResource.symm
    have collected := Policy.rounds_collectRound reader ⟨hierarchy, naming⟩ follows isBelow []
      decoded isEnough
    rw [sameResource, Policy.scopeAt, if_pos rfl] at collected
    simp [collected]

/-- A slash behind a slash ends the path of one more container. -/
example : ((rootedAt "https://pod/".toList).lineage ⟨"https://pod//a/"⟩).ancestors =
    [⟨"https://pod//"⟩, ⟨"https://pod/"⟩] := by
  decide +kernel

end Hierarchy

end LinkedAccess
