import LinkedAccess.Proofs.Lineage
import Mathlib.Data.List.Chain

/-!
# Ways up as beginnings of a path

The parent of a resource is found by cutting its path twice, and nothing in the cutting mentions the
hierarchy. What comes out can be told without it: the parent is the container with the longest path
that properly begins the path of the resource. Every other such container then begins the path of
the parent, so that a way up meets all of them, from the longest to the root, and nothing else.
-/

namespace LinkedAccess

/-- A container whose path properly begins the path of a resource. -/
structure Identifier.Encloses (container inner : Identifier) : Prop where
  isPrefix : container.characters <+: inner.characters
  isProper : container ≠ inner
  isContainer : container.isContainer = true

namespace Identifier.Encloses

variable {container middle inner : Identifier}

theorem length_lt (encloses : container.Encloses inner) :
    container.characters.length < inner.characters.length := by
  rcases Nat.lt_or_ge container.characters.length inner.characters.length with isShorter | isLonger
  · exact isShorter
  · have same := encloses.isPrefix.eq_of_length_le isLonger
    exact absurd (eq_of_characters_eq same) encloses.isProper

theorem of_length_lt (isPrefix : container.characters <+: inner.characters)
    (isShorter : container.characters.length < inner.characters.length)
    (isContainer : container.isContainer = true) : container.Encloses inner := by
  refine ⟨isPrefix, ?_, isContainer⟩
  rintro rfl
  omega

theorem trans (outer : container.Encloses middle) (encloses : middle.Encloses inner) :
    container.Encloses inner := by
  apply of_length_lt (outer.isPrefix.trans encloses.isPrefix) _ outer.isContainer
  have := outer.length_lt
  have := encloses.length_lt
  omega

end Identifier.Encloses

namespace Hierarchy

variable {hierarchy : Hierarchy} {identifier : Identifier}

/-- Dropping stops at the latest where an end of the list begins that is to be kept. -/
theorem suffix_dropWhile {α : Type} {belongs : α → Bool} {head : α} {tail list : List α}
    (isKept : belongs head = false) (isSuffix : head :: tail <:+ list) :
    head :: tail <:+ list.dropWhile belongs := by
  induction list with
  | nil => simp at isSuffix
  | cons first rest inductionHypothesis =>
      rcases List.suffix_cons_iff.1 isSuffix with same | isLater
      · cases same
        simp [isKept]
      · rw [List.dropWhile_cons]
        split
        · exact inductionHypothesis isLater
        · exact isSuffix

/-- Every container that a path properly begins with is kept when the path is cut. -/
theorem isPrefix_enclosing {container path : List Char} (isPrefix : container <+: path)
    (isShorter : container.length < path.length) (endsInSlash : container.getLast? = some '/') :
    container <+: enclosing path := by
  have inFront : container <+: path.dropLast := by
    apply List.prefix_of_prefix_length_le isPrefix (List.dropLast_prefix path)
    simp
    omega
  rcases List.getLast?_eq_some_iff.1 endsInSlash with ⟨name, rfl⟩
  rw [← List.reverse_suffix, List.reverse_append] at inFront
  rw [enclosing, ← List.reverse_suffix, List.reverse_reverse, List.reverse_append]
  exact suffix_dropWhile (by simp) inFront

theorem getLast?_enclosing {path : List Char} (notEmpty : enclosing path ≠ []) :
    (enclosing path).getLast? = some '/' := by
  rw [enclosing, List.getLast?_reverse]
  have stops := List.head?_dropWhile_not (· ≠ '/') path.dropLast.reverse
  cases kept : path.dropLast.reverse.dropWhile (· ≠ '/') with
  | nil =>
      rw [enclosing, kept] at notEmpty
      exact absurd rfl notEmpty
  | cons head tail =>
      simp only [kept, List.head?_cons] at stops
      simpa using stops

theorem root_encloses (isInside : hierarchy.supports identifier = true)
    (notRoot : identifier ≠ hierarchy.root) : hierarchy.root.Encloses identifier :=
  ⟨supports_iff.1 isInside, Ne.symm notRoot, hierarchy.isContainer_root⟩

/-- What is cut off never reaches into the path of the root. -/
theorem root_isPrefix_enclosing (isInside : hierarchy.supports identifier = true)
    (notRoot : identifier ≠ hierarchy.root) :
    hierarchy.root.characters <+: enclosing identifier.characters := by
  have encloses := root_encloses isInside notRoot
  apply isPrefix_enclosing encloses.isPrefix encloses.length_lt
  simpa [Identifier.isContainer] using encloses.isContainer

theorem parent_of_inside (isInside : hierarchy.supports identifier = true)
    (notRoot : identifier ≠ hierarchy.root) :
    hierarchy.parent identifier = .ok ⟨String.ofList (enclosing identifier.characters)⟩ := by
  have isLonger := (root_isPrefix_enclosing isInside notRoot).length_le
  simp [parent, isInside, notRoot, isLonger]

/-- A parent is found for what lies inside the hierarchy and is not its root. -/
theorem parent_eq_ok_iff {parent : Identifier} :
    hierarchy.parent identifier = .ok parent ↔
      hierarchy.supports identifier = true ∧ identifier ≠ hierarchy.root ∧
        parent.characters = enclosing identifier.characters := by
  constructor
  · intro isParent
    have isInside := supports_of_parent isParent
    have notRoot := ne_root_of_parent isParent
    rw [parent_of_inside isInside notRoot] at isParent
    cases isParent
    exact ⟨isInside, notRoot, String.toList_ofList⟩
  · rintro ⟨isInside, notRoot, same⟩
    rw [parent_of_inside isInside notRoot, ← same]
    exact congrArg Except.ok (Identifier.ext String.ofList_toList)

section Parent

variable {parent : Identifier} (isParent : hierarchy.parent identifier = .ok parent)
include isParent

theorem parent_encloses : parent.Encloses identifier := by
  rcases parent_eq_ok_iff.1 isParent with ⟨isInside, notRoot, same⟩
  apply Identifier.Encloses.of_length_lt
  · rw [same]
    exact enclosing_isPrefix _
  · exact length_lt_of_parent_eq isParent
  · have rootFits := (root_isPrefix_enclosing isInside notRoot).length_le
    have notEmpty : enclosing identifier.characters ≠ [] := by
      intro isEmpty
      have isContainer := hierarchy.isContainer_root
      rw [isEmpty, List.length_nil, Nat.le_zero, List.length_eq_zero_iff] at rootFits
      simp [Identifier.isContainer, rootFits] at isContainer
    simp [Identifier.isContainer, same, getLast?_enclosing notEmpty]

/-- What encloses a resource is its parent or encloses its parent. -/
theorem encloses_iff {container : Identifier} :
    container.Encloses identifier ↔ container = parent ∨ container.Encloses parent := by
  rcases parent_eq_ok_iff.1 isParent with ⟨_, _, same⟩
  constructor
  · intro encloses
    have isPrefix : container.characters <+: parent.characters := by
      rw [same]
      apply isPrefix_enclosing encloses.isPrefix encloses.length_lt
      simpa [Identifier.isContainer] using encloses.isContainer
    by_cases isSame : container = parent
    · exact Or.inl isSame
    · exact Or.inr ⟨isPrefix, isSame, encloses.isContainer⟩
  · rintro (rfl | encloses)
    · exact parent_encloses isParent
    · exact encloses.trans (parent_encloses isParent)

end Parent

end Hierarchy

namespace Lineage.Follows

variable {hierarchy : Hierarchy} {lineage : Lineage}

/-- Above a resource inside the hierarchy there are just the containers that enclose it, as far as
they are inside too. -/
theorem mem_ancestors_iff (follows : lineage.Follows hierarchy)
    (isInside : hierarchy.supports lineage.resource = true) {container : Identifier} :
    container ∈ lineage.ancestors ↔
      container.Encloses lineage.resource ∧ hierarchy.supports container = true := by
  induction lineage with
  | root identifier =>
      simp only [ancestors, List.not_mem_nil, false_iff, not_and]
      intro encloses supported
      have isRoot : identifier = hierarchy.root := follows.root_eq
      have isShorter := encloses.length_lt
      have isLonger := (Hierarchy.supports_iff.1 supported).length_le
      rw [resource, isRoot] at isShorter
      omega
  | stray identifier reason =>
      rcases follows.stray_eq with ⟨notRoot, hasNoParent⟩
      cases hasNoParent.symm.trans (Hierarchy.parent_of_inside isInside notRoot)
  | child identifier parents inductionHypothesis =>
      have isParent := follows.parent_eq
      have parentInside := Hierarchy.supports_parent isParent
      rw [ancestors, List.mem_cons, inductionHypothesis follows.parents parentInside, resource,
        Hierarchy.encloses_iff isParent]
      constructor
      · rintro (rfl | ⟨encloses, supported⟩)
        · exact ⟨Or.inl rfl, parentInside⟩
        · exact ⟨Or.inr encloses, supported⟩
      · rintro ⟨rfl | encloses, supported⟩
        · exact Or.inl rfl
        · exact Or.inr ⟨encloses, supported⟩

/-- On the way up each resource is enclosed by all that follow it. -/
theorem pairwise_chain (follows : lineage.Follows hierarchy) :
    lineage.chain.Pairwise fun lower upper => upper.Encloses lower := by
  induction lineage with
  | root identifier => simp [chain, ancestors]
  | stray identifier reason => simp [chain, ancestors]
  | child identifier parents inductionHypothesis =>
      have onParents := inductionHypothesis follows.parents
      have encloses := Hierarchy.parent_encloses follows.parent_eq
      rw [chain_child]
      apply List.pairwise_cons.2 ⟨_, onParents⟩
      intro upper upperMem
      rcases List.mem_cons.1 upperMem with rfl | isFurther
      · exact encloses
      · exact (List.rel_of_pairwise_cons onParents isFurther).trans encloses

/-- And each is the parent of the one before it. -/
theorem isChain_chain (follows : lineage.Follows hierarchy) :
    lineage.chain.IsChain fun lower upper => hierarchy.parent lower = .ok upper := by
  induction lineage with
  | root identifier => simp [chain, ancestors]
  | stray identifier reason => simp [chain, ancestors]
  | child identifier parents inductionHypothesis =>
      rw [chain_child, chain, List.isChain_cons_cons]
      exact ⟨follows.parent_eq, inductionHypothesis follows.parents⟩

end Lineage.Follows

end LinkedAccess
