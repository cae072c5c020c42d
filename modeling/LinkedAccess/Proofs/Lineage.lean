import LinkedAccess.AccessError
import LinkedAccess.Resource.Auxiliary

/-!
# Ways up

A lineage is a value that anybody could make up. Those that `Hierarchy.lineage` gives follow the
hierarchy from their first resource on: what lies above a resource is the lineage of its parent, and
a way that ends well ends at the root. A parent belongs to the hierarchy, so a way that begins
inside of it never leaves it, and one that begins outside is at its end at once.
-/

namespace LinkedAccess

namespace Hierarchy

variable {hierarchy : Hierarchy} {identifier : Identifier}

theorem supports_iff :
    hierarchy.supports identifier = true ↔
      hierarchy.root.characters <+: identifier.characters := by
  simp [supports]

theorem supports_root : hierarchy.supports hierarchy.root = true :=
  supports_iff.2 (List.prefix_refl _)

theorem enclosing_isPrefix (path : List Char) : enclosing path <+: path := by
  have isPrefix : enclosing path <+: path.dropLast := by
    rw [enclosing, ← List.reverse_suffix, List.reverse_reverse]
    exact List.dropWhile_suffix _
  exact isPrefix.trans (List.dropLast_prefix path)

theorem parent_of_outside (isOutside : hierarchy.supports identifier = false) :
    hierarchy.parent identifier = .error (.unsupported identifier) := by
  simp [parent, isOutside]

theorem supports_of_parent {parent : Identifier}
    (isParent : hierarchy.parent identifier = .ok parent) :
    hierarchy.supports identifier = true := by
  rw [← Bool.not_eq_false]
  intro isOutside
  rw [parent_of_outside isOutside] at isParent
  cases isParent

theorem parent_root : hierarchy.parent hierarchy.root = .error (.rootContainer hierarchy.root) := by
  simp [parent, supports_root]

theorem ne_root_of_parent {parent : Identifier}
    (isParent : hierarchy.parent identifier = .ok parent) : identifier ≠ hierarchy.root := by
  rintro rfl
  rw [parent_root] at isParent
  cases isParent

theorem exists_parent (isInside : hierarchy.supports identifier = true)
    (notRoot : identifier ≠ hierarchy.root) :
    ∃ parent, hierarchy.parent identifier = .ok parent ∧ hierarchy.supports parent = true := by
  simp only [parent, isInside, notRoot, Bool.not_true, Bool.false_eq_true, if_false]
  split
  · rename_i isLonger
    have isBelow : hierarchy.root.characters <+: enclosing identifier.characters :=
      List.prefix_of_prefix_length_le (supports_iff.1 isInside) (enclosing_isPrefix _) isLonger
    exact ⟨_, rfl, supports_iff.2 (by simpa [Identifier.characters] using isBelow)⟩
  · exact ⟨_, rfl, supports_root⟩

theorem supports_parent {parent : Identifier}
    (isParent : hierarchy.parent identifier = .ok parent) : hierarchy.supports parent = true := by
  rcases exists_parent (supports_of_parent isParent) (ne_root_of_parent isParent) with
    ⟨other, isOther, supported⟩
  rw [isParent, Except.ok.injEq] at isOther
  rw [isOther]
  exact supported

theorem lineage_of_outside (isOutside : hierarchy.supports identifier = false) :
    hierarchy.lineage identifier = .stray identifier (.unsupported identifier) := by
  have notRoot : identifier ≠ hierarchy.root := by
    rintro rfl
    rw [supports_root] at isOutside
    cases isOutside
  rw [lineage, if_neg notRoot]
  split
  · rename_i isParent
    rw [parent_of_outside isOutside] at isParent
    cases isParent
  · rename_i isParent
    rw [parent_of_outside isOutside, Except.error.injEq] at isParent
    rw [isParent]

end Hierarchy

namespace Lineage

/-- The resources of a lineage, the nearest first. -/
def chain (lineage : Lineage) : List Identifier := lineage.resource :: lineage.ancestors

/-- A lineage that leads up from its resource as a hierarchy has it. -/
def Follows (lineage : Lineage) (hierarchy : Hierarchy) : Prop :=
  hierarchy.lineage lineage.resource = lineage

@[simp]
theorem resource_lineage (hierarchy : Hierarchy) (identifier : Identifier) :
    (hierarchy.lineage identifier).resource = identifier := by
  unfold Hierarchy.lineage
  split
  · rfl
  · split <;> rfl

theorem follows_lineage (hierarchy : Hierarchy) (identifier : Identifier) :
    (hierarchy.lineage identifier).Follows hierarchy := by
  simp [Follows]

theorem Follows.parents {hierarchy : Hierarchy} {identifier : Identifier} {parents : Lineage}
    (follows : (child identifier parents).Follows hierarchy) : parents.Follows hierarchy := by
  simp only [Follows, resource] at follows
  unfold Hierarchy.lineage at follows
  split at follows
  · cases follows
  · split at follows
    · simp only [child.injEq, true_and] at follows
      rw [← follows]
      exact follows_lineage hierarchy _
    · cases follows

theorem Follows.parent_eq {hierarchy : Hierarchy} {identifier : Identifier} {parents : Lineage}
    (follows : (child identifier parents).Follows hierarchy) :
    hierarchy.parent identifier = .ok parents.resource := by
  simp only [Follows, resource] at follows
  unfold Hierarchy.lineage at follows
  split at follows
  · cases follows
  · split at follows
    · rename_i isParent
      simp only [child.injEq, true_and] at follows
      rw [isParent, ← follows, resource_lineage]
    · cases follows

theorem Follows.root_eq {hierarchy : Hierarchy} {identifier : Identifier}
    (follows : (root identifier).Follows hierarchy) : identifier = hierarchy.root := by
  simp only [Follows, resource] at follows
  unfold Hierarchy.lineage at follows
  split at follows
  · assumption
  · split at follows
    · cases follows
    · cases follows

theorem Follows.stray_eq {hierarchy : Hierarchy} {identifier : Identifier} {reason : StorageError}
    (follows : (stray identifier reason).Follows hierarchy) :
    identifier ≠ hierarchy.root ∧ hierarchy.parent identifier = .error reason := by
  simp only [Follows, resource] at follows
  unfold Hierarchy.lineage at follows
  split at follows
  · cases follows
  · rename_i notRoot
    split at follows
    · cases follows
    · rename_i isParent
      simp only [stray.injEq, true_and] at follows
      exact ⟨notRoot, by rw [isParent, follows]⟩

/-- Where a lineage ends: at the root, or at a resource that has no place in the hierarchy. -/
def ending : Lineage → Except AccessError Unit
  | root _ => .ok ()
  | stray _ reason => .error (.hierarchy reason)
  | child _ parents => parents.ending

@[simp]
theorem chain_child (identifier : Identifier) (parents : Lineage) :
    (child identifier parents).chain = identifier :: parents.chain := rfl

/-- What lies above a resource has a shorter path than the resource. -/
theorem Follows.length_lt_of_mem_chain {hierarchy : Hierarchy} {identifier above : Identifier}
    {parents : Lineage} (follows : (child identifier parents).Follows hierarchy)
    (isAbove : above ∈ parents.chain) :
    above.characters.length < identifier.characters.length := by
  have isShorter := Hierarchy.length_lt_of_parent_eq follows.parent_eq
  induction parents generalizing identifier with
  | root parent =>
      rw [List.mem_singleton.1 isAbove]
      exact isShorter
  | stray parent reason =>
      rw [List.mem_singleton.1 isAbove]
      exact isShorter
  | child parent grandparents inductionHypothesis =>
      rcases List.mem_cons.1 isAbove with rfl | isFurther
      · exact isShorter
      · have isNext := Hierarchy.length_lt_of_parent_eq follows.parents.parent_eq
        exact Nat.lt_trans (inductionHypothesis follows.parents isFurther isNext) isShorter

theorem Follows.not_mem_chain {hierarchy : Hierarchy} {identifier : Identifier}
    {parents : Lineage} (follows : (child identifier parents).Follows hierarchy) :
    identifier ∉ parents.chain :=
  fun isAbove => Nat.lt_irrefl _ (follows.length_lt_of_mem_chain isAbove)

/-- A lineage that ends well ends at the root. -/
theorem Follows.getLast?_chain {hierarchy : Hierarchy} {lineage : Lineage}
    (follows : lineage.Follows hierarchy) (endsWell : lineage.ending = .ok ()) :
    lineage.chain.getLast? = some hierarchy.root := by
  induction lineage with
  | root identifier =>
      rw [← follows.root_eq]
      rfl
  | stray identifier reason => cases endsWell
  | child identifier parents inductionHypothesis =>
      have isLast := inductionHypothesis follows.parents endsWell
      rw [chain_child, List.getLast?_cons, isLast]
      rfl

/-- The way up from a resource inside of the hierarchy never leaves it. -/
theorem Follows.ending_of_supports {hierarchy : Hierarchy} {lineage : Lineage}
    (follows : lineage.Follows hierarchy)
    (isInside : hierarchy.supports lineage.resource = true) : lineage.ending = .ok () := by
  induction lineage with
  | root identifier => rfl
  | stray identifier reason =>
      rcases follows.stray_eq with ⟨notRoot, hasNoParent⟩
      rcases Hierarchy.exists_parent isInside notRoot with ⟨parent, isParent, _⟩
      rw [resource, hasNoParent] at isParent
      cases isParent
  | child identifier parents inductionHypothesis =>
      have parentInside := Hierarchy.supports_parent follows.parent_eq
      exact inductionHypothesis follows.parents parentInside

end Lineage

end LinkedAccess
