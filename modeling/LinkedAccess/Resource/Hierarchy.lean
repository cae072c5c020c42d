import LinkedAccess.Storage.Error
import LinkedAccess.Url.Basic

/-!
# The hierarchy of containers

All resources of a hierarchy lie below one root, a container. The parent of a resource is the
container that its path names when everything behind the last slash inside it is cut off, so every
step upwards makes the path shorter and every walk ends.

The walk itself is a value, the `Lineage` of an identifier: what looks for something along the way
up recurses over it.
-/

namespace LinkedAccess

/-- The resources below one container. -/
structure Hierarchy where
  root : Identifier
  isContainer_root : root.isContainer = true

namespace Hierarchy

/-- The container of a path: the path itself if a slash ends it, and else the path with a slash. -/
def container (path : List Char) : List Char :=
  if path.getLast? = some '/' then path else path ++ ['/']

/-- The hierarchy below a path. -/
def rootedAt (path : List Char) : Hierarchy where
  root := ⟨String.ofList (container path)⟩
  isContainer_root := by
    simp only [Identifier.isContainer, Identifier.characters, String.toList_ofList, container]
    split <;> simp_all

/-- The hierarchy below the normal form of a URL. -/
def ofUrl (url : String) : Except StorageError Hierarchy :=
  match Url.parse? url with
  | some url => .ok (rootedAt url.render)
  | none => .error (.unsupported ⟨url⟩)

/-- Whether an identifier belongs to the hierarchy. -/
def supports (hierarchy : Hierarchy) (identifier : Identifier) : Bool :=
  hierarchy.root.characters.isPrefixOf identifier.characters

/-- A path without its last character, and then without all behind its last slash. -/
def enclosing (path : List Char) : List Char :=
  (path.dropLast.reverse.dropWhile (· ≠ '/')).reverse

/-- The container that holds a resource. Nothing lies above the root, so a path that would lead
above it leads to the root. -/
def parent (hierarchy : Hierarchy) (identifier : Identifier) : Except StorageError Identifier :=
  if !hierarchy.supports identifier then .error (.unsupported identifier)
  else if identifier = hierarchy.root then .error (.rootContainer identifier)
  else if hierarchy.root.characters.length ≤ (enclosing identifier.characters).length then
    .ok ⟨String.ofList (enclosing identifier.characters)⟩
  else .ok hierarchy.root

theorem length_enclosing_le (path : List Char) : (enclosing path).length ≤ path.length - 1 := by
  simp only [enclosing, List.length_reverse]
  refine Nat.le_trans (List.dropWhile_sublist _).length_le ?_
  simp

/-- A parent has a shorter path than its child. -/
theorem length_lt_of_parent_eq {hierarchy : Hierarchy} {child parent : Identifier}
    (isParent : hierarchy.parent child = .ok parent) :
    parent.characters.length < child.characters.length := by
  simp only [Hierarchy.parent] at isParent
  split at isParent
  · simp at isParent
  rename_i supported
  split at isParent
  · simp at isParent
  rename_i notRoot
  have rootPrefix : hierarchy.root.characters <+: child.characters := by
    simpa [supports] using supported
  have shorter : hierarchy.root.characters.length < child.characters.length := by
    refine Nat.lt_of_le_of_ne rootPrefix.length_le fun sameLength => notRoot ?_
    exact Identifier.eq_of_characters_eq (rootPrefix.eq_of_length sameLength).symm
  split at isParent
  · cases isParent
    have := length_enclosing_le child.characters
    simp only [Identifier.characters, String.toList_ofList] at *
    omega
  · cases isParent
    exact shorter

end Hierarchy

/-- A resource with all that is above it. -/
inductive Lineage where
  /-- The root, where every walk inside the hierarchy ends. -/
  | root (identifier : Identifier)
  /-- A resource from which there is no way up, for the reason given. -/
  | stray (identifier : Identifier) (reason : StorageError)
  /-- A resource below another one. -/
  | child (identifier : Identifier) (parents : Lineage)

namespace Lineage

/-- The resource that a lineage begins with. -/
def resource : Lineage → Identifier
  | root identifier => identifier
  | stray identifier _ => identifier
  | child identifier _ => identifier

/-- The identifiers above a resource, the nearest first. -/
def ancestors : Lineage → List Identifier
  | root _ => []
  | stray _ _ => []
  | child _ parents => parents.resource :: parents.ancestors

end Lineage

/-- The lineage of a resource: its parents up to the root, or up to one that has no parent. -/
def Hierarchy.lineage (hierarchy : Hierarchy) (identifier : Identifier) : Lineage :=
  if identifier = hierarchy.root then .root identifier
  else
    match _isParent : hierarchy.parent identifier with
    | .ok parent => .child identifier (hierarchy.lineage parent)
    | .error reason => .stray identifier reason
termination_by identifier.characters.length
decreasing_by exact Hierarchy.length_lt_of_parent_eq _isParent

end LinkedAccess
