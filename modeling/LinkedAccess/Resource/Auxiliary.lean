import LinkedAccess.Resource.Hierarchy

/-!
# Auxiliary documents

A resource may have a document attached to it that says who may do what with it. The document is
named by the path of the resource followed by a fixed suffix, so that each of the two names can be
found from the other. An identifier that ends with the suffix counts as the name of such a document,
whether or not the document is there.

A layout says where resources lie and where the documents lie that govern them.
-/

namespace LinkedAccess

/-- How the documents attached to resources are named. -/
structure AuxiliaryNaming where
  suffix : String
deriving DecidableEq

namespace AuxiliaryNaming

/-- The document attached to a resource. -/
def document (naming : AuxiliaryNaming) (subject : Identifier) : Identifier :=
  ⟨subject.path ++ naming.suffix⟩

/-- Whether an identifier names an attached document. -/
def isAuxiliary (naming : AuxiliaryNaming) (identifier : Identifier) : Bool :=
  naming.suffix.toList.isSuffixOf identifier.characters

/-- The resource that a document is attached to. -/
def subject (naming : AuxiliaryNaming) (identifier : Identifier) :
    Except StorageError Identifier :=
  if naming.isAuxiliary identifier then
    .ok ⟨String.ofList
      (identifier.characters.take (identifier.characters.length - naming.suffix.toList.length))⟩
  else .error (.notAuxiliary identifier)

/-- The resource whose rules govern an identifier: the resource that a document is attached to, and
every other identifier itself. -/
def governed (naming : AuxiliaryNaming) (identifier : Identifier) : Identifier :=
  match naming.subject identifier with
  | .ok subject => subject
  | .error _ => identifier

theorem isAuxiliary_document (naming : AuxiliaryNaming) (subject : Identifier) :
    naming.isAuxiliary (naming.document subject) = true := by
  simp [isAuxiliary, document, Identifier.characters, List.isSuffixOf_iff_suffix]

/-- A document leads back to the resource it is attached to. -/
@[simp]
theorem subject_document (naming : AuxiliaryNaming) (subject : Identifier) :
    naming.subject (naming.document subject) = .ok subject := by
  simp only [AuxiliaryNaming.subject, isAuxiliary_document, if_true]
  simp [document, Identifier.characters]

@[simp]
theorem governed_document (naming : AuxiliaryNaming) (subject : Identifier) :
    naming.governed (naming.document subject) = subject := by
  rw [governed, subject_document]

theorem governed_of_plain {naming : AuxiliaryNaming} {identifier : Identifier}
    (isPlain : naming.isAuxiliary identifier = false) :
    naming.governed identifier = identifier := by
  simp [governed, AuxiliaryNaming.subject, isPlain]

end AuxiliaryNaming

/-- A hierarchy of resources together with the naming of their access control documents. -/
structure Layout where
  hierarchy : Hierarchy
  naming : AuxiliaryNaming

/-- The way up from the resource that governs a target. -/
def Layout.lineage (layout : Layout) (target : Identifier) : Lineage :=
  layout.hierarchy.lineage (layout.naming.governed target)

end LinkedAccess
