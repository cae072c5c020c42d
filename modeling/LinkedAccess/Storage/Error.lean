import LinkedAccess.Identifier
import LinkedAccess.Triples.Document

/-!
# Storage errors

What can go wrong between an identifier and its document: the document is absent, the storage fails,
the document is malformed, or the identifier has no place in the naming of resources.
-/

namespace LinkedAccess

/-- Why a question about an identifier has no answer. -/
inductive StorageError where
  /-- There is no such document. -/
  | notFound (identifier : Identifier)
  /-- The storage failed for another reason than absence. -/
  | backend (identifier : Identifier) (reason : String)
  /-- The document is there and is not a graph. -/
  | malformed (identifier : Identifier) (cause : SyntaxError)
  /-- The identifier lies outside of the hierarchy. -/
  | unsupported (identifier : Identifier)
  /-- The identifier is the root, which has no parent. -/
  | rootContainer (identifier : Identifier)
  /-- The identifier does not name an auxiliary document. -/
  | notAuxiliary (identifier : Identifier)
deriving DecidableEq

namespace StorageError

/-- The message for an error. -/
def message : StorageError → String
  | notFound identifier => "Resource not found: " ++ identifier.path
  | backend identifier reason =>
    "Storage backend error reading " ++ identifier.path ++ ": " ++ reason
  | malformed identifier cause =>
    "Malformed document " ++ identifier.path ++ ": " ++ cause.message
  | unsupported identifier =>
    "Identifier " ++ identifier.path ++ " is outside of the configured hierarchy"
  | rootContainer identifier =>
    "Cannot obtain the parent of " ++ identifier.path ++ " because it is a root container"
  | notAuxiliary identifier => identifier.path ++ " is not an auxiliary identifier"

/-- The messages of what led to an error, the nearest first. -/
def causes : StorageError → List String
  | malformed _ cause => [cause.message]
  | _ => []

/-- Whether an error says no more than that a document is absent. -/
def isNotFound : StorageError → Bool
  | notFound _ => true
  | _ => false

end StorageError

end LinkedAccess
