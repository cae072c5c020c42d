import LinkedAccess.Permission.Basic
import LinkedAccess.Storage.Error

/-!
# Access errors

Why permissions could not be found, or why they do not suffice.
-/

namespace LinkedAccess

/-- Why a request is not allowed to proceed. -/
inductive AccessError where
  /-- The root has no access control document, so nothing below it has rules. -/
  | missingRootPolicy (root : Identifier)
  /-- A document could not be read. -/
  | backendFailure (document : Identifier) (cause : StorageError)
  /-- A document was read and is not a graph. -/
  | malformedDocument (document : Identifier) (cause : SyntaxError)
  /-- A target has no place in the hierarchy. -/
  | hierarchy (cause : StorageError)
  /-- Modes are missing, and no agent is asserted. -/
  | unauthorized (target : Identifier) (modes : Modes)
  /-- Modes are missing to the asserted agent. -/
  | forbidden (target : Identifier) (modes : Modes)
  /-- The configuration is not usable. -/
  | configuration (reason : String)
deriving DecidableEq

namespace AccessError

/-- The error for a failed read. Absence is an error like any other here; who can do without the
document has to look for it before. -/
def ofRead (document : Identifier) : StorageError → AccessError
  | .malformed _ cause => malformedDocument document cause
  | cause => backendFailure document cause

theorem ofRead_cases (document : Identifier) (cause : StorageError) :
    (∃ identifier reason, cause = .malformed identifier reason ∧
      ofRead document cause = .malformedDocument document reason) ∨
    (∀ identifier reason, cause ≠ .malformed identifier reason) ∧
      ofRead document cause = .backendFailure document cause := by
  cases cause with
  | malformed identifier reason => exact Or.inl ⟨identifier, reason, rfl, rfl⟩
  | notFound identifier => exact Or.inr ⟨by simp, rfl⟩
  | backend identifier reason => exact Or.inr ⟨by simp, rfl⟩
  | unsupported identifier => exact Or.inr ⟨by simp, rfl⟩
  | rootContainer identifier => exact Or.inr ⟨by simp, rfl⟩
  | notAuxiliary identifier => exact Or.inr ⟨by simp, rfl⟩

/-- The message for an error. -/
def message : AccessError → String
  | missingRootPolicy root =>
    "No access control document found for root container " ++ root.path
  | backendFailure document cause =>
    "Error reading access control document " ++ document.path ++ ": " ++ cause.message
  | malformedDocument document cause =>
    "Malformed access control document " ++ document.path ++ ": " ++ cause.message
  | hierarchy cause => "Identifier hierarchy error: " ++ cause.message
  | unauthorized target modes =>
    "Unauthenticated access to " ++ target.path ++ " denied for modes " ++ modes.title
  | forbidden target modes =>
    "Access to " ++ target.path ++ " forbidden for modes " ++ modes.title
  | configuration reason => "Invalid authorization configuration: " ++ reason

/-- The messages of what led to an error, the nearest first. -/
def causes : AccessError → List String
  | backendFailure _ cause => cause.message :: cause.causes
  | malformedDocument _ cause => [cause.message]
  | hierarchy cause => cause.message :: cause.causes
  | _ => []

end AccessError

end LinkedAccess
