import LinkedAccess.Resolution

/-!
# Resolvers without documents

A resolver that permits the same everywhere, and one that permits what any of several permits.
-/

namespace LinkedAccess

/-- The union of two findings, target by target. -/
def PermissionMap.merge (first second : PermissionMap) : PermissionMap :=
  second.toList.foldl
    (fun merged entry =>
      merged.insert entry.1 (((merged.get? entry.1).getD {}).merge entry.2)) first

namespace Resolver

variable {σ : Type}

/-- Permits the same on every target, without looking at anything. -/
def uniform (permission : Permission) : Resolver σ := fun _ requested =>
  pure (.tabulate requested.keys fun _ => .uniform permission)

/-- Merges what each resolver of a list finds. They are asked in order until one of them fails. -/
def union : List (Resolver σ) → Resolver σ
  | [], _, _ => pure ∅
  | resolver :: later, credentials, requested => do
    let first ← resolver credentials requested
    let rest ← union later credentials requested
    pure (PermissionMap.merge first rest)

end Resolver

end LinkedAccess
