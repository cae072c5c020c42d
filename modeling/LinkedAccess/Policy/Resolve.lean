import LinkedAccess.Policy.Decode
import LinkedAccess.Policy.Satisfaction
import LinkedAccess.Resolution
import LinkedAccess.Resource.Auxiliary

/-!
# Access Control Policy

All documents on the way up from a resource count: its own with the policies for the resource, and
that of every container above it with the policies for members. A document that is absent has no
policies. Policies do not tell everyone from the asserted agent, so both groups hold the same.
-/

namespace LinkedAccess.Policy

variable {σ : Type}

/-- What the documents that were met so far say about access control resources. -/
abbrev Decoded := AscendingMap Identifier (List AccessControlResource)

/-- The access control resources of a document, from those that were decoded before if they are
there. -/
def describe (reader : Reader σ) (decoded : Decoded) (document : Identifier) :
    Resolution (Cache × σ) (List AccessControlResource × Decoded) :=
  match decoded.get? document with
  | some descriptions => pure (descriptions, decoded)
  | none => do
    let graph ← reader.load document .empty
    let descriptions := graph.accessControlResources
    pure (descriptions, decoded.insert document descriptions)

/-- The policies on the way up, of one scope in the first document and for members in the others. -/
def applicable (naming : AuxiliaryNaming) (reader : Reader σ) (scope : PolicyScope)
    (decoded : Decoded) (lineage : Lineage) :
    Resolution (Cache × σ) (List Policy × Decoded) := do
  let (descriptions, decoded) ← describe reader decoded (naming.document lineage.resource)
  let policies := descriptions.flatMap (·.policies scope)
  match lineage with
  | .root _ => pure (policies, decoded)
  | .stray _ reason => throw (.hierarchy reason)
  | .child _ parents => do
    let (inherited, decoded) ← applicable naming reader .member decoded parents
    pure (policies ++ inherited, decoded)

/-- The permission on a target that policies give to a request. -/
def permissionOn (naming : AuxiliaryNaming) (target : Identifier) (policies : List Policy)
    (credentials : Credentials) : Permission :=
  let permission := Permission.ofModes (allowedModes policies credentials).toList
  if naming.isAuxiliary target then permission.onDocument else permission

/-- Adds the permissions on targets, one target after the other. -/
def resolveTargets (layout : Layout) (reader : Reader σ) (credentials : Credentials)
    (decoded : Decoded) (found : PermissionMap) :
    List Identifier → Resolution (Cache × σ) PermissionMap
  | [] => pure found
  | target :: later => do
    let (policies, decoded) ←
      applicable layout.naming reader .resource decoded (layout.lineage target)
    let permission := permissionOn layout.naming target policies credentials
    resolveTargets layout reader credentials decoded (found.insert target (.uniform permission))
      later

/-- Finds permissions by Access Control Policy. -/
def resolver (layout : Layout) (reader : Reader σ) : Resolver σ := fun credentials requested =>
  (resolveTargets layout reader credentials ∅ ∅ requested.keys.toList).withCache

end LinkedAccess.Policy
