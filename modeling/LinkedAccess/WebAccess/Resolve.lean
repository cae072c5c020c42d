import LinkedAccess.Resource.Auxiliary
import LinkedAccess.WebAccess.Rules

/-!
# Web Access Control

A target is governed by the nearest document on its way up: its own, or that of the first container
that has one. The root must have one. All documents are located before any of them is read, and the
way up from a resource is remembered, so that targets with a common container share the rest of the
way. Then each document is read once, in the order of the documents, for all its targets.

Access control documents are targets like any other, except that their permissions are those of the
resource they protect, seen through `Permission.onDocument`.
-/

namespace LinkedAccess.WebAccess

variable {σ : Type}

/-- The governing documents of the resources that were met so far. -/
abbrev Located := AscendingMap Identifier Identifier

/-- The document that governs the resource of a lineage. The whole way to it is remembered. -/
def locate (naming : AuxiliaryNaming) (reader : Reader σ) (located : Located)
    (lineage : Lineage) : Resolution σ (Identifier × Located) :=
  match located.get? lineage.resource with
  | some document => pure (document, located)
  | none => do
    let document := naming.document lineage.resource
    if ← reader.isPresent document then
      pure (document, located.insert lineage.resource document)
    else
      match lineage with
      | .root identifier => throw (.missingRootPolicy identifier)
      | .stray _ reason => throw (.hierarchy reason)
      | .child identifier parents => do
        let (document, located) ← locate naming reader located parents
        pure (document, located.insert identifier document)

/-- The targets of each document that governs any. -/
abbrev Governed := AscendingMap Identifier (List Identifier)

/-- Finds the governing documents of targets, one target after the other. -/
def govern (layout : Layout) (reader : Reader σ) (located : Located) (governed : Governed) :
    List Identifier → Resolution σ Governed
  | [] => pure governed
  | target :: later => do
    let (document, located) ← locate layout.naming reader located (layout.lineage target)
    let targets := (governed.get? document).getD [] ++ [target]
    govern layout reader located (governed.insert document targets) later

/-- The rules that count for a target among those of a document attached to `subject`. -/
def scopeOf (naming : AuxiliaryNaming) (subject target : Identifier) : Scope :=
  if naming.governed target = subject then .own else .inherited

/-- The permissions on a target from those on the resource that governs it. -/
def onTarget (naming : AuxiliaryNaming) (target : Identifier) (permissions : PermissionSet) :
    PermissionSet :=
  if naming.isAuxiliary target then permissions.map .onDocument else permissions

/-- The permissions that were found for the scopes of one document. -/
abbrev ByScope := AscendingMap Scope PermissionSet

/-- The permissions that a document gives in a scope, from those found before if they are there.
What is found is kept for the other targets of the scope. -/
def permitScope (reader : Reader σ) (checker : Checker) (credentials : Credentials)
    (document : Graph) (subject : Identifier) (byScope : ByScope) (scope : Scope) :
    Resolution (Cache × σ) (PermissionSet × ByScope) :=
  match byScope.get? scope with
  | some permissions => pure (permissions, byScope)
  | none => do
    let rules := rulesOf document scope subject
    let permissions ← permitGroups reader checker rules {} credentials.groups
    pure (permissions, byScope.insert scope permissions)

/-- Adds the permissions on targets that one document governs. -/
def resolveTargets (naming : AuxiliaryNaming) (reader : Reader σ) (checker : Checker)
    (credentials : Credentials) (document : Graph) (subject : Identifier) (byScope : ByScope)
    (found : PermissionMap) : List Identifier → Resolution (Cache × σ) PermissionMap
  | [] => pure found
  | target :: later => do
    let scope := scopeOf naming subject target
    let (permissions, byScope) ←
      permitScope reader checker credentials document subject byScope scope
    resolveTargets naming reader checker credentials document subject byScope
      (found.insert target (onTarget naming target permissions)) later

/-- Adds the permissions on all targets of a list of documents. -/
def resolveDocuments (naming : AuxiliaryNaming) (reader : Reader σ) (checker : Checker)
    (credentials : Credentials) (found : PermissionMap) :
    List (Identifier × List Identifier) → Resolution (Cache × σ) PermissionMap
  | [] => pure found
  | (document, targets) :: later => do
    let graph ← reader.load document .fail
    match naming.subject document with
    | .error reason => throw (.hierarchy reason)
    | .ok subject => do
      let found ← resolveTargets naming reader checker credentials graph subject ∅ found targets
      resolveDocuments naming reader checker credentials found later

/-- Finds permissions by Web Access Control. -/
def resolver (layout : Layout) (reader : Reader σ) (checker : Checker) : Resolver σ :=
  fun credentials requested => do
    let governed ← govern layout reader ∅ ∅ requested.keys.toList
    (resolveDocuments layout.naming reader checker credentials ∅ governed.toList).withCache

end LinkedAccess.WebAccess
