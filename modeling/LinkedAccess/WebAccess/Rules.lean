import LinkedAccess.WebAccess.Checker

/-!
# Rules of Web Access Control

A document holds rules for the resource it is attached to and rules for what lies below that
resource. This file selects the rules of one kind and finds what they permit to each group.
-/

namespace LinkedAccess.WebAccess

open Std Vocabulary

/-- Which rules of a document are about a target. -/
inductive Scope where
  /-- The target is the resource that the document is attached to. -/
  | own
  /-- The target lies below that resource. -/
  | inherited
deriving DecidableEq

namespace Scope

/-- The place of a scope among the scopes. -/
def rank : Scope → Nat
  | own => 0
  | inherited => 1

instance : Ord Scope := ⟨compareOn rank⟩

instance : TransOrd Scope := inferInstanceAs (TransCmp (compareOn rank))

instance : LawfulEqOrd Scope where
  eq_of_compare {first second} equal := by
    have rankEq : first.rank = second.rank := LawfulEqOrd.eq_of_compare equal
    cases first <;> cases second <;> simp_all [rank]

/-- What relates a rule of a scope to the resource of its document. -/
def predicate : Scope → Term
  | own => .iri Acl.accessTo
  | inherited => .iri Acl.default

end Scope

/-- All that a document says about its rules of one scope. -/
def rulesOf (document : Graph) (scope : Scope) (subject : Identifier) : Graph :=
  (document.subjects scope.predicate (.iri subject.path)).toList.foldl
    (fun rules rule => rules ∪ document.describe rule) ∅

/-- The modes that a rule grants. -/
def grantedModes (rules : Graph) (rule : Term) : List Mode :=
  (rules.objects rule (.iri Acl.mode)).filterMap fun mode => mode.asIri?.bind Mode.ofIri?

variable {σ : Type}

/-- Adds to a permission what those rules of a list grant that apply to credentials. -/
def permitRules (reader : Reader σ) (checker : Checker) (rules : Graph)
    (credentials : Credentials) (permission : Permission) :
    List Term → Resolution (Cache × σ) Permission
  | [] => pure permission
  | rule :: later => do
    let applies ← checker.check reader rules rule credentials
    let granted := if applies then grantedModes rules rule else []
    permitRules reader checker rules credentials (granted.foldl .grant permission) later

/-- Adds to a permission set the permission of each group of a list. -/
def permitGroups (reader : Reader σ) (checker : Checker) (rules : Graph)
    (permissions : PermissionSet) :
    List (Group × Credentials) → Resolution (Cache × σ) PermissionSet
  | [] => pure permissions
  | (group, credentials) :: later => do
    let authorizations := rules.subjects (.iri Rdf.type) (.iri Acl.Authorization)
    let permission ← permitRules reader checker rules credentials .none authorizations.toList
    permitGroups reader checker rules (permissions.set group permission) later

end LinkedAccess.WebAccess
