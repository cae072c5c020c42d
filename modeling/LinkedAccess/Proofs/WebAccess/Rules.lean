import LinkedAccess.Proofs.WebAccess.Checking
import LinkedAccess.WebAccess.Resolve

/-!
# What a document grants

The permissions on all targets of one document, and the documents that are consulted for them. The
permissions of a scope are found once and remembered for later targets: a memo agrees with the rules
of the document, and whatever it stands for was consulted before (`Remembers`). Hence every target
has the permissions that its own scope gives, whichever targets came first.
-/

namespace LinkedAccess

open Vocabulary

namespace WebAccess

/-- All that the permissions on a target depend on: what the documents say and where they lie, how
rules are checked, and who asks. -/
structure Inquiry where
  answers : Answers
  layout : Layout
  checker : Checker
  credentials : Credentials

def authorizations (rules : Graph) : List Term :=
  (rules.subjects (.iri Rdf.type) (.iri Acl.Authorization)).toList

@[simp]
theorem mem_authorizations {rules : Graph} {rule : Term} :
    rule ∈ authorizations rules ↔ ⟨rule, .iri Rdf.type, .iri Acl.Authorization⟩ ∈ rules :=
  Graph.mem_subjects

@[simp]
theorem mem_rulesOf {document : Graph} {scope : Scope} {subject : Identifier}
    {statement : Statement} :
    statement ∈ rulesOf document scope subject ↔ statement ∈ document ∧
      ⟨statement.subject, scope.predicate, .iri subject.path⟩ ∈ document := by
  have onList (rules : Graph) (candidates : List Term) :
      statement ∈ candidates.foldl (fun rules rule => rules ∪ document.describe rule) rules ↔
        statement ∈ rules ∨ statement ∈ document ∧ statement.subject ∈ candidates := by
    induction candidates generalizing rules with
    | nil => simp
    | cons rule later inductionHypothesis =>
        rw [List.foldl_cons, inductionHypothesis, AscendingSet.mem_union, Graph.mem_describe,
          List.mem_cons]
        grind
  rw [rulesOf, onList, ← AscendingSet.mem_iff_mem_toList, Graph.mem_subjects]
  simp

namespace Inquiry

/-- What the rules of a graph permit to credentials. -/
def permission (inquiry : Inquiry) (rules : Graph) (credentials : Credentials) : Permission :=
  .ofModes (((authorizations rules).filter fun rule =>
    inquiry.checker.accepts inquiry.answers rules rule credentials).flatMap (grantedModes rules))

/-- What the rules of a graph permit to everyone and, if there is one, to the asserted agent. -/
def permissions (inquiry : Inquiry) (rules : Graph) : PermissionSet where
  everyone := some (inquiry.permission rules {})
  agent :=
    if inquiry.credentials.isAuthenticated then some (inquiry.permission rules inquiry.credentials)
    else none

/-- The group documents that are asked for to find what the rules of a graph permit. -/
def consulted (inquiry : Inquiry) (rules : Graph) : List Identifier :=
  inquiry.credentials.groups.flatMap fun entry => (authorizations rules).flatMap fun rule =>
    inquiry.checker.consulted inquiry.answers rules rule entry.2

/-- The rules of a document attached to `subject` that count for a target. -/
def rulesFor (inquiry : Inquiry) (document : Graph) (subject target : Identifier) : Graph :=
  rulesOf document (scopeOf inquiry.layout.naming subject target) subject

/-- What a document attached to `subject` gives on a target. -/
def granted (inquiry : Inquiry) (document : Graph) (subject target : Identifier) : PermissionSet :=
  onTarget inquiry.layout.naming target
    (inquiry.permissions (inquiry.rulesFor document subject target))

variable (inquiry : Inquiry)

theorem get?_permissions (rules : Graph) (group : Group) :
    (inquiry.permissions rules).get? group =
      (inquiry.credentials.forGroup group).map (inquiry.permission rules) := by
  cases group with
  | everyone => rfl
  | agent =>
      simp only [permissions, PermissionSet.get?, Credentials.forGroup]
      split
      · rfl
      · rfl

theorem get?_granted (document : Graph) (subject target : Identifier) (group : Group) :
    (inquiry.granted document subject target).get? group =
      (inquiry.credentials.forGroup group).map fun credentials =>
        let permission := inquiry.permission (inquiry.rulesFor document subject target) credentials
        if inquiry.layout.naming.isAuxiliary target then permission.onDocument else permission := by
  rw [granted, onTarget]
  split
  · rw [PermissionSet.get?_map, get?_permissions, Option.map_map]
    rfl
  · exact inquiry.get?_permissions _ group

end Inquiry

open Resolution

variable {σ : Type} {reader : Reader σ} {inquiry : Inquiry}

theorem consults_permitRules (rules : Graph) (credentials : Credentials)
    (permission : Permission) (candidates : List Term) (loaded : List Identifier) :
    Consults reader inquiry.answers loaded
      (permitRules reader inquiry.checker rules credentials permission candidates)
      (((candidates.filter fun rule =>
        inquiry.checker.accepts inquiry.answers rules rule credentials).flatMap
          (grantedModes rules)).foldl .grant permission)
      (candidates.flatMap fun rule =>
        inquiry.checker.consulted inquiry.answers rules rule credentials) := by
  induction candidates generalizing permission loaded with
  | nil => exact consults_pure permission
  | cons rule later inductionHypothesis =>
      rw [List.flatMap_cons, permitRules]
      apply Consults.bind (Checker.consults_check rules rule credentials loaded inquiry.checker)
      intro _
      cases accepts : inquiry.checker.accepts inquiry.answers rules rule credentials with
      | true =>
          simp only [accepts, List.filter_cons_of_pos, List.flatMap_cons, List.foldl_append,
            if_true]
          exact inductionHypothesis _ _
      | false =>
          simp only [accepts, Bool.false_eq_true, not_false_iff, List.filter_cons_of_neg, if_false]
          exact inductionHypothesis _ _

theorem consults_permitGroups (rules : Graph) (permissions : PermissionSet)
    (groups : List (Group × Credentials)) (loaded : List Identifier) :
    Consults reader inquiry.answers loaded
      (permitGroups reader inquiry.checker rules permissions groups)
      (groups.foldl (fun permissions entry =>
        permissions.set entry.1 (inquiry.permission rules entry.2)) permissions)
      (groups.flatMap fun entry => (authorizations rules).flatMap fun rule =>
        inquiry.checker.consulted inquiry.answers rules rule entry.2) := by
  induction groups generalizing permissions loaded with
  | nil => exact consults_pure permissions
  | cons entry later inductionHypothesis =>
      rcases entry with ⟨group, credentials⟩
      rw [List.flatMap_cons, permitGroups]
      apply Consults.bind
        (consults_permitRules rules credentials .none (authorizations rules) loaded)
      intro _
      exact inductionHypothesis _ _

theorem foldl_groups (rules : Graph) :
    inquiry.credentials.groups.foldl (fun permissions entry =>
      permissions.set entry.1 (inquiry.permission rules entry.2)) {} =
        inquiry.permissions rules := by
  by_cases authenticated : inquiry.credentials.isAuthenticated = true
  · simp [Credentials.groups, Group.all, Credentials.forGroup, authenticated, PermissionSet.set,
      Inquiry.permissions]
  · simp [Credentials.groups, Group.all, Credentials.forGroup, authenticated, PermissionSet.set,
      Inquiry.permissions]

/-- What is remembered for a scope is what the rules of the scope come to, and nothing is left to
consult for it. -/
def Remembers (inquiry : Inquiry) (document : Graph) (subject : Identifier)
    (loaded : List Identifier) (byScope : ByScope) : Prop :=
  ∀ scope permissions, byScope.get? scope = some permissions →
    permissions = inquiry.permissions (rulesOf document scope subject) ∧
      ∀ consulted ∈ inquiry.consulted (rulesOf document scope subject), consulted ∈ loaded

theorem remembers_empty (inquiry : Inquiry) (document : Graph) (subject : Identifier)
    (loaded : List Identifier) : Remembers inquiry document subject loaded ∅ := by
  intro scope permissions found
  cases found

/-- What is remembered after the permissions of a scope were found. -/
def remembering (inquiry : Inquiry) (document : Graph) (subject : Identifier) (byScope : ByScope)
    (scope : Scope) : ByScope :=
  match byScope.get? scope with
  | some _ => byScope
  | none => byScope.insert scope (inquiry.permissions (rulesOf document scope subject))

variable {document : Graph} {subject : Identifier} {loaded : List Identifier} {byScope : ByScope}

theorem consults_permitScope (remembers : Remembers inquiry document subject loaded byScope)
    (scope : Scope) :
    Consults reader inquiry.answers loaded
      (permitScope reader inquiry.checker inquiry.credentials document subject byScope scope)
      (inquiry.permissions (rulesOf document scope subject),
        remembering inquiry document subject byScope scope)
      (inquiry.consulted (rulesOf document scope subject)) := by
  unfold permitScope remembering
  cases found : byScope.get? scope with
  | some permissions =>
      rcases remembers scope permissions found with ⟨rfl, known⟩
      exact (consults_pure _).of_mem known
  | none =>
      have permits : Consults reader inquiry.answers loaded _ _ _ :=
        consults_permitGroups (rulesOf document scope subject) {} inquiry.credentials.groups loaded
      rw [foldl_groups] at permits
      rw [← List.append_nil (inquiry.consulted _)]
      apply Consults.bind permits
      intro _
      exact consults_pure _

theorem Remembers.remembering (remembers : Remembers inquiry document subject loaded byScope)
    (scope : Scope) :
    Remembers inquiry document subject
      (loaded ++ inquiry.consulted (rulesOf document scope subject))
      (remembering inquiry document subject byScope scope) := by
  have before : Remembers inquiry document subject
      (loaded ++ inquiry.consulted (rulesOf document scope subject)) byScope := by
    intro other permissions isKnown
    rcases remembers other permissions isKnown with ⟨isGranted, known⟩
    exact ⟨isGranted, fun consulted mem => List.mem_append_left _ (known consulted mem)⟩
  unfold WebAccess.remembering
  cases byScope.get? scope with
  | some previous => exact before
  | none =>
      exact AscendingMap.forall_insert before
        ⟨rfl, fun consulted mem => List.mem_append_right _ mem⟩

/-- Every target is given what its own scope gives, whatever was looked at before it. -/
theorem consults_resolveTargets (remembers : Remembers inquiry document subject loaded byScope)
    (found : PermissionMap) (targets : List Identifier) :
    Consults reader inquiry.answers loaded
      (resolveTargets inquiry.layout.naming reader inquiry.checker inquiry.credentials document
        subject byScope found targets)
      (targets.foldl (fun found target =>
        found.insert target (inquiry.granted document subject target)) found)
      (targets.flatMap fun target =>
        inquiry.consulted (inquiry.rulesFor document subject target)) := by
  induction targets generalizing loaded byScope found with
  | nil => exact consults_pure found
  | cons target later inductionHypothesis =>
      rw [List.flatMap_cons, resolveTargets]
      apply Consults.bind
        (consults_permitScope remembers (scopeOf inquiry.layout.naming subject target))
      intro _
      exact inductionHypothesis (remembers.remembering _) _

end WebAccess

end LinkedAccess
