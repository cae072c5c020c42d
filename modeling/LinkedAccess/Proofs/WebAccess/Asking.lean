import LinkedAccess.Proofs.Interview
import LinkedAccess.WebAccess.Resolve

/-!
# Web Access Control as an interview

Nothing that the resolver does looks at the state of its reader: from the answers so far it is known
what is asked next. This is seen one function after the other, each from those it calls.
-/

namespace LinkedAccess

open Resolution

namespace Checker

theorem isCachedInterview_anyGroupHolds (webId : String) (groups : List String) :
    IsCachedInterview fun _ reader => anyGroupHolds reader webId groups := by
  induction groups with
  | nil => exact .pure false
  | cons group later inductionHypothesis =>
      refine .bind (.load (groupDocument group) .empty) fun description => ?_
      split
      · exact .pure true
      · exact inductionHypothesis

theorem isCachedInterview_namesGroup (rules : Graph) (rule : Term) (credentials : Credentials) :
    IsCachedInterview fun _ reader => namesGroup reader rules rule credentials := by
  unfold namesGroup
  cases credentials.agent with
  | none => exact .pure false
  | some webId => exact isCachedInterview_anyGroupHolds webId _

mutual

theorem isCachedInterview_check (rules : Graph) (rule : Term) (credentials : Credentials) :
    (checker : Checker) →
    IsCachedInterview fun _ reader => check reader rules rule credentials checker
  | agent => .pure _
  | agentClass => .pure _
  | agentGroup => isCachedInterview_namesGroup rules rule credentials
  | any checkers => isCachedInterview_checkAny rules rule credentials checkers

theorem isCachedInterview_checkAny (rules : Graph) (rule : Term) (credentials : Credentials) :
    (checkers : List Checker) →
    IsCachedInterview fun _ reader => checkAny reader rules rule credentials checkers
  | [] => .pure false
  | checker :: later => by
      refine .bind (isCachedInterview_check rules rule credentials checker) fun applies => ?_
      split
      · exact .pure true
      · exact isCachedInterview_checkAny rules rule credentials later

end

end Checker

namespace WebAccess

variable (checker : Checker)

theorem isCachedInterview_permitRules (rules : Graph) (credentials : Credentials)
    (permission : Permission) (candidates : List Term) :
    IsCachedInterview fun _ reader =>
      permitRules reader checker rules credentials permission candidates := by
  induction candidates generalizing permission with
  | nil => exact .pure permission
  | cons rule later inductionHypothesis =>
      exact .bind (Checker.isCachedInterview_check rules rule credentials checker)
        fun _ => inductionHypothesis _

theorem isCachedInterview_permitGroups (rules : Graph) (permissions : PermissionSet)
    (groups : List (Group × Credentials)) :
    IsCachedInterview fun _ reader => permitGroups reader checker rules permissions groups := by
  induction groups generalizing permissions with
  | nil => exact .pure permissions
  | cons entry later inductionHypothesis =>
      exact .bind (isCachedInterview_permitRules checker rules entry.2 _ _)
        fun _ => inductionHypothesis _

theorem isCachedInterview_permitScope (credentials : Credentials) (document : Graph)
    (subject : Identifier) (byScope : ByScope) (scope : Scope) :
    IsCachedInterview fun _ reader =>
      permitScope reader checker credentials document subject byScope scope := by
  unfold permitScope
  cases byScope.get? scope with
  | some permissions => exact .pure _
  | none => exact .bind (isCachedInterview_permitGroups checker _ _ _) fun _ => .pure _

theorem isCachedInterview_resolveTargets (naming : AuxiliaryNaming) (credentials : Credentials)
    (document : Graph) (subject : Identifier) (byScope : ByScope) (found : PermissionMap)
    (targets : List Identifier) :
    IsCachedInterview fun _ reader =>
      resolveTargets naming reader checker credentials document subject byScope found targets := by
  induction targets generalizing byScope found with
  | nil => exact .pure found
  | cons target later inductionHypothesis =>
      exact .bind (isCachedInterview_permitScope checker credentials document subject byScope _)
        fun _ => inductionHypothesis _ _

theorem isCachedInterview_resolveDocuments (naming : AuxiliaryNaming) (credentials : Credentials)
    (found : PermissionMap) (entries : List (Identifier × List Identifier)) :
    IsCachedInterview fun _ reader =>
      resolveDocuments naming reader checker credentials found entries := by
  induction entries generalizing found with
  | nil => exact .pure found
  | cons entry later inductionHypothesis =>
      refine .bind (.load entry.1 .fail) fun graph => ?_
      cases naming.subject entry.1 with
      | error reason => exact .throw _
      | ok subject =>
          exact .bind
            (isCachedInterview_resolveTargets checker naming credentials graph subject ∅ found _)
            fun _ => inductionHypothesis _

theorem isInterview_locate (naming : AuxiliaryNaming) (located : Located) (lineage : Lineage) :
    IsInterview fun _ reader => locate naming reader located lineage := by
  induction lineage with
  | root identifier =>
      unfold locate
      cases located.get? (Lineage.root identifier).resource with
      | some document => exact .pure _
      | none =>
          refine .bind (.isPresent _) fun found => ?_
          split
          · exact .pure _
          · exact .throw _
  | stray identifier reason =>
      unfold locate
      cases located.get? (Lineage.stray identifier reason).resource with
      | some document => exact .pure _
      | none =>
          refine .bind (.isPresent _) fun found => ?_
          split
          · exact .pure _
          · exact .throw _
  | child identifier parents inductionHypothesis =>
      unfold locate
      cases located.get? (Lineage.child identifier parents).resource with
      | some document => exact .pure _
      | none =>
          refine .bind (.isPresent _) fun found => ?_
          split
          · exact .pure _
          · exact .bind inductionHypothesis fun _ => .pure _

theorem isInterview_govern (layout : Layout) (located : Located) (governed : Governed)
    (targets : List Identifier) :
    IsInterview fun _ reader => govern layout reader located governed targets := by
  induction targets generalizing located governed with
  | nil => exact .pure governed
  | cons target later inductionHypothesis =>
      exact .bind (isInterview_locate layout.naming located (layout.lineage target))
        fun _ => inductionHypothesis _ _

theorem isInterview_resolver (layout : Layout) (credentials : Credentials)
    (requested : AccessMap) :
    IsInterview fun _ reader => resolver layout reader checker credentials requested :=
  .bind (isInterview_govern layout ∅ ∅ _) fun _ =>
    (isCachedInterview_resolveDocuments checker layout.naming credentials ∅ _).withCache

end WebAccess

end LinkedAccess
