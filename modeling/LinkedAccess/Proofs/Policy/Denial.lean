import LinkedAccess.Proofs.Policy.Meaning

/-!
# What is denied

Denying wins over allowing, whichever policies on the way up do the one and the other. But modes are
denied before they become a permission, and a permission to write includes one to append. So a
denied mode is granted in one case: appending is, to those who are allowed to write and not denied
to.
-/

namespace LinkedAccess

open Vocabulary

namespace Policy

variable {answers : Answers} {layout : Layout} {credentials : Credentials} {target : Identifier}
  {mode : Mode}

/-- What is left of a mode that is denied: appending, as a part of writing. -/
theorem grants_iff_of_denied (denied : Says answers layout credentials target Acp.deny mode) :
    Grants answers layout credentials target mode ↔
      mode = .append ∧ Allows answers layout credentials target .write := by
  constructor
  · rintro (⟨_, notDenied⟩ | ofWriting)
    · exact absurd denied notDenied
    · exact ofWriting
  · exact Or.inr

theorem allows_policyPermission_iff_of_denied
    (isPlain : layout.naming.isAuxiliary target = false)
    (denied : Says answers layout credentials target Acp.deny mode) :
    (answers.policyPermission layout credentials target).allows mode = true ↔
      mode = .append ∧ Allows answers layout credentials target .write := by
  rw [allows_policyPermission_iff, isPlain, ← grants_iff_of_denied denied]
  rfl

/-- A mode that a satisfied policy denies is granted to no group, except that those who may write
may also append. -/
theorem resolver_withholds_denied {σ : Type} {reader : Reader σ} {answers : Answers} {state : σ}
    (steady : reader.Steady answers state) {layout : Layout} {credentials : Credentials}
    {requested : AccessMap} {found : PermissionMap}
    (resolved : (resolver layout reader credentials requested state).1 = .ok found)
    {target : Identifier} (isRequested : target ∈ requested.keys)
    (isPlain : layout.naming.isAuxiliary target = false) {mode : Mode}
    (denied : Says answers layout credentials target Acp.deny mode) :
    ∃ permissions, found.get? target = some permissions ∧ ∀ group, ∃ permission,
      permissions.get? group = some permission ∧
        (permission.allows mode = true ↔
          mode = .append ∧ Allows answers layout credentials target .write) := by
  rw [run_resolver steady] at resolved
  have isFound := Answers.get?_of_resolvePolicies resolved
    (AscendingSet.mem_iff_mem_toList.1 isRequested)
  exact ⟨_, isFound, fun group => ⟨answers.policyPermission layout credentials target,
    PermissionSet.get?_uniform _ group, allows_policyPermission_iff_of_denied isPlain denied⟩⟩

/-- A policy that lets anybody read and write what lies below it, and denies reading and appending
to the same. -/
def journalStatements : List Statement := [
  ⟨.iri "#root", .iri Acp.memberAccessControl, .iri "#members"⟩,
  ⟨.iri "#members", .iri Acp.apply, .iri "#entries"⟩,
  ⟨.iri "#entries", .iri Acp.anyOf, .iri "#anybody"⟩,
  ⟨.iri "#entries", .iri Acp.allow, .iri Acl.Read⟩,
  ⟨.iri "#entries", .iri Acp.allow, .iri Acl.Write⟩,
  ⟨.iri "#entries", .iri Acp.deny, .iri Acl.Read⟩,
  ⟨.iri "#entries", .iri Acp.deny, .iri Acl.Append⟩,
  ⟨.iri "#anybody", .iri Acp.agent, .iri Acp.PublicAgent⟩]

/-- The graph of these statements. -/
def journal : Graph := .ofList journalStatements

/-- A store with nothing but that graph, in the document of the root. -/
def journalRoot : Answers := .ofGraphs (.ofList [(⟨"https://pod/.acr"⟩, journal)])

theorem says_of_journal {mode : Mode} {predicate : String}
    (linked : ⟨.iri "#entries", .iri predicate, .iri mode.iri⟩ ∈ journalStatements) :
    Says journalRoot podLayout {} ⟨"https://pod/a"⟩ predicate mode := by
  have isAbove : ⟨"https://pod/"⟩ ∈ (podLayout.lineage ⟨"https://pod/a"⟩).ancestors := by
    decide +kernel
  have links : Links journal Acp.memberAccessControl (.iri "#entries") :=
    ⟨.iri "#root", .iri "#members", AscendingSet.mem_ofList.2 (by decide),
      AscendingSet.mem_ofList.2 (by decide)⟩
  have holds : PolicyHolds journal {} (.iri "#entries") :=
    isSatisfied_policy_iff.1 (by decide +kernel)
  exact ⟨journal, .iri "#entries", .inherited _ _ _ isAbove rfl links, holds,
    AscendingSet.mem_ofList.2 linked⟩

theorem run_journalRoot :
    (resolver podLayout journalRoot.reader {} (.ofList [(⟨"https://pod/a"⟩, ∅)]) ()).1 =
      .ok (.ofList [(⟨"https://pod/a"⟩, .uniform { append := true, write := true })]) :=
  toOption_eq_some_iff.1 (by decide +kernel)

theorem journalRoot_withholds_reading : ∃ found permissions,
    (resolver podLayout journalRoot.reader {} (.ofList [(⟨"https://pod/a"⟩, ∅)]) ()).1 = .ok found ∧
      Says journalRoot podLayout {} ⟨"https://pod/a"⟩ Acp.deny .read ∧
      found.get? ⟨"https://pod/a"⟩ = some permissions ∧
      ∀ group, ∃ permission, permissions.get? group = some permission ∧
        permission.allows .read = false := by
  have denied : Says journalRoot podLayout {} ⟨"https://pod/a"⟩ Acp.deny .read :=
    says_of_journal (by decide)
  rcases resolver_withholds_denied (Answers.steady_reader journalRoot ()) run_journalRoot
    (by decide) (by decide) denied with ⟨permissions, isFound, onGroup⟩
  refine ⟨_, permissions, run_journalRoot, denied, isFound, fun group => ?_⟩
  rcases onGroup group with ⟨permission, isPermitted, allows_iff⟩
  refine ⟨permission, isPermitted, Bool.eq_false_iff.2 fun isAllowed => ?_⟩
  cases (allows_iff.1 isAllowed).1

/-- To deny appending is of no use where writing is allowed. -/
theorem denied_appending_is_granted : ∃ found permissions,
    journalRoot.reader.Steady journalRoot () ∧
      (resolver podLayout journalRoot.reader {} (.ofList [(⟨"https://pod/a"⟩, ∅)]) ()).1 =
        .ok found ∧
      podLayout.naming.isAuxiliary ⟨"https://pod/a"⟩ = false ∧
      Says journalRoot podLayout {} ⟨"https://pod/a"⟩ Acp.deny .append ∧
      found.get? ⟨"https://pod/a"⟩ = some permissions ∧
      ∀ group, ∃ permission, permissions.get? group = some permission ∧
        permission.allows .append = true := by
  refine ⟨_, .uniform { append := true, write := true }, Answers.steady_reader journalRoot (),
    run_journalRoot, by decide, says_of_journal (by decide), by decide, fun group => ?_⟩
  exact ⟨_, PermissionSet.get?_uniform _ group, rfl⟩

end Policy

end LinkedAccess
