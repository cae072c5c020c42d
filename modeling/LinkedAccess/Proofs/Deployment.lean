import LinkedAccess.Configuration
import LinkedAccess.Proofs.Union
import LinkedAccess.Proofs.WebAccess.Agents
import LinkedAccess.Proofs.WebAccess.Discipline

/-!
# Deployments

What a deployment finds permissions with is built from configurations, and several of these may be
united, and unions again. Permissions are flags that nothing ties to each other, but what is found
has an order all the same: whoever may write may append, and who asserts an agent loses nothing by
it. The three ways to find permissions establish this for different reasons, whatever their readers
answer, and a union of ordered sets is ordered although its parts may hold different groups.
-/

namespace LinkedAccess

namespace Permission

variable {permission : Permission}

/-- Whether a permission to write is one to append too. -/
def IsOrderly (permission : Permission) : Prop :=
  permission.allows .write = true → permission.allows .append = true

theorem isOrderly_ofModes (modes : List Mode) : (ofModes modes).IsOrderly := by
  intro writes
  rw [allows_ofModes] at writes ⊢
  rcases writes with isGranted | ⟨impossible, _⟩
  · exact Or.inr ⟨rfl, isGranted⟩
  · cases impossible

/-- What is granted by modes is ordered, whether it is for a document or not. -/
theorem isOrderly_granted (modes : List Mode) (isDocument : Bool) :
    (if isDocument then (ofModes modes).onDocument else ofModes modes).IsOrderly := by
  cases isDocument with
  | true =>
      intro controls
      simp only [if_true, allows_onDocument] at controls ⊢
      exact controls
  | false => exact isOrderly_ofModes modes

end Permission

namespace PermissionSet

/-- What ties the permissions on a target to each other. Everyone is looked at in any case, and an
agent who is asserted holds all that everyone holds. -/
structure IsOrderly (authenticated : Bool) (permissions : PermissionSet) : Prop where
  everyone : permissions.Has (.group .everyone)
  appends : ∀ group, permissions.Has (.mode group .write) → permissions.Has (.mode group .append)
  agent : authenticated = true → permissions.Has (.group .agent)
  inherits : authenticated = true →
    ∀ mode, permissions.Has (.mode .everyone mode) → permissions.Has (.mode .agent mode)

variable {authenticated : Bool}

theorem isOrderly_uniform {permission : Permission} (isOrderly : permission.IsOrderly) :
    (uniform permission).IsOrderly authenticated := by
  constructor
  · exact ⟨permission, get?_uniform permission .everyone⟩
  · rintro group ⟨held, isHeld, writes⟩
    cases (get?_uniform permission group).symm.trans isHeld
    exact ⟨permission, get?_uniform permission group, isOrderly writes⟩
  · intro _
    exact ⟨permission, get?_uniform permission .agent⟩
  · rintro _ mode ⟨held, isHeld, allowed⟩
    cases (get?_uniform permission .everyone).symm.trans isHeld
    exact ⟨permission, get?_uniform permission .agent, allowed⟩

/-- The order survives a union, whatever groups the parts hold. -/
theorem IsOrderly.merge {first second : PermissionSet} (onFirst : first.IsOrderly authenticated)
    (onSecond : second.IsOrderly authenticated) : (first.merge second).IsOrderly authenticated := by
  constructor
  · exact (has_merge _ _ _).2 (Or.inl onFirst.everyone)
  · intro group
    rw [has_merge, has_merge]
    exact Or.imp (onFirst.appends group) (onSecond.appends group)
  · intro isAuthenticated
    exact (has_merge _ _ _).2 (Or.inl (onFirst.agent isAuthenticated))
  · intro isAuthenticated mode
    rw [has_merge, has_merge]
    exact Or.imp (onFirst.inherits isAuthenticated mode) (onSecond.inherits isAuthenticated mode)

end PermissionSet

namespace Resolver

/-- What any deployment owes to a request: an entry for each target and no others, and permissions
that are ordered in each of them. -/
structure Upholds (credentials : Credentials) (requested : AccessMap) (found : PermissionMap) :
    Prop where
  entries : ∀ target, PermissionMap.Shows found target .entry ↔ target ∈ requested.keys
  ordered : ∀ target permissions, AscendingMap.get? found target = some permissions →
    permissions.IsOrderly credentials.isAuthenticated

variable {credentials : Credentials} {requested : AccessMap}

theorem Upholds.merge {first second : PermissionMap} (onFirst : Upholds credentials requested first)
    (onSecond : Upholds credentials requested second) :
    Upholds credentials requested (PermissionMap.merge first second) := by
  constructor
  · intro target
    rw [PermissionMap.shows_merge, onFirst.entries, onSecond.entries, or_self]
  · intro target permissions isFound
    rw [PermissionMap.get?_merge] at isFound
    have onLeft := onFirst.ordered target
    have onRight := onSecond.ordered target
    cases left : AscendingMap.get? first target with
    | none =>
        rw [left, Option.merge_none_left] at isFound
        exact onRight permissions isFound
    | some here =>
        cases right : AscendingMap.get? second target with
        | none =>
            rw [left, right, Option.merge_none_right] at isFound
            exact onLeft permissions (left.trans isFound)
        | some there =>
            rw [left, right, Option.merge_some_some, Option.some.injEq] at isFound
            rw [← isFound]
            exact (onLeft here left).merge (onRight there right)

/-- Of a list of ordered findings the first has an entry for each target, so it must not be
empty. -/
theorem upholds_mergeAll {founds : List PermissionMap} (notEmpty : founds ≠ [])
    (upheld : ∀ found ∈ founds, Upholds credentials requested found) :
    Upholds credentials requested (PermissionMap.mergeAll founds) := by
  induction founds with
  | nil => exact absurd rfl notEmpty
  | cons found later inductionHypothesis =>
      rcases List.forall_mem_cons.1 upheld with ⟨onFirst, onLater⟩
      cases later with
      | nil => exact onFirst
      | cons other rest => exact onFirst.merge (inductionHypothesis (by simp) onLater)

theorem upholds_uniform {permission : Permission} (isOrderly : permission.IsOrderly) :
    Upholds credentials requested
      (.tabulate requested.keys fun _ => .uniform permission) := by
  constructor
  · intro target
    simp [PermissionMap.Shows, PermissionSet.Has]
  · intro target permissions isFound
    rw [AscendingMap.get?_tabulate, Option.ite_none_right_eq_some, Option.some.injEq] at isFound
    rw [← isFound.2]
    exact PermissionSet.isOrderly_uniform isOrderly

end Resolver

namespace WebAccess

variable {inquiry : Inquiry}

theorem isOrderly_grantedBy (inquiry : Inquiry) (document target : Identifier) :
    (inquiry.grantedBy document target).IsOrderly inquiry.credentials.isAuthenticated := by
  constructor
  · exact ⟨_, inquiry.get?_granted _ _ target .everyone⟩
  · rintro group ⟨permission, isHeld, writes⟩
    refine ⟨permission, isHeld, ?_⟩
    rw [Inquiry.grantedBy, Inquiry.get?_granted, Option.map_eq_some_iff] at isHeld
    rcases isHeld with ⟨judgedBy, _, rfl⟩
    exact Permission.isOrderly_granted _ _ writes
  · intro authenticated
    rcases inquiry.grantedBy_of_authenticated authenticated document target with
      ⟨_, agent, _, isHeld, _⟩
    exact ⟨agent, isHeld⟩
  · rintro authenticated mode ⟨permission, isHeld, allowed⟩
    rcases inquiry.grantedBy_of_authenticated authenticated document target with
      ⟨everyone, agent, isEveryone, isAgent, inherits⟩
    cases isHeld.symm.trans isEveryone
    exact ⟨agent, isAgent, inherits mode allowed⟩

theorem mem_of_get?_findings {entries : List (Identifier × List Identifier)}
    {found : PermissionMap} {target : Identifier} {permissions : PermissionSet}
    (isFound : (inquiry.findings found entries).get? target = some permissions) :
    (∃ entry ∈ entries, target ∈ entry.2) ∨ found.get? target = some permissions := by
  induction entries generalizing found with
  | nil => exact Or.inr isFound
  | cons entry later inductionHypothesis =>
      rcases inductionHypothesis isFound with ⟨other, otherMem, targetMem⟩ | isFoundHere
      · exact Or.inl ⟨other, List.mem_cons_of_mem _ otherMem, targetMem⟩
      · rw [AscendingMap.get?_foldl_insert] at isFoundHere
        split at isFoundHere
        · rename_i targetMem
          exact Or.inl ⟨entry, List.mem_cons_self, targetMem⟩
        · exact Or.inr isFoundHere

theorem mem_of_get?_resolve {targets : List Identifier} {found : PermissionMap}
    (resolved : inquiry.resolve targets = .ok found) {target : Identifier}
    {permissions : PermissionSet} (isFound : found.get? target = some permissions) :
    target ∈ targets := by
  rw [Inquiry.resolve] at resolved
  cases gathering : inquiry.gather ∅ targets with
  | error error =>
      rw [gathering] at resolved
      cases resolved
  | ok governed =>
      rw [gathering] at resolved
      rw [← (Answers.of_loading resolved).1] at isFound
      rcases mem_of_get?_findings isFound with ⟨⟨document, group⟩, entryMem, targetMem⟩ | impossible
      · rcases (gathered_of_gather gathering).1.mem_toList.1 entryMem with ⟨rfl, _⟩
        exact (mem_governedBy.1 targetMem).1
      · cases impossible

theorem upholds_resolver {σ : Type} {reader : Reader σ} {state : σ} {layout : Layout}
    {checker : Checker} {credentials : Credentials} {requested : AccessMap} {found : PermissionMap}
    (resolved : (resolver layout reader checker credentials requested state).1 = .ok found) :
    Resolver.Upholds credentials requested found := by
  -- The answers that the reader gives here are those of a steady one.
  rcases exists_isRecord reader state layout checker credentials requested with
    ⟨record, _, _, outcome⟩
  rw [outcome] at resolved
  constructor
  · intro target
    rw [AscendingSet.mem_iff_mem_toList]
    constructor
    · rintro ⟨permissions, isFound, _⟩
      exact mem_of_get?_resolve resolved isFound
    · intro isRequested
      rcases get?_of_resolve resolved isRequested with ⟨_, _, _, _, isFound⟩
      exact ⟨_, isFound, trivial⟩
  · intro target permissions isFound
    rcases get?_of_resolve resolved (mem_of_get?_resolve resolved isFound) with
      ⟨document, _, _, _, isGranted⟩
    cases isFound.symm.trans isGranted
    exact isOrderly_grantedBy ⟨.ofRecord record, layout, checker, credentials⟩ _ _

end WebAccess

namespace Policy

variable {σ : Type} {reader : Reader σ} {layout : Layout} {credentials : Credentials}

theorem isOrderly_permissionOn (naming : AuxiliaryNaming) (target : Identifier)
    (policies : List Policy) : (permissionOn naming target policies credentials).IsOrderly :=
  Permission.isOrderly_granted _ _

/-- Each target of a list gets an entry of its own, and nothing else changes. -/
theorem get?_of_resolveTargets {decoded : Decoded} {found result : PermissionMap}
    {targets : List Identifier} (state : Cache × σ)
    (resolved : (resolveTargets layout reader credentials decoded found targets state).1 =
      .ok result) (target : Identifier) :
    (target ∈ targets ∧ ∃ policies, result.get? target =
      some (.uniform (permissionOn layout.naming target policies credentials))) ∨
    (target ∉ targets ∧ result.get? target = found.get? target) := by
  induction targets generalizing decoded found state with
  | nil =>
      cases resolved
      exact Or.inr ⟨List.not_mem_nil, rfl⟩
  | cons first later inductionHypothesis =>
      rw [resolveTargets, Resolution.run_bind] at resolved
      rcases run : applicable layout.naming reader .resource decoded (layout.lineage first) state
        with ⟨error | ⟨policies, decodedThen⟩, after⟩
      · rw [run] at resolved
        cases resolved
      · rw [run] at resolved
        rcases inductionHypothesis _ resolved with ⟨isLater, onTarget⟩ | ⟨notLater, isKept⟩
        · exact Or.inl ⟨List.mem_cons_of_mem _ isLater, onTarget⟩
        · rw [AscendingMap.get?_insert] at isKept
          by_cases isFirst : target = first
          · rw [if_pos isFirst] at isKept
            rw [isFirst] at isKept ⊢
            exact Or.inl ⟨List.mem_cons_self, policies, isKept⟩
          · rw [if_neg isFirst] at isKept
            exact Or.inr ⟨by simp [isFirst, notLater], isKept⟩

theorem upholds_resolver {state : σ} {requested : AccessMap} {found : PermissionMap}
    (resolved : (resolver layout reader credentials requested state).1 = .ok found) :
    Resolver.Upholds credentials requested found := by
  have onTarget := get?_of_resolveTargets (∅, state) resolved
  constructor
  · intro target
    rw [AscendingSet.mem_iff_mem_toList]
    rcases onTarget target with ⟨isRequested, policies, isFound⟩ | ⟨notRequested, notFound⟩
    · exact iff_of_true ⟨_, isFound, trivial⟩ isRequested
    · apply iff_of_false _ notRequested
      rintro ⟨permissions, isFound, _⟩
      cases notFound.symm.trans isFound
  · intro target permissions isFound
    rcases onTarget target with ⟨_, policies, isFoundThere⟩ | ⟨_, notFound⟩
    · cases isFound.symm.trans isFoundThere
      exact PermissionSet.isOrderly_uniform (isOrderly_permissionOn _ _ _)
    · cases notFound.symm.trans isFound

end Policy

/-- The resolvers that deployments are made of: what is built from a configuration, with a base URL
and a reader of its own, and the unions of one or more of them. -/
inductive Resolver.IsDeployed {σ : Type} : Resolver σ → Prop where
  | built (configuration : Configuration) (base : String) (reader : Reader σ)
      {resolver : Resolver σ} (isBuilt : configuration.build base reader = .ok resolver) :
      IsDeployed resolver
  | union {members : List (Resolver σ)} (notEmpty : members ≠ [])
      (deployed : ∀ member ∈ members, IsDeployed member) : IsDeployed (union members)

namespace Configuration

theorem upholds_of_build {σ : Type} {configuration : Configuration} {base : String}
    {reader : Reader σ} {resolver : Resolver σ}
    (isBuilt : configuration.build base reader = .ok resolver) {state : σ}
    {credentials : Credentials} {requested : AccessMap} {found : PermissionMap}
    (resolved : (resolver credentials requested state).1 = .ok found) :
    Resolver.Upholds credentials requested found := by
  cases configuration with
  | acl suffix =>
      rcases bind_eq_ok_iff.1 isBuilt with ⟨layout, _, same⟩
      cases same
      exact WebAccess.upholds_resolver resolved
  | acp suffix =>
      rcases bind_eq_ok_iff.1 isBuilt with ⟨layout, _, same⟩
      cases same
      exact Policy.upholds_resolver resolved
  | static allow =>
      cases isBuilt
      cases resolved
      apply Resolver.upholds_uniform
      cases allow with
      | true => exact fun _ => rfl
      | false => exact fun impossible => impossible

end Configuration

namespace Resolver

/-- Whatever a deployment is made of, what it finds has an entry for each target and is ordered. -/
theorem deployment_upholds_order {σ : Type} {resolver : Resolver σ} (deployed : resolver.IsDeployed)
    (credentials : Credentials) (requested : AccessMap) (state : σ) (found : PermissionMap)
    (resolved : (resolver credentials requested state).1 = .ok found) :
    Upholds credentials requested found := by
  induction deployed generalizing state found with
  | built configuration base reader isBuilt => exact Configuration.upholds_of_build isBuilt resolved
  | @union members notEmpty deployed inductionHypothesis =>
      rcases exists_of_union_eq_ok resolved with ⟨founds, outcomesEq, rfl⟩
      apply upholds_mergeAll
      · rintro rfl
        have sameLength := congrArg List.length outcomesEq
        rw [length_outcomes, List.map_nil, List.length_nil] at sameLength
        exact notEmpty (List.length_eq_zero_iff.1 sameLength)
      · intro found foundMem
        have isOutcome : .ok found ∈ outcomes credentials requested members state := by
          rw [outcomesEq]
          exact List.mem_map_of_mem foundMem
        -- In which state a member was asked does not matter: what it upholds, it upholds in all.
        rcases exists_member_of_mem_outcomes isOutcome with ⟨member, memberMem, before, isFound⟩
        exact inductionHypothesis member memberMem before found isFound

end Resolver

open WebAccess

theorem layout_open (suffix : String) :
    Configuration.layout "https://pod/" suffix = .ok ⟨openLayout.hierarchy, ⟨suffix⟩⟩ := by
  have isParsed : (Url.parse? "https://pod/").map (Hierarchy.container ·.render) =
      some "https://pod/".toList := by
    decide +kernel
  rcases Option.map_eq_some_iff.1 isParsed with ⟨url, isUrl, sameRoot⟩
  have isRooted : Hierarchy.rootedAt url.render = openLayout.hierarchy := by
    rw [Hierarchy.rootedAt, openLayout, Hierarchy.mk.injEq, sameRoot, String.ofList_toList]
  simp [Configuration.layout, Hierarchy.ofUrl, isUrl, isRooted]

/-- A deployment that unites all three ways to find permissions. -/
def mixedDeployment : Resolver Unit :=
  .union [
    WebAccess.resolver openLayout (Answers.ofGraphs openRoot).reader .standard,
    .union [
      Policy.resolver ⟨openLayout.hierarchy, ⟨".acr"⟩⟩ (Answers.ofGraphs openRoot).reader,
      .uniform .none]]

theorem isDeployed_mixedDeployment : mixedDeployment.IsDeployed := by
  have withRules : Resolver.IsDeployed (WebAccess.resolver openLayout
      (Answers.ofGraphs openRoot).reader .standard : Resolver Unit) := by
    apply Resolver.IsDeployed.built .standard "https://pod/" (Answers.ofGraphs openRoot).reader
    rw [Configuration.standard, Configuration.build, layout_open]
    rfl
  have withPolicies : Resolver.IsDeployed (Policy.resolver ⟨openLayout.hierarchy, ⟨".acr"⟩⟩
      (Answers.ofGraphs openRoot).reader : Resolver Unit) := by
    apply Resolver.IsDeployed.built (.acp ".acr") "https://pod/" (Answers.ofGraphs openRoot).reader
    rw [Configuration.build, layout_open]
    rfl
  have closed : Resolver.IsDeployed (.uniform .none : Resolver Unit) :=
    .built (.static false) "" (Answers.ofGraphs openRoot).reader rfl
  apply Resolver.IsDeployed.union (by simp)
  simp only [List.forall_mem_cons]
  refine ⟨withRules, .union (by simp) ?_, by simp⟩
  simp only [List.forall_mem_cons]
  exact ⟨withPolicies, closed, by simp⟩

theorem mixedDeployment_upholds_order :
    ∃ found, (mixedDeployment { agent := some "https://ann/" } anyFile ()).1 = .ok found ∧
      Resolver.Upholds { agent := some "https://ann/" } anyFile found := by
  have isFound : (mixedDeployment { agent := some "https://ann/" } anyFile ()).1 = .ok (.ofList
      [(⟨"https://pod/a"⟩, .uniform { append := true, write := true })]) :=
    toOption_eq_some_iff.1 (by decide +kernel)
  exact ⟨_, isFound, Resolver.deployment_upholds_order isDeployed_mixedDeployment _ _ _ _ isFound⟩

end LinkedAccess
