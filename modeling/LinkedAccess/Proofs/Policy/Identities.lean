import LinkedAccess.Proofs.Policy.Meaning

/-!
# Asserting more identities

Whoever asserts more identities satisfies all matchers that were satisfied before. Of policies this
is not true: one that excludes what a matcher accepts can be lost, and one that denies modes can be
won. A mode that was allowed is lost in these two ways only (`Loses`), so where no policy excludes
or denies anything it never does harm to say more about oneself.
-/

namespace LinkedAccess

open Vocabulary

/-- All identities that the first credentials assert are asserted by the second, with the same
values. -/
structure Credentials.Within (fewer more : Credentials) : Prop where
  agent : ∀ webId, fewer.agent = some webId → more.agent = some webId
  client : ∀ name, fewer.client = some name → more.client = some name
  issuer : ∀ url, fewer.issuer = some url → more.issuer = some url

variable {fewer more : Credentials}

namespace Matcher

theorem agrees_mono {values : List String} {accepts acceptsToo : String → Bool}
    (onValue : ∀ value, accepts value = true → acceptsToo value = true)
    (agreed : agrees values accepts = true) : agrees values acceptsToo = true := by
  rw [agrees, Bool.or_eq_true, List.any_eq_true] at agreed ⊢
  rcases agreed with isEmpty | ⟨value, valueMem, accepted⟩
  · exact Or.inl isEmpty
  · exact Or.inr ⟨value, valueMem, onValue value accepted⟩

theorem acceptsAgent_of_within (within : fewer.Within more) (value : String)
    (accepted : acceptsAgent fewer value = true) : acceptsAgent more value = true := by
  rw [Policy.acceptsAgent_iff] at accepted ⊢
  rcases accepted with isPublic | ⟨isAuthenticated, webId, asserted⟩ | asserted
  · exact Or.inl isPublic
  · exact Or.inr (Or.inl ⟨isAuthenticated, webId, within.agent webId asserted⟩)
  · exact Or.inr (Or.inr (within.agent value asserted))

theorem acceptsClient_of_within (within : fewer.Within more) (value : String)
    (accepted : acceptsClient fewer value = true) : acceptsClient more value = true := by
  rw [Policy.acceptsClient_iff] at accepted ⊢
  exact accepted.imp_right (within.client value)

theorem acceptsIssuer_of_within (within : fewer.Within more) (value : String)
    (accepted : acceptsIssuer fewer value = true) : acceptsIssuer more value = true := by
  rw [Policy.acceptsIssuer_iff] at accepted ⊢
  exact within.issuer value accepted

/-- A matcher never asks that an identity be absent. -/
theorem isSatisfied_of_within (within : fewer.Within more) {matcher : Matcher}
    (satisfied : matcher.isSatisfied fewer = true) : matcher.isSatisfied more = true := by
  simp only [isSatisfied, Bool.and_eq_true] at satisfied ⊢
  rcases satisfied with ⟨⟨⟨⟨notVacuous, agent⟩, client⟩, issuer⟩, noCredentials⟩
  exact ⟨⟨⟨⟨notVacuous, agrees_mono (acceptsAgent_of_within within) agent⟩,
    agrees_mono (acceptsClient_of_within within) client⟩,
    agrees_mono (acceptsIssuer_of_within within) issuer⟩, noCredentials⟩

end Matcher

namespace Policy

theorem isSatisfied_iff {policy : Policy} {credentials : Credentials} :
    policy.isSatisfied credentials = true ↔
      (∀ matcher ∈ policy.allOf, matcher.isSatisfied credentials = true) ∧
      (policy.anyOf = [] ∨ ∃ matcher ∈ policy.anyOf, matcher.isSatisfied credentials = true) ∧
      ¬∃ matcher ∈ policy.noneOf, matcher.isSatisfied credentials = true := by
  simp [isSatisfied, and_assoc]

/-- Only what a policy excludes can take it away from those who assert more. -/
theorem isSatisfied_iff_of_within (within : fewer.Within more) {policy : Policy}
    (satisfied : policy.isSatisfied fewer = true) :
    policy.isSatisfied more = true ↔
      ¬∃ matcher ∈ policy.noneOf, matcher.isSatisfied more = true := by
  rcases isSatisfied_iff.1 satisfied with ⟨allOf, anyOf, _⟩
  have allOfToo : ∀ matcher ∈ policy.allOf, matcher.isSatisfied more = true := by
    intro matcher matcherMem
    exact Matcher.isSatisfied_of_within within (allOf matcher matcherMem)
  have anyOfToo : policy.anyOf = [] ∨
      ∃ matcher ∈ policy.anyOf, matcher.isSatisfied more = true := by
    rcases anyOf with isEmpty | ⟨matcher, matcherMem, isMet⟩
    · exact Or.inl isEmpty
    · exact Or.inr ⟨matcher, matcherMem, Matcher.isSatisfied_of_within within isMet⟩
  rw [isSatisfied_iff]
  exact ⟨fun parts => parts.2.2, fun noneOf => ⟨allOfToo, anyOfToo, noneOf⟩⟩

/-- How those who assert more can lose a mode. -/
inductive Loses (policies : List Policy) (fewer more : Credentials) (mode : Mode) : Prop where
  /-- A policy that allowed it to those who assert less excludes those who assert more. -/
  | excluded (policy : Policy) (policyMem : policy ∈ policies) (allows : mode ∈ policy.allow)
      (satisfied : policy.isSatisfied fewer = true) (matcher : Matcher)
      (matcherMem : matcher ∈ policy.noneOf) (isMet : matcher.isSatisfied more = true)
      (wasNotMet : matcher.isSatisfied fewer = false)
  /-- A policy that those who assert less do not satisfy denies it to those who assert more. -/
  | denied (policy : Policy) (policyMem : policy ∈ policies) (denies : mode ∈ policy.deny)
      (satisfied : policy.isSatisfied more = true)
      (wasNotSatisfied : policy.isSatisfied fewer = false)

theorem loses_of_lost (within : fewer.Within more) {policies : List Policy} {mode : Mode}
    (allowed : mode ∈ allowedModes policies fewer) (lost : mode ∉ allowedModes policies more) :
    Loses policies fewer more mode := by
  rw [mem_allowedModes] at allowed lost
  rcases allowed with ⟨⟨policy, policyMem, satisfied, allows⟩, notDenied⟩
  by_cases isDenied : ∃ other ∈ policies, other.isSatisfied more = true ∧ mode ∈ other.deny
  · rcases isDenied with ⟨other, otherMem, satisfiedToo, denies⟩
    refine .denied other otherMem denies satisfiedToo (Bool.eq_false_iff.2 fun wasSatisfied => ?_)
    exact notDenied ⟨other, otherMem, wasSatisfied, denies⟩
  · -- Nothing is denied, so the policy that allowed the mode has to be lost.
    have notSatisfied : ¬policy.isSatisfied more = true := by
      intro stillSatisfied
      exact lost ⟨⟨policy, policyMem, stillSatisfied, allows⟩, isDenied⟩
    rw [isSatisfied_iff_of_within within satisfied, Classical.not_not] at notSatisfied
    rcases notSatisfied with ⟨matcher, matcherMem, isMet⟩
    refine .excluded policy policyMem allows satisfied matcher matcherMem isMet ?_
    refine Bool.eq_false_iff.2 fun wasMet => ?_
    exact (isSatisfied_iff.1 satisfied).2.2 ⟨matcher, matcherMem, wasMet⟩

/-- What it means to policies that more identities are asserted. -/
structure UnderMoreIdentities (policies : List Policy) (fewer more : Credentials) : Prop where
  /-- No matcher is lost, whether the policies have it or not. -/
  matchers : ∀ matcher : Matcher,
    matcher.isSatisfied fewer = true → matcher.isSatisfied more = true
  /-- A mode is lost by an exclusion or a denial. -/
  losses : ∀ mode, mode ∈ allowedModes policies fewer → mode ∉ allowedModes policies more →
    Loses policies fewer more mode
  /-- So none is lost where there are no exclusions and no denials. -/
  keeps : (∀ policy ∈ policies, policy.noneOf = [] ∧ policy.deny = ∅) →
    ∀ mode, mode ∈ allowedModes policies fewer → mode ∈ allowedModes policies more

/-- Modes are lost by asserting more in no other way than by exclusions and denials. -/
theorem asserting_more_loses_by_exclusion_or_denial (policies : List Policy)
    (within : fewer.Within more) : UnderMoreIdentities policies fewer more := by
  constructor
  · intro matcher
    exact Matcher.isSatisfied_of_within within
  · intro mode
    exact loses_of_lost within
  · intro isPlain mode allowed
    refine Classical.byContradiction fun lost => ?_
    cases loses_of_lost within allowed lost with
    | excluded policy policyMem _ _ matcher matcherMem =>
        rw [(isPlain policy policyMem).1] at matcherMem
        cases matcherMem
    | denied policy policyMem denies =>
        rw [(isPlain policy policyMem).2] at denies
        exact AscendingSet.not_mem_empty mode denies

/-- Anybody may read and write, but one agent is excluded from the one and denied the other. -/
def guestBook : List Policy :=
  let anybody : Matcher := { agents := [Acp.PublicAgent] }
  let vandal : Matcher := { agents := ["https://mallory.example/#me"] }
  [{ allow := .ofList [.read], anyOf := [anybody], noneOf := [vandal] },
   { allow := .ofList [.write], anyOf := [anybody] },
   { deny := .ofList [.write], allOf := [vandal] }]

theorem guestBook_loses_both :
    Credentials.Within {} { agent := "https://mallory.example/#me" } ∧
      ∀ mode ∈ [Mode.read, .write],
        mode ∈ allowedModes guestBook {} ∧
        mode ∉ allowedModes guestBook { agent := "https://mallory.example/#me" } ∧
        Loses guestBook {} { agent := "https://mallory.example/#me" } mode := by
  have within : Credentials.Within {} { agent := "https://mallory.example/#me" } := by
    constructor
    all_goals simp
  refine ⟨within, fun mode modeMem => ?_⟩
  have allowed : ∀ mode ∈ [Mode.read, .write], mode ∈ allowedModes guestBook {} := by
    decide +kernel
  have lost : ∀ mode ∈ [Mode.read, .write],
      mode ∉ allowedModes guestBook { agent := "https://mallory.example/#me" } := by
    decide +kernel
  refine ⟨allowed mode modeMem, lost mode modeMem, ?_⟩
  exact (asserting_more_loses_by_exclusion_or_denial guestBook within).losses mode
    (allowed mode modeMem) (lost mode modeMem)

end Policy

end LinkedAccess
