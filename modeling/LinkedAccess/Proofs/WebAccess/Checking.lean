import LinkedAccess.Proofs.Settling
import LinkedAccess.WebAccess.Rules

/-!
# What rules come to

The checkers of Web Access Control ask for group documents one after the other and stop as soon as
one of them decides. For each resolution this file names the value it has and the documents it
consults, both as plain functions of the answers, and shows that it settles just so. A document that
is consulted twice, for two rules or for two groups of requesters, is listed twice: what is cached
afterwards is the same.
-/

namespace LinkedAccess

open Vocabulary

namespace Answers

/-- Whether the document of a group lists a member. One that cannot be read lists nobody. -/
def lists (answers : Answers) (webId group : String) : Bool :=
  match answers.description (Checker.groupDocument group) with
  | .ok description => description.holds (.iri group) (.iri Vcard.hasMember) (.iri webId)
  | .error _ => false

/-- The documents of the groups of a list, up to the first group that lists a member. -/
def groupDocuments (answers : Answers) (webId : String) : List String → List Identifier
  | [] => []
  | group :: later =>
    Checker.groupDocument group ::
      if answers.lists webId group then [] else answers.groupDocuments webId later

end Answers

namespace Checker

variable {σ : Type}

def groupsOf (rules : Graph) (rule : Term) : List String :=
  (rules.objects rule (.iri Acl.agentGroup)).filterMap Term.asIri?

@[simp]
theorem mem_groupsOf {rules : Graph} {rule : Term} {group : String} :
    group ∈ groupsOf rules rule ↔ ⟨rule, .iri Acl.agentGroup, .iri group⟩ ∈ rules := by
  have asSelection : groupsOf rules rule = (rules.objects rule (.iri Acl.agentGroup)).filterMap
      fun object => object.asIri?.bind some := by
    simp only [groupsOf, Option.bind_fun_some]
  rw [asSelection, Graph.mem_filterMap_asIri?]
  simp

theorem exists_group_of_mem_groupDocuments {answers : Answers} {webId : String}
    {groups : List String} {document : Identifier}
    (isConsulted : document ∈ answers.groupDocuments webId groups) :
    ∃ group ∈ groups, document = groupDocument group := by
  induction groups with
  | nil => cases isConsulted
  | cons group later inductionHypothesis =>
      rw [Answers.groupDocuments] at isConsulted
      rcases List.mem_cons.1 isConsulted with rfl | isLater
      · exact ⟨group, List.mem_cons_self, rfl⟩
      · split at isLater
        · cases isLater
        · rcases inductionHypothesis isLater with ⟨other, otherMem, documentEq⟩
          exact ⟨other, List.mem_cons_of_mem _ otherMem, documentEq⟩

mutual

/-- Whether a checker finds that a rule applies, as far as group documents can be read. -/
def accepts (answers : Answers) (rules : Graph) (rule : Term) (credentials : Credentials) :
    Checker → Bool
  | agent => namesAgent rules rule credentials
  | agentClass => namesClass rules rule credentials
  | agentGroup => credentials.agent.any fun webId => (groupsOf rules rule).any (answers.lists webId)
  | any checkers => acceptsAny answers rules rule credentials checkers

def acceptsAny (answers : Answers) (rules : Graph) (rule : Term) (credentials : Credentials) :
    List Checker → Bool
  | [] => false
  | checker :: later =>
    accepts answers rules rule credentials checker ||
      acceptsAny answers rules rule credentials later

end

mutual

/-- The group documents that a checker asks for. -/
def consulted (answers : Answers) (rules : Graph) (rule : Term) (credentials : Credentials) :
    Checker → List Identifier
  | agent => []
  | agentClass => []
  | agentGroup =>
    match credentials.agent with
    | none => []
    | some webId => answers.groupDocuments webId (groupsOf rules rule)
  | any checkers => consultedByAny answers rules rule credentials checkers

def consultedByAny (answers : Answers) (rules : Graph) (rule : Term) (credentials : Credentials) :
    List Checker → List Identifier
  | [] => []
  | checker :: later =>
    consulted answers rules rule credentials checker ++
      if accepts answers rules rule credentials checker then []
      else consultedByAny answers rules rule credentials later

end

open Resolution

variable {reader : Reader σ} {answers : Answers}

theorem consults_anyGroupHolds (webId : String) (groups : List String)
    (loaded : List Identifier) :
    Consults reader answers loaded (anyGroupHolds reader webId groups)
      (groups.any (answers.lists webId)) (answers.groupDocuments webId groups) := by
  induction groups generalizing loaded with
  | nil => exact consults_pure false
  | cons group later inductionHypothesis =>
      show Consults reader answers loaded (anyGroupHolds reader webId (group :: later))
        ((group :: later).any (answers.lists webId)) ([groupDocument group] ++
          if answers.lists webId group then [] else answers.groupDocuments webId later)
      -- Once the document is read it is known whether the later groups are looked at.
      apply Consults.bind (Reader.consults_load (groupDocument group))
      intro readable
      rcases readable _ List.mem_cons_self with ⟨graph, description⟩
      have listsEq : graph.holds (.iri group) (.iri Vcard.hasMember) (.iri webId) =
          answers.lists webId group := by
        simp [Answers.lists, description]
      simp only [Answers.content_of_description description, List.any_cons, listsEq]
      cases answers.lists webId group with
      | true =>
          simp only [if_true, Bool.true_or]
          exact consults_pure true
      | false =>
          simp only [Bool.false_eq_true, if_false, Bool.false_or]
          exact inductionHypothesis _

theorem consults_namesGroup (rules : Graph) (rule : Term) (credentials : Credentials)
    (loaded : List Identifier) :
    Consults reader answers loaded (namesGroup reader rules rule credentials)
      (accepts answers rules rule credentials .agentGroup)
      (consulted answers rules rule credentials .agentGroup) := by
  simp only [namesGroup, accepts, consulted]
  cases credentials.agent with
  | none => exact consults_pure false
  | some webId => exact consults_anyGroupHolds webId _ loaded

mutual

theorem consults_check (rules : Graph) (rule : Term) (credentials : Credentials)
    (loaded : List Identifier) : (checker : Checker) →
    Consults reader answers loaded (check reader rules rule credentials checker)
      (accepts answers rules rule credentials checker)
      (consulted answers rules rule credentials checker)
  | agent => consults_pure _
  | agentClass => consults_pure _
  | agentGroup => consults_namesGroup rules rule credentials loaded
  | any checkers => consults_checkAny rules rule credentials loaded checkers

theorem consults_checkAny (rules : Graph) (rule : Term) (credentials : Credentials)
    (loaded : List Identifier) : (checkers : List Checker) →
    Consults reader answers loaded (checkAny reader rules rule credentials checkers)
      (acceptsAny answers rules rule credentials checkers)
      (consultedByAny answers rules rule credentials checkers)
  | [] => consults_pure false
  | checker :: later => by
      apply Consults.bind (consults_check rules rule credentials loaded checker)
      intro _
      simp only [acceptsAny]
      cases accepts answers rules rule credentials checker with
      | true => exact consults_pure true
      | false => exact consults_checkAny rules rule credentials _ later

end

end Checker

end LinkedAccess
