import LinkedAccess.Ascending.Set
import LinkedAccess.Statement

/-!
# Graphs

A graph is a set of statements. It is kept in ascending order, so that every query lists its answer
in the order of terms, and so that graphs with the same statements are equal.

Each query has one statement here: what it means for a term or a statement to be in its answer.
-/

namespace LinkedAccess

/-- A set of statements, such as the content of one document. -/
abbrev Graph := AscendingSet Statement

namespace Graph

/-- The statements with the given parts, in order; an absent part matches every term. -/
def matching (graph : Graph) (subject predicate object : Option Term) : List Statement :=
  graph.toList.filter fun statement => statement.agrees subject predicate object

/-- Whether a graph holds a statement. -/
def holds (graph : Graph) (subject predicate object : Term) : Bool :=
  decide (⟨subject, predicate, object⟩ ∈ graph)

/-- The terms that have a given value under a predicate. -/
def subjects (graph : Graph) (predicate object : Term) : AscendingSet Term :=
  .ofList ((graph.matching none (some predicate) (some object)).map (·.subject))

/-- The terms that have any value under a predicate. -/
def subjectsWith (graph : Graph) (predicate : Term) : AscendingSet Term :=
  .ofList ((graph.matching none (some predicate) none).map (·.subject))

/-- The values of a subject under a predicate, in order. -/
def objects (graph : Graph) (subject predicate : Term) : List Term :=
  (graph.matching (some subject) (some predicate) none).map (·.object)

/-- The part of a graph that is about one subject. -/
def describe (graph : Graph) (subject : Term) : Graph :=
  graph.filter fun statement => statement.agrees (some subject) none none

theorem mem_matching {graph : Graph} {subject predicate object : Option Term}
    {statement : Statement} :
    statement ∈ graph.matching subject predicate object ↔
      statement ∈ graph ∧ statement.agrees subject predicate object = true :=
  List.mem_filter

@[simp]
theorem holds_iff {graph : Graph} {subject predicate object : Term} :
    graph.holds subject predicate object = true ↔ ⟨subject, predicate, object⟩ ∈ graph := by
  simp [holds]

@[simp]
theorem mem_subjects {graph : Graph} {predicate object subject : Term} :
    subject ∈ graph.subjects predicate object ↔ ⟨subject, predicate, object⟩ ∈ graph := by
  simp only [subjects, AscendingSet.mem_ofList, List.mem_map, mem_matching, Statement.agrees_iff]
  constructor
  · rintro ⟨⟨_, _, _⟩, ⟨statementMem, _, samePredicate, sameObject⟩, rfl⟩
    cases samePredicate _ rfl
    cases sameObject _ rfl
    exact statementMem
  · exact fun statementMem => ⟨_, ⟨statementMem, by simp⟩, rfl⟩

@[simp]
theorem mem_subjectsWith {graph : Graph} {predicate subject : Term} :
    subject ∈ graph.subjectsWith predicate ↔
      ∃ object, (⟨subject, predicate, object⟩ : Statement) ∈ graph := by
  simp only [subjectsWith, AscendingSet.mem_ofList, List.mem_map, mem_matching,
    Statement.agrees_iff]
  constructor
  · rintro ⟨⟨_, _, object⟩, ⟨statementMem, _, samePredicate, _⟩, rfl⟩
    cases samePredicate _ rfl
    exact ⟨object, statementMem⟩
  · rintro ⟨object, statementMem⟩
    exact ⟨_, ⟨statementMem, by simp⟩, rfl⟩

@[simp]
theorem mem_objects {graph : Graph} {subject predicate object : Term} :
    object ∈ graph.objects subject predicate ↔ ⟨subject, predicate, object⟩ ∈ graph := by
  simp only [objects, List.mem_map, mem_matching, Statement.agrees_iff]
  constructor
  · rintro ⟨⟨_, _, _⟩, ⟨statementMem, sameSubject, samePredicate, _⟩, rfl⟩
    cases sameSubject _ rfl
    cases samePredicate _ rfl
    exact statementMem
  · exact fun statementMem => ⟨_, ⟨statementMem, by simp⟩, rfl⟩

/-- What is selected by name among the values of a subject comes from values that are IRIs. -/
theorem mem_filterMap_asIri? {α : Type} {graph : Graph} {subject predicate : Term}
    {select : String → Option α} {item : α} :
    item ∈ (graph.objects subject predicate).filterMap (fun object => object.asIri?.bind select) ↔
      ∃ name, ⟨subject, predicate, .iri name⟩ ∈ graph ∧ select name = some item := by
  simp only [List.mem_filterMap, mem_objects]
  constructor
  · rintro ⟨object, objectMem, isSelected⟩
    cases object with
    | iri name => exact ⟨name, objectMem, isSelected⟩
    | blank label => cases isSelected
    | literal content => cases isSelected
  · rintro ⟨name, nameMem, isSelected⟩
    exact ⟨.iri name, nameMem, isSelected⟩

@[simp]
theorem mem_describe {graph : Graph} {subject : Term} {statement : Statement} :
    statement ∈ graph.describe subject ↔ statement ∈ graph ∧ statement.subject = subject := by
  rw [describe, AscendingSet.mem_filter, Statement.agrees_iff]
  constructor
  · rintro ⟨statementMem, sameSubject, _⟩
    exact ⟨statementMem, (sameSubject _ rfl).symm⟩
  · rintro ⟨statementMem, rfl⟩
    exact ⟨statementMem, by simp⟩

end Graph

end LinkedAccess
