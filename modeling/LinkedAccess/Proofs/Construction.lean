import LinkedAccess.Graph
import LinkedAccess.Proofs.Precedence
import LinkedAccess.Triples.Render

/-!
# Graphs as ordered sets

A graph comes about when statements are added to nothing: one by one, with another graph, or from a
list. What it is and what it answers in the end depends on which statements were added, and neither
on their order nor on how often and in which way they were added. Each query is described by the
terms or statements that it lists, which together with the order determines the list.
-/

namespace LinkedAccess

/-- A way to come to a graph. A sequence of operations is one in which each of them goes on from the
graph before it. -/
inductive Construction where
  | empty
  | collect (statements : List Statement)
  | insert (before : Construction) (statement : Statement)
  | extend (before other : Construction)

namespace Construction

/-- The graph that a construction leads to. -/
def graph : Construction → Graph
  | empty => ∅
  | collect statements => .ofList statements
  | insert before statement => (AscendingSet.add statement before.graph).2
  | extend before other => before.graph ∪ other.graph

/-- The statements that were added on the way, each as often as it was added. -/
def added : Construction → List Statement
  | empty => []
  | collect statements => statements
  | insert before statement => before.added ++ [statement]
  | extend before other => before.added ++ other.added

theorem mem_graph {construction : Construction} {statement : Statement} :
    statement ∈ construction.graph ↔ statement ∈ construction.added := by
  induction construction with
  | empty => simp [graph, added]
  | collect statements => exact AscendingSet.mem_ofList
  | insert before newest inductionHypothesis =>
      rw [graph, added, AscendingSet.add, AscendingSet.mem_insert, inductionHypothesis,
        List.mem_append, List.mem_singleton]
      exact Or.comm
  | extend before other inductionHypothesis onOther =>
      rw [graph, added, AscendingSet.mem_union, inductionHypothesis, onOther, List.mem_append]

end Construction

namespace Graph

variable {graph : Graph} {added : List Statement}

theorem enumerates (graph : Graph) : Enumerates Statement.Precedes graph.toList (· ∈ graph) :=
  AscendingSet.enumerates (fun _ _ => Statement.compare_eq_lt_iff) graph

theorem enumerates_matching (graph : Graph) (subject predicate object : Option Term) :
    Enumerates Statement.Precedes (graph.matching subject predicate object) fun statement =>
      statement ∈ graph ∧ statement.agrees subject predicate object = true :=
  ⟨graph.enumerates.inOrder.filter _, fun _ => mem_matching⟩

/-- Among statements that only differ in their objects the objects decide on the order. -/
theorem enumerates_objects (graph : Graph) (subject predicate : Term) :
    Enumerates Term.Precedes (graph.objects subject predicate) fun object =>
      ⟨subject, predicate, object⟩ ∈ graph := by
  refine ⟨List.pairwise_map.2 ?_, fun _ => mem_objects⟩
  refine List.Pairwise.imp_of_mem ?_ (graph.enumerates_matching subject predicate none).inOrder
  intro first second firstMem secondMem precedes
  have isAbout {statement : Statement}
      (statementMem : statement ∈ graph.matching subject predicate none) :
      subject = statement.subject ∧ predicate = statement.predicate := by
    rw [mem_matching, Statement.agrees_iff] at statementMem
    exact ⟨statementMem.2.1 _ rfl, statementMem.2.2.1 _ rfl⟩
  rcases isAbout firstMem with ⟨firstSubject, firstPredicate⟩
  rcases isAbout secondMem with ⟨secondSubject, secondPredicate⟩
  cases precedes with
  | subject less =>
      rw [← firstSubject, ← secondSubject] at less
      exact absurd less (irrefl_of Term.Precedes subject)
  | predicate _ less =>
      rw [← firstPredicate, ← secondPredicate] at less
      exact absurd less (irrefl_of Term.Precedes predicate)
  | object _ _ less => exact less

theorem enumerates_terms (terms : AscendingSet Term) :
    Enumerates Term.Precedes terms.toList (· ∈ terms) :=
  AscendingSet.enumerates (fun _ _ => Term.compare_eq_lt_iff) terms

/-- A graph is the set of the statements that were added to it, and answers so. -/
structure IsOrderedSetOf (graph : Graph) (added : List Statement) : Prop where
  /-- All that was added is listed in order, each statement once. -/
  iteration : Enumerates Statement.Precedes graph.toList (· ∈ added)
  /-- The size is the number of different statements. -/
  size : graph.size = added.dedup.length
  /-- One more statement is told to be new if it was not added before. -/
  insert : ∀ statement, (AscendingSet.add statement graph).1 = true ↔ statement ∉ added
  contains : ∀ subject predicate object,
    graph.holds subject predicate object = true ↔ ⟨subject, predicate, object⟩ ∈ added
  /-- The statements with given parts are found, where an absent part stands for every term. -/
  matching : ∀ subject predicate object,
    Enumerates Statement.Precedes (graph.matching subject predicate object) fun statement =>
      statement ∈ added ∧ (∀ term ∈ subject, term = statement.subject) ∧
        (∀ term ∈ predicate, term = statement.predicate) ∧
        ∀ term ∈ object, term = statement.object
  subjects : ∀ predicate object,
    Enumerates Term.Precedes (graph.subjects predicate object).toList fun subject =>
      ⟨subject, predicate, object⟩ ∈ added
  subjectsWith : ∀ predicate,
    Enumerates Term.Precedes (graph.subjectsWith predicate).toList fun subject =>
      ∃ object, ⟨subject, predicate, object⟩ ∈ added
  objects : ∀ subject predicate,
    Enumerates Term.Precedes (graph.objects subject predicate) fun object =>
      ⟨subject, predicate, object⟩ ∈ added
  /-- The description of a subject is the part of the graph that is about it. -/
  describe : ∀ subject,
    Enumerates Statement.Precedes (graph.describe subject).toList fun statement =>
      statement ∈ added ∧ statement.subject = subject

/-- Whatever was added to come to a graph, it is the set of it if it has no other members. -/
theorem isOrderedSetOf (same : ∀ statement, statement ∈ graph ↔ statement ∈ added) :
    graph.IsOrderedSetOf added where
  iteration := graph.enumerates.congr same
  size := graph.enumerates.length_eq same
  insert statement := by rw [AscendingSet.add_iff, same]
  contains subject predicate object := by rw [holds_iff, same]
  matching subject predicate object := by
    refine (graph.enumerates_matching subject predicate object).congr fun statement => ?_
    rw [same, Statement.agrees_iff]
  subjects predicate object := by
    refine (enumerates_terms _).congr fun subject => ?_
    rw [mem_subjects, same]
  subjectsWith predicate := by
    refine (enumerates_terms _).congr fun subject => ?_
    simp only [mem_subjectsWith, same]
  objects subject predicate := (graph.enumerates_objects subject predicate).congr fun _ => same _
  describe subject := by
    refine (enumerates _).congr fun statement => ?_
    rw [mem_describe, same]

/-- Two graphs are written alike and answer every query alike. -/
structure AnswersLike (graph other : Graph) : Prop where
  same : graph = other
  rendering : graph.render = other.render
  matching : ∀ subject predicate object,
    graph.matching subject predicate object = other.matching subject predicate object
  subjects : ∀ predicate object, graph.subjects predicate object = other.subjects predicate object
  subjectsWith : ∀ predicate, graph.subjectsWith predicate = other.subjectsWith predicate
  objects : ∀ subject predicate, graph.objects subject predicate = other.objects subject predicate
  describe : ∀ subject, graph.describe subject = other.describe subject

theorem answersLike_self (graph : Graph) : graph.AnswersLike graph :=
  ⟨rfl, rfl, fun _ _ _ => rfl, fun _ _ => rfl, fun _ => rfl, fun _ _ => rfl, fun _ => rfl⟩

end Graph

/-- Terms and statements are in a strict total order. Every construction leads to the ordered set of
what was added, so that constructions that add the same statements lead to the same graph. -/
theorem constructions_are_ordered_sets (construction : Construction) :
    IsStrictTotalOrder Term Term.Precedes ∧ IsStrictTotalOrder Statement Statement.Precedes ∧
      construction.graph.IsOrderedSetOf construction.added ∧
      ∀ other : Construction,
        (∀ statement, statement ∈ construction.added ↔ statement ∈ other.added) →
          construction.graph.AnswersLike other.graph := by
  refine ⟨inferInstance, inferInstance, Graph.isOrderedSetOf fun _ => Construction.mem_graph, ?_⟩
  intro other same
  have sameGraph : construction.graph = other.graph := by
    apply AscendingSet.ext
    intro statement
    rw [Construction.mem_graph, Construction.mem_graph, same]
  rw [sameGraph]
  exact other.graph.answersLike_self

/-- Something is named in five ways. -/
def names : List Term :=
  [.iri "#z", .blank "y", .literal (.plain "x"), .literal ⟨"x", none, some "#type"⟩,
    .literal ⟨"x", some "en", none⟩]

def naming (name : Term) : Statement := ⟨.iri "#it", .iri "#is", name⟩

/-- The names are given in a graph and in another one, the last name first. -/
def jumbled : Construction :=
  .insert (.extend (.collect (names.reverse.map naming)) (.collect (names.map naming)))
    (naming (.blank "y"))

theorem jumbled_is_ordered :
    (∀ statement,
      statement ∈ jumbled.added ↔ statement ∈ (Construction.collect (names.map naming)).added) ∧
      jumbled.graph.AnswersLike (.ofList (names.map naming)) ∧
      jumbled.graph.size = 5 ∧ jumbled.graph.objects (.iri "#it") (.iri "#is") = names ∧
      (AscendingSet.add (naming (.blank "y")) jumbled.graph).1 = false := by
  rcases constructions_are_ordered_sets jumbled with ⟨_, _, isSet, alike⟩
  have same (statement : Statement) :
      statement ∈ jumbled.added ↔ statement ∈ (Construction.collect (names.map naming)).added := by
    simp only [jumbled, Construction.added, List.map_reverse, List.mem_append, List.mem_reverse,
      List.mem_singleton, or_self, or_iff_left_iff_imp]
    rintro rfl
    exact List.mem_map_of_mem (by decide)
  refine ⟨same, alike _ same, ?_, by decide +kernel, ?_⟩
  · rw [isSet.size]
    decide +kernel
  · rw [← Bool.not_eq_true, isSet.insert, Classical.not_not, same]
    exact List.mem_map_of_mem (by decide)

end LinkedAccess
