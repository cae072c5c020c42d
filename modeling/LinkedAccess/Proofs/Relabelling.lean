import LinkedAccess.Graph

/-!
# Graphs under other labels

A blank node has a label so that it can be linked, and a graph says the same under other labels as
long as no two of its nodes get the same one. The order of its statements may be another then. What
a node of the graph links is what it linked before, under the other labels.
-/

namespace LinkedAccess

/-- A term with another label, if it is a blank node. -/
def Term.relabel (rename : String → String) : Term → Term
  | blank label => .blank (rename label)
  | iri name => .iri name
  | literal content => .literal content

def Statement.relabel (rename : String → String) (statement : Statement) : Statement where
  subject := statement.subject.relabel rename
  predicate := statement.predicate.relabel rename
  object := statement.object.relabel rename

namespace Graph

/-- A graph with other labels for its blank nodes. -/
def relabel (rename : String → String) (graph : Graph) : Graph :=
  graph.image (Statement.relabel rename)

/-- A term occurs in a graph. -/
def Mentions (graph : Graph) (term : Term) : Prop :=
  ∃ statement ∈ graph,
    term = statement.subject ∨ term = statement.predicate ∨ term = statement.object

/-- Other labels do not make one of two blank nodes. -/
def KeepsApart (graph : Graph) (rename : String → String) : Prop :=
  ∀ first second, graph.Mentions (.blank first) → graph.Mentions (.blank second) →
    rename first = rename second → first = second

variable {graph : Graph} {rename : String → String} {node object : Term} {predicate : String}

theorem mentions_subject {subject predicate object : Term}
    (statementMem : ⟨subject, predicate, object⟩ ∈ graph) : graph.Mentions subject :=
  ⟨_, statementMem, Or.inl rfl⟩

theorem mentions_object {subject predicate object : Term}
    (statementMem : ⟨subject, predicate, object⟩ ∈ graph) : graph.Mentions object :=
  ⟨_, statementMem, Or.inr (Or.inr rfl)⟩

theorem KeepsApart.eq_of_relabel_eq (apart : graph.KeepsApart rename) {first second : Term}
    (isMentioned : graph.Mentions first) (isMentionedToo : graph.Mentions second)
    (same : first.relabel rename = second.relabel rename) : first = second := by
  cases first with
  | iri name => cases second <;> simp_all [Term.relabel]
  | blank label =>
      cases second with
      | iri name => cases same
      | blank other =>
          rw [apart label other isMentioned isMentionedToo (Term.blank.inj same)]
      | literal content => cases same
  | literal content => cases second <;> simp_all [Term.relabel]

theorem relabel_eq_iri_iff {term : Term} {name : String} :
    term.relabel rename = .iri name ↔ term = .iri name := by
  cases term <;> simp [Term.relabel]

theorem exists_of_mem_relabel
    (statementMem : ⟨node, .iri predicate, object⟩ ∈ graph.relabel rename) :
    ∃ other value, ⟨other, .iri predicate, value⟩ ∈ graph ∧ other.relabel rename = node ∧
      value.relabel rename = object := by
  rcases AscendingSet.mem_image.1 statementMem with ⟨⟨other, relation, value⟩, valueMem, same⟩
  simp only [Statement.relabel, Statement.mk.injEq] at same
  rcases same with ⟨sameNode, samePredicate, sameObject⟩
  rw [relabel_eq_iri_iff.1 samePredicate] at valueMem
  exact ⟨other, value, valueMem, sameNode, sameObject⟩

theorem mem_relabel (statementMem : ⟨node, .iri predicate, object⟩ ∈ graph) :
    ⟨node.relabel rename, .iri predicate, object.relabel rename⟩ ∈ graph.relabel rename :=
  AscendingSet.mem_image.2 ⟨_, statementMem, rfl⟩

/-- The values of a node have other labels, and are no others. -/
theorem KeepsApart.mem_relabel_iff (apart : graph.KeepsApart rename)
    (isMentioned : graph.Mentions node) :
    ⟨node.relabel rename, .iri predicate, object⟩ ∈ graph.relabel rename ↔
      ∃ value, ⟨node, .iri predicate, value⟩ ∈ graph ∧ value.relabel rename = object := by
  constructor
  · intro statementMem
    rcases exists_of_mem_relabel statementMem with ⟨other, value, valueMem, sameNode, sameObject⟩
    cases apart.eq_of_relabel_eq (mentions_subject valueMem) isMentioned sameNode
    exact ⟨value, valueMem, sameObject⟩
  · rintro ⟨value, valueMem, rfl⟩
    exact mem_relabel valueMem

section Values

variable (apart : graph.KeepsApart rename) (isMentioned : graph.Mentions node)
  {holds holdsToo : Term → Prop}
  (onValue : ∀ value, ⟨node, .iri predicate, value⟩ ∈ graph →
    (holdsToo (value.relabel rename) ↔ holds value))

include apart isMentioned

theorem KeepsApart.exists_mem_relabel_iff (predicate : String) :
    (∃ value, ⟨node.relabel rename, .iri predicate, value⟩ ∈ graph.relabel rename) ↔
      ∃ value, ⟨node, .iri predicate, value⟩ ∈ graph := by
  simp only [apart.mem_relabel_iff isMentioned]
  constructor
  · rintro ⟨_, value, valueMem, rfl⟩
    exact ⟨value, valueMem⟩
  · rintro ⟨value, valueMem⟩
    exact ⟨_, value, valueMem, rfl⟩

include onValue

theorem KeepsApart.exists_value_iff :
    (∃ value, ⟨node.relabel rename, .iri predicate, value⟩ ∈ graph.relabel rename ∧
        holdsToo value) ↔
      ∃ value, ⟨node, .iri predicate, value⟩ ∈ graph ∧ holds value := by
  simp only [apart.mem_relabel_iff isMentioned]
  constructor
  · rintro ⟨_, ⟨value, valueMem, rfl⟩, isTrue⟩
    exact ⟨value, valueMem, (onValue value valueMem).1 isTrue⟩
  · rintro ⟨value, valueMem, isTrue⟩
    exact ⟨_, ⟨value, valueMem, rfl⟩, (onValue value valueMem).2 isTrue⟩

theorem KeepsApart.forall_value_iff :
    (∀ value, ⟨node.relabel rename, .iri predicate, value⟩ ∈ graph.relabel rename →
        holdsToo value) ↔
      ∀ value, ⟨node, .iri predicate, value⟩ ∈ graph → holds value := by
  simp only [apart.mem_relabel_iff isMentioned]
  constructor
  · intro onAll value valueMem
    exact (onValue value valueMem).1 (onAll _ ⟨value, valueMem, rfl⟩)
  · rintro onAll _ ⟨value, valueMem, rfl⟩
    exact (onValue value valueMem).2 (onAll value valueMem)

end Values

end Graph

end LinkedAccess
