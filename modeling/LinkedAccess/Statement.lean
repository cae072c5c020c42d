import LinkedAccess.Term

/-!
# Statements

One assertion of a graph: a subject, a predicate and an object, compared in this order.
-/

namespace LinkedAccess

open Std

/-- A subject, a relation, and the value of the relation. -/
@[ext]
structure Statement where
  subject : Term
  predicate : Term
  object : Term
deriving DecidableEq

namespace Statement

/-- By subject, then by predicate, then by object. -/
def order : Statement → Statement → Ordering :=
  compareLex (compareOn subject) (compareLex (compareOn predicate) (compareOn object))

instance : Ord Statement := ⟨order⟩

instance : TransOrd Statement :=
  inferInstanceAs
    (TransCmp
      (compareLex (compareOn subject) (compareLex (compareOn predicate) (compareOn object))))

instance : LawfulEqOrd Statement where
  eq_of_compare {first second} equal := by
    change order first second = .eq at equal
    simp only [order, compareLex_eq_eq, compareOn] at equal
    exact Statement.ext (LawfulEqOrd.eq_of_compare equal.1) (LawfulEqOrd.eq_of_compare equal.2.1)
      (LawfulEqOrd.eq_of_compare equal.2.2)

/-- Whether a statement has the given parts, where an absent part matches every term. -/
def agrees (statement : Statement) (subject predicate object : Option Term) : Bool :=
  subject.all (· = statement.subject) && predicate.all (· = statement.predicate) &&
    object.all (· = statement.object)

theorem agrees_iff {statement : Statement} {subject predicate object : Option Term} :
    statement.agrees subject predicate object = true ↔
      (∀ term ∈ subject, term = statement.subject) ∧
      (∀ term ∈ predicate, term = statement.predicate) ∧
      (∀ term ∈ object, term = statement.object) := by
  cases subject <;> cases predicate <;> cases object <;> simp [agrees, and_assoc]

end Statement

end LinkedAccess
