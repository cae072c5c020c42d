/-!
# Terms

The nodes of a graph: IRIs, blank nodes and literals. All listings of this library are ordered, and
the order of terms is where that begins: every IRI comes before every blank node and every blank
node before every literal, and terms of one kind are compared by their content. Texts are compared
by code point, and an absent language or datatype comes before every present one.

`Ord Term` is built from a rank and a content that together determine the term, so that the laws of
an order (`Std.TransOrd`, `Std.LawfulEqOrd`) come from the laws of its parts.
-/

namespace LinkedAccess

open Std

/-- A value with an optional language tag or datatype. -/
@[ext]
structure Literal where
  /-- The value itself, without escapes. -/
  value : String
  language : Option String
  datatype : Option String
deriving DecidableEq

namespace Literal

/-- A literal that is nothing but a text. -/
def plain (value : String) : Literal := ⟨value, none, none⟩

/-- By value, then by language, then by datatype. -/
def order : Literal → Literal → Ordering :=
  compareLex (compareOn value) (compareLex (compareOn language) (compareOn datatype))

instance : Ord Literal := ⟨order⟩

instance : TransOrd Literal :=
  inferInstanceAs
    (TransCmp (compareLex (compareOn value) (compareLex (compareOn language) (compareOn datatype))))

instance : LawfulEqOrd Literal where
  eq_of_compare {first second} equal := by
    change order first second = .eq at equal
    simp only [order, compareLex_eq_eq, compareOn] at equal
    exact Literal.ext (LawfulEqOrd.eq_of_compare equal.1) (LawfulEqOrd.eq_of_compare equal.2.1)
      (LawfulEqOrd.eq_of_compare equal.2.2)

end Literal

/-- A node of a graph. -/
inductive Term where
  /-- An absolute IRI, without the angle brackets around it. -/
  | iri (value : String)
  /-- A node known only by a label, which is kept without its leading mark. -/
  | blank (label : String)
  | literal (content : Literal)
deriving DecidableEq

namespace Term

/-- The place of a kind of term among the kinds. -/
def rank : Term → Nat
  | iri _ => 0
  | blank _ => 1
  | literal _ => 2

/-- What a term holds, in the shape of a literal so that all kinds have one. -/
def content : Term → Literal
  | iri value => .plain value
  | blank label => .plain label
  | literal content => content

/-- A term is determined by its kind and its content. -/
theorem eq_of_rank_eq_of_content_eq {first second : Term} (rankEq : first.rank = second.rank)
    (contentEq : first.content = second.content) : first = second := by
  cases first <;> cases second <;> simp_all [rank, content, Literal.plain]

/-- By kind, then by content. -/
def order : Term → Term → Ordering :=
  compareLex (compareOn rank) (compareOn content)

instance : Ord Term := ⟨order⟩

instance : TransOrd Term :=
  inferInstanceAs (TransCmp (compareLex (compareOn rank) (compareOn content)))

instance : LawfulEqOrd Term where
  eq_of_compare {first second} equal := by
    change order first second = .eq at equal
    simp only [order, compareLex_eq_eq, compareOn] at equal
    exact eq_of_rank_eq_of_content_eq (LawfulEqOrd.eq_of_compare equal.1)
      (LawfulEqOrd.eq_of_compare equal.2)

/-- The text of a term regardless of its kind: an IRI, a label or the value of a literal. -/
def value (term : Term) : String := term.content.value

/-- The IRI of a term that is one. -/
def asIri? : Term → Option String
  | iri value => some value
  | _ => none

/-- Whether a term is a given IRI. -/
def isIri (term : Term) (name : String) : Bool := term.asIri? = some name

end Term

end LinkedAccess
