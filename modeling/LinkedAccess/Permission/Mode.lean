import LinkedAccess.Ascending.Set
import LinkedAccess.Vocabulary

/-!
# Access modes

The four ways to access a resource, in the order in which all listings show them.
-/

namespace LinkedAccess

open Std

/-- A way to access a resource. -/
inductive Mode where
  | read
  /-- Adding without removing anything. -/
  | append
  /-- Any change; whoever grants it grants appending as well. -/
  | write
  /-- Reading and changing the access control document of the resource. -/
  | control
deriving DecidableEq

namespace Mode

/-- The place of a mode among the modes. -/
def rank : Mode → Nat
  | read => 0
  | append => 1
  | write => 2
  | control => 3

instance : Ord Mode := ⟨compareOn rank⟩

instance : TransOrd Mode := inferInstanceAs (TransCmp (compareOn rank))

instance : LawfulEqOrd Mode where
  eq_of_compare {first second} equal := by
    have rankEq : first.rank = second.rank := LawfulEqOrd.eq_of_compare equal
    cases first <;> cases second <;> simp_all [rank]

/-- Every mode, in order. -/
def all : List Mode := [read, append, write, control]

/-- The name of a mode in configurations and listings. -/
def name : Mode → String
  | read => "read"
  | append => "append"
  | write => "write"
  | control => "control"

/-- The name of a mode in messages. -/
def title : Mode → String
  | read => "Read"
  | append => "Append"
  | write => "Write"
  | control => "Control"

/-- The IRI by which documents refer to a mode. -/
def iri : Mode → String
  | read => Vocabulary.Acl.Read
  | append => Vocabulary.Acl.Append
  | write => Vocabulary.Acl.Write
  | control => Vocabulary.Acl.Control

/-- The mode that an IRI refers to. -/
def ofIri? (name : String) : Option Mode := all.find? (·.iri = name)

/-- No two modes have the same IRI. -/
theorem ofIri?_eq_some_iff {name : String} {mode : Mode} :
    ofIri? name = some mode ↔ name = mode.iri := by
  constructor
  · intro found
    simpa [eq_comm] using List.find?_some found
  · rintro rfl
    cases mode with
    | read => rfl
    | append => rfl
    | write => rfl
    | control => rfl

end Mode

/-- A set of modes. -/
abbrev Modes := AscendingSet Mode

/-- A set of modes as messages show it. -/
def Modes.title (modes : Modes) : String :=
  "\x7b" ++ ", ".intercalate (modes.toList.map Mode.title) ++ "\x7d"

end LinkedAccess
