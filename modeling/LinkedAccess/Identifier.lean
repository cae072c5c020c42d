/-!
# Identifiers

A resource is named by its path, usually a URL. Identifiers are compared as texts: a path with a
slash at its end names another resource than the path without it.
-/

namespace LinkedAccess

open Std

/-- The name of a resource. -/
@[ext]
structure Identifier where
  path : String
deriving DecidableEq

namespace Identifier

instance : Ord Identifier := ⟨compareOn path⟩

instance : TransOrd Identifier := inferInstanceAs (TransCmp (compareOn path))

instance : LawfulEqOrd Identifier where
  eq_of_compare equal := Identifier.ext (LawfulEqOrd.eq_of_compare equal)

/-- The characters of the path. -/
def characters (identifier : Identifier) : List Char := identifier.path.toList

theorem eq_of_characters_eq {first second : Identifier}
    (same : first.characters = second.characters) : first = second :=
  Identifier.ext (String.toList_inj.1 same)

/-- Containers are the resources whose path ends with a slash. -/
def isContainer (identifier : Identifier) : Bool := identifier.characters.getLast? = some '/'

end Identifier

end LinkedAccess
