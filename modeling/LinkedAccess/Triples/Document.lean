import LinkedAccess.Graph
import LinkedAccess.Text.Parts
import LinkedAccess.Triples.Line

/-!
# Reading a document of triples

A document is read line by line; the first line that is not accepted ends the reading and is
reported by its number. A line ends at a line feed, and a carriage return before it is white space
like any other, so both conventions for line ends are read alike.
-/

namespace LinkedAccess

/-- Why a document is not a graph: the first refused line, counted from one, and what is wrong. -/
structure SyntaxError where
  line : Nat
  detail : String
deriving DecidableEq

/-- The message for a malformed document. -/
def SyntaxError.message (error : SyntaxError) : String :=
  "Syntax error on line " ++ toString error.line ++ ": " ++ error.detail

namespace Triples

/-- Adds the statements of lines to a graph, where the first of them has the given number. -/
def readLines (number : Nat) (graph : Graph) : List (List Char) → Except SyntaxError Graph
  | [] => .ok graph
  | line :: later =>
    match readLine line with
    | .error error => .error ⟨number, error.message⟩
    | .ok none => readLines (number + 1) graph later
    | .ok (some statement) => readLines (number + 1) (graph.insert statement) later

end Triples

/-- The graph of a document. -/
def Graph.parse (document : String) : Except SyntaxError Graph :=
  Triples.readLines 1 ∅ (Text.splitAt '\n' document.toList)

end LinkedAccess
