import LinkedAccess.Graph

/-!
# Writing triples

The line format in which documents are kept: one statement a line, its three terms separated by
spaces and closed by a full stop. A literal is written between double quotes with five characters
escaped. A language tag is preferred to a datatype, since a line has room for one of them.
-/

namespace LinkedAccess

/-- A character as the value of a literal shows it. -/
def Literal.renderChar (character : Char) : List Char :=
  if character = '"' then ['\\', '"']
  else if character = '\\' then ['\\', '\\']
  else if character = '\n' then ['\\', 'n']
  else if character = '\r' then ['\\', 'r']
  else if character = '\t' then ['\\', 't']
  else [character]

/-- An IRI between angle brackets. -/
def Term.renderIri (name : String) : List Char :=
  '<' :: name.toList ++ ['>']

/-- The language tag or the datatype, as it follows the closing quote. -/
def Literal.renderAnnotation (literal : Literal) : List Char :=
  match literal.language, literal.datatype with
  | some language, _ => '@' :: language.toList
  | none, some datatype => '^' :: '^' :: Term.renderIri datatype
  | none, none => []

/-- A literal as a line shows it. -/
def Literal.render (literal : Literal) : List Char :=
  '"' :: literal.value.toList.flatMap renderChar ++ '"' :: literal.renderAnnotation

/-- A term as a line shows it. -/
def Term.render : Term → List Char
  | iri name => renderIri name
  | blank label => '_' :: ':' :: label.toList
  | literal content => content.render

/-- A statement as a line shows it, without the line's end. -/
def Statement.render (statement : Statement) : List Char :=
  statement.subject.render ++ ' ' :: statement.predicate.render ++ ' ' ::
    statement.object.render ++ [' ', '.']

/-- The document of a graph: a line for each statement, in order. -/
def Graph.render (graph : Graph) : String :=
  String.ofList (graph.toList.flatMap fun statement => statement.render ++ ['\n'])

end LinkedAccess
