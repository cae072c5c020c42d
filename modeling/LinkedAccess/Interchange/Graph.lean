import LinkedAccess.Graph
import LinkedAccess.Json.Form

/-!
# Graphs as JSON

Terms are written by their kind, literals and statements as records. A graph is a record around the
list of its statements, in order; read statements may come in any order and more than once.
-/

namespace LinkedAccess

open Json

/-- The fields of a literal as far as they have been read. -/
structure Literal.Fields where
  value : Option String := none
  language : Option (Option String) := none
  datatype : Option (Option String) := none

/-- Literals; a language or datatype that is not mentioned is absent. -/
def Literal.form : Form Literal where
  read :=
    Record.read (σ := Literal.Fields)
      { name := "Literal"
        fields :=
          [.stored "value" Form.text.read (·.value) fun state text =>
              { state with value := some text },
            .stored "language" Form.text.nullable.read (·.language) fun state text =>
              { state with language := some text },
            .stored "datatype" Form.text.nullable.read (·.datatype) fun state text =>
              { state with datatype := some text }]
        empty := {}
        finish := fun state => do
          return ⟨← required "value" state.value, state.language.join, state.datatype.join⟩ }
  write content :=
    .object
      [("value", Form.text.write content.value),
        ("language", Form.text.nullable.write content.language),
        ("datatype", Form.text.nullable.write content.datatype)]

/-- Terms. -/
def Term.form : Form Term where
  read :=
    .variant
      [("Iri", Term.iri <$> Form.text.read), ("BlankNode", Term.blank <$> Form.text.read),
        ("Literal", Term.literal <$> Literal.form.read)]
  write
    | .iri value => .object [("Iri", .string value)]
    | .blank label => .object [("BlankNode", .string label)]
    | .literal content => .object [("Literal", Literal.form.write content)]

/-- The fields of a statement as far as they have been read. -/
structure Statement.Fields where
  subject : Option Term := none
  predicate : Option Term := none
  object : Option Term := none

/-- Statements. -/
def Statement.form : Form Statement where
  read :=
    Record.read (σ := Statement.Fields)
      { name := "Statement"
        fields :=
          [.stored "subject" Term.form.read (·.subject) fun state term =>
              { state with subject := some term },
            .stored "predicate" Term.form.read (·.predicate) fun state term =>
              { state with predicate := some term },
            .stored "object" Term.form.read (·.object) fun state term =>
              { state with object := some term }]
        empty := {}
        finish := fun state => do
          return ⟨← required "subject" state.subject, ← required "predicate" state.predicate,
            ← required "object" state.object⟩ }
  write statement :=
    .object
      [("subject", Term.form.write statement.subject),
        ("predicate", Term.form.write statement.predicate),
        ("object", Term.form.write statement.object)]

/-- Graphs. -/
def Graph.form : Form Graph :=
  Form.wrapped "Graph" "statements" (Statement.form.list.along .ofList (·.toList))

end LinkedAccess
