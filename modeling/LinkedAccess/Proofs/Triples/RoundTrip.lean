import LinkedAccess.Proofs.Triples.Lines

/-!
# Reading what was written

The document of a writable graph has one line for each statement, and no line is broken or joined
to the next one: a line feed is escaped where it may occur and forbidden everywhere else. Reading
such a document gives the graph back, and the graphs that documents give are just the writable ones.
-/

namespace LinkedAccess

/-- A graph each statement of which a line has room for. -/
def Graph.IsWritable (graph : Graph) : Prop := ∀ statement ∈ graph, statement.IsWritable

instance (graph : Graph) : Decidable graph.IsWritable :=
  inferInstanceAs (Decidable (∀ statement ∈ graph.toList, statement.IsWritable))

section LineFeeds

/-- A text has no line feed if none of its characters may be one. -/
theorem lineFeed_not_mem {belongs : Char → Prop} {text : List Char}
    (onText : ∀ character ∈ text, belongs character) (isOut : ¬belongs '\n') : '\n' ∉ text :=
  fun mem => isOut (onText _ mem)

theorem lineFeed_not_mem_renderIri {name : String} (isName : IsIriName name) :
    '\n' ∉ Term.renderIri name := by
  have notInName := lineFeed_not_mem isName.2 (by decide)
  simp [Term.renderIri, notInName]

theorem lineFeed_not_mem_renderChar (character : Char) : '\n' ∉ Literal.renderChar character := by
  unfold Literal.renderChar
  grind

theorem lineFeed_not_mem_renderAnnotation {literal : Literal} (isWritable : literal.IsWritable) :
    '\n' ∉ literal.renderAnnotation := by
  rcases literal with ⟨value, _ | tag, _ | name⟩
  · exact List.not_mem_nil
  · have notInName := lineFeed_not_mem_renderIri (isWritable.datatype name rfl)
    simp [Literal.renderAnnotation, notInName]
  · have notInTag := lineFeed_not_mem (isWritable.language tag rfl).2 (by decide)
    simp [Literal.renderAnnotation, notInTag]
  · have notInTag := lineFeed_not_mem (isWritable.language tag rfl).2 (by decide)
    simp [Literal.renderAnnotation, notInTag]

theorem lineFeed_not_mem_renderSubject {term : Term} (isSubject : term.IsWritableSubject) :
    '\n' ∉ term.render := by
  cases term with
  | iri name => exact lineFeed_not_mem_renderIri isSubject
  | blank label =>
      have notInLabel := lineFeed_not_mem isSubject.2 (by decide)
      simp [Term.render, notInLabel]
  | literal content => cases isSubject

theorem lineFeed_not_mem_renderObject {term : Term} (isObject : term.IsWritableObject) :
    '\n' ∉ term.render := by
  cases term with
  | iri name => exact lineFeed_not_mem_renderIri isObject
  | blank label => exact lineFeed_not_mem_renderSubject isObject
  | literal content =>
      have notBehind := lineFeed_not_mem_renderAnnotation isObject
      simp [Term.render, Literal.render, notBehind, lineFeed_not_mem_renderChar]

theorem lineFeed_not_mem_render {statement : Statement} (isWritable : statement.IsWritable) :
    '\n' ∉ statement.render := by
  have notInSubject := lineFeed_not_mem_renderSubject isWritable.subject
  have notInPredicate := lineFeed_not_mem_renderSubject isWritable.predicate.isWritableSubject
  have notInObject := lineFeed_not_mem_renderObject isWritable.object
  simp [Statement.render, notInSubject, notInPredicate, notInObject]

end LineFeeds

namespace Triples

/-- Each line adds its statement, and the end of the last line is followed by nothing. -/
theorem readLines_render (number : Nat) (graph : Graph) {statements : List Statement}
    (onStatements : ∀ statement ∈ statements, statement.IsWritable) :
    readLines number graph
      (Text.splitAt '\n' (statements.flatMap fun statement => statement.render ++ ['\n'])) =
        .ok (graph.insertAll statements) := by
  induction statements generalizing number graph with
  | nil => rfl
  | cons statement later inductionHypothesis =>
      rcases List.forall_mem_cons.1 onStatements with ⟨isWritable, onLater⟩
      rw [List.flatMap_cons, List.append_assoc, List.singleton_append,
        Text.splitAt_append_cons (lineFeed_not_mem_render isWritable), readLines,
        readLine_render isWritable]
      exact inductionHypothesis _ _ onLater

theorem of_readLines {number : Nat} {graph result : Graph} {lines : List (List Char)}
    (isWritable : graph.IsWritable) (isRead : readLines number graph lines = .ok result) :
    result.IsWritable := by
  intro statement statementMem
  rcases (mem_of_readLines isRead).1 statementMem with isThere | ⟨line, _, readsLine⟩
  · exact isWritable statement isThere
  · exact of_readLine readsLine

end Triples

namespace Graph

theorem parse_render {graph : Graph} (isWritable : graph.IsWritable) :
    Graph.parse graph.render = .ok graph := by
  rw [Graph.parse, Graph.render, String.toList_ofList,
    Triples.readLines_render 1 ∅ fun statement statementMem => isWritable statement statementMem]
  exact congrArg _ (AscendingSet.ofList_toList graph)

theorem isWritable_of_parse {document : String} {graph : Graph}
    (isRead : Graph.parse document = .ok graph) : graph.IsWritable :=
  Triples.of_readLines (fun statement impossible => absurd impossible
    (AscendingSet.not_mem_empty statement)) isRead

/-- Writing and reading are inverse to each other on the graphs that can be written, and those are
the graphs that can be read: a graph that was read is the same after it is written and read again,
and different graphs have different documents. -/
theorem reading_inverts_writing :
    (∀ graph : Graph, graph.IsWritable → Graph.parse graph.render = .ok graph) ∧
    (∀ document graph, Graph.parse document = .ok graph →
      graph.IsWritable ∧ Graph.parse graph.render = .ok graph) ∧
    ∀ first second : Graph, first.IsWritable → second.IsWritable →
      first.render = second.render → first = second := by
  refine ⟨fun graph => parse_render, ?_, ?_⟩
  · intro document graph isRead
    exact ⟨isWritable_of_parse isRead, parse_render (isWritable_of_parse isRead)⟩
  · intro first second isWritable isWritableToo same
    have isRead := parse_render isWritable
    rw [same, parse_render isWritableToo, Except.ok.injEq] at isRead
    exact isRead.symm

/-- A text in which everything that may need an escape follows on each other, and then what never
needs one: an end of line of its own, a comment and a full stop. -/
def awkward : Graph := .ofList [
  ⟨.blank "b-0", .iri "https://v/says",
    .literal ⟨"\"\\\n\r\t\u0085\u2028 # . \\", some "en-GB", none⟩⟩,
  ⟨.iri "https://pod/#a", .iri "https://v/says", .literal ⟨"", none, some "https://v/t#x"⟩⟩]

theorem awkward_is_read_back : awkward.IsWritable ∧ Graph.parse awkward.render = .ok awkward := by
  have isWritable : awkward.IsWritable := by decide
  exact ⟨isWritable, reading_inverts_writing.1 awkward isWritable⟩

end Graph

end LinkedAccess
