import LinkedAccess.Proofs.Triples.Grammar
import LinkedAccess.Triples.Render

/-!
# Writable statements

A line has no room for every statement: nothing is escaped outside of literals, a language tag keeps
a datatype away, and only literals may hold any text. A statement that has room is written as a text
that the grammar has for it, and the texts of the grammar stand for no other statements.
-/

namespace LinkedAccess

/-- A literal of any value, with a language tag or a datatype or neither. -/
structure Literal.IsWritable (literal : Literal) : Prop where
  language : ∀ tag ∈ literal.language, IsLanguageTag tag
  datatype : ∀ name ∈ literal.datatype, IsIriName name
  notBoth : literal.language = none ∨ literal.datatype = none

namespace Term

/-- A term that a written statement can be about. -/
def IsWritableSubject : Term → Prop
  | iri name => IsIriName name
  | blank label => IsBlankLabel label
  | literal _ => False

/-- A term that can relate the others in a written statement. -/
def IsWritablePredicate : Term → Prop
  | iri name => IsIriName name
  | blank _ => False
  | literal _ => False

/-- A term that can be the value in a written statement. -/
def IsWritableObject : Term → Prop
  | iri name => IsIriName name
  | blank label => IsBlankLabel label
  | literal content => content.IsWritable

theorem IsWritablePredicate.isWritableSubject {term : Term}
    (isPredicate : term.IsWritablePredicate) : term.IsWritableSubject := by
  cases term with
  | iri name => exact isPredicate
  | blank label => cases isPredicate
  | literal content => cases isPredicate

theorem IsWritableSubject.isWritableObject {term : Term} (isSubject : term.IsWritableSubject) :
    term.IsWritableObject := by
  cases term with
  | iri name => exact isSubject
  | blank label => exact isSubject
  | literal content => cases isSubject

end Term

/-- A statement that a line has room for. -/
structure Statement.IsWritable (statement : Statement) : Prop where
  subject : statement.subject.IsWritableSubject
  predicate : statement.predicate.IsWritablePredicate
  object : statement.object.IsWritableObject

section Decidability

-- Only the characters of a text are looked at: the text bounds its quantifier, not `Char`.
instance (name : String) : Decidable (IsIriName name) :=
  @instDecidableAnd _ _ _ (List.decidableBAll _ _)

instance (label : String) : Decidable (IsBlankLabel label) :=
  @instDecidableAnd _ _ _ (List.decidableBAll _ _)

instance (tag : String) : Decidable (IsLanguageTag tag) :=
  @instDecidableAnd _ _ _ (List.decidableBAll _ _)

instance (literal : Literal) : Decidable literal.IsWritable :=
  decidable_of_iff ((∀ tag ∈ literal.language, IsLanguageTag tag) ∧
      (∀ name ∈ literal.datatype, IsIriName name) ∧
      (literal.language = none ∨ literal.datatype = none))
    ⟨fun parts => ⟨parts.1, parts.2.1, parts.2.2⟩,
      fun isWritable => ⟨isWritable.language, isWritable.datatype, isWritable.notBoth⟩⟩

instance : DecidablePred Term.IsWritableSubject
  | .iri name => inferInstanceAs (Decidable (IsIriName name))
  | .blank label => inferInstanceAs (Decidable (IsBlankLabel label))
  | .literal _ => inferInstanceAs (Decidable False)

instance : DecidablePred Term.IsWritablePredicate
  | .iri name => inferInstanceAs (Decidable (IsIriName name))
  | .blank _ => inferInstanceAs (Decidable False)
  | .literal _ => inferInstanceAs (Decidable False)

instance : DecidablePred Term.IsWritableObject
  | .iri name => inferInstanceAs (Decidable (IsIriName name))
  | .blank label => inferInstanceAs (Decidable (IsBlankLabel label))
  | .literal content => inferInstanceAs (Decidable content.IsWritable)

instance (statement : Statement) : Decidable statement.IsWritable :=
  decidable_of_iff (statement.subject.IsWritableSubject ∧ statement.predicate.IsWritablePredicate ∧
      statement.object.IsWritableObject)
    ⟨fun parts => ⟨parts.1, parts.2.1, parts.2.2⟩,
      fun isWritable => ⟨isWritable.subject, isWritable.predicate, isWritable.object⟩⟩

end Decidability

namespace Triples

theorem iriText_render {term : Term} (isPredicate : term.IsWritablePredicate) :
    IriText term.render term := by
  cases term with
  | iri name => exact .iri (.bracketed name isPredicate)
  | blank label => cases isPredicate
  | literal content => cases isPredicate

theorem subjectText_render {term : Term} (isSubject : term.IsWritableSubject) :
    SubjectText term.render term := by
  cases term with
  | iri name => exact Or.inl (.iri (.bracketed name isSubject))
  | blank label => exact Or.inr (.blank label isSubject)
  | literal content => cases isSubject

/-- A value is shown as the body of a literal, each character as it is or escaped. -/
theorem bodyText_render (value : List Char) :
    BodyText (value.flatMap Literal.renderChar) value := by
  induction value with
  | nil => exact .nil
  | cons character later inductionHypothesis =>
      rw [List.flatMap_cons]
      by_cases isEscaped : character ∈ ['"', '\\', '\n', '\r', '\t']
      · simp only [List.mem_cons, List.not_mem_nil, or_false] at isEscaped
        rcases isEscaped with rfl | rfl | rfl | rfl | rfl
        all_goals exact .escaped _ _ (by simp [escapes]) inductionHypothesis
      · simp only [List.mem_cons, List.not_mem_nil, or_false, not_or] at isEscaped
        rcases isEscaped with ⟨notQuote, notBackslash, notFeed, notReturn, notTab⟩
        simp only [Literal.renderChar, notQuote, notBackslash, notFeed, notReturn, notTab, if_false]
        exact .plain character notBackslash notQuote inductionHypothesis

theorem annotationText_render {literal : Literal} (isWritable : literal.IsWritable) :
    AnnotationText literal.value literal.renderAnnotation literal := by
  rcases literal with ⟨value, _ | tag, _ | name⟩
  · exact .none
  · exact .datatype (.bracketed name (isWritable.datatype name rfl))
  · exact .language tag (isWritable.language tag rfl)
  · rcases isWritable.notBoth with impossible | impossible
    · cases impossible
    · cases impossible

theorem objectText_render {term : Term} (isObject : term.IsWritableObject) :
    ObjectText term.render term := by
  cases term with
  | iri name => exact Or.inl (subjectText_render isObject)
  | blank label => exact Or.inl (subjectText_render isObject)
  | literal content =>
      apply Or.inr
      apply LiteralText.literal (bodyText_render content.value.toList)
      rw [String.ofList_toList]
      exact annotationText_render isObject

theorem BracketedText.isIriName {text : List Char} {name : String}
    (bracketed : BracketedText text name) : IsIriName name := by
  cases bracketed
  assumption

theorem IriText.isWritable {text : List Char} {term : Term} (isText : IriText text term) :
    term.IsWritablePredicate := by
  cases isText with
  | iri bracketed => exact bracketed.isIriName

theorem SubjectText.isWritable {text : List Char} {term : Term} (isText : SubjectText text term) :
    term.IsWritableSubject := by
  rcases isText with isIri | isBlank
  · exact isIri.isWritable.isWritableSubject
  · cases isBlank with
    | blank label isLabel => exact isLabel

theorem AnnotationText.isWritable {value : String} {text : List Char} {literal : Literal}
    (annotated : AnnotationText value text literal) : literal.IsWritable := by
  cases annotated with
  | none => exact ⟨nofun, nofun, Or.inl rfl⟩
  | language tag isTag =>
      refine ⟨?_, nofun, Or.inr rfl⟩
      intro other same
      cases same
      exact isTag
  | datatype bracketed =>
      refine ⟨nofun, ?_, Or.inl rfl⟩
      intro other same
      cases same
      exact bracketed.isIriName

theorem ObjectText.isWritable {text : List Char} {term : Term} (isText : ObjectText text term) :
    term.IsWritableObject := by
  rcases isText with isSubject | isLiteral
  · exact isSubject.isWritable.isWritableObject
  · cases isLiteral with
    | literal _ annotated => exact annotated.isWritable

namespace Split

/-- The line of a statement, which has one space before each part but the first. -/
def ofStatement (statement : Statement) : Split where
  subject := statement.subject.render
  afterSubject := [' ']
  predicate := statement.predicate.render
  afterPredicate := [' ']
  object := statement.object.render
  afterObject := [' ']
  blanks := []
  comment := []

theorem line_ofStatement (statement : Statement) :
    (ofStatement statement).line = statement.render := by
  simp [line, ofStatement, Statement.render]

theorem denotes_ofStatement {statement : Statement} (isWritable : statement.IsWritable) :
    (ofStatement statement).Denotes statement := by
  refine ⟨subjectText_render isWritable.subject, ?_, iriText_render isWritable.predicate, ?_,
    objectText_render isWritable.object, ?_, ?_, Or.inl rfl⟩
  all_goals simp [ofStatement]

theorem Denotes.isWritable {split : Split} {statement : Statement}
    (denotes : split.Denotes statement) : statement.IsWritable :=
  ⟨denotes.subject.isWritable, denotes.predicate.isWritable, denotes.object.isWritable⟩

end Split

/-- Nothing is cut off where no end is white space. -/
theorem trim_of_ends {head last : Char} {body : List Char} (atStart : Text.isBlank head = false)
    (atEnd : Text.isBlank last = false) :
    trim (head :: (body ++ [last])) = head :: (body ++ [last]) := by
  have backwards : (head :: (body ++ [last])).reverse = last :: (body.reverse ++ [head]) := by
    simp
  rw [trim, List.dropWhile_cons_of_neg (by simp [atStart]), backwards,
    List.dropWhile_cons_of_neg (by simp [atEnd]), ← backwards, List.reverse_reverse]

theorem readLine_render {statement : Statement} (isWritable : statement.IsWritable) :
    readLine statement.render = .ok (some statement) := by
  rcases (subjectText_render isWritable.subject).exists_eq_cons with
    ⟨head, tail, rendered, isOpening⟩
  have notBlank : Text.isBlank head = false := by
    simp only [List.mem_cons, List.not_mem_nil, or_false] at isOpening
    rcases isOpening with rfl | rfl
    all_goals decide
  have shape : ∃ body, statement.render = head :: (body ++ ['.']) :=
    ⟨tail ++ ' ' :: statement.predicate.render ++ ' ' :: statement.object.render ++ [' '], by
      simp [Statement.render, rendered]⟩
  rcases shape with ⟨body, shape⟩
  have isTrimmed : trim statement.render = statement.render := by
    rw [shape]
    exact trim_of_ends notBlank (by decide)
  apply readLine_eq_some_iff.2
  refine ⟨.ofStatement statement, ?_, Split.denotes_ofStatement isWritable⟩
  rw [isTrimmed, Split.line_ofStatement]

theorem of_readLine {line : List Char} {statement : Statement}
    (isRead : readLine line = .ok (some statement)) : statement.IsWritable := by
  rcases readLine_eq_some_iff.1 isRead with ⟨split, _, denotes⟩
  exact denotes.isWritable

end Triples

end LinkedAccess
