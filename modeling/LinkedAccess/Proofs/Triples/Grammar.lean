import LinkedAccess.Proofs.Reading
import LinkedAccess.Triples.Document
import Mathlib.Data.List.TakeWhile

/-!
# The grammar of lines

What a line may look like is said here without a reader: which texts stand for a term, and how they
are put together to a statement. The readers accept just these texts. Each of them is shown to take
every text of its part off a line that goes on as lines may, and to take off nothing else. It
follows that no choice between alternatives is ever regretted, that a line can be split in one way
only, and that a document is a graph if each of its lines is silent or can be split.
-/

namespace LinkedAccess

/-- A name that can stand between angle brackets. -/
def IsIriName (name : String) : Prop :=
  name ≠ "" ∧ ∀ character ∈ name.toList, character ≠ '>' ∧ Text.isBlank character = false

/-- A label that can stand behind the mark of a blank node. -/
def IsBlankLabel (label : String) : Prop :=
  label ≠ "" ∧ ∀ character ∈ label.toList,
    Text.isAlphanumeric character = true ∨ character = '_' ∨ character = '-'

/-- A language tag. -/
def IsLanguageTag (tag : String) : Prop :=
  tag ≠ "" ∧ ∀ character ∈ tag.toList, character.isAlphanum = true ∨ character = '-'

namespace Triples

/-- The letters that may follow a backslash, and what they stand for. -/
def escapes : List (Char × Char) :=
  [('\\', '\\'), ('"', '"'), ('n', '\n'), ('r', '\r'), ('t', '\t')]

/-- A name with its angle brackets. -/
inductive BracketedText : List Char → String → Prop where
  | bracketed (name : String) (isName : IsIriName name) :
      BracketedText ('<' :: name.toList ++ ['>']) name

/-- An IRI is a name in brackets. -/
inductive IriText : List Char → Term → Prop where
  | iri {text : List Char} {name : String} (bracketed : BracketedText text name) :
      IriText text (.iri name)

/-- A blank node is a label behind an underscore and a colon. -/
inductive BlankText : List Char → Term → Prop where
  | blank (label : String) (isLabel : IsBlankLabel label) :
      BlankText ('_' :: ':' :: label.toList) (.blank label)

/-- What may stand between the quotes of a literal, and the value that it stands for. -/
inductive BodyText : List Char → List Char → Prop where
  | nil : BodyText [] []
  | plain (character : Char) {text value : List Char} (notBackslash : character ≠ '\\')
      (notQuote : character ≠ '"') (later : BodyText text value) :
      BodyText (character :: text) (character :: value)
  | escaped (letter character : Char) {text value : List Char}
      (isEscape : (letter, character) ∈ escapes) (later : BodyText text value) :
      BodyText ('\\' :: letter :: text) (character :: value)

/-- What may follow the closing quote, and the literal that it makes of a value. -/
inductive AnnotationText (value : String) : List Char → Literal → Prop where
  | none : AnnotationText value [] (.plain value)
  | language (tag : String) (isTag : IsLanguageTag tag) :
      AnnotationText value ('@' :: tag.toList) ⟨value, some tag, none⟩
  | datatype {text : List Char} {name : String} (bracketed : BracketedText text name) :
      AnnotationText value ('^' :: '^' :: text) ⟨value, none, some name⟩

/-- A literal is a body in quotes, and what is appended to it without a blank. -/
inductive LiteralText : List Char → Term → Prop where
  | literal {body value appended : List Char} {content : Literal} (isBody : BodyText body value)
      (annotated : AnnotationText (String.ofList value) appended content) :
      LiteralText ('"' :: body ++ '"' :: appended) (.literal content)

def SubjectText (text : List Char) (term : Term) : Prop := IriText text term ∨ BlankText text term

/-- The last part of a statement: any term. -/
def ObjectText (text : List Char) (term : Term) : Prop :=
  SubjectText text term ∨ LiteralText text term

/-- The parts of a line, in order. The full stop stands before the blanks. -/
@[ext]
structure Split where
  subject : List Char
  afterSubject : List Char
  predicate : List Char
  afterPredicate : List Char
  object : List Char
  afterObject : List Char
  blanks : List Char
  comment : List Char

namespace Split

/-- The line that is split. -/
def line (split : Split) : List Char :=
  split.subject ++ split.afterSubject ++ split.predicate ++ split.afterPredicate ++ split.object ++
    split.afterObject ++ ['.'] ++ split.blanks ++ split.comment

/-- The parts are what a line may consist of, and say a statement. -/
structure Denotes (split : Split) (statement : Statement) : Prop where
  subject : SubjectText split.subject statement.subject
  afterSubject : ∀ character ∈ split.afterSubject, character = ' ' ∨ character = '\t'
  predicate : IriText split.predicate statement.predicate
  afterPredicate : ∀ character ∈ split.afterPredicate, character = ' ' ∨ character = '\t'
  object : ObjectText split.object statement.object
  afterObject : ∀ character ∈ split.afterObject, character = ' ' ∨ character = '\t'
  blanks : ∀ character ∈ split.blanks, Text.isBlank character = true
  comment : split.comment = [] ∨ ∃ text, split.comment = '#' :: text

end Split

variable {input rest : List Char}

section Names

variable {belongs : Char → Bool}

/-- Where the characters of a class end, the rest begins. -/
theorem span_append {name : List Char} (onName : ∀ character ∈ name, belongs character = true)
    (isOver : ∀ character ∈ rest.head?, belongs character = false) :
    (name ++ rest).takeWhile belongs = name ∧ (name ++ rest).dropWhile belongs = rest := by
  have ends : rest.takeWhile belongs = [] ∧ rest.dropWhile belongs = rest := by
    cases rest with
    | nil => exact ⟨rfl, rfl⟩
    | cons head tail =>
        have headOut := isOver head rfl
        simp [headOut]
  rw [List.takeWhile_append_of_pos onName, List.dropWhile_append_of_pos onName, ends.1, ends.2,
    List.append_nil]
  exact ⟨rfl, rfl⟩

/-- So the place where they end is the same in whatever way a text is split there. -/
theorem span_unique {name other behind : List Char}
    (onName : ∀ character ∈ name, belongs character = true)
    (onOther : ∀ character ∈ other, belongs character = true)
    (isOver : ∀ character ∈ rest.head?, belongs character = false)
    (isOverToo : ∀ character ∈ behind.head?, belongs character = false)
    (same : name ++ rest = other ++ behind) : name = other ∧ rest = behind := by
  rcases span_append onName isOver with ⟨taken, dropped⟩
  rcases span_append onOther isOverToo with ⟨takenToo, droppedToo⟩
  constructor
  · rw [← taken, same, takenToo]
  · rw [← dropped, same, droppedToo]

/-- A name is read as far as it goes. -/
theorem readName_append {name : String} (notEmpty : name ≠ "")
    (onName : ∀ character ∈ name.toList, belongs character = true)
    (isOver : ∀ character ∈ rest.head?, belongs character = false) :
    readName belongs (name.toList ++ rest) = .ok (name.toList, rest) := by
  rcases span_append onName isOver with ⟨taken, dropped⟩
  rw [readName, taken, dropped, if_neg]
  simpa using notEmpty

theorem exists_of_readName {characters : List Char}
    (isRead : readName belongs input = .ok (characters, rest)) :
    ∃ name : String, characters = name.toList ∧ name ≠ "" ∧
      (∀ character ∈ name.toList, belongs character = true) ∧ input = name.toList ++ rest := by
  rw [readName] at isRead
  split at isRead
  · cases isRead
  · rename_i notEmpty
    cases isRead
    refine ⟨String.ofList (input.takeWhile belongs), by simp, by simpa using notEmpty, ?_, by simp⟩
    intro character mem
    rw [String.toList_ofList] at mem
    exact List.mem_takeWhile_imp mem

end Names

theorem isIriChar_iff {character : Char} :
    isIriChar character = true ↔ character ≠ '>' ∧ Text.isBlank character = false := by
  simp [isIriChar]

theorem isLabelChar_iff {character : Char} :
    isLabelChar character = true ↔
      Text.isAlphanumeric character = true ∨ character = '_' ∨ character = '-' := by
  simp [isLabelChar, or_assoc]

theorem isTagChar_iff {character : Char} :
    isTagChar character = true ↔ character.isAlphanum = true ∨ character = '-' := by
  simp [isTagChar]

theorem isGap_iff {character : Char} :
    isGap character = true ↔ character = ' ' ∨ character = '\t' := by
  simp [isGap]

theorem isSilent_iff : isSilent input = true ↔ input = [] ∨ ∃ text, input = '#' :: text := by
  cases input with
  | nil => simp [isSilent]
  | cons head tail => simp [isSilent]

theorem readMark_cons (character : Char) : readMark character (character :: rest) = .ok rest := by
  simp [readMark]

theorem of_readMark {character : Char} (isRead : readMark character input = .ok rest) :
    input = character :: rest := by
  cases input with
  | nil => cases isRead
  | cons head tail =>
      rw [readMark] at isRead
      split at isRead
      · rename_i same
        cases isRead
        rw [same]
      · cases isRead

/-- What may follow a term: nothing, or a character that no term goes on with. -/
def EndsTerm (rest : List Char) : Prop :=
  ∀ character ∈ rest.head?, character ∈ [' ', '\t', '<', '.']

theorem EndsTerm.isOver (ends : EndsTerm rest) {belongs : Char → Bool}
    (noneBelongs : [' ', '\t', '<', '.'].any belongs = false) :
    ∀ character ∈ rest.head?, belongs character = false := by
  intro character isHead
  rw [← Bool.not_eq_true]
  exact List.any_eq_false.1 noneBelongs character (ends character isHead)

/-- A reader takes the texts of its part off a line that goes on as it may behind the part, and it
never takes off anything else. -/
structure Reads {α : Type} (read : List Char → Except LineError (α × List Char))
    (isText : List Char → α → Prop) (mayFollow : List Char → Prop) : Prop where
  complete : ∀ {text value rest}, isText text value → mayFollow rest →
    read (text ++ rest) = .ok (value, rest)
  sound : ∀ {input value rest}, read input = .ok (value, rest) →
    ∃ text, isText text value ∧ input = text ++ rest

/-- No line begins with two texts of one part. -/
theorem Reads.unique {α : Type} {read : List Char → Except LineError (α × List Char)}
    {isText : List Char → α → Prop} {mayFollow : List Char → Prop}
    (reads : Reads read isText mayFollow) {text other behind : List Char} {value found : α}
    (isFirst : isText text value) (isSecond : isText other found) (follows : mayFollow rest)
    (followsToo : mayFollow behind) (same : text ++ rest = other ++ behind) :
    text = other ∧ value = found ∧ rest = behind := by
  have isRead := reads.complete isFirst follows
  rw [same, reads.complete isSecond followsToo, Except.ok.injEq, Prod.mk.injEq] at isRead
  rcases isRead with ⟨rfl, rfl⟩
  exact ⟨List.append_cancel_right same, rfl, rfl⟩

section Alternatives

variable {first second : List Char → Except LineError (Term × List Char)}
  {isFirst isSecond : List Char → Term → Prop} {mayFollow : List Char → Prop}

/-- One reader after the failure of another takes off the texts of both, if the first accepts
nothing of what the second is for. -/
theorem Reads.orElse (readsFirst : Reads first isFirst mayFollow)
    (readsSecond : Reads second isSecond mayFollow)
    (isApart : ∀ {text term}, isSecond text term → ∀ rest, ∃ error,
      first (text ++ rest) = .error error) :
    Reads (fun input => match first input with
      | .ok found => .ok found
      | .error _ => second input)
      (fun text term => isFirst text term ∨ isSecond text term) mayFollow := by
  constructor
  · rintro text term rest (isText | isText) follows
    · simp only [readsFirst.complete isText follows]
    · rcases isApart isText rest with ⟨error, failed⟩
      simp only [failed]
      exact readsSecond.complete isText follows
  · intro input term rest isRead
    split at isRead
    · rename_i readsHere
      cases isRead
      rcases readsFirst.sound readsHere with ⟨text, isText, same⟩
      exact ⟨text, Or.inl isText, same⟩
    · rcases readsSecond.sound isRead with ⟨text, isText, same⟩
      exact ⟨text, Or.inr isText, same⟩

end Alternatives

theorem reads_bracketed : Reads readBracketed BracketedText fun _ => True := by
  constructor
  · rintro _ name rest ⟨_, isName⟩ _
    have readsName : readName isIriChar (name.toList ++ '>' :: rest) =
        .ok (name.toList, '>' :: rest) := by
      apply readName_append isName.1
      · exact fun character mem => isIriChar_iff.2 (isName.2 character mem)
      · intro character isHead
        cases isHead
        rfl
    simp [readBracketed, readMark, readsName, bind, Except.bind, pure, Except.pure]
  · intro input name rest isRead
    rcases bind_eq_ok_iff.1 isRead with ⟨inside, opened, isRead⟩
    rcases bind_eq_ok_iff.1 isRead with ⟨⟨_, behind⟩, readsName, isRead⟩
    rcases bind_eq_ok_iff.1 isRead with ⟨_, closed, isRead⟩
    rcases exists_of_readName readsName with ⟨name, rfl, notEmpty, onName, same⟩
    cases isRead
    rw [String.ofList_toList]
    have isName : IsIriName name :=
      ⟨notEmpty, fun character mem => isIriChar_iff.1 (onName character mem)⟩
    refine ⟨_, .bracketed name isName, ?_⟩
    rw [of_readMark opened, same, of_readMark closed]
    simp

theorem reads_iri : Reads readIri IriText fun _ => True := by
  constructor
  · rintro text _ rest ⟨bracketed⟩ _
    rw [readIri, reads_bracketed.complete bracketed trivial]
    rfl
  · intro input term rest isRead
    rcases bind_eq_ok_iff.1 isRead with ⟨⟨name, _⟩, readsName, isRead⟩
    cases isRead
    rcases reads_bracketed.sound readsName with ⟨text, bracketed, same⟩
    exact ⟨text, .iri bracketed, same⟩

/-- What does not begin with an angle bracket is no IRI. -/
theorem readIri_of_ne {head : Char} (notOpen : head ≠ '<') :
    readIri (head :: rest) = .error (.missing .mark (head :: rest)) := by
  simp [readIri, readBracketed, readMark, notOpen, bind, Except.bind]

theorem reads_blank : Reads readBlank BlankText EndsTerm := by
  constructor
  · rintro _ _ rest ⟨label, isLabel⟩ ends
    have readsLabel : readName isLabelChar (label.toList ++ rest) = .ok (label.toList, rest) := by
      apply readName_append isLabel.1
      · exact fun character mem => isLabelChar_iff.2 (isLabel.2 character mem)
      · exact ends.isOver (by decide)
    simp [readBlank, readsLabel, bind, Except.bind, pure, Except.pure]
  · intro input term rest isRead
    unfold readBlank at isRead
    split at isRead
    · rcases bind_eq_ok_iff.1 isRead with ⟨_, readsLabel, isRead⟩
      rcases exists_of_readName readsLabel with ⟨label, same, notEmpty, onLabel, inputEq⟩
      cases isRead
      rw [same, String.ofList_toList]
      have isLabel : IsBlankLabel label :=
        ⟨notEmpty, fun character mem => isLabelChar_iff.1 (onLabel character mem)⟩
      exact ⟨_, .blank label isLabel, congrArg ('_' :: ':' :: ·) inputEq⟩
    · cases isRead

theorem reads_subject : Reads readSubject SubjectText EndsTerm := by
  have readsIri : Reads readIri IriText EndsTerm :=
    ⟨fun isText _ => reads_iri.complete isText trivial, reads_iri.sound⟩
  apply readsIri.orElse reads_blank
  rintro _ _ ⟨label, isLabel⟩ rest
  exact ⟨_, readIri_of_ne (by decide)⟩

section Literals

theorem unescape?_eq_some_iff {letter character : Char} :
    unescape? letter = some character ↔ (letter, character) ∈ escapes := by
  unfold unescape?
  split
  all_goals simp_all [escapes, eq_comm]

/-- A character that needs no backslash stands for itself. -/
theorem readValue?_cons {character : Char} (notQuote : character ≠ '"')
    (notBackslash : character ≠ '\\') :
    readValue? (character :: input) =
      (readValue? input).map fun found => (character :: found.1, found.2) := by
  rw [readValue?.eq_def]
  split
  · rename_i impossible
    cases impossible
  · rename_i same
    cases same
    exact absurd rfl notQuote
  · rename_i same
    cases same
    exact absurd rfl notBackslash
  · rename_i same
    cases same
    exact absurd rfl notBackslash
  · rename_i same
    cases same
    cases readValue? input with
    | none => rfl
    | some found => rfl

/-- A backslash and a letter stand for what the letter means. -/
theorem readValue?_escaped {letter character : Char} (isEscape : (letter, character) ∈ escapes) :
    readValue? ('\\' :: letter :: input) =
      (readValue? input).map fun found => (character :: found.1, found.2) := by
  rw [readValue?, unescape?_eq_some_iff.2 isEscape]
  cases readValue? input with
  | none => rfl
  | some found => rfl

theorem readValue?_append {body value : List Char} (isBody : BodyText body value) :
    readValue? (body ++ '"' :: rest) = some (value, '"' :: rest) := by
  induction isBody with
  | nil => rw [List.nil_append, readValue?]
  | plain character notBackslash notQuote later inductionHypothesis =>
      rw [List.cons_append, readValue?_cons notQuote notBackslash, inductionHypothesis]
      rfl
  | escaped letter character isEscape later inductionHypothesis =>
      rw [List.cons_append, List.cons_append, readValue?_escaped isEscape, inductionHypothesis]
      rfl

theorem of_readValue? {value : List Char} (isRead : readValue? input = some (value, rest)) :
    ∃ body, BodyText body value ∧ input = body ++ rest := by
  fun_induction readValue? input generalizing value with
  | case1 =>
      cases isRead
      exact ⟨[], .nil, rfl⟩
  | case2 tail =>
      cases isRead
      exact ⟨[], .nil, rfl⟩
  | case3 letter tail inductionHypothesis =>
      rcases Option.bind_eq_some_iff.1 isRead with ⟨character, isEscape, isRead⟩
      rcases Option.bind_eq_some_iff.1 isRead with ⟨⟨later, behind⟩, readsLater, same⟩
      cases same
      rcases inductionHypothesis readsLater with ⟨body, isBody, rfl⟩
      exact ⟨_, .escaped letter character (unescape?_eq_some_iff.1 isEscape) isBody, rfl⟩
  | case4 => cases isRead
  | case5 character tail notQuote notEscape notEnd inductionHypothesis =>
      rcases Option.bind_eq_some_iff.1 isRead with ⟨⟨later, behind⟩, readsLater, same⟩
      cases same
      rcases inductionHypothesis readsLater with ⟨body, isBody, rfl⟩
      have notBackslash : character ≠ '\\' := by
        intro isBackslash
        cases tailEq : body ++ rest with
        | nil => exact notEnd isBackslash tailEq
        | cons letter behind => exact notEscape letter behind isBackslash tailEq
      exact ⟨_, .plain character notBackslash notQuote isBody, rfl⟩

theorem readAnnotation_append {value : String} {text : List Char} {literal : Literal}
    (annotated : AnnotationText value text literal) (ends : EndsTerm rest) :
    readAnnotation value (text ++ rest) = (literal, rest) := by
  cases annotated with
  | none =>
      cases rest with
      | nil => rfl
      | cons head tail =>
          have isEnd : head ∈ [' ', '\t', '<', '.'] := ends head rfl
          simp only [List.mem_cons, List.not_mem_nil, or_false] at isEnd
          rcases isEnd with rfl | rfl | rfl | rfl
          all_goals rfl
  | language tag isTag =>
      have readsTag : readName isTagChar (tag.toList ++ rest) = .ok (tag.toList, rest) := by
        apply readName_append isTag.1
        · exact fun character mem => isTagChar_iff.2 (isTag.2 character mem)
        · exact ends.isOver (by decide)
      rw [List.cons_append, readAnnotation, readsTag]
      simp
  | @datatype text name bracketed =>
      have readsName : readBracketed (text ++ rest) = .ok (name, rest) :=
        reads_bracketed.complete bracketed trivial
      rw [List.cons_append, List.cons_append, readAnnotation, readsName]

theorem of_readAnnotation {value : String} {literal : Literal}
    (isRead : readAnnotation value input = (literal, rest)) :
    ∃ text, AnnotationText value text literal ∧ input = text ++ rest := by
  unfold readAnnotation at isRead
  split at isRead
  · split at isRead
    · rename_i readsTag
      rcases exists_of_readName readsTag with ⟨tag, rfl, notEmpty, onTag, inputEq⟩
      cases isRead
      rw [String.ofList_toList]
      have isTag : IsLanguageTag tag :=
        ⟨notEmpty, fun character mem => isTagChar_iff.1 (onTag character mem)⟩
      exact ⟨_, .language tag isTag, congrArg ('@' :: ·) inputEq⟩
    · cases isRead
      exact ⟨[], .none, rfl⟩
  · split at isRead
    · rename_i readsName
      cases isRead
      rcases reads_bracketed.sound readsName with ⟨text, bracketed, same⟩
      refine ⟨_, .datatype bracketed, ?_⟩
      rw [same]
      rfl
    · cases isRead
      exact ⟨[], .none, rfl⟩
  · cases isRead
    exact ⟨[], .none, rfl⟩

theorem reads_literal : Reads readLiteral LiteralText EndsTerm := by
  constructor
  · rintro _ _ rest ⟨isBody, annotated⟩ ends
    rename_i body value appended content
    have shape : '"' :: body ++ '"' :: appended ++ rest =
        '"' :: (body ++ '"' :: (appended ++ rest)) := by
      simp
    rw [shape]
    simp [readLiteral, readMark_cons, readValue?_append isBody,
      readAnnotation_append annotated ends, bind, Except.bind, pure, Except.pure]
  · intro input term rest isRead
    rcases bind_eq_ok_iff.1 isRead with ⟨inside, opened, isRead⟩
    rcases found : (readValue? inside).getD ([], inside) with ⟨value, behind⟩
    rw [found] at isRead
    rcases bind_eq_ok_iff.1 isRead with ⟨tail, closed, isRead⟩
    rcases annotated : readAnnotation (String.ofList value) tail with ⟨content, after⟩
    rw [annotated] at isRead
    cases isRead
    have closedEq := of_readMark closed
    have readsValue : readValue? inside = some (value, behind) := by
      cases readsValue : readValue? inside with
      | none =>
          -- A value that breaks off is taken for an empty one, but no quote is behind it.
          rw [readsValue] at found
          cases found
          rw [closedEq, readValue?] at readsValue
          cases readsValue
      | some other =>
          rw [readsValue] at found
          exact congrArg some found
    rcases of_readValue? readsValue with ⟨body, isBody, bodyEq⟩
    rcases of_readAnnotation annotated with ⟨appended, isAppended, appendedEq⟩
    refine ⟨_, .literal isBody isAppended, ?_⟩
    rw [of_readMark opened, bodyEq, closedEq, appendedEq]
    simp

end Literals

theorem reads_object : Reads readObject ObjectText EndsTerm := by
  apply reads_subject.orElse reads_literal
  rintro _ _ ⟨isBody, annotated⟩ rest
  -- A quote opens neither an IRI nor a blank node.
  rename_i body value appended content
  have notIri : readIri ('"' :: body ++ '"' :: appended ++ rest) = .error _ :=
    readIri_of_ne (by decide)
  refine ⟨.missing .opening ('"' :: body ++ '"' :: appended ++ rest), ?_⟩
  rw [readSubject, notIri]
  rfl

theorem EndsTerm.of_gap {gap : List Char}
    (onGap : ∀ character ∈ gap, character = ' ' ∨ character = '\t') (ends : EndsTerm rest) :
    EndsTerm (gap ++ rest) := by
  cases gap with
  | nil => exact ends
  | cons head tail =>
      intro character isHead
      cases isHead
      rcases onGap head List.mem_cons_self with rfl | rfl
      · simp
      · simp

/-- A term or a full stop ends the gap before it. -/
theorem skipGap_append {gap : List Char}
    (onGap : ∀ character ∈ gap, character = ' ' ∨ character = '\t')
    (isOver : ∀ character ∈ rest.head?, isGap character = false) :
    skipGap (gap ++ rest) = rest :=
  (span_append (fun character mem => isGap_iff.2 (onGap character mem)) isOver).2

theorem exists_gap (input : List Char) :
    ∃ gap, (∀ character ∈ gap, character = ' ' ∨ character = '\t') ∧
      input = gap ++ skipGap input := by
  refine ⟨input.takeWhile isGap, fun character mem => ?_, List.takeWhile_append_dropWhile.symm⟩
  exact isGap_iff.1 (List.mem_takeWhile_imp mem)

theorem IriText.exists_eq_cons {text : List Char} {term : Term} (isText : IriText text term) :
    ∃ tail, text = '<' :: tail := by
  cases isText with
  | iri bracketed =>
      cases bracketed
      exact ⟨_, rfl⟩

theorem SubjectText.exists_eq_cons {text : List Char} {term : Term}
    (isText : SubjectText text term) : ∃ head tail, text = head :: tail ∧ head ∈ ['<', '_'] := by
  rcases isText with isIri | isBlank
  · rcases isIri.exists_eq_cons with ⟨tail, rfl⟩
    exact ⟨'<', tail, rfl, by simp⟩
  · cases isBlank with
    | blank label _ => exact ⟨'_', ':' :: label.toList, rfl, by simp⟩

/-- Every term begins with one of few characters. -/
theorem ObjectText.exists_eq_cons {text : List Char} {term : Term} (isText : ObjectText text term) :
    ∃ head tail, text = head :: tail ∧ head ∈ ['<', '_', '"'] := by
  rcases isText with isSubject | isLiteral
  · rcases isSubject.exists_eq_cons with ⟨head, tail, rfl, isOpening⟩
    refine ⟨head, tail, rfl, ?_⟩
    simp only [List.mem_cons, List.not_mem_nil, or_false] at isOpening ⊢
    exact isOpening.imp_right Or.inl
  · cases isLiteral with
    | literal _ _ => exact ⟨'"', _, rfl, by simp⟩

namespace Split

variable {split : Split} {statement : Statement}

theorem line_eq (split : Split) : split.line =
    split.subject ++ (split.afterSubject ++ (split.predicate ++ (split.afterPredicate ++
      (split.object ++ (split.afterObject ++ '.' :: (split.blanks ++ split.comment)))))) := by
  simp [line]

namespace Denotes

theorem endsSubject (denotes : split.Denotes statement) (rest : List Char) :
    EndsTerm (split.afterSubject ++ (split.predicate ++ rest)) := by
  rcases denotes.predicate.exists_eq_cons with ⟨tail, same⟩
  apply EndsTerm.of_gap denotes.afterSubject
  simp [EndsTerm, same]

theorem endsObject (denotes : split.Denotes statement) (rest : List Char) :
    EndsTerm (split.afterObject ++ '.' :: rest) := by
  apply EndsTerm.of_gap denotes.afterObject
  simp [EndsTerm]

theorem predicate_opens (denotes : split.Denotes statement) (rest : List Char) :
    ∀ character ∈ (split.predicate ++ rest).head?, isGap character = false := by
  rcases denotes.predicate.exists_eq_cons with ⟨tail, same⟩
  simp [same, isGap]

theorem object_opens (denotes : split.Denotes statement) (rest : List Char) :
    ∀ character ∈ (split.object ++ rest).head?, isGap character = false := by
  rcases denotes.object.exists_eq_cons with ⟨head, tail, same, isOpening⟩
  simp only [List.mem_cons, List.not_mem_nil, or_false] at isOpening
  rcases isOpening with rfl | rfl | rfl
  all_goals simp [same, isGap]

theorem stop_opens (rest : List Char) :
    ∀ character ∈ ('.' :: rest).head?, isGap character = false := by
  simp [isGap]

theorem comment_opens (denotes : split.Denotes statement) :
    ∀ character ∈ split.comment.head?, Text.isBlank character = false := by
  intro character isHead
  rcases denotes.comment with isNone | ⟨text, same⟩
  · rw [isNone] at isHead
    cases isHead
  · rw [same] at isHead
    cases isHead
    decide

/-- A line that is split is read as it is split. -/
theorem readStatement_line (denotes : split.Denotes statement) :
    readStatement split.line = .ok (statement, split.blanks ++ split.comment) := by
  rw [line_eq]
  simp only [readStatement, reads_subject.complete denotes.subject (denotes.endsSubject _),
    skipGap_append denotes.afterSubject (denotes.predicate_opens _),
    reads_iri.complete denotes.predicate trivial,
    skipGap_append denotes.afterPredicate (denotes.object_opens _),
    reads_object.complete denotes.object (denotes.endsObject _),
    skipGap_append denotes.afterObject (stop_opens _), readMark_cons, bind, Except.bind, pure,
    Except.pure]

/-- There is one way to split a line. -/
theorem unique {other : Split} {found : Statement} (denotes : split.Denotes statement)
    (denotesToo : other.Denotes found) (same : split.line = other.line) :
    split = other ∧ statement = found := by
  have onGap {gap : List Char} (isGap : ∀ character ∈ gap, character = ' ' ∨ character = '\t') :
      ∀ character ∈ gap, Triples.isGap character = true :=
    fun character mem => isGap_iff.2 (isGap character mem)
  -- Each part ends where its reader stops, so the parts agree one after the other.
  rw [line_eq, line_eq] at same
  rcases reads_subject.unique denotes.subject denotesToo.subject (denotes.endsSubject _)
    (denotesToo.endsSubject _) same with ⟨sameSubject, subjectEq, same⟩
  rcases span_unique (onGap denotes.afterSubject) (onGap denotesToo.afterSubject)
    (denotes.predicate_opens _) (denotesToo.predicate_opens _) same with ⟨sameFirstGap, same⟩
  rcases reads_iri.unique denotes.predicate denotesToo.predicate trivial trivial same with
    ⟨samePredicate, predicateEq, same⟩
  rcases span_unique (onGap denotes.afterPredicate) (onGap denotesToo.afterPredicate)
    (denotes.object_opens _) (denotesToo.object_opens _) same with ⟨sameSecondGap, same⟩
  rcases reads_object.unique denotes.object denotesToo.object (denotes.endsObject _)
    (denotesToo.endsObject _) same with ⟨sameObject, objectEq, same⟩
  rcases span_unique (onGap denotes.afterObject) (onGap denotesToo.afterObject) (stop_opens _)
    (stop_opens _) same with ⟨sameThirdGap, same⟩
  rcases span_unique denotes.blanks denotesToo.blanks denotes.comment_opens
    denotesToo.comment_opens (List.cons.inj same).2 with ⟨sameBlanks, sameComment⟩
  constructor
  · apply Split.ext
    all_goals assumption
  · exact Statement.ext subjectEq predicateEq objectEq

end Denotes

/-- What is read from a line gives a way to split it. -/
theorem exists_of_readStatement (isRead : readStatement input = .ok (statement, rest))
    (staysSilent : isSilent (rest.dropWhile Text.isBlank) = true) :
    ∃ split : Split, split.line = input ∧ split.Denotes statement := by
  rcases bind_eq_ok_iff.1 isRead with ⟨⟨subject, behindSubject⟩, readsSubject, isRead⟩
  rcases bind_eq_ok_iff.1 isRead with ⟨⟨predicate, behindPredicate⟩, readsPredicate, isRead⟩
  rcases bind_eq_ok_iff.1 isRead with ⟨⟨object, behindObject⟩, readsObject, isRead⟩
  rcases bind_eq_ok_iff.1 isRead with ⟨_, stopped, isRead⟩
  cases isRead
  rcases reads_subject.sound readsSubject with ⟨subjectText, isSubject, inputEq⟩
  rcases reads_iri.sound readsPredicate with ⟨predicateText, isPredicate, firstEq⟩
  rcases reads_object.sound readsObject with ⟨objectText, isObject, secondEq⟩
  rcases exists_gap behindSubject with ⟨firstGap, onFirst, firstGapEq⟩
  rcases exists_gap behindPredicate with ⟨secondGap, onSecond, secondGapEq⟩
  rcases exists_gap behindObject with ⟨thirdGap, onThird, thirdGapEq⟩
  let split : Split := {
    subject := subjectText
    afterSubject := firstGap
    predicate := predicateText
    afterPredicate := secondGap
    object := objectText
    afterObject := thirdGap
    blanks := rest.takeWhile Text.isBlank
    comment := rest.dropWhile Text.isBlank }
  have denotes : split.Denotes ⟨subject, predicate, object⟩ := by
    refine ⟨isSubject, onFirst, isPredicate, onSecond, isObject, onThird, ?_, ?_⟩
    · exact fun character mem => List.mem_takeWhile_imp mem
    · exact isSilent_iff.1 staysSilent
  refine ⟨split, ?_, denotes⟩
  rw [line_eq, inputEq, firstGapEq, firstEq, secondGapEq, secondEq, thirdGapEq,
    of_readMark stopped, List.takeWhile_append_dropWhile]

/-- A line that can be split says something. -/
theorem Denotes.isSilent_line (denotes : split.Denotes statement) :
    isSilent split.line = false := by
  rcases denotes.subject.exists_eq_cons with ⟨head, tail, same, isOpening⟩
  rw [line_eq, same]
  simp only [List.mem_cons, List.not_mem_nil, or_false] at isOpening
  rcases isOpening with rfl | rfl
  all_goals rfl

end Split

variable {line : List Char} {statement : Statement}

theorem readLine_eq_none_iff :
    readLine line = .ok none ↔ trim line = [] ∨ ∃ text, trim line = '#' :: text := by
  rw [← isSilent_iff, readLine]
  constructor
  · intro isRead
    split at isRead
    · assumption
    · rcases bind_eq_ok_iff.1 isRead with ⟨_, _, isRead⟩
      dsimp only at isRead
      split at isRead
      · cases isRead
      · cases isRead
  · intro staysSilent
    rw [if_pos staysSilent]

theorem readLine_eq_some_iff :
    readLine line = .ok (some statement) ↔
      ∃ split : Split, split.line = trim line ∧ split.Denotes statement := by
  rw [readLine]
  constructor
  · intro isRead
    split at isRead
    · cases isRead
    · rcases bind_eq_ok_iff.1 isRead with ⟨⟨found, rest⟩, readsStatement, isRead⟩
      dsimp only at isRead
      split at isRead
      · rename_i staysSilent
        cases isRead
        exact Split.exists_of_readStatement readsStatement staysSilent
      · cases isRead
  · rintro ⟨split, same, denotes⟩
    rw [← same, denotes.isSilent_line, denotes.readStatement_line]
    have isOver := (span_append denotes.blanks denotes.comment_opens).2
    have staysSilent := isSilent_iff.2 denotes.comment
    simp [isOver, staysSilent, bind, Except.bind]

theorem exists_readLine_iff :
    (∃ found, readLine line = .ok found) ↔
      trim line = [] ∨ (∃ text, trim line = '#' :: text) ∨
        ∃ (split : Split) (statement : Statement),
          split.line = trim line ∧ split.Denotes statement := by
  rw [← or_assoc, ← readLine_eq_none_iff, exists_comm]
  simp only [← readLine_eq_some_iff]
  constructor
  · rintro ⟨found, isRead⟩
    cases found with
    | none => exact Or.inl isRead
    | some statement => exact Or.inr ⟨statement, isRead⟩
  · rintro (isRead | ⟨statement, isRead⟩)
    · exact ⟨_, isRead⟩
    · exact ⟨_, isRead⟩

theorem exists_readLines_iff {number : Nat} {graph : Graph} {lines : List (List Char)} :
    (∃ result, readLines number graph lines = .ok result) ↔
      ∀ line ∈ lines, ∃ found, readLine line = .ok found := by
  induction lines generalizing number graph with
  | nil => simp [readLines]
  | cons line later inductionHypothesis =>
      rw [List.forall_mem_cons, readLines]
      cases readLine line with
      | error error => simp
      | ok found =>
          cases found with
          | none => simp [inductionHypothesis]
          | some statement => simp [inductionHypothesis]

theorem mem_of_readLines {number : Nat} {graph result : Graph} {lines : List (List Char)}
    (isRead : readLines number graph lines = .ok result) :
    statement ∈ result ↔
      statement ∈ graph ∨ ∃ line ∈ lines, readLine line = .ok (some statement) := by
  induction lines generalizing number graph with
  | nil =>
      cases isRead
      simp
  | cons line later inductionHypothesis =>
      rw [readLines] at isRead
      cases readsLine : readLine line with
      | error error =>
          rw [readsLine] at isRead
          cases isRead
      | ok found =>
          rw [readsLine] at isRead
          cases found with
          | none =>
              rw [inductionHypothesis isRead]
              simp [readsLine]
          | some other =>
              rw [inductionHypothesis isRead]
              simp [readsLine, AscendingSet.mem_insert, eq_comm, or_assoc, or_left_comm]

end Triples

/-- What the lines of a document have to do with the graph that it is. -/
structure Graph.FollowsGrammar (document : String) : Prop where
  /-- There is a graph if each line, without the white space at its ends, is empty, or a comment, or
  can be split into a statement and what may surround it. -/
  accepts : (∃ graph, Graph.parse document = .ok graph) ↔
    ∀ line ∈ Text.splitAt '\n' document.toList,
      Triples.trim line = [] ∨ (∃ text, Triples.trim line = '#' :: text) ∨
        ∃ (split : Triples.Split) (statement : Statement),
          split.line = Triples.trim line ∧ split.Denotes statement
  /-- A line is split in one way and says one thing. -/
  unique : ∀ (first second : Triples.Split) (statement other : Statement),
    first.Denotes statement → second.Denotes other → first.line = second.line →
      first = second ∧ statement = other
  /-- The graph consists of what its lines say. -/
  mem_iff : ∀ graph, Graph.parse document = .ok graph → ∀ statement,
    statement ∈ graph ↔ ∃ line ∈ Text.splitAt '\n' document.toList,
      ∃ split : Triples.Split, split.line = Triples.trim line ∧ split.Denotes statement

/-- Every text is read by the grammar of its lines. -/
theorem Graph.parsing_follows_grammar (document : String) : Graph.FollowsGrammar document := by
  constructor
  · rw [Graph.parse, Triples.exists_readLines_iff]
    simp only [Triples.exists_readLine_iff]
  · intro first second statement other denotes denotesToo same
    exact denotes.unique denotesToo same
  · intro graph isRead statement
    rw [Triples.mem_of_readLines isRead]
    simp [Triples.readLine_eq_some_iff, AscendingSet.not_mem_empty]

end LinkedAccess
