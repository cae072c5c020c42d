import LinkedAccess.Proofs.Sequence
import LinkedAccess.Proofs.Steady
import LinkedAccess.Resolution

/-!
# Reading documents

Most of what is found only depends on documents that may be absent. What is done with such documents
reads some of them and then has a value, unless one of them cannot be read: `Answers.reading`. Where
a document has to be there it also matters what is cached already, because a cached document counts
as being there: `Answers.loading`. Both are functions of the answers, without any state.
-/

namespace LinkedAccess

/-- Whether something succeeds with a value can be decided where its errors cannot be compared. -/
theorem toOption_eq_some_iff {ε α : Type} {outcome : Except ε α} {value : α} :
    outcome.toOption = some value ↔ outcome = .ok value := by
  cases outcome with
  | error error => simp [Except.toOption]
  | ok other => simp [Except.toOption]

theorem bind_eq_ok_iff {ε α β : Type} {first : Except ε α} {next : α → Except ε β} {value : β} :
    first >>= next = .ok value ↔ ∃ middle, first = .ok middle ∧ next middle = .ok value := by
  cases first with
  | error error =>
      constructor
      · intro impossible
        cases impossible
      · rintro ⟨middle, impossible, _⟩
        cases impossible
  | ok middle =>
      constructor
      · intro succeeded
        exact ⟨middle, rfl, succeeded⟩
      · rintro ⟨other, same, succeeded⟩
        cases same
        exact succeeded

namespace Answers

variable {α β : Type}

/-- The graph of a document for those to whom absence means emptiness. -/
def description (answers : Answers) (document : Identifier) : Except AccessError Graph :=
  Absence.empty.settle document (answers.read document)

/-- What a document says to those to whom absence means emptiness. -/
def content (answers : Answers) (document : Identifier) : Graph :=
  (answers.description document).toOption.getD ∅

/-- A document can be read, if absence counts as emptiness. -/
def IsReadable (answers : Answers) (document : Identifier) : Prop :=
  ∃ graph, answers.description document = .ok graph

/-- A document cannot be read, for another reason than absence. -/
def Breaks (answers : Answers) (document : Identifier) (cause : StorageError) : Prop :=
  answers.read document = .error cause ∧ cause.isNotFound = false

/-- The error that is told of a document that cannot be read, for another reason than absence. -/
inductive BreaksWith (answers : Answers) (document : Identifier) : AccessError → Prop where
  /-- What is read is not a graph. -/
  | malformed (identifier : Identifier) (reason : SyntaxError)
      (read : answers.read document = .error (.malformed identifier reason)) :
      BreaksWith answers document (.malformedDocument document reason)
  /-- Nothing is read that could be a graph. -/
  | failed (cause : StorageError) (breaks : answers.Breaks document cause)
      (isOther : ∀ identifier reason, cause ≠ .malformed identifier reason) :
      BreaksWith answers document (.backendFailure document cause)

/-- A value, if each document of a list can be read, and else the error of the first that cannot. -/
def reading (answers : Answers) (value : α) : List Identifier → Except AccessError α
  | [] => .ok value
  | document :: later =>
    match answers.description document with
    | .ok _ => answers.reading value later
    | .error error => .error error

variable {answers : Answers}

theorem content_of_description {document : Identifier} {graph : Graph}
    (description : answers.description document = .ok graph) :
    answers.content document = graph := by
  rw [content, description]
  rfl

theorem description_of_read {document : Identifier} {graph : Graph}
    (read : answers.read document = .ok graph) : answers.description document = .ok graph := by
  simp [description, read, Absence.settle]

theorem description_of_notFound {document : Identifier} {cause : StorageError}
    (read : answers.read document = .error cause) (notFound : cause.isNotFound = true) :
    answers.description document = .ok ∅ := by
  simp [description, read, notFound, Absence.settle]

theorem description_of_breaks {document : Identifier} {cause : StorageError}
    (breaks : answers.Breaks document cause) :
    answers.description document = .error (.ofRead document cause) := by
  simp [description, breaks.1, breaks.2, Absence.settle]

theorem breaks_or_isReadable (document : Identifier) :
    (∃ cause, answers.Breaks document cause) ∨ answers.IsReadable document := by
  cases read : answers.read document with
  | ok graph => exact Or.inr ⟨graph, description_of_read read⟩
  | error cause =>
      cases notFound : cause.isNotFound with
      | true => exact Or.inr ⟨∅, description_of_notFound read notFound⟩
      | false => exact Or.inl ⟨cause, read, notFound⟩

theorem breaksWith_iff {document : Identifier} {error : AccessError} :
    answers.BreaksWith document error ↔
      ∃ cause, answers.Breaks document cause ∧ error = .ofRead document cause := by
  constructor
  · rintro (⟨identifier, reason, read⟩ | ⟨cause, breaks, isOther⟩)
    · exact ⟨.malformed identifier reason, ⟨read, rfl⟩, rfl⟩
    · rcases AccessError.ofRead_cases document cause with
        ⟨identifier, reason, causeEq, _⟩ | ⟨_, errorEq⟩
      · exact absurd causeEq (isOther identifier reason)
      · exact ⟨cause, breaks, errorEq.symm⟩
  · rintro ⟨cause, breaks, rfl⟩
    rcases AccessError.ofRead_cases document cause with
      ⟨identifier, reason, rfl, errorEq⟩ | ⟨isOther, errorEq⟩
    · rw [errorEq]
      exact .malformed identifier reason breaks.1
    · rw [errorEq]
      exact .failed cause breaks isOther

theorem BreaksWith.breaks {document : Identifier} {error : AccessError}
    (breaksWith : answers.BreaksWith document error) : ∃ cause, answers.Breaks document cause := by
  rcases breaksWith_iff.1 breaksWith with ⟨cause, breaks, _⟩
  exact ⟨cause, breaks⟩

/-- A document is not described exactly when it breaks, and then that is the error. -/
theorem description_eq_error_iff {document : Identifier} {error : AccessError} :
    answers.description document = .error error ↔ answers.BreaksWith document error := by
  rw [breaksWith_iff]
  constructor
  · intro failed
    rcases answers.breaks_or_isReadable document with ⟨cause, breaks⟩ | ⟨graph, described⟩
    · rw [description_of_breaks breaks, Except.error.injEq] at failed
      exact ⟨cause, breaks, failed.symm⟩
    · rw [described] at failed
      cases failed
  · rintro ⟨cause, breaks, rfl⟩
    exact description_of_breaks breaks

theorem isReadable_iff {document : Identifier} :
    answers.IsReadable document ↔ ∀ cause, ¬answers.Breaks document cause := by
  constructor
  · rintro ⟨graph, described⟩ cause breaks
    rw [description_of_breaks breaks] at described
    cases described
  · intro neverBreaks
    rcases answers.breaks_or_isReadable document with ⟨cause, breaks⟩ | isReadable
    · exact absurd breaks (neverBreaks cause)
    · exact isReadable

/-- Where a document is not absent, what absence means makes no difference. -/
theorem description_eq_settle_fail {document : Identifier}
    (here : ∀ cause, answers.read document = .error cause → cause.isNotFound = false) :
    answers.description document = Absence.fail.settle document (answers.read document) := by
  cases read : answers.read document with
  | ok graph => simp [description, read, Absence.settle]
  | error cause => simp [description, read, here cause read, Absence.settle]

theorem Reliable.here (reliable : answers.Reliable) {document : Identifier}
    (found : answers.finds document = true) (cause : StorageError)
    (unreadable : answers.read document = .error cause) : cause.isNotFound = false := by
  apply reliable document cause ?_ unreadable
  unfold finds at found
  cases probe : answers.probe document with
  | ok answer =>
      rw [probe] at found
      rw [show answer = true from found]
  | error error =>
      rw [probe] at found
      cases found

theorem reading_append (value : α) (other : β) (first second : List Identifier) :
    answers.reading other (first ++ second) =
      answers.reading value first >>= fun _ => answers.reading other second := by
  induction first with
  | nil => rfl
  | cons document later inductionHypothesis =>
      simp only [List.cons_append, reading]
      cases answers.description document with
      | ok graph => exact inductionHypothesis
      | error error => rfl

/-- A value is reached exactly when every document on the way can be read. -/
theorem reading_eq_ok_iff {value other : α} {documents : List Identifier} :
    answers.reading value documents = .ok other ↔
      value = other ∧ ∀ document ∈ documents, answers.IsReadable document := by
  induction documents with
  | nil => simp [reading]
  | cons document later inductionHypothesis =>
      simp only [reading, List.forall_mem_cons, IsReadable]
      cases answers.description document with
      | ok graph => simpa [IsReadable] using inductionHypothesis
      | error error => simp

theorem reading_eq_error {value : α} {other : β} {documents : List Identifier}
    {error : AccessError} (failed : answers.reading value documents = .error error) :
    answers.reading other documents = .error error := by
  induction documents with
  | nil => simp [reading] at failed
  | cons document later inductionHypothesis =>
      simp only [reading] at failed ⊢
      cases description : answers.description document with
      | ok graph =>
          rw [description] at failed
          exact inductionHypothesis failed
      | error cause => simpa [description] using failed

theorem reading_eq_bind {value : α} {documents : List Identifier} :
    answers.reading value documents = answers.reading () documents >>= fun _ => .ok value := by
  cases reading : answers.reading () documents with
  | error error => exact reading_eq_error reading
  | ok _ => exact reading_eq_ok_iff.2 ⟨rfl, (reading_eq_ok_iff.1 reading).2⟩

theorem reading_append_of_readable {value : α} {first second : List Identifier}
    (readable : ∀ document ∈ first, answers.IsReadable document) :
    answers.reading value (first ++ second) = answers.reading value second := by
  rw [reading_append (), reading_eq_ok_iff.2 ⟨rfl, readable⟩]
  rfl

/-- What a reading fails with is the error of the first document that breaks. -/
theorem exists_breaksWith_of_reading_eq_error {value : α} {documents : List Identifier}
    {error : AccessError} (failed : answers.reading value documents = .error error) :
    ∃ front document back, documents = front ++ document :: back ∧
      (∀ earlier ∈ front, answers.IsReadable earlier) ∧ answers.BreaksWith document error := by
  induction documents with
  | nil => cases failed
  | cons document later inductionHypothesis =>
      rw [reading] at failed
      cases description : answers.description document with
      | error told =>
          rw [description] at failed
          cases failed
          exact ⟨[], document, later, rfl, by simp, description_eq_error_iff.1 description⟩
      | ok graph =>
          rw [description] at failed
          rcases inductionHypothesis failed with ⟨front, broken, back, rfl, readable, breaksWith⟩
          exact ⟨document :: front, broken, back, rfl,
            List.forall_mem_cons.2 ⟨⟨graph, description⟩, readable⟩, breaksWith⟩

theorem reading_of_breaksWith {value : α} {front back : List Identifier} {document : Identifier}
    {error : AccessError} (readable : ∀ earlier ∈ front, answers.IsReadable earlier)
    (breaksWith : answers.BreaksWith document error) :
    answers.reading value (front ++ document :: back) = .error error := by
  rw [reading_append_of_readable readable, reading, description_eq_error_iff.2 breaksWith]

theorem reading_append_of_error {value : α} {other : β} {first second : List Identifier}
    {error : AccessError} (failed : answers.reading value first = .error error) :
    answers.reading other (first ++ second) = .error error := by
  rw [reading_append value, failed]
  rfl

/-- What a load comes to when the documents of a list are cached. A cached document counts as being
there, also if it is absent. -/
def settled (answers : Answers) (loaded : List Identifier) (absence : Absence)
    (document : Identifier) : Except AccessError Graph :=
  if document ∈ loaded then answers.description document
  else absence.settle document (answers.read document)

/-- A value, if each load of a list succeeds, and else the error of the first that fails. -/
def loading (answers : Answers) (value : α) (loaded : List Identifier) :
    List (Identifier × Absence) → Except AccessError α
  | [] => .ok value
  | (document, absence) :: later =>
    match answers.settled loaded absence document with
    | .ok _ => answers.loading value (loaded ++ [document]) later
    | .error error => .error error

/-- The documents that are read when a list of loads is made: none that is cached, and none after a
load that fails. -/
def made (answers : Answers) (loaded : List Identifier) :
    List (Identifier × Absence) → List Identifier
  | [] => []
  | (document, absence) :: later =>
    (if document ∈ loaded then [] else [document]) ++
      continuing (answers.settled loaded absence document)
        (answers.made (loaded ++ [document]) later)

@[simp]
theorem settled_empty (loaded : List Identifier) (document : Identifier) :
    answers.settled loaded .empty document = answers.description document :=
  ite_self _

theorem description_of_settled {loaded : List Identifier} {absence : Absence}
    {document : Identifier} {graph : Graph}
    (isSettled : answers.settled loaded absence document = .ok graph) :
    answers.description document = .ok graph := by
  simp only [settled] at isSettled
  split at isSettled
  · exact isSettled
  · cases absence with
    | empty => exact isSettled
    | fail =>
        cases read : answers.read document with
        | ok found => simpa [read, Absence.settle, description] using isSettled
        | error cause => simp [read, Absence.settle] at isSettled

/-- A document is said to be absent when it is read. -/
def Vanished (answers : Answers) (document : Identifier) : Prop :=
  ∃ cause, answers.read document = .error cause ∧ cause.isNotFound = true

theorem settled_fail_eq_ok_iff {loaded : List Identifier}
    {document : Identifier} :
    (∃ graph, answers.settled loaded .fail document = .ok graph) ↔
      answers.IsReadable document ∧ (answers.Vanished document → document ∈ loaded) := by
  unfold settled IsReadable
  by_cases isLoaded : document ∈ loaded
  · simp [isLoaded]
  · simp only [isLoaded, if_false]
    cases read : answers.read document with
    | ok graph => simp [description, Vanished, read, Absence.settle]
    | error cause =>
        by_cases notFound : cause.isNotFound = true
        · simp [Vanished, read, Absence.settle, notFound]
        · simp [description, read, Absence.settle, notFound]

theorem loading_append (value : α) (other : β) (loaded : List Identifier)
    (first second : List (Identifier × Absence)) :
    answers.loading other loaded (first ++ second) =
      answers.loading value loaded first >>= fun _ =>
        answers.loading other (loaded ++ first.map (·.1)) second := by
  induction first generalizing loaded with
  | nil =>
      rw [List.nil_append, List.map_nil, List.append_nil]
      rfl
  | cons load later inductionHypothesis =>
      simp only [List.cons_append, List.map_cons, loading]
      rw [List.append_cons loaded load.1 (later.map (·.1))]
      cases answers.settled loaded load.2 load.1 with
      | ok graph => exact inductionHypothesis _
      | error error => rfl

theorem made_append (loaded : List Identifier) (first second : List (Identifier × Absence)) :
    answers.made loaded (first ++ second) = answers.made loaded first ++
      continuing (answers.loading () loaded first)
        (answers.made (loaded ++ first.map (·.1)) second) := by
  induction first generalizing loaded with
  | nil =>
      rw [List.map_nil, List.append_nil]
      rfl
  | cons load later inductionHypothesis =>
      simp only [List.cons_append, List.map_cons, made, loading, inductionHypothesis]
      rw [List.append_cons loaded load.1 (later.map (·.1))]
      cases answers.settled loaded load.2 load.1 with
      | ok graph => exact (List.append_assoc _ _ _).symm
      | error error => exact (List.append_nil _).symm

/-- What is read are the documents that were not cached, as far as the loads succeed. -/
theorem made_isPrefix (loaded : List Identifier) (loads : List (Identifier × Absence)) :
    answers.made loaded loads <+: unseen loaded (loads.map (·.1)) := by
  induction loads generalizing loaded with
  | nil => exact List.prefix_refl []
  | cons load later inductionHypothesis =>
      rw [made, List.map_cons, unseen_cons, List.prefix_append_right_inj]
      exact continuing_isPrefix _ (inductionHypothesis _)

theorem made_of_loading {value other : α} {loaded : List Identifier}
    {loads : List (Identifier × Absence)}
    (succeeded : answers.loading value loaded loads = .ok other) :
    answers.made loaded loads = unseen loaded (loads.map (·.1)) := by
  induction loads generalizing loaded with
  | nil => rfl
  | cons load later inductionHypothesis =>
      rw [loading] at succeeded
      rw [made, List.map_cons, unseen_cons]
      cases isSettled : answers.settled loaded load.2 load.1 with
      | error error =>
          rw [isSettled] at succeeded
          cases succeeded
      | ok graph =>
          rw [isSettled] at succeeded
          rw [continuing, inductionHypothesis succeeded]

/-- A document is read for the first load of it, and if that load fails, it is the last one. -/
theorem of_made {loaded front back : List Identifier} {loads : List (Identifier × Absence)}
    {document : Identifier} (reads : answers.made loaded loads = front ++ document :: back) :
    ∃ before absence after, loads = before ++ (document, absence) :: after ∧
      document ∉ loaded ++ before.map (·.1) ∧
      ∀ error, absence.settle document (answers.read document) = .error error → back = [] := by
  induction loads generalizing loaded front with
  | nil => simp [made] at reads
  | cons load later inductionHypothesis =>
      have onLater {others : List Identifier}
          (readsLater : continuing (answers.settled loaded load.2 load.1)
            (answers.made (loaded ++ [load.1]) later) = others ++ document :: back) :
          ∃ before absence after, load :: later = before ++ (document, absence) :: after ∧
            document ∉ loaded ++ before.map (·.1) ∧
            ∀ error, absence.settle document (answers.read document) = .error error →
              back = [] := by
        cases isSettled : answers.settled loaded load.2 load.1 with
        | error error => simp [isSettled, continuing] at readsLater
        | ok graph =>
            rw [isSettled, continuing] at readsLater
            rcases inductionHypothesis readsLater with ⟨before, absence, after, rfl, isFirst, ends⟩
            refine ⟨load :: before, absence, after, rfl, ?_, ends⟩
            rwa [List.map_cons, List.append_cons]
      rw [made] at reads
      by_cases isLoaded : load.1 ∈ loaded
      · rw [if_pos isLoaded, List.nil_append] at reads
        exact onLater reads
      · rw [if_neg isLoaded, List.singleton_append] at reads
        cases front with
        | cons head front =>
            rw [List.cons_append, List.cons.injEq] at reads
            exact onLater reads.2
        | nil =>
            rw [List.nil_append, List.cons.injEq] at reads
            rcases reads with ⟨rfl, reads⟩
            refine ⟨[], load.2, later, rfl, by simpa using isLoaded, fun error failed => ?_⟩
            rw [settled, if_neg isLoaded, failed] at reads
            exact reads.symm

/-- If loading fails, the last document that is read is the one that could not be loaded. -/
theorem made_of_error {value : α} {loaded : List Identifier} {loads : List (Identifier × Absence)}
    {error : AccessError} (readable : ∀ document ∈ loaded, answers.IsReadable document)
    (failed : answers.loading value loaded loads = .error error) :
    ∃ front document absence before after, answers.made loaded loads = front ++ [document] ∧
      loads = before ++ (document, absence) :: after ∧ document ∉ loaded ++ before.map (·.1) ∧
      absence.settle document (answers.read document) = .error error := by
  induction loads generalizing loaded with
  | nil => cases failed
  | cons load later inductionHypothesis =>
      rw [loading] at failed
      rw [made]
      cases isSettled : answers.settled loaded load.2 load.1 with
      | error cause =>
          rw [isSettled] at failed
          cases failed
          by_cases isLoaded : load.1 ∈ loaded
          · rcases readable _ isLoaded with ⟨graph, description⟩
            rw [settled, if_pos isLoaded, description] at isSettled
            cases isSettled
          · rw [settled, if_neg isLoaded] at isSettled
            rw [if_neg isLoaded]
            exact ⟨[], load.1, load.2, [], later, rfl, rfl, by simpa using isLoaded, isSettled⟩
      | ok graph =>
          rw [isSettled] at failed
          have readableLater : ∀ document ∈ loaded ++ [load.1], answers.IsReadable document := by
            intro document documentMem
            rcases List.mem_append.1 documentMem with isLoaded | isHere
            · exact readable document isLoaded
            · rw [List.mem_singleton.1 isHere]
              exact ⟨graph, description_of_settled isSettled⟩
          rcases inductionHypothesis readableLater failed with
            ⟨front, document, absence, before, after, reads, rfl, isFirst, fails⟩
          rw [continuing, reads, ← List.append_assoc]
          refine ⟨_, document, absence, load :: before, after, rfl, rfl, ?_, fails⟩
          rwa [List.map_cons, List.append_cons]

theorem made_of_mem {loaded : List Identifier} {loads : List (Identifier × Absence)}
    (known : ∀ load ∈ loads, load.1 ∈ loaded) : answers.made loaded loads = [] := by
  induction loads generalizing loaded with
  | nil => rfl
  | cons load later inductionHypothesis =>
      rcases List.forall_mem_cons.1 known with ⟨isLoaded, onLater⟩
      have nothingLater : answers.made (loaded ++ [load.1]) later = [] :=
        inductionHypothesis fun other otherMem => List.mem_append_left _ (onLater other otherMem)
      rw [made, if_pos isLoaded, nothingLater, continuing_nil, List.append_nil]

@[simp]
theorem map_fst_map_empty (documents : List Identifier) :
    (documents.map fun document => (document, Absence.empty)).map (·.1) = documents := by
  rw [List.map_map]
  exact List.map_id documents

theorem loading_map_empty (value : α) (loaded documents : List Identifier) :
    answers.loading value loaded (documents.map (·, .empty)) = answers.reading value documents := by
  induction documents generalizing loaded with
  | nil => rfl
  | cons document later inductionHypothesis =>
      simp only [List.map_cons, loading, reading, settled_empty, inductionHypothesis]

/-- If reading fails, the last document that is read is the one that breaks. -/
theorem made_of_reading_eq_error {value : α} {loaded documents : List Identifier}
    {error : AccessError} (readable : ∀ document ∈ loaded, answers.IsReadable document)
    (failed : answers.reading value documents = .error error) :
    ∃ front document, answers.made loaded (documents.map (·, .empty)) = front ++ [document] ∧
      answers.BreaksWith document error := by
  rw [← loading_map_empty value loaded] at failed
  rcases made_of_error readable failed with
    ⟨front, document, absence, before, after, reads, split, _, fails⟩
  have loadMem : (document, absence) ∈ documents.map (·, Absence.empty) := by
    rw [split]
    exact List.mem_append_right _ List.mem_cons_self
  rcases List.mem_map.1 loadMem with ⟨_, _, same⟩
  cases same
  exact ⟨front, document, reads, description_eq_error_iff.1 fails⟩

/-- Where no document is absent, it does not matter what absence means. -/
theorem loading_of_here (value : α) {loaded : List Identifier}
    {loads : List (Identifier × Absence)}
    (here : ∀ load ∈ loads, load.2 = .fail → ∀ cause,
      answers.read load.1 = .error cause → cause.isNotFound = false) :
    answers.loading value loaded loads = answers.reading value (loads.map (·.1)) := by
  induction loads generalizing loaded with
  | nil => rfl
  | cons load later inductionHypothesis =>
      have isDescribed : answers.settled loaded load.2 load.1 = answers.description load.1 := by
        cases absence : load.2 with
        | empty => exact settled_empty loaded load.1
        | fail =>
            have here := here load List.mem_cons_self absence
            rw [settled, ← description_eq_settle_fail here, ite_self]
      simp only [loading, List.map_cons, reading, isDescribed]
      rw [inductionHypothesis fun other otherMem => here other (List.mem_cons_of_mem _ otherMem)]

theorem of_loading {value other : α} {loaded : List Identifier}
    {loads : List (Identifier × Absence)}
    (succeeded : answers.loading value loaded loads = .ok other) :
    value = other ∧ ∀ load ∈ loads, answers.IsReadable load.1 := by
  induction loads generalizing loaded with
  | nil =>
      cases succeeded
      exact ⟨rfl, by simp⟩
  | cons load later inductionHypothesis =>
      rw [loading] at succeeded
      cases isSettled : answers.settled loaded load.2 load.1 with
      | error error =>
          rw [isSettled] at succeeded
          cases succeeded
      | ok graph =>
          rw [isSettled] at succeeded
          rcases inductionHypothesis succeeded with ⟨valueEq, onLater⟩
          have isReadable : answers.IsReadable load.1 := ⟨graph, description_of_settled isSettled⟩
          exact ⟨valueEq, List.forall_mem_cons.2 ⟨isReadable, onLater⟩⟩

end Answers

end LinkedAccess
