import LinkedAccess.Storage.Observed

/-!
# Steady readers

A reader may change with every question. Most of what can be said about a resolution supposes that
it does not: that, from the state in which the resolution begins, every identifier is answered in
one way whatever was asked before. Those answers are then a value of their own, `Answers`, and what
is found can be compared with what they say.

Steadiness is about the states that accesses lead to and about no others. It is therefore inherited
by every observer of a steady reader, and a store is steady as long as nobody writes to it. Which
accesses were made can be told from the state they lead to, because a log is one such observer.
-/

namespace LinkedAccess

/-- What there is to be learned about each identifier. -/
structure Answers where
  probe : Identifier → Except StorageError Bool
  read : Identifier → Except StorageError Graph

namespace Answers

/-- Whether a document is said to be there. An error says no such thing. -/
def finds (answers : Answers) (document : Identifier) : Bool :=
  match answers.probe document with
  | .ok found => found
  | .error _ => false

/-- No document that is said to be there is then said to be absent. -/
def Reliable (answers : Answers) : Prop :=
  ∀ identifier cause, answers.probe identifier = .ok true →
    answers.read identifier = .error cause → cause.isNotFound = false

/-- The answers when every access to some identifiers fails. -/
def failing (answers : Answers) (identifiers : AscendingSet Identifier) : Answers where
  probe identifier :=
    if identifier ∈ identifiers then .error (Reader.injectedFailure identifier)
    else answers.probe identifier
  read identifier :=
    if identifier ∈ identifiers then .error (Reader.injectedFailure identifier)
    else answers.read identifier

theorem read_failing_of_mem {answers : Answers} {identifiers : AscendingSet Identifier}
    {identifier : Identifier} (fails : identifier ∈ identifiers) :
    (answers.failing identifiers).read identifier =
      .error (Reader.injectedFailure identifier) :=
  if_pos fails

theorem Reliable.failing {answers : Answers} (reliable : answers.Reliable)
    (identifiers : AscendingSet Identifier) : (answers.failing identifiers).Reliable := by
  intro identifier cause present unreadable
  simp only [Answers.failing] at present unreadable
  by_cases fails : identifier ∈ identifiers
  · simp [fails] at present
  · rw [if_neg fails] at present unreadable
    exact reliable identifier cause present unreadable

end Answers

namespace Reader

variable {σ : Type} {reader : Reader σ} {answers : Answers} {state : σ}

/-- The states that accesses lead to. -/
inductive Reaches (reader : Reader σ) (start : σ) : σ → Prop where
  | start : Reaches reader start start
  | probe {state : σ} (identifier : Identifier) (before : Reaches reader start state) :
      Reaches reader start (reader.probe identifier state).2
  | read {state : σ} (identifier : Identifier) (before : Reaches reader start state) :
      Reaches reader start (reader.read identifier state).2

/-- From a state on, a reader gives the same answers whatever it was asked before. -/
def Steady (reader : Reader σ) (answers : Answers) (state : σ) : Prop :=
  ∀ later, reader.Reaches state later → ∀ identifier,
    (reader.probe identifier later).1 = answers.probe identifier ∧
      (reader.read identifier later).1 = answers.read identifier

theorem Reaches.trans {middle later : σ} (first : reader.Reaches state middle)
    (second : reader.Reaches middle later) : reader.Reaches state later := by
  induction second with
  | start => exact first
  | probe identifier _ inductionHypothesis => exact .probe identifier inductionHypothesis
  | read identifier _ inductionHypothesis => exact .read identifier inductionHypothesis

theorem Steady.probe (steady : reader.Steady answers state) (identifier : Identifier) :
    (reader.probe identifier state).1 = answers.probe identifier ∧
      reader.Steady answers (reader.probe identifier state).2 := by
  refine ⟨(steady state .start identifier).1, fun later reaches => ?_⟩
  exact steady later (Reaches.trans (.probe identifier .start) reaches)

theorem Steady.read (steady : reader.Steady answers state) (identifier : Identifier) :
    (reader.read identifier state).1 = answers.read identifier ∧
      reader.Steady answers (reader.read identifier state).2 := by
  refine ⟨(steady state .start identifier).2, fun later reaches => ?_⟩
  exact steady later (Reaches.trans (.read identifier .start) reaches)

/-- A reader is steady where a condition holds that each access keeps and that fixes the answers. -/
theorem steady_of_kept (keeps : σ → Prop) (kept : keeps state)
    (onProbe : ∀ state, keeps state → ∀ identifier,
      (reader.probe identifier state).1 = answers.probe identifier ∧
        keeps (reader.probe identifier state).2)
    (onRead : ∀ state, keeps state → ∀ identifier,
      (reader.read identifier state).1 = answers.read identifier ∧
        keeps (reader.read identifier state).2) :
    reader.Steady answers state := by
  intro later reaches
  have keptLater : keeps later := by
    induction reaches with
    | start => exact kept
    | probe identifier _ inductionHypothesis =>
        exact (onProbe _ inductionHypothesis identifier).2
    | read identifier _ inductionHypothesis =>
        exact (onRead _ inductionHypothesis identifier).2
  intro identifier
  exact ⟨(onProbe later keptLater identifier).1, (onRead later keptLater identifier).1⟩

theorem Steady.failing (steady : reader.Steady answers state)
    (identifiers : AscendingSet Identifier) :
    (reader.failing identifiers).Steady (answers.failing identifiers) state := by
  refine steady_of_kept (reader.Steady answers) steady ?_ ?_
  · intro state steady identifier
    by_cases fails : identifier ∈ identifiers
    · simp only [Reader.failing, Answers.failing, fails, if_true]
      exact ⟨rfl, steady⟩
    · simpa only [Reader.failing, Answers.failing, fails, if_false] using steady.probe identifier
  · intro state steady identifier
    by_cases fails : identifier ∈ identifiers
    · simp only [Reader.failing, Answers.failing, fails, if_true]
      exact ⟨rfl, steady⟩
    · simpa only [Reader.failing, Answers.failing, fails, if_false] using steady.read identifier

/-- The state after one access. -/
def perform (reader : Reader σ) : Access → σ → σ
  | .probe identifier, state => (reader.probe identifier state).2
  | .read identifier, state => (reader.read identifier state).2

/-- The state after a list of accesses, from the first to the last. -/
def after (reader : Reader σ) (accesses : List Access) (state : σ) : σ :=
  accesses.foldl (fun state access => reader.perform access state) state

theorem after_append (first second : List Access) :
    reader.after (first ++ second) state = reader.after second (reader.after first state) :=
  List.foldl_append

theorem Steady.after (steady : reader.Steady answers state) (accesses : List Access) :
    reader.Steady answers (reader.after accesses state) := by
  induction accesses generalizing state with
  | nil => exact steady
  | cons access later inductionHypothesis =>
      cases access with
      | probe identifier => exact inductionHypothesis (steady.probe identifier).2
      | read identifier => exact inductionHypothesis (steady.read identifier).2

/-- What a log holds at the end are the accesses that were made. -/
theorem after_logged (accesses past : List Access) (state : σ) :
    reader.logged.after accesses (past, state) =
      (past ++ accesses, reader.after accesses state) := by
  induction accesses generalizing past state with
  | nil => exact congrArg (·, state) (List.append_nil past).symm
  | cons access later inductionHypothesis =>
      cases access with
      | probe identifier =>
          rw [List.append_cons]
          exact inductionHypothesis (past ++ [.probe identifier]) _
      | read identifier =>
          rw [List.append_cons]
          exact inductionHypothesis (past ++ [.read identifier]) _

theorem Steady.measured (steady : reader.Steady answers state) (meter : Meter) :
    reader.measured.Steady answers (meter, state) :=
  steady_of_kept (fun metered => reader.Steady answers metered.2) steady
    (fun _ steady identifier => steady.probe identifier)
    (fun _ steady identifier => steady.read identifier)

theorem Steady.logged (steady : reader.Steady answers state) (past : List Access) :
    reader.logged.Steady answers (past, state) :=
  steady_of_kept (fun logged => reader.Steady answers logged.2) steady
    (fun _ steady identifier => steady.probe identifier)
    (fun _ steady identifier => steady.read identifier)

end Reader

namespace Answers

variable {σ : Type}

/-- The reader that gives these answers, whatever its state. -/
def reader (answers : Answers) : Reader σ where
  probe identifier := pure (answers.probe identifier)
  read identifier := pure (answers.read identifier)

theorem steady_reader (answers : Answers) (state : σ) :
    (answers.reader : Reader σ).Steady answers state :=
  Reader.steady_of_kept (fun _ => True) trivial (fun _ _ _ => ⟨rfl, trivial⟩)
    (fun _ _ _ => ⟨rfl, trivial⟩)

/-- The answers when there are just the given documents. -/
def ofGraphs (graphs : AscendingMap Identifier Graph) : Answers where
  probe identifier := .ok (graphs.get? identifier).isSome
  read identifier :=
    match graphs.get? identifier with
    | some graph => .ok graph
    | none => .error (.notFound identifier)

theorem reliable_ofGraphs (graphs : AscendingMap Identifier Graph) :
    (ofGraphs graphs).Reliable := by
  intro identifier cause present unreadable
  simp only [ofGraphs, Except.ok.injEq] at present
  rcases Option.isSome_iff_exists.1 present with ⟨graph, found⟩
  simp [ofGraphs, found] at unreadable

end Answers

namespace Store

/-- The answers that are found in a store. -/
def answers (store : Store) : Answers where
  probe identifier := .ok (store.probe identifier)
  read := store.read

theorem reliable_answers (store : Store) : store.answers.Reliable := by
  intro identifier cause present unreadable
  simp only [answers, probe, Except.ok.injEq] at present
  simp only [answers, read] at unreadable
  cases found : store.get? identifier with
  | none => simp [found] at present
  | some document =>
      simp only [found] at unreadable
      split at unreadable
      · simp at unreadable
      · cases unreadable
        rfl

theorem steady_reader {σ : Type} (store : Store) (state : σ) :
    (store.reader : Reader σ).Steady store.answers state :=
  Answers.steady_reader store.answers state

end Store

/-- A store that nobody writes to, with whatever observes it or makes accesses to it fail. -/
inductive StoreBacked : {σ : Type} → Reader σ → σ → Prop where
  | store {σ : Type} (store : Store) (state : σ) : StoreBacked store.reader state
  | failing {σ : Type} {reader : Reader σ} {state : σ} (backed : StoreBacked reader state)
      (identifiers : AscendingSet Identifier) : StoreBacked (reader.failing identifiers) state
  | measured {σ : Type} {reader : Reader σ} {state : σ} (backed : StoreBacked reader state)
      (meter : Meter) : StoreBacked reader.measured (meter, state)

theorem StoreBacked.steady {σ : Type} {reader : Reader σ} {state : σ}
    (backed : StoreBacked reader state) :
    ∃ answers, reader.Steady answers state ∧ answers.Reliable := by
  induction backed with
  | store store state => exact ⟨store.answers, store.steady_reader state, store.reliable_answers⟩
  | failing _ identifiers inductionHypothesis =>
      rcases inductionHypothesis with ⟨answers, steady, reliable⟩
      exact ⟨answers.failing identifiers, steady.failing identifiers, reliable.failing identifiers⟩
  | measured _ meter inductionHypothesis =>
      rcases inductionHypothesis with ⟨answers, steady, reliable⟩
      exact ⟨answers, steady.measured meter, reliable⟩

end LinkedAccess
