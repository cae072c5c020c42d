import LinkedAccess.Proofs.Settling

/-!
# What a cache and a reader present

A cache may hold anything when a resolution begins. With a steady reader this does no harm: whoever
takes absence for emptiness finds the same in every document from then on, in the cache if it is
there, and else from the reader, which puts into the cache what is found anyway. `Presents` says
what is found so, and `Resolution.Yields` that a resolution comes to an outcome by it, wherever it
begins.
-/

namespace LinkedAccess

namespace Answers

/-- The answers when the documents of a cache are read from there. -/
def behind (answers : Answers) (cache : Cache) : Answers where
  probe := answers.probe
  read document :=
    match cache.get? document with
    | some graph => .ok graph
    | none => answers.read document

variable {answers : Answers} {cache : Cache} {document : Identifier}

theorem description_behind_of_cached {graph : Graph} (isCached : cache.get? document = some graph) :
    (answers.behind cache).description document = .ok graph := by
  apply description_of_read
  simp only [behind, isCached]

theorem description_behind_of_fresh (isFresh : cache.get? document = none) :
    (answers.behind cache).description document = answers.description document := by
  simp only [description, behind, isFresh]

end Answers

/-- With a steady reader, what is cached or else read is what some answers say, to those to whom
absence means emptiness. -/
structure Presents {σ : Type} (reader : Reader σ) (answers seen : Answers) (start : Cache × σ) :
    Prop where
  steady : reader.Steady answers start.2
  cached : ∀ document graph, start.1.get? document = some graph →
    seen.description document = .ok graph
  fresh : ∀ document, start.1.get? document = none →
    seen.description document = answers.description document

theorem Reader.Steady.presents {σ : Type} {reader : Reader σ} {answers : Answers} {state : σ}
    (steady : reader.Steady answers state) (cache : Cache) :
    Presents reader answers (answers.behind cache) (cache, state) :=
  ⟨steady, fun _ _ => Answers.description_behind_of_cached,
    fun _ => Answers.description_behind_of_fresh⟩

theorem Presents.insert {σ : Type} {reader : Reader σ} {answers seen : Answers} {start : Cache × σ}
    (presents : Presents reader answers seen start) {document : Identifier} {graph : Graph}
    (isSeen : seen.description document = .ok graph) :
    Presents reader answers seen (start.1.insert document graph, start.2) := by
  refine ⟨presents.steady, AscendingMap.forall_insert presents.cached isSeen, ?_⟩
  intro other isFresh
  rw [AscendingMap.get?_insert] at isFresh
  split at isFresh
  case isTrue => cases isFresh
  case isFalse => exact presents.fresh other isFresh

/-- A resolution comes to one outcome from every state that presents the same, and leads to such a
state again. -/
def Resolution.Yields {σ α : Type} (reader : Reader σ) (answers seen : Answers)
    (resolution : Resolution (Cache × σ) α) (outcome : Except AccessError α) : Prop :=
  ∀ start, Presents reader answers seen start →
    (resolution start).1 = outcome ∧ Presents reader answers seen (resolution start).2

section Yields

variable {σ α β : Type} {reader : Reader σ} {answers seen : Answers}

open Resolution

theorem yields_pure (value : α) : Yields reader answers seen (pure value) (.ok value) :=
  fun _ presents => ⟨rfl, presents⟩

theorem Resolution.Yields.bind {first : Resolution (Cache × σ) α}
    {next : α → Resolution (Cache × σ) β} {outcome : Except AccessError α}
    {later : α → Except AccessError β} (yields : Yields reader answers seen first outcome)
    (yieldsNext : ∀ value, outcome = .ok value →
      Yields reader answers seen (next value) (later value)) :
    Yields reader answers seen (first >>= next) (outcome >>= later) := by
  intro start presents
  rcases yields start presents with ⟨ends, presentsLater⟩
  rw [run_bind]
  rcases run : first start with ⟨found, middle⟩
  rw [run] at ends presentsLater
  subst ends
  cases found with
  | error error => exact ⟨rfl, presentsLater⟩
  | ok value => exact yieldsNext value rfl middle presentsLater

theorem Reader.yields_load (document : Identifier) :
    Yields reader answers seen (reader.load document .empty) (seen.description document) := by
  rintro ⟨cache, state⟩ presents
  cases isCached : cache.get? document with
  | some graph =>
      rw [load_of_cached isCached]
      exact ⟨(presents.cached document graph isCached).symm, presents⟩
  | none =>
      have presentsLater : Presents reader answers seen (cache, (reader.read document state).2) :=
        ⟨(presents.steady.read document).2, presents.cached, presents.fresh⟩
      rw [load_of_fresh isCached presents.steady, presents.fresh document isCached,
        Answers.description]
      cases settled : Absence.empty.settle document (answers.read document) with
      | error error => exact ⟨rfl, presentsLater⟩
      | ok graph =>
          exact ⟨rfl, presentsLater.insert ((presents.fresh document isCached).trans settled)⟩

end Yields

end LinkedAccess
