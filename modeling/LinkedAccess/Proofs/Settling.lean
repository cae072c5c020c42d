import LinkedAccess.Proofs.Reading

/-!
# Resolutions that settle

With a steady reader the outcome of a resolution is a matter of the answers and, through the cache,
of the documents that were loaded before. `Resolution.Settles` says that a resolution comes to one
outcome from every state in which just the documents of a list are cached, which documents it reads
for it, and which are cached when it has succeeded. Settling resolutions compose, so that each of
them is described once, without looking at a state again. `Resolution.Consults` is the case of a
resolution that reads documents that may be absent and then has a value.
-/

namespace LinkedAccess

/-- A cache holds the graphs of the documents of a list, and no others. -/
structure Records (answers : Answers) (loaded : List Identifier) (cache : Cache) : Prop where
  cached : ∀ document ∈ loaded, ∃ graph,
    answers.description document = .ok graph ∧ cache.get? document = some graph
  fresh : ∀ document, document ∉ loaded → cache.get? document = none

namespace Records

variable {answers : Answers} {loaded : List Identifier} {cache : Cache}

theorem nil : Records answers [] ∅ := ⟨by simp, by simp⟩

theorem congr {other : List Identifier} (records : Records answers loaded cache)
    (same : ∀ document, document ∈ other ↔ document ∈ loaded) : Records answers other cache :=
  ⟨fun document isLoaded => records.cached document ((same document).1 isLoaded),
    fun document isFresh =>
      records.fresh document fun isLoaded => isFresh ((same document).2 isLoaded)⟩

theorem isReadable (records : Records answers loaded cache) {document : Identifier}
    (isLoaded : document ∈ loaded) : answers.IsReadable document := by
  rcases records.cached document isLoaded with ⟨graph, description, _⟩
  exact ⟨graph, description⟩

theorem insert (records : Records answers loaded cache) {document : Identifier} {graph : Graph}
    (description : answers.description document = .ok graph) :
    Records answers (loaded ++ [document]) (cache.insert document graph) := by
  constructor
  · intro other otherMem
    by_cases same : other = document
    · subst same
      exact ⟨graph, description, by simp⟩
    · rcases records.cached other (by simpa [same] using otherMem) with ⟨found, described, isCached⟩
      exact ⟨found, described, by simpa [same] using isCached⟩
  · intro other isFresh
    simp only [List.mem_append, List.mem_singleton, not_or] at isFresh
    simpa [isFresh.2] using records.fresh other isFresh.1

end Records

namespace Resolution

variable {σ α β : Type}

theorem run_bind (first : Resolution σ α) (next : α → Resolution σ β) (state : σ) :
    (first >>= next) state =
      match first state with
      | (.ok value, later) => next value later
      | (.error error, later) => (.error error, later) := by
  change ExceptT.bindCont next (first state).1 (first state).2 = _
  rcases first state with ⟨_ | _, _⟩ <;> rfl

/-- From every state in which just the documents of a list are cached, a resolution comes to one
outcome by reading the documents of another list, in this order; if it succeeds, just the documents
of a third list are cached then. -/
def Settles (reader : Reader σ) (answers : Answers) (loaded : List Identifier)
    (resolution : Resolution (Cache × σ) α) (outcome : Except AccessError α)
    (reads after : List Identifier) : Prop :=
  ∀ cache state, Records answers loaded cache → reader.Steady answers state →
    (resolution (cache, state)).1 = outcome ∧
      (resolution (cache, state)).2.2 = reader.after (reads.map .read) state ∧
      ∀ value, outcome = .ok value → Records answers after (resolution (cache, state)).2.1

variable {reader : Reader σ} {answers : Answers} {loaded : List Identifier}

theorem settles_pure (value : α) :
    Settles reader answers loaded (pure value) (.ok value) [] loaded :=
  fun _ _ records _ => ⟨rfl, rfl, fun _ _ => records⟩

theorem settles_throw (error : AccessError) (after : List Identifier) :
    Settles reader answers loaded (throw error : Resolution (Cache × σ) α) (.error error) []
      after :=
  fun _ _ _ _ => ⟨rfl, rfl, fun _ impossible => by cases impossible⟩

theorem Settles.bind {first : Resolution (Cache × σ) α} {next : α → Resolution (Cache × σ) β}
    {outcome : Except AccessError α} {later : α → Except AccessError β}
    {reads readsNext middle after : List Identifier}
    (settles : Settles reader answers loaded first outcome reads middle)
    (settlesNext : ∀ value, outcome = .ok value →
      Settles reader answers middle (next value) (later value) readsNext after) :
    Settles reader answers loaded (first >>= next) (outcome >>= later)
      (reads ++ continuing outcome readsNext) after := by
  intro cache state records steady
  rcases settles cache state records steady with ⟨ends, leads, kept⟩
  rw [run_bind]
  rcases run : first (cache, state) with ⟨found, cache', state'⟩
  simp only [run] at ends leads kept
  subst ends leads
  cases found with
  | error error =>
      rw [continuing, List.append_nil]
      exact ⟨rfl, rfl, fun _ impossible => by cases impossible⟩
  | ok value =>
      rw [continuing, List.map_append, Reader.after_append]
      exact settlesNext value rfl cache' _ (kept value rfl) (steady.after _)

/-- What follows on a resolution with one possible value only happens if this value is reached. -/
theorem Settles.gated {first : Resolution (Cache × σ) α} {next : α → Resolution (Cache × σ) β}
    {gate : Except AccessError Unit} {value : α} {outcome : Except AccessError β}
    {reads readsNext middle after : List Identifier}
    (settles : Settles reader answers loaded first (gate >>= fun _ => .ok value) reads middle)
    (settlesNext : Settles reader answers middle (next value) outcome readsNext after) :
    Settles reader answers loaded (first >>= next) (gate >>= fun _ => outcome)
      (reads ++ continuing gate readsNext) after := by
  have gatedTwice : gate >>= (fun _ => outcome) =
      (gate >>= fun _ => .ok value) >>= fun _ => outcome := by
    rw [bind_assoc]
    rfl
  have continues : continuing gate readsNext =
      continuing (gate >>= fun _ => .ok value) readsNext :=
    (continuing_bind gate (.ok value) readsNext).symm
  rw [gatedTwice, continues]
  refine Settles.bind settles fun found succeeded => ?_
  rcases bind_eq_ok_iff.1 succeeded with ⟨_, _, isValue⟩
  cases isValue
  exact settlesNext

theorem Settles.congr {resolution : Resolution (Cache × σ) α} {outcome : Except AccessError α}
    {reads after other : List Identifier}
    (settles : Settles reader answers loaded resolution outcome reads after)
    (same : ∀ document, document ∈ other ↔ document ∈ after) :
    Settles reader answers loaded resolution outcome reads other := by
  intro cache state records steady
  rcases settles cache state records steady with ⟨ends, leads, kept⟩
  exact ⟨ends, leads, fun value succeeded => (kept value succeeded).congr same⟩

/-- A resolution that ends with something that reads nothing has read what was read before. -/
theorem Settles.finished {resolution : Resolution (Cache × σ) α} {outcome : Except AccessError α}
    {gate : Except AccessError β} {reads after : List Identifier}
    (settles : Settles reader answers loaded resolution outcome (reads ++ continuing gate []) after) :
    Settles reader answers loaded resolution outcome reads after := by
  rwa [continuing_nil, List.append_nil] at settles

/-- A resolution reads some documents, which may be absent, and then has a value. -/
def Consults (reader : Reader σ) (answers : Answers) (loaded : List Identifier)
    (resolution : Resolution (Cache × σ) α) (value : α) (consulted : List Identifier) : Prop :=
  Settles reader answers loaded resolution (answers.reading value consulted)
    (answers.made loaded (consulted.map (·, .empty))) (loaded ++ consulted)

theorem consults_pure (value : α) : Consults reader answers loaded (pure value) value [] := by
  unfold Consults
  rw [List.append_nil]
  exact settles_pure value

/-- What is read for the first documents of a list, and then for those after them. -/
theorem made_map_empty_append (first second : List Identifier) :
    answers.made loaded ((first ++ second).map (·, .empty)) =
      answers.made loaded (first.map (·, .empty)) ++
        continuing (answers.reading () first)
          (answers.made (loaded ++ first) (second.map (·, .empty))) := by
  rw [List.map_append, Answers.made_append, Answers.loading_map_empty, Answers.map_fst_map_empty]

theorem Consults.settles {first : Resolution (Cache × σ) α} {next : α → Resolution (Cache × σ) β}
    {value : α} {consulted reads after : List Identifier} {outcome : Except AccessError β}
    (consults : Consults reader answers loaded first value consulted)
    (settlesNext : Settles reader answers (loaded ++ consulted) (next value) outcome reads after) :
    Settles reader answers loaded (first >>= next)
      (answers.reading () consulted >>= fun _ => outcome)
      (answers.made loaded (consulted.map (·, .empty)) ++
        continuing (answers.reading () consulted) reads) after := by
  unfold Consults at consults
  rw [Answers.reading_eq_bind] at consults
  exact consults.gated settlesNext

theorem Consults.bind {first : Resolution (Cache × σ) α} {next : α → Resolution (Cache × σ) β}
    {value : α} {other : β} {consulted later : List Identifier}
    (consults : Consults reader answers loaded first value consulted)
    (consultsNext : (∀ document ∈ consulted, answers.IsReadable document) →
      Consults reader answers (loaded ++ consulted) (next value) other later) :
    Consults reader answers loaded (first >>= next) other (consulted ++ later) := by
  have continues : continuing (answers.reading () consulted)
      (answers.made (loaded ++ consulted) (later.map (·, .empty))) =
        continuing (answers.reading value consulted)
          (answers.made (loaded ++ consulted) (later.map (·, .empty))) := by
    rw [show answers.reading value consulted = _ from Answers.reading_eq_bind, continuing_bind]
    rfl
  unfold Consults at *
  rw [Answers.reading_append value, ← List.append_assoc, made_map_empty_append, continues]
  refine consults.bind fun found succeeded => ?_
  rcases Answers.reading_eq_ok_iff.1 succeeded with ⟨rfl, readable⟩
  exact consultsNext readable

/-- Documents that are cached may be counted among those that a resolution reads. -/
theorem Consults.of_mem {resolution : Resolution (Cache × σ) α} {value : α}
    {consulted : List Identifier} (consults : Consults reader answers loaded resolution value [])
    (known : ∀ document ∈ consulted, document ∈ loaded) :
    Consults reader answers loaded resolution value consulted := by
  intro cache state records steady
  have readable : answers.reading value consulted = .ok value :=
    Answers.reading_eq_ok_iff.2 ⟨rfl, fun document documentMem =>
      records.isReadable (known document documentMem)⟩
  have readsNothing : answers.made loaded (consulted.map (·, .empty)) = [] := by
    apply Answers.made_of_mem
    intro load loadMem
    rcases List.mem_map.1 loadMem with ⟨document, documentMem, rfl⟩
    exact known document documentMem
  rw [readable, readsNothing]
  have same : Settles reader answers loaded resolution (.ok value) [] (loaded ++ consulted) := by
    apply consults.congr
    intro document
    have := known document
    simp only [List.mem_append, List.not_mem_nil, or_false]
    grind
  exact same cache state records steady

end Resolution

namespace Reader

variable {σ : Type} {reader : Reader σ} {answers : Answers} {loaded : List Identifier}

theorem load_of_cached {cache : Cache} {document : Identifier} {graph : Graph}
    (isCached : cache.get? document = some graph) (absence : Absence) (state : σ) :
    reader.load document absence (cache, state) = (.ok graph, cache, state) := by
  simp [load, isCached]

theorem load_of_fresh {cache : Cache} {document : Identifier} {state : σ}
    (isFresh : cache.get? document = none) (steady : reader.Steady answers state)
    (absence : Absence) :
    reader.load document absence (cache, state) =
      match absence.settle document (answers.read document) with
      | .ok graph => (.ok graph, cache.insert document graph, (reader.read document state).2)
      | .error error => (.error error, cache, (reader.read document state).2) := by
  simp only [load, isFresh, ← (steady.read document).1]
  rfl

theorem settles_load (document : Identifier) (absence : Absence) :
    Resolution.Settles reader answers loaded (reader.load document absence)
      (answers.settled loaded absence document) (answers.made loaded [(document, absence)])
      (loaded ++ [document]) := by
  intro cache state records steady
  rw [Answers.made, Answers.made, continuing_nil, List.append_nil]
  by_cases isLoaded : document ∈ loaded
  · rcases records.cached document isLoaded with ⟨graph, description, isCached⟩
    rw [load_of_cached isCached, Answers.settled, if_pos isLoaded, if_pos isLoaded, description]
    exact ⟨rfl, rfl, fun _ _ => records.congr (by grind)⟩
  · rw [load_of_fresh (records.fresh document isLoaded) steady, Answers.settled, if_neg isLoaded,
      if_neg isLoaded]
    cases settled : absence.settle document (answers.read document) with
    | error error => exact ⟨rfl, rfl, fun _ impossible => by cases impossible⟩
    | ok graph =>
        have isSettled : answers.settled loaded absence document = .ok graph := by
          rw [Answers.settled, if_neg isLoaded, settled]
        exact ⟨rfl, rfl, fun _ _ => records.insert (Answers.description_of_settled isSettled)⟩

theorem consults_load (document : Identifier) :
    Resolution.Consults reader answers loaded (reader.load document .empty)
      (answers.content document) [document] := by
  have settles : Resolution.Settles reader answers loaded (reader.load document .empty) _ _ _ :=
    settles_load document .empty
  rw [Answers.settled_empty] at settles
  unfold Resolution.Consults
  rw [Answers.reading, List.map_singleton]
  cases description : answers.description document with
  | error error => simpa only [description] using settles
  | ok graph =>
      rw [Answers.content_of_description description]
      simpa only [description, Answers.reading] using settles

end Reader

end LinkedAccess
