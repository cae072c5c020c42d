import LinkedAccess.Proofs.Precedence
import LinkedAccess.Proofs.Settling

/-!
# Runs of loads

Loads are made one after the other with one cache, and a load that fails does not end the run. What
a load does depends on what was loaded before it and on nothing else that happened in the run: a
document that was loaded is in the cache, and a load of any other document asks the reader and
leaves the cache as it was unless it succeeds.
-/

namespace LinkedAccess

/-- One load of a run, and what it came to. -/
structure Loading where
  document : Identifier
  absence : Absence
  outcome : Except AccessError Graph

namespace Loading

/-- The document of a load that succeeded. -/
def loaded? (loading : Loading) : Option Identifier :=
  match loading.outcome with
  | .ok _ => some loading.document
  | .error _ => none

end Loading

/-- The documents that were loaded in a run, each as often as a load of it succeeded. -/
def loadedIn (history : List Loading) : List Identifier := history.filterMap Loading.loaded?

/-- Makes the loads of a list one after the other, and puts down what each of them came to. -/
def Reader.loadAll {σ : Type} (reader : Reader σ) :
    List (Identifier × Absence) → StateM (Cache × σ) (List Loading)
  | [] => pure []
  | (document, absence) :: later => fun state =>
    let (outcome, state) := reader.load document absence state
    let (history, state) := reader.loadAll later state
    (⟨document, absence, outcome⟩ :: history, state)

theorem Absence.settle_eq_ok_iff {absence : Absence} {document : Identifier}
    {answer : Except StorageError Graph} {graph : Graph} :
    absence.settle document answer = .ok graph ↔
      answer = .ok graph ∨
        absence = .empty ∧ ∅ = graph ∧
          ∃ cause, answer = .error cause ∧ cause.isNotFound = true := by
  cases answer with
  | ok found => simp [settle]
  | error cause =>
      cases absence with
      | fail => simp [settle]
      | empty =>
          cases notFound : cause.isNotFound with
          | true => simp [settle, notFound]
          | false => simp [settle, notFound]

theorem Absence.settle_eq_error_iff {absence : Absence} {document : Identifier}
    {answer : Except StorageError Graph} {error : AccessError} :
    absence.settle document answer = .error error ↔
      ∃ cause, answer = .error cause ∧ .ofRead document cause = error ∧
        (absence = .empty → cause.isNotFound = false) := by
  cases answer with
  | ok found => simp [settle]
  | error cause =>
      cases absence with
      | fail => simp [settle]
      | empty =>
          cases notFound : cause.isNotFound with
          | true => simp [settle, notFound]
          | false => simp [settle, notFound]

/-- The number of documents in a cache is the number of those that were loaded. -/
theorem Records.size_eq {answers : Answers} {loaded : List Identifier} {cache : Cache}
    (records : Records answers loaded cache) : cache.size = loaded.dedup.length := by
  have isOrder : IsStrictTotalOrder Identifier (compare · · = .lt) :=
    isStrictTotalOrder_of_compare fun _ _ => Iff.rfl
  have enumerates : Enumerates (compare · · = .lt) cache.keys.toList (· ∈ cache.keys) :=
    AscendingSet.enumerates (fun _ _ => Iff.rfl) cache.keys
  have isKey_iff (document : Identifier) : document ∈ cache.keys ↔ document ∈ loaded := by
    rw [AscendingMap.mem_keys]
    by_cases isLoaded : document ∈ loaded
    · rcases records.cached document isLoaded with ⟨graph, _, isCached⟩
      simp [isLoaded, isCached]
    · simp [isLoaded, records.fresh document isLoaded]
  rw [← enumerates.length_eq isKey_iff]
  exact (List.length_map _).symm

namespace Reader

variable {σ : Type} {reader : Reader σ} {answers : Answers} {loaded : List Identifier}
  {cache : Cache} {state : σ}

/-- What a load does: it finds the document in the cache, or it asks the reader. -/
inductive Loads (reader : Reader σ) (answers : Answers) (loaded : List Identifier) (cache : Cache)
    (state : σ) (document : Identifier) (absence : Absence) :
    Except AccessError Graph × Cache × σ → Prop where
  | cached (graph : Graph) (isLoaded : document ∈ loaded)
      (description : answers.description document = .ok graph) :
      Loads reader answers loaded cache state document absence (.ok graph, cache, state)
  | read (graph : Graph) (isNew : document ∉ loaded)
      (settled : absence.settle document (answers.read document) = .ok graph) :
      Loads reader answers loaded cache state document absence
        (.ok graph, cache.insert document graph, (reader.read document state).2)
  | failed (error : AccessError) (isNew : document ∉ loaded)
      (settled : absence.settle document (answers.read document) = .error error) :
      Loads reader answers loaded cache state document absence
        (.error error, cache, (reader.read document state).2)

theorem loads (records : Records answers loaded cache) (steady : reader.Steady answers state)
    (document : Identifier) (absence : Absence) :
    reader.Loads answers loaded cache state document absence
      (reader.load document absence (cache, state)) := by
  by_cases isLoaded : document ∈ loaded
  · rcases records.cached document isLoaded with ⟨graph, description, isCached⟩
    rw [load_of_cached isCached]
    exact .cached graph isLoaded description
  · rw [load_of_fresh (records.fresh document isLoaded) steady]
    cases settled : absence.settle document (answers.read document) with
    | ok graph => exact .read graph isLoaded settled
    | error error => exact .failed error isLoaded settled

theorem Loads.records {past : List Loading} {document : Identifier} {absence : Absence}
    {result : Except AccessError Graph × Cache × σ}
    (loads : reader.Loads answers (loadedIn past) cache state document absence result)
    (records : Records answers (loadedIn past) cache) :
    Records answers (loadedIn (past ++ [⟨document, absence, result.1⟩])) result.2.1 := by
  rw [loadedIn, List.filterMap_append, ← loadedIn]
  cases loads with
  | cached graph isLoaded description =>
      refine records.congr fun other => ?_
      simp only [List.mem_append, List.filterMap_cons, Loading.loaded?, List.filterMap_nil,
        List.mem_singleton, or_iff_left_iff_imp]
      rintro rfl
      exact isLoaded
  | read graph isNew settled =>
      have isSettled : answers.settled (loadedIn past) absence document = .ok graph := by
        rw [Answers.settled, if_neg isNew, settled]
      exact records.insert (Answers.description_of_settled isSettled)
  | failed error isNew settled =>
      rw [show List.filterMap Loading.loaded? [⟨document, absence, .error error⟩] = [] from rfl,
        List.append_nil]
      exact records

theorem Loads.steady {document : Identifier} {absence : Absence}
    {result : Except AccessError Graph × Cache × σ}
    (loads : reader.Loads answers loaded cache state document absence result)
    (steady : reader.Steady answers state) : reader.Steady answers result.2.2 := by
  cases loads with
  | cached graph isLoaded description => exact steady
  | read graph isNew settled => exact (steady.read document).2
  | failed error isNew settled => exact (steady.read document).2

/-- The last load of a run is made where the run without it has led. -/
theorem loadAll_concat (calls : List (Identifier × Absence)) (document : Identifier)
    (absence : Absence) (start : Cache × σ) :
    reader.loadAll (calls ++ [(document, absence)]) start =
      ((reader.loadAll calls start).1 ++
          [⟨document, absence, (reader.load document absence (reader.loadAll calls start).2).1⟩],
        (reader.load document absence (reader.loadAll calls start).2).2) := by
  induction calls generalizing start with
  | nil => rfl
  | cons call later inductionHypothesis =>
      simp only [List.cons_append, loadAll, inductionHypothesis]
      rfl

/-- After a run the cache holds what was loaded in it, and the reader is as steady as before. -/
theorem records_loadAll {past : List Loading} (records : Records answers (loadedIn past) cache)
    (steady : reader.Steady answers state) (calls : List (Identifier × Absence)) :
    Records answers (loadedIn (past ++ (reader.loadAll calls (cache, state)).1))
        (reader.loadAll calls (cache, state)).2.1 ∧
      reader.Steady answers (reader.loadAll calls (cache, state)).2.2 := by
  induction calls generalizing past cache state with
  | nil =>
      rw [show (reader.loadAll [] (cache, state)).1 = [] from rfl, List.append_nil]
      exact ⟨records, steady⟩
  | cons call later inductionHypothesis =>
      have loads := reader.loads records steady call.1 call.2
      have onLater := inductionHypothesis (loads.records records) (loads.steady steady)
      rw [List.append_assoc] at onLater
      exact onLater

end Reader

/-- What one more load does to a cache and to a log of accesses, after a run in which the documents
of a list were loaded. -/
structure GoesOn (answers : Answers) (loaded : List Identifier) (document : Identifier)
    (absence : Absence) (outcome : Except AccessError Graph)
    (before after : Cache × List Access) : Prop where
  /-- What is loaded is what the reader says, where absence may count as emptiness. -/
  graph : ∀ graph, outcome = .ok graph →
    answers.read document = .ok graph ∨ answers.Vanished document ∧ graph = ∅
  /-- A load succeeds again, or because the reader has a graph, or because none has to be there. -/
  succeeds : (∃ graph, outcome = .ok graph) ↔
    document ∈ loaded ∨ (∃ graph, answers.read document = .ok graph) ∨
      absence = .empty ∧ answers.Vanished document
  /-- The reader is asked for the document until a load of it has succeeded. -/
  asks : after.2 = before.2 ++ if document ∈ loaded then [] else [.read document]
  /-- A load that fails has no effect on the cache. -/
  keeps : ∀ error, outcome = .error error → after.1 = before.1
  /-- A load fails with the error of the reader, about the document that was to be loaded. -/
  fails : ∀ error, outcome = .error error →
    (∃ identifier cause, answers.read document = .error (.malformed identifier cause) ∧
      error = .malformedDocument document cause) ∨
    ∃ cause, answers.read document = .error cause ∧
      (∀ identifier reason, cause ≠ .malformed identifier reason) ∧
      error = .backendFailure document cause

/-- The run of a list of loads on a cache that is empty at first, with the accesses it makes. -/
def Reader.runOf {σ : Type} (reader : Reader σ) (state : σ) (calls : List (Identifier × Absence)) :
    List Loading × Cache × List Access × σ :=
  reader.logged.loadAll calls (∅, [], state)

/-- Where a run of loads has led. -/
structure IsAccountedFor {σ : Type} (reader : Reader σ) (answers : Answers) (state : σ)
    (calls : List (Identifier × Absence)) : Prop where
  /-- The loads of the run are those of the list. -/
  made : (reader.runOf state calls).1.map (fun loading => (loading.document, loading.absence)) =
    calls
  /-- The cache holds as many documents as were loaded. -/
  size : (reader.runOf state calls).2.1.size = (loadedIn (reader.runOf state calls).1).dedup.length
  /-- A run with one more load is this run, and then that load. -/
  goesOn : ∀ document absence, ∃ outcome cache log later,
    reader.runOf state (calls ++ [(document, absence)]) =
        ((reader.runOf state calls).1 ++ [⟨document, absence, outcome⟩], cache, log, later) ∧
      GoesOn answers (loadedIn (reader.runOf state calls).1) document absence outcome
        ((reader.runOf state calls).2.1, (reader.runOf state calls).2.2.1) (cache, log)
  /-- A document that was missed because it is absent is still to be had as an empty one. -/
  retries : ∀ document error after, answers.Vanished document →
    reader.logged.load document .fail (reader.runOf state calls).2 = (.error error, after) →
      (reader.logged.load document .empty after).1 = .ok ∅

section Runs

variable {σ : Type} {reader : Reader σ} {answers : Answers} {loaded : List Identifier}
  {cache : Cache} {state : σ}

/-- What a load comes to is what the reader says, where absence may count as emptiness. -/
theorem Answers.of_settle {document : Identifier} {absence : Absence} {graph : Graph}
    (settled : absence.settle document (answers.read document) = .ok graph) :
    answers.read document = .ok graph ∨
      absence = .empty ∧ answers.Vanished document ∧ graph = ∅ := by
  rcases Absence.settle_eq_ok_iff.1 settled with read | ⟨isEmpty, rfl, vanished⟩
  · exact Or.inl read
  · exact Or.inr ⟨isEmpty, vanished, rfl⟩

theorem Reader.Loads.goesOn {log : List Access} {document : Identifier} {absence : Absence}
    {outcome : Except AccessError Graph} {after : Cache} {accesses : List Access} {later : σ}
    (loads : reader.logged.Loads answers loaded cache (log, state) document absence
      (outcome, after, accesses, later)) :
    GoesOn answers loaded document absence outcome (cache, log) (after, accesses) := by
  cases loads with
  | cached graph isLoaded description =>
      refine ⟨?_, iff_of_true ⟨graph, rfl⟩ (Or.inl isLoaded), ?_, nofun, nofun⟩
      · rintro _ ⟨⟩
        exact (Answers.of_settle description).imp_right And.right
      · rw [if_pos isLoaded, List.append_nil]
  | read graph isNew settled =>
      have said := Answers.of_settle settled
      refine ⟨?_, iff_of_true ⟨graph, rfl⟩ (Or.inr ?_), ?_, nofun, nofun⟩
      · rintro _ ⟨⟩
        exact said.imp_right And.right
      · exact said.imp (fun read => ⟨graph, read⟩) fun absent => ⟨absent.1, absent.2.1⟩
      · rw [if_neg isNew]
  | failed error isNew settled =>
      rcases Absence.settle_eq_error_iff.1 settled with ⟨cause, read, rfl, notFound⟩
      have noSuccess : ¬(document ∈ loaded ∨ (∃ graph, answers.read document = .ok graph) ∨
          absence = .empty ∧ answers.Vanished document) := by
        rintro (isLoaded | ⟨graph, readToo⟩ | ⟨isEmpty, other, readToo, isNotFound⟩)
        · exact isNew isLoaded
        · rw [read] at readToo
          cases readToo
        · rw [read] at readToo
          cases readToo
          rw [notFound isEmpty] at isNotFound
          cases isNotFound
      refine ⟨nofun, iff_of_false nofun noSuccess, ?_, fun _ _ => rfl, ?_⟩
      · rw [if_neg isNew]
      · rintro _ ⟨⟩
        rcases AccessError.ofRead_cases document cause with
          ⟨identifier, reason, rfl, errorEq⟩ | ⟨isOther, errorEq⟩
        · exact Or.inl ⟨identifier, reason, read, errorEq⟩
        · exact Or.inr ⟨cause, read, isOther, errorEq⟩

theorem map_loadAll (calls : List (Identifier × Absence)) (start : Cache × σ) :
    (reader.loadAll calls start).1.map (fun loading => (loading.document, loading.absence)) =
      calls := by
  induction calls generalizing start with
  | nil => rfl
  | cons call later inductionHypothesis => exact congrArg _ (inductionHypothesis _)

/-- Every run of loads on a cache that is empty at first is accounted for. -/
theorem loads_are_accounted_for (steady : reader.Steady answers state)
    (calls : List (Identifier × Absence)) : IsAccountedFor reader answers state calls := by
  have noRecords : Records answers (loadedIn []) ∅ := Records.nil
  have kept := Reader.records_loadAll noRecords (steady.logged []) calls
  rw [List.nil_append, ← Reader.runOf] at kept
  rcases kept with ⟨records, steadyLater⟩
  constructor
  case made => exact map_loadAll calls _
  case size => exact records.size_eq
  case goesOn =>
    intro document absence
    have loads := Reader.loads records steadyLater document absence
    exact ⟨_, _, _, _, Reader.loadAll_concat calls document absence _, loads.goesOn⟩
  case retries =>
    intro document error after absent failed
    have loads := Reader.loads records steadyLater document .fail
    rw [failed] at loads
    cases loads with
    | failed _ isNew settled =>
        rcases absent with ⟨cause, read, notFound⟩
        rw [Reader.load_of_fresh (records.fresh document isNew) (steadyLater.read document).2,
          Absence.settle_eq_ok_iff.2 (Or.inr ⟨rfl, rfl, cause, read, notFound⟩)]

end Runs

/-- One document says something, one is absent and all others fail. -/
def sparse : Answers where
  probe _ := .ok false
  read document :=
    if document = ⟨"said"⟩ then .ok (.ofList [⟨.iri "#it", .iri "#is", .iri "#it"⟩])
    else .error (if document = ⟨"absent"⟩ then .notFound document else .backend document "offline")

def attempts : List (Identifier × Absence) :=
  [(⟨"absent"⟩, .fail), (⟨"said"⟩, .fail), (⟨"failing"⟩, .empty), (⟨"absent"⟩, .empty),
    (⟨"absent"⟩, .fail), (⟨"failing"⟩, .empty), (⟨"said"⟩, .empty)]

theorem attempts_cache_two_documents :
    ((sparse.reader : Reader Unit).runOf () attempts).2.1.size = 2 ∧
      ((sparse.reader : Reader Unit).runOf () attempts).2.2.1 =
        [.read ⟨"absent"⟩, .read ⟨"said"⟩, .read ⟨"failing"⟩, .read ⟨"absent"⟩,
          .read ⟨"failing"⟩] := by
  constructor
  · rw [(loads_are_accounted_for (sparse.steady_reader ()) attempts).size]
    decide +kernel
  · decide +kernel

end LinkedAccess
