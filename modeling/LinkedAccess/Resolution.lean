import LinkedAccess.AccessError
import LinkedAccess.Credentials
import LinkedAccess.Storage.Reader

/-!
# Resolution

Finding permissions asks a reader for documents and may fail on the way. Whatever it has changed by
then, in the reader or in a record of its own, stays changed: the error does not undo the state.
-/

namespace LinkedAccess

/-- A computation that changes a state and may end in an error. -/
abbrev Resolution (σ : Type) := ExceptT AccessError (StateM σ)

/-- What finds the permissions of a request on its targets. -/
abbrev Resolver (σ : Type) := Credentials → AccessMap → Resolution σ PermissionMap

/-- The graphs of the documents that were read so far. -/
abbrev Cache := AscendingMap Identifier Graph

/-- What the absence of a document means to whoever asks for it. -/
inductive Absence where
  /-- The document counts as one without any statement. -/
  | empty
  /-- The document has to be there. -/
  | fail
deriving DecidableEq

/-- What the answer of a reader means, given what absence means. -/
def Absence.settle (absence : Absence) (document : Identifier) :
    Except StorageError Graph → Except AccessError Graph
  | .ok graph => .ok graph
  | .error error =>
    if absence = .empty && error.isNotFound then .ok ∅ else .error (.ofRead document error)

namespace Resolution

variable {σ α : Type}

/-- A computation on a cache of its own, which is empty at first and forgotten at the end. -/
def withCache (resolution : Resolution (Cache × σ) α) : Resolution σ α := fun state =>
  let (outcome, _, state) := resolution (∅, state)
  (outcome, state)

end Resolution

namespace Reader

variable {σ : Type}

/--
The graph of a document, from the cache if it is there. What is read is kept in the cache, also the
empty graph that an absent document stands for; a failed read leaves the cache as it was.
-/
def load (reader : Reader σ) (document : Identifier) (absence : Absence) :
    Resolution (Cache × σ) Graph := fun (cache, state) =>
  match cache.get? document with
  | some graph => (.ok graph, cache, state)
  | none =>
    let (answer, state) := reader.read document state
    match absence.settle document answer with
    | .ok graph => (.ok graph, cache.insert document graph, state)
    | .error error => (.error error, cache, state)

/-- Whether there is a document. To be told that it is not found is an answer, and no error. -/
def isPresent (reader : Reader σ) (document : Identifier) : Resolution σ Bool := fun state =>
  match reader.probe document state with
  | (.ok found, state) => (.ok found, state)
  | (.error error, state) =>
    if error.isNotFound then (.ok false, state) else (.error (.ofRead document error), state)

end Reader

end LinkedAccess
