import LinkedAccess.Ascending.Map
import LinkedAccess.Storage.Error

/-!
# Readers

A reader answers two questions about an identifier: whether there is a document, and what it says.
The answers may depend on a state that every question may change, so a reader can stand for storage
that is written to while it is read, for storage that fails, and for an observer of other storage.
-/

namespace LinkedAccess

/-- Access to documents. -/
structure Reader (σ : Type) where
  /-- Whether there is a document. -/
  probe : Identifier → StateM σ (Except StorageError Bool)
  /-- The graph of a document. -/
  read : Identifier → StateM σ (Except StorageError Graph)

/-- Documents kept as texts. -/
abbrev Store := AscendingMap Identifier String

namespace Store

/-- A document is there when it has been stored, whatever it says. -/
def probe (store : Store) (identifier : Identifier) : Bool := (store.get? identifier).isSome

/-- A document is read at every access, so that its text may be changed at any time. -/
def read (store : Store) (identifier : Identifier) : Except StorageError Graph :=
  match store.get? identifier with
  | none => .error (.notFound identifier)
  | some document =>
    match Graph.parse document with
    | .ok graph => .ok graph
    | .error cause => .error (.malformed identifier cause)

/-- The reader of a store. -/
def reader {σ : Type} (store : Store) : Reader σ where
  probe identifier := pure (.ok (store.probe identifier))
  read identifier := pure (store.read identifier)

end Store

namespace Reader

variable {σ : Type}

/-- The error of an access that is made to fail. -/
def injectedFailure (identifier : Identifier) : StorageError :=
  .backend identifier "injected failure"

/-- A reader for which every access to some identifiers fails. -/
def failing (reader : Reader σ) (identifiers : AscendingSet Identifier) : Reader σ where
  probe identifier :=
    if identifier ∈ identifiers then pure (.error (injectedFailure identifier))
    else reader.probe identifier
  read identifier :=
    if identifier ∈ identifiers then pure (.error (injectedFailure identifier))
    else reader.read identifier

end Reader

end LinkedAccess
