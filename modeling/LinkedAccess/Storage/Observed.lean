import LinkedAccess.Storage.Reader

/-!
# Observed readers

Two observers of a reader: one counts its accesses, the other writes them down in order. An observer
puts its own record in front of the state of the reader and leaves the answers as they are.
-/

namespace LinkedAccess

/-- One question to a reader. -/
inductive Access where
  | probe (identifier : Identifier)
  | read (identifier : Identifier)
deriving DecidableEq

/-- How often a reader was asked. -/
structure Meter where
  probes : Nat := 0
  reads : Nat := 0
  /-- The reads of each identifier that was read. -/
  readsBy : AscendingMap Identifier Nat := ∅

/-- How often one identifier was read. -/
def Meter.readsOf (meter : Meter) (identifier : Identifier) : Nat :=
  (meter.readsBy.get? identifier).getD 0

namespace Reader

variable {σ : Type}

/-- A reader whose accesses are counted. -/
def measured (reader : Reader σ) : Reader (Meter × σ) where
  probe identifier := fun (meter, state) =>
    let (answer, state) := reader.probe identifier state
    (answer, { meter with probes := meter.probes + 1 }, state)
  read identifier := fun (meter, state) =>
    let (answer, state) := reader.read identifier state
    let readsBy := meter.readsBy.insert identifier (meter.readsOf identifier + 1)
    (answer, { meter with reads := meter.reads + 1, readsBy }, state)

/-- A reader whose accesses are written down, the latest last. -/
def logged (reader : Reader σ) : Reader (List Access × σ) where
  probe identifier := fun (accesses, state) =>
    let (answer, state) := reader.probe identifier state
    (answer, accesses ++ [.probe identifier], state)
  read identifier := fun (accesses, state) =>
    let (answer, state) := reader.read identifier state
    (answer, accesses ++ [.read identifier], state)

end Reader

end LinkedAccess
