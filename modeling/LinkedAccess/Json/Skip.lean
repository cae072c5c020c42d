import LinkedAccess.Json.Number
import LinkedAccess.Json.Str

/-!
# Passing over JSON values

A value that nobody asked for is passed over. It has to be well formed, but its numbers may be of
any size and its lists and objects of any depth.
-/

namespace LinkedAccess.Json.Reading

/-- Whether items or members are passed over. -/
inductive Nest where
  | list
  | object
deriving DecidableEq

/-- The character that ends a nest. -/
def Nest.closing : Nest → Char
  | list => ']'
  | object => '\x7d'

/-- The fault of a text that ends inside a nest. -/
def Nest.ended : Nest → Fault
  | list => .endInList
  | object => .endInObject

/-- The fault of a nest in which something else than a comma follows. -/
def Nest.unseparated : Nest → Fault
  | list => .expectedListEnd
  | object => .expectedObjectEnd

/-- Passes over the key of a member with its colon. -/
def skipKey : Reading Unit := do
  match ← peekToken with
  | some '"' =>
    skip 1
    skipString
    colon
  | some _ => failNext .keyNotString
  | none => failNext .endInObject

mutual

/-- Passes over a value in at most a number of steps. -/
def skipValueIn : Nat → Reading Unit
  | 0 => failNext .endInValue
  | steps + 1 => do
    match ← peekToken with
    | none => failNext .endInValue
    | some 'n' =>
      skip 1
      word "ull".toList
    | some 't' =>
      skip 1
      word "rue".toList
    | some 'f' =>
      skip 1
      word "alse".toList
    | some '-' =>
      skip 1
      skipNumber
    | some '"' =>
      skip 1
      skipString
    | some '[' =>
      skip 1
      skipNestIn .list true steps
    | some '\x7b' =>
      skip 1
      skipNestIn .object true steps
    | some next => if next.isDigit then skipNumber else failNext .expectedValue

/-- Passes over what remains of a nest in at most a number of steps. -/
def skipNestIn (nest : Nest) (isFirst : Bool) : Nat → Reading Unit
  | 0 => failNext nest.ended
  | steps + 1 => do
    match ← peekToken with
    | none => failNext nest.ended
    | some next =>
      if next = nest.closing then skip 1
      else if !isFirst && next ≠ ',' then failNext nest.unseparated
      else
        if !isFirst then skip 1
        if nest = .object then skipKey
        skipValueIn steps
        skipNestIn nest false steps

end

/-- Passes over a value. Each step takes a character, or ends what a step before began. -/
def skipValue : Reading Unit := do skipValueIn (2 * (← get).rest.length + 1)

end LinkedAccess.Json.Reading
