import LinkedAccess.Json.Skip
import LinkedAccess.Json.Value

/-!
# Reading values of given types

Readers for the kinds of values that data is made of. A record may be written as an object, where
unknown members are passed over, or as the list of its fields in order. A variant is written as its
name, or as an object with its name as the only key.
-/

namespace LinkedAccess.Json.Reading

variable {α β : Type}

/-- Refuses the value that begins here in place of the expected one. A scalar is read to show it. -/
def invalidType (expected : String) : Reading α := placed do
  match ← scalar? with
  | some value => fail (.invalidType value.found expected)
  | none =>
    let found := if (← peek) = some '[' then Found.sequence else Found.map
    fail (.invalidType found expected)

/-- Reads a string, or what a string is read as. -/
def stringAs (expected : String) (interpret : String → Except Fault α) : Reading α := placed do
  match ← peekToken with
  | none => failNext .endInValue
  | some '"' =>
    skip 1
    match interpret (← stringBody) with
    | .ok value => return value
    | .error fault => fail fault
  | some _ => invalidType expected

/-- Reads a string. -/
def string : Reading String := stringAs "a string" .ok

/-- Reads a Boolean. -/
def boolean : Reading Bool := placed do
  match ← peekToken with
  | none => failNext .endInValue
  | some 't' =>
    skip 1
    word "rue".toList
    return true
  | some 'f' =>
    skip 1
    word "alse".toList
    return false
  | some _ => invalidType "a boolean"

/-- Reads the value that stands for nothing. -/
def unit : Reading Unit := placed do
  match ← peekToken with
  | none => failNext .endInValue
  | some 'n' =>
    skip 1
    word "ull".toList
  | some _ => invalidType "unit"

/-- Reads a value that may be null. -/
def nullable (reading : Reading α) : Reading (Option α) := do
  if (← peekToken) = some 'n' then
    skip 1
    word "ull".toList
    return none
  else return some (← reading)

/-- Reads the remaining items of a list, at most a given number of them. -/
def items (item : Reading α) (isFirst : Bool) : Nat → Reading (List α)
  | 0 => return []
  | count + 1 => do
    if ← nextItem isFirst then
      let head ← item
      let later ← items item false count
      return head :: later
    else return []

/-- Reads a list. -/
def list (item : Reading α) : Reading (List α) := placed do
  match ← peekToken with
  | none => failNext .endInValue
  | some '[' =>
    skip 1
    closedBy (do items item true ((← get).rest.length + 1)) endList
  | some _ => invalidType "a sequence"

/-- Reads the remaining members of an object, at most a given number of them. -/
def members (name : Reading α) (value : Reading β) (isFirst : Bool) :
    Nat → Reading (List (α × β))
  | 0 => return []
  | count + 1 => do
    if ← nextMember isFirst then
      let name' ← name
      colon
      let value' ← value
      let later ← members name value false count
      return (name', value') :: later
    else return []

/-- Reads an object whose members all have values of one type. -/
def table (name : Reading α) (value : Reading β) : Reading (List (α × β)) := placed do
  match ← peekToken with
  | none => failNext .endInValue
  | some '\x7b' =>
    skip 1
    closedBy (do members name value true ((← get).rest.length + 1)) endObject
  | some _ => invalidType "a map"

end Reading

/-- A field of a record that is being read into an unfinished state. -/
structure Field (σ : Type) where
  name : String
  /-- Whether the state has a value for the field. -/
  isSet : σ → Bool
  /-- Reads a value for the field into the state. -/
  read : σ → Reading σ

/-- A record: its fields, and what becomes of the values read for them. -/
structure Record (σ α : Type) where
  name : String
  fields : List (Field σ)
  /-- The state without any value. -/
  empty : σ
  /-- The value of a state, or the fault that it lacks a field. -/
  finish : σ → Except Fault α

/-- The value of a field that must not be missing. -/
def required {α : Type} (name : String) : Option α → Except Fault α
  | some value => .ok value
  | none => .error (.missingField name)

namespace Record

variable {σ α : Type}

/-- What is expected in the place of a record with too few values. -/
def lengthExpected (record : Record σ α) : String :=
  "struct " ++ record.name ++ " with " ++ toString record.fields.length ++
    if record.fields.length = 1 then " element" else " elements"

/-- Reads the fields as the items of a list. All have to be there. -/
def readItems (record : Record σ α) (state : σ) (index : Nat) : List (Field σ) → Reading σ
  | [] => return state
  | field :: later => do
    if ← Reading.nextItem (index = 0) then
      readItems record (← field.read state) (index + 1) later
    else Reading.fail (.invalidLength index record.lengthExpected)

/-- Reads the fields as the members of an object, at most a given number of them. -/
def readMembers (record : Record σ α) (state : σ) (isFirst : Bool) : Nat → Reading σ
  | 0 => return state
  | count + 1 => do
    if ← Reading.nextMember isFirst then
      let name ← Reading.key
      match record.fields.find? (·.name = name) with
      | none =>
        Reading.colon
        Reading.skipValue
        readMembers record state false count
      | some field =>
        if field.isSet state then Reading.fail (.duplicateField name)
        else
          Reading.colon
          let state ← field.read state
          readMembers record state false count
    else return state

/-- The value of a state. -/
def complete (record : Record σ α) (state : σ) : Reading α :=
  match record.finish state with
  | .ok value => return value
  | .error fault => Reading.fail fault

/-- Reads a record. -/
def read (record : Record σ α) : Reading α := Reading.placed do
  match ← Reading.peekToken with
  | none => Reading.failNext .endInValue
  | some '[' =>
    Reading.skip 1
    Reading.closedBy
      (do record.complete (← record.readItems record.empty 0 record.fields)) Reading.endList
  | some '\x7b' =>
    Reading.skip 1
    Reading.closedBy
      (do
        let count := (← get).rest.length + 1
        record.complete (← record.readMembers record.empty true count))
      Reading.endObject
  | some _ => Reading.invalidType ("struct " ++ record.name)

end Record

namespace Reading

variable {α : Type}

/-- The meaning of a name among those of a list of variants. -/
def choose (variants : List (String × α)) (name : String) : Except Fault α :=
  match variants.lookup name with
  | some meaning => .ok meaning
  | none => .error (.unknownVariant name (variants.map (·.1)))

/-- Reads the name of a variant. -/
def variantName (variants : List (String × α)) : Reading α :=
  stringAs "variant identifier" (choose variants)

/-- Reads a variant. A variant is its name, where that says all (`alone`), or an object from its
name to its value. -/
def variantWith (variants : List (String × α)) {β : Type} (alone : α → Reading β)
    (withValue : α → Reading β) : Reading β := do
  match ← peekToken with
  | none => failNext .endInValue
  | some '"' => do alone (← variantName variants)
  | some '\x7b' =>
    skip 1
    match ← peekToken with
    | none => failNext .endInObject
    | some '\x7d' => failNext .expectedValue
    | some '"' =>
      let variant ← variantName variants
      colon
      let value ← withValue variant
      match ← peekToken with
      | none => failHere .endInObject
      | some '\x7d' =>
        skip 1
        return value
      | some _ => failHere .expectedValue
    | some _ => failNext .keyNotString
  | some _ => failNext .expectedValue

/-- Reads one of several names. -/
def choice (variants : List (String × α)) : Reading α :=
  variantWith variants pure fun variant => do
    unit
    return variant

/-- Reads one of several variants that all have a value. -/
def variant (variants : List (String × Reading α)) : Reading α :=
  variantWith variants (fun _ => fail (.invalidType .bareVariant "newtype variant")) id

end Reading

end LinkedAccess.Json
