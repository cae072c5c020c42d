import LinkedAccess.Json.Number
import LinkedAccess.Json.Str

/-!
# JSON values

A value whose meaning depends on something that follows it is kept as it is. Lists and objects in it
may be nested only to a certain depth.
-/

namespace LinkedAccess.Json

/-- A value of any kind. -/
inductive Value where
  | null
  | boolean (value : Bool)
  | number (value : Number)
  | string (value : String)
  | list (items : List Value)
  | object (members : List (String × Value))

/-- A value in the place of another one. -/
def Value.found : Value → Found
  | null => .null
  | boolean value => .boolean value
  | number value => value.found
  | string value => .string value
  | list _ => .sequence
  | object _ => .map

namespace Reading

/-- Reads a key with its colon. -/
def key : Reading String := do
  skip 1
  stringBody

/-- Reads a scalar; none if a list or an object begins here. -/
def scalar? : Reading (Option Value) := do
  match ← peek with
  | some 'n' =>
    skip 1
    word "ull".toList
    return some .null
  | some 't' =>
    skip 1
    word "rue".toList
    return some (.boolean true)
  | some 'f' =>
    skip 1
    word "alse".toList
    return some (.boolean false)
  | some '"' =>
    skip 1
    return some (.string (← stringBody))
  | some '-' =>
    skip 1
    return some (.number (← number false))
  | some '[' => return none
  | some '\x7b' => return none
  | some next =>
    if next.isDigit then return some (.number (← number true)) else failNext .expectedValue
  | none => failNext .expectedValue

/-- How many lists and objects may lie inside each other. -/
def depthLimit : Nat := 127

mutual

/-- Reads a value in which lists and objects are nested to at most a given depth. -/
def valueIn (depth : Nat) : Reading Value := do
  match ← peekToken with
  | none => failNext .endInValue
  | some next =>
    match ← scalar? with
    | some value => return value
    | none =>
      match depth with
      | 0 => failNext .tooDeep
      | depth + 1 =>
        skip 1
        let count := (← get).rest.length + 1
        if next = '[' then
          return .list (← closedBy (itemsIn depth true count) endList)
        else
          return .object (← closedBy (membersIn depth true count) endObject)
termination_by (depth, 0)

/-- Reads the remaining items of a list, at most a given number of them. -/
def itemsIn (depth : Nat) (isFirst : Bool) (count : Nat) : Reading (List Value) := do
  match count with
  | 0 => return []
  | count + 1 =>
    if ← nextItem isFirst then
      let item ← valueIn depth
      let later ← itemsIn depth false count
      return item :: later
    else return []
termination_by (depth, count + 1)

/-- Reads the remaining members of an object, at most a given number of them. -/
def membersIn (depth : Nat) (isFirst : Bool) (count : Nat) :
    Reading (List (String × Value)) := do
  match count with
  | 0 => return []
  | count + 1 =>
    if ← nextMember isFirst then
      let name ← key
      colon
      let value ← valueIn depth
      let later ← membersIn depth false count
      return (name, value) :: later
    else return []
termination_by (depth, count + 1)

end

end Reading

end LinkedAccess.Json
