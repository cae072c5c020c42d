import LinkedAccess.Configuration
import LinkedAccess.Json.Form

/-!
# Configurations as JSON

A configuration names its algorithm, and the algorithm decides which setting is meant. So all
members are read and kept before any of them is interpreted, and an error in a setting has no place.
A configuration may also be a list, the algorithm first and then its setting.
-/

namespace LinkedAccess

open Json

namespace Configuration

/-- The algorithms that find permissions. -/
inductive Algorithm where
  | acl
  | acp
  | static

/-- The name of an algorithm. -/
def Algorithm.name : Algorithm → String
  | acl => "acl"
  | acp => "acp"
  | static => "static"

/-- Reads the name of an algorithm. -/
def readAlgorithm : Reading Algorithm :=
  .variantName ([Algorithm.acl, .acp, .static].map fun algorithm => (algorithm.name, algorithm))

/-- The name of the member that names the algorithm. -/
def algorithmName : String := "algorithm"

/-- What a configuration holds besides the name of its algorithm. -/
inductive Settings where
  | named (members : List (String × Value))
  | listed (items : List Value)

namespace Settings

variable {α : Type}

/-- A setting that is a text. -/
def text : Value → Except Fault String
  | .string value => .ok value
  | other => .error (.invalidType other.found "a string")

/-- A setting that is a truth value. -/
def flag : Value → Except Fault Bool
  | .boolean value => .ok value
  | other => .error (.invalidType other.found "a boolean")

/-- The setting with a name; it must not occur twice. -/
def member? (name : String) (interpret : Value → Except Fault α) (found : Option α) :
    List (String × Value) → Except Fault (Option α)
  | [] => .ok found
  | (other, value) :: later =>
    if other ≠ name then member? name interpret found later
    else if found.isSome then .error (.duplicateField name)
    else do member? name interpret (some (← interpret value)) later

/-- The setting in a list; nothing may follow it. -/
def item? (interpret : Value → Except Fault α) : List Value → Except Fault (Option α)
  | [] => .ok none
  | first :: later => do
    let setting ← interpret first
    if later.isEmpty then return some setting
    else .error (.invalidLength (later.length + 1) "1 element in sequence")

/-- The only setting of an algorithm, if it is there. -/
def only? (settings : Settings) (name : String) (interpret : Value → Except Fault α) :
    Except Fault (Option α) :=
  match settings with
  | named members => member? name interpret none members
  | listed items => item? interpret items

/-- The fault that the truth value of a static configuration is not there. -/
def flagMissing : Settings → Fault
  | named _ => .missingField "allow"
  | listed _ => .invalidLength 0 "struct variant AuthorizationConfig::Static with 1 element"

end Settings

/-- The configuration of an algorithm with its settings. -/
def ofSettings (algorithm : Algorithm) (settings : Settings) : Except Fault Configuration :=
  match algorithm with
  | .acl => do return .acl ((← settings.only? "suffix" Settings.text).getD aclSuffix)
  | .acp => do return .acp ((← settings.only? "suffix" Settings.text).getD acpSuffix)
  | .static => do
    match ← settings.only? "allow" Settings.flag with
    | some allow => return .static allow
    | none => .error settings.flagMissing

/-- The depth that the settings may have: the configuration around them takes one level. -/
def settingDepth : Nat := Reading.depthLimit - 1

/-- Reads the remaining members of a configuration, at most a given number of them. -/
def readMembers (algorithm : Option Algorithm) (isFirst : Bool) :
    Nat → Reading (Option Algorithm × List (String × Value))
  | 0 => return (algorithm, [])
  | count + 1 => do
    if ← Reading.nextMember isFirst then
      let name ← Reading.key
      if name = algorithmName then
        if algorithm.isSome then Reading.fail (.duplicateField name)
        else
          Reading.colon
          readMembers (some (← readAlgorithm)) false count
      else
        Reading.colon
        let value ← Reading.valueIn settingDepth
        let (algorithm, later) ← readMembers algorithm false count
        return (algorithm, (name, value) :: later)
    else return (algorithm, [])

/-- Reads a configuration that is an object. -/
def readNamed : Reading (Algorithm × Settings) := do
  match ← readMembers none true ((← get).rest.length + 1) with
  | (some algorithm, members) => return (algorithm, .named members)
  | (none, _) => Reading.fail (.missingField algorithmName)

/-- Reads a configuration that is a list. -/
def readListed : Reading (Algorithm × Settings) := do
  if ← Reading.nextItem true then
    let algorithm ← readAlgorithm
    let items ← Reading.itemsIn settingDepth false ((← get).rest.length + 1)
    return (algorithm, .listed items)
  else Reading.fail (.missingField algorithmName)

/-- Reads an algorithm with its settings. -/
def readSettings : Reading (Algorithm × Settings) := Reading.placed do
  match ← Reading.peekToken with
  | none => Reading.failNext .endInValue
  | some '[' =>
    Reading.skip 1
    Reading.closedBy readListed Reading.endList
  | some '\x7b' =>
    Reading.skip 1
    Reading.closedBy readNamed Reading.endObject
  | some _ => Reading.invalidType "internally tagged enum AuthorizationConfig"

/-- Reads a configuration. -/
def read : Reading Configuration := do
  let (algorithm, settings) ← readSettings
  match ofSettings algorithm settings with
  | .ok configuration => return configuration
  | .error fault => Reading.fail fault

/-- A configuration as a value. -/
def write : Configuration → Value
  | acl suffix =>
    .object [(algorithmName, .string Algorithm.acl.name), ("suffix", .string suffix)]
  | acp suffix =>
    .object [(algorithmName, .string Algorithm.acp.name), ("suffix", .string suffix)]
  | static allow =>
    .object [(algorithmName, .string Algorithm.static.name), ("allow", .boolean allow)]

/-- Configurations. -/
def form : Form Configuration := ⟨read, write⟩

/-- The configuration that a text describes. -/
def parse (text : String) : Except AccessError Configuration :=
  (form.parse text).mapError fun error => .configuration error.message

end Configuration

end LinkedAccess
