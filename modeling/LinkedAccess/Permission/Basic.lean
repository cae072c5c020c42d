import LinkedAccess.Ascending.Map
import LinkedAccess.Identifier
import LinkedAccess.Permission.Mode

/-!
# Permissions

A permission is one flag for each mode. Granting a mode to a permission also grants what the mode
includes, whereas the flags as such are independent: a permission that was not built by granting may
hold `write` without `append`, and nothing here corrects it.

Permissions are found for two groups of requesters, everyone and the asserted agent. A group that
was not looked at holds no permission at all, which differs from one that grants nothing.
-/

namespace LinkedAccess

/-- Which modes are granted. -/
structure Permission where
  read : Bool := false
  append : Bool := false
  write : Bool := false
  control : Bool := false
deriving DecidableEq

namespace Permission

/-- The permission that grants nothing. -/
def none : Permission := {}

/-- The permission that grants every mode. -/
def all : Permission := ⟨true, true, true, true⟩

/-- Whether a mode is granted. -/
def allows (permission : Permission) : Mode → Bool
  | .read => permission.read
  | .append => permission.append
  | .write => permission.write
  | .control => permission.control

/-- Adds a mode with everything it includes: writing includes appending. -/
def grant (permission : Permission) : Mode → Permission
  | .read => { permission with read := true }
  | .append => { permission with append := true }
  | .write => { permission with write := true, append := true }
  | .control => { permission with control := true }

/-- The permission that grants the modes of a list. -/
def ofModes (modes : List Mode) : Permission := modes.foldl grant none

/-- Whether no mode is granted. -/
def isEmpty (permission : Permission) : Bool := permission = none

/-- The modes that either permission grants. -/
def union (first second : Permission) : Permission where
  read := first.read || second.read
  append := first.append || second.append
  write := first.write || second.write
  control := first.control || second.control

/-- The granted modes. -/
def modes (permission : Permission) : Modes := .ofList (Mode.all.filter permission.allows)

/-- The permission on an access control document, given the one on the resource it protects: all
for those who control the resource, and nothing for all others. -/
def onDocument (permission : Permission) : Permission := if permission.control then all else none

/-- Permissions that allow the same modes are equal. -/
theorem eq_of_allows_eq {first second : Permission}
    (same : ∀ mode, first.allows mode = second.allows mode) : first = second := by
  have sameRead := same .read
  have sameAppend := same .append
  have sameWrite := same .write
  have sameControl := same .control
  cases first
  cases second
  simp_all [allows]

@[simp]
theorem allows_none (mode : Mode) : none.allows mode = false := by cases mode <;> rfl

@[simp]
theorem allows_all (mode : Mode) : all.allows mode = true := by cases mode <;> rfl

theorem allows_onDocument (permission : Permission) (mode : Mode) :
    permission.onDocument.allows mode = permission.allows .control := by
  have controlEq : permission.allows .control = permission.control := rfl
  rw [onDocument, controlEq]
  cases permission.control with
  | false => simp
  | true => simp

@[simp]
theorem allows_union (first second : Permission) (mode : Mode) :
    (first.union second).allows mode = (first.allows mode || second.allows mode) := by
  cases mode <;> rfl

theorem allows_grant (permission : Permission) (granted mode : Mode) :
    (permission.grant granted).allows mode = true ↔
      mode = granted ∨ (granted = .write ∧ mode = .append) ∨ permission.allows mode = true := by
  cases granted <;> cases mode <;> simp [grant, allows]

theorem allows_foldl_grant {modes : List Mode} {permission : Permission} {mode : Mode} :
    (modes.foldl grant permission).allows mode = true ↔
      mode ∈ modes ∨ (mode = .append ∧ .write ∈ modes) ∨ permission.allows mode = true := by
  induction modes generalizing permission with
  | nil => simp
  | cons head tail inductionHypothesis =>
    simp only [List.foldl_cons, inductionHypothesis, allows_grant, List.mem_cons]
    grind

/-- Granting the modes of a list allows these modes, and appending if writing is among them. -/
theorem allows_ofModes {modes : List Mode} {mode : Mode} :
    (ofModes modes).allows mode = true ↔ mode ∈ modes ∨ (mode = .append ∧ .write ∈ modes) := by
  simp [ofModes, allows_foldl_grant]

end Permission

/-- The requesters for whom permissions are found. -/
inductive Group where
  /-- Everyone, whatever is asserted about who they are. -/
  | everyone
  /-- The asserted agent. -/
  | agent
deriving DecidableEq

namespace Group

/-- Every group, in order. -/
def all : List Group := [everyone, agent]

/-- The name of a group in configurations and listings. -/
def name : Group → String
  | everyone => "public"
  | agent => "agent"

end Group

/-- The permissions of the groups that were looked at. -/
@[ext]
structure PermissionSet where
  everyone : Option Permission := none
  agent : Option Permission := none
deriving DecidableEq

namespace PermissionSet

/-- The set in which both groups hold the same permission. -/
def uniform (permission : Permission) : PermissionSet := ⟨some permission, some permission⟩

/-- The permission of a group. -/
def get? (permissions : PermissionSet) : Group → Option Permission
  | .everyone => permissions.everyone
  | .agent => permissions.agent

/-- The set with another permission for one group. -/
def set (permissions : PermissionSet) (group : Group) (permission : Permission) : PermissionSet :=
  match group with
  | .everyone => { permissions with everyone := some permission }
  | .agent => { permissions with agent := some permission }

/-- The groups that hold a permission, with it. -/
def toList (permissions : PermissionSet) : List (Group × Permission) :=
  Group.all.filterMap fun group => (permissions.get? group).map (group, ·)

/-- What a request may do: the modes that some group holds. -/
def effective (permissions : PermissionSet) : Permission :=
  permissions.toList.foldl (fun found entry => found.union entry.2) .none

/-- Whether some group holds a mode. -/
def allows (permissions : PermissionSet) (mode : Mode) : Bool := permissions.effective.allows mode

/-- The set with every permission changed by a function. -/
def map (function : Permission → Permission) (permissions : PermissionSet) : PermissionSet :=
  ⟨permissions.everyone.map function, permissions.agent.map function⟩

@[simp]
theorem get?_uniform (permission : Permission) (group : Group) :
    (uniform permission).get? group = some permission := by
  cases group with
  | everyone => rfl
  | agent => rfl

@[simp]
theorem get?_map (function : Permission → Permission) (permissions : PermissionSet)
    (group : Group) :
    (permissions.map function).get? group = (permissions.get? group).map function := by
  cases group with
  | everyone => rfl
  | agent => rfl

theorem eq_of_get?_eq {first second : PermissionSet}
    (same : ∀ group, first.get? group = second.get? group) : first = second :=
  PermissionSet.ext (same .everyone) (same .agent)

/-- The union of the permissions of one group; a group that holds none adds nothing. -/
def mergeOne : Option Permission → Option Permission → Option Permission
  | first, none => first
  | first, some second => some ((first.getD .none).union second)

/-- The union of two sets, group by group. -/
def merge (first second : PermissionSet) : PermissionSet :=
  ⟨mergeOne first.everyone second.everyone, mergeOne first.agent second.agent⟩

end PermissionSet

/-- The modes that a request needs on each of its targets. -/
abbrev AccessMap := AscendingMap Identifier Modes

/-- The permissions that were found for each target. -/
abbrev PermissionMap := AscendingMap Identifier PermissionSet

end LinkedAccess
