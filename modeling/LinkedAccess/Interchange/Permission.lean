import LinkedAccess.Json.Form
import LinkedAccess.Permission.Basic

/-!
# Permissions as JSON

Modes and groups are written by their names, permissions as records of four flags. Of two entries
for one key the later one counts.
-/

namespace LinkedAccess

open Json

/-- Identifiers, written as their paths. -/
def Identifier.form : Form Identifier := Form.text.along .mk (·.path)

/-- Modes. -/
def Mode.form : Form Mode := .choice Mode.all Mode.name

/-- Sets of modes, in order. -/
def Modes.form : Form Modes := Mode.form.list.along .ofList (·.toList)

/-- Groups. -/
def Group.form : Form Group := .choice Group.all Group.name

/-- Permissions; every flag has to be given. -/
def Permission.form : Form Permission where
  read :=
    let flag (flags : Mode → Option Bool) (mode : Mode) := required mode.name (flags mode)
    Record.read
      { name := "Permission"
        fields := Mode.all.map fun mode =>
          .stored mode.name Form.boolean.read (· mode) fun flags value other =>
            if other = mode then some value else flags other
        empty := fun _ => Option.none
        finish := fun flags => do
          return ⟨← flag flags .read, ← flag flags .append, ← flag flags .write,
            ← flag flags .control⟩ }
  write permission :=
    .object (Mode.all.map fun mode => (mode.name, .boolean (permission.allows mode)))

/-- Permissions of groups. -/
def PermissionSet.form : Form PermissionSet :=
  Form.wrapped "PermissionSet" "groups"
    ((Form.table Group.form.read Group.name Permission.form).along
      (fun entries => entries.foldl (fun found entry => found.set entry.1 entry.2) {})
      PermissionSet.toList)

/-- The modes that a request needs, by the identifiers of the targets. -/
def AccessMap.form : Form AccessMap :=
  (Form.table (Identifier.mk <$> Reading.key) Identifier.path Modes.form).along .ofList (·.toList)

end LinkedAccess
