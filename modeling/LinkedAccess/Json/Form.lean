import LinkedAccess.Json.Render
import LinkedAccess.Json.Typed

/-!
# Forms

A form says how the values of a type are written as JSON and how they are read. Reading may accept
more than writing makes: the fields of a record in another order, records given as lists, members
that have no meaning.
-/

namespace LinkedAccess.Json

/-- How values of a type are read from a text and made into JSON values. -/
structure Form (α : Type) where
  read : Reading α
  write : α → Value

namespace Form

variable {α β : Type}

/-- Reads a text that is nothing but a value. -/
def parse (form : Form α) (text : String) : Except Error α := form.read.run text

/-- The text of a value. -/
def render (form : Form α) (value : α) : String := (form.write value).render

/-- The form of a type whose values correspond to those of another one. -/
def along (form : Form α) (into : α → β) (outOf : β → α) : Form β :=
  ⟨into <$> form.read, fun value => form.write (outOf value)⟩

/-- Texts. -/
def text : Form String := ⟨.string, .string⟩

/-- Truth values. -/
def boolean : Form Bool := ⟨.boolean, .boolean⟩

/-- Values that may be absent. -/
def nullable (form : Form α) : Form (Option α) where
  read := form.read.nullable
  write
    | none => .null
    | some value => form.write value

/-- Lists. -/
def list (form : Form α) : Form (List α) :=
  ⟨form.read.list, fun values => .list (values.map form.write)⟩

/-- Names that stand for the values of a type. -/
def choice (all : List α) (name : α → String) : Form α :=
  ⟨.choice (all.map fun value => (name value, value)), fun value => .string (name value)⟩

/-- Lists of values by their names. -/
def table (key : Reading α) (name : α → String) (form : Form β) : Form (List (α × β)) where
  read := Reading.table key form.read
  write entries := .object (entries.map fun entry => (name entry.1, form.write entry.2))

end Form

/-- A field whose value is kept at some place of an unfinished state. -/
def Field.stored {σ α : Type} (name : String) (reading : Reading α) (get : σ → Option α)
    (set : σ → α → σ) : Field σ where
  name
  isSet state := (get state).isSome
  read state := set state <$> reading

/-- A record with a single field. -/
def Form.wrapped {α : Type} (name field : String) (form : Form α) : Form α where
  read :=
    Record.read
      { name
        fields := [.stored field form.read id fun _ value => some value]
        empty := none
        finish := required field }
  write value := .object [(field, form.write value)]

end LinkedAccess.Json
