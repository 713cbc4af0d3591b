import WikiGateway.Toml.Value

/-!
# Reading settings from a document

Every section of the settings may be left out, as may every entry of a section, and unknown entries are ignored. A
section is written as a table, or as an array of its entries in their fixed order. What is there must be of the right
kind.

* `Section.read`: an entry of a section, or its default.
* `text?`, `flag?`, `count?`, `listOf?`, `tableOf?`: values of the kinds that settings have.
-/

namespace WikiGateway.Config

/-- The entries of a section. -/
inductive Section
  /-- By name. -/
  | named (entries : Toml.Entries)
  /-- By position. -/
  | listed (items : List Toml)

/-- The name under which a moment holds its text, where a table is asked for. -/
def momentKey : String := "$__toml_private_datetime"

/-- The entries of a value that is taken for a table. -/
def tableEntries? : Toml → Option Toml.Entries
  | .table _ entries => some entries
  | .moment text => some [(momentKey, .string text)]
  | _ => none

/-- The items of a value that is taken for an array. -/
def arrayItems? : Toml → Option (List Toml)
  | .array items => some items
  | .tables items => some (items.map (.table .header))
  | _ => none

/-- The entries of a value that is taken for a section. -/
def section? (v : Toml) : Option Section := (tableEntries? v).map .named <|> (arrayItems? v).map .listed

namespace Section

/-- An entry by its position or its name. -/
def get? (position : Nat) (name : String) : Section → Option Toml
  | named entries => Toml.lookup? name entries
  | listed items => items[position]?

/-- An entry that must be there. -/
def need {α : Type} (s : Section) (position : Nat) (name : String) (decode : Toml → Option α) : Option α :=
  (s.get? position name).bind decode

/-- An entry, or its default if it is not there. -/
def read {α : Type} (s : Section) (position : Nat) (name : String) (decode : Toml → Option α) (default : α) :
    Option α :=
  match s.get? position name with
  | none => some default
  | some v => decode v

end Section

/-! ## Kinds of values -/

/-- A text. -/
def text? : Toml → Option String
  | .string text => some text
  | _ => none

/-- A truth value. -/
def flag? : Toml → Option Bool
  | .boolean b => some b
  | _ => none

/-- A natural number. -/
def count? : Toml → Option Nat
  | .integer n => if 0 ≤ n then some n.toNat else none
  | _ => none

/-- A value of a setting that has none by default. -/
def optional? {α : Type} (decode : Toml → Option α) (v : Toml) : Option (Option α) := (decode v).map some

/-- An array of values of one kind. -/
def listOf? {α : Type} (decode : Toml → Option α) (v : Toml) : Option (List α) :=
  (arrayItems? v).bind fun items => items.mapM decode

/-- An entry of a table of values of one kind. -/
def entryOf? {α : Type} (decode : Toml → Option α) (entry : String × Toml) : Option (String × α) :=
  (decode entry.2).map fun value => (entry.1, value)

/-- The entries by ascending keys. -/
def sortByKey {α : Type} (entries : List (String × α)) : List (String × α) :=
  entries.mergeSort fun a b => !(b.1 < a.1)

/-- A table of values of one kind, by ascending keys. -/
def tableOf? {α : Type} (decode : Toml → Option α) (v : Toml) : Option (List (String × α)) :=
  (tableEntries? v).bind fun entries => (entries.mapM (entryOf? decode)).map sortByKey

end WikiGateway.Config
