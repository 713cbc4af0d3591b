import WikiGateway.Decimal.Binary64

/-!
# Values of TOML documents

A document is a table of values. While it is read, a table remembers how it came about, since this decides which later
lines may still add to it.

* `Toml.alterAt?`: a change to the table at the end of a path, with new tables where there are none.
* `Toml.assign?`: one more key with its value.
-/

namespace WikiGateway

/-- How a table came about. -/
inductive TableOrigin
  /-- By a header of its own, or as the document itself. -/
  | header
  /-- As a step of the path of a longer header. -/
  | implied
  /-- As a step of a dotted key. -/
  | dotted
  /-- As a value between braces, which nothing may add to. -/
  | inlined
deriving DecidableEq, Repr, Inhabited

/-- A value of a document. -/
inductive Toml
  | string (text : String)
  | integer (n : Int)
  | float (x : Binary64)
  | boolean (b : Bool)
  /-- A date, a time of day or both, in their plain form. -/
  | moment (text : String)
  | array (items : List Toml)
  | table (origin : TableOrigin) (entries : List (String × Toml))
  /-- An array of tables, each with a header of its own. -/
  | tables (items : List (List (String × Toml)))
deriving Inhabited

namespace Toml

/-- The entries of a table. -/
abbrev Entries := List (String × Toml)

/-- The value of a key. -/
def lookup? (key : String) (entries : Entries) : Option Toml := (entries.find? (·.1 == key)).map Prod.snd

/-- The entries with a new value for a key that is there. -/
def replace (key : String) (value : Toml) (entries : Entries) : Entries :=
  entries.map fun entry => if entry.1 == key then (key, value) else entry

/-- Changes the table at the end of a path that starts at some table. Missing steps become tables, and of an array of
tables the last one is meant. A dotted key may not step into a table with a header of its own. -/
def alterAt? (isDotted : Bool) (change : TableOrigin → Entries → Option Entries) :
    List String → TableOrigin → Entries → Option Entries
  | [], origin, entries => change origin entries
  | key :: path, _, entries =>
    match lookup? key entries with
    | none =>
      let origin := if isDotted then TableOrigin.dotted else .implied
      (alterAt? isDotted change path origin []).map fun new => entries ++ [(key, table origin new)]
    | some (table origin inner) =>
      if origin = .inlined ∨ (isDotted ∧ origin = .header) then none
      else (alterAt? isDotted change path origin inner).map fun new => replace key (table origin new) entries
    | some (tables items) =>
      (items.getLast?).bind fun last =>
        (alterAt? isDotted change path .header last).map fun new =>
          replace key (tables (items.dropLast ++ [new])) entries
    | some _ => none

/-- Adds a key with its value to a table, at the end of a dotted path. Only tables that such a path made may be added
to in this way. -/
def assign? (path : List String) (key : String) (value : Toml) (origin : TableOrigin) (entries : Entries) :
    Option Entries :=
  alterAt? true (fun origin entries =>
    if (decide (origin = .dotted) == path.isEmpty) || (lookup? key entries).isSome then none
    else some (entries ++ [(key, value)])) path origin entries

/-- Opens the table of a header below a table: a new one or one that is there by implication alone. -/
def openTable? (key : String) (entries : Entries) : Option Entries :=
  match lookup? key entries with
  | none => some (entries ++ [(key, table .header [])])
  | some (table .implied inner) => some (replace key (table .header inner) entries)
  | some _ => none

/-- Opens one more table of an array of tables. -/
def openNextTable? (key : String) (entries : Entries) : Option Entries :=
  match lookup? key entries with
  | none => some (entries ++ [(key, tables [[]])])
  | some (tables items) => some (replace key (tables (items ++ [[]])) entries)
  | some _ => none

end Toml

end WikiGateway
