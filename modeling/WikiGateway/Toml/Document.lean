import WikiGateway.Toml.Scalar

/-!
# TOML documents

A document is a sequence of lines with keys and values, headers of tables, and comments.

* `Toml.parse?`: the entries of a document.
-/

namespace WikiGateway.Toml

/-! ## Values -/

/-- A value that is no array and no table between braces. -/
def scalar? (cs : List Char) : Option (Toml × List Char) :=
  match cs with
  | '"' :: _ | '\'' :: _ => (quoted? cs).map fun (text, rest) => (.string text, rest)
  | 't' :: 'r' :: 'u' :: 'e' :: rest => some (.boolean true, rest)
  | 'f' :: 'a' :: 'l' :: 's' :: 'e' :: rest => some (.boolean false, rest)
  | _ => moment? cs <|> float? cs <|> integer? cs

mutual

/-- A value; `depth` counts the brackets and braces around it, and `fuel` bounds the number of steps. -/
def value? : Nat → Nat → List Char → Option (Toml × List Char)
  | 0, _, _ => none
  | fuel + 1, depth, '[' :: rest =>
    if maxDepth ≤ depth + 1 then none
    else (arrayItems? fuel (depth + 1) [] rest).map fun (items, rest) => (.array items, rest)
  | fuel + 1, depth, '\x7b' :: rest =>
    if maxDepth ≤ depth + 1 then none
    else
      match skipBlanks rest with
      | '\x7d' :: rest => some (.table .inlined [], rest)
      | rest => (inlineEntries? fuel (depth + 1) [] rest).map fun (entries, rest) => (.table .inlined entries, rest)
  | _ + 1, _, cs => scalar? cs

/-- The items of an array up to its closing bracket; `seen` holds those read, the last one first. -/
def arrayItems? : Nat → Nat → List Toml → List Char → Option (List Toml × List Char)
  | 0, _, _, _ => none
  | fuel + 1, depth, seen, cs =>
    match skipLines cs with
    | ']' :: rest => some (seen.reverse, rest)
    | cs =>
      match value? fuel depth cs with
      | none => none
      | some (item, rest) =>
        match skipLines rest with
        | ',' :: rest => arrayItems? fuel depth (item :: seen) rest
        | ']' :: rest => some ((item :: seen).reverse, rest)
        | _ => none

/-- The entries of a table between braces, of which there is at least one, up to the closing brace. -/
def inlineEntries? : Nat → Nat → Entries → List Char → Option (Entries × List Char)
  | 0, _, _, _ => none
  | fuel + 1, depth, entries, cs =>
    match dottedKey? cs with
    | some (path, key, '=' :: rest) =>
      match value? fuel depth (skipBlanks rest) with
      | none => none
      | some (value, rest) =>
        match assign? path key value .inlined entries with
        | none => none
        | some entries =>
          match skipBlanks rest with
          | ',' :: rest => inlineEntries? fuel depth entries rest
          | '\x7d' :: rest => some (entries, rest)
          | _ => none
    | _ => none

end

/-! ## Lines -/

/-- A document in part: its entries, and the path of the table that the next key goes to. -/
structure Draft where
  entries : Entries := []
  path : List String := []

namespace Draft

/-- Adds a key with its value. -/
def assign? (d : Draft) (path : List String) (key : String) (value : Toml) : Option Draft :=
  (alterAt? false (Toml.assign? path key value) d.path .header d.entries).map fun entries => { d with entries }

/-- Opens the table of a header. -/
def header? (d : Draft) (path : List String) (key : String) (isNext : Bool) : Option Draft :=
  let change := if isNext then openNextTable? key else openTable? key
  (alterAt? false (fun _ => change) path .header d.entries).map fun entries => ⟨entries, path ++ [key]⟩

end Draft

/-- What is left of a line behind its content. -/
def finished? (draft : Option Draft) (rest : List Char) : Option (Draft × List Char) :=
  draft.bind fun draft => (finishLine? rest).map fun rest => (draft, rest)

/-- The draft with the line at the front of a text, and the text behind it. -/
def line? (fuel : Nat) (d : Draft) (cs : List Char) : Option (Draft × List Char) :=
  match cs with
  | '[' :: '[' :: rest =>
    match dottedKey? rest with
    | some (path, key, ']' :: ']' :: rest) => finished? (d.header? path key true) rest
    | _ => none
  | '[' :: rest =>
    match dottedKey? rest with
    | some (path, key, ']' :: rest) => finished? (d.header? path key false) rest
    | _ => none
  | _ =>
    match dottedKey? cs with
    | some (path, key, '=' :: rest) =>
      (value? fuel 0 (skipBlanks rest)).bind fun (value, rest) => finished? (d.assign? path key value) rest
    | _ => none

/-- The draft with all lines of a text; `fuel` bounds their number. -/
def lines? : Nat → Draft → List Char → Option Draft
  | 0, _, _ => none
  | fuel + 1, d, cs =>
    match skipLines cs with
    | [] => some d
    | '#' :: rest => if (skipComment ('#' :: rest)).isEmpty then some d else none
    | cs => (line? (cs.length + 1) d cs).bind fun (d, rest) => lines? fuel d rest

/-- The entries of a document, which may start with a mark of the byte order. -/
def parse? (text : String) : Option Entries :=
  let cs := match text.toList with
    | '\uFEFF' :: rest => rest
    | cs => cs
  (lines? (cs.length + 1) {} cs).map Draft.entries

end WikiGateway.Toml
