import WikiGateway.Route.Error
import WikiGateway.Text.Split

/-!
# Entry points

The entry points of a site are told apart by the paths under which they are reached. All that no other entry point
claims goes to the default one, which alone may have an empty path.

* `EntryPointTable.ofList`: the table, which refuses empty paths of others.
* `EntryPointTable.detect`: the first entry point whose path is the given one or lies above it.
* `EntryPointTable.name_detect_mem`: its name is one of the table.
-/

namespace WikiGateway

/-- An entry point and the path under which it is reached. -/
structure EntryPoint where
  name : String
  path : String
deriving DecidableEq, Repr, Inhabited

/-- The entry point of a path and the part of the path below it. -/
structure EntryPointMatch where
  name : String
  subpath : String
deriving DecidableEq, Repr, Inhabited

/-- The entry points of a site in the order in which they are tried. -/
structure EntryPointTable where
  entries : List EntryPoint
  /-- The name of the default entry point. -/
  default : String
deriving DecidableEq, Repr, Inhabited

namespace EntryPointTable

/-- The table of a list of entry points. -/
def ofList (entries : List EntryPoint) (default : String) : Except RouteError EntryPointTable :=
  match entries.find? fun e => e.path == "" && e.name != default with
  | some e => .error (.emptyEntryPointPath e.name)
  | none => .ok ⟨entries, default⟩

/-- The path of the first entry point of a name. -/
def pathOf? (t : EntryPointTable) (name : String) : Option String :=
  (t.entries.find? (·.name == name)).map EntryPoint.path

/-- What follows the path of an entry point in a path below it. -/
def below? (path : String) (e : EntryPoint) : Option EntryPointMatch :=
  if e.path = "" then none
  else
    match Text.dropPrefix? e.path.toList path.toList with
    | none => none
    | some rest =>
      if rest.isEmpty || rest.head? == some '/' then some ⟨e.name, String.ofList rest⟩ else none

/-- The entry point of a path. -/
def detect (t : EntryPointTable) (path : String) : EntryPointMatch :=
  (t.entries.findSome? (below? path)).getD ⟨t.default, path⟩

/-- The names of the table, that of the default entry point last. -/
def names (t : EntryPointTable) : List String := t.entries.map (·.name) ++ [t.default]

theorem name_of_below?_eq_some {path : String} {e : EntryPoint} {m : EntryPointMatch} (h : below? path e = some m) :
    m.name = e.name := by
  unfold below? at h
  split at h
  next => cases h
  next =>
    split at h
    next => cases h
    next rest _ =>
      split at h
      next => cases h; rfl
      next => cases h

/-- Only names of the table are found. -/
theorem name_detect_mem (t : EntryPointTable) (path : String) : (t.detect path).name ∈ t.names := by
  unfold detect names
  cases h : t.entries.findSome? (below? path) with
  | none => simp
  | some m =>
    obtain ⟨e, he, hm⟩ := List.exists_of_findSome?_eq_some h
    rw [Option.getD_some, name_of_below?_eq_some hm]
    exact List.mem_append_left _ (List.mem_map_of_mem he)

end EntryPointTable

end WikiGateway
