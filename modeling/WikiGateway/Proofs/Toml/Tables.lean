import Mathlib.Data.List.Nodup
import WikiGateway.Proofs.Text.ItemByItem
import WikiGateway.Toml.Document

/-!
# Tables of a document

A document does not give a key of a table twice. Where a line adds to a table, the key is new or its value is changed in
its place (`IsTable.concat`, `IsTable.replace`), so that a change along a path keeps the keys of all tables distinct
(`IsTable.alterAt?`), and so does a line (`isTable_of_line?`).

* `HasDistinctKeys`, `IsTable`: whether each table in a value has its keys once.
* `readsDistinct_value?`: the values that are read, by the number of steps that are left.
* `isTable_of_parse?`: the entries of a document.
-/

namespace WikiGateway

namespace Toml

/-- Whether each table in a value has its keys once. -/
inductive HasDistinctKeys : Toml → Prop
  | string (text : String) : HasDistinctKeys (.string text)
  | integer (n : Int) : HasDistinctKeys (.integer n)
  | float (x : Binary64) : HasDistinctKeys (.float x)
  | boolean (b : Bool) : HasDistinctKeys (.boolean b)
  | moment (text : String) : HasDistinctKeys (.moment text)
  | array {items : List Toml} : (∀ v ∈ items, HasDistinctKeys v) → HasDistinctKeys (.array items)
  | table {origin : TableOrigin} {entries : Entries} : (entries.map Prod.fst).Nodup →
      (∀ entry ∈ entries, HasDistinctKeys entry.2) → HasDistinctKeys (.table origin entries)
  | tables {items : List Entries} : (∀ entries ∈ items, HasDistinctKeys (.table .header entries)) →
      HasDistinctKeys (.tables items)

/-- The entries of a table whose keys are distinct, as are those of the tables in it. -/
structure IsTable (entries : Entries) : Prop where
  keys : (entries.map Prod.fst).Nodup
  values : ∀ entry ∈ entries, entry.2.HasDistinctKeys

section
variable {entries new : Entries} {origin : TableOrigin} {key : String} {v : Toml}

theorem hasDistinctKeys_table_iff : (table origin entries).HasDistinctKeys ↔ IsTable entries := by
  constructor
  · rintro (_ | _ | _ | _ | _ | _ | ⟨hkeys, hvalues⟩)
    exact ⟨hkeys, hvalues⟩
  · rintro ⟨hkeys, hvalues⟩
    exact .table hkeys hvalues

theorem hasDistinctKeys_tables_iff {items : List Entries} :
    (tables items).HasDistinctKeys ↔ ∀ entries ∈ items, IsTable entries := by
  constructor
  · rintro (_ | _ | _ | _ | _ | _ | _ | h)
    exact fun entries hmem => hasDistinctKeys_table_iff.mp (h entries hmem)
  · exact fun h => .tables fun entries hmem => hasDistinctKeys_table_iff.mpr (h entries hmem)

theorem hasDistinctKeys_array_iff {items : List Toml} :
    (array items).HasDistinctKeys ↔ ∀ v ∈ items, v.HasDistinctKeys := by
  constructor
  · rintro (_ | _ | _ | _ | _ | h)
    exact h
  · exact .array

/-! ## Changes to a table -/

namespace IsTable

theorem nil : IsTable [] := ⟨List.nodup_nil, by simp⟩

theorem lookup? (h : IsTable entries) (hv : Toml.lookup? key entries = some v) : v.HasDistinctKeys := by
  obtain ⟨entry, hfound, rfl⟩ := Option.map_eq_some_iff.mp hv
  exact h.values entry (List.mem_of_find?_eq_some hfound)

/-- A new key goes to the end. -/
theorem concat (h : IsTable entries) (hkey : Toml.lookup? key entries = none) (hv : v.HasDistinctKeys) :
    IsTable (entries ++ [(key, v)]) := by
  constructor
  · rw [List.map_append, List.map_singleton, ← List.concat_eq_append, List.nodup_concat]
    exact ⟨find?_key_eq_none_iff.mp hkey, h.keys⟩
  · intro entry hmem
    rcases List.mem_append.mp hmem with hold | hnew
    · exact h.values entry hold
    · rw [List.mem_singleton.mp hnew]
      exact hv

/-- A key that is there keeps its place. -/
theorem replace (h : IsTable entries) (hv : v.HasDistinctKeys) : IsTable (Toml.replace key v entries) := by
  constructor
  · have hkeys : (Toml.replace key v entries).map Prod.fst = entries.map Prod.fst := by
      rw [Toml.replace, List.map_map]
      refine List.map_congr_left fun entry _ => ?_
      dsimp only [Function.comp]
      split
      next hkey => exact (beq_iff_eq.mp hkey).symm
      next => rfl
    rw [hkeys]
    exact h.keys
  · intro entry hmem
    obtain ⟨old, hold, rfl⟩ := List.mem_map.mp hmem
    split
    next => exact hv
    next => exact h.values old hold

/-- A change to the table at the end of a path keeps all tables apart, if it keeps this one so. -/
theorem alterAt? {isDotted : Bool} {change : TableOrigin → Entries → Option Entries}
    (hchange : ∀ origin entries new, IsTable entries → change origin entries = some new → IsTable new) :
    ∀ {path : List String} {origin : TableOrigin} {entries new : Entries}, IsTable entries →
      Toml.alterAt? isDotted change path origin entries = some new → IsTable new
  | [], origin, entries, new, h, hnew => hchange origin entries new h hnew
  | key :: path, origin, entries, new, h, hnew => by
    rw [Toml.alterAt?] at hnew
    split at hnew
    next hnone =>
      obtain ⟨inner, hinner, rfl⟩ := Option.map_eq_some_iff.mp hnew
      exact h.concat hnone (hasDistinctKeys_table_iff.mpr (alterAt? hchange nil hinner))
    next innerOrigin inner hsome =>
      split at hnew
      next => cases hnew
      next =>
        obtain ⟨changed, hchanged, rfl⟩ := Option.map_eq_some_iff.mp hnew
        have hold := hasDistinctKeys_table_iff.mp (h.lookup? hsome)
        exact h.replace (hasDistinctKeys_table_iff.mpr (alterAt? hchange hold hchanged))
    next items hsome =>
      obtain ⟨last, hlast, hnew⟩ := Option.bind_eq_some_iff.mp hnew
      obtain ⟨changed, hchanged, rfl⟩ := Option.map_eq_some_iff.mp hnew
      have hold := hasDistinctKeys_tables_iff.mp (h.lookup? hsome)
      have hmade := alterAt? hchange (hold last (List.mem_of_getLast? hlast)) hchanged
      refine h.replace (hasDistinctKeys_tables_iff.mpr fun entries hmem => ?_)
      rcases List.mem_append.mp hmem with hfront | hend
      · exact hold entries (List.dropLast_subset items hfront)
      · rw [List.mem_singleton.mp hend]
        exact hmade
    next => cases hnew

theorem assign? {path : List String} (hv : v.HasDistinctKeys) (h : IsTable entries)
    (hnew : Toml.assign? path key v origin entries = some new) : IsTable new := by
  refine alterAt? (fun origin entries new h hnew => ?_) h hnew
  split at hnew
  next => cases hnew
  next hfree =>
    cases hnew
    rw [Bool.or_eq_true, not_or, Option.not_isSome_iff_eq_none] at hfree
    exact h.concat hfree.2 hv

theorem openTable? (h : IsTable entries) (hnew : Toml.openTable? key entries = some new) : IsTable new := by
  unfold Toml.openTable? at hnew
  split at hnew
  next hnone =>
    cases hnew
    exact h.concat hnone (hasDistinctKeys_table_iff.mpr nil)
  next hsome =>
    cases hnew
    exact h.replace (hasDistinctKeys_table_iff.mpr (hasDistinctKeys_table_iff.mp (h.lookup? hsome)))
  next => cases hnew

theorem openNextTable? (h : IsTable entries) (hnew : Toml.openNextTable? key entries = some new) : IsTable new := by
  unfold Toml.openNextTable? at hnew
  split at hnew
  next hnone =>
    cases hnew
    refine h.concat hnone (hasDistinctKeys_tables_iff.mpr fun entries hmem => ?_)
    rw [List.mem_singleton.mp hmem]
    exact nil
  next items hsome =>
    cases hnew
    refine h.replace (hasDistinctKeys_tables_iff.mpr fun entries hmem => ?_)
    rcases List.mem_append.mp hmem with hold | hend
    · exact hasDistinctKeys_tables_iff.mp (h.lookup? hsome) entries hold
    · rw [List.mem_singleton.mp hend]
      exact nil
  next => cases hnew

end IsTable

end

/-! ## Values -/

/-- Whether each table in the value that is read has its keys once. -/
def ReadsDistinct (o : Option (Toml × List Char)) : Prop := ∀ v rest, o = some (v, rest) → v.HasDistinctKeys

section
variable {cs rest : List Char} {v : Toml} {α : Type} {o : Option α}

theorem readsDistinct_none : ReadsDistinct none := by
  rintro v rest ⟨⟩

theorem readsDistinct_some (h : v.HasDistinctKeys) : ReadsDistinct (some (v, rest)) := by
  rintro _ _ ⟨⟩
  exact h

theorem readsDistinct_bind {f : α → Option (Toml × List Char)} (h : ∀ a, ReadsDistinct (f a)) :
    ReadsDistinct (o.bind f) := by
  cases o with
  | none => exact readsDistinct_none
  | some a => exact h a

theorem readsDistinct_map {f : α → Toml × List Char} (h : ∀ a, (f a).1.HasDistinctKeys) : ReadsDistinct (o.map f) := by
  cases o with
  | none => exact readsDistinct_none
  | some a => exact readsDistinct_some (h a)

theorem readsDistinct_orElse {o o' : Option (Toml × List Char)} (h : ReadsDistinct o) (h' : ReadsDistinct o') :
    ReadsDistinct (o <|> o') := by
  cases o with
  | none => exact h'
  | some r => exact h

theorem readsDistinct_inRange? {n : Int} : ReadsDistinct (inRange? n cs) := by
  unfold inRange?
  split
  · exact readsDistinct_some (.integer n)
  · exact readsDistinct_none

theorem readsDistinct_integer? : ReadsDistinct (integer? cs) := by
  have hbased : ∀ {base : Nat} {p : Char → Bool} {cs : List Char}, ReadsDistinct (based? base p cs) := by
    intro base p cs
    unfold based?
    split
    · exact readsDistinct_none
    · exact readsDistinct_inRange?
  unfold integer?
  split
  · exact hbased
  · exact hbased
  · exact hbased
  · dsimp only
    split
    · exact readsDistinct_none
    · exact readsDistinct_inRange?

theorem readsDistinct_decimal? {negative : Bool} {whole fraction : List Char} {exponent : Int} :
    ReadsDistinct (decimal? negative whole fraction exponent cs) := by
  unfold decimal?
  dsimp only
  split
  · exact readsDistinct_none
  · exact readsDistinct_some (.float _)

theorem readsDistinct_special? {negative : Bool} : ReadsDistinct (special? negative cs) := by
  unfold special?
  split
  · exact readsDistinct_some (.float _)
  · exact readsDistinct_some (.float _)
  · exact readsDistinct_none

theorem readsDistinct_float? : ReadsDistinct (float? cs) := by
  unfold float?
  dsimp only
  split
  · exact readsDistinct_special?
  · split
    · exact readsDistinct_bind fun _ => readsDistinct_decimal?
    · split <;> exact readsDistinct_decimal?

theorem readsDistinct_moment? : ReadsDistinct (moment? cs) := by
  unfold moment?
  split
  · split <;> exact readsDistinct_some (.moment _)
  · exact readsDistinct_map fun _ => .moment _

/-- A value that is no array and no table. -/
theorem readsDistinct_scalar? : ReadsDistinct (scalar? cs) := by
  unfold scalar?
  split
  · exact readsDistinct_map fun _ => .string _
  · exact readsDistinct_map fun _ => .string _
  · exact readsDistinct_some (.boolean true)
  · exact readsDistinct_some (.boolean false)
  · exact readsDistinct_orElse readsDistinct_moment? (readsDistinct_orElse readsDistinct_float? readsDistinct_integer?)

end

mutual

/-- A value, by the number of steps that are left. -/
theorem readsDistinct_value? : ∀ (fuel depth : Nat) (cs : List Char), ReadsDistinct (value? fuel depth cs)
  | 0, _, _ => by
    unfold value?
    exact readsDistinct_none
  | fuel + 1, depth, cs => by
    unfold value?
    split
    next hzero => cases hzero
    next hfuel =>
      obtain rfl := Nat.succ.inj hfuel
      split
      · exact readsDistinct_none
      · intro v rest h
        obtain ⟨⟨items, _⟩, hitems, hv⟩ := Option.map_eq_some_iff.mp h
        cases hv
        exact .array (distinct_of_arrayItems? fuel _ (by simp) hitems)
    next hfuel =>
      obtain rfl := Nat.succ.inj hfuel
      split
      · exact readsDistinct_none
      · split
        · exact readsDistinct_some (hasDistinctKeys_table_iff.mpr .nil)
        · intro v rest h
          obtain ⟨⟨entries, _⟩, hentries, hv⟩ := Option.map_eq_some_iff.mp h
          cases hv
          exact hasDistinctKeys_table_iff.mpr (isTable_of_inlineEntries? fuel _ .nil hentries)
    next => exact readsDistinct_scalar?

/-- The items of an array, behind those that have been read. -/
theorem distinct_of_arrayItems? : ∀ (fuel depth : Nat) {seen items : List Toml} {cs rest : List Char},
    (∀ v ∈ seen, v.HasDistinctKeys) → arrayItems? fuel depth seen cs = some (items, rest) →
      ∀ v ∈ items, v.HasDistinctKeys
  | 0, _, seen, items, cs, rest, _, h => by
    unfold arrayItems? at h
    cases h
  | fuel + 1, depth, seen, items, cs, rest, hseen, h => by
    unfold arrayItems? at h
    split at h
    next =>
      cases h
      exact fun v hv => hseen v (List.mem_reverse.mp hv)
    next =>
      split at h
      next => cases h
      next item behind hitem =>
        have hmore : ∀ v ∈ item :: seen, v.HasDistinctKeys :=
          List.forall_mem_cons.mpr ⟨readsDistinct_value? fuel depth _ item behind hitem, hseen⟩
        split at h
        next => exact distinct_of_arrayItems? fuel depth hmore h
        next =>
          cases h
          exact fun v hv => hmore v (List.mem_reverse.mp hv)
        next => cases h

/-- The entries of a table between braces, with those that have been read. -/
theorem isTable_of_inlineEntries? : ∀ (fuel depth : Nat) {entries new : Entries} {cs rest : List Char},
    IsTable entries → inlineEntries? fuel depth entries cs = some (new, rest) → IsTable new
  | 0, _, entries, new, cs, rest, _, h => by
    unfold inlineEntries? at h
    cases h
  | fuel + 1, depth, entries, new, cs, rest, hentries, h => by
    unfold inlineEntries? at h
    split at h
    next =>
      split at h
      next => cases h
      next v behind hv =>
        split at h
        next => cases h
        next changed hchanged =>
          have hmore : IsTable changed := .assign? (readsDistinct_value? fuel depth _ v behind hv) hentries hchanged
          split at h
          next => exact isTable_of_inlineEntries? fuel depth hmore h
          next =>
            cases h
            exact hmore
          next => cases h
    next => cases h

end

/-! ## Documents -/

section
variable {d d' : Draft} {cs rest : List Char}

theorem isTable_of_draft_assign? {path : List String} {key : String} {v : Toml} (hv : v.HasDistinctKeys)
    (h : IsTable d.entries) (hd : d.assign? path key v = some d') : IsTable d'.entries := by
  obtain ⟨entries, hentries, rfl⟩ := Option.map_eq_some_iff.mp hd
  exact h.alterAt? (fun _ _ _ hold hnew => hold.assign? hv hnew) hentries

theorem isTable_of_draft_header? {path : List String} {key : String} {isNext : Bool} (h : IsTable d.entries)
    (hd : d.header? path key isNext = some d') : IsTable d'.entries := by
  obtain ⟨entries, hentries, rfl⟩ := Option.map_eq_some_iff.mp hd
  refine IsTable.alterAt? (fun _ _ _ hold hnew => ?_) h hentries
  split at hnew
  next => exact hold.openNextTable? hnew
  next => exact hold.openTable? hnew

theorem exists_of_finished? {draft : Option Draft} (h : finished? draft cs = some (d', rest)) : draft = some d' := by
  obtain ⟨made, hmade, h⟩ := Option.bind_eq_some_iff.mp h
  obtain ⟨_, -, h⟩ := Option.map_eq_some_iff.mp h
  cases h
  exact hmade

/-- A line keeps all tables apart. -/
theorem isTable_of_line? {fuel : Nat} (h : IsTable d.entries) (hd : line? fuel d cs = some (d', rest)) :
    IsTable d'.entries := by
  unfold line? at hd
  split at hd
  next =>
    split at hd
    next => exact isTable_of_draft_header? h (exists_of_finished? hd)
    next => cases hd
  next =>
    split at hd
    next => exact isTable_of_draft_header? h (exists_of_finished? hd)
    next => cases hd
  next =>
    split at hd
    next =>
      obtain ⟨⟨v, behind⟩, hv, hd⟩ := Option.bind_eq_some_iff.mp hd
      exact isTable_of_draft_assign? (readsDistinct_value? fuel 0 _ v behind hv) h (exists_of_finished? hd)
    next => cases hd

theorem isTable_of_lines? : ∀ (fuel : Nat) {d d' : Draft} {cs : List Char}, IsTable d.entries →
    lines? fuel d cs = some d' → IsTable d'.entries
  | 0, _, _, _, _, hd => by cases hd
  | fuel + 1, d, d', cs, h, hd => by
    unfold lines? at hd
    split at hd
    next =>
      cases hd
      exact h
    next =>
      split at hd
      next =>
        cases hd
        exact h
      next => cases hd
    next =>
      obtain ⟨⟨next, behind⟩, hnext, hd⟩ := Option.bind_eq_some_iff.mp hd
      exact isTable_of_lines? fuel (isTable_of_line? h hnext) hd

end

/-- In the entries of a document, each table has its keys once. -/
theorem isTable_of_parse? {text : String} {entries : Entries} (h : parse? text = some entries) : IsTable entries := by
  obtain ⟨d, hd, rfl⟩ := Option.map_eq_some_iff.mp h
  exact isTable_of_lines? _ .nil hd

end Toml

end WikiGateway
