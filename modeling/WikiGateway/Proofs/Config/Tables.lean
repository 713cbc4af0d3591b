import WikiGateway.Proofs.Route.SiteRouter
import WikiGateway.Proofs.Text.ItemByItem
import WikiGateway.Proofs.Toml.Tables

/-!
# Tables of settings

The settings of a document take its tables over, sorted by their keys (`Config.nodup_of_tableOf?`), so that no key comes
twice in them either.

* `SiteConfig.hasParamTables_of_parse?`: no further route has two parameters of one name.
-/

namespace WikiGateway

namespace Config

open Toml

variable {v w : Toml} {s : Section} {position : Nat} {name : String} {α : Type} {decode : Toml → Option α}

theorem isTable_of_tableEntries? {entries : Entries} (hv : v.HasDistinctKeys) (h : tableEntries? v = some entries) :
    IsTable entries := by
  unfold tableEntries? at h
  split at h
  next =>
    cases h
    exact hasDistinctKeys_table_iff.mp hv
  next =>
    cases h
    refine ⟨List.nodup_singleton momentKey, fun entry hmem => ?_⟩
    rw [List.mem_singleton.mp hmem]
    exact .string _
  next => cases h

theorem distinct_of_arrayItems? {items : List Toml} (hv : v.HasDistinctKeys) (h : arrayItems? v = some items) :
    ∀ item ∈ items, item.HasDistinctKeys := by
  unfold arrayItems? at h
  split at h
  next =>
    cases h
    exact hasDistinctKeys_array_iff.mp hv
  next =>
    cases h
    intro item hmem
    obtain ⟨entries, hentries, rfl⟩ := List.mem_map.mp hmem
    exact hasDistinctKeys_table_iff.mpr (hasDistinctKeys_tables_iff.mp hv entries hentries)
  next => cases h

/-- The values of a section have distinct keys. -/
def Section.IsDistinct : Section → Prop
  | named entries => IsTable entries
  | listed items => ∀ item ∈ items, item.HasDistinctKeys

theorem isDistinct_of_section? (hv : v.HasDistinctKeys) (h : section? v = some s) : s.IsDistinct := by
  rcases (Option.orElse_eq_some _ _ _).mp h with hnamed | ⟨-, hlisted⟩
  · obtain ⟨entries, hentries, rfl⟩ := Option.map_eq_some_iff.mp hnamed
    exact isTable_of_tableEntries? hv hentries
  · obtain ⟨items, hitems, rfl⟩ := Option.map_eq_some_iff.mp hlisted
    exact distinct_of_arrayItems? hv hitems

/-- What a section has is of its values, or the default. -/
theorem Section.IsDistinct.read (hs : s.IsDistinct) {default a : α}
    (h : s.read position name decode default = some a) :
    a = default ∨ ∃ w, w.HasDistinctKeys ∧ decode w = some a := by
  unfold Section.read at h
  split at h
  next =>
    cases h
    exact .inl rfl
  next w hw =>
    refine .inr ⟨w, ?_, h⟩
    cases s with
    | named entries => exact IsTable.lookup? hs hw
    | listed items => exact hs w (List.mem_of_getElem? hw)

/-- A table of settings has its keys once. -/
theorem nodup_of_tableOf? (hv : v.HasDistinctKeys) {out : List (String × α)} (h : tableOf? decode v = some out) :
    (out.map Prod.fst).Nodup := by
  obtain ⟨entries, hentries, h⟩ := Option.bind_eq_some_iff.mp h
  obtain ⟨decoded, hdecoded, rfl⟩ := Option.map_eq_some_iff.mp h
  have hsorted : ((sortByKey decoded).map Prod.fst).Perm (decoded.map Prod.fst) :=
    (List.mergeSort_perm _ _).map Prod.fst
  have hkeys : entries.map Prod.fst = decoded.map Prod.fst := by
    refine map_eq_map_of_forall₂ (fun entry made hmade => ?_) (forall₂_of_mapM_eq_some hdecoded)
    obtain ⟨_, -, rfl⟩ := Option.map_eq_some_iff.mp hmade
    rfl
  rw [hsorted.nodup_iff, ← hkeys]
  exact (isTable_of_tableEntries? hv hentries).keys

theorem nodup_of_extraRoute {route : ExtraRoute} (hv : v.HasDistinctKeys) (h : ExtraRoute.ofToml? v = some route) :
    (route.params.map Prod.fst).Nodup := by
  simp only [ExtraRoute.ofToml?, Option.bind_eq_bind, Option.bind_eq_some_iff, Option.pure_def, Option.some.injEq] at h
  obtain ⟨s, hs, _, -, params, hparams, _, -, _, -, rfl⟩ := h
  rcases (isDistinct_of_section? hv hs).read hparams with rfl | ⟨w, hw, hparams⟩
  · exact List.nodup_nil
  · exact nodup_of_tableOf? hw hparams

theorem hasParamTables_of_paths {p : PathSettings} (hv : v.HasDistinctKeys) (h : PathSettings.ofToml? v = some p) :
    p.HasParamTables := by
  simp only [PathSettings.ofToml?, Option.bind_eq_bind, Option.bind_eq_some_iff, Option.pure_def,
    Option.some.injEq] at h
  obtain ⟨s, hs, _, -, _, -, _, -, _, -, _, -, _, -, _, -, _, -, _, -, routes, hroutes, rfl⟩ := h
  rcases (isDistinct_of_section? hv hs).read hroutes with rfl | ⟨w, hw, hroutes⟩
  · exact fun route hmem => absurd hmem List.not_mem_nil
  · obtain ⟨items, hitems, hroutes⟩ := Option.bind_eq_some_iff.mp hroutes
    intro route hmem
    obtain ⟨item, hitem, hroute⟩ := exists_mem_of_forall₂ (forall₂_of_mapM_eq_some hroutes) hmem
    exact nodup_of_extraRoute (distinct_of_arrayItems? hw hitems item hitem) hroute

end Config

/-- **Settings of a document have tables.** In the settings of a document, no further route has two parameters of one
name. -/
theorem SiteConfig.hasParamTables_of_parse? {text : String} {c : SiteConfig} (h : SiteConfig.parse? text = some c) :
    c.paths.HasParamTables := by
  obtain ⟨entries, hentries, h⟩ := Option.bind_eq_some_iff.mp h
  have hs : (Config.Section.named entries).IsDistinct := Toml.isTable_of_parse? hentries
  simp only [SiteConfig.ofEntries?, Option.bind_eq_bind, Option.bind_eq_some_iff, Option.pure_def,
    Option.some.injEq] at h
  obtain ⟨_, -, paths, hpaths, _, -, _, -, _, -, _, -, _, -, _, -, _, -, rfl⟩ := h
  rcases hs.read hpaths with rfl | ⟨w, hw, hpaths⟩
  · exact fun route hmem => absurd hmem List.not_mem_nil
  · exact Config.hasParamTables_of_paths hw hpaths

end WikiGateway
