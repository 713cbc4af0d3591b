import Mathlib.Data.List.TakeWhile
import WikiGateway.Proofs.Http.RequestUrl
import WikiGateway.Proofs.Text.Runs

/-!
# The normal form of URLs

A URL in normal form has no fragment and is a path with one slash in front, or a text that leads to no path
(`IsNormalUrl`). Every URL that is found is in normal form (`isNormalUrl_of_normalizeUrl?`), and just these URLs are
found again if they are handed over once more (`normalizeUrl?_eq_self_iff`).

* `exists_leadsToPath_iff`: the texts that lead to a path, by their look.
* `requestUrl?_normal`: the URL of a request.
-/

namespace WikiGateway

/-! ## Texts that lead to a path -/

variable {cs url rest : List Char}

/-- The path is the end of the text. -/
theorem LeadsToPath.suffix (h : LeadsToPath cs rest) : rest <:+ cs := by
  cases h with
  | slash => exact List.suffix_cons '/' rest
  | @host scheme host _ =>
    refine ⟨scheme ++ ':' :: '/' :: '/' :: (host ++ ['/']), ?_⟩
    simp

/-- A text leads to a path if it starts with a slash or has a slash somewhere behind `://` and a scheme without one. -/
theorem exists_leadsToPath_iff : (∃ rest, LeadsToPath cs rest) ↔ cs.head? = some '/' ∨
    ∃ scheme authority rest, cs = scheme ++ "://".toList ++ authority ++ '/' :: rest ∧ scheme ≠ [] ∧ '/' ∉ scheme := by
  constructor
  · rintro ⟨rest, h⟩
    cases h with
    | slash => exact .inl rfl
    | @host scheme host _ hscheme hslash =>
      refine .inr ⟨scheme, host, rest, ?_, hscheme, hslash⟩
      simp
  · rintro (hslash | ⟨scheme, authority, rest, rfl, hscheme, hslash⟩)
    · obtain ⟨rest, rfl⟩ := List.head?_eq_some_iff.mp hslash
      exact ⟨rest, .slash rest⟩
    · -- the host ends at the first slash, wherever the authority is said to end
      have hmem : '/' ∈ authority ++ '/' :: rest := List.mem_append_right _ List.mem_cons_self
      obtain ⟨host, path, hsplit, hhost⟩ := List.eq_append_cons_of_mem hmem
      have hleads := LeadsToPath.host path hscheme hslash hhost
      refine ⟨path, ?_⟩
      rw [← hsplit] at hleads
      simpa using hleads

/-! ## Normal forms -/

/-- A URL without a fragment that is a path with one slash in front or leads to no path. -/
structure IsNormalUrl (url : List Char) : Prop where
  ne_nil : url ≠ []
  no_fragment : '#' ∉ url
  one_slash : ¬ "//".toList <+: url
  is_path : ∀ rest, LeadsToPath url rest → url.head? = some '/'

theorem withoutFragment_eq_self (h : '#' ∉ cs) : withoutFragment cs = cs :=
  List.takeWhile_eq_self_iff.mpr fun _ hc => bne_iff_ne.mpr (ne_of_mem_of_not_mem hc h)

theorem hash_not_mem_withoutFragment (cs : List Char) : '#' ∉ withoutFragment cs := fun h => by
  simpa using List.mem_takeWhile_imp h

/-- One slash in front of a path that starts with none. -/
theorem one_slash_dropWhile (rest : List Char) : ¬ "//".toList <+: '/' :: rest.dropWhile (· == '/') := by
  rintro ⟨behind, hbehind⟩
  have hrest : rest.dropWhile (· == '/') = '/' :: behind := (List.cons.inj hbehind).2.symm
  have hno := head?_dropWhile_eq_false (p := (· == '/')) '/' (by rw [hrest]; rfl)
  simp at hno

/-- A URL that is found is in normal form. -/
theorem isNormalUrl_of_normalizeUrl? (h : normalizeUrl? cs = some url) : IsNormalUrl url := by
  have hne := withoutFragment_ne_nil h
  have hhash := hash_not_mem_withoutFragment cs
  by_cases hleads : ∃ rest, LeadsToPath (withoutFragment cs) rest
  · obtain ⟨rest, hleads⟩ := hleads
    obtain rfl := Option.some.inj ((normalizeUrl?_of_leadsToPath hleads).symm.trans h)
    refine ⟨List.cons_ne_nil _ _, fun hmem => ?_, one_slash_dropWhile rest, fun _ _ => rfl⟩
    rcases List.mem_cons.mp hmem with hslash | hmem
    · simp at hslash
    · exact hhash (hleads.suffix.subset (List.dropWhile_subset _ hmem))
  · have hother := not_exists.mp hleads
    obtain rfl := Option.some.inj ((normalizeUrl?_of_not_leadsToPath hne hother).symm.trans h)
    refine ⟨hne, hhash, ?_, fun rest hpath => absurd hpath (hother rest)⟩
    -- two slashes in front would be those of a path
    rintro ⟨behind, hbehind⟩
    have hslash : LeadsToPath (withoutFragment cs) ('/' :: behind) := hbehind ▸ LeadsToPath.slash ('/' :: behind)
    exact hother _ hslash

/-- Just the URLs in normal form are their own normal form. -/
theorem normalizeUrl?_eq_self_iff : normalizeUrl? url = some url ↔ IsNormalUrl url := by
  refine ⟨isNormalUrl_of_normalizeUrl?, fun h => ?_⟩
  have hself := withoutFragment_eq_self h.no_fragment
  by_cases hleads : ∃ rest, LeadsToPath url rest
  · obtain ⟨_, hleads⟩ := hleads
    obtain ⟨rest, rfl⟩ := List.head?_eq_some_iff.mp (h.is_path _ hleads)
    have hrest : rest.dropWhile (· == '/') = rest := by
      refine List.dropWhile_eq_self_iff.mpr fun hlength hslash => h.one_slash ?_
      cases rest with
      | nil => cases hlength
      | cons c rest =>
        obtain rfl : c = '/' := by simpa using hslash
        exact ⟨rest, rfl⟩
    have hslash : LeadsToPath (withoutFragment ('/' :: rest)) rest := hself.symm ▸ LeadsToPath.slash rest
    rw [normalizeUrl?_of_leadsToPath hslash, hrest]
  · rw [normalizeUrl?_of_not_leadsToPath (hself.symm ▸ h.ne_nil) (hself.symm ▸ not_exists.mp hleads), hself]

/-! ## URLs of requests -/

variable {t : Transport} {target : String}

/-- A target that is set and not empty is the source of the URL. -/
theorem urlSource?_of_target (ht : t.requestUri = some target) (hne : target ≠ "") : urlSource? t = some target := by
  rw [urlSource?, ht, nonEmpty, Option.filter_some, if_pos (bne_iff_ne.mpr hne)]
  rfl

theorem requestUrl?_of_target (ht : t.requestUri = some target) (hne : target ≠ "") :
    requestUrl? t = (normalizeUrl? target.toList).map String.ofList := by
  rw [requestUrl?, urlSource?_of_target ht hne, Option.bind_some]

/-- **The URL of a request is in normal form.** It is not empty, has no fragment and never starts with two slashes. It
starts with one just where its source, up to a fragment, starts with one or goes on with one behind a scheme and `://`.
Handed over as the target of a request, it is the URL of that request again. And a target that is set and not empty
decides alone about the URL, whatever the header fields, the name of the script and the query are. -/
theorem requestUrl?_normal (t : Transport) :
    (∀ url, requestUrl? t = some url →
      url ≠ "" ∧ '#' ∉ url.toList ∧ ¬ "//".toList <+: url.toList ∧
      (∃ source, urlSource? t = some source ∧ (url.toList.head? = some '/' ↔
        (withoutFragment source.toList).head? = some '/' ∨ ∃ scheme authority rest,
          withoutFragment source.toList = scheme ++ "://".toList ++ authority ++ '/' :: rest ∧
            scheme ≠ [] ∧ '/' ∉ scheme)) ∧
      ∀ again : Transport, again.requestUri = some url → requestUrl? again = some url) ∧
    ∀ target, target ≠ "" → t.requestUri = some target → ∀ other : Transport, other.requestUri = some target →
      requestUrl? other = requestUrl? t := by
  refine ⟨fun url hurl => ?_, fun target hne ht other hother => ?_⟩
  · obtain ⟨source, hsource, hnormal⟩ := Option.bind_eq_some_iff.mp hurl
    obtain ⟨cs, hcs, rfl⟩ := Option.map_eq_some_iff.mp hnormal
    have hform := isNormalUrl_of_normalizeUrl? hcs
    have hne : String.ofList cs ≠ "" := fun hempty => hform.ne_nil (String.ofList_eq_empty_iff.mp hempty)
    rw [String.toList_ofList]
    refine ⟨hne, hform.no_fragment, hform.one_slash, ⟨source, hsource, ?_⟩, fun again hagain => ?_⟩
    · rw [← exists_leadsToPath_iff]
      constructor
      · intro hslash
        by_contra hleads
        have hself := normalizeUrl?_of_not_leadsToPath (withoutFragment_ne_nil hcs) (not_exists.mp hleads)
        obtain rfl := Option.some.inj (hself.symm.trans hcs)
        exact hleads (exists_leadsToPath_iff.mpr (.inl hslash))
      · rintro ⟨rest, hleads⟩
        obtain rfl := Option.some.inj ((normalizeUrl?_of_leadsToPath hleads).symm.trans hcs)
        rfl
    · rw [requestUrl?_of_target hagain hne, String.toList_ofList, normalizeUrl?_eq_self_iff.mpr hform, Option.map_some]
  · rw [requestUrl?_of_target ht hne, requestUrl?_of_target hother hne]

/-- An absolute target with slashes behind the host and a fragment, beside a header field and a script that would give
other URLs; and a target that is a host alone. -/
theorem requestUrl?_normal_absolute_target :
    let t : Transport := {
      requestUri := some "http://example.org//wiki/Foo?x=1#top"
      scriptName := some "/w/index.php"
      headers := [("X-Original-URL", "/wiki/Bar")] }
    let bare : Transport := { requestUri := some "http://example.org" }
    (requestUrl? t = some "/wiki/Foo?x=1" ∧
      requestUrl? { requestUri := some "/wiki/Foo?x=1", queryString := some "y=2" } = some "/wiki/Foo?x=1" ∧
      requestUrl? { requestUri := some "http://example.org//wiki/Foo?x=1#top" } = requestUrl? t) ∧
    requestUrl? bare = some "http://example.org" ∧ ¬ ∃ scheme authority rest,
      withoutFragment "http://example.org".toList = scheme ++ "://".toList ++ authority ++ '/' :: rest ∧
        scheme ≠ [] ∧ '/' ∉ scheme := by
  intro t bare
  have hurl : requestUrl? t = some "/wiki/Foo?x=1" := by
    unfold t
    decide +kernel
  have hbare : requestUrl? bare = some "http://example.org" := by
    unfold bare
    decide +kernel
  obtain ⟨hnormal, halone⟩ := requestUrl?_normal t
  obtain ⟨-, -, -, -, hagain⟩ := hnormal _ hurl
  obtain ⟨-, -, -, ⟨_, hsource, hslash⟩, -⟩ := (requestUrl?_normal bare).1 _ hbare
  refine ⟨⟨hurl, hagain _ rfl, halone _ (by decide) rfl _ rfl⟩, hbare, fun hhost => ?_⟩
  cases hsource
  have hfront := hslash.mpr (.inr hhost)
  revert hfront
  decide

end WikiGateway
