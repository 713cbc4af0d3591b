import WikiGateway.Proofs.Config.Problems
import WikiGateway.Proofs.Route.Params
import WikiGateway.Proofs.Route.Registration

/-!
# The templates of a site

The router of a site has a template for each setting, at its place (`PathSettings.exists_template`). What the template
of an article or of an action yields is read off the text of the setting, as a template reads it: the name of a
placeholder goes on as long as it can, and the name of an action is a text with placeholders of its own.

* `PathSettings.articles_title`: a path of articles has a title exactly if the setting has the placeholder `$1`.
* `PathSettings.action_rendered`: a path of an action has the name of the action, with its placeholders filled.
-/

namespace WikiGateway

/-- The template of the paths of articles that a setting gives, in variants of the language or not. -/
def PathSetting.articles? : PathSetting → Option String
  | .articles template | .variantArticles template => some template
  | .actionArticles _ | .action _ _ | .extra _ => none

namespace PathSettings

variable {p : PathSettings} {r : Router} {i : Nat} {s : PathSetting} {t : PathTemplate}

/-! ## A template for each setting -/

/-- Adding settings adds the list of their templates. -/
theorem foldlM_addSetting (p : PathSettings) : ∀ (ss : List PathSetting) (r : Router),
    ss.foldlM p.addSetting r = (ss.mapM p.template).map fun templates => ⟨r.templates ++ templates⟩
  | [], r => by
    show Except.ok r = Except.ok ⟨r.templates ++ []⟩
    rw [List.append_nil]
  | s :: ss, r => by
    rw [List.foldlM_cons, List.mapM_cons, addSetting]
    cases p.template s with
    | error e => rfl
    | ok t =>
      show ss.foldlM p.addSetting ⟨r.templates ++ [t]⟩ = _
      rw [foldlM_addSetting p ss]
      cases ss.mapM p.template with
      | error e => rfl
      | ok templates => exact congrArg (fun all => Except.ok (Router.mk all)) (List.append_assoc _ [t] templates)

/-- The router of a site has the templates of its settings. -/
theorem mapM_template_of_siteRouter (h : siteRouter p = .ok r) : p.settings.mapM p.template = .ok r.templates := by
  rw [siteRouter_eq_foldlM, foldlM_addSetting] at h
  obtain ⟨templates, htemplates, rfl⟩ := map_eq_ok_iff.mp h
  exact htemplates

/-- A setting has its template at its place. -/
theorem exists_template (h : siteRouter p = .ok r) (hs : p.settings[i]? = some s) :
    ∃ t, r.templates[i]? = some t ∧ p.template s = .ok t :=
  exists_getElem?_of_forall₂ (forall₂_of_mapM (mapM_template_of_siteRouter h)) hs

/-! ## Names of parameters -/

/-- No further route has two parameters of one name: its parameters are a table. -/
def HasParamTables (p : PathSettings) : Prop := ∀ route ∈ p.extraRoutes, (route.params.map Prod.fst).Nodup

theorem nodup_params (hp : p.HasParamTables) (hs : s ∈ p.settings) (ht : p.template s = .ok t) :
    (t.params.map Prod.fst).Nodup := by
  cases s with
  | actionArticles template => exact PathTemplate.nodup_names ht (by decide)
  | articles template =>
    obtain ⟨_, -, hcompile⟩ := bind_eq_ok_iff.mp ht
    exact PathTemplate.nodup_names hcompile (by decide)
  | action key template => exact PathTemplate.nodup_names ht (List.nodup_singleton "action")
  | extra route =>
    obtain ⟨_, -, hcompile⟩ := bind_eq_ok_iff.mp ht
    exact PathTemplate.nodup_names hcompile (hp route (by simpa [settings] using hs))
  | variantArticles template =>
    obtain ⟨_, -, hcompile⟩ := bind_eq_ok_iff.mp ht
    exact PathTemplate.nodup_names hcompile (List.nodup_singleton "variant")

/-- A path never has two parameters of one name. -/
theorem nodup_of_route (hp : p.HasParamTables) (h : siteRouter p = .ok r) {path : String}
    {params : List (String × String)} (hroute : r.route path = .matched i params) : (params.map Prod.fst).Nodup := by
  obtain ⟨⟨t, hi, hmatch⟩, -⟩ := Router.isFirstMatch_of_route_eq_matched hroute
  obtain ⟨s, hs, ht⟩ := exists_of_mem_mapM (List.mem_of_getElem? hi) (mapM_template_of_siteRouter h)
  rw [PathTemplate.names_of_match? hmatch]
  exact nodup_params hp hs ht

/-! ## Articles -/

/-- A template for the paths of articles that passes the check has the mark of the title somewhere in its text. -/
theorem titleMark_of_checkTitlePath {template setting : String} (h : checkTitlePath template setting = .ok ()) :
    titleMark <:+: template.toList := by
  unfold checkTitlePath at h
  split at h
  next => cases h
  next =>
    split at h
    next => cases h
    next hmark =>
      rw [Bool.not_eq_true', Bool.not_eq_false, Text.containsText, Option.isSome_iff_exists] at hmark
      obtain ⟨⟨before, after⟩, hcut⟩ := hmark
      exact ⟨before, after, (Text.append_of_cutText? hcut).symm⟩

/-- A setting for the paths of articles is checked and gives no title of its own. -/
theorem exists_compile_of_articles? {source : String} (hsource : s.articles? = some source)
    (ht : p.template s = .ok t) : titleMark <:+: source.toList ∧ ∃ params constraints,
      PathTemplate.compile source params constraints = .ok t ∧ "title" ∉ params.map Prod.fst := by
  cases s with
  | articles template =>
    obtain rfl := Option.some.inj hsource
    obtain ⟨_, hcheck, hcompile⟩ := bind_eq_ok_iff.mp ht
    exact ⟨titleMark_of_checkTitlePath hcheck, [], [], hcompile, by decide⟩
  | variantArticles template =>
    obtain rfl := Option.some.inj hsource
    obtain ⟨_, hcheck, hcompile⟩ := bind_eq_ok_iff.mp ht
    exact ⟨titleMark_of_checkTitlePath hcheck, _, _, hcompile, by decide⟩
  | actionArticles _ | action _ _ | extra _ => cases hsource

/-- **Paths of articles.** A setting for the paths of articles has the mark of the title in its text. Where this is the
whole name of a placeholder, every path of the setting's template has a title, which is the value of this placeholder
and not empty. Where the name goes on behind the mark, no path of the template has one. -/
theorem articles_title (h : siteRouter p = .ok r) (hs : p.settings[i]? = some s) {source : String}
    (hsource : s.articles? = some source) :
    titleMark <:+: source.toList ∧ ∃ t, r.templates[i]? = some t ∧ t.source = source ∧
      ∀ path params, t.match? path = some params →
        (HasPlaceholder source.toList "1" → ∃ pieces title, Binds t.segments path.toList pieces ∧
          IsFirstValue (placeholderNames t.segments) pieces "1" title ∧ title ≠ "" ∧
            valueOf? params "title" = some title) ∧
        (¬ HasPlaceholder source.toList "1" → valueOf? params "title" = none) := by
  obtain ⟨t, hi, ht⟩ := exists_template h hs
  obtain ⟨hmark, given, constraints, hcompile, hgiven⟩ := exists_compile_of_articles? hsource ht
  refine ⟨hmark, t, hi, (PathTemplate.exists_params_of_compile hcompile).1, fun path params hmatch => ?_⟩
  obtain ⟨htitle, hnone⟩ := PathTemplate.valueOf?_title hcompile hgiven hmatch
  refine ⟨fun hone => ?_, hnone⟩
  obtain ⟨pieces, title, hbinds, hfirst, hvalue⟩ := htitle hone
  exact ⟨pieces, title, hbinds, hfirst, hfirst.ne_empty hbinds, hvalue⟩

theorem articles_title_variant :
    let p : PathSettings := { variantArticlePath := some "/$2/$1", variants := ["zh-hans", "zh-hant"] }
    ∃ r, siteRouter p = .ok r ∧ r.templates[1]? = some PathTemplate.variantArticles ∧
      PathTemplate.variantArticles.match? "/zh-hans/Foo%20Bar" = some [("title", "Foo Bar"), ("variant", "zh-hans")] ∧
      ∃ pieces title, Binds PathTemplate.variantArticles.segments "/zh-hans/Foo%20Bar".toList pieces ∧
        IsFirstValue ["2", "1"] pieces "1" title ∧ title ≠ "" ∧ title = "Foo Bar" := by
  intro p
  let t : PathTemplate := ⟨"/wiki/$1", [.literal "/wiki/", .placeholder "1"], [("title", [.placeholder "1"])], []⟩
  have hrouter : siteRouter p = .ok ⟨[t, PathTemplate.variantArticles]⟩ := by decide +kernel
  have hmatch : PathTemplate.variantArticles.match? "/zh-hans/Foo%20Bar" =
      some [("title", "Foo Bar"), ("variant", "zh-hans")] := by decide +kernel
  obtain ⟨-, other, hother, -, htitle⟩ := articles_title hrouter (i := 1) (s := .variantArticles "/$2/$1") rfl rfl
  obtain rfl := Option.some.inj hother
  obtain ⟨pieces, title, hbinds, hfirst, hempty, hvalue⟩ :=
    (htitle _ _ hmatch).1 ⟨['/', '$', '2', '/'], [], rfl, by simp⟩
  exact ⟨_, hrouter, rfl, hmatch, pieces, title, hbinds, hfirst, hempty, (Option.some.inj hvalue).symm⟩

/-- In these settings, the name of a placeholder goes on behind the mark of the title. Paths of their templates have no
title. -/
theorem articles_title_longer_name :
    let p : PathSettings :=
      { articlePath := "/wiki/$10", variantArticlePath := some "/$2/$1x", variants := ["de"] }
    p.settings.map PathSetting.articles? = [some "/wiki/$10", some "/$2/$1x"] ∧
      (siteRouter p).map (fun r => [r.route "/wiki/Foo", r.route "/de/Foo"]) =
        .ok [.matched 0 [], .matched 1 [("variant", "de")]] := by
  intro p
  unfold p
  decide +kernel

/-! ## Actions -/

theorem fillKey_key (key : String) : fillKey key "$key" = key := by
  have hreplace : Text.replaceText ['$', 'k', 'e', 'y'] key.toList ['$', 'k', 'e', 'y'] = key.toList := by
    rw [Text.replaceText, if_pos (by decide)]
    show key.toList ++ Text.replaceText _ _ [] = _
    rw [Text.replaceText, List.append_nil]
  show String.ofList (Text.replaceText ['$', 'k', 'e', 'y'] key.toList ['$', 'k', 'e', 'y']) = key
  rw [hreplace, String.ofList_toList]

/-- **Paths of actions.** The name of an action is the text of its parameter, so that its placeholders stand for pieces
of the path. A name without dollar signs is the action of each path that leads to its template. A name with dollar signs
is not, if the path has neither dollar nor percent signs. -/
theorem action_rendered (h : siteRouter p = .ok r) {key template : String}
    (hs : p.settings[i]? = some (.action key template)) :
    ∃ t segments, r.templates[i]? = some t ∧ t.source = template ∧ parseSegments key = .ok segments ∧
      ∀ path params, r.route path = .matched i params → ∃ pieces action, Binds t.segments path.toList pieces ∧
        Renders (IsFirstValue (placeholderNames t.segments) pieces) segments action ∧
        valueOf? params "action" = some action ∧ ('$' ∉ key.toList → action = key) ∧
        ('$' ∈ key.toList → '$' ∉ path.toList → '%' ∉ path.toList → action ≠ key) := by
  obtain ⟨t, hi, ht⟩ := exists_template h hs
  have hcompile : PathTemplate.compile template [("action", key)] [] = .ok t := by
    rw [PathSettings.template, fillKey_key] at ht
    exact ht
  obtain ⟨segments, hparse, hvalue⟩ :=
    PathTemplate.valueOf?_given hcompile (List.nodup_singleton "action") List.mem_cons_self
  obtain ⟨htext, htemplate, -⟩ := isTemplate_of_segmentsFrom hparse
  refine ⟨t, segments, hi, (PathTemplate.exists_params_of_compile hcompile).1, hparse, fun path params hroute => ?_⟩
  obtain ⟨⟨other, hother, hmatch⟩, -⟩ := Router.isFirstMatch_of_route_eq_matched hroute
  obtain rfl := Option.some.inj (hother.symm.trans hi)
  obtain ⟨pieces, action, hbinds, hrenders, haction⟩ := hvalue path params hmatch
  refine ⟨pieces, action, hbinds, hrenders, haction, fun hplain => ?_, fun hdollar hpath hpercent hsame => ?_⟩
  · rw [← htext] at hplain
    rw [hrenders.eq_segmentsText hplain, ← String.toList_inj, htext]
  · -- only the path could bring a dollar sign into the action
    refine hrenders.dollar_not_mem htemplate.pieces (fun name value hfirst => ?_) (hsame ▸ hdollar)
    exact fun hmem => hpath (hfirst.subset hbinds hpercent hmem)

theorem action_rendered_purge :
    let p : PathSettings := { actionPaths := [("purge", "/purge/$1"), ("raw", "/raw/$1")] }
    ∃ r params, siteRouter p = .ok r ∧ p.settings[1]? = some (.action "purge" "/purge/$1") ∧
      r.route "/purge/Foo" = .matched 1 params ∧ valueOf? params "action" = some "purge" := by
  intro p
  have hroute : (siteRouter p).map (·.route "/purge/Foo") =
      .ok (.matched 1 [("title", "Foo"), ("action", "purge")]) := by
    unfold p
    decide +kernel
  obtain ⟨r, hrouter, hroute⟩ := map_eq_ok_iff.mp hroute
  have hsetting : p.settings[1]? = some (.action "purge" "/purge/$1") := rfl
  obtain ⟨_, _, -, -, -, hpaths⟩ := action_rendered hrouter hsetting
  obtain ⟨_, action, -, -, haction, hplain, -⟩ := hpaths "/purge/Foo" _ hroute
  rw [hplain (by decide)] at haction
  exact ⟨r, _, hrouter, hsetting, hroute, haction⟩

/-- The name of this action is a placeholder, so that the page is taken for the action. -/
theorem action_rendered_placeholder :
    let p : PathSettings := { actionPaths := [("$1", "/x/$1")] }
    p.settings = [.articles "/wiki/$1", .action "$1" "/x/$1"] ∧
      (siteRouter p).map (·.route "/x/Foo") = .ok (.matched 1 [("title", "Foo"), ("action", "Foo")]) := by
  intro p
  refine ⟨rfl, ?_⟩
  unfold p
  decide +kernel

end PathSettings

end WikiGateway
