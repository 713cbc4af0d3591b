import Mathlib.Data.List.Forall2
import WikiGateway.Route.Router

/-!
# Adding templates to a router

A call adds the templates of its entries at the end, up to the first one at fault (`RouterCall.Adds`,
`Router.exists_adds`). The templates that were there keep their places in front of them, and the first template that
matches a path decides (`Router.route_eq_matched_iff`), so that a path which leads anywhere goes on to lead there
(`Router.KeepsAnswers`).

* `Router.keepsAnswers_of_prefix`: more templates at the end.
* `Router.prefix_register`, `Router.prefix_registerAll`: one call, and a run of calls.
* `Router.register_keeps_answers`: all of this together.
-/

namespace WikiGateway

/-! ## What a call adds -/

namespace RouterCall

/-- The parameters of an entry of a table, with its key in the place of `$key`. -/
def keyedParams (params : List (String × String)) (key : String) : List (String × String) :=
  params.map fun (name, value) => (name, fillKey key value)

/-- Templates that are, one by one, those of the entries of a table. -/
def KeyedTemplates (params entries : List (String × String)) (templates : List PathTemplate) : Prop :=
  List.Forall₂ (fun entry t => PathTemplate.compile entry.2 (keyedParams params entry.1) [] = .ok t) entries templates

/-- The templates that a call adds, and the fault that ends it. With a fault, only the entries before the one at fault
are added, and for a single template nothing is. -/
inductive Adds : RouterCall → List PathTemplate → Option RouteError → Prop
  | template {template : String} {params : List (String × String)} {constraints : List (String × Constraint)}
      {t : PathTemplate} : PathTemplate.compile template params constraints = .ok t →
      Adds (.add template params constraints) [t] none
  | templateFault {template : String} {params : List (String × String)} {constraints : List (String × Constraint)}
      {e : RouteError} : PathTemplate.compile template params constraints = .error e →
      Adds (.add template params constraints) [] (some e)
  | entries {params entries : List (String × String)} {templates : List PathTemplate} :
      KeyedTemplates params entries templates → Adds (.addKeyed params entries) templates none
  | entryFault {params before after : List (String × String)} {templates : List PathTemplate} {key template : String}
      {e : RouteError} : KeyedTemplates params before templates →
      PathTemplate.compile template (keyedParams params key) [] = .error e →
      Adds (.addKeyed params (before ++ (key, template) :: after)) templates (some e)

/-- One more entry in front of a table. -/
theorem Adds.cons {params entries : List (String × String)} {key template : String} {t : PathTemplate}
    {templates : List PathTemplate} {fault : Option RouteError} (h : Adds (.addKeyed params entries) templates fault)
    (hfirst : PathTemplate.compile template (keyedParams params key) [] = .ok t) :
    Adds (.addKeyed params ((key, template) :: entries)) (t :: templates) fault := by
  cases h with
  | entries hkeyed => exact .entries (.cons hfirst hkeyed)
  | entryFault hbefore hfault =>
    rw [← List.cons_append]
    exact .entryFault (.cons hfirst hbefore) hfault

end RouterCall

namespace Router

variable {r r' : Router} {path : String}

theorem addKeyed_cons (r : Router) (params entries : List (String × String)) (key template : String) :
    r.addKeyed params ((key, template) :: entries) =
      match PathTemplate.compile template (RouterCall.keyedParams params key) [] with
      | .error e => (r, some e)
      | .ok t => addKeyed ⟨r.templates ++ [t]⟩ params entries := by
  rw [addKeyed, add]
  unfold RouterCall.keyedParams
  cases PathTemplate.compile template (params.map fun (name, value) => (name, fillKey key value)) [] <;> rfl

/-- The entries of a table are added one after the other. -/
theorem addKeyed_adds (params : List (String × String)) : ∀ (entries : List (String × String)) (r : Router),
    ∃ added, RouterCall.Adds (.addKeyed params entries) added (r.addKeyed params entries).2 ∧
      (r.addKeyed params entries).1.templates = r.templates ++ added
  | [], r => ⟨[], .entries .nil, (List.append_nil _).symm⟩
  | (key, template) :: entries, r => by
    rw [addKeyed_cons]
    cases hcompile : PathTemplate.compile template (RouterCall.keyedParams params key) [] with
    | error e =>
      refine ⟨[], ?_, (List.append_nil _).symm⟩
      rw [← List.nil_append ((key, template) :: entries)]
      exact .entryFault .nil hcompile
    | ok t =>
      obtain ⟨added, hadds, htemplates⟩ := addKeyed_adds params entries ⟨r.templates ++ [t]⟩
      exact ⟨t :: added, hadds.cons hcompile, htemplates.trans (List.append_assoc _ [t] added)⟩

/-- A call adds the templates of its entries at the end, up to the first fault. -/
theorem exists_adds (r : Router) (call : RouterCall) :
    ∃ added, call.Adds added (r.register call).2 ∧ (r.register call).1.templates = r.templates ++ added := by
  cases call with
  | addKeyed params entries => exact addKeyed_adds params entries r
  | add template params constraints =>
    rw [register, add]
    cases hcompile : PathTemplate.compile template params constraints with
    | error e => exact ⟨[], .templateFault hcompile, (List.append_nil _).symm⟩
    | ok t => exact ⟨[t], .template hcompile, rfl⟩

/-! ## The first template that matches -/

/-- A template of an index is the first of a list that matches a path, which has some parameters by it. -/
def IsFirstMatch (templates : List PathTemplate) (path : String) (i : Nat) (params : List (String × String)) : Prop :=
  (∃ t, templates[i]? = some t ∧ t.match? path = some params) ∧
    ∀ j < i, ∀ t, templates[j]? = some t → t.match? path = none

section
variable {t : PathTemplate} {templates : List PathTemplate} {params : List (String × String)} {i : Nat}

/-- If the template in front matches, it is the first one. -/
theorem isFirstMatch_cons_of_some {found : List (String × String)} (h : t.match? path = some found) :
    IsFirstMatch (t :: templates) path i params ↔ i = 0 ∧ params = found := by
  constructor
  · rintro ⟨⟨other, hother, hparams⟩, hbefore⟩
    cases i with
    | zero =>
      obtain rfl := Option.some.inj hother
      exact ⟨rfl, Option.some.inj (hparams.symm.trans h)⟩
    | succ i =>
      have hnone := hbefore 0 (Nat.succ_pos i) t rfl
      cases hnone.symm.trans h
  · rintro ⟨rfl, rfl⟩
    exact ⟨⟨t, rfl, h⟩, fun j hj => absurd hj (Nat.not_lt_zero j)⟩

/-- If it does not, the first one is behind it. -/
theorem isFirstMatch_cons_of_none (h : t.match? path = none) :
    IsFirstMatch (t :: templates) path i params ↔ ∃ k, i = k + 1 ∧ IsFirstMatch templates path k params := by
  constructor
  · rintro ⟨⟨other, hother, hparams⟩, hbefore⟩
    cases i with
    | zero =>
      obtain rfl := Option.some.inj hother
      cases hparams.symm.trans h
    | succ i => exact ⟨i, rfl, ⟨other, hother, hparams⟩, fun j hj => hbefore (j + 1) (Nat.succ_lt_succ hj)⟩
  · rintro ⟨k, rfl, hthis, hbefore⟩
    refine ⟨hthis, fun j hj other hother => ?_⟩
    cases j with
    | zero =>
      obtain rfl := Option.some.inj hother
      exact h
    | succ j => exact hbefore j (Nat.lt_of_succ_lt_succ hj) other hother

end

theorem firstMatch_eq_matched_iff {params : List (String × String)} : ∀ {templates : List PathTemplate} {index i : Nat},
    firstMatch path index templates = .matched i params ↔ ∃ k, i = index + k ∧ IsFirstMatch templates path k params
  | [], index, i => by simp [firstMatch, IsFirstMatch]
  | t :: templates, index, i => by
    rw [firstMatch]
    cases hmatch : t.match? path with
    | some found => simp [isFirstMatch_cons_of_some hmatch, eq_comm]
    | none =>
      simp only [isFirstMatch_cons_of_none hmatch]
      rw [firstMatch_eq_matched_iff]
      constructor
      · rintro ⟨k, rfl, hfirst⟩
        exact ⟨k + 1, by omega, k, rfl, hfirst⟩
      · rintro ⟨_, rfl, k, rfl, hfirst⟩
        exact ⟨k, by omega, hfirst⟩

/-- A path other than the home leads to the first template that matches it. -/
theorem route_eq_matched_iff (hempty : path ≠ "") (hslash : path ≠ "/") {i : Nat} {params : List (String × String)} :
    r.route path = .matched i params ↔ IsFirstMatch r.templates path i params := by
  rw [route, if_neg (not_or.mpr ⟨hempty, hslash⟩), firstMatch_eq_matched_iff]
  simp

theorem firstMatch_ne_home : ∀ {templates : List PathTemplate} {index : Nat}, firstMatch path index templates ≠ .home
  | [], _ => RouteMatch.noConfusion
  | t :: templates, index => by
    rw [firstMatch]
    split
    next => exact RouteMatch.noConfusion
    next => exact firstMatch_ne_home

/-- The home is the same for all routers. -/
theorem route_eq_home_iff : r.route path = .home ↔ path = "" ∨ path = "/" := by
  unfold route
  split
  next hhome => exact iff_of_true rfl hhome
  next hother => exact iff_of_false firstMatch_ne_home hother

theorem ne_home_of_route_eq_matched {i : Nat} {params : List (String × String)}
    (h : r.route path = .matched i params) : path ≠ "" ∧ path ≠ "/" := by
  rw [← not_or, ← @route_eq_home_iff r, h]
  exact RouteMatch.noConfusion

/-- The template to which a path leads is the first one that matches it. -/
theorem isFirstMatch_of_route_eq_matched {i : Nat} {params : List (String × String)}
    (h : r.route path = .matched i params) : IsFirstMatch r.templates path i params := by
  obtain ⟨hempty, hslash⟩ := ne_home_of_route_eq_matched h
  exact (route_eq_matched_iff hempty hslash).mp h

/-- More templates behind the first one that matches do not matter. -/
theorem IsFirstMatch.append {templates : List PathTemplate} {i : Nat} {params : List (String × String)}
    (h : IsFirstMatch templates path i params) (added : List PathTemplate) :
    IsFirstMatch (templates ++ added) path i params := by
  obtain ⟨⟨t, ht, hparams⟩, hbefore⟩ := h
  have hlt := (List.getElem?_eq_some_iff.mp ht).1
  refine ⟨⟨t, by rw [List.getElem?_append_left hlt, ht], hparams⟩, fun j hj other hother => ?_⟩
  rw [List.getElem?_append_left (Nat.lt_trans hj hlt)] at hother
  exact hbefore j hj other hother

/-! ## Answers that are kept -/

/-- Every path that leads to the home or to a template leads to the same in another router, with the same parameters.
A path that leads nowhere still does, or leads to a template that the other router has behind those of the first. -/
structure KeepsAnswers (r r' : Router) : Prop where
  kept : ∀ path, r.route path ≠ .nowhere → r'.route path = r.route path
  gained : ∀ path, r.route path = .nowhere → r'.route path = .nowhere ∨
    ∃ i params, r'.route path = .matched i params ∧ r.size ≤ i ∧ i < r'.size

/-- More templates at the end keep the answers. -/
theorem keepsAnswers_of_prefix (h : r.templates <+: r'.templates) : r.KeepsAnswers r' := by
  obtain ⟨added, hadded⟩ := h
  constructor
  · intro path hsomewhere
    cases hroute : r.route path with
    | nowhere => exact absurd hroute hsomewhere
    | home => exact route_eq_home_iff.mpr (route_eq_home_iff.mp hroute)
    | matched i params =>
      obtain ⟨hempty, hslash⟩ := ne_home_of_route_eq_matched hroute
      rw [route_eq_matched_iff hempty hslash] at hroute ⊢
      rw [← hadded]
      exact hroute.append added
  · intro path hnowhere
    obtain ⟨hempty, hslash, hnone⟩ := route_eq_nowhere_iff.mp hnowhere
    cases hroute : r'.route path with
    | nowhere => exact .inl rfl
    | home => exact absurd (route_eq_home_iff.mp hroute) (not_or.mpr ⟨hempty, hslash⟩)
    | matched i params =>
      obtain ⟨⟨t, ht, hparams⟩, -⟩ := isFirstMatch_of_route_eq_matched hroute
      refine .inr ⟨i, params, rfl, ?_, (List.getElem?_eq_some_iff.mp ht).1⟩
      -- a template of the first router would have matched there
      by_contra hlt
      rw [← hadded, List.getElem?_append_left (Nat.lt_of_not_le hlt)] at ht
      rw [hnone t (List.mem_of_getElem? ht)] at hparams
      cases hparams

/-! ## Calls -/

/-- The router after a run of calls, whether they end with a fault or not. -/
def registerAll (r : Router) (calls : List RouterCall) : Router := calls.foldl (fun r call => (r.register call).1) r

theorem prefix_register (r : Router) (call : RouterCall) : r.templates <+: (r.register call).1.templates := by
  obtain ⟨added, -, htemplates⟩ := r.exists_adds call
  exact ⟨added, htemplates.symm⟩

theorem prefix_registerAll : ∀ (calls : List RouterCall) (r : Router), r.templates <+: (r.registerAll calls).templates
  | [], r => List.prefix_refl r.templates
  | call :: calls, r => (prefix_register r call).trans (prefix_registerAll calls (r.register call).1)

/-- **Adding templates keeps the answers.** A call adds the templates of its entries at the end, up to the first fault:
a single template at fault adds nothing, and a table the entries before the one at fault. After it, and after any run of
such calls, every path that led to the home or to a template leads to the same; one that led nowhere may lead to a
template that has been added. A path other than the home leads to the first template that matches it. -/
theorem register_keeps_answers (r : Router) :
    (∀ call, (∃ added, call.Adds added (r.register call).2 ∧ (r.register call).1.templates = r.templates ++ added) ∧
      r.KeepsAnswers (r.register call).1) ∧
    (∀ calls, r.KeepsAnswers (r.registerAll calls)) ∧
    ∀ path, path ≠ "" → path ≠ "/" → ∀ i params,
      r.route path = .matched i params ↔ IsFirstMatch r.templates path i params := by
  refine ⟨fun call => ⟨r.exists_adds call, ?_⟩, fun calls => ?_, ?_⟩
  · exact keepsAnswers_of_prefix (prefix_register r call)
  · exact keepsAnswers_of_prefix (prefix_registerAll calls r)
  · intro path hempty hslash i params
    exact route_eq_matched_iff hempty hslash

/-- A table whose second entry is at fault, added behind the template of articles. -/
theorem register_keeps_answers_faulty_table :
    let r := ({} : Router).registerAll [.add "/wiki/$1" [] []]
    let call : RouterCall :=
      .addKeyed [("action", "$key")] [("raw", "/raw/$1"), ("bad", "b/$1"), ("purge", "/purge/$1")]
    let later := (r.register call).1
    (r.register call).2 = some (.missingLeadingSlash "b/$1") ∧
    later.templates.map (·.source) = ["/wiki/$1", "/raw/$1"] ∧
    r.route "/wiki/raw/Foo" = .matched 0 [("title", "raw/Foo")] ∧
    later.route "/wiki/raw/Foo" = .matched 0 [("title", "raw/Foo")] ∧ r.route "/raw/Foo" = .nowhere ∧
    IsFirstMatch later.templates "/raw/Foo" 1 [("title", "Foo"), ("action", "raw")] := by
  intro r call later
  have hfault : (r.register call).2 = some (.missingLeadingSlash "b/$1") ∧
      later.templates.map (·.source) = ["/wiki/$1", "/raw/$1"] := by
    unfold later call r
    decide +kernel
  have hbefore : r.route "/wiki/raw/Foo" = .matched 0 [("title", "raw/Foo")] ∧ r.route "/raw/Foo" = .nowhere := by
    unfold r
    decide +kernel
  have hafter : later.route "/raw/Foo" = .matched 1 [("title", "Foo"), ("action", "raw")] := by
    unfold later call r
    decide +kernel
  obtain ⟨hcall, -, -⟩ := register_keeps_answers r
  obtain ⟨-, -, hfirst⟩ := register_keeps_answers later
  have hkept := (hcall call).2.kept "/wiki/raw/Foo" (by rw [hbefore.1]; exact RouteMatch.noConfusion)
  exact ⟨hfault.1, hfault.2, hbefore.1, hkept.trans hbefore.1, hbefore.2,
    (hfirst "/raw/Foo" (by decide) (by decide) 1 _).mp hafter⟩

end Router

end WikiGateway
