import WikiGateway.Proofs.Route.Template
import WikiGateway.Proofs.Text.Percent

/-!
# What a path gives to parameters

The parameters of a path are those of its template in their order (`PathTemplate.names_of_match?`): the given ones,
after the title that the placeholder `$1` implies. Each has its text with the pieces of the path in it, of which none is
empty (`IsFirstValue.ne_empty`).

* `valueOf?_eq_some_iff_mem`: where no name comes twice, a look-up finds the entry of a name.
* `mem_placeholderNames_iff`: a template has a placeholder if its text has the dollar sign with the whole name.
* `Renders.eq_segmentsText`, `Renders.dollar_not_mem`: a text without dollar signs stands for itself, and what is put in
  for placeholders may have some only if the path does.
* `PathTemplate.exists_binds_of_match?`, `PathTemplate.nodup_names`: the parameters of a path, no two of one name.
* `PathTemplate.valueOf?_title`, `PathTemplate.valueOf?_given`: the title that is implied, and a parameter that is
  given.
-/

namespace WikiGateway

/-! ## Look-ups by name -/

section
variable {fields : List (String × String)} {name value : String}

theorem valueOf?_eq_none_iff : valueOf? fields name = none ↔ name ∉ fields.map Prod.fst := find?_key_eq_none_iff

/-- Where no name comes twice, a look-up finds the entry of a name. -/
theorem valueOf?_eq_some_iff_mem : ∀ {fields : List (String × String)}, (fields.map Prod.fst).Nodup →
    (valueOf? fields name = some value ↔ (name, value) ∈ fields)
  | [], _ => by simp [valueOf?]
  | (first, piece) :: fields, h => by
    obtain ⟨hfirst, hrest⟩ := List.nodup_cons.mp h
    rw [valueOf?_cons, List.mem_cons, Prod.mk.injEq]
    split
    next hname =>
      subst hname
      have hnot : (first, value) ∉ fields := fun hmem => hfirst (List.mem_map.mpr ⟨_, hmem, rfl⟩)
      simp [hnot, eq_comm]
    next hname =>
      rw [valueOf?_eq_some_iff_mem hrest]
      simp [Ne.symm hname]

end

/-! ## Placeholders in the text of a template -/

/-- Whether a placeholder stands in a text: its dollar sign and name, and no character behind it that goes on with the
name. -/
def HasPlaceholder (text : List Char) (name : String) : Prop :=
  ∃ before after, text = before ++ '$' :: (name.toList ++ after) ∧ ∀ c ∈ after.head?, isPlaceholderChar c = false

section
variable {front rest : List Char} {name first : String}

/-- Text without dollar signs in front does not matter. -/
theorem hasPlaceholder_append (h : '$' ∉ front) : HasPlaceholder (front ++ rest) name ↔ HasPlaceholder rest name := by
  constructor
  · rintro ⟨before, after, htext, hend⟩
    rcases List.append_eq_append_iff.mp htext with ⟨as, -, hrest⟩ | ⟨bs, hfront, hrest⟩
    · exact ⟨as, after, hrest, hend⟩
    · cases bs with
      | nil => exact ⟨[], after, hrest.symm, hend⟩
      | cons c bs =>
        obtain ⟨rfl, -⟩ := List.cons.inj hrest
        exact absurd (hfront ▸ by simp) h
  · rintro ⟨before, after, rfl, hend⟩
    exact ⟨front ++ before, after, (List.append_assoc _ _ _).symm, hend⟩

/-- A placeholder in front is the first one of a text. -/
theorem hasPlaceholder_placeholder (hname : (Segment.placeholder name).IsPiece)
    (hfirst : (Segment.placeholder first).IsPiece) (hend : ∀ c ∈ rest.head?, isPlaceholderChar c = false) :
    HasPlaceholder ('$' :: (first.toList ++ rest)) name ↔ name = first ∨ HasPlaceholder rest name := by
  have hdollar : '$' ∉ first.toList := fun hmem => absurd (hfirst.2 _ hmem) (by decide)
  constructor
  · rintro ⟨before, after, htext, hafter⟩
    cases before with
    | nil =>
      -- both names go on up to the first character that no name has
      have hrun := (takeWhile_append_of_head? hfirst.isPlaceholderChar hend).1
      rw [(List.cons.inj htext).2, (takeWhile_append_of_head? hname.isPlaceholderChar hafter).1] at hrun
      exact .inl (String.toList_inj.mp hrun)
    | cons c before =>
      exact .inr ((hasPlaceholder_append hdollar).mp ⟨before, after, (List.cons.inj htext).2, hafter⟩)
  · rintro (rfl | hrest)
    · exact ⟨[], rest, rfl, hend⟩
    · obtain ⟨before, after, htext, hafter⟩ := (hasPlaceholder_append hdollar).mpr hrest
      exact ⟨'$' :: before, after, by rw [htext]; rfl, hafter⟩

/-- A template has a placeholder if its text has the dollar sign with the whole name. -/
theorem mem_placeholderNames_iff (hname : (Segment.placeholder name).IsPiece) : ∀ {segments : List Segment},
    IsTemplate segments → (name ∈ placeholderNames segments ↔ HasPlaceholder (segmentsText segments).toList name)
  | [], _ => by simp [placeholderNames, HasPlaceholder]
  | .literal text :: segments, h => by
    obtain ⟨hpiece, -, htemplate⟩ := isTemplate_cons.mp h
    rw [toList_segmentsText_cons, Segment.text, hasPlaceholder_append hpiece.2]
    exact mem_placeholderNames_iff hname htemplate
  | .placeholder first :: segments, h => by
    obtain ⟨hpiece, hfits, htemplate⟩ := isTemplate_cons.mp h
    have hend := ((Segment.forall_fits_placeholder_iff htemplate).mp hfits).2
    rw [toList_segmentsText_cons, toList_text_placeholder, List.cons_append,
      hasPlaceholder_placeholder hname hpiece hend, ← mem_placeholderNames_iff hname htemplate]
    exact List.mem_cons

end

/-! ## Pieces of a path -/

theorem StandsAt.ne_nil {path piece : List Char} {start : Nat} {segments : List Segment}
    (h : StandsAt path start piece segments) : piece ≠ [] := by
  unfold StandsAt at h
  split at h
  next => exact h.1
  next => exact h

/-- A piece is a part of the path that is not empty. -/
theorem Binds.of_mem {piece : List Char} : ∀ {segments : List Segment} {path : List Char} {pieces : List (List Char)},
    Binds segments path pieces → piece ∈ pieces → piece ≠ [] ∧ piece ⊆ path
  | [], path, pieces, h, hmem => by
    rw [(binds_nil.mp h).2] at hmem
    cases hmem
  | .literal text :: rest, path, pieces, h, hmem => by
    obtain ⟨behind, rfl, hrest⟩ := binds_literal.mp h
    obtain ⟨hne, hsubset⟩ := hrest.of_mem hmem
    exact ⟨hne, fun c hc => List.mem_append_right _ (hsubset hc)⟩
  | .placeholder name :: rest, path, pieces, h, hmem => by
    obtain ⟨first, behind, others, rfl, rfl, hstands, hrest⟩ := binds_placeholder.mp h
    rcases List.mem_cons.mp hmem with rfl | hmem
    · exact ⟨hstands.ne_nil, fun c hc => List.mem_append_left _ hc⟩
    · obtain ⟨hne, hsubset⟩ := hrest.of_mem hmem
      exact ⟨hne, fun c hc => List.mem_append_right _ (hsubset hc)⟩

section
variable {segments valueSegments : List Segment} {path : List Char} {pieces : List (List Char)} {names : List String}
  {name value s : String}

/-- The value of a placeholder is not empty. -/
theorem IsFirstValue.ne_empty (hbinds : Binds segments path pieces) (h : IsFirstValue names pieces name value) :
    value ≠ "" := by
  obtain ⟨i, piece, -, -, hpiece, rfl⟩ := h
  have hne := (hbinds.of_mem (List.mem_of_getElem? hpiece)).1
  rw [Ne, Text.percentDecodeText_eq_empty_iff, ← String.toList_eq_nil_iff, String.toList_ofList]
  exact hne

/-- Without percent signs in the path, a value has only characters of the path. -/
theorem IsFirstValue.subset (hbinds : Binds segments path pieces) (hpercent : '%' ∉ path)
    (h : IsFirstValue names pieces name value) : value.toList ⊆ path := by
  obtain ⟨i, piece, -, -, hpiece, rfl⟩ := h
  have hsubset := (hbinds.of_mem (List.mem_of_getElem? hpiece)).2
  rw [Text.percentDecodeText_eq_self, String.toList_ofList]
  · exact hsubset
  · rw [String.toList_ofList]
    exact fun hmem => hpercent (hsubset hmem)

/-! ## Texts with values in them -/

/-- A text without dollar signs has no placeholders and stands for itself. -/
theorem Renders.eq_segmentsText {hasValue : String → String → Prop} (h : Renders hasValue segments s)
    (hdollar : '$' ∉ (segmentsText segments).toList) : s = segmentsText segments := by
  induction h with
  | nil => rfl
  | literal text _ ih =>
    rw [toList_segmentsText_cons, List.mem_append, not_or] at hdollar
    rw [ih hdollar.2, segmentsText, segmentsText, List.map_cons, String.join_cons, Segment.text]
  | placeholder _ _ _ =>
    rw [toList_segmentsText_cons, toList_text_placeholder, List.cons_append] at hdollar
    exact absurd List.mem_cons_self hdollar

/-- A text has dollar signs only if one of its values does. -/
theorem Renders.dollar_not_mem {hasValue : String → String → Prop} (h : Renders hasValue segments s)
    (hpieces : ∀ piece ∈ segments, piece.IsPiece) (hvalues : ∀ name value, hasValue name value → '$' ∉ value.toList) :
    '$' ∉ s.toList := by
  induction h with
  | nil => simp
  | literal text _ ih =>
    obtain ⟨hpiece, hpieces⟩ := List.forall_mem_cons.mp hpieces
    rw [String.toList_append, List.mem_append, not_or]
    exact ⟨hpiece.2, ih hpieces⟩
  | placeholder hvalue _ ih =>
    obtain ⟨-, hpieces⟩ := List.forall_mem_cons.mp hpieces
    rw [String.toList_append, List.mem_append, not_or]
    exact ⟨hvalues _ _ hvalue, ih hpieces⟩

end

/-! ## The parameters of a path -/

namespace PathTemplate

variable {source : String} {declared : List String} {params : List (String × String)}
  {constraints : List (String × Constraint)} {t : PathTemplate}

/-- The parameters keep their names. -/
theorem names_compileParams {compiled : List (String × List Segment)}
    (h : compileParams source declared params = .ok compiled) : compiled.map Prod.fst = params.map Prod.fst := by
  refine (map_eq_map_of_forall₂ (fun param made hmade => ?_) (forall₂_of_mapM h)).symm
  obtain ⟨segments, -, rfl⟩ := map_eq_ok_iff.mp hmade
  rfl

/-- A compiled template has the parameter that is implied and those that are given. -/
theorem exists_params_of_compile (h : compile source params constraints = .ok t) : t.source = source ∧
    ∃ compiled, compileParams source (placeholderNames t.segments) params = .ok compiled ∧
      t.params = impliedParams (placeholderNames t.segments) params ++ compiled := by
  unfold compile at h
  split at h
  next => cases h
  next =>
    split at h
    next => cases h
    next =>
      obtain ⟨segments, -, h⟩ := bind_eq_ok_iff.mp h
      obtain ⟨compiled, hcompiled, h⟩ := bind_eq_ok_iff.mp h
      obtain ⟨checked, -, h⟩ := bind_eq_ok_iff.mp h
      cases h
      exact ⟨rfl, compiled, hcompiled, rfl⟩

theorem parseSegments_of_compileValue {value : String} {segments : List Segment}
    (h : compileValue source declared value = .ok segments) : parseSegments value = .ok segments := by
  unfold compileValue at h
  split at h
  next => cases h
  next hparse =>
    split at h
    next => cases h
    next =>
      cases h
      exact hparse

/-- The title is implied if it is not given and its placeholder is there. -/
theorem impliedParams_eq : impliedParams declared params =
    if "1" ∈ declared ∧ "title" ∉ params.map Prod.fst then [("title", [.placeholder "1"])] else [] := by
  have hgiven : params.any (·.1 == "title") = true ↔ "title" ∈ params.map Prod.fst := by
    simp only [List.any_eq_true, beq_iff_eq, List.mem_map]
  unfold impliedParams
  refine if_congr ?_ rfl rfl
  rw [Bool.and_eq_true, List.contains_iff_mem, ← hgiven, Bool.not_eq_true', Bool.not_eq_true]

/-- The names of a template's parameters are as different as those that are given. -/
theorem nodup_names (h : compile source params constraints = .ok t) (hnames : (params.map Prod.fst).Nodup) :
    (t.params.map Prod.fst).Nodup := by
  obtain ⟨-, compiled, hcompiled, hparams⟩ := exists_params_of_compile h
  rw [hparams, List.map_append, names_compileParams hcompiled, impliedParams_eq]
  split
  next htitle => exact List.nodup_cons.mpr ⟨htitle.2, hnames⟩
  next => exact hnames

/-- A path has the parameters of the template, by name. -/
theorem names_of_match? {path : String} {out : List (String × String)} (h : t.match? path = some out) :
    out.map Prod.fst = t.params.map Prod.fst := by
  obtain ⟨_, -, rfl⟩ := Option.map_eq_some_iff.mp h
  rw [List.map_map]
  rfl

/-- The parameters of a path are those of the template, with pieces of the path in them. -/
theorem exists_binds_of_match? (h : compile source params constraints = .ok t) {path : String}
    {out : List (String × String)} (hmatch : t.match? path = some out) :
    ∃ pieces, Binds t.segments path.toList pieces ∧ out = t.filled pieces := by
  have htemplate := (isTemplate_of_segmentsFrom (of_compile_eq_ok h).1).2.1
  obtain ⟨bindings, hbindings, rfl⟩ := Option.map_eq_some_iff.mp hmatch
  obtain ⟨pieces, hbinds, rfl⟩ := (bindings?_eq_some_iff htemplate).mp (Option.filter_eq_some_iff.mp hbindings).1
  exact ⟨pieces, hbinds, rfl⟩

theorem isPiece_one : (Segment.placeholder "1").IsPiece := by decide

/-- The placeholders of a template are those of its text. -/
theorem mem_placeholderNames_segments_iff (h : compile source params constraints = .ok t) {name : String}
    (hname : (Segment.placeholder name).IsPiece) :
    name ∈ placeholderNames t.segments ↔ HasPlaceholder source.toList name := by
  obtain ⟨htext, htemplate, -⟩ := isTemplate_of_segmentsFrom (of_compile_eq_ok h).1
  rw [mem_placeholderNames_iff hname htemplate, htext]

/-- Where no title is given, the title of a path is the value of the first placeholder `$1`, if there is one. -/
theorem valueOf?_title (h : compile source params constraints = .ok t) (hgiven : "title" ∉ params.map Prod.fst)
    {path : String} {out : List (String × String)} (hmatch : t.match? path = some out) :
    (HasPlaceholder source.toList "1" → ∃ pieces title, Binds t.segments path.toList pieces ∧
      IsFirstValue (placeholderNames t.segments) pieces "1" title ∧ valueOf? out "title" = some title) ∧
    (¬ HasPlaceholder source.toList "1" → valueOf? out "title" = none) := by
  obtain ⟨-, compiled, hcompiled, hparams⟩ := exists_params_of_compile h
  obtain ⟨pieces, hbinds, rfl⟩ := exists_binds_of_match? h hmatch
  rw [← mem_placeholderNames_segments_iff h isPiece_one]
  constructor
  · intro hone
    obtain ⟨title, htitle⟩ := exists_isFirstValue hbinds.count hone
    refine ⟨pieces, title, hbinds, htitle, ?_⟩
    rw [impliedParams_eq, if_pos ⟨hone, hgiven⟩] at hparams
    rw [filled, hparams, List.singleton_append, List.map_cons, valueOf?_cons, if_pos rfl, fillSegments,
      List.map_singleton, Segment.fill, (valueOf?_eq_some_iff hbinds.count).mpr htitle]
    simp
  · intro hone
    rw [impliedParams_eq, if_neg fun himplied => hone himplied.1, List.nil_append] at hparams
    rw [valueOf?_eq_none_iff, names_of_match? hmatch, hparams, names_compileParams hcompiled]
    exact hgiven

/-- A parameter that is given has its text with pieces of the path in it. -/
theorem valueOf?_given (h : compile source params constraints = .ok t) (hnames : (params.map Prod.fst).Nodup)
    {name value : String} (hgiven : (name, value) ∈ params) :
    ∃ segments, parseSegments value = .ok segments ∧ ∀ path out, t.match? path = some out →
      ∃ pieces s, Binds t.segments path.toList pieces ∧
        Renders (IsFirstValue (placeholderNames t.segments) pieces) segments s ∧ valueOf? out name = some s := by
  obtain ⟨-, compiled, hcompiled, hparams⟩ := exists_params_of_compile h
  obtain ⟨i, hi⟩ := List.mem_iff_getElem?.mp hgiven
  obtain ⟨_, hparam, hmade⟩ := exists_getElem?_of_forall₂ (forall₂_of_mapM hcompiled) hi
  obtain ⟨segments, hvalue, rfl⟩ := map_eq_ok_iff.mp hmade
  have hmem : (name, segments) ∈ t.params := by
    rw [hparams]
    exact List.mem_append_right _ (List.mem_of_getElem? hparam)
  refine ⟨segments, parseSegments_of_compileValue hvalue, fun path out hmatch => ?_⟩
  obtain ⟨pieces, hbinds, rfl⟩ := exists_binds_of_match? h hmatch
  have hvalues : ∀ other ∈ placeholderNames segments, ∃ value,
      IsFirstValue (placeholderNames t.segments) pieces other value :=
    fun other hother => exists_isFirstValue hbinds.count ((of_compile_eq_ok h).2 _ hmem other hother)
  refine ⟨pieces, fillSegments (decodedBindings (placeholderNames t.segments) pieces) segments, hbinds, ?_, ?_⟩
  · exact (renders_iff (fun _ _ => valueOf?_eq_some_iff hbinds.count) hvalues).mpr rfl
  · rw [valueOf?_eq_some_iff_mem (by rw [names_of_match? hmatch]; exact nodup_names h hnames)]
    exact List.mem_map_of_mem hmem

end PathTemplate

end WikiGateway
