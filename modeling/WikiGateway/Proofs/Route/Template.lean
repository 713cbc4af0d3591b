import WikiGateway.Proofs.Route.Segment
import WikiGateway.Route.Template

/-!
# The paths of a template

A path is of the form of a template if pieces of it can stand for the placeholders (`Binds`): put in their places, they
give back the path, and none of them is empty. A piece in front of a text has no slash and ends at the first place where
this text can begin, so there is one choice of pieces at most. What the matcher takes, piece by piece from the front, is
this choice.

* `binds_literal`, `binds_placeholder`: pieces for the first segment and for the others.
* `bindPath?_eq_some_iff`, `Binds.unique`: the matcher finds the pieces, which are unique.
* `valueOf?_eq_some_iff`: the value of a name is that of its first placeholder.
* `renders_iff`: every placeholder of a parameter's value is one of the template, so it has a value.
* `match?_exact`: the parameters of a path.
-/

namespace WikiGateway

/-! ## Pieces in the place of placeholders -/

/-- The text of segments with pieces in the place of the placeholders, in order. -/
def substitute : List Segment → List (List Char) → List Char
  | [], _ => []
  | .literal text :: rest, pieces => text.toList ++ substitute rest pieces
  | .placeholder _ :: rest, [] => substitute rest []
  | .placeholder _ :: rest, piece :: pieces => piece ++ substitute rest pieces

/-- Whether a piece that starts at some position of a path can stand for a placeholder, by what is behind the
placeholder. In front of a text, the piece is not empty, has no slash, and the text does not occur in the path at any
position after the start of the piece and before its end. -/
def StandsAt (path : List Char) (start : Nat) (piece : List Char) : List Segment → Prop
  | .literal text :: _ => piece ≠ [] ∧ '/' ∉ piece ∧
      ∀ i, start < i → i < start + piece.length → ¬ text.toList <+: path.drop i
  | _ => piece ≠ []

/-- Pieces of a path that can stand for the placeholders of segments, in order. -/
structure Binds (segments : List Segment) (path : List Char) (pieces : List (List Char)) : Prop where
  count : pieces.length = (placeholderNames segments).length
  restores : substitute segments pieces = path
  /-- Each piece can stand for its placeholder, of which there are as many before it as there are pieces. -/
  stands : ∀ front name behind before piece after, segments = front ++ .placeholder name :: behind →
    pieces = before ++ piece :: after → before.length = (placeholderNames front).length →
      StandsAt path (substitute front before).length piece behind

section
variable {segments rest : List Segment} {path front piece : List Char} {pieces : List (List Char)} {name text : String}

/-- What is in front of a path moves positions. -/
theorem standsAt_append (front : List Char) (start : Nat) :
    StandsAt (front ++ path) (front.length + start) piece rest ↔ StandsAt path start piece rest := by
  unfold StandsAt
  split
  · refine and_congr_right fun _ => and_congr_right fun _ => ⟨fun h i hstart hend => ?_, fun h i hstart hend => ?_⟩
    · have hi := h (front.length + i) (by omega) (by omega)
      rwa [List.drop_length_add_append] at hi
    · obtain ⟨k, rfl⟩ := Nat.exists_eq_add_of_le (show front.length ≤ i by omega)
      rw [List.drop_length_add_append]
      exact h k (by omega) (by omega)
  · rfl

theorem binds_nil : Binds [] path pieces ↔ path = [] ∧ pieces = [] := by
  constructor
  · intro h
    exact ⟨h.restores.symm, List.eq_nil_of_length_eq_zero h.count⟩
  · rintro ⟨rfl, rfl⟩
    exact ⟨rfl, rfl, by simp⟩

/-- A text in front stands in the path as it is. -/
theorem binds_literal : Binds (.literal text :: rest) path pieces ↔
    ∃ behind, path = text.toList ++ behind ∧ Binds rest behind pieces := by
  constructor
  · intro h
    obtain rfl := h.restores
    refine ⟨_, rfl, h.count, rfl, fun front name behind before piece after hrest hpieces hbefore => ?_⟩
    have hstands := h.stands (.literal text :: front) name behind before piece after (by rw [hrest]; rfl) hpieces
      hbefore
    rw [substitute, substitute, List.length_append, standsAt_append] at hstands
    exact hstands
  · rintro ⟨_, rfl, h⟩
    refine ⟨h.count, by rw [substitute, h.restores], ?_⟩
    intro front name behind before piece after hsegments hpieces hbefore
    cases front with
    | nil => cases hsegments
    | cons s front =>
      obtain ⟨rfl, hrest⟩ := List.cons.inj hsegments
      rw [substitute, List.length_append, standsAt_append]
      exact h.stands front name behind before piece after hrest hpieces hbefore

/-- A placeholder in front stands for a piece at the front of the path. -/
theorem binds_placeholder : Binds (.placeholder name :: rest) path pieces ↔ ∃ piece behind others,
    pieces = piece :: others ∧ path = piece ++ behind ∧ StandsAt path 0 piece rest ∧ Binds rest behind others := by
  constructor
  · intro h
    cases pieces with
    | nil => cases h.count
    | cons piece others =>
      have hfirst := h.stands [] name rest [] piece others rfl rfl rfl
      obtain rfl := h.restores
      refine ⟨piece, _, others, rfl, rfl, hfirst, Nat.succ.inj h.count, rfl, ?_⟩
      intro front other behind before piece' after hrest hothers hbefore
      have hstands := h.stands (.placeholder name :: front) other behind (piece :: before) piece' after
        (by rw [hrest]; rfl) (by rw [hothers]; rfl) (congrArg Nat.succ hbefore)
      rw [substitute, substitute, List.length_append, standsAt_append] at hstands
      exact hstands
  · rintro ⟨piece, behind, others, rfl, rfl, hfirst, h⟩
    refine ⟨congrArg Nat.succ h.count, by rw [substitute, h.restores], ?_⟩
    intro front other behind' before piece' after hsegments hpieces hbefore
    cases front with
    | nil =>
      obtain ⟨-, rfl⟩ := List.cons.inj hsegments
      obtain rfl := List.eq_nil_of_length_eq_zero hbefore
      obtain ⟨rfl, -⟩ := List.cons.inj hpieces
      exact hfirst
    | cons s front =>
      obtain ⟨rfl, hrest⟩ := List.cons.inj hsegments
      cases before with
      | nil => cases hbefore
      | cons first before =>
        obtain ⟨rfl, hothers⟩ := List.cons.inj hpieces
        rw [substitute, List.length_append, standsAt_append]
        exact h.stands front other behind' before piece' after hrest hothers (Nat.succ.inj hbefore)

end

/-! ## What the matcher finds -/

section
variable {rest : List Segment} {path : List Char} {name text : String} {bound : List (String × List Char)}

theorem bindPath?_nil : bindPath? [] path = some bound ↔ path = [] ∧ bound = [] := by
  cases path <;> simp [bindPath?, eq_comm]

theorem bindPath?_literal : bindPath? (.literal text :: rest) path = some bound ↔
    ∃ behind, path = text.toList ++ behind ∧ bindPath? rest behind = some bound := by
  simp only [bindPath?, Option.bind_eq_some_iff, Text.dropPrefix?_eq_some_iff]

theorem bindPath?_last : bindPath? [.placeholder name] path = some bound ↔ path ≠ [] ∧ bound = [(name, path)] := by
  cases path <;> simp [bindPath?, eq_comm]

/-- A piece in front of a text ends at the first occurrence of this text behind its first character. -/
theorem standsAt_literal_iff {piece behind : List Char} :
    path = piece ++ (text.toList ++ behind) ∧ StandsAt path 0 piece (.literal text :: rest) ↔
      ∃ first before more, path = first :: more ∧ Text.cutText? text.toList more = some (before, behind) ∧
        '/' ∉ first :: before ∧ piece = first :: before := by
  constructor
  · rintro ⟨rfl, hpiece, hslash, hfirst⟩
    obtain ⟨first, before, rfl⟩ := List.exists_cons_of_ne_nil hpiece
    refine ⟨first, before, _, rfl, Text.cutText?_eq_some_iff.mpr ⟨(List.append_assoc _ _ _).symm, ?_⟩, hslash, rfl⟩
    intro i hi
    exact hfirst (i + 1) (Nat.succ_pos i) (by simpa using hi)
  · rintro ⟨first, before, more, rfl, hcut, hslash, rfl⟩
    obtain ⟨rfl, hfirst⟩ := Text.cutText?_eq_some_iff.mp hcut
    refine ⟨by simp, by simp, hslash, fun i hstart hend => ?_⟩
    obtain ⟨i, rfl⟩ := Nat.exists_eq_succ_of_ne_zero (Nat.ne_of_gt hstart)
    exact hfirst i (by simpa using hend)

theorem bindPath?_placeholder : bindPath? (.placeholder name :: .literal text :: rest) path = some bound ↔
    ∃ piece behind others, path = piece ++ (text.toList ++ behind) ∧ StandsAt path 0 piece (.literal text :: rest) ∧
      bindPath? rest behind = some others ∧ bound = (name, piece) :: others := by
  constructor
  · intro h
    cases path with
    | nil => cases h
    | cons first more =>
      rw [bindPath?] at h
      cases hcut : Text.cutText? text.toList more with
      | none => rw [hcut] at h; cases h
      | some sides =>
        obtain ⟨before, behind⟩ := sides
        rw [hcut] at h
        obtain ⟨hslash, h⟩ := Option.ite_none_left_eq_some.mp h
        obtain ⟨others, hothers, rfl⟩ := Option.map_eq_some_iff.mp h
        rw [List.contains_iff_mem] at hslash
        obtain ⟨hpath, hstands⟩ := standsAt_literal_iff.mpr ⟨first, before, more, rfl, hcut, hslash, rfl⟩
        exact ⟨_, behind, others, hpath, hstands, hothers, rfl⟩
  · rintro ⟨_, behind, others, hpath, hstands, hothers, rfl⟩
    obtain ⟨first, before, more, rfl, hcut, hslash, rfl⟩ := standsAt_literal_iff.mp ⟨hpath, hstands⟩
    rw [bindPath?, hcut]
    dsimp only
    rw [if_neg (by rwa [List.contains_iff_mem]), hothers, Option.map_some]

/-- The matcher finds the pieces that can stand for the placeholders. -/
theorem bindPath?_eq_some_iff : ∀ {segments : List Segment} {path : List Char} {bound : List (String × List Char)},
    segments.IsChain Segment.Fits → (bindPath? segments path = some bound ↔
      ∃ pieces, Binds segments path pieces ∧ bound = (placeholderNames segments).zip pieces)
  | [], path, bound, _ => by
    simp only [bindPath?_nil, binds_nil]
    constructor
    · rintro ⟨rfl, rfl⟩
      exact ⟨[], ⟨rfl, rfl⟩, rfl⟩
    · rintro ⟨_, ⟨rfl, rfl⟩, rfl⟩
      exact ⟨rfl, rfl⟩
  | .literal text :: rest, path, bound, h => by
    have ih := fun behind => @bindPath?_eq_some_iff rest behind bound h.tail
    simp only [bindPath?_literal, binds_literal, ih]
    constructor
    · rintro ⟨behind, rfl, pieces, hbinds, rfl⟩
      exact ⟨pieces, ⟨behind, rfl, hbinds⟩, rfl⟩
    · rintro ⟨pieces, ⟨behind, rfl, hbinds⟩, rfl⟩
      exact ⟨behind, rfl, pieces, hbinds, rfl⟩
  | [.placeholder name], path, bound, _ => by
    simp only [bindPath?_last, binds_placeholder, binds_nil]
    constructor
    · rintro ⟨hpath, rfl⟩
      exact ⟨[path], ⟨path, [], [], rfl, (List.append_nil path).symm, hpath, rfl, rfl⟩, rfl⟩
    · rintro ⟨_, ⟨piece, _, _, rfl, hpath, hpiece, rfl, rfl⟩, rfl⟩
      rw [List.append_nil] at hpath
      exact ⟨hpath ▸ hpiece, hpath ▸ rfl⟩
  | .placeholder name :: .literal text :: rest, path, bound, h => by
    have ih := fun behind others => @bindPath?_eq_some_iff rest behind others h.tail.tail
    simp only [bindPath?_placeholder, binds_placeholder, binds_literal, ih]
    constructor
    · rintro ⟨piece, behind, _, hpath, hstands, ⟨pieces, hbinds, rfl⟩, rfl⟩
      exact ⟨piece :: pieces, ⟨piece, _, pieces, rfl, hpath, hstands, behind, rfl, hbinds⟩, rfl⟩
    · rintro ⟨_, ⟨piece, _, pieces, rfl, hpath, hstands, behind, rfl, hbinds⟩, rfl⟩
      exact ⟨piece, behind, _, hpath, hstands, ⟨pieces, hbinds, rfl⟩, rfl⟩
  | .placeholder _ :: .placeholder _ :: _, _, _, h => absurd (List.isChain_cons_cons.mp h).1 id

/-- There is one choice of pieces at most. -/
theorem Binds.unique {segments : List Segment} (h : segments.IsChain Segment.Fits) {path : List Char}
    {pieces pieces' : List (List Char)} (hbinds : Binds segments path pieces) (hbinds' : Binds segments path pieces') :
    pieces = pieces' := by
  have hfound := (bindPath?_eq_some_iff h).mpr ⟨pieces, hbinds, rfl⟩
  have hfound' := (bindPath?_eq_some_iff h).mpr ⟨pieces', hbinds', rfl⟩
  have hzip := Option.some.inj (hfound.symm.trans hfound')
  rw [← List.map_snd_zip hbinds.count.le, hzip, List.map_snd_zip hbinds'.count.le]

end

/-! ## Values -/

/-- The decoded piece of the first placeholder of a name. -/
def IsFirstValue (names : List String) (pieces : List (List Char)) (name value : String) : Prop :=
  ∃ (i : Nat) (piece : List Char), names[i]? = some name ∧ (∀ j < i, names[j]? ≠ some name) ∧
    pieces[i]? = some piece ∧ value = Text.percentDecodeText (String.ofList piece)

/-- The pieces of placeholders, decoded. -/
def decodedBindings (names : List String) (pieces : List (List Char)) : List (String × String) :=
  (names.zip pieces).map fun (name, piece) => (name, Text.percentDecodeText (String.ofList piece))

theorem valueOf?_cons (first piece : String) (bindings : List (String × String)) (name : String) :
    valueOf? ((first, piece) :: bindings) name = if first = name then some piece else valueOf? bindings name := by
  rw [valueOf?, List.find?_cons]
  split
  next h => rw [if_pos (beq_iff_eq.mp h), Option.map_some]
  next h => rw [if_neg (beq_eq_false_iff_ne.mp h), valueOf?]

/-- The value of a name is that of its first placeholder. -/
theorem valueOf?_eq_some_iff {name value : String} : ∀ {names : List String} {pieces : List (List Char)},
    pieces.length = names.length →
      (valueOf? (decodedBindings names pieces) name = some value ↔ IsFirstValue names pieces name value)
  | [], pieces, _ => by simp [decodedBindings, valueOf?, IsFirstValue]
  | first :: names, [], h => by cases h
  | first :: names, piece :: pieces, h => by
    have ih := @valueOf?_eq_some_iff name value names pieces (Nat.succ.inj h)
    rw [decodedBindings, List.zip_cons_cons, List.map_cons, valueOf?_cons]
    split
    next hname =>
      constructor
      · intro hvalue
        exact ⟨0, piece, congrArg some hname, by simp, rfl, (Option.some.inj hvalue).symm⟩
      · rintro ⟨i, other, -, hfirst, hpiece, rfl⟩
        cases i with
        | zero => rw [← Option.some.inj hpiece]
        | succ i => exact absurd (congrArg some hname) (hfirst 0 (Nat.succ_pos i))
    next hname =>
      refine ih.trans ⟨?_, ?_⟩
      · rintro ⟨i, other, hi, hfirst, hpiece, hvalue⟩
        refine ⟨i + 1, other, hi, fun j hj => ?_, hpiece, hvalue⟩
        cases j with
        | zero => exact fun h => hname (Option.some.inj h)
        | succ j => exact hfirst j (Nat.lt_of_succ_lt_succ hj)
      · rintro ⟨i, other, hi, hfirst, hpiece, hvalue⟩
        cases i with
        | zero => exact absurd (Option.some.inj hi) hname
        | succ i => exact ⟨i, other, hi, fun j hj => hfirst (j + 1) (Nat.succ_lt_succ hj), hpiece, hvalue⟩

/-- The name of a placeholder has a value. -/
theorem exists_isFirstValue {name : String} : ∀ {names : List String} {pieces : List (List Char)},
    pieces.length = names.length → name ∈ names → ∃ value, IsFirstValue names pieces name value := by
  intro names pieces h hname
  simp only [← valueOf?_eq_some_iff h]
  induction names generalizing pieces with
  | nil => cases hname
  | cons first names ih =>
    cases pieces with
    | nil => cases h
    | cons piece pieces =>
      rw [decodedBindings, List.zip_cons_cons, List.map_cons]
      simp only [valueOf?_cons]
      split
      next => exact ⟨_, rfl⟩
      next hother => exact ih (Nat.succ.inj h) ((List.mem_cons.mp hname).resolve_left (Ne.symm hother))

/-- The text of segments where every placeholder stands for a value. -/
inductive Renders (hasValue : String → String → Prop) : List Segment → String → Prop
  | nil : Renders hasValue [] ""
  | literal {rest : List Segment} {s : String} (text : String) : Renders hasValue rest s →
      Renders hasValue (.literal text :: rest) (text ++ s)
  | placeholder {rest : List Segment} {name value s : String} : hasValue name value → Renders hasValue rest s →
      Renders hasValue (.placeholder name :: rest) (value ++ s)

/-- If every placeholder has a value, the text is the one that is filled in. -/
theorem renders_iff {bindings : List (String × String)} {hasValue : String → String → Prop}
    (hvalue : ∀ name value, valueOf? bindings name = some value ↔ hasValue name value) :
    ∀ {segments : List Segment} {s : String}, (∀ name ∈ placeholderNames segments, ∃ value, hasValue name value) →
      (Renders hasValue segments s ↔ s = fillSegments bindings segments)
  | [], s, _ => by
    constructor
    · rintro ⟨⟩
      rfl
    · rintro rfl
      exact .nil
  | .literal text :: rest, s, h => by
    have ih := fun s => @renders_iff _ _ hvalue rest s h
    have hfill : fillSegments bindings (.literal text :: rest) = text ++ fillSegments bindings rest := by
      rw [fillSegments, List.map_cons, String.join_cons, Segment.fill, fillSegments]
    rw [hfill]
    constructor
    · rintro (_ | ⟨_, hrest⟩)
      rw [(ih _).mp hrest]
    · rintro rfl
      exact .literal text ((ih _).mpr rfl)
  | .placeholder name :: rest, s, h => by
    have ih := fun s => @renders_iff _ _ hvalue rest s fun other hother => h other (List.mem_cons_of_mem name hother)
    obtain ⟨value, hname⟩ := h name List.mem_cons_self
    have hfill : fillSegments bindings (.placeholder name :: rest) = value ++ fillSegments bindings rest := by
      rw [fillSegments, List.map_cons, String.join_cons, Segment.fill, (hvalue name value).mpr hname, fillSegments]
      rfl
    rw [hfill]
    constructor
    · rintro (_ | _ | ⟨hother, hrest⟩)
      have hsame := ((hvalue _ _).mpr hother).symm.trans ((hvalue _ _).mpr hname)
      rw [(ih _).mp hrest, Option.some.inj hsame]
    · rintro rfl
      exact .placeholder hname ((ih _).mpr rfl)

/-! ## Templates -/

namespace PathTemplate

variable {source : String} {params : List (String × String)} {constraints : List (String × Constraint)}
  {t : PathTemplate}

/-- Every constraint allows the value of its placeholder. -/
def Allows (t : PathTemplate) (pieces : List (List Char)) : Prop :=
  ∀ c ∈ t.constraints, ∃ value, IsFirstValue (placeholderNames t.segments) pieces c.1 value ∧ c.2.allows value = true

/-- The parameters in their order, with the values of the placeholders in their texts. -/
def Yields (t : PathTemplate) (pieces : List (List Char)) (out : List (String × String)) : Prop :=
  List.Forall₂ (fun param field => field.1 = param.1 ∧
    Renders (IsFirstValue (placeholderNames t.segments) pieces) param.2 field.2) t.params out

/-- The placeholders of a parameter's text are declared. -/
theorem declared_of_compileValue {declared : List String} {value : String} {segments : List Segment}
    (h : compileValue source declared value = .ok segments) : ∀ name ∈ placeholderNames segments, name ∈ declared := by
  unfold compileValue at h
  split at h
  next => cases h
  next =>
    split at h
    next => cases h
    next hnone =>
      cases h
      intro name hname
      simpa using List.find?_eq_none.mp hnone name hname

/-- The parameter that is implied stands for a placeholder that is declared. -/
theorem declared_of_impliedParams {declared : List String} {param : String × List Segment}
    (h : param ∈ impliedParams declared params) : ∀ name ∈ placeholderNames param.2, name ∈ declared := by
  unfold impliedParams at h
  split at h
  next htitle =>
    obtain rfl := List.mem_singleton.mp h
    rw [Bool.and_eq_true, List.contains_iff_mem] at htitle
    simpa [placeholderNames, Segment.name?] using htitle.1
  next => cases h

/-- The segments of a compiled template are read of its text, and the placeholders of its parameters are its own. -/
theorem of_compile_eq_ok (h : compile source params constraints = .ok t) :
    parseSegments source = .ok t.segments ∧
      ∀ param ∈ t.params, ∀ name ∈ placeholderNames param.2, name ∈ placeholderNames t.segments := by
  unfold compile at h
  split at h
  next => cases h
  next =>
    split at h
    next => cases h
    next =>
      obtain ⟨segments, hsegments, h⟩ := bind_eq_ok_iff.mp h
      obtain ⟨compiled, hcompiled, h⟩ := bind_eq_ok_iff.mp h
      obtain ⟨checked, -, h⟩ := bind_eq_ok_iff.mp h
      cases h
      refine ⟨hsegments, fun param hparam => ?_⟩
      rcases List.mem_append.mp hparam with himplied | hgiven
      · exact declared_of_impliedParams himplied
      · obtain ⟨given, -, hmade⟩ := exists_of_mem_mapM hgiven hcompiled
        obtain ⟨value, hvalue, rfl⟩ := map_eq_ok_iff.mp hmade
        exact declared_of_compileValue hvalue

/-- The values that the matcher takes, by name. -/
theorem bindings?_eq_some_iff (h : IsTemplate t.segments) {path : String} {bindings : List (String × String)} :
    t.bindings? path = some bindings ↔ ∃ pieces, Binds t.segments path.toList pieces ∧
      bindings = decodedBindings (placeholderNames t.segments) pieces := by
  rw [bindings?, Option.map_eq_some_iff]
  simp only [bindPath?_eq_some_iff h.chain]
  constructor
  · rintro ⟨_, ⟨pieces, hbinds, rfl⟩, rfl⟩
    exact ⟨pieces, hbinds, rfl⟩
  · rintro ⟨pieces, hbinds, rfl⟩
    exact ⟨_, ⟨pieces, hbinds, rfl⟩, rfl⟩

section
variable {path : List Char} {pieces : List (List Char)}

theorem meetsConstraints_iff (hcount : pieces.length = (placeholderNames t.segments).length) :
    t.meetsConstraints (decodedBindings (placeholderNames t.segments) pieces) = true ↔ t.Allows pieces := by
  rw [meetsConstraints, List.all_eq_true, Allows]
  refine forall₂_congr fun c _ => ?_
  rw [Option.any_eq_true]
  simp only [valueOf?_eq_some_iff hcount]

/-- The parameters with the values that the pieces give. -/
def filled (t : PathTemplate) (pieces : List (List Char)) : List (String × String) :=
  t.params.map fun (name, value) => (name, fillSegments (decodedBindings (placeholderNames t.segments) pieces) value)

theorem yields_iff (hcount : pieces.length = (placeholderNames t.segments).length)
    (hdeclared : ∀ param ∈ t.params, ∀ name ∈ placeholderNames param.2, name ∈ placeholderNames t.segments)
    {out : List (String × String)} : t.Yields pieces out ↔ out = t.filled pieces := by
  refine forall₂_iff_eq_map fun param hparam field => ?_
  have hvalues : ∀ name ∈ placeholderNames param.2, ∃ value,
      IsFirstValue (placeholderNames t.segments) pieces name value :=
    fun name hname => exists_isFirstValue hcount (hdeclared param hparam name hname)
  rw [renders_iff (fun name value => valueOf?_eq_some_iff hcount) hvalues]
  exact ⟨fun h => Prod.ext h.1 h.2, fun h => h ▸ ⟨rfl, rfl⟩⟩

end

/-- **The paths of a template.** A path has parameters exactly if pieces of it can stand for the placeholders of the
template and their values are allowed; they are the parameters of the template with these values, of which none is
missing. The pieces are unique. -/
theorem match?_exact (h : compile source params constraints = .ok t) (path : String) :
    (∀ out, t.match? path = some out ↔
      ∃ pieces, Binds t.segments path.toList pieces ∧ t.Allows pieces ∧ t.Yields pieces out) ∧
    (∀ pieces, Binds t.segments path.toList pieces → ∃ out, t.Yields pieces out) ∧
    ∀ pieces pieces', Binds t.segments path.toList pieces → Binds t.segments path.toList pieces' →
      pieces = pieces' := by
  obtain ⟨hparse, hdeclared⟩ := of_compile_eq_ok h
  have htemplate := (isTemplate_of_segmentsFrom hparse).2.1
  refine ⟨fun out => ?_, fun pieces hbinds => ?_, fun pieces pieces' => Binds.unique htemplate.chain⟩
  · rw [match?, Option.map_eq_some_iff]
    simp only [Option.filter_eq_some_iff, bindings?_eq_some_iff htemplate]
    constructor
    · rintro ⟨_, ⟨⟨pieces, hbinds, rfl⟩, hmeets⟩, rfl⟩
      exact ⟨pieces, hbinds, (meetsConstraints_iff hbinds.count).mp hmeets, (yields_iff hbinds.count hdeclared).mpr rfl⟩
    · rintro ⟨pieces, hbinds, hallows, hyields⟩
      exact ⟨_, ⟨⟨pieces, hbinds, rfl⟩, (meetsConstraints_iff hbinds.count).mpr hallows⟩,
        ((yields_iff hbinds.count hdeclared).mp hyields).symm⟩
  · exact ⟨_, (yields_iff hbinds.count hdeclared).mpr rfl⟩

/-- The paths of articles in two variants of a language. -/
def variantArticles : PathTemplate where
  source := "/$2/$1"
  segments := [.literal "/", .placeholder "2", .literal "/", .placeholder "1"]
  params := [("title", [.placeholder "1"]), ("variant", [.placeholder "2"])]
  constraints := [("2", .oneOf ["zh-hans", "zh-hant"])]

theorem match?_exact_variant :
    compile "/$2/$1" [("variant", "$2")] [("$2", .oneOf ["zh-hans", "zh-hant"])] = .ok variantArticles ∧
      ∃ pieces, Binds variantArticles.segments "/zh-hans/Foo/Bar%20Baz".toList pieces ∧ variantArticles.Allows pieces ∧
        variantArticles.Yields pieces [("title", "Foo/Bar Baz"), ("variant", "zh-hans")] := by
  have hcompile : compile "/$2/$1" [("variant", "$2")] [("$2", .oneOf ["zh-hans", "zh-hant"])] =
      .ok variantArticles := by decide +kernel
  have hmatch : variantArticles.match? "/zh-hans/Foo/Bar%20Baz" =
      some [("title", "Foo/Bar Baz"), ("variant", "zh-hans")] := by decide +kernel
  exact ⟨hcompile, ((match?_exact hcompile _).1 _).mp hmatch⟩

end PathTemplate

end WikiGateway
