import WikiGateway.Proofs.Text.Trim
import WikiGateway.Url

/-!
# The host of a URL of the web

The parser of URLs finds the host between the slashes behind the scheme and the next slash, question mark or number
sign (`Url.authorityIn`), and only this part decides about it (`Url.authorityHost?`).

* `takeScheme?_append_colon`: the scheme ends at the first colon.
* `map_ofAuthority?`: the part with the host decides about the host.
* `authorityIn_append_slash`, `authorityIn_trimEnd_slash`: this part ends at a slash.
* `authorityIn_trimEnd_blank`: blanks at the end of a text make a difference only if they go on with this part.
* `exists_parse?_iff`, `authorityHost?_of_parse?`: the host of a URL.
-/

namespace WikiGateway.Url

/-! ## Schemes -/

/-- The scheme that the text in front of the first colon spells. -/
def schemeOf? (front : List Char) : Option String :=
  if front.head?.any Char.isAlpha && front.all isSchemeChar then some (String.ofList (front.map Char.toLower)) else none

variable {front x y : List Char}

/-- The scheme ends at the first colon. -/
theorem takeScheme?_append_colon (h : ':' ∉ front) :
    takeScheme? (front ++ ':' :: x) = (schemeOf? front).map fun scheme => (scheme, x) := by
  cases hall : front.all isSchemeChar with
  | true =>
    have hcolon : ∀ c ∈ (':' :: x).head?, isSchemeChar c = false := by
      rintro c ⟨⟩
      rfl
    obtain ⟨htake, hdrop⟩ := takeWhile_append_of_head? (List.all_eq_true.mp hall) hcolon
    unfold takeScheme?
    rw [htake, hdrop, schemeOf?, hall]
    cases front with
    | nil => rfl
    | cons first front => cases hfirst : first.isAlpha <;> simp [hfirst]
  | false =>
    -- another character ends the run of those of schemes
    obtain ⟨c, rest, hrest⟩ : ∃ c rest, front.dropWhile isSchemeChar = c :: rest := by
      refine List.exists_cons_of_ne_nil fun hnil => ?_
      rw [List.dropWhile_eq_nil_iff, ← List.all_eq_true, hall] at hnil
      cases hnil
    have hc : c ≠ ':' := by
      rintro rfl
      exact h (List.dropWhile_subset isSchemeChar (hrest ▸ List.mem_cons_self))
    have hdrop : (front ++ ':' :: x).dropWhile isSchemeChar = c :: (rest ++ ':' :: x) := by
      rw [List.dropWhile_append, hrest]
      rfl
    unfold takeScheme?
    rw [hdrop, schemeOf?, hall, Bool.and_false, if_neg Bool.false_ne_true, Option.map_none]
    split
    next hcolon => cases hcolon; exact absurd rfl hc
    next => rfl

theorem eq_file_of_schemeKind {scheme : String} (h : schemeKind scheme = .file) : scheme = "file" := by
  unfold schemeKind at h
  split at h
  next => cases h
  next =>
    split at h
    next hfile => exact hfile
    next => cases h

/-! ## Authorities -/

/-- A text behind a scheme without the line breaks in it and the slashes in front. -/
def afterSlashes (x : List Char) : List Char := (x.filter fun c => !isLineBreak c).dropWhile (isSlash .web)

/-- The part with the host of a text behind the scheme. -/
def authorityIn (x : List Char) : List Char := (afterSlashes x).takeWhile fun c => !endsAuthority .web c

/-- The host that the part with it names, if the port is one. -/
def authorityHost? (authority : List Char) : Option Host :=
  let (hostText, afterHost) := cutHost false (afterCredentials authority true).1
  match Host.parse? (String.ofList hostText), portOf? "http" afterHost with
  | some host, some _ => nonEmptyHost host
  | _, _ => none

/-- The scheme and the host of a URL. -/
def schemeAndHost (url : Url) : String × Option Host := (url.scheme, url.host)

/-- Without an authority there is no host. -/
theorem authorityHost?_nil : authorityHost? [] = none := by decide +kernel

/-- The scheme makes no difference for what is a port. -/
theorem isSome_portOf? (scheme scheme' : String) (afterHost : List Char) :
    (portOf? scheme afterHost).isSome = (portOf? scheme' afterHost).isSome := by
  cases afterHost with
  | nil => rfl
  | cons c digits =>
    unfold portOf?
    dsimp only
    split
    next => rfl
    next => split <;> rfl

/-- The text behind the credentials does not depend on what follows. -/
theorem fst_afterCredentials (authority : List Char) (atEnd atEnd' : Bool) :
    (afterCredentials authority atEnd).1 = (afterCredentials authority atEnd').1 := by
  unfold afterCredentials
  split <;> rfl

/-- The part with the host decides about the host. -/
theorem map_ofAuthority? {scheme : String} (hkind : schemeKind scheme = .web) (cs : List Char) :
    (ofAuthority? scheme cs).map schemeAndHost =
      (authorityHost? (cs.takeWhile fun c => !endsAuthority .web c)).map fun host => (scheme, some host) := by
  unfold ofAuthority? authorityHost?
  rw [hkind]
  dsimp only
  rw [fst_afterCredentials _ _ true, if_pos rfl]
  generalize cutHost false (afterCredentials (cs.takeWhile fun c => !endsAuthority .web c) true).1 = found
  cases Host.parse? (String.ofList found.1) with
  | none => rfl
  | some host =>
    have hport := isSome_portOf? scheme "http" found.2
    generalize portOf? scheme found.2 = port, portOf? "http" found.2 = port' at hport ⊢
    cases port with
    | none =>
      obtain rfl : port' = none := Option.isNone_iff_eq_none.mp (Option.isSome_eq_false_iff.mp hport.symm)
      rfl
    | some port =>
      obtain ⟨port', rfl⟩ := Option.isSome_iff_exists.mp hport.symm
      dsimp only
      cases nonEmptyHost host <;> rfl

/-! ## Where an authority ends -/

/-- A blank is no slash and ends no authority. -/
theorem of_isOuterBlank {c : Char} (h : isOuterBlank c = true) :
    isSlash .web c = false ∧ endsAuthority .web c = false := by
  have hsmall : ∀ n < 0x21, isSlash .web (Char.ofNat n) = false ∧ endsAuthority .web (Char.ofNat n) = false := by decide
  rw [isOuterBlank, decide_eq_true_eq] at h
  have hchar := hsmall c.toNat (Nat.lt_succ_of_le h)
  rwa [Char.ofNat_toNat] at hchar

/-- A text behind one that is more than slashes goes on with it. -/
theorem afterSlashes_append (h : afterSlashes x ≠ []) (y : List Char) :
    afterSlashes (x ++ y) = afterSlashes x ++ y.filter fun c => !isLineBreak c := by
  rw [afterSlashes, List.filter_append, List.dropWhile_append, if_neg (by rwa [List.isEmpty_iff])]
  rfl

/-- Slashes alone are skipped. -/
theorem afterSlashes_append_of_nil (h : afterSlashes x = []) (y : List Char) :
    afterSlashes (x ++ y) = afterSlashes y := by
  rw [afterSlashes, List.filter_append, List.dropWhile_append, if_pos (by rwa [List.isEmpty_iff])]
  rfl

theorem authorityIn_slash (x : List Char) : authorityIn ('/' :: x) = authorityIn x := by
  rw [authorityIn, afterSlashes, List.filter_cons_of_pos (by decide), List.dropWhile_cons_of_pos (by decide)]
  rfl

/-- Slashes in front are skipped, whatever blanks at the end are dropped. -/
theorem authorityIn_trimEnd_cons_slash (x : List Char) :
    authorityIn (Text.trimEnd isOuterBlank ('/' :: x)) = authorityIn (Text.trimEnd isOuterBlank x) := by
  have hslash : isOuterBlank '/' = false := by decide
  rw [show '/' :: x = [] ++ '/' :: x from rfl, Text.trimEnd_append_cons hslash]
  exact authorityIn_slash _

/-- An authority ends at a slash. -/
theorem authorityIn_append_slash (h : afterSlashes x ≠ []) (y : List Char) :
    authorityIn (x ++ '/' :: y) = authorityIn x := by
  rw [authorityIn, afterSlashes_append h, List.filter_cons_of_pos (by decide), Text.takeWhile_append_cons (by decide)]
  rfl

/-- Slashes at the end make no difference. -/
theorem authorityIn_append_slashes (x : List Char) {slashes : List Char} (h : ∀ c ∈ slashes, (c == '/') = true) :
    authorityIn (x ++ slashes) = authorityIn x := by
  by_cases hx : afterSlashes x = []
  · have hnone : afterSlashes slashes = [] := by
      refine List.dropWhile_eq_nil_iff.mpr fun c hc => ?_
      rw [eq_of_beq (h c (List.mem_of_mem_filter hc))]
      rfl
    rw [authorityIn, authorityIn, afterSlashes_append_of_nil hx, hx, hnone]
  · cases slashes with
    | nil => rw [List.append_nil]
    | cons c slashes =>
      obtain rfl : c = '/' := eq_of_beq (h c List.mem_cons_self)
      exact authorityIn_append_slash hx slashes

theorem authorityIn_trimEnd_slash (x : List Char) : authorityIn (Text.trimEnd (· == '/') x) = authorityIn x := by
  obtain ⟨slashes, hx, hslashes⟩ := Text.trimEnd_append_blanks (· == '/') x
  have hsame := authorityIn_append_slashes (Text.trimEnd (· == '/') x) hslashes
  rwa [← hx, eq_comm] at hsame

/-- Blanks at the end go on with the authority or make no difference. -/
theorem exists_authorityIn_append_blanks {blanks : List Char} (hblanks : ∀ c ∈ blanks, isOuterBlank c = true)
    (x : List Char) :
    ∃ kept, authorityIn (x ++ blanks) = authorityIn x ++ kept ∧ ∀ c ∈ kept, isOuterBlank c = true := by
  have hkept : ∀ c ∈ blanks.filter fun c => !isLineBreak c, isOuterBlank c = true := fun c hc =>
    hblanks c (List.mem_of_mem_filter hc)
  have htake : (blanks.filter fun c => !isLineBreak c).takeWhile (fun c => !endsAuthority .web c) =
      blanks.filter fun c => !isLineBreak c :=
    List.takeWhile_eq_self_iff.mpr fun c hc => by rw [(of_isOuterBlank (hkept c hc)).2, Bool.not_false]
  by_cases hx : afterSlashes x = []
  · have hdrop : afterSlashes blanks = blanks.filter fun c => !isLineBreak c :=
      List.dropWhile_eq_self_iff.mpr fun h => by simp [(of_isOuterBlank (hkept _ (List.getElem_mem h))).1]
    refine ⟨_, ?_, hkept⟩
    rw [authorityIn, authorityIn, afterSlashes_append_of_nil hx, hdrop, htake, hx]
    rfl
  · rw [authorityIn, authorityIn, afterSlashes_append hx, List.takeWhile_append, htake]
    split
    next hwhole => exact ⟨_, by rw [(List.takeWhile_prefix _).eq_of_length hwhole], hkept⟩
    next => exact ⟨[], (List.append_nil _).symm, nofun⟩

/-- Blanks at the end make no difference, unless the authority ends in some. -/
theorem authorityIn_trimEnd_blank (hend : ∀ c ∈ (authorityIn x).getLast?, isOuterBlank c = false) :
    authorityIn (Text.trimEnd isOuterBlank x) = authorityIn x := by
  obtain ⟨blanks, hx, hblanks⟩ := Text.trimEnd_append_blanks isOuterBlank x
  obtain ⟨kept, hauthority, hkept⟩ := exists_authorityIn_append_blanks hblanks (Text.trimEnd isOuterBlank x)
  rw [← hx] at hauthority
  rcases List.eq_nil_or_concat kept with rfl | ⟨front, last, rfl⟩
  · rw [hauthority, List.append_nil]
  · have hblank := hkept last (by simp)
    rw [hend last (by simp [hauthority])] at hblank
    cases hblank

/-! ## Schemes and hosts of URLs -/

/-- The text in front of the first colon of a URL, without blanks in front and without line breaks. -/
def visibleFront (front : List Char) : List Char := (front.dropWhile isOuterBlank).filter fun c => !isLineBreak c

/-- Blanks are dropped on either side of the first colon. -/
theorem filter_trimBoth_append_colon :
    (Text.trimBoth isOuterBlank (front ++ ':' :: x)).filter (fun c => !isLineBreak c) =
      visibleFront front ++ ':' :: (Text.trimEnd isOuterBlank x).filter fun c => !isLineBreak c := by
  have hcolon : isOuterBlank ':' = false := by decide
  rw [Text.trimBoth, Text.dropWhile_append_cons hcolon, Text.trimEnd_append_cons hcolon, List.filter_append,
    List.filter_cons_of_pos (by decide), visibleFront]

theorem colon_notMem_visibleFront (h : ':' ∉ front) : ':' ∉ visibleFront front := fun hmem =>
  h (List.dropWhile_subset isOuterBlank (List.mem_of_mem_filter hmem))

/-- A URL of the web has the host that its authority names, and no other. -/
theorem exists_parse?_iff {s scheme : String} {host : Host} (hs : s.toList = front ++ ':' :: x) (hfront : ':' ∉ front)
    (hscheme : schemeOf? (visibleFront front) = some scheme) (hkind : schemeKind scheme = .web) :
    (∃ url, parse? s = some url ∧ url.scheme = scheme ∧ url.host = some host) ↔
      authorityHost? (authorityIn (Text.trimEnd isOuterBlank x)) = some host := by
  have hparse : (parse? s).map schemeAndHost = (authorityHost? (authorityIn (Text.trimEnd isOuterBlank x))).map
      fun host => (scheme, some host) := by
    unfold parse?
    dsimp only
    rw [hs, filter_trimBoth_append_colon, takeScheme?_append_colon (colon_notMem_visibleFront hfront), hscheme]
    dsimp only [Option.map_some]
    rw [hkind]
    exact map_ofAuthority? hkind _
  constructor
  · rintro ⟨url, hurl, -, hhost⟩
    rw [hurl, Option.map_some, schemeAndHost, hhost] at hparse
    obtain ⟨found, hfound, heq⟩ := Option.map_eq_some_iff.mp hparse.symm
    exact Option.some.inj (Prod.mk.inj heq).2 ▸ hfound
  · intro hread
    rw [hread] at hparse
    obtain ⟨url, hurl, heq⟩ := Option.map_eq_some_iff.mp hparse
    exact ⟨url, hurl, Prod.mk.inj heq⟩

section
variable {s scheme : String} {url : Url} {cs : List Char}

theorem scheme_of_ofAuthority? (h : ofAuthority? scheme cs = some url) : url.scheme = scheme := by
  unfold ofAuthority? at h
  dsimp only at h
  split at h
  next =>
    split at h
    next => cases h
    next => cases h; rfl
  next => cases h

theorem scheme_of_ofFile? (h : ofFile? cs = some url) : url.scheme = "file" := by
  have hpath : ∀ {host : Option Host} {cs : List Char}, ofFile?.withPath host cs = some url → url.scheme = "file" := by
    intro host cs h
    cases h
    rfl
  unfold ofFile? at h
  split at h
  next =>
    split at h
    next =>
      dsimp only at h
      split at h
      next => exact hpath h
      next =>
        split at h
        next => cases h
        next => exact hpath h
    next => exact hpath h
  next => exact hpath h

theorem scheme_of_ofOther? (h : ofOther? scheme cs = some url) : url.scheme = scheme := by
  unfold ofOther? at h
  split at h
  next => exact scheme_of_ofAuthority? h
  next => cases h; rfl

/-- The scheme of a URL stands in front of its first colon. -/
theorem schemeOf?_of_parse? (h : parse? s = some url) (hs : s.toList = front ++ ':' :: x) (hfront : ':' ∉ front) :
    schemeOf? (visibleFront front) = some url.scheme := by
  unfold parse? at h
  dsimp only at h
  rw [hs, filter_trimBoth_append_colon, takeScheme?_append_colon (colon_notMem_visibleFront hfront)] at h
  cases hscheme : schemeOf? (visibleFront front) with
  | none => rw [hscheme] at h; cases h
  | some scheme =>
    rw [hscheme] at h
    refine congrArg some ?_
    dsimp only [Option.map_some] at h
    split at h
    next => exact (scheme_of_ofAuthority? h).symm
    next hfile => exact (eq_file_of_schemeKind hfile).trans (scheme_of_ofFile? h).symm
    next => exact (scheme_of_ofOther? h).symm

/-- The host of a URL of the web is the one that its authority names. -/
theorem authorityHost?_of_parse? {host : Host} (h : parse? s = some url) (hkind : schemeKind url.scheme = .web)
    (hhost : url.host = some host) (hs : s.toList = front ++ ':' :: x) (hfront : ':' ∉ front) :
    authorityHost? (authorityIn (Text.trimEnd isOuterBlank x)) = some host :=
  (exists_parse?_iff hs hfront (schemeOf?_of_parse? h hs hfront) hkind).mp ⟨url, h, rfl, hhost⟩

end

end WikiGateway.Url
