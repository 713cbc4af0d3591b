import WikiGateway.Http.RequestUrl

/-!
# URLs that are paths

The source of a request's URL, its fragment apart, may lead to a path: at a slash in front, or behind a scheme and a
host (`LeadsToPath`). Then the URL is this path with one slash in front, and otherwise it is the source as it stands.

* `cutText?_scheme`: the text before the first `://` is the scheme.
* `normalizeUrl?_of_leadsToPath`, `normalizeUrl?_of_not_leadsToPath`: the URL in either case.
-/

namespace WikiGateway

/-- A text up to its fragment. -/
def withoutFragment (cs : List Char) : List Char := cs.takeWhile (· != '#')

/-- A text has a slash in front, or behind a scheme and a host, and `rest` follows it. -/
inductive LeadsToPath : List Char → List Char → Prop
  | slash (rest : List Char) : LeadsToPath ('/' :: rest) rest
  | host {scheme host : List Char} (rest : List Char) : scheme ≠ [] → '/' ∉ scheme → '/' ∉ host →
      LeadsToPath (scheme ++ ':' :: '/' :: '/' :: (host ++ '/' :: rest)) rest

/-- A scheme without slashes ends at the first `://`. -/
theorem cutText?_scheme (rest : List Char) : ∀ {scheme : List Char}, '/' ∉ scheme →
    Text.cutText? [':', '/', '/'] (scheme ++ ':' :: '/' :: '/' :: rest) = some (scheme, rest)
  | [], _ => rfl
  | c :: scheme, h => by
    have hrest : '/' ∉ scheme := fun hmem => h (List.mem_cons_of_mem c hmem)
    -- the character behind `c` is of the scheme or the colon, and so no slash
    have hno : [':', '/', '/'].isPrefixOf (c :: (scheme ++ ':' :: '/' :: '/' :: rest)) = false := by
      cases scheme with
      | nil => simp [List.isPrefixOf]
      | cons next scheme =>
        have hnext : ('/' == next) = false := beq_eq_false_iff_ne.mpr fun heq => hrest (heq ▸ List.mem_cons_self)
        simp [List.isPrefixOf, hnext]
    rw [List.cons_append, Text.cutText?, hno, cutText?_scheme rest hrest]
    rfl

section
variable {cs : List Char}

/-- A text that leads to a path gives this path with one slash in front. -/
theorem normalizeUrl?_of_leadsToPath {rest : List Char} (h : LeadsToPath (withoutFragment cs) rest) :
    normalizeUrl? cs = some ('/' :: rest.dropWhile (· == '/')) := by
  rw [normalizeUrl?, ← withoutFragment]
  generalize withoutFragment cs = text at h
  cases h with
  | slash => rfl
  | @host scheme host _ hscheme hslash hhost =>
    have hpath : (host ++ '/' :: rest).dropWhile (· != '/') = '/' :: rest := by
      rw [List.dropWhile_append_of_pos fun x hx => bne_iff_ne.mpr (ne_of_mem_of_not_mem hx hhost)]
      rfl
    split
    next hnil => simp at hnil
    next hfront =>
      obtain ⟨c, scheme, rfl⟩ := List.exists_cons_of_ne_nil hscheme
      cases hfront
      exact absurd List.mem_cons_self hslash
    next =>
      rw [cutText?_scheme _ hslash]
      simp [hscheme, hslash, hpath, collapseSlashes]

/-- Any other text is the URL as it stands. -/
theorem normalizeUrl?_of_not_leadsToPath (hne : withoutFragment cs ≠ [])
    (h : ∀ rest, ¬ LeadsToPath (withoutFragment cs) rest) : normalizeUrl? cs = some (withoutFragment cs) := by
  rw [normalizeUrl?, ← withoutFragment]
  generalize withoutFragment cs = text at hne h
  split
  next => exact absurd rfl hne
  next rest => exact absurd (.slash rest) (h rest)
  next =>
    split
    next scheme behind hcut =>
      split
      next => rfl
      next hparts =>
        simp only [Bool.or_eq_true, not_or, Bool.not_eq_true, List.isEmpty_eq_false_iff, Bool.not_eq_false',
          List.contains_eq_mem, decide_eq_true_eq] at hparts
        obtain ⟨⟨hscheme, hslash⟩, hbehind⟩ := hparts
        obtain ⟨host, rest, rfl, hhost⟩ := List.eq_append_cons_of_mem hbehind
        have htext := Text.append_of_cutText? hcut
        rw [List.append_assoc] at htext
        exact absurd (htext ▸ .host rest hscheme hslash hhost) (h rest)
    next => rfl

/-- A text that gives a URL has something before its fragment. -/
theorem withoutFragment_ne_nil {url : List Char} (h : normalizeUrl? cs = some url) : withoutFragment cs ≠ [] := by
  intro hnil
  rw [normalizeUrl?, ← withoutFragment, hnil] at h
  cases h

end

end WikiGateway
