import Mathlib.Data.List.Basic
import Mathlib.Data.List.Perm.Basic
import WikiGateway.Route.EntryPoint

/-!
# Which entry point a path goes to

An entry point claims its own path and all that lies below it behind a slash (`EntryPoint.Claims`). The first one of the
table that claims a path gets it. Two entry points claim one path only if one of them claims the path of the other
(`EntryPoint.Claims.nested`), and in a table where this does not happen the order plays no part.

* `below?_eq_some_iff`, `exists_below?_iff`: what an entry point finds in a path.
* `EntryPoint.Claims.nested`: two claims on one path.
* `EntryPointTable.detect_first_claim`: the entry point of a path, in a given order and in any.
-/

namespace WikiGateway

/-! ## Claims -/

/-- What may stand behind the path of an entry point: nothing, or a path that starts at a slash. -/
def IsBelow (rest : List Char) : Prop := rest = [] ∨ rest.head? = some '/'

/-- An entry point with a path claims this path and those that lie below it. -/
def EntryPoint.Claims (e : EntryPoint) (path : String) : Prop :=
  e.path ≠ "" ∧ (path = e.path ∨ ∃ below, path = e.path ++ "/" ++ below)

section
variable {e f : EntryPoint} {path : String}

theorem EntryPoint.claims_iff :
    e.Claims path ↔ e.path ≠ "" ∧ ∃ rest, path.toList = e.path.toList ++ rest ∧ IsBelow rest := by
  refine and_congr_right fun _ => ⟨?_, ?_⟩
  · rintro (rfl | ⟨below, rfl⟩)
    · exact ⟨[], (List.append_nil _).symm, .inl rfl⟩
    · exact ⟨'/' :: below.toList, by simp, .inr rfl⟩
  · rintro ⟨rest, hpath, rfl | hslash⟩
    · exact .inl (String.toList_inj.mp (by rw [hpath, List.append_nil]))
    · obtain ⟨below, rfl⟩ := List.head?_eq_some_iff.mp hslash
      exact .inr ⟨String.ofList below, String.toList_inj.mp (by simp [hpath])⟩

/-- **Claims on one path are nested.** The paths of two entry points stand in front of it. The longer one goes on behind
the shorter one with a slash, unless they are the same. -/
theorem EntryPoint.Claims.nested (he : e.Claims path) (hf : f.Claims path) : e.Claims f.path ∨ f.Claims e.path := by
  obtain ⟨hene, rest, hpath, hrest⟩ := claims_iff.mp he
  obtain ⟨hfne, rest', hpath', hrest'⟩ := claims_iff.mp hf
  have hstart : ∀ {middle behind : List Char}, IsBelow (middle ++ behind) → IsBelow middle := by
    rintro (_ | ⟨c, middle⟩) behind h
    · exact .inl rfl
    · exact .inr (h.resolve_left (by simp))
  rcases List.append_eq_append_iff.mp (hpath.symm.trans hpath') with ⟨middle, hlonger, rfl⟩ | ⟨middle, hlonger, rfl⟩
  · exact .inl (claims_iff.mpr ⟨hene, middle, hlonger, hstart hrest⟩)
  · exact .inr (claims_iff.mpr ⟨hfne, middle, hlonger, hstart hrest'⟩)

end

namespace EntryPointTable

section
variable {e : EntryPoint} {path : String} {m : EntryPointMatch}

/-- What an entry point finds is what follows its own path. -/
theorem below?_eq_some_iff : below? path e = some m ↔ e.path ≠ "" ∧ m.name = e.name ∧
    path.toList = e.path.toList ++ m.subpath.toList ∧ IsBelow m.subpath.toList := by
  unfold below?
  split
  next hempty => simp [hempty]
  next hne =>
    split
    next hnone =>
      have hno : ¬ path.toList = e.path.toList ++ m.subpath.toList := by
        intro h
        rw [Text.dropPrefix?_eq_some_iff.mpr h] at hnone
        cases hnone
      simp [hno]
    next rest hsome =>
      have hpath := Text.dropPrefix?_eq_some_iff.mp hsome
      have hbelow : (rest.isEmpty || rest.head? == some '/') = true ↔ IsBelow rest := by simp [IsBelow]
      simp only [hpath, List.append_cancel_left_eq, Option.ite_none_right_eq_some, hbelow, Option.some.injEq]
      constructor
      · rintro ⟨hrest, rfl⟩
        exact ⟨hne, rfl, String.toList_ofList.symm, by rwa [String.toList_ofList]⟩
      · rintro ⟨-, hname, rfl, hrest⟩
        exact ⟨hrest, by rw [String.ofList_toList, ← hname]⟩

/-- An entry point finds something in the paths that it claims. -/
theorem exists_below?_iff : (∃ m, below? path e = some m) ↔ e.Claims path := by
  rw [EntryPoint.claims_iff]
  simp only [below?_eq_some_iff]
  constructor
  · rintro ⟨m, hne, -, hpath, hbelow⟩
    exact ⟨hne, _, hpath, hbelow⟩
  · rintro ⟨hne, rest, hpath, hbelow⟩
    exact ⟨⟨e.name, String.ofList rest⟩, hne, rfl, by rwa [String.toList_ofList], by rwa [String.toList_ofList]⟩

theorem below?_eq_none_iff : below? path e = none ↔ ¬ e.Claims path := by
  rw [← exists_below?_iff, not_exists, Option.eq_none_iff_forall_ne_some]

instance : Decidable (e.Claims path) :=
  decidable_of_iff ((below? path e).isSome = true) (Option.isSome_iff_exists.trans exists_below?_iff)

end

/-! ## The order of the table -/

/-- No entry point claims the path of another. -/
def Apart (entries : List EntryPoint) : Prop :=
  entries.Pairwise fun e f => ¬ e.Claims f.path ∧ ¬ f.Claims e.path

instance (entries : List EntryPoint) : Decidable (Apart entries) :=
  inferInstanceAs (Decidable (List.Pairwise _ entries))

/-- Where at most one element of a list has a value, this is the one that is found. -/
theorem findSome?_eq_some_iff_of_pairwise {α β : Type} {f : α → Option β} {b : β} : ∀ {xs : List α},
    xs.Pairwise (fun x y => f x = none ∨ f y = none) → (xs.findSome? f = some b ↔ ∃ x ∈ xs, f x = some b)
  | [], _ => by simp
  | x :: xs, h => by
    obtain ⟨hfirst, hrest⟩ := List.pairwise_cons.mp h
    rw [List.findSome?_cons, List.exists_mem_cons_iff, ← findSome?_eq_some_iff_of_pairwise hrest]
    cases hx : f x with
    | none => simp
    | some a =>
      have hnone : xs.findSome? f = none :=
        List.findSome?_eq_none_iff.mpr fun y hy => (hfirst y hy).resolve_left (by simp [hx])
      simp [hnone]

/-- Entry points that are apart find a path alone. -/
theorem Apart.pairwise_below? {entries : List EntryPoint} (h : Apart entries) (path : String) :
    entries.Pairwise fun e f => below? path e = none ∨ below? path f = none := by
  refine h.imp fun {e f} ⟨hef, hfe⟩ => ?_
  rw [below?_eq_none_iff, below?_eq_none_iff, ← not_and_or]
  rintro ⟨he, hf⟩
  exact (he.nested hf).elim hef hfe

/-- A change of the order does not change what is found. -/
theorem Apart.findSome?_perm {entries entries' : List EntryPoint} (h : Apart entries) (hperm : entries.Perm entries')
    (path : String) : entries'.findSome? (below? path) = entries.findSome? (below? path) := by
  have hpairwise := h.pairwise_below? path
  have hpairwise' := hperm.pairwise hpairwise Or.symm
  ext m
  rw [findSome?_eq_some_iff_of_pairwise hpairwise, findSome?_eq_some_iff_of_pairwise hpairwise']
  simp only [hperm.mem_iff]

theorem ofList_eq_ok_iff {entries : List EntryPoint} {default : String} {t : EntryPointTable} :
    ofList entries default = .ok t ↔ (∀ e ∈ entries, e.path = "" → e.name = default) ∧ t = ⟨entries, default⟩ := by
  have hfind : entries.find? (fun e => e.path == "" && e.name != default) = none ↔
      ∀ e ∈ entries, e.path = "" → e.name = default := by simp
  rw [← hfind, ofList]
  cases entries.find? fun e => e.path == "" && e.name != default with
  | some e => simp
  | none => simp [eq_comm]

/-- **The entry point of a path.** In the table of a list of entry points, a path that some of them claim goes to the
first that does, with what follows its path: nothing, or a path that starts at a slash. Any other path goes to the
default entry point as it is. If no entry point claims the path of another, the list may be given in any order. -/
theorem detect_first_claim (entries : List EntryPoint) (default : String) (t : EntryPointTable)
    (h : ofList entries default = .ok t) :
    (∀ path, (∃ e ∈ entries, e.Claims path) → ∃ before e after, entries = before ++ e :: after ∧
      (∀ f ∈ before, ¬ f.Claims path) ∧ e.Claims path ∧ (t.detect path).name = e.name ∧
      e.path ++ (t.detect path).subpath = path ∧
      ((t.detect path).subpath = "" ∨ ∃ below, (t.detect path).subpath = "/" ++ below)) ∧
    (∀ path, (∀ e ∈ entries, ¬ e.Claims path) → t.detect path = ⟨default, path⟩) ∧
    (Apart entries → ∀ entries', entries.Perm entries' →
      ∃ t', ofList entries' default = .ok t' ∧ ∀ path, t'.detect path = t.detect path) := by
  obtain ⟨hempty, rfl⟩ := ofList_eq_ok_iff.mp h
  refine ⟨fun path hsome => ?_, fun path hnone => ?_, fun hapart entries' hperm => ?_⟩
  · obtain ⟨e, he, hclaims⟩ := hsome
    obtain ⟨m, hm⟩ := exists_below?_iff.mpr hclaims
    obtain ⟨m, hfound⟩ : ∃ m, entries.findSome? (below? path) = some m := by
      rw [← Option.isSome_iff_exists, List.findSome?_isSome_iff]
      exact ⟨e, he, by rw [hm]; rfl⟩
    obtain ⟨before, e, after, hentries, hm, hbefore⟩ := List.findSome?_eq_some_iff.mp hfound
    have hdetect : detect ⟨entries, default⟩ path = m := by rw [detect, hfound, Option.getD_some]
    obtain ⟨-, hname, hpath, hbelow⟩ := below?_eq_some_iff.mp hm
    rw [hdetect]
    refine ⟨before, e, after, hentries, fun f hf => below?_eq_none_iff.mp (hbefore f hf),
      exists_below?_iff.mp ⟨m, hm⟩, hname, String.toList_inj.mp ?_, ?_⟩
    · rw [String.toList_append, hpath]
    · refine hbelow.imp String.toList_eq_nil_iff.mp fun hslash => ?_
      obtain ⟨below, hsubpath⟩ := List.head?_eq_some_iff.mp hslash
      exact ⟨String.ofList below, String.toList_inj.mp (by simp [hsubpath])⟩
  · have hnothing : entries.findSome? (below? path) = none :=
      List.findSome?_eq_none_iff.mpr fun e he => below?_eq_none_iff.mpr (hnone e he)
    rw [detect, hnothing, Option.getD_none]
  · have hempty' : ∀ e ∈ entries', e.path = "" → e.name = default := fun e he => hempty e (hperm.mem_iff.mpr he)
    refine ⟨⟨entries', default⟩, ofList_eq_ok_iff.mpr ⟨hempty', rfl⟩, fun path => ?_⟩
    rw [detect, detect, hapart.findSome?_perm hperm path]

/-- Entry points of which one lies below another and one has a path that ends in a slash, and entry points that are
apart. -/
theorem detect_first_claim_nested :
    let nested : List EntryPoint := [⟨"index", ""⟩, ⟨"broad", "/w"⟩, ⟨"slash", "/w/"⟩, ⟨"narrow", "/w/api.php"⟩]
    let apart : List EntryPoint := [⟨"api", "/w/api.php"⟩, ⟨"index", ""⟩, ⟨"slash", "/wiki/"⟩]
    (ofList nested "index" = .ok ⟨nested, "index"⟩ ∧ (∃ e ∈ nested, e.Claims "/w//x") ∧
      ∃ before e after, nested = before ++ e :: after ∧ (∀ f ∈ before, ¬ f.Claims "/w//x") ∧ e.Claims "/w//x" ∧
        (detect ⟨nested, "index"⟩ "/w//x").name = e.name ∧
        e.path ++ (detect ⟨nested, "index"⟩ "/w//x").subpath = "/w//x" ∧
        ((detect ⟨nested, "index"⟩ "/w//x").subpath = "" ∨
          ∃ below, (detect ⟨nested, "index"⟩ "/w//x").subpath = "/" ++ below)) ∧
    ((∀ e ∈ nested, ¬ e.Claims "/wiki/A") ∧ detect ⟨nested, "index"⟩ "/wiki/A" = ⟨"index", "/wiki/A"⟩) ∧
    ofList apart "index" = .ok ⟨apart, "index"⟩ ∧ Apart apart ∧ apart.Perm apart.reverse ∧
      ∃ t, ofList apart.reverse "index" = .ok t ∧ ∀ path, t.detect path = detect ⟨apart, "index"⟩ path := by
  intro nested apart
  have hnested : ofList nested "index" = .ok ⟨nested, "index"⟩ := by decide +kernel
  have hapart : ofList apart "index" = .ok ⟨apart, "index"⟩ := by decide +kernel
  have hclaimed : ∃ e ∈ nested, e.Claims "/w//x" := by decide +kernel
  have hfree : ∀ e ∈ nested, ¬ e.Claims "/wiki/A" := by decide +kernel
  have hdisjoint : Apart apart := by decide +kernel
  have hreverse : apart.Perm apart.reverse := (List.reverse_perm apart).symm
  obtain ⟨hfirst, hdefault, -⟩ := detect_first_claim nested "index" _ hnested
  obtain ⟨-, -, hany⟩ := detect_first_claim apart "index" _ hapart
  exact ⟨⟨hnested, hclaimed, hfirst _ hclaimed⟩, ⟨hfree, hdefault _ hfree⟩, hapart, hdisjoint, hreverse,
    hany hdisjoint _ hreverse⟩

/-- The first of two claims counts, whichever path is longer. -/
example : detect ⟨[⟨"broad", "/w"⟩, ⟨"slash", "/w/"⟩], "index"⟩ "/w//x" = ⟨"broad", "//x"⟩ ∧
    detect ⟨[⟨"slash", "/w/"⟩, ⟨"broad", "/w"⟩], "index"⟩ "/w//x" = ⟨"slash", "/x"⟩ := by decide +kernel

end EntryPointTable

end WikiGateway
