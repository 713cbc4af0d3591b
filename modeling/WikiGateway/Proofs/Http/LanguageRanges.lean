import Mathlib.Data.List.Nodup
import Mathlib.Data.List.Pairwise
import WikiGateway.Http.AcceptLanguage
import WikiGateway.Proofs.Text.Distinct

/-!
# Lists of languages

Languages that are mentioned one after the other make a list with one entry for each code, in the order in which the
codes first came and with the weights that came last (`foldl_mention`). Sorting is stable: for each weight, the
languages of this weight keep their order (`isStableSort_mergeSort`), and no other list in descending order has this
property (`IsStableSort.unique`).
-/

namespace WikiGateway

open AcceptLanguage

namespace LanguageRange

/-! ## Mentions one after the other -/

/-- The last weight that a list gives to a code. -/
def lastWeight (ranges : List LanguageRange) (code : String) : Nat :=
  ((ranges.filter (·.code = code)).getLast?.map weight).getD 0

/-- Each code where it comes first, with its last weight. -/
def latest (ranges : List LanguageRange) : List LanguageRange :=
  (ranges.map code).eraseDups.map fun c => ⟨c, lastWeight ranges c⟩

/-- A language of the list is the last one of its code if none of this code stands behind it. -/
theorem lastWeight_concat (ranges : List LanguageRange) (r : LanguageRange) (c : String) :
    lastWeight (ranges ++ [r]) c = if c = r.code then r.weight else lastWeight ranges c := by
  rw [lastWeight, List.filter_append]
  by_cases hc : c = r.code
  · rw [if_pos hc, List.filter_cons_of_pos (by simp [hc]), List.filter_nil, List.getLast?_concat]
    rfl
  · rw [if_neg hc, List.filter_cons_of_neg (by simpa using Ne.symm hc), List.filter_nil, List.append_nil]
    rfl

/-- A mention changes the weight of a code that is there, and adds a code that is not. -/
theorem mention_map {codes : List String} (h : codes.Nodup) (f : String → Nat) (r : LanguageRange) :
    mention r (codes.map fun c => ⟨c, f c⟩) =
      (if r.code ∈ codes then codes else codes ++ [r.code]).map fun c =>
        ⟨c, if c = r.code then r.weight else f c⟩ := by
  induction codes with
  | nil => simp [mention]
  | cons c codes ih =>
    obtain ⟨hc, hcodes⟩ := List.nodup_cons.mp h
    rw [List.map_cons, mention]
    by_cases hsame : c = r.code
    · have hrest : (codes.map fun c => (⟨c, f c⟩ : LanguageRange)) =
          codes.map fun c => ⟨c, if c = r.code then r.weight else f c⟩ := by
        refine List.map_congr_left fun d hd => ?_
        rw [if_neg]
        rintro rfl
        exact hc (hsame ▸ hd)
      rw [if_pos hsame, if_pos (by simp [hsame]), List.map_cons, if_pos hsame, hrest, hsame]
    · have hmem : r.code ∈ c :: codes ↔ r.code ∈ codes := by simp [Ne.symm hsame]
      rw [if_neg hsame, ih hcodes]
      simp only [hmem]
      split <;> simp [hsame]

/-- Mentions one after the other leave each code where it comes first, with its last weight. -/
theorem foldl_mention (ranges : List LanguageRange) :
    ranges.foldl (fun list r => mention r list) [] = latest ranges := by
  induction ranges using List.reverseRecOn with
  | nil => rfl
  | append_singleton ranges r ih =>
    rw [List.foldl_append, List.foldl_cons, List.foldl_nil, ih, latest, mention_map (nodup_eraseDups _), latest,
      List.map_append, List.map_cons, List.map_nil, eraseDups_concat]
    exact List.map_congr_left fun c _ => by rw [lastWeight_concat]

/-- What is listed was there. -/
theorem mem_of_mem_latest {ranges : List LanguageRange} {r : LanguageRange} (h : r ∈ latest ranges) : r ∈ ranges := by
  obtain ⟨c, hc, rfl⟩ := List.mem_map.mp h
  rw [List.mem_eraseDups, List.mem_map] at hc
  obtain ⟨first, hfirst, rfl⟩ := hc
  have hne : ranges.filter (·.code = first.code) ≠ [] :=
    List.ne_nil_of_mem (List.mem_filter.mpr ⟨hfirst, by simp⟩)
  obtain ⟨last, hlast⟩ := Option.ne_none_iff_exists'.mp (mt List.getLast?_eq_none_iff.mp hne)
  obtain ⟨hmem, hcode⟩ := List.mem_filter.mp (List.mem_of_getLast? hlast)
  rw [decide_eq_true_eq] at hcode
  rw [lastWeight, hlast, Option.map_some, Option.getD_some, ← hcode]
  exact hmem

theorem nodup_codes_latest (ranges : List LanguageRange) : ((latest ranges).map code).Nodup := by
  have hcodes : (latest ranges).map code = (ranges.map code).eraseDups := by
    rw [latest, List.map_map]
    exact List.map_id _
  rw [hcodes]
  exact nodup_eraseDups _

/-! ## Sorting -/

/-- A list in descending order of weights in which the languages of each weight keep the order of `ranges`. -/
structure IsStableSort (ranges sorted : List LanguageRange) : Prop where
  descending : sorted.Pairwise fun a b => b.weight ≤ a.weight
  stable : ∀ w, sorted.filter (·.weight = w) = ranges.filter (·.weight = w)

variable {ranges sorted sorted' : List LanguageRange}

/-- Languages by descending weight. -/
def byWeight (a b : LanguageRange) : Bool := b.weight ≤ a.weight

theorem byWeight_trans (a b c : LanguageRange) (hab : byWeight a b = true) (hbc : byWeight b c = true) :
    byWeight a c = true := by
  simp only [byWeight, decide_eq_true_eq] at hab hbc ⊢
  omega

theorem byWeight_total (a b : LanguageRange) : (byWeight a b || byWeight b a) = true := by
  simp only [byWeight, Bool.or_eq_true, decide_eq_true_eq]
  omega

/-- Sorting by descending weight is stable: the languages of one weight are a part in order, and such a part stays. -/
theorem isStableSort_mergeSort (ranges : List LanguageRange) : IsStableSort ranges (ranges.mergeSort byWeight) where
  descending := (List.pairwise_mergeSort byWeight_trans byWeight_total ranges).imp of_decide_eq_true
  stable w := by
    have hpart : (ranges.filter (·.weight = w)).Pairwise fun a b => byWeight a b = true := by
      refine List.pairwise_of_forall_mem_list fun a ha b hb => ?_
      simp only [List.mem_filter, decide_eq_true_eq] at ha hb
      simp only [byWeight, decide_eq_true_eq]
      omega
    have hstays : (ranges.filter (·.weight = w)).Sublist (ranges.mergeSort byWeight) :=
      List.sublist_mergeSort byWeight_trans byWeight_total hpart List.filter_sublist
    have hfilter := hstays.filter (·.weight = w)
    rw [List.filter_filter] at hfilter
    simp only [Bool.and_self] at hfilter
    have hlength := ((List.mergeSort_perm ranges byWeight).filter (·.weight = w)).length_eq
    exact (hfilter.eq_of_length hlength.symm).symm

theorem mem_iff_of_filter_eq (hsame : ∀ w, sorted.filter (·.weight = w) = sorted'.filter (·.weight = w))
    (r : LanguageRange) : r ∈ sorted ↔ r ∈ sorted' := by
  have hfilter : r ∈ sorted.filter (·.weight = r.weight) ↔ r ∈ sorted'.filter (·.weight = r.weight) := by
    rw [hsame]
  simpa [List.mem_filter] using hfilter

/-- Two lists in descending order that have the same languages of each weight in the same order are the same: both
begin with the first language of the greatest weight. -/
theorem eq_of_filter_eq (h : sorted.Pairwise fun a b => b.weight ≤ a.weight)
    (h' : sorted'.Pairwise fun a b => b.weight ≤ a.weight)
    (hsame : ∀ w, sorted.filter (·.weight = w) = sorted'.filter (·.weight = w)) : sorted = sorted' := by
  have hmem := mem_iff_of_filter_eq hsame
  induction sorted generalizing sorted' with
  | nil =>
    cases sorted' with
    | nil => rfl
    | cons b bs => exact absurd ((hmem b).mpr List.mem_cons_self) List.not_mem_nil
  | cons a as ih =>
    cases sorted' with
    | nil => exact absurd ((hmem a).mp List.mem_cons_self) List.not_mem_nil
    | cons b bs =>
      obtain ⟨ha, has⟩ := List.pairwise_cons.mp h
      obtain ⟨hb, hbs⟩ := List.pairwise_cons.mp h'
      have hweight : a.weight = b.weight := by
        have hle : a.weight ≤ b.weight := by
          rcases List.mem_cons.mp ((hmem a).mp List.mem_cons_self) with rfl | hin
          · exact Nat.le_refl _
          · exact hb a hin
        have hge : b.weight ≤ a.weight := by
          rcases List.mem_cons.mp ((hmem b).mpr List.mem_cons_self) with rfl | hin
          · exact Nat.le_refl _
          · exact ha b hin
        omega
      have hfirst : a = b := by
        have heads := congrArg List.head? (hsame b.weight)
        rw [List.filter_cons_of_pos (by simp [hweight]), List.filter_cons_of_pos (by simp)] at heads
        exact Option.some.inj heads
      subst hfirst
      have hrest : ∀ w, as.filter (·.weight = w) = bs.filter (·.weight = w) := by
        intro w
        have hw := hsame w
        rw [List.filter_cons, List.filter_cons] at hw
        split at hw
        · exact (List.cons.inj hw).2
        · exact hw
      rw [ih has hbs hrest (mem_iff_of_filter_eq hrest)]

theorem IsStableSort.unique (h : IsStableSort ranges sorted) (h' : IsStableSort ranges sorted') : sorted = sorted' :=
  eq_of_filter_eq h.descending h'.descending fun w => (h.stable w).trans (h'.stable w).symm

end LanguageRange

end WikiGateway
