import Mathlib.Data.Option.Basic
import WikiGateway.Text.Clean

/-!
# Text that normalization leaves alone

The packed tables are read here once more by a function that uses up the text from the front (`readNumbers`), so that
what they hold can be computed. The character U+FFFD is in none of them. It is as stable as the characters below U+0300
are, so that a text of such characters is recognised as normal at once (`isQuickNfc_of_settled`).
-/

namespace WikiGateway.Unicode

/-! ## Reading packed tables -/

/-- The numbers of a packed text, where `current` is the number under way. -/
def readNumbers : Option Nat → List Char → List Nat
  | current, [] => current.toList
  | current, c :: cs =>
    if c = ' ' ∨ c = '\n' then current.toList ++ readNumbers none cs
    else readNumbers (some (current.getD 0 * 36 + digit36 c)) cs

/-- The numbers are read from the front as they are from the end. -/
theorem foldl_numberStep (cs : List Char) (before : List Nat) (current : Option Nat) :
    ((cs.foldl numberStep (before, current)).2.toList ++ (cs.foldl numberStep (before, current)).1).reverse =
      before.reverse ++ readNumbers current cs := by
  induction cs generalizing before current with
  | nil => cases current <;> simp [readNumbers]
  | cons c cs ih =>
    rw [List.foldl_cons, readNumbers]
    by_cases hblank : c = ' ' ∨ c = '\n'
    · rw [if_pos hblank]
      cases current with
      | none =>
        have hstep : numberStep (before, none) c = (before, none) := by rw [numberStep, if_pos hblank]
        rw [hstep, ih]
        rfl
      | some n =>
        have hstep : numberStep (before, some n) c = (n :: before, none) := by rw [numberStep, if_pos hblank]
        rw [hstep, ih, List.reverse_cons, List.append_assoc]
        rfl
    · have hstep : numberStep (before, current) c = (before, some (current.getD 0 * 36 + digit36 c)) := by
        rw [numberStep, if_neg hblank]
      rw [if_neg hblank, hstep, ih]

theorem numbers_ofList (cs : List Char) : numbers (String.ofList cs) = readNumbers none cs := by
  have hread := foldl_numberStep cs [] none
  rw [numbers, String.toList_ofList]
  exact hread

/-- A test of the numbers of a packed text may read them from the front. -/
theorem of_readNumbers {text : String} {cs : List Char} {p : List Nat → Bool} (htext : text = String.ofList cs)
    (h : p (readNumbers none cs) = true) : p (numbers text) = true := by
  rw [htext, numbers_ofList]
  exact h

/-- A code point outside of all ranges is not found. -/
theorem RangeTable.find?_eq_none {α : Type} {table : RangeTable α} {n : Nat}
    (h : ∀ r ∈ table, n < r.first ∨ r.last < n) : table.find? n = none := by
  have hbetween : ∀ lo hi, findBetween table n lo hi = none := by
    intro lo hi
    fun_induction findBetween table n lo hi with
    | case1 => rfl
    | case2 lo hi hlt r hr hfirst ih => exact ih
    | case3 lo hi hlt r hr hfirst hlast ih => exact ih
    | case4 lo hi hlt r hr hfirst hlast =>
      rcases h r (Array.mem_of_getElem? hr) with hout | hout
      · exact absurd hout hfirst
      · exact absurd hout hlast
    | case5 => rfl
  exact hbetween 0 table.size

/-! ## The replacement character -/

section
set_option maxRecDepth 100000

theorem replacement_ne_singleton :
    (singletonsFrom 0 (numbers CanonicalData.singletons)).all (fun entry => entry.1 != 0xFFFD) = true :=
  of_readNumbers (p := fun ns => (singletonsFrom 0 ns).all fun entry => entry.1 != 0xFFFD) rfl (by decide +kernel)

theorem replacement_ne_exclusion :
    (expansionsFrom 0 (numbers CanonicalData.exclusions)).all (fun entry => entry.1 != 0xFFFD) = true :=
  of_readNumbers (p := fun ns => (expansionsFrom 0 ns).all fun entry => entry.1 != 0xFFFD) rfl (by decide +kernel)

theorem replacement_ne_second : compositePairs.all (fun pair => pair.2.2 != 0xFFFD) = true :=
  of_readNumbers (p := fun ns => (pairsFrom 0 ns).all fun pair => pair.2.2 != 0xFFFD) rfl (by decide +kernel)

theorem replacement_in_no_class : (valuedRangesFrom 0 (numbers CanonicalData.classes)).all
    (fun r => decide (0xFFFD < r.first ∨ r.last < 0xFFFD)) = true :=
  of_readNumbers (p := fun ns => (valuedRangesFrom 0 ns).all fun r => decide (0xFFFD < r.first ∨ r.last < 0xFFFD)) rfl
    (by decide +kernel)

end

theorem combiningClass_replacement : combiningClass '\uFFFD' = 0 := by
  have hnone : classTable.find? 0xFFFD = none := by
    refine RangeTable.find?_eq_none fun r hr => ?_
    have hall := List.all_eq_true.mp replacement_in_no_class r (List.mem_toArray.mp hr)
    exact of_decide_eq_true hall
  rw [combiningClass, if_neg (by decide)]
  show (classTable.find? 0xFFFD).getD 0 = 0
  rw [hnone]
  rfl

/-- A key that none of the entries has is not in the table made of them. -/
theorem contains_ofList_eq_false {α : Type} {entries : List (Nat × α)} {n : Nat}
    (h : entries.all (fun entry => entry.1 != n) = true) : (Std.HashMap.ofList entries).contains n = false := by
  rw [Std.HashMap.contains_ofList, Bool.eq_false_iff, ne_eq, List.contains_iff_mem, List.mem_map]
  rintro ⟨entry, hmem, hkey⟩
  have hne := List.all_eq_true.mp h entry hmem
  rw [hkey, bne_self_eq_false] at hne
  cases hne

theorem isStable_replacement : isStable '\uFFFD' = true := by
  have hone : oneWayMappings.contains 0xFFFD = false := by
    refine contains_ofList_eq_false ?_
    rw [List.all_append, replacement_ne_singleton, replacement_ne_exclusion, Bool.and_self]
  have hsecond : secondOfPair.contains 0xFFFD = false := by
    refine contains_ofList_eq_false ?_
    rw [List.all_map]
    exact replacement_ne_second
  have hvalue : '\uFFFD'.toNat = 0xFFFD := rfl
  simp only [isStable, hvalue, hone, hsecond]
  decide

/-- A character that normalization leaves alone whatever stands beside it: one below U+0300, or the replacement
character. -/
def IsSettled (c : Char) : Prop := c.toNat < 0x300 ∨ c = '\uFFFD'

theorem isQuickNfc_of_settled {cs : List Char} (h : ∀ c ∈ cs, IsSettled c) : isQuickNfc cs = true := by
  have hfrom : isQuickNfcFrom 0 cs = true := by
    induction cs with
    | nil => rfl
    | cons c cs ih =>
      obtain ⟨hc, hcs⟩ := List.forall_mem_cons.mp h
      have hboth : combiningClass c = 0 ∧ isStable c = true := by
        rcases hc with hlow | rfl
        · exact ⟨if_pos hlow, by simp [isStable, hlow]⟩
        · exact ⟨combiningClass_replacement, isStable_replacement⟩
      rw [isQuickNfcFrom, hboth.1, hboth.2, ih hcs]
      rfl
  exact hfrom

end WikiGateway.Unicode
