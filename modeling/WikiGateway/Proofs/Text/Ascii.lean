import Mathlib
import WikiGateway.Text.Chars

/-!
# Letters of ASCII

Letters and digits are ASCII (`toNat_lt_of_isAlphanum`), and only letters have a case.

* `lowerAscii_upperAscii`, `upperAscii_lowerAscii`: the last change of case counts.
* `upperAscii_eq_iff`: texts that differ in case only are the same in upper case just if they are in lower case.
* `eqIgnoreCase_congr`: texts that differ in case only are compared alike.
-/

namespace WikiGateway.Text

theorem toNat_lt_of_isAlphanum {c : Char} (h : c.isAlphanum = true) : c.toNat < 128 := by
  simp only [Char.isAlphanum, Char.isAlpha, Char.isUpper, Char.isLower, Char.isDigit, Bool.or_eq_true,
    Bool.and_eq_true, decide_eq_true_eq, ge_iff_le, UInt32.le_iff_toNat_le] at h
  have hval : c.toNat = c.val.toNat := rfl
  have hZ : 'Z'.val.toNat = 90 := rfl
  have hz : 'z'.val.toNat = 122 := rfl
  have hnine : '9'.val.toNat = 57 := rfl
  omega

@[simp] theorem lowerAscii_upperAscii (s : String) : lowerAscii (upperAscii s) = lowerAscii s := by
  simp only [lowerAscii, upperAscii, String.toList_ofList, List.map_map]
  congr 1
  exact List.map_congr_left fun c _ => Char.toLower_toUpper_eq_toLower c

@[simp] theorem upperAscii_lowerAscii (s : String) : upperAscii (lowerAscii s) = upperAscii s := by
  simp only [lowerAscii, upperAscii, String.toList_ofList, List.map_map]
  congr 1
  exact List.map_congr_left fun c _ => Char.toUpper_toLower_eq_toUpper c

@[simp] theorem upperAscii_upperAscii (s : String) : upperAscii (upperAscii s) = upperAscii s := by
  simp only [upperAscii, String.toList_ofList, List.map_map]
  congr 1
  exact List.map_congr_left fun c _ => Char.toUpper_toUpper_eq_toUpper c

/-- A change of case makes no difference where case is ignored. -/
@[simp] theorem eqIgnoreCase_lowerAscii (a b : String) : eqIgnoreCase (lowerAscii a) b = eqIgnoreCase a b := by
  have hidem : a.toList.map (Char.toLower ∘ Char.toLower) = a.toList.map Char.toLower :=
    List.map_congr_left fun c _ => Char.toLower_toLower_eq_toLower c
  rw [eqIgnoreCase, lowerAscii, String.toList_ofList, List.map_map, hidem, eqIgnoreCase]

/-- Texts that differ in case only are alike to all others. -/
theorem eqIgnoreCase_congr {a b : String} (h : eqIgnoreCase a b = true) (other : String) :
    eqIgnoreCase other a = eqIgnoreCase other b := by
  rw [eqIgnoreCase, beq_iff_eq] at h
  rw [eqIgnoreCase, eqIgnoreCase, h]

/-- Texts are the same in upper case just if they are in lower case. -/
theorem upperAscii_eq_iff {a b : String} : upperAscii a = upperAscii b ↔ lowerAscii a = lowerAscii b := by
  constructor <;> intro h
  · rw [← lowerAscii_upperAscii a, h, lowerAscii_upperAscii]
  · rw [← upperAscii_lowerAscii a, h, upperAscii_lowerAscii]

end WikiGateway.Text
