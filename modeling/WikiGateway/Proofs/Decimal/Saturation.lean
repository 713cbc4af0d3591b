import WikiGateway.Proofs.Decimal.Grammar
import WikiGateway.Proofs.Text.Digits

/-!
# Integers that 64 bits hold

An integral numeral is read digit by digit, and the reader stops when 64 bits do not hold what it has. A number only
moves away from zero as its digits are read, so that it stops just for those numbers that 64 bits do not hold
(`Numeral.readDigits?_eq`). The bound on the same side of zero is the nearest integer then, and the value of the text is
clamped (`Numeral.toInteger_eq`).

* `readInt_of_integral`, `readInt_of_no_prefix`: the integer that a text starts with.
-/

namespace WikiGateway

open Text

/-- The value of a decimal text with an optional sign. -/
def signedValue : List Char → Int
  | '-' :: digits => -(decimalValue digits : Int)
  | '+' :: digits => decimalValue digits
  | digits => decimalValue digits

/-- A magnitude on one side of zero. -/
def onSide (negative : Bool) (n : Nat) : Int := if negative then -(n : Int) else n

namespace Numeral

variable {negative : Bool} {n m digit : Nat}

theorem int64?_eq_some (h : minInt64 ≤ onSide negative n ∧ onSide negative n ≤ maxInt64) :
    int64? (onSide negative n) = some (onSide negative n) := if_pos h

theorem int64?_eq_none (h : ¬ (minInt64 ≤ onSide negative n ∧ onSide negative n ≤ maxInt64)) :
    int64? (onSide negative n) = none := if_neg h

/-- A number farther from zero on the same side is not held either. -/
theorem int64?_eq_none_of_le (h : int64? (onSide negative n) = none) (hle : n ≤ m) :
    int64? (onSide negative m) = none := by
  by_cases hn : minInt64 ≤ onSide negative n ∧ onSide negative n ≤ maxInt64
  · rw [int64?_eq_some hn] at h
    cases h
  · refine int64?_eq_none fun hm => hn ?_
    simp only [onSide, minInt64, maxInt64] at hm ⊢
    cases negative <;> simp only [if_true, if_false, Bool.false_eq_true] at hm ⊢ <;> omega

/-- One more digit: the detour by ten times the number stops at no number that the digit would bring back. -/
theorem pushDigit?_eq (negative : Bool) (n digit : Nat) :
    pushDigit? negative (onSide negative n) digit = int64? (onSide negative (n * 10 + digit)) := by
  have hshift : onSide negative n * 10 = onSide negative (n * 10) := by
    cases negative <;> simp [onSide]
  have hdigit : (if negative then onSide negative (n * 10) - digit else onSide negative (n * 10) + digit) =
      onSide negative (n * 10 + digit) := by
    cases negative <;> simp only [onSide, if_true, if_false, Bool.false_eq_true] <;> omega
  rw [pushDigit?, hshift]
  cases hfit : int64? (onSide negative (n * 10)) with
  | none => exact (int64?_eq_none_of_le hfit (Nat.le_add_right _ digit)).symm
  | some shifted =>
    rw [int64?, Option.ite_none_right_eq_some] at hfit
    rw [Option.bind_some, ← Option.some.inj hfit.2, hdigit]

/-- The digits give what 64 bits hold of the number that they stand for. -/
theorem readDigits?_eq {cs : List Char} (h : int64? (onSide negative n) = some (onSide negative n)) :
    readDigits? negative (onSide negative n) cs = int64? (onSide negative (n * 10 ^ cs.length + decimalValue cs)) := by
  induction cs generalizing n with
  | nil => simpa [readDigits?] using h.symm
  | cons c cs ih =>
    have hvalue : n * 10 ^ (c :: cs).length + decimalValue (c :: cs) =
        (n * 10 + (c.toNat - '0'.toNat)) * 10 ^ cs.length + decimalValue cs := by
      rw [decimalValue_cons, List.length_cons, pow_succ]
      ring
    rw [readDigits?, pushDigit?_eq, hvalue]
    cases hfit : int64? (onSide negative (n * 10 + (c.toNat - '0'.toNat))) with
    | none =>
      refine (int64?_eq_none_of_le hfit ?_).symm
      have hpos : 0 < 10 ^ cs.length := Nat.pow_pos (by decide)
      have hle := Nat.le_mul_of_pos_right (n * 10 + (c.toNat - '0'.toNat)) hpos
      omega
    | some next =>
      have hnext := hfit
      rw [int64?, Option.ite_none_right_eq_some, Option.some.injEq] at hnext
      rw [Option.bind_some, ← hnext.2]
      exact ih (hnext.2 ▸ hfit)

/-- An integral numeral has the value of its digits, clamped. -/
theorem toInteger_eq (n : Numeral) : n.toInteger = clampInt64 (onSide n.isNegative (decimalValue n.whole)) := by
  have hzero : onSide n.isNegative 0 = 0 := by cases n.isNegative <;> rfl
  have hread : readDigits? n.isNegative 0 n.whole = int64? (onSide n.isNegative (decimalValue n.whole)) := by
    have hstart : int64? (onSide n.isNegative 0) = some (onSide n.isNegative 0) := by
      rw [hzero]
      rfl
    have hdigits : readDigits? n.isNegative (onSide n.isNegative 0) n.whole =
        int64? (onSide n.isNegative (0 * 10 ^ n.whole.length + decimalValue n.whole)) := readDigits?_eq hstart
    rwa [hzero, Nat.zero_mul, Nat.zero_add] at hdigits
  rw [toInteger, hread]
  by_cases hfit : minInt64 ≤ onSide n.isNegative (decimalValue n.whole) ∧
      onSide n.isNegative (decimalValue n.whole) ≤ maxInt64
  · rw [int64?_eq_some hfit, Option.getD_some, clampInt64_of_bounds hfit.1 hfit.2]
  · rw [int64?_eq_none hfit, Option.getD_none]
    simp only [onSide, clampInt64, minInt64, maxInt64] at hfit ⊢
    cases n.isNegative <;> simp only [if_true, if_false, Bool.false_eq_true] at hfit ⊢ <;> omega

/-- The value of an integral numeral is that of its text. -/
theorem signedValue_text {n : Numeral} (h : n.IsWellFormed) (hintegral : n.isIntegral = true) :
    signedValue n.text = onSide n.isNegative (decimalValue n.whole) := by
  rw [isIntegral, Bool.and_eq_true, Option.isNone_iff_eq_none, Option.isNone_iff_eq_none] at hintegral
  have htext : n.text = Sign.text n.sign ++ n.whole := by
    rw [text_eq, hintegral.1, hintegral.2]
    simp [fractionText, exponentText]
  rw [htext, isNegative]
  cases hsign : n.sign with
  | some sign => cases sign <;> rfl
  | none =>
    rw [Sign.text, List.nil_append]
    unfold signedValue
    split
    · rename_i digits hwhole
      have hbad := h.whole '-' (hwhole ▸ List.mem_cons_self)
      cases hbad
    · rename_i digits hwhole
      have hbad := h.whole '+' (hwhole ▸ List.mem_cons_self)
      cases hbad
    · rfl

end Numeral

/-! ## Reading any text -/

variable {s : String} {text : List Char}

/-- The integer of a text that starts with an integral numeral is the value of the numeral, clamped. -/
theorem readInt_of_integral (h : numericPrefix s = (text, true)) (hne : text ≠ []) :
    readInt s = clampInt64 (signedValue text) := by
  rw [numericPrefix] at h
  cases hscan : Numeral.scan s.toList with
  | none =>
    rw [hscan] at h
    exact absurd (congrArg Prod.fst h).symm hne
  | some n =>
    rw [hscan, Option.map_some, Option.getD_some, Prod.mk.injEq] at h
    obtain ⟨rfl, hintegral⟩ := h
    have hn := (Numeral.of_take? hscan).1
    rw [readInt, hscan, Option.map_some, Option.getD_some, Numeral.toInt, if_pos hintegral, Numeral.toInteger_eq,
      Numeral.signedValue_text hn hintegral]

/-- A text that does not start with a numeral reads as zero. -/
theorem readInt_of_no_prefix (h : (numericPrefix s).1 = []) : readInt s = 0 := by
  rw [numericPrefix] at h
  cases hscan : Numeral.scan s.toList with
  | none => rw [readInt, hscan, Option.map_none, Option.getD_none]
  | some n =>
    rw [hscan] at h
    exact absurd h (Numeral.of_take? hscan).1.text_ne_nil

end WikiGateway
